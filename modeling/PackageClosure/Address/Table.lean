import PackageClosure.Json
import PackageClosure.OrderedMap

set_option autoImplicit false

namespace PackageClosure

structure Binding where
  address : String
  package : String
deriving DecidableEq, Repr

structure Conflict where
  symbol : String
  kept : String
  ignored : String
  package : String
deriving DecidableEq, Repr

structure AddressTable where
  bindings : OrderedMap Binding
  conflicts : List Conflict
deriving DecidableEq

structure Declaration where
  symbol : String
  address : String
  package : String
deriving DecidableEq, Repr

namespace AddressTable

def empty : AddressTable := ⟨∅, []⟩

def binding? (table : AddressTable) (symbol : String) : Option Binding :=
  table.bindings.get? symbol

def get? (table : AddressTable) (symbol : String) : Option String :=
  (table.binding? symbol).map Binding.address

def size (table : AddressTable) : Nat := table.bindings.size

def bind (table : AddressTable) (declaration : Declaration) : AddressTable :=
  match table.binding? declaration.symbol with
  | none =>
      { table with
        bindings := table.bindings.insertNew declaration.symbol
          ⟨declaration.address, declaration.package⟩ }
  | some existing =>
      if existing.address = declaration.address then table
      else
        { table with
          conflicts := table.conflicts ++
            [⟨declaration.symbol, existing.address, declaration.address, declaration.package⟩] }

def bindAll (table : AddressTable) (declarations : List Declaration) : AddressTable :=
  declarations.foldl bind table

-- Symbols with their addresses, in the order in which they were bound.
def pairs (table : AddressTable) : List (String × String) :=
  table.bindings.entries.map fun entry => (entry.1, entry.2.address)

def bindingJson (binding : Binding) : Json :=
  .object [("address", .string binding.address), ("package", .string binding.package)]

def conflictJson (conflict : Conflict) : Json :=
  .object
    [("symbol", .string conflict.symbol), ("kept", .string conflict.kept),
      ("ignored", .string conflict.ignored), ("package", .string conflict.package)]

def json (table : AddressTable) : Json :=
  let bindings := table.bindings.entries.map fun entry => (entry.1, bindingJson entry.2)
  .object <|
    ("bindings", .object bindings) ::
      if table.conflicts.isEmpty then []
      else [("conflicts", .array (table.conflicts.map conflictJson))]

end AddressTable

end PackageClosure
