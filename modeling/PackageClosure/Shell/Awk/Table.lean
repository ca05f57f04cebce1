import PackageClosure.Shell.Awk.Value

set_option autoImplicit false

namespace PackageClosure.Shell.Awk

inductive Key where
  | number (value : Int)
  | name (text : Text)

def Key.text : Key → Text
  | .number value => (toString value).toList
  | .name text => text

structure Table where
  entries : List (Text × Value)
  width : Nat
  named : Array (List Text)
  numbered : Array (List Int)
  byName : Bool
  isSplit : Bool

namespace Table

def startWidth : Nat := 64

def mostPerList : Nat := 12

def empty : Table :=
  ⟨[], startWidth, Array.replicate startWidth [], Array.replicate startWidth [], false, false⟩

def size (table : Table) : Nat := table.entries.length

def get? (table : Table) (name : Text) : Option Value := table.entries.lookup name

def put (table : Table) (name : Text) (value : Value) : Table :=
  { table with
    entries := table.entries.map fun entry => if entry.1 = name then (name, value) else entry }

def hash (name : Text) : Nat :=
  (name.foldl (fun (sum : UInt32) c => (sum ^^^ UInt32.ofNat c.toNat) * 16777619) 2166136261).toNat

def listOf (table : Table) (name : Text) : Nat := hash name % table.width

def listOfNumber (table : Table) (value : Int) : Nat := (value % table.width).toNat

def unsplit (table : Table) : Table :=
  if !table.isSplit then table
  else
    let count := table.size
    let width := (List.range 32).foldl (fun width _ =>
      if width * mostPerList < count then 2 * width else width) startWidth
    let numbers : List Int := (List.range count).map fun index => Int.ofNat (index + 1)
    let start : Array (List Int) := Array.replicate width []
    let numbered := numbers.foldl (fun lists number =>
      lists.modify (number % width).toNat (number :: ·)) start
    { table with
      width := width, named := Array.replicate width [], numbered, isSplit := false }

def withNames (table : Table) : Table :=
  let table := table.unsplit
  if table.byName then table
  else
    let names := (table.numbered.toList.flatten).map fun value => (Key.number value).text
    let named := names.foldl (fun lists name =>
      lists.modify (hash name % table.width) (name :: ·)) table.named
    { table with named, byName := true }

-- Twice as many lists. The elements of each list keep their order.
def doubled (table : Table) : Table :=
  let width := 2 * table.width
  let lists (array : Array (List Text)) (keep : Nat → Text → Bool) : List (List Text) :=
    array.toList.zipIdx.map fun (list, index) => list.filter (keep index)
  let numberLists (keep : Nat → Int → Bool) : List (List Int) :=
    table.numbered.toList.zipIdx.map fun (list, index) => list.filter (keep index)
  let stays (index : Nat) (name : Text) : Bool := hash name % width = index
  let numberStays (index : Nat) (value : Int) : Bool := (value % width).toNat = index
  { table with
    width
    named := (lists table.named stays ++
      lists table.named fun index name => !stays index name).toArray
    numbered := (numberLists numberStays ++
      numberLists fun index value => !numberStays index value).toArray }

def grown (table : Table) : Table :=
  if table.width * mostPerList < table.size + 1 then table.doubled else table

def toFront {α : Type} [DecidableEq α] (element : α) (list : List α) : List α :=
  element :: list.filter (· ≠ element)

def findName (table : Table) (make : Bool) (name : Text) : Option Value × Table :=
  let table := table.withNames
  match table.get? name with
  | some value =>
      (some value, { table with named := table.named.modify (table.listOf name) (toFront name) })
  | none =>
      if !make then (none, table)
      else
        let table := table.grown
        (some .unset,
          { table with
            entries := table.entries ++ [(name, .unset)]
            named := table.named.modify (table.listOf name) (name :: ·) })

def findNumber (table : Table) (make : Bool) (value : Int) : Option Value × Table :=
  let name := (Key.number value).text
  let inFront (table : Table) : Table :=
    { table with numbered := table.numbered.modify (table.listOfNumber value) (toFront value) }
  if table.isSplit && (table.get? name).isSome then (table.get? name, table)
  else if table.isSplit && !make then (none, table)
  else
    let table := table.unsplit
    if (table.numbered.getD (table.listOfNumber value) []).contains value then
      (table.get? name, inFront table)
    else if table.byName then
      match table.findName make name with
      | (some found, table) => (some found, inFront table)
      | (none, table) => (none, table)
    else if make then
      let table := table.grown
      (some .unset, inFront { table with entries := table.entries ++ [(name, .unset)] })
    else (none, table)

-- Looks an element up. An array without elements is left as it is if none has to be made.
def find (table : Table) (make : Bool) : Key → Option Value × Table
  | .number value =>
      if table.entries.isEmpty && !make then (none, table) else table.findNumber make value
  | .name text =>
      if table.entries.isEmpty && !make then (none, table) else table.findName make text

def assign (table : Table) (key : Key) (value : Value) : Table :=
  ((table.find true key).2).put key.text value

def erase (table : Table) (key : Key) : Table :=
  match table.find false key with
  | (none, table) => table
  | (some _, table) =>
      let table := match key with
        | .number _ => table.unsplit
        | .name _ => table
      let name := key.text
      let rest := table.entries.filter (·.1 ≠ name)
      if rest.isEmpty then empty
      else
        { table with
          entries := rest
          named := table.named.modify (table.listOf name) (·.filter (· ≠ name))
          numbered := table.numbered.map fun list =>
            list.filter fun value => (Key.number value).text ≠ name }

def ofParts (parts : List Value) : Table :=
  if parts.isEmpty then empty
  else
    { empty with
      entries := parts.zipIdx.map fun (part, index) => ((toString (index + 1)).toList, part)
      isSplit := true }

def names (table : Table) : List Text × Table :=
  if table.entries.isEmpty then ([], table)
  else
    let table := table.withNames
    (table.named.toList.flatten, table)

end Table

end PackageClosure.Shell.Awk
