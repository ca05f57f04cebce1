import PackageClosure.Toml.Inline
import PackageClosure.Toml.Reserved

set_option autoImplicit false

namespace PackageClosure.Toml

open Scanner

inductive Statement where
  | entry (key : Key) (value : Value)
  | header (key : Key)
  | arrayHeader (key : Key)

namespace Statement

def lineEnd : Scanner Unit := do
  blanks
  let _ ← optional comment
  lineBreak <|> atEnd

def readHeader : Scanner Statement := do
  char '['
  if (← next?) = some '[' then
    char '['
    let key ← Key.read
    chars [']', ']']
    return .arrayHeader key
  else
    let key ← Key.read
    char ']'
    return .header key

def readEntry : Scanner Statement := do
  let key ← Key.read
  char '='
  blanks
  return .entry key (← Value.read nestingLimit)

def readLine : Scanner (Option Statement) := do
  blanks
  match ← next? with
  | some '[' =>
      let statement ← readHeader
      lineEnd
      return some statement
  | some '#' =>
      lineEnd
      return none
  | some '\n' | some '\r' =>
      lineBreak
      return none
  | _ =>
      let statement ← readEntry
      lineEnd
      return some statement

def readAll (text : List Char) : Option (List Statement) :=
  let body := if text.head? = some '\uFEFF' then text.tail else text
  (whole (do let lines ← many readLine; blanks; return lines) body).map (·.filterMap id)

end Statement

inductive Origin where
  | header
  | above
  | dotted
deriving DecidableEq

inductive Item where
  | value (value : Value)
  | table (origin : Origin) (entries : List (String × Item))
  | tables (elements : List (List (String × Item)))

namespace Item

abbrev Entries := List (String × Item)

def replace (entries : Entries) (name : String) (item : Item) : Entries :=
  entries.map fun entry => if entry.1 = name then (name, item) else entry

-- Adds an entry to a table. The tables that its key names are found or made on the way: none of
-- them may have a header of its own, and the last one has to come from such keys too.
def addEntry (direct : Bool) (entries : Entries) (key : Key) (value : Value) : Option Entries :=
  match key with
  | [] => none
  | [last] =>
      if !direct || (entries.lookup last).isSome then none
      else some (entries ++ [(last, .value value)])
  | part :: next :: more =>
      match entries.lookup part with
      | none => do
          return entries ++ [(part, .table .dotted (← addEntry true [] (next :: more) value))]
      | some (.value _) => none
      | some (.table origin inner) => do
          if origin = .header then none
          let extended ← addEntry (origin = .dotted) inner (next :: more) value
          return replace entries part (.table origin extended)
      | some (.tables elements) => do
          let extended ← addEntry false (elements.getLastD []) (next :: more) value
          return replace entries part (.tables (elements.dropLast ++ [extended]))

-- Changes the table in which a header's last part stands. Missing tables on the way are made,
-- and an array of tables stands for its last element.
def within (change : String → Entries → Option Entries) (entries : Entries) (key : Key) :
    Option Entries :=
  match key with
  | [] => none
  | [last] => change last entries
  | part :: next :: more =>
      match entries.lookup part with
      | none => do
          return entries ++ [(part, .table .above (← within change [] (next :: more)))]
      | some (.value _) => none
      | some (.table origin inner) => do
          let changed ← within change inner (next :: more)
          return replace entries part (.table origin changed)
      | some (.tables elements) => do
          let changed ← within change (elements.getLastD []) (next :: more)
          return replace entries part (.tables (elements.dropLast ++ [changed]))

def addEntries (entries : Entries) (body : List (Key × Value)) : Option Entries :=
  body.foldlM (fun entries line => addEntry true entries line.1 line.2) entries

-- A table with a header stands where its header does, also if it was above others before.
def addTable (body : List (Key × Value)) (name : String) (entries : Entries) : Option Entries := do
  let earlier ←
    match entries.lookup name with
    | none => some []
    | some (.table .above earlier) => some earlier
    | some _ => none
  let filled ← addEntries earlier body
  return entries.filter (·.1 ≠ name) ++ [(name, .table .header filled)]

def addElement (body : List (Key × Value)) (name : String) (entries : Entries) :
    Option Entries := do
  let filled ← addEntries [] body
  match entries.lookup name with
  | none => return entries ++ [(name, .tables [filled])]
  | some (.tables elements) => return replace entries name (.tables (elements ++ [filled]))
  | some _ => none

mutual
def toValue : Item → Value
  | .value held => held
  | .table _ entries => .table (toTable entries)
  | .tables elements => .array (toArray elements)

def toTable : List (String × Item) → List (String × Value)
  | [] => []
  | (name, item) :: rest => (name, toValue item) :: toTable rest

def toArray : List (List (String × Item)) → List Value
  | [] => []
  | entries :: rest => .table (toTable entries) :: toArray rest
end

end Item

structure Section where
  key : Key
  ofArray : Bool
  body : List (Key × Value)

namespace Document

def sections : List Statement → List (Key × Value) × List Section
  | [] => ([], [])
  | .entry key value :: rest =>
      let (body, below) := sections rest
      ((key, value) :: body, below)
  | .header key :: rest =>
      let (body, below) := sections rest
      ([], ⟨key, false, body⟩ :: below)
  | .arrayHeader key :: rest =>
      let (body, below) := sections rest
      ([], ⟨key, true, body⟩ :: below)

def addSection (entries : Item.Entries) (added : Section) : Option Item.Entries :=
  let change := if added.ofArray then Item.addElement added.body else Item.addTable added.body
  Item.within change entries added.key

def ofStatements (statements : List Statement) : Option Table := do
  let (body, below) := sections statements
  return Item.toTable (← below.foldlM addSection (← Item.addEntries [] body))

end Document

-- What a TOML text holds, if it is one: a table, unless it begins with the reserved key.
def parse? (text : String) : Option Value := do
  Value.withDates (.table (← Document.ofStatements (← Statement.readAll text.toList)))

end PackageClosure.Toml
