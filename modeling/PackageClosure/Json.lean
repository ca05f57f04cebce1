import PackageClosure.Path.Raw

set_option autoImplicit false

namespace PackageClosure

inductive Json where
  | null
  | bool (value : Bool)
  | number (spelling : String)
  | string (text : String)
  | array (items : List Json)
  | object (fields : List (String × Json))
  -- A path that is no text. Writing ends where it stands.
  | unwritable
deriving Inhabited

namespace Json

def path (path : Path) : Json := if path.IsText then .string path.shown else .unwritable

def escape (c : Char) : List Char :=
  if c = '"' then ['\\', '"']
  else if c = '\\' then ['\\', '\\']
  else if c = '\x08' then ['\\', 'b']
  else if c = '\x0c' then ['\\', 'f']
  else if c = '\n' then ['\\', 'n']
  else if c = '\r' then ['\\', 'r']
  else if c = '\t' then ['\\', 't']
  else if c.toNat < 0x20 then
    ['\\', 'u', '0', '0', Nat.digitChar (c.toNat / 16), Nat.digitChar (c.toNat % 16)]
  else [c]

def quote (text : String) : String :=
  String.ofList ('"' :: text.toList.flatMap escape ++ ['"'])

-- What stands for a value that cannot be written; nothing else is written with this character.
def mark : Char := '\x00'

mutual
def compact : Json → String
  | .null => "null"
  | .bool value => if value then "true" else "false"
  | .number spelling => spelling
  | .string text => quote text
  | .array items => "[" ++ ",".intercalate (compactItems items) ++ "]"
  | .object fields => "\x7b" ++ ",".intercalate (compactFields fields) ++ "\x7d"
  | .unwritable => mark.toString

def compactItems : List Json → List String
  | [] => []
  | item :: rest => compact item :: compactItems rest

def compactFields : List (String × Json) → List String
  | [] => []
  | (key, value) :: rest => (quote key ++ ":" ++ compact value) :: compactFields rest
end

def indent (depth : Nat) : String := String.ofList (List.replicate (2 * depth) ' ')

def block (depth : Nat) (opening closing : String) (lines : List String) : String :=
  match lines with
  | [] => opening ++ closing
  | _ =>
      opening ++ "\n" ++ ",\n".intercalate (lines.map (indent (depth + 1) ++ ·)) ++ "\n" ++
        indent depth ++ closing

mutual
def prettyAt (depth : Nat) : Json → String
  | .array items => block depth "[" "]" (prettyItems (depth + 1) items)
  | .object fields => block depth "\x7b" "\x7d" (prettyFields (depth + 1) fields)
  | leaf => compact leaf

def prettyItems (depth : Nat) : List Json → List String
  | [] => []
  | item :: rest => prettyAt depth item :: prettyItems depth rest

def prettyFields (depth : Nat) : List (String × Json) → List String
  | [] => []
  | (key, value) :: rest => (quote key ++ ": " ++ prettyAt depth value) :: prettyFields depth rest
end

def pretty (json : Json) : String := prettyAt 0 json

def isWritable (json : Json) : Bool := !json.pretty.toList.contains mark

def beginning (json : Json) : String := String.ofList (json.pretty.toList.takeWhile (· ≠ mark))

end Json

end PackageClosure
