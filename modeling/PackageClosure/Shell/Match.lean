import PackageClosure.Shell.Pattern
import PackageClosure.Shell.State

set_option autoImplicit false

namespace PackageClosure.Shell

namespace Match

def isSlash (c : Marked) : Bool := c.1 = '/'

def isPattern (text : List Marked) : Bool :=
  text.any fun c => !c.2 && (c.1 = '*' || c.1 = '?' || c.1 = '[')

def plain (text : List Marked) : String := String.ofList (text.map Prod.fst)

def pieces (text : List Marked) : List (List Marked) :=
  text.foldr (fun c parts =>
    match isSlash c, parts with
    | false, first :: more => (c :: first) :: more
    | _, _ => [] :: parts) [[]]

def namesAt (state : State) (path : String) (pattern : List Marked) : List String :=
  let directory : Path := ⟨if path = "" then "." else path⟩
  match state.disk.find state.current true directory with
  | .ok ⟨place, some (.directory _)⟩ =>
      let hidden := pattern.head?.any (·.1 = '.')
      let names := [".", ".."] ++ (state.disk.namesIn place).map Name.text
      names.filter fun name =>
        (hidden || !name.startsWith ".") &&
          Pattern.covers (Pattern.ofCharacters pattern) name.toList
  | _ => []

def pathsFrom (state : State) (path : String) : List (List Marked) → List String
  | [] =>
      match state.disk.find state.current false ⟨path⟩ with
      | .ok ⟨_, some _⟩ => [path]
      | _ => []
  | piece :: rest =>
      let slash := if rest.isEmpty then "" else "/"
      if isPattern piece then
        (namesAt state path piece).flatMap fun name => pathsFrom state (path ++ name ++ slash) rest
      else pathsFrom state (path ++ plain piece ++ slash) rest

def paths (state : State) (field : List Marked) : List String :=
  if isPattern field then
    match pathsFrom state "" (pieces field) with
    | [] => [plain field]
    | found => found.mergeSort Text.rawLe
  else [plain field]

end Match

end PackageClosure.Shell
