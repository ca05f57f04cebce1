import PackageClosure.Text.Split

set_option autoImplicit false

namespace PackageClosure

inductive Argument where
  | separator
  | long (name : String) (value : Option String)
  | letters (letters : List Char)
  | plain
deriving DecidableEq, Repr

def Argument.read (text : String) : Argument :=
  match text.toList with
  | ['-', '-'] => .separator
  | '-' :: '-' :: rest =>
      match Text.splitFirst '=' rest with
      | some (name, value) => .long (String.ofList name) (some (String.ofList value))
      | none => .long (String.ofList rest) none
  | '-' :: first :: rest => .letters (first :: rest)
  | _ => .plain

end PackageClosure
