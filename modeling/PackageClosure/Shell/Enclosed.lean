set_option autoImplicit false

namespace PackageClosure.Shell

inductive Opened where
  | round (cases : Nat) (awaited : List (List Char × Bool))
  | curly (quoted : Bool)
  | double
  | single
  | back
  | comment
  | document (mark : List Char) (tabs : Bool)
deriving DecidableEq

namespace Opened

def isBoundary (c : Char) : Bool := " \t\n;&|()".toList.contains c

def startsWord (word : String) (text : List Char) : Bool :=
  word.toList.isPrefixOf text && ((text.drop word.length).head?).all isBoundary

def plainStep (c : Char) (dollar : Bool) (quotes : Bool) (stack : List Opened) : List Opened :=
  match c with
  | '\'' => if quotes then .single :: stack else stack
  | '"' => .double :: stack
  | '\x60' => .back :: stack
  | '(' => .round 0 [] :: stack
  | '\x7b' => if dollar then .curly (!quotes) :: stack else stack
  | _ => stack

def documentMark? : List Char → Option (List Char × Bool)
  | '<' :: '<' :: rest =>
      let tabs := rest.head? = some '-'
      let word := (if tabs then rest.drop 1 else rest).dropWhile fun c => c = ' ' || c = '\t'
      let spelled := word.takeWhile fun c => !isBoundary c && c ≠ '<' && c ≠ '>'
      let mark := spelled.filter fun c => c ≠ '\'' && c ≠ '"' && c ≠ '\\'
      if mark.isEmpty then none else some (mark, tabs)
  | _ => none

def startsMark (mark : List Char) (tabs : Bool) (text : List Char) : Bool :=
  let line := if tabs then text.dropWhile (· = '\t') else text
  mark.isPrefixOf line && ((line.drop mark.length).head?).all (· = '\n')

def afterLine : List Opened → List Opened
  | .round cases ((mark, tabs) :: more) :: outer =>
      .document mark tabs :: .round cases more :: outer
  | stack => stack

-- What is open after one more character. The text is what begins with the character.
def step (before : Option Char) (c : Char) (text : List Char) :
    List Opened → List Opened
  | [] => []
  | .single :: outer => if c = '\'' then outer else .single :: outer
  | .double :: outer =>
      let dollar := before = some '$'
      if c = '"' then outer
      else if c = '\x60' || (dollar && c = '(') || (dollar && c = '\x7b') then
        plainStep c dollar false (.double :: outer)
      else .double :: outer
  | .back :: outer => if c = '\x60' then outer else .back :: outer
  | .comment :: outer => if c = '\n' then afterLine outer else .comment :: outer
  | .document mark tabs :: outer =>
      if before = some '\n' && startsMark mark tabs text then outer
      else .document mark tabs :: outer
  | .curly quoted :: outer =>
      if c = '\x7d' then outer
      else if c = '(' && before ≠ some '$' then .curly quoted :: outer
      else plainStep c (before = some '$') (!quoted) (.curly quoted :: outer)
  | .round cases awaited :: outer =>
      let fresh := before.all isBoundary
      let same := .round cases awaited :: outer
      match c, awaited with
      | ')', _ => if cases = 0 then outer else same
      | '\n', _ => afterLine same
      | '<', _ =>
          if before = some '<' then same
          else
            match documentMark? text with
            | some awaiting => .round cases (awaited ++ [awaiting]) :: outer
            | none => same
      | _, _ =>
          if c = '#' && fresh && before ≠ some ')' then .comment :: same
          else if fresh && startsWord "case" text then .round (cases + 1) awaited :: outer
          else if fresh && startsWord "esac" text then .round (cases - 1) awaited :: outer
          else plainStep c (before = some '$') true same

def isLiteral (stack : List Opened) : Bool :=
  match stack with
  | .single :: _ | .comment :: _ | .document _ _ :: _ => true
  | _ => false

def split (stack : List Opened) (before : Option Char) :
    List Char → Option (List Char × List Char)
  | [] => none
  | c :: rest =>
      if c = '\\' && !isLiteral stack then
        match rest with
        | [] => none
        | escaped :: rest =>
            (split stack (some escaped) rest).map fun (inside, after) =>
              (c :: escaped :: inside, after)
      else
        match step before c (c :: rest) stack with
        | [] => some ([], rest)
        | stack => (split stack (some c) rest).map fun (inside, after) => (c :: inside, after)

end Opened

def untilRound (text : List Char) : Option (List Char × List Char) :=
  Opened.split [.round 0 []] none text

def untilCurly (quoted : Bool) (text : List Char) : Option (List Char × List Char) :=
  Opened.split [.curly quoted] none text

end PackageClosure.Shell
