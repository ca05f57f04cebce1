import PackageClosure.Shell.Awk.Pattern
import PackageClosure.Shell.Awk.Value

set_option autoImplicit false

namespace PackageClosure.Shell.Awk

def solidMatch? (regex : Regex) (before : Option Char) (passed : Text) :
    Text → Option (Text × Text)
  | [] => none
  | c :: rest =>
      let spot : Regex.Spot := ⟨before, c :: rest, []⟩
      match Regex.longest? regex spot with
      | some last =>
          if last.rest.length ≤ rest.length then some (passed.reverse, last.rest)
          else solidMatch? regex (some c) (c :: passed) rest
      | none => solidMatch? regex (some c) (c :: passed) rest

def between (regex : Regex) : Nat → Option Char → Text → List Text
  | 0, _, text => [text]
  | fuel + 1, before, text =>
      match solidMatch? regex before [] text with
      | none => [text]
      | some (part, rest) => part :: between regex fuel (some '\n') rest

-- Replaces matches in a text, and counts them. An empty match right behind another one does not
-- count.
def replaced (regex : Regex) (everywhere : Bool) (replacement : Text → Text) :
    Nat → Option Char → Bool → Text → Nat × Text
  | 0, _, _, text => (0, text)
  | fuel + 1, before, afterMatch, text =>
      let spot : Regex.Spot := ⟨before, text, []⟩
      let step (count : Nat) (front : Text) : Nat × Text :=
        match text with
        | [] => (count, front)
        | c :: rest =>
            if count = 1 && !everywhere then (1, front ++ c :: rest)
            else
              let (more, after) := replaced regex everywhere replacement fuel (some c) false rest
              (count + more, front ++ c :: after)
      match Regex.longest? regex spot with
      | none => step 0 []
      | some last =>
          let found := spot.textTo last
          match found.getLast? with
          | none => if afterMatch then step 0 [] else step 1 (replacement [])
          | some c =>
              if !everywhere then (1, replacement found ++ last.rest)
              else
                let (more, after) :=
                  replaced regex everywhere replacement fuel (some c) true last.rest
                (more + 1, replacement found ++ after)

-- A replacement, in which a mark stands for what was found. Backslashes in front of it count in
-- pairs, and one that is left takes its meaning away.
def replacementFor : Nat → Text → Text → Text
  | 0, _, _ => []
  | fuel + 1, template, found =>
      let (slashes, rest) := template.span (· = '\\')
      match rest with
      | '&' :: rest =>
          let mark := if slashes.length % 2 = 0 then found else ['&']
          slashes.take (slashes.length / 2) ++ mark ++ replacementFor fuel rest found
      | c :: rest => slashes ++ c :: replacementFor fuel rest found
      | [] => slashes

inductive Separator where
  | blanks
  | nothing
  | only (c : Char)
  | pattern (regex : Regex)

namespace Separator

def ofText : Text → Except String Separator
  | [] => .ok .nothing
  | [' '] => .ok .blanks
  | [c] => .ok (.only c)
  | text => (Spelling.regex text).map .pattern

def words : Nat → Text → List Text
  | 0, _ => []
  | fuel + 1, text =>
      let text := text.dropWhile isSpace
      if text.isEmpty then []
      else
        let (word, rest) := text.span (!isSpace ·)
        word :: words fuel rest

def divide (separator : Separator) (text : Text) : List Text :=
  if text.isEmpty then []
  else
    match separator with
    | .blanks => words (text.length + 1) text
    | .nothing => text.map fun c => [c]
    | .only separator => Text.pieces separator text
    | .pattern regex => between regex (text.length + 1) none text

end Separator

inductive Ending where
  | emptyLines
  | only (c : Char)
  | pattern (regex : Regex)

namespace Ending

def ofText : Text → Except String Ending
  | [] => .ok .emptyLines
  | [c] => .ok (.only c)
  | text => (Spelling.regex text).map .pattern

def paragraph : Nat → Text → Text × Text
  | 0, text => (text, [])
  | fuel + 1, text =>
      let (line, rest) := text.span (· ≠ '\n')
      match rest with
      | [] => (line, [])
      | [_] => (line, [])
      | _ :: '\n' :: rest => (line, rest.dropWhile (· = '\n'))
      | _ :: rest =>
          let (more, rest) := paragraph fuel rest
          (line ++ '\n' :: more, rest)

def first? (ending : Ending) (text : Text) : Option (Text × Text) :=
  match ending with
  | .emptyLines =>
      let text := text.dropWhile (· = '\n')
      if text.isEmpty then none else some (paragraph (text.length + 1) text)
  | .only separator =>
      if text.isEmpty then none
      else
        let (record, rest) := text.span (· ≠ separator)
        some (record, rest.drop 1)
  | .pattern regex =>
      if text.isEmpty then none else some ((solidMatch? regex none [] text).getD (text, []))

end Ending

end PackageClosure.Shell.Awk
