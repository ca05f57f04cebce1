import PackageClosure.Shell.Awk.Pattern
import PackageClosure.Shell.Awk.Syntax

set_option autoImplicit false

namespace PackageClosure.Shell.Awk

inductive Token where
  | number (quantity : Quantity)
  | text (letters : Text)
  | regex (letters : Text)
  | name (name : String)
  | called (name : String)
  | builtin (function : Builtin)
  | word (word : String)
  | mark (mark : String)
  | leadsTo (target : Target)
  | newline
  | broken (problem : String)
  | extra (mark : String)

structure PlacedToken where
  token : Token
  line : Nat
  open_ : Nat
  shown : String

namespace Scanner

def words : List String :=
  ["BEGIN", "END", "if", "else", "while", "for", "do", "break", "continue", "next", "nextfile",
    "exit", "return", "delete", "in", "function", "print", "printf", "getline"]

def builtins : List (String × Builtin) :=
  [("length", .length), ("index", .index), ("substr", .substring), ("sprintf", .format),
    ("sin", .sine), ("cos", .cosine), ("atan2", .arcTangent), ("exp", .exponential),
    ("log", .logarithm), ("int", .truncate), ("sqrt", .squareRoot), ("rand", .random),
    ("srand", .seed), ("close", .close), ("system", .execute), ("toupper", .upper),
    ("tolower", .lower), ("fflush", .flush), ("match", .locate), ("split", .divide),
    ("sub", .replace false), ("gsub", .replace true), ("systime", .time),
    ("strftime", .timeText), ("mktime", .timeOf)]

def nameOf (function : Builtin) : String :=
  ((builtins.find? (·.2 = function)).map Prod.fst).getD ""

def counts : Builtin → Nat × Option Nat
  | .index | .arcTangent => (2, some 2)
  | .substring => (2, some 3)
  | .format => (1, none)
  | .random | .time => (0, some 0)
  | .seed | .flush => (0, some 1)
  | .timeText => (0, some 3)
  | _ => (1, some 1)

def marks : List String :=
  ["&&", "||", "==", "!=", "<=", ">=", "!~", "++", "--", "+=", "-=", "*=", "/=", "%=", "^=", ">>",
    "\x7b", "\x7d", "(", ")", "[", "]", ";", ",", "<", ">", "!", "~", "+", "-", "*", "/", "%", "^",
    "?", ":", "=", "$", "|"]

def isValue : Token → Bool
  | .number _ | .text _ | .regex _ | .name _ => true
  | .mark mark => [")", "]", "++", "--"].contains mark
  | .word word => word = "getline"
  | _ => false

def continues : Token → Bool
  | .newline => true
  | .mark mark => ["\x7b", "\x7d", "&&", "||", ",", ";"].contains mark
  | .word word => word = "do" || word = "else"
  | _ => false

def quotedText : Nat → Text → Option (Text × Text)
  | 0, _ => none
  | fuel + 1, text =>
      match text with
      | [] => none
      | '"' :: rest => some ([], rest)
      | '\n' :: _ => none
      | '\\' :: '\n' :: rest => quotedText fuel rest
      | '\\' :: c :: rest =>
          (quotedText fuel rest).map fun (more, rest) => ('\\' :: c :: more, rest)
      | c :: rest => (quotedText fuel rest).map fun (more, rest) => (c :: more, rest)

-- The expression up to the slash that ends it, and what follows. Inside of brackets slashes are
-- like other characters.
def slashedText : Nat → Bool → Text → Option (Text × Text)
  | 0, _, _ => none
  | fuel + 1, inside, text =>
      let put (front : Text) (found : Option (Text × Text)) : Option (Text × Text) :=
        found.map fun (more, rest) => (front ++ more, rest)
      match text with
      | [] => none
      | '\n' :: _ => none
      | '/' :: rest => if inside then put ['/'] (slashedText fuel true rest) else some ([], rest)
      | '\\' :: '/' :: rest => put ['\\', '/'] (slashedText fuel inside rest)
      | '\\' :: c :: rest => put ['\\', c] (slashedText fuel inside rest)
      | '[' :: rest =>
          if inside then put ['['] (slashedText fuel true rest)
          else
            let begun : Text := (if rest.head? = some '^' then ['^'] else [])
            let after := rest.drop begun.length
            let begun := begun ++ if after.head? = some ']' then [']'] else []
            put ('[' :: begun) (slashedText fuel true (rest.drop begun.length))
      | ']' :: rest => put [']'] (slashedText fuel false rest)
      | c :: rest => put [c] (slashedText fuel inside rest)

def isNameStart (c : Char) : Bool := c.isAlpha || c = '_'

def isNamePart (c : Char) : Bool := c.isAlphanum || c = '_'

def unslashed : Text → Text
  | '\\' :: '/' :: rest => '/' :: unslashed rest
  | c :: rest => c :: unslashed rest
  | [] => []

structure Scanning where
  previous : Token
  line : Nat
  printing : Bool
  open_ : Nat
  braces : Nat

def first (scanning : Scanning) (text : Text) : Token × Text :=
  match text with
  | [] => (.newline, [])
  | '"' :: rest =>
      match quotedText (rest.length + 1) rest with
      | some (letters, after) =>
          (.text (Spelling.unescaped (letters.length + 1) letters), after)
      | none =>
          let start := String.ofList ((rest.takeWhile (· ≠ '\n')).take 10)
          (.broken s!"runaway string constant \"{start} ...", [])
  | c :: rest =>
      if c = '\n' then (.newline, rest)
      else if c = '/' && !isValue scanning.previous then
        match slashedText (rest.length + 1) false rest with
        | some (letters, after) => (.regex letters, after)
        | none =>
            let start := String.ofList ((unslashed (rest.takeWhile (· ≠ '\n'))).take 10)
            (.broken s!"runaway regular expression /{start} ...", [])
      else if isNameStart c then
        let letters := text.takeWhile isNamePart
        let after := text.drop letters.length
        let name := String.ofList letters
        if words.contains name then (.word name, after)
        else
          match builtins.lookup name with
          | some function => (.builtin function, after)
          | none => (if after.head? = some '(' then .called name else .name name, after)
      else if c.isDigit || (c = '.' && rest.head?.any Char.isDigit) then
        match Quantity.decimal? precision false text with
        | some (quantity, after) => (.number quantity, after)
        | none => (.broken s!"unexpected character '{c}'", [])
      else
        match marks.find? fun mark => mark.toList.isPrefixOf text with
        | none => (.broken s!"unexpected character '{c}'", [])
        | some mark =>
            let after := text.drop mark.length
            let leads := scanning.printing && scanning.open_ = 0
            match mark with
            | ">" | ">=" =>
                if leads then (.leadsTo (.file false), rest) else (.mark mark, after)
            | ">>" => if leads then (.leadsTo (.file true), after) else (.mark ">", rest)
            | "|" => if leads then (.leadsTo .command, after) else (.mark mark, after)
            | ")" => (if scanning.open_ = 0 then .extra mark else .mark mark, after)
            | "\x7d" => (if scanning.braces = 0 then .extra mark else .mark mark, after)
            | mark => (.mark mark, after)

def Scanning.after (scanning : Scanning) (token : Token) : Scanning :=
  let open_ := match token with
    | .mark "(" => scanning.open_ + 1
    | .mark ")" => scanning.open_ - 1
    | _ => scanning.open_
  let braces := match token with
    | .mark "\x7b" => scanning.braces + 1
    | .mark "\x7d" => scanning.braces - 1
    | _ => scanning.braces
  let printing := match token with
    | .word "print" | .word "printf" => true
    | .newline | .leadsTo _ | .mark ";" | .mark "\x7d" => false
    | _ => scanning.printing
  { previous := token
    line := if token matches .newline then scanning.line + 1 else scanning.line
    printing
    open_
    braces }

def scan : Nat → Scanning → Text → List PlacedToken
  | 0, _, _ => []
  | fuel + 1, scanning, text =>
      match text with
      | [] =>
          if continues scanning.previous then []
          else [⟨.newline, scanning.line, scanning.open_, "end of line"⟩]
      | '\\' :: '\n' :: rest => scan fuel { scanning with line := scanning.line + 1 } rest
      | '\\' :: '\r' :: '\n' :: rest => scan fuel { scanning with line := scanning.line + 1 } rest
      | '#' :: rest => scan fuel scanning (rest.dropWhile (· ≠ '\n'))
      | c :: rest =>
          if c ≠ '\n' && isSpace c then scan fuel scanning rest
          else
            let (token, after) := first scanning text
            match token with
            | .newline =>
                if continues scanning.previous then
                  scan fuel { scanning with line := scanning.line + 1 } after
                else
                  ⟨.newline, scanning.line, scanning.open_, "end of line"⟩ ::
                    scan fuel (scanning.after .newline) after
            | token =>
                let spelled := text.take (text.length - after.length)
                let shown := String.ofList (match token with
                  | .text letters => letters
                  | _ => spelled)
                let newlines := spelled.count '\n'
                let next := scanning.after token
                ⟨token, scanning.line, next.open_, shown⟩ ::
                  scan fuel { next with line := next.line + newlines } after

def ofProgram (text : Text) : List PlacedToken :=
  scan (text.length + 1) ⟨.newline, 1, false, 0, 0⟩ text

end Scanner

end PackageClosure.Shell.Awk
