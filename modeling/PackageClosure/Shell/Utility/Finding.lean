import PackageClosure.Shell.Utility.Portrait
import PackageClosure.Shell.Utility.Wish

set_option autoImplicit false

namespace PackageClosure.Shell.Utility

structure Candidate where
  start : String
  path : String
  place : Place
  node : Disk.Node
  depth : Nat

def candidates (state : State) (depths : Depths) (start : String) :
    Nat → Nat → String → List Candidate
  | 0, _, _ => []
  | fuel + 1, depth, path =>
      let follow := if depth = 0 then depths.following.named else depths.following.below
      let found := match state.disk.find state.current follow ⟨path⟩ with
        | .ok ⟨place, some node⟩ => some (place, node)
        | _ =>
            match state.disk.find state.current false ⟨path⟩ with
            | .ok ⟨place, some node⟩ => some (place, node)
            | _ => none
      match found with
      | some (place, node) =>
          let own : Candidate := ⟨start, path, place, node, depth⟩
          let inside :=
            if node.isDirectory && depths.most.all (depth < ·) then
              (state.disk.namesIn place).flatMap fun name =>
                candidates state depths start fuel (depth + 1) (inDirectory path name.text)
            else []
          if depths.late then inside ++ [own] else own :: inside
      | none => []

def typeLetter (node : Disk.Node) : Char :=
  match node with
  | .file _ => 'f'
  | node => kindLetter node

namespace Candidate

def name (candidate : Candidate) : String :=
  let path := candidate.path.toList
  let slashes := path.reverse.takeWhile (· = '/')
  match lastPiece candidate.path with
  | "" => "/"
  | piece => piece ++ String.ofList slashes

def followed? (candidate : Candidate) (state : State) : Option Disk.Node :=
  (state.disk.stat state.current ⟨candidate.path⟩).toOption

def folded (fold : Bool) (text : String) : List Char :=
  if fold then text.toList.map Char.toLower else text.toList

def holds (candidate : Candidate) (state : State) : Wish → Bool
  | .named whole fold pattern =>
      let text := if whole then candidate.path else
        match lastPiece candidate.path with
        | "" => candidate.path
        | piece => piece
      Pattern.covers pattern (folded fold text)
  | .matches regex =>
      (Regex.find? regex (Text.byteChars candidate.path.toList)).isSome
  | .ofType otherView letters =>
      let seen := match otherView, candidate.node with
        | true, .link target => (candidate.followed? state).getD (.link target)
        | _, node => node
      letters.contains (typeLetter seen)
  | .isEmpty =>
      match candidate.node with
      | .directory _ => (state.disk.namesIn candidate.place).isEmpty
      | .file file => file.bytes.isEmpty
      | _ => false
  | .executable =>
      match candidate.followed? state with
      | some (.file file) => Disk.isRunnable file.mode
      | some (.directory _) => true
      | _ => false
  | .reachable => (candidate.followed? state).isSome
  | .size order unit count =>
      compare ((sizeOfNode candidate.node + unit - 1) / unit) count = order
  | .mode share bits =>
      let mode := candidate.node.mode
      match share with
      | .exactly => mode = bits
      | .all => mode &&& bits = bits
      | .any => bits = 0 || mode &&& bits ≠ 0
  | .changed after upTo =>
      let time := changedAt state.disk candidate.place candidate.node
      after.all (· < time) && upTo.all (time ≤ ·)
  | .names order count =>
      compare (namesOf state.disk candidate.place candidate.node) count = order
  | .numbered order number =>
      compare (numberOf state.disk candidate.place candidate.node) number = order
  | .samePlace place node =>
      candidate.place = place || Disk.isShared candidate.node (some node)
  | .leadsTo fold pattern =>
      match candidate.node with
      | .link target => Pattern.covers pattern (folded fold target.text)
      | _ => false
  | _ => true

def timePart (time : Int) (letter : Char) : String :=
  let moment := Moment.ofTime time
  let format := match letter with
    | '@' => "%s.%N0"
    | 'S' => "%S.%N0"
    | '+' => "%Y-%m-%d+%H:%M:%S.%N0"
    | 'T' | 'X' => "%H:%M:%S.%N0"
    | letter => String.ofList ['%', letter]
  moment.write format

def part? (candidate : Candidate) (state : State) (fitting : Fitting) (letter : Char) :
    Option String :=
  let text (text : String) : Option String := some (fitting.text text)
  let node := candidate.node
  match letter with
  | 'p' => text candidate.path
  | 'f' => text candidate.name
  | 'h' =>
      let before := candidate.path.toList.reverse.dropWhile (· ≠ '/')
      text (if before.isEmpty then "." else String.ofList (before.drop 1).reverse)
  | 'P' =>
      let rest := candidate.path.toList.drop candidate.start.length
      text (String.ofList (if rest.head? = some '/' then rest.drop 1 else rest))
  | 'H' => text candidate.start
  | 'd' => some (fitting.number (toString candidate.depth))
  | 's' => text (toString (sizeOfNode node))
  | 'b' => text (toString (2 * blocksOf node))
  | 'k' => text (toString (blocksOf node))
  | 'm' => some (fitting.number (String.ofList (Nat.toDigits 8 node.mode)))
  | 'M' => text (String.singleton (kindLetter node) ++ Mode.letters node.mode)
  | 'y' => text (String.singleton (typeLetter node))
  | 'Y' =>
      let letter := match candidate.followed? state with
        | some node => typeLetter node
        | none => 'N'
      text (String.singleton letter)
  | 'l' =>
      match node with
      | .link target => text target.text
      | _ => text ""
  | 'n' => text (toString (namesOf state.disk candidate.place node))
  | 'i' => text (toString (numberOf state.disk candidate.place node))
  | 'u' | 'g' => text "root"
  | 'U' | 'G' => text "0"
  | 'D' => text (toString diskDevice)
  | 'F' => text "ext4"
  | 'S' => text "1"
  | 't' | 'a' | 'c' =>
      text ((Moment.ofTime (changedAt state.disk candidate.place node)).write
        "%a %b %e %H:%M:%S.%N0 %Y")
  | _ => none

def portray (candidate : Candidate) (state : State) : Nat → List Char → String
  | 0, _ | _, [] => ""
  | fuel + 1, c :: rest =>
      let go := portray candidate state fuel
      match c, rest with
      | '%', '%' :: rest => "%" ++ go rest
      | '%', rest =>
          let (fitting, after) := Fitting.take rest
          match after with
          | [] => ""
          | first :: second :: after =>
              if "TAC".toList.contains first then
                fitting.text
                  (timePart (changedAt state.disk candidate.place candidate.node) second) ++ go after
              else
                ((candidate.part? state fitting first).getD (String.ofList ['%', first])) ++
                  go (second :: after)
          | [letter] => (candidate.part? state fitting letter).getD (String.ofList ['%', letter])
      | '\\', 'c' :: _ => ""
      | '\\', next :: rest =>
          let (digits, after) := (next :: rest).span fun c => '0' ≤ c && c ≤ '7'
          if digits.isEmpty then
            let meant := match next with
              | 'n' => "\n"
              | 't' => "\t"
              | 'a' => "\x07"
              | 'b' => "\x08"
              | 'f' => "\x0c"
              | 'r' => "\r"
              | 'v' => "\x0b"
              | '\\' => "\\"
              | other => String.ofList ['\\', other]
            meant ++ go rest
          else
            let byte := UInt8.ofNat (Nat.ofDigitChars 8 (digits.take 3) 0)
            String.ofList (Text.rawText [byte]) ++ go (digits.drop 3 ++ after)
      | c, rest => String.singleton c ++ go rest

def listing (candidate : Candidate) (state : State) : String :=
  let node := candidate.node
  let right (width : Nat) (text : String) : String :=
    (⟨[], width, none⟩ : Fitting).text text
  let left (width : Nat) (text : String) : String :=
    (⟨['-'], width, none⟩ : Fitting).text text
  let time := changedAt state.disk candidate.place node
  let recent := state.disk.time - 15552000 * Moment.billion < time && time ≤ state.disk.time
  let date := (Moment.ofTime time).write (if recent then "%b %e %H:%M" else "%b %e  %Y")
  let shown := nameWithTarget id candidate.path node
  " ".intercalate
    [right 9 (toString (numberOf state.disk candidate.place node)),
      right 6 (toString (blocksOf node)),
      String.singleton (kindLetter node) ++ Mode.letters node.mode,
      right 3 (toString (namesOf state.disk candidate.place node)), left 8 "root", left 8 "root",
      right 8 (toString (sizeOfNode node)), date, shown] ++ "\n"

def remark (candidate : Candidate) (state : State) : Remark → String
  | .line => candidate.path ++ "\n"
  | .zero => candidate.path ++ "\x00"
  | .listing => candidate.listing state
  | .format format => candidate.portray state (format.length + 1) format

end Candidate

end PackageClosure.Shell.Utility
