import PackageClosure.Address.Table
import PackageClosure.Text.Blank
import PackageClosure.Text.Split

set_option autoImplicit false

namespace PackageClosure

namespace Text

inductive PairError where
  | noSeparator
  | emptyLeft
  | emptyRight
deriving DecidableEq, Repr

def parsePair (separator : Char) (text : String) : Except PairError (String × String) :=
  match splitFirst separator text.toList with
  | none => .error .noSeparator
  | some (left, right) =>
      let left := trimChars left
      let right := trimChars right
      if left = [] then .error .emptyLeft
      else if right = [] then .error .emptyRight
      else .ok (String.ofList left, String.ofList right)

theorem parsePair_eq_ok_iff (separator : Char) (text left right : String) :
    parsePair separator text = .ok (left, right) ↔
      ∃ before after, text.toList = before ++ separator :: after ∧ separator ∉ before ∧
        trimChars before = left.toList ∧ trimChars after = right.toList ∧ left ≠ "" ∧
        right ≠ "" := by
  have filled (side : String) (chars : List Char) (same : chars = side.toList) :
      chars = [] ↔ side = "" := by rw [same, String.toList_eq_nil_iff]
  unfold parsePair
  constructor
  · intro ok
    split at ok
    · cases ok
    · rename_i before after found
      dsimp only at ok
      split at ok
      · cases ok
      · rename_i leftFilled
        split at ok
        · cases ok
        · rename_i rightFilled
          cases ok
          obtain ⟨whole, absent⟩ := (splitFirst_eq_some_iff _ _ _ _).mp found
          have isLeft := (String.toList_ofList (l := trimChars before)).symm
          have isRight := (String.toList_ofList (l := trimChars after)).symm
          exact ⟨before, after, whole, absent, isLeft, isRight,
            fun empty => leftFilled ((filled _ _ isLeft).mpr empty),
            fun empty => rightFilled ((filled _ _ isRight).mpr empty)⟩
  · rintro ⟨before, after, whole, absent, isLeft, isRight, leftFilled, rightFilled⟩
    rw [(splitFirst_eq_some_iff _ _ _ _).mpr ⟨whole, absent⟩]
    simp only [isLeft, isRight, filled left _ rfl, filled right _ rfl, if_neg leftFilled,
      if_neg rightFilled, String.ofList_toList]

def writePair (separator : Char) (left right : String) : String :=
  left ++ separator.toString ++ right

end Text

/-- A symbol with its address, written `symbol:address`. -/
structure AddressArgument where
  symbol : String
  address : String
deriving DecidableEq, Repr

namespace AddressArgument

inductive Error where
  | missingSeparator (text : String)
  | emptySymbol (text : String)
  | emptyAddress (text : String)
deriving DecidableEq, Repr

def Error.message : Error → String
  | .missingSeparator text => s!"expected `symbol:address`, found '{text}'"
  | .emptySymbol text => s!"empty symbol in '{text}'"
  | .emptyAddress text => s!"empty address in '{text}'"

def parse (text : String) : Except Error AddressArgument :=
  match Text.parsePair ':' text with
  | .ok (symbol, address) => .ok ⟨symbol, address⟩
  | .error .noSeparator => .error (.missingSeparator text)
  | .error .emptyLeft => .error (.emptySymbol text)
  | .error .emptyRight => .error (.emptyAddress text)

theorem parse_eq_ok_iff (text : String) (argument : AddressArgument) :
    parse text = .ok argument ↔
      Text.parsePair ':' text = .ok (argument.symbol, argument.address) := by
  unfold parse
  constructor
  · intro ok
    split at ok
    · rename_i pair
      cases ok
      exact pair
    all_goals cases ok
  · intro pair
    rw [pair]

def text (argument : AddressArgument) : String :=
  Text.writePair ':' argument.symbol argument.address

end AddressArgument

def AddressTable.arguments (table : AddressTable) : List AddressArgument :=
  table.pairs.map fun pair => ⟨pair.1, pair.2⟩

end PackageClosure
