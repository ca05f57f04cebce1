import PackageClosure.Shell.Quantity

set_option autoImplicit false

namespace PackageClosure.Shell

-- A number in multiples of a small unit. All that are reckoned with have the same unit.
abbrev Fixed := Int

namespace Fixed

def one (places : Nat) : Fixed := Nat.pow 2 places

def ofRatio (places : Nat) (numerator : Int) (denominator : Nat) : Fixed :=
  (numerator * Nat.pow 2 places) / (denominator : Int)

def mul (places : Nat) (left right : Fixed) : Fixed := (left * right) / (Nat.pow 2 places : Int)

def div (places : Nat) (left right : Fixed) : Fixed := (left * Nat.pow 2 places) / right

-- The sum of terms, each of which comes from the one before it, until they vanish. A term has a
-- power and a divisor of its own.
def series (next : Nat → Fixed → Fixed) (value : Nat → Fixed → Fixed) :
    Nat → Nat → Fixed → Fixed
  | 0, _, _ => 0
  | fuel + 1, index, term =>
      if term.natAbs ≤ 1 then 0
      else value index term + series next value fuel (index + 1) (next index term)

def inverseSeries (places : Nat) (alternating : Bool) (number : Nat) : Fixed :=
  let square : Int := number * number
  series (fun _ term => (if alternating then -term else term) / square)
    (fun index term => term / (2 * index + 1)) (places + 2) 0 (one places / (number : Int))

def logTwo (places : Nat) : Fixed := 2 * inverseSeries places false 3

def halfTurn (places : Nat) : Fixed :=
  4 * (4 * inverseSeries places true 5 - inverseSeries places true 239)

def exponential (places : Nat) (power : Fixed) : Fixed :=
  series (fun index term => mul places term power / ((index : Int) + 1)) (fun _ term => term)
    (2 * places) 0 (one places)

def logarithm (places : Nat) (number : Fixed) : Fixed :=
  let ratio := div places (number - one places) (number + one places)
  let square := mul places ratio ratio
  2 * series (fun _ term => mul places term square) (fun index term => term / (2 * index + 1))
    (2 * places) 0 ratio

def circular (places : Nat) (cosine : Bool) (angle : Fixed) : Fixed :=
  let square := mul places angle angle
  let first : Nat := if cosine then 1 else 2
  series
    (fun index term =>
      let count : Int := 2 * index + first
      (mul places term square) / (-count * (count + 1)))
    (fun _ term => term) (2 * places) 0 (if cosine then one places else angle)

def squareRoot (places : Nat) (number : Fixed) : Fixed :=
  (number.toNat * Nat.pow 2 places).sqrt

def arcTangent (places : Nat) : Nat → Fixed → Fixed
  | 0, tangent =>
      let square := mul places tangent tangent
      series (fun _ term => mul places term (-square)) (fun index term => term / (2 * index + 1))
        (2 * places) 0 tangent
  | halvings + 1, tangent =>
      let root := squareRoot places (one places + mul places tangent tangent)
      2 * arcTangent places halvings (div places tangent (one places + root))

end Fixed

namespace Quantity

def places : Nat := 256

def ofFixed (precision : Precision) (places : Nat) (value : Fixed) (exponent : Int) : Quantity :=
  scaled precision (value < 0) value.natAbs 1 (exponent - places)

def exponentialOf (precision : Precision) (power : Fixed) : Quantity :=
  let unit := Fixed.logTwo places
  let count := power / unit
  ofFixed precision places (Fixed.exponential places (power - count * unit)) count

def largestPower (precision : Precision) : Int := precision.top + precision.bits + 64 - precision.unit

def exponential (precision : Precision) : Quantity → Quantity
  | .undefined negative => .undefined negative
  | .infinite negative => if negative then zero else .infinite false
  | .finite negative mantissa exponent =>
      if mantissa = 0 then ofNat precision 1
      else if 40 < mantissa.log2 + exponent then if negative then zero else .infinite false
      else
        let (numerator, denominator) := ratio negative mantissa exponent
        let power := Fixed.ofRatio places numerator denominator
        if largestPower precision * Fixed.one places < (power.natAbs : Int) then
          if negative then zero else .infinite false
        else exponentialOf precision power

def logarithmOf (mantissa : Nat) (exponent : Int) : Fixed :=
  let size := mantissa.log2
  let upper := 3 * Nat.pow 2 size < 2 * mantissa
  let shift := if upper then size + 1 else size
  let number := Fixed.ofRatio places mantissa (Nat.pow 2 shift)
  Fixed.logarithm places number + (exponent + shift) * Fixed.logTwo places

def logarithm (precision : Precision) : Quantity → Quantity
  | .undefined negative => .undefined negative
  | .infinite negative => if negative then .undefined true else .infinite false
  | .finite negative mantissa exponent =>
      if mantissa = 0 then .infinite true
      else if negative then .undefined true
      else ofFixed precision places (logarithmOf mantissa exponent) 0

def circular (precision : Precision) (cosine : Bool) : Quantity → Quantity
  | .undefined negative => .undefined negative
  | .infinite _ => .undefined true
  | .finite negative mantissa exponent =>
      let size := mantissa.log2 + exponent
      if mantissa = 0 || size < -40 then
        if cosine then ofNat precision 1 else .finite negative mantissa exponent
      else
        let places := places + size.toNat
        let (numerator, denominator) := ratio negative mantissa exponent
        let angle := Fixed.ofRatio places numerator denominator
        let quarter := Fixed.halfTurn places / 2
        let turns := (2 * angle + quarter) / (2 * quarter)
        let rest := angle - turns * quarter
        let side := (turns + if cosine then 1 else 0) % 4
        let value := Fixed.circular places (side % 2 = 1) rest
        ofFixed precision places (if 2 ≤ side then -value else value) 0

def arcTangent (precision : Precision) (height width : Quantity) : Quantity :=
  let withSign (negative : Bool) (value : Quantity) : Quantity :=
    if negative then value.negate else value
  let part (numerator : Int) (denominator : Nat) : Quantity :=
    withSign height.isNegative
      (ofFixed precision places (numerator * Fixed.halfTurn places / (denominator : Int)) 0)
  match height, width with
  | .undefined negative, _ | _, .undefined negative => .undefined negative
  | .infinite _, .infinite negative => if negative then part 3 4 else part 1 4
  | .infinite _, _ => part 1 2
  | .finite negative _ _, .infinite left => if left then part 1 1 else .finite negative 0 0
  | .finite negative first low, .finite left second high =>
      if first = 0 then if left then part 1 1 else .finite negative 0 0
      else if second = 0 then part 1 2
      else
        let size := (first.log2 + low) - (second.log2 + high)
        if size < -60 && !left then scaled precision negative first second (low - high)
        else
          let least := min low high
          let rise := first * Nat.pow 2 (low - least).toNat
          let run := second * Nat.pow 2 (high - least).toNat
          let steep := run < rise
          let tangent :=
            if steep then Fixed.ofRatio places run rise else Fixed.ofRatio places rise run
          let small := Fixed.arcTangent places 3 tangent
          let acute := if steep then Fixed.halfTurn places / 2 - small else small
          let angle := if left then Fixed.halfTurn places - acute else acute
          withSign negative (ofFixed precision places angle 0)

def exactPowers : Nat := 1100

def isOdd (quantity : Quantity) : Bool := quantity.integer?.any (· % 2 ≠ 0)

def powerOf (precision : Precision) (negative : Bool) (mantissa : Nat) (exponent : Int)
    (power : Quantity) : Quantity :=
  let signed (size : Quantity) : Quantity := if negative then size.negate else size
  let extreme (large : Bool) : Quantity := signed (if large then .infinite false else zero)
  match power with
  | .finite inverse factor height =>
      match power.integer? with
      | some count =>
          if count.natAbs ≤ exactPowers then
            let size := Nat.pow mantissa count.natAbs
            if inverse then scaled precision negative 1 size (-(exponent * count.natAbs))
            else scaled precision negative size 1 (exponent * count.natAbs)
          else
            let base := logarithmOf mantissa exponent
            if base = 0 then signed (ofNat precision 1)
            else
              let grows := (base < 0) = inverse
              if 80 < factor.log2 + height then extreme grows
              else
                let value := base * count
                if largestPower precision * Fixed.one places < (value.natAbs : Int) then
                  extreme grows
                else signed (exponentialOf precision value)
      | none =>
          let base := logarithmOf mantissa exponent
          let (numerator, denominator) := ratio inverse factor height
          let value := base * numerator / (denominator : Int)
          if largestPower precision * Fixed.one places < (value.natAbs : Int) then
            extreme (0 < value)
          else signed (exponentialOf precision value)
  | other => other

def power (precision : Precision) (base exponent : Quantity) : Quantity :=
  let unit := ofNat precision 1
  let isOne := base.integer? = some 1
  if exponent.isZero || isOne then unit
  else
    match base, exponent with
    | .undefined negative, _ | _, .undefined negative => .undefined negative
    | base, .infinite falls =>
        let size := if base.isNegative then base.negate else base
        match size.compare? unit with
        | some .eq => unit
        | some .gt => if falls then zero else .infinite false
        | _ => if falls then .infinite false else zero
    | .infinite negative, exponent =>
        let negative := negative && exponent.isOdd
        if exponent.isNegative then .finite negative 0 0 else .infinite negative
    | .finite negative mantissa height, exponent =>
        let sign := negative && exponent.isOdd
        if mantissa = 0 then if exponent.isNegative then .infinite sign else .finite sign 0 0
        else if negative && exponent.integer?.isNone then .undefined true
        else powerOf precision sign mantissa height exponent

end Quantity

end PackageClosure.Shell
