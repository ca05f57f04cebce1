import PackageClosure.Rounding

set_option autoImplicit false

namespace PackageClosure.Toml

structure Binary64 where
  bits : UInt64
deriving DecidableEq, Repr

namespace Binary64

def infinityBits : Nat := 0x7FF0000000000000

def signBit : Nat := 0x8000000000000000

def ofMagnitude (negative : Bool) (magnitude : Nat) : Binary64 :=
  ⟨UInt64.ofNat (if negative then signBit + magnitude else magnitude)⟩

def infinity (negative : Bool) : Binary64 := ofMagnitude negative infinityBits

def notANumber (negative : Bool) : Binary64 := ofMagnitude negative (infinityBits + 0x8000000000000)

def isNaN (number : Binary64) : Bool := infinityBits < number.bits.toNat % signBit

-- The bits, less the sign, of the number nearest to a quotient. The last bit of the fraction
-- stands for `2 ^ unit`, and numbers that follow one another have consecutive bits.
def magnitudeOfQuotient (numerator denominator : Nat) : Nat :=
  if numerator = 0 then 0
  else
    let unit := max (floorLog2 numerator denominator - 52) (-1074)
    let fraction :=
      if 0 ≤ unit then nearestQuotient numerator (denominator * Nat.pow 2 unit.toNat)
      else nearestQuotient (numerator * Nat.pow 2 (-unit).toNat) denominator
    min ((unit + 1074).toNat * 0x10000000000000 + fraction) infinityBits

-- No finite number reaches ten to this power, and no positive one goes below its inverse.
def decimalLimit : Int := 400

def ofDecimal (negative : Bool) (digits : Nat) (exponent : Int) : Binary64 :=
  let top : Int := (Nat.toDigits 10 digits).length + exponent
  ofMagnitude negative <|
    if digits = 0 ∨ top < -decimalLimit then 0
    else if decimalLimit < top then infinityBits
    else if 0 ≤ exponent then magnitudeOfQuotient (digits * Nat.pow 10 exponent.toNat) 1
    else magnitudeOfQuotient digits (Nat.pow 10 (-exponent).toNat)

theorem isNaN_notANumber (negative : Bool) : (notANumber negative).isNaN = true := by
  cases negative <;> decide

theorem isNaN_ofMagnitude (negative : Bool) (magnitude : Nat) (number : magnitude ≤ infinityBits) :
    (ofMagnitude negative magnitude).isNaN = false := by
  have rest : (ofMagnitude negative magnitude).bits.toNat % signBit = magnitude := by
    simp only [infinityBits] at number
    simp only [ofMagnitude, UInt64.toNat_ofNat', signBit]
    split <;> omega
  rw [isNaN, rest, decide_eq_false_iff_not]
  omega

theorem magnitudeOfQuotient_le (numerator denominator : Nat) :
    magnitudeOfQuotient numerator denominator ≤ infinityBits := by
  unfold magnitudeOfQuotient
  split
  · exact Nat.zero_le _
  · exact Nat.min_le_right _ _

theorem isNaN_ofDecimal (negative : Bool) (digits : Nat) (exponent : Int) :
    (ofDecimal negative digits exponent).isNaN = false := by
  apply isNaN_ofMagnitude
  split
  · exact Nat.zero_le _
  · split
    · exact Nat.le_refl _
    · split <;> exact magnitudeOfQuotient_le _ _

end Binary64

end PackageClosure.Toml
