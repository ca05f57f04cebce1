set_option autoImplicit false

namespace PackageClosure

-- The integer nearest to a quotient; a half goes to the even neighbour.
def nearestQuotient (numerator denominator : Nat) : Nat :=
  let whole := numerator / denominator
  let twice := 2 * (numerator % denominator)
  if twice < denominator then whole
  else if denominator < twice then whole + 1
  else whole + whole % 2

def floorLog2 (numerator denominator : Nat) : Int :=
  let guess : Int := (numerator.log2 : Int) - denominator.log2
  let reached :=
    if 0 ≤ guess then denominator * Nat.pow 2 guess.toNat ≤ numerator
    else denominator ≤ numerator * Nat.pow 2 (-guess).toNat
  if reached then guess else guess - 1

end PackageClosure
