import Preflight.Binary64

/-!
# Shortest decimal digits

`Binary64.shortest` gives the fewest decimal digits that read back as a value, and among those the
nearest to it.  For each number of digits in turn, only the two decimals around the value can read
back as it: if any decimal of that many digits does, then so does one of these two.
-/

namespace Preflight

namespace Binary64

/-- The least `p` with `num / den < 10 ^ p`, for positive arguments. -/
def decimalMagnitude (num den : Nat) : Int :=
  if den ≤ num then ((Nat.toDigits 10 (num / den)).length : Int)
  else
    let length := (Nat.toDigits 10 (den / num)).length
    -- the ratio lies between `10 ^ -length`, excluded, and `10 ^ (1 - length)`, included
    if num * Nat.pow 10 (length - 1) = den then 2 - (length : Int) else 1 - (length : Int)

/-- The ratio `num / den` times `10 ^ shift`, as numerator and denominator. -/
def shiftDecimal (num den : Nat) (shift : Int) : Nat × Nat :=
  if 0 ≤ shift then (num * Nat.pow 10 shift.toNat, den)
  else (num, den * Nat.pow 10 (-shift).toNat)

/-- Among the two decimals of `count` digits around a positive value, the nearer one that reads
back as the value. -/
def digitsOfCount? (significand : Nat) (exponent : Int) (count : Nat) : Option (Nat × Int) :=
  let (num, den) := ratioOf significand exponent
  let power := decimalMagnitude num den - (count : Int)
  let (n, d) := shiftDecimal num den (-power)
  let low := n / d
  let readsBack (digits : Nat) : Bool :=
    ofDecimal false digits power == .finite false significand exponent
  let nearer := if 2 * (n % d) < d || (2 * (n % d) == d && low % 2 == 0) then low else low + 1
  let farther := if nearer = low then low + 1 else low
  if readsBack nearer then some (nearer, power)
  else if readsBack farther then some (farther, power)
  else none

/-- Move a factor of ten from the digits into the power; rounding a nine up leaves one such factor
and no more. -/
def dropZero (digits : Nat) (power : Int) : Nat × Int :=
  if digits % 10 = 0 then (digits / 10, power + 1) else (digits, power)

/-- The fewest decimal digits that read back as a positive value, with their power of ten. -/
def shortest (significand : Nat) (exponent : Int) : Nat × Int :=
  let found := (List.range 17).findSome? fun i => digitsOfCount? significand exponent (i + 1)
  match found with
  | some (digits, power) => dropZero digits power
  | none => (0, 0)

end Binary64

end Preflight
