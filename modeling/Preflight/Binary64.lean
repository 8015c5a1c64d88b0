/-!
# Binary floating point

Numbers with a fraction occur in documents and settings as binary64 values.  A finite value is a
sign, a significand and a power of two, so that every operation here is arithmetic on integers:

* `Binary64.ofRatio` rounds a ratio of naturals to the nearest value, ties to an even
  significand, with gradual underflow and overflow to an infinity;
* `Binary64.ofDecimal` is that rounding for a decimal numeral.

A finite value is canonical when its significand is below `2 ^ 53` and either reaches `2 ^ 52`
or has the least exponent; `ofRatio` produces canonical values only.
-/

namespace Preflight

/-- A binary64 value. -/
inductive Binary64 where
  /-- The number `± significand * 2 ^ exponent`. -/
  | finite (negative : Bool) (significand : Nat) (exponent : Int)
  | infinite (negative : Bool)
  | nan
  deriving DecidableEq, Repr, Inhabited

namespace Binary64

/-! ## Rounding -/

/-- The least exponent of a finite value. -/
def minExponent : Int := -1074

/-- The greatest exponent of a finite value. -/
def maxExponent : Int := 971

/-- The quotient of two naturals rounded to the nearest integer, ties to even. -/
def roundHalfEven (num den : Nat) : Nat :=
  let q := num / den
  let r := num % den
  if 2 * r > den || (2 * r == den && q % 2 == 1) then q + 1 else q

/-- The ratio `num / den` times `2 ^ shift`, as numerator and denominator. -/
def shiftRatio (num den : Nat) (shift : Int) : Nat × Nat :=
  if 0 ≤ shift then (num * Nat.pow 2 shift.toNat, den) else (num, den * Nat.pow 2 (-shift).toNat)

/-- The greatest `e` with `2 ^ e ≤ num / den`, for positive arguments. -/
def ratioLog2 (num den : Nat) : Int :=
  let guess : Int := (Nat.log2 num : Int) - (Nat.log2 den : Int)
  let (n, d) := shiftRatio num den (-guess)
  if d ≤ n then guess else guess - 1

/-- The value nearest to `± num / den`. -/
def ofRatio (negative : Bool) (num den : Nat) : Binary64 :=
  if num = 0 then .finite negative 0 minExponent
  else
    let exponent := max (ratioLog2 num den - 52) minExponent
    let (n, d) := shiftRatio num den (-exponent)
    let significand := roundHalfEven n d
    let (significand, exponent) :=
      if significand = Nat.pow 2 53 then (Nat.pow 2 52, exponent + 1) else (significand, exponent)
    if exponent > maxExponent then .infinite negative
    else .finite negative significand exponent

/-- The value nearest to `± digits * 10 ^ exponent`.  Numerals far outside the range are decided
without computing the power. -/
def ofDecimal (negative : Bool) (digits : Nat) (exponent : Int) : Binary64 :=
  let magnitude : Int := (Nat.toDigits 10 digits).length + exponent
  if digits = 0 || magnitude < -400 then .finite negative 0 minExponent
  else if magnitude > 400 then .infinite negative
  else if 0 ≤ exponent then ofRatio negative (digits * Nat.pow 10 exponent.toNat) 1
  else ofRatio negative digits (Nat.pow 10 (-exponent).toNat)

/-- The value of a natural number. -/
def ofNat (n : Nat) : Binary64 := ofRatio false n 1

/-- The magnitude of a finite value as a ratio. -/
def ratioOf (significand : Nat) (exponent : Int) : Nat × Nat :=
  shiftRatio significand 1 exponent

/-- Multiply by a power of ten, both the power and the product rounded. -/
def scaleUp (x : Binary64) (power : Nat) : Binary64 :=
  match x, ofNat (Nat.pow 10 power) with
  | .finite neg s e, .finite _ s' e' =>
    let (n, d) := ratioOf s e
    let (n', d') := ratioOf s' e'
    ofRatio neg (n * n') (d * d')
  | x, _ => x

/-- Divide by a power of ten, both the power and the quotient rounded. -/
def scaleDown (x : Binary64) (power : Nat) : Binary64 :=
  match x, ofNat (Nat.pow 10 power) with
  | .finite neg s e, .finite _ s' e' =>
    let (n, d) := ratioOf s e
    let (n', d') := ratioOf s' e'
    ofRatio neg (n * d') (d * n')
  | x, _ => x

/-- Whether a value is a zero of either sign. -/
def isZero : Binary64 → Bool
  | .finite _ s _ => s == 0
  | _ => false

/-- Whether a value is an infinity. -/
def isInfinite : Binary64 → Bool
  | .infinite _ => true
  | _ => false

/-- The opposite value. -/
def negate : Binary64 → Binary64
  | .finite neg s e => .finite (!neg) s e
  | .infinite neg => .infinite (!neg)
  | .nan => .nan

end Binary64

end Preflight
