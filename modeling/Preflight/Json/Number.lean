import Preflight.Json
import Preflight.Text

/-!
# Numbers in JSON text

The value of a number as it is written.  An integer that fits is taken exactly.  Any other number
becomes a binary64 value: its leading digits, as many as fit into 64 bits, are rounded to binary64
and then scaled by a power of ten, so the result can differ in the last digit from the value that
is nearest to the number.
-/

namespace Preflight

namespace Json.Number

/-- The greatest number of 64 bits. -/
def maxWord : Nat := UInt64.size - 1

/-- Leading digits of a numeral as far as they fit into 64 bits, and how many digits follow. -/
def leadingDigits : Nat → List Char → Nat × Nat
  | value, [] => (value, 0)
  | value, c :: cs =>
    let next := 10 * value + (decimalDigit? c).getD 0
    if next ≤ maxWord then leadingDigits next cs else (value, cs.length + 1)

/-- Scale by powers of ten in steps of at most `10 ^ 308`; `none` when the value overflows. -/
def scale? (x : Binary64) (exponent : Int) : Option Binary64 :=
  if 0 ≤ exponent then
    if exponent ≤ 308 then
      let y := x.scaleUp exponent.toNat
      if y.isInfinite then none else some y
    else if x.isZero then some x
    else none
  else if -308 ≤ exponent then some (x.scaleDown (-exponent).toNat)
  else if x.isZero then some x
  else scale? (x.scaleDown 308) (exponent + 308)
termination_by (-exponent).toNat
decreasing_by omega

/-- The parts of a number: sign, whole digits, digits after the point, and the exponent with its
sign, each absent when not written. -/
structure Parts where
  negative : Bool
  whole : List Char
  fraction : Option (List Char)
  exponent : Option (Bool × List Char)

/-- The binary64 value of a number; `none` when it overflows. -/
def float? (parts : Parts) : Option Binary64 :=
  let (value, dropped) := leadingDigits 0 parts.whole
  let (value, shift) : Nat × Int :=
    match parts.fraction with
    | none => (value, dropped)
    | some fraction =>
      let (value', dropped') := leadingDigits value fraction
      (value', (dropped : Int) - ((fraction.length : Int) - (dropped' : Int)))
  let signed (x : Binary64) : Binary64 := if parts.negative then x.negate else x
  match parts.exponent with
  | none => (scale? (Binary64.ofNat value) shift).map signed
  | some (below, digits) =>
    let e := decimalValue digits
    if e > Nat.pow 2 31 - 1 then
      if value = 0 || below then some (signed (Binary64.ofNat 0)) else none
    else (scale? (Binary64.ofNat value) (if below then shift - e else shift + e)).map signed

/-- The value of a number. -/
def value (parts : Parts) : Json :=
  let n := decimalValue parts.whole
  if parts.fraction.isNone && parts.exponent.isNone && !parts.negative && n ≤ maxWord then
    .int n
  else if parts.fraction.isNone && parts.exponent.isNone && parts.negative && n != 0
      && n ≤ Nat.pow 2 63 then
    .int (-(n : Int))
  else
    match float? parts with
    | some x => .float x
    | none => .unreadable

end Json.Number

end Preflight
