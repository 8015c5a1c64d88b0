import Preflight.Binary64.Shortest
import Preflight.Text

/-!
# Binary floating point as text

A value is written with its shortest digits, in one of two notations: `Binary64.plainText` is
positional throughout, `Binary64.documentText` turns to an exponent for very large and very small
values.  `Binary64.ofText?` reads any numeral and the names of the special values.
-/

namespace Preflight

namespace Binary64

/-! ## Writing -/

/-- `count` zeros. -/
def zeros (count : Int) : String := String.ofList (List.replicate count.toNat '0')

/-- Digits with a decimal point after the first `whole` of them, which may be none or negative. -/
def pointed (digits : List Char) (whole : Int) : String :=
  if 0 < whole then
    String.ofList (digits.take whole.toNat) ++ "." ++ String.ofList (digits.drop whole.toNat)
  else "0." ++ zeros (-whole) ++ String.ofList digits

/-- Positional notation without a forced fraction: `1`, `0.5`, `100000000000000000000000`. -/
def plainText : Binary64 → String
  | .nan => "NaN"
  | .infinite neg => (if neg then "-" else "") ++ "inf"
  | .finite neg s e =>
    let sign := if neg then "-" else ""
    if s = 0 then sign ++ "0"
    else
      let (d, power) := shortest s e
      let digits := Nat.toDigits 10 d
      let body :=
        if 0 ≤ power then String.ofList digits ++ zeros power
        else pointed digits (digits.length + power)
      sign ++ body

/-- Notation of a document: a fraction is always written, and values of `10 ^ 16` and more or
below `10 ^ -5` use an exponent. -/
def documentText : Binary64 → String
  | .nan => "null"
  | .infinite _ => "null"
  | .finite neg s e =>
    let sign := if neg then "-" else ""
    if s = 0 then sign ++ "0.0"
    else
      let (d, power) := shortest s e
      let digits := Nat.toDigits 10 d
      let whole : Int := digits.length + power
      let body :=
        if 0 ≤ power && whole ≤ 16 then String.ofList digits ++ zeros power ++ ".0"
        else if -5 < whole && whole ≤ 16 then pointed digits whole
        else
          let mantissa := if digits.length = 1 then String.ofList digits else pointed digits 1
          mantissa ++ "e" ++ toString (whole - 1)
      sign ++ body

/-! ## Reading -/

/-- Read the exponent part of a numeral: nothing, or `e` with a signed integer. -/
def readExponent? : List Char → Option Int
  | [] => some 0
  | c :: rest =>
    if c = 'e' || c = 'E' then
      let (negative, digits) := splitSign rest
      if areDigitsOf 10 digits then some (signed negative (decimalValue digits)) else none
    else none

/-- Read a numeral: digits with an optional point and exponent, or a named special value. -/
def ofText? (s : String) : Option Binary64 :=
  let (negative, body) := splitSign s.toList
  let word := String.ofList (body.map Char.toLower)
  if word = "inf" || word = "infinity" then some (.infinite negative)
  else if word = "nan" then some .nan
  else
    let (whole, rest) := body.span isDecimalDigit
    let (fraction, rest) :=
      match rest with
      | '.' :: rest => rest.span isDecimalDigit
      | rest => ([], rest)
    if whole.isEmpty && fraction.isEmpty then none
    else
      (readExponent? rest).map fun e =>
        ofDecimal negative (decimalValue (whole ++ fraction)) (e - fraction.length)

end Binary64

end Preflight
