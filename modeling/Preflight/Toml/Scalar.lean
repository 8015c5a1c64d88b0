import Preflight.Calendar
import Preflight.Text
import Preflight.Toml

/-!
# Numbers, dates and times in TOML text

A value that is neither a string nor in brackets is a run of characters without blanks, apart from
the blank that may stand between a date and a time.  The functions here classify such a run as a
whole: `Toml.integer?`, `Toml.float?` and `Toml.datetime?` each answer the value of a run of their
kind and `none` for any other run.
-/

namespace Preflight

namespace Toml

/-! ## Numbers -/

/-- Digits of a base with single underscores between them; answers the digits alone. -/
def joinDigits? (base : Nat) (cs : List Char) : Option (List Char) :=
  let groups := splitParts '_' cs
  if groups.all (areDigitsOf base) then some groups.flatten else none

/-- An integer of 64 bits with sign. -/
def boundedInt? (n : Int) : Option Toml :=
  if fitsInt64 n then some (.int n) else none

/-- Digits of a decimal integer: no leading zero. -/
def decimalInteger? (cs : List Char) : Option (List Char) := do
  let digits ← joinDigits? 10 cs
  if digits.length > 1 && digits.head? == some '0' then none
  some digits

/-- The integer that digits of a base spell. -/
def integerIn? (base : Nat) (cs : List Char) : Option Toml :=
  (joinDigits? base cs).bind fun digits => boundedInt? (valueIn base digits)

/-- Classify a run as an integer. -/
def integer? (run : List Char) : Option Toml :=
  match run with
  | '0' :: 'x' :: cs => integerIn? 16 cs
  | '0' :: 'o' :: cs => integerIn? 8 cs
  | '0' :: 'b' :: cs => integerIn? 2 cs
  | run =>
    let (negative, cs) := splitSign run
    (decimalInteger? cs).bind fun ds => boundedInt? (signed negative (decimalValue ds))

/-- The exponent of a float: nothing, or `e` with a signed integer. -/
def floatExponent? : List Char → Option Int
  | [] => some 0
  | c :: cs =>
    if c = 'e' || c = 'E' then
      let (negative, cs) := splitSign cs
      (joinDigits? 10 cs).map fun ds => signed negative (decimalValue ds)
    else none

/-- Classify a run as a float. -/
def float? (run : List Char) : Option Toml :=
  let (negative, body) := splitSign run
  if body = ['i', 'n', 'f'] then some (.float (.infinite negative))
  else if body = ['n', 'a', 'n'] then some (.float .nan)
  else do
    let whole := body.takeWhile fun c => isDecimalDigit c || c == '_'
    let digits ← decimalInteger? whole
    let rest := body.drop whole.length
    let (fraction, rest) ← match rest with
      | '.' :: rest =>
        let fraction := rest.takeWhile fun c => isDecimalDigit c || c == '_'
        (joinDigits? 10 fraction).map fun ds => (ds, rest.drop fraction.length)
      | 'e' :: _ => some ([], rest)
      | 'E' :: _ => some ([], rest)
      | _ => none
    let exponent ← floatExponent? rest
    let x := Binary64.ofDecimal negative (decimalValue (digits ++ fraction))
      (exponent - fraction.length)
    if x = .infinite false then none else some (.float x)

/-! ## Dates and times -/

/-- Read a date. -/
def readDate? (cs : List Char) : Option (CalendarDay × List Char) := do
  let (century, cs) ← readTwoDigits? cs
  let (yearOfCentury, cs) ← readTwoDigits? cs
  let cs ← expect? '-' cs
  let (month, cs) ← readTwoDigits? cs
  let cs ← expect? '-' cs
  let (day, cs) ← readTwoDigits? cs
  let date : CalendarDay := ⟨100 * century + yearOfCentury, month, day⟩
  if date.isValid then some (date, cs) else none

/-- Read hours and minutes. -/
def readHourMinute? (cs : List Char) : Option (Nat × Nat × List Char) := do
  let (hour, cs) ← readTwoDigits? cs
  let cs ← expect? ':' cs
  let (minute, cs) ← readTwoDigits? cs
  if 23 < hour || 59 < minute then none
  some (hour, minute, cs)

/-- The fraction of a second: nine digits at most, and no zeros at the end. -/
def fractionText (digits : List Char) : String :=
  match ((digits.take 9).reverse.dropWhile (· == '0')).reverse with
  | [] => ""
  | kept => "." ++ String.ofList kept

/-- Read a time of day as its text. -/
def readTime? (cs : List Char) : Option (String × List Char) := do
  let (hour, minute, cs) ← readHourMinute? cs
  let cs ← expect? ':' cs
  let (second, cs) ← readTwoDigits? cs
  if 60 < second then none
  let text := paddedText 2 hour ++ ":" ++ paddedText 2 minute ++ ":" ++ paddedText 2 second
  match cs with
  | '.' :: cs =>
    let digits := cs.takeWhile isDecimalDigit
    if digits.isEmpty then none
    else some (text ++ fractionText digits, cs.drop digits.length)
  | cs => some (text, cs)

/-- The distance from UTC that the rest of a run gives, as its text; nothing gives none.  No
distance at all is written with a plus. -/
def offset? (cs : List Char) : Option String :=
  match cs with
  | [] => some ""
  | ['Z'] => some "Z"
  | ['z'] => some "Z"
  | c :: cs =>
    if c = '+' || c = '-' then
      match readHourMinute? cs with
      | some (hour, minute, []) =>
        let sign := if c = '-' && 0 < hour + minute then "-" else "+"
        some (sign ++ paddedText 2 hour ++ ":" ++ paddedText 2 minute)
      | _ => none
    else none

/-- The text of a date. -/
def dateText (d : CalendarDay) : String :=
  paddedText 4 d.year.toNat ++ "-" ++ paddedText 2 d.month ++ "-" ++ paddedText 2 d.day

/-- Classify a run as a date, a time, or both. -/
def datetime? (run : List Char) : Option Toml :=
  match readDate? run with
  | some (date, []) => some (.datetime (dateText date))
  | some (date, c :: cs) =>
    if c = 'T' || c = 't' || c = ' ' then do
      let (time, cs) ← readTime? cs
      let offset ← offset? cs
      some (.datetime (dateText date ++ "T" ++ time ++ offset))
    else none
  | none =>
    match readTime? run with
    | some (time, []) => some (.datetime time)
    | _ => none

end Toml

end Preflight
