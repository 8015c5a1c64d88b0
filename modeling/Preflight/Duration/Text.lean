import Preflight.Duration
import Preflight.Text

/-!
# Durations as text

`Duration.render` writes a duration as a sequence of numbers with units, largest unit first,
leaving out what is zero: `1h 30m`, `2years 1day`, `166ms 666us 666ns`, and `0s` for no time.  A
year has 365.25 days and a month 30.44 days.

`Duration.parse` reads such text more liberally: blanks are free, units have several spellings,
and a number may have a fraction as long as the result is exact, to the nanosecond for units below
an hour and to the second above; only a number of nanoseconds has none.  The reader works in
alternating phases, a number and then its unit; each phase consumes at least one character, and
positions in error messages are counted in bytes of the text.
-/

namespace Preflight

namespace Duration

/-! ## Writing -/

/-- A count with a unit, nothing for zero; `plural` is appended to counts above one. -/
def renderPart (count : Nat) (unit plural : String) : List String :=
  if count = 0 then []
  else [toString count ++ unit ++ (if count > 1 then plural else "")]

/-- The text of a duration. -/
def render (d : Duration) : String :=
  let total := d.seconds.toNat
  let afterYears := total % 31557600
  let afterMonths := afterYears % 2630016
  let afterDays := afterMonths % 86400
  let parts :=
    renderPart (total / 31557600) "year" "s"
      ++ renderPart (afterYears / 2630016) "month" "s"
      ++ renderPart (afterMonths / 86400) "day" "s"
      ++ renderPart (afterDays / 3600) "h" ""
      ++ renderPart (afterDays % 3600 / 60) "m" ""
      ++ renderPart (afterDays % 60) "s" ""
      ++ renderPart (d.nanos / 1000000) "ms" ""
      ++ renderPart (d.nanos / 1000 % 1000) "us" ""
      ++ renderPart (d.nanos % 1000) "ns" ""
  if parts.isEmpty then "0s" else " ".intercalate parts

/-! ## Units and errors -/

/-- What can be wrong with the text of a duration.  Positions count bytes. -/
inductive ParseError where
  | empty
  | numberExpected (position : Nat)
  | invalidCharacter (position : Nat)
  /-- A number without a unit. -/
  | unitMissing (count : Nat)
  | unknownUnit (unit : String)
  /-- A number beyond the range, or a fraction that does not come out exact. -/
  | notRepresentable
  deriving DecidableEq, Repr

/-- A unit name between quotes.  Unit names hold letters and the micro sign only, so nothing in
them needs an escape. -/
def quoteUnit (unit : String) : String := "\"" ++ unit ++ "\""

/-- The wording of an error. -/
def ParseError.message : ParseError → String
  | .empty => "value was empty"
  | .numberExpected position => "expected number at " ++ toString position
  | .invalidCharacter position => "invalid character at " ++ toString position
  | .unitMissing count =>
    let n := toString count
    "time unit needed, for example " ++ n ++ "sec or " ++ n ++ "ms"
  | .unknownUnit unit =>
    "unknown time unit " ++ quoteUnit unit
      ++ ", supported units: ns, us/µs, ms, sec, min, hours, days, weeks, months, years "
      ++ "(and few variations)"
  | .notRepresentable =>
    "number is too large or cannot be represented without a lack of precision "
      ++ "(values below 1ns are not supported)"

/-- A unit of time, as what it is worth. -/
inductive TimeUnit where
  /-- Worth a number of seconds; a fraction must come out in whole seconds. -/
  | seconds (worth : Nat)
  /-- Worth a number of seconds; a fraction may come out in nanoseconds. -/
  | divisibleSeconds (worth : Nat)
  /-- Worth a number of nanoseconds. -/
  | nanos (worth : Nat)
  deriving DecidableEq, Repr

/-- The unit of a name. -/
def TimeUnit.ofName? (name : String) : Option TimeUnit :=
  if name ∈ ["nanos", "nsec", "ns"] then some (.nanos 1)
  else if name ∈ ["usec", "us", "µs"] then some (.nanos 1000)
  else if name ∈ ["millis", "msec", "ms"] then some (.nanos 1000000)
  else if name ∈ ["seconds", "second", "secs", "sec", "s"] then some (.divisibleSeconds 1)
  else if name ∈ ["minutes", "minute", "min", "mins", "m"] then some (.divisibleSeconds 60)
  else if name ∈ ["hours", "hour", "hrs", "hr", "h"] then some (.seconds 3600)
  else if name ∈ ["days", "day", "d"] then some (.seconds 86400)
  else if name ∈ ["weeks", "week", "wks", "wk", "w"] then some (.seconds 604800)
  else if name ∈ ["months", "month", "M"] then some (.seconds 2630016)
  else if name ∈ ["years", "year", "yrs", "yr", "y"] then some (.seconds 31557600)
  else none

/-! ## Exact arithmetic in 64 bits -/

/-- A number that must fit into 64 bits. -/
def word (n : Nat) : Except ParseError Nat :=
  if n < UInt64.size then .ok n else .error .notRepresentable

/-- A quotient that must be exact. -/
def exactQuotient (n d : Nat) : Except ParseError Nat :=
  if n % d = 0 then .ok (n / d) else .error .notRepresentable

/-- Add seconds and nanoseconds to a running total in the same form. -/
def addTo (total : Nat × Nat) (seconds nanos : Nat) : Except ParseError (Nat × Nat) := do
  let nanos ← word (total.2 + nanos)
  let seconds ← word (seconds + nanos / nanosPerSecond)
  let seconds ← word (total.1 + seconds)
  .ok (seconds, nanos % nanosPerSecond)

/-- The seconds and nanoseconds of a whole number of units. -/
def TimeUnit.wholeWorth (unit : TimeUnit) (n : Nat) : Except ParseError (Nat × Nat) :=
  match unit with
  | .nanos worth => (word (n * worth)).map (0, ·)
  | .seconds worth | .divisibleSeconds worth => (word (n * worth)).map (·, 0)

/-- The seconds and nanoseconds of a fraction of a unit.  A nanosecond takes no fraction, not even
one that is zero. -/
def TimeUnit.fractionWorth (unit : TimeUnit) (n d : Nat) : Except ParseError (Nat × Nat) :=
  match unit with
  | .nanos 1 => .error .notRepresentable
  | .nanos worth => do
    let product ← word (n * worth)
    (exactQuotient product d).map (0, ·)
  | .divisibleSeconds worth => do
    let product ← word (n * (worth * nanosPerSecond))
    (exactQuotient product d).map (0, ·)
  | .seconds worth => do
    let product ← word (n * worth)
    (exactQuotient product d).map (·, 0)

/-! ## Reading -/

/-- The digits after a decimal point as a ratio. -/
structure Fraction where
  numerator : Nat
  denominator : Nat

/-- The letters of unit names. -/
def isUnitChar (c : Char) : Bool := ('a' ≤ c && c ≤ 'z') || ('A' ≤ c && c ≤ 'Z') || c == 'µ'

/-- A character with its position in bytes. -/
abbrev Placed := Nat × Char

/-- The characters of a text with their positions. -/
def place : Nat → List Char → List Placed
  | _, [] => []
  | position, c :: cs => (position, c) :: place (position + c.utf8Size) cs

/-- Skip blanks up to a digit, the first of a number.  An error is placed at `start`, where the
skipping began; the end of the text gives `none`. -/
def firstDigit (start : Nat) : List Placed → Except ParseError (Option (Nat × List Placed))
  | [] => .ok none
  | (_, c) :: rest =>
    match decimalDigit? c with
    | some d => .ok (some (d, rest))
    | none => if isWhiteSpace c then firstDigit start rest else .error (.numberExpected start)

/-- Read the digits after a decimal point; `point` is the position of the point.  Stops before
the first letter. -/
def fraction (point : Nat) : Fraction → List Placed → Except ParseError (Fraction × List Placed)
  | acc, [] =>
    if acc.denominator = 1 then .error (.invalidCharacter point) else .ok (acc, [])
  | acc, (position, c) :: rest =>
    match decimalDigit? c with
    | some d => do
      let denominator ← word (acc.denominator * 10)
      let numerator ← word (acc.numerator * 10 + d)
      fraction (position + c.utf8Size) ⟨numerator, denominator⟩ rest
    | none =>
      if isWhiteSpace c then fraction (position + c.utf8Size) acc rest
      else if isUnitChar c then
        if acc.denominator = 1 then .error (.invalidCharacter point)
        else .ok (acc, (position, c) :: rest)
      else .error (.invalidCharacter point)

/-- Read the rest of a number whose first digits are known, up to its unit. -/
def number : Nat → List Placed → Except ParseError (Nat × Option Fraction × List Placed)
  | n, [] => .ok (n, none, [])
  | n, (position, c) :: rest =>
    match decimalDigit? c with
    | some d => do
      let n ← word (n * 10 + d)
      number n rest
    | none =>
      if isWhiteSpace c then number n rest
      else if isUnitChar c then .ok (n, none, (position, c) :: rest)
      else if c = '.' then do
        let (f, rest) ← fraction position ⟨0, 1⟩ rest
        .ok (n, some f, rest)
      else .error (.invalidCharacter position)

/-- Read the letters of a unit.  What follows is the end of the text, a digit, or whatever stands
after one blank, which is dropped. -/
def unitName : List Placed → Except ParseError (List Char × List Placed)
  | [] => .ok ([], [])
  | (position, c) :: rest =>
    if isDecimalDigit c then .ok ([], (position, c) :: rest)
    else if isWhiteSpace c then .ok ([], rest)
    else if isUnitChar c then (unitName rest).map fun (name, rest) => (c :: name, rest)
    else .error (.invalidCharacter position)

/-- Add a number of units to a running total. -/
def addUnits (total : Nat × Nat) (n : Nat) (part : Option Fraction) (name : String) :
    Except ParseError (Nat × Nat) := do
  if name.isEmpty then .error (.unitMissing n)
  else
    match TimeUnit.ofName? name with
    | none => .error (.unknownUnit name)
    | some unit =>
      let (seconds, nanos) ← unit.wholeWorth n
      let total ← addTo total seconds nanos
      match part with
      | none => .ok total
      | some f =>
        let (seconds, nanos) ← unit.fractionWorth f.numerator f.denominator
        addTo total seconds nanos

/-- The position of the next character, or the end of the text. -/
def positionOf (finish : Nat) : List Placed → Nat
  | [] => finish
  | (position, _) :: _ => position

/-- Read numbers with units to the end of the text.  Each round takes a digit at least, which
bounds the number of rounds by the length of the text. -/
def readAll (finish : Nat) : Nat → Nat × Nat → Option (Nat × List Placed) →
    Except ParseError (Nat × Nat)
  | _, total, none => .ok total
  | 0, _, some _ => .error .empty
  | bound + 1, total, some (digit, rest) => do
    let (n, part, rest) ← number digit rest
    let (name, rest) ← unitName rest
    let total ← addUnits total n part (String.ofList name)
    let next ← firstDigit (positionOf finish rest) rest
    readAll finish bound total next

/-- Read the text of a duration. -/
def parse (s : String) : Except ParseError Duration :=
  if s = "0" then .ok zero
  else do
    let placed := place 0 s.toList
    match ← firstDigit 0 placed with
    | none => .error .empty
    | some first =>
      let (seconds, nanos) ← readAll s.utf8ByteSize (placed.length + 1) (0, 0) (some first)
      match ofParts? (UInt64.ofNat seconds) nanos with
      | some d => .ok d
      | none => .error .notRepresentable

end Duration

end Preflight
