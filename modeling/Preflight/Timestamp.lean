import Preflight.Calendar
import Preflight.Text

/-!
# Points in time

Release records carry the times of their creation and last change.  A `Timestamp` is a day of the
Gregorian calendar, counted from 1 January 1970, with the time of that day in UTC; a leap second
is the last second of its minute with a second or more of nanoseconds.

`Timestamp.parse?` reads the usual notation, `2024-01-02T03:04:05.5+02:00`, in a forgiving form:
blanks may stand before a field, fields need not be padded, and a blank may replace the `T`.
`Timestamp.render` writes the time in UTC with the fewest of 0, 3, 6 or 9 fraction digits that
show all of it.
-/

namespace Preflight

/-- A point in time. -/
structure Timestamp where
  /-- Days since 1 January 1970. -/
  day : Int
  /-- Whole seconds since midnight in UTC. -/
  second : Nat
  /-- Nanoseconds beyond; at least one second of them marks a leap second. -/
  nanos : Nat
  deriving DecidableEq, Repr, Inhabited

namespace Timestamp

/-! ## Range -/

/-- The years that can be represented. -/
def yearInRange (year : Int) : Bool := -262143 ≤ year && year ≤ 262142

/-! ## Reading -/

/-- The rest of a text. -/
abbrev Input := List Char

/-- Drop blanks. -/
def skipBlanks (cs : Input) : Input := cs.dropWhile isWhiteSpace

/-- Read between one and `most` digits. -/
def readNumber? (most : Nat) (cs : Input) : Option (Nat × Input) :=
  let digits := (cs.take most).takeWhile isDecimalDigit
  if digits.isEmpty then none else some (decimalValue digits, cs.drop digits.length)

/-- Read a field after blanks. -/
def readField? (cs : Input) : Option (Nat × Input) := readNumber? 2 (skipBlanks cs)

/-- Read a separator after blanks. -/
def readSeparator? (c : Char) (cs : Input) : Option Input := expect? c (skipBlanks cs)

/-- Read a year: four digits at most, or any number of them after a sign. -/
def readYear? (cs : Input) : Option (Int × Input) :=
  match skipBlanks cs with
  | '-' :: rest => (readNumber? rest.length rest).map fun (n, rest) => (-(n : Int), rest)
  | '+' :: rest => (readNumber? rest.length rest).map fun (n, rest) => ((n : Int), rest)
  | cs => (readNumber? 4 cs).map fun (n, rest) => ((n : Int), rest)

/-- Read the fraction of a second in nanoseconds; digits beyond the ninth are dropped. -/
def readNanos? : Input → Option (Nat × Input)
  | '.' :: cs =>
    match cs.span isDecimalDigit with
    | ([], _) => none
    | (digits, rest) =>
      let kept := digits.take 9
      some (decimalValue kept * Nat.pow 10 (9 - kept.length), rest)
  | cs => some (0, cs)

/-- Read the distance from UTC in minutes. -/
def readOffset? (cs : Input) : Option (Int × Input) :=
  match cs with
  | 'Z' :: rest => some (0, rest)
  | 'z' :: rest => some (0, rest)
  | u :: t :: c :: rest =>
    if [u, t, c].map Char.toUpper = ['U', 'T', 'C'] then some (0, rest)
    else if u = '+' || u = '-' || u = '−' then do
      let (hours, rest) ← readTwoDigits? (t :: c :: rest)
      let (minutes, rest) ← readTwoDigits? (rest.dropWhile fun c => c == ':' || isWhiteSpace c)
      if 60 ≤ minutes || 24 ≤ hours then none
      let offset : Int := (60 * hours + minutes : Nat)
      some (if u = '+' then offset else -offset, rest)
    else none
  | _ => none

/-- The timestamp of a local date and time at a distance from UTC. -/
def ofLocal? (date : CalendarDay) (hour minute second nanos : Nat) (offset : Int) :
    Option Timestamp := do
  if !yearInRange date.year || !date.isValid then none
  if hour > 23 || minute > 59 || second > 60 then none
  let (second, nanos) := if second = 60 then (59, nanos + 1000000000) else (second, nanos)
  let minutes : Int := (60 * hour + minute : Nat) - offset
  let day := date.number + minutes / 1440
  if !yearInRange (CalendarDay.ofNumber day).year then none
  some ⟨day, 60 * (minutes % 1440).toNat + second, nanos⟩

/-- Read a point in time. -/
def parse? (s : String) : Option Timestamp := do
  let (year, cs) ← readYear? s.toList
  let cs ← readSeparator? '-' cs
  let (month, cs) ← readField? cs
  let cs ← readSeparator? '-' cs
  let (day, cs) ← readField? cs
  let cs ← match cs with
    | c :: rest => if c = 'T' || c = 't' || c = ' ' then some rest else none
    | [] => none
  let (hour, cs) ← readField? cs
  let cs ← readSeparator? ':' cs
  let (minute, cs) ← readField? cs
  let cs ← readSeparator? ':' cs
  let (second, cs) ← readField? cs
  let (nanos, cs) ← readNanos? cs
  let (offset, cs) ← readOffset? (skipBlanks cs)
  if !(skipBlanks cs).isEmpty then none
  ofLocal? ⟨year, month, day⟩ hour minute second nanos offset

/-! ## Writing -/

/-- A year: four digits, or a sign and at least four outside of 0 to 9999. -/
def renderYear (year : Int) : String :=
  if 0 ≤ year && year ≤ 9999 then paddedText 4 year.toNat
  else (if year < 0 then "-" else "+") ++ paddedText 4 year.natAbs

/-- The fraction of a second. -/
def renderNanos (nanos : Nat) : String :=
  if nanos = 0 then ""
  else if nanos % 1000000 = 0 then "." ++ paddedText 3 (nanos / 1000000)
  else if nanos % 1000 = 0 then "." ++ paddedText 6 (nanos / 1000)
  else "." ++ paddedText 9 nanos

/-- The text of a point in time. -/
def render (t : Timestamp) : String :=
  let date := CalendarDay.ofNumber t.day
  let leap := t.nanos / 1000000000
  renderYear date.year ++ "-" ++ paddedText 2 date.month ++ "-" ++ paddedText 2 date.day
    ++ "T" ++ paddedText 2 (t.second / 3600) ++ ":" ++ paddedText 2 (t.second % 3600 / 60)
    ++ ":" ++ paddedText 2 (t.second % 60 + leap) ++ renderNanos (t.nanos % 1000000000) ++ "Z"

end Timestamp

end Preflight
