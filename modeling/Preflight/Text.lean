/-!
# Text

The few facts about characters and strings that the rest of the library shares: which
characters are blank, what digits of a base spell, how a token is cut at its first separator, and
how numbers are padded.  Everything works on the list of code points of a string, so that it can
be reasoned about by recursion on that list.

A reader takes the rest of a text and answers what it read with what is left, or `none`.
-/

namespace Preflight

/-! ## Character classes -/

/-- The characters with the Unicode property `White_Space`. -/
def isWhiteSpace (c : Char) : Bool :=
  let n := c.toNat
  (9 ≤ n && n ≤ 13) || n == 0x20 || n == 0x85 || n == 0xA0 || n == 0x1680
    || (0x2000 ≤ n && n ≤ 0x200A) || n == 0x2028 || n == 0x2029 || n == 0x202F
    || n == 0x205F || n == 0x3000

/-- Whether a code point lies in one of some ranges, both ends included. -/
def inRanges (ranges : List (Nat × Nat)) (n : Nat) : Bool :=
  ranges.any fun (low, high) => low ≤ n && n ≤ high

/-! ## Digits -/

/-- The value of a hexadecimal digit, of either letter case. -/
def hexDigit? (c : Char) : Option Nat :=
  if '0' ≤ c && c ≤ '9' then some (c.toNat - '0'.toNat)
  else if 'a' ≤ c && c ≤ 'f' then some (c.toNat - 'a'.toNat + 10)
  else if 'A' ≤ c && c ≤ 'F' then some (c.toNat - 'A'.toNat + 10)
  else none

/-- The value of a digit of a base, which is sixteen at most. -/
def digit? (base : Nat) (c : Char) : Option Nat := (hexDigit? c).filter (· < base)

/-- Whether a character is a digit of a base. -/
def isDigitOf (base : Nat) (c : Char) : Bool := (digit? base c).isSome

/-- Whether characters are digits of a base, at least one. -/
def areDigitsOf (base : Nat) (cs : List Char) : Bool := !cs.isEmpty && cs.all (isDigitOf base)

/-- The number that digits of a base spell, most significant first. -/
def valueIn (base : Nat) (digits : List Char) : Nat :=
  digits.foldl (fun n c => base * n + (digit? base c).getD 0) 0

/-- The value of a decimal digit. -/
abbrev decimalDigit? (c : Char) : Option Nat := digit? 10 c

/-- Whether a character is a decimal digit. -/
abbrev isDecimalDigit (c : Char) : Bool := isDigitOf 10 c

/-- The number that decimal digits spell. -/
abbrev decimalValue (digits : List Char) : Nat := valueIn 10 digits

/-! ## Parts of numerals -/

/-- Cut an optional sign off a numeral; `true` stands for a minus. -/
def splitSign : List Char → Bool × List Char
  | '-' :: rest => (true, rest)
  | '+' :: rest => (false, rest)
  | cs => (false, cs)

/-- A number with a sign. -/
def signed (negative : Bool) (n : Nat) : Int := if negative then -n else n

/-- Whether a number is one of 64 bits with a sign. -/
def fitsInt64 (n : Int) : Bool := -(Nat.pow 2 63 : Int) ≤ n && n < Nat.pow 2 63

/-- The number of 64 bits that an optional sign and digits of a base spell. -/
def int64? (base : Nat) (cs : List Char) : Option Int :=
  let (negative, digits) := splitSign cs
  let n := signed negative (valueIn base digits)
  if areDigitsOf base digits && fitsInt64 n then some n else none

/-- Read two decimal digits. -/
def readTwoDigits? : List Char → Option (Nat × List Char)
  | a :: b :: rest => if areDigitsOf 10 [a, b] then some (decimalValue [a, b], rest) else none
  | _ => none

/-- Read an expected character. -/
def expect? (c : Char) : List Char → Option (List Char)
  | c' :: rest => if c = c' then some rest else none
  | [] => none

/-! ## Strings -/

/-- Whether a string has no character outside `White_Space`. -/
def isBlank (s : String) : Bool := s.toList.all isWhiteSpace

/-- Cut a string at the first occurrence of a character, which belongs to neither part. -/
def splitAtFirst? (separator : Char) (s : String) : Option (String × String) :=
  match s.toList.span (· != separator) with
  | (_, []) => none
  | (before, _ :: after) => some (String.ofList before, String.ofList after)

/-- Remove a leading run of characters. -/
def dropLeading? (lead : List Char) (cs : List Char) : Option (List Char) :=
  match lead, cs with
  | [], cs => some cs
  | l :: lead, c :: cs => if l = c then dropLeading? lead cs else none
  | _ :: _, [] => none

/-- Split a list at a separator; there is always one more part than separators. -/
def splitParts {α : Type} [DecidableEq α] (separator : α) : List α → List (List α)
  | [] => [[]]
  | x :: xs =>
    if x = separator then [] :: splitParts separator xs
    else
      match splitParts separator xs with
      | [] => [[x]]
      | part :: parts => (x :: part) :: parts

/-- Write a number in lower-case hexadecimal, padded with zeros to a width. -/
def hexText (width n : Nat) : String :=
  let digits := Nat.toDigits 16 n
  String.ofList (List.replicate (width - digits.length) '0' ++ digits)

/-- Write a number in decimal, padded with zeros to a width. -/
def paddedText (width n : Nat) : String :=
  let digits := Nat.toDigits 10 n
  String.ofList (List.replicate (width - digits.length) '0' ++ digits)

end Preflight
