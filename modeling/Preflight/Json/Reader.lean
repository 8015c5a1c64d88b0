import Preflight.Json.Number

/-!
# Reading JSON text

`Json.parse?` reads one JSON document: a value between blanks, and nothing after it.

The grammar is that of the standard.  Each reader takes the rest of the text and returns what it
read with what is left.  The readers of nested values carry a bound on the number of characters
still to read; the bound is computed from the text, and every value takes at least one character,
so it never runs out on a real document.

Some well-formed text has no value and reads as `Json.unreadable`: an escape of half a surrogate
pair, a number that overflows binary64, and what is nested more than `maxDepth` deep.  A record
with an unreadable member name is unreadable as a whole.
-/

namespace Preflight

namespace Json

/-- The rest of a text. -/
abbrev Input := List Char

/-- Whether a character may stand between tokens. -/
def isBlankChar (c : Char) : Bool := c == ' ' || c == '\n' || c == '\t' || c == '\r'

/-- Drop the blanks before the next token. -/
def skipBlanks (cs : Input) : Input := cs.dropWhile isBlankChar

/-! ## Numbers -/

/-- Read the digits of a numeral that must have at least one. -/
def readDigits? (cs : Input) : Option (List Char × Input) :=
  match cs.span isDecimalDigit with
  | ([], _) => none
  | (digits, rest) => some (digits, rest)

/-- Read an optional fraction part. -/
def readFraction? : Input → Option (Option (List Char) × Input)
  | '.' :: cs => (readDigits? cs).map fun (digits, rest) => (some digits, rest)
  | cs => some (none, cs)

/-- Read an optional exponent part. -/
def readExponent? : Input → Option (Option (Bool × List Char) × Input)
  | c :: cs =>
    if c = 'e' || c = 'E' then
      let (below, cs) := splitSign cs
      (readDigits? cs).map fun (digits, rest) => (some (below, digits), rest)
    else some (none, c :: cs)
  | [] => some (none, [])

/-- Read a number; leading zeros are not allowed. -/
def readNumber? (cs : Input) : Option (Json × Input) := do
  let (negative, cs) := match cs with
    | '-' :: cs => (true, cs)
    | cs => (false, cs)
  let (whole, cs) ← readDigits? cs
  if whole.length > 1 && whole.head? == some '0' then none
  let (fraction, cs) ← readFraction? cs
  let (exponent, cs) ← readExponent? cs
  some (Number.value ⟨negative, whole, fraction, exponent⟩, cs)

/-! ## Strings -/

/-- Read four hexadecimal digits. -/
def readHex4? : Input → Option (Nat × Input)
  | a :: b :: c :: d :: rest =>
    if areDigitsOf 16 [a, b, c, d] then some (valueIn 16 [a, b, c, d], rest) else none
  | _ => none

/-- The character that a one-letter escape stands for. -/
def simpleEscape? (c : Char) : Option Char :=
  match c with
  | '"' => some '"'
  | '\\' => some '\\'
  | '/' => some '/'
  | 'b' => some '\x08'
  | 'f' => some '\x0c'
  | 'n' => some '\n'
  | 'r' => some '\r'
  | 't' => some '\t'
  | _ => none

/-- One unit of a string: a character, or half of a surrogate pair. -/
inductive StringUnit where
  | char (c : Char)
  | half (code : Nat)

/-- Read the unit after a backslash. -/
def readEscape? : Input → Option (StringUnit × Input)
  | 'u' :: cs => do
    let (code, rest) ← readHex4? cs
    if 0xD800 ≤ code && code ≤ 0xDFFF then some (.half code, rest)
    else some (.char (Char.ofNat code), rest)
  | c :: rest => (simpleEscape? c).map fun c => (.char c, rest)
  | [] => none

/-- Read the units of a string up to its closing quote. -/
def readUnits? : Nat → Input → Option (List StringUnit × Input)
  | 0, _ => none
  | _ + 1, [] => none
  | bound + 1, c :: cs =>
    if c = '"' then some ([], cs)
    else if c = '\\' then do
      let (unit, cs) ← readEscape? cs
      let (units, rest) ← readUnits? bound cs
      some (unit :: units, rest)
    else if c.toNat < 0x20 then none
    else do
      let (units, rest) ← readUnits? bound cs
      some (.char c :: units, rest)

/-- Join surrogate halves into characters; `none` when a half has no partner. -/
def joinUnits? : List StringUnit → Option (List Char)
  | [] => some []
  | .char c :: units => (joinUnits? units).map (c :: ·)
  | .half high :: .half low :: units =>
    if high < 0xDC00 && 0xDC00 ≤ low then
      (joinUnits? units).map
        (Char.ofNat (0x10000 + (high - 0xD800) * 0x400 + (low - 0xDC00)) :: ·)
    else none
  | .half _ :: _ => none

/-- Read a string after its opening quote; the inner `none` is a string without value. -/
def readString? (cs : Input) : Option (Option String × Input) := do
  let (units, rest) ← readUnits? (cs.length + 1) cs
  some ((joinUnits? units).map String.ofList, rest)

/-! ## Values -/

/-- The record of members whose names may be unreadable. -/
def recordOf (members : List (Option String × Json)) : Json :=
  match members.mapM fun (name, value) => name.map (·, value) with
  | some members => .record members
  | none => .unreadable

mutual

/-- Read a value that starts at the first character. -/
def readValue? : Nat → Input → Option (Json × Input)
  | 0, _ => none
  | bound + 1, cs =>
    match cs with
    | '[' :: cs =>
      match skipBlanks cs with
      | ']' :: rest => some (.list [], rest)
      | cs => (readItems? bound cs).map fun (items, rest) => (.list items, rest)
    | '\x7b' :: cs =>
      match skipBlanks cs with
      | '\x7d' :: rest => some (.record [], rest)
      | cs => (readMembers? bound cs).map fun (members, rest) => (recordOf members, rest)
    | '"' :: cs =>
      (readString? cs).map fun (s, rest) => ((s.map Json.text).getD .unreadable, rest)
    | 'n' :: 'u' :: 'l' :: 'l' :: rest => some (.null, rest)
    | 't' :: 'r' :: 'u' :: 'e' :: rest => some (.bool true, rest)
    | 'f' :: 'a' :: 'l' :: 's' :: 'e' :: rest => some (.bool false, rest)
    | cs => readNumber? cs

/-- Read the items of a list, at least one, up to the closing bracket. -/
def readItems? : Nat → Input → Option (List Json × Input)
  | 0, _ => none
  | bound + 1, cs => do
    let (item, cs) ← readValue? bound cs
    match skipBlanks cs with
    | ']' :: rest => some ([item], rest)
    | ',' :: cs =>
      let (items, rest) ← readItems? bound (skipBlanks cs)
      some (item :: items, rest)
    | _ => none

/-- Read the members of a record, at least one, up to the closing brace. -/
def readMembers? : Nat → Input → Option (List (Option String × Json) × Input)
  | 0, _ => none
  | bound + 1, cs =>
    match cs with
    | '"' :: cs => do
      let (name, cs) ← readString? cs
      match skipBlanks cs with
      | ':' :: cs =>
        let (value, cs) ← readValue? bound (skipBlanks cs)
        match skipBlanks cs with
        | '\x7d' :: rest => some ([(name, value)], rest)
        | ',' :: cs =>
          let (members, rest) ← readMembers? bound (skipBlanks cs)
          some ((name, value) :: members, rest)
        | _ => none
      | _ => none
    | _ => none

end

/-- How deep lists and records may be nested. -/
def maxDepth : Nat := 127

/-- Read a document. -/
def parse? (text : String) : Option Json := do
  let cs := skipBlanks text.toList
  let (value, rest) ← readValue? (2 * cs.length + 2) cs
  if (skipBlanks rest).isEmpty then some (value.limitDepth maxDepth) else none

end Json

end Preflight
