import Preflight.Binary64.Text
import Preflight.Text

/-!
# Writing YAML scalars

The form in which a string is written in a YAML document: plain where it reads back as itself;
between single quotes where it would read as null, a truth value, a number or as structure;
between double quotes where it holds characters that need an escape; and as a block of lines where
it holds a line end.  `Yaml.scalar` makes the choice.
-/

namespace Preflight

namespace Yaml

/-! ## What plain text reads as -/

/-- Whether plain text reads as null or a truth value. -/
def readsAsConstant (s : String) : Bool :=
  s ∈ ["", "null", "Null", "NULL", "~", "true", "True", "TRUE", "false", "False", "FALSE"]

/-- Digits of a base after its mark, as in `0x1F`. -/
def markedDigits? : List Char → Option (Nat × List Char)
  | '0' :: 'x' :: cs => if areDigitsOf 16 cs then some (16, cs) else none
  | '0' :: 'o' :: cs => if areDigitsOf 8 cs then some (8, cs) else none
  | '0' :: 'b' :: cs => if areDigitsOf 2 cs then some (2, cs) else none
  | _ => none

/-- Whether plain text is digits padded with zeros, such as `-007`, which some take for an octal
number. -/
def isPaddedDigits (s : String) : Bool :=
  match (splitSign s.toList).2 with
  | '0' :: cs => areDigitsOf 10 cs
  | _ => false

/-- Whether plain text reads as an integer of at most 128 bits. -/
def readsAsInteger (s : String) : Bool :=
  let (negative, body) := splitSign s.toList
  let limit := if negative then Nat.pow 2 127 else Nat.pow 2 128 - 1
  match markedDigits? body with
  | some (base, digits) => valueIn base digits ≤ limit
  | none => areDigitsOf 10 body && decimalValue body ≤ limit

/-- Whether plain text reads as a number with a fraction or exponent. -/
def readsAsFloat (s : String) : Bool :=
  let body := match s.toList with
    | '+' :: cs => cs
    | cs => cs
  if s.toList.head? == some '+' && (body.head? == some '+' || body.head? == some '-') then false
  else if String.ofList body ∈ [".inf", ".Inf", ".INF"] then true
  else if s ∈ ["-.inf", "-.Inf", "-.INF", ".nan", ".NaN", ".NAN"] then true
  else
    match Binary64.ofText? (String.ofList body) with
    | some (.finite _ _ _) => true
    | _ => false

/-- Whether plain text reads as anything but a string, or might. -/
def readsAsOther (s : String) : Bool :=
  readsAsConstant s || isPaddedDigits s || readsAsInteger s || readsAsFloat s

/-! ## What plain text may hold -/

/-- Whether a character ends a line. -/
def isBreak (c : Char) : Bool :=
  c == '\n' || c == '\r' || c == '\u0085' || c == '\u2028' || c == '\u2029'

/-- Whether a character may be written as itself. -/
def isPrintable (c : Char) : Bool :=
  let n := c.toNat
  n == 0x0A || (0x20 ≤ n && n ≤ 0x7E) || (0xA0 ≤ n && n != 0xFEFF && n != 0xFFFE && n != 0xFFFF)

/-- Whether a character is a blank, a line end, or the end of the text. -/
def isBlankOrEnd : Option Char → Bool
  | none => true
  | some c => c == ' ' || c == '\t' || c == '\x00' || isBreak c

/-- Whether the first character of a text, with what follows it, begins other syntax. -/
def startsSyntax (c : Char) (next : Option Char) : Bool :=
  "#,[]\x7b\x7d&*!|>'\"%@\x60".toList.contains c
    || ((c == '?' || c == ':' || c == '-') && isBlankOrEnd next)

/-- Whether a text holds syntax after its first character, which is `previous`. -/
def holdsSyntax : Char → List Char → Bool
  | _, [] => false
  | previous, c :: cs =>
    (c == ':' && isBlankOrEnd cs.head?)
      || (c == '#' && isBlankOrEnd (some previous))
      || holdsSyntax c cs

/-- Whether a text would read as structure when written plain. -/
def readsAsSyntax (cs : List Char) : Bool :=
  cs.take 3 == ['-', '-', '-'] || cs.take 3 == ['.', '.', '.'] ||
    match cs with
    | [] => false
    | c :: rest => startsSyntax c rest.head? || holdsSyntax c rest

/-- Whether a text begins or ends with a blank or a line end. -/
def hasEdgeBlank (cs : List Char) : Bool :=
  let atEdge : Option Char → Bool
    | some c => c == ' ' || isBreak c
    | none => false
  atEdge cs.head? || atEdge cs.getLast?

/-- Whether a blank stands right before a line end, or right after one. -/
def hasBlankAt (beforeBreak : Bool) : List Char → Bool
  | a :: b :: cs =>
    (if beforeBreak then a == ' ' && isBreak b else isBreak a && b == ' ')
      || hasBlankAt beforeBreak (b :: cs)
  | _ => false

/-! ## Scalars -/

/-- `count` blanks. -/
def blanks (count : Nat) : String := String.ofList (List.replicate count ' ')

/-- One character between double quotes. -/
def escapeChar (c : Char) : String :=
  let n := c.toNat
  let upperHex (w : Nat) := String.ofList ((hexText w n).toList.map Char.toUpper)
  if isPrintable c && !isBreak c && c != '"' && c != '\\' then c.toString
  else
    match n with
    | 0x00 => "\\0"
    | 0x07 => "\\a"
    | 0x08 => "\\b"
    | 0x09 => "\\t"
    | 0x0A => "\\n"
    | 0x0B => "\\v"
    | 0x0C => "\\f"
    | 0x0D => "\\r"
    | 0x1B => "\\e"
    | 0x22 => "\\\""
    | 0x5C => "\\\\"
    | 0x85 => "\\N"
    | 0x2028 => "\\L"
    | 0x2029 => "\\P"
    | _ =>
      if n ≤ 0xFF then "\\x" ++ upperHex 2
      else if n ≤ 0xFFFF then "\\u" ++ upperHex 4
      else "\\U" ++ upperHex 8

/-- A string between double quotes. -/
def doubleQuoted (cs : List Char) : String := "\"" ++ String.join (cs.map escapeChar) ++ "\""

/-- The characters of a string between single quotes; a line begun inside it is indented. -/
def singleQuotedChars (indent : Nat) : Bool → List Char → List String
  | afterBreak, [] => if afterBreak then [blanks indent] else []
  | afterBreak, c :: cs =>
    if isBreak c then c.toString :: singleQuotedChars indent true cs
    else
      ((if afterBreak then blanks indent else "") ++ (if c = '\'' then "''" else c.toString))
        :: singleQuotedChars indent false cs

/-- A string between single quotes. -/
def singleQuoted (indent : Nat) (cs : List Char) : String :=
  "'" ++ String.join (singleQuotedChars indent false cs) ++ "'"

/-- What is noted about the line ends at the end of a block: `-` for none, `+` for several. -/
def chomping (cs : List Char) : String :=
  match cs.reverse with
  | [] => "-"
  | [c] => if isBreak c then "+" else "-"
  | c :: d :: _ => if !isBreak c then "-" else if isBreak d then "+" else ""

/-- The characters of a block; every line that is not empty is indented. -/
def blockChars (indent : Nat) : Bool → List Char → List String
  | _, [] => []
  | afterBreak, c :: cs =>
    if isBreak c then c.toString :: blockChars indent true cs
    else
      ((if afterBreak then blanks indent else "") ++ c.toString) :: blockChars indent false cs

/-- A string as a block of lines. -/
def block (indent : Nat) (cs : List Char) : String :=
  let hint := match cs.head? with
    | some c => if c = ' ' || isBreak c then "2" else ""
    | none => ""
  "|" ++ hint ++ chomping cs ++ "\n" ++ String.join (blockChars indent true cs)

/-- A string in the form that it needs, its further lines indented. -/
def scalar (indent : Nat) (s : String) : String :=
  let cs := s.toList
  let special := hasBlankAt true cs || cs.any fun c => !isPrintable c
  if cs.contains '\n' then
    if special || cs.getLast? == some ' ' then doubleQuoted cs else block indent cs
  else if special || hasBlankAt false cs then doubleQuoted cs
  else if readsAsOther s || readsAsSyntax cs || hasEdgeBlank cs || cs.any isBreak then
    singleQuoted indent cs
  else s

end Yaml

end Preflight
