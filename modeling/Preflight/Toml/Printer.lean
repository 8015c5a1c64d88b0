import Preflight.Text

/-!
# Writing TOML strings

TOML has four forms of strings: basic and literal ones, each on one line or over several.
`Toml.quoteText` takes the first form that shows the text as it is: basic, literal, basic over
several lines, literal over several lines.  A text that none of them shows as it is is written in
a basic form with escapes.
-/

namespace Preflight

namespace Toml

/-! ## Forms -/

/-- A form of strings. -/
structure StringForm where
  /-- Whether a backslash begins an escape. -/
  basic : Bool
  /-- Whether the string may go over several lines. -/
  multiLine : Bool
  deriving DecidableEq, Repr

namespace StringForm

/-- The character that quotes a string. -/
def quote (form : StringForm) : Char := if form.basic then '"' else '\''

/-- The quotes around a string. -/
def delimiter (form : StringForm) : String :=
  String.ofList (List.replicate (if form.multiLine then 3 else 1) form.quote)

/-- How many quotes may stand in a row within a string. -/
def quotesAllowed (form : StringForm) : Nat := if form.multiLine then 2 else 0

end StringForm

/-- The forms, in the order in which they are tried. -/
def stringForms : List StringForm :=
  [⟨true, false⟩, ⟨false, false⟩, ⟨true, true⟩, ⟨false, true⟩]

/-! ## Choosing a form -/

/-- Whether a character must be escaped in every form. -/
def isControl (c : Char) : Bool :=
  c != '\t' && c != '\n' && (c.toNat < 0x20 || c.toNat == 0x7F)

/-- The length of the longest run of a character. -/
def longestRun (c : Char) (cs : List Char) : Nat :=
  (cs.foldl (fun (current, longest) c' =>
    if c' = c then (current + 1, max longest (current + 1)) else (0, longest)) (0, 0)).2

/-- Whether a form shows a text as it is. -/
def StringForm.shows (form : StringForm) (cs : List Char) : Bool :=
  !cs.any isControl
    && !(form.basic && cs.contains '\\')
    && longestRun form.quote cs ≤ form.quotesAllowed
    && (form.multiLine || !cs.contains '\n')

/-- The form of a text. -/
def formOf (cs : List Char) : StringForm :=
  (stringForms.find? fun form => form.shows cs).getD ⟨true, cs.contains '\n'⟩

/-! ## Writing -/

/-- The escape of a character in a basic form, if it needs one. -/
def escape? (multiLine : Bool) (c : Char) : Option String :=
  match c with
  | '\x08' => some "\\b"
  | '\t' => some "\\t"
  | '\n' => if multiLine then none else some "\\n"
  | '\x0c' => some "\\f"
  | '\r' => some "\\r"
  | '\\' => some "\\\\"
  | c =>
    if isControl c then some ("\\u" ++ String.ofList ((hexText 4 c.toNat).toList.map Char.toUpper))
    else none

/-- The characters of a string in a basic form, after `quotes` quotes in a row.  A quote is
escaped when it would be one too many. -/
def basicBody (multiLine : Bool) : Nat → List Char → List String
  | _, [] => []
  | quotes, c :: cs =>
    if c = '"' then
      if quotes < (if multiLine then 2 else 0) then "\"" :: basicBody multiLine (quotes + 1) cs
      else "\\\"" :: basicBody multiLine 0 cs
    else (escape? multiLine c).getD c.toString :: basicBody multiLine 0 cs

/-- A string with its quotes. -/
def quoteText (s : String) : String :=
  let cs := s.toList
  let form := formOf cs
  let body := if form.basic then String.join (basicBody form.multiLine 0 cs) else s
  let lineEnd := if form.multiLine && cs.contains '\n' then "\n" else ""
  form.delimiter ++ lineEnd ++ body ++ form.delimiter

end Toml

end Preflight
