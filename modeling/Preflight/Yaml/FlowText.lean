import Preflight.Yaml.Cursor

/-!
# Plain and quoted YAML text

Text without quotes and text between quotes may go over several lines.  The blanks around a line
end are no part of the text, and a line end is read as a blank; with empty lines after it, as that
many line feeds.  Between double quotes a backslash makes a line end disappear, and gives other
characters a meaning of their own.
-/

namespace Preflight

namespace Yaml

/-! ## Folding -/

/-- A line of a text; `joined` if the line end after it is to disappear. -/
structure TextLine where
  chars : List Char
  joined : Bool := false

/-- What some line ends in a row are read as. -/
def foldBreaks (joined : Bool) (breaks : Nat) : List Char :=
  if breaks = 1 && !joined then [' '] else List.replicate (breaks - 1) '\n'

/-- The text of lines that follow others; `breaks` counts the empty lines before them. -/
def foldMore (joined : Bool) (breaks : Nat) : List TextLine → List Char
  | [] => []
  | [line] => foldBreaks joined (breaks + 1) ++ line.chars
  | line :: lines =>
    if line.chars.isEmpty && !line.joined then foldMore joined (breaks + 1) lines
    else foldBreaks joined (breaks + 1) ++ line.chars ++ foldMore line.joined 0 lines

/-- The text of lines. -/
def foldLines : List TextLine → String
  | [] => ""
  | line :: lines => String.ofList (line.chars ++ foldMore line.joined 0 lines)

/-! ## Plain text -/

/-- Whether plain text can begin here. -/
def startsPlain (inFlow : Bool) : List Char → Bool
  | [] => false
  | c :: cs =>
    if c = '-' || c = '?' || c = ':' then !endsWord cs
    else if c = '|' || c = '>' then inFlow
    else !(isFlowMark c || "#&*!%@\x60'\"".toList.contains c)

/-- Whether a colon that is followed by these characters ends plain text. -/
def endsKey (inFlow : Bool) (cs : List Char) : Bool :=
  endsWord cs || (inFlow && cs.head?.any isFlowMark)

/-- Cut a line where plain text ends. -/
def plainRun (inFlow : Bool) : List Char → List Char × List Char
  | [] => ([], [])
  | c :: cs =>
    if (c = ':' && endsKey inFlow cs) || (inFlow && isFlowMark c)
        || (isBlank c && cs.head? == some '#') then ([], c :: cs)
    else
      let (run, rest) := plainRun inFlow cs
      (c :: run, rest)

/-- The further lines of plain text, and where it ends, if the lines below belong to it.  Within
a block they are indented by `least` at least. -/
def plainBelow (inFlow : Bool) (least : Nat) :
    List (List Char) → Option (List TextLine × Cursor)
  | [] => none
  | line :: below =>
    let start : Cursor := { rest := line, below }
    let c := start.skipBlanks
    if c.rest.isEmpty then
      (plainBelow inFlow least below).map fun (lines, c) => (⟨[], false⟩ :: lines, c)
    else
      let (run, rest) := plainRun inFlow c.rest
      if run.isEmpty || c.rest.head? == some '#' || c.atDocumentMark
          || (!inFlow && c.column < least) then none
      else
        let here := (⟨trimEnd run, false⟩, c.dropTo rest)
        if rest.isEmpty then
          match plainBelow inFlow least below with
          | some (lines, c) => some (here.1 :: lines, c)
          | none => some ([here.1], here.2)
        else some ([here.1], here.2)

/-- Read plain text. -/
def readPlain (inFlow : Bool) (least : Nat) (c : Cursor) : String × Cursor :=
  let (run, rest) := plainRun inFlow c.rest
  let first : TextLine := { chars := trimEnd run }
  let more := if rest.isEmpty then plainBelow inFlow least c.below else none
  match more with
  | some (lines, c) => (foldLines (first :: lines), c)
  | none => (foldLines [first], c.dropTo rest)

/-! ## Quoted text -/

/-- A character between quotes; `fixed` if it is written in a way that no trimming affects. -/
structure QuotedChar where
  char : Char
  fixed : Bool := false

/-- How a line of quoted text ends. -/
inductive QuotedEnd where
  /-- With the closing quote, before the given characters. -/
  | closed (rest : List Char)
  /-- With the line; `joined` if its line end is to disappear. -/
  | lineEnd (joined : Bool)

/-- A line of quoted text, as far as it goes. -/
abbrev QuotedRun := List QuotedChar × QuotedEnd

/-- Put a character in front. -/
def QuotedRun.cons (char : Char) (fixed : Bool) (run : QuotedRun) : QuotedRun :=
  (⟨char, fixed⟩ :: run.1, run.2)

/-- Read a line between single quotes; a quote inside it is written twice. -/
def singleRun : List Char → Option QuotedRun
  | [] => some ([], .lineEnd false)
  | '\'' :: '\'' :: cs => (singleRun cs).map (QuotedRun.cons '\'' true)
  | '\'' :: cs => some ([], .closed cs)
  | c :: cs => (singleRun cs).map (QuotedRun.cons c false)

/-- The character of a one-letter escape. -/
def escaped? (c : Char) : Option Char :=
  List.lookup c [('0', '\x00'), ('a', '\x07'), ('b', '\x08'), ('t', '\t'), ('\t', '\t'),
    ('n', '\n'), ('v', '\x0b'), ('f', '\x0c'), ('r', '\r'), ('e', '\x1b'), (' ', ' '),
    ('"', '"'), ('/', '/'), ('\\', '\\'), ('N', '\u0085'), ('_', '\u00a0'), ('L', '\u2028'),
    ('P', '\u2029')]

/-- The character of a number in hexadecimal. -/
def hexChar? (digits : List Char) : Option Char :=
  if h : areDigitsOf 16 digits ∧ (valueIn 16 digits).isValidChar then
    some (Char.ofNatAux (valueIn 16 digits) h.2)
  else none

/-- Read a line between double quotes. -/
def doubleRun : List Char → Option QuotedRun
  | [] => some ([], .lineEnd false)
  | ['\\'] => some ([], .lineEnd true)
  | '"' :: cs => some ([], .closed cs)
  | '\\' :: 'x' :: a :: b :: cs => do
    return QuotedRun.cons (← hexChar? [a, b]) true (← doubleRun cs)
  | '\\' :: 'u' :: a :: b :: c :: d :: cs => do
    return QuotedRun.cons (← hexChar? [a, b, c, d]) true (← doubleRun cs)
  | '\\' :: 'U' :: a :: b :: c :: d :: e :: f :: g :: h :: cs => do
    return QuotedRun.cons (← hexChar? [a, b, c, d, e, f, g, h]) true (← doubleRun cs)
  | '\\' :: c :: cs => do
    return QuotedRun.cons (← escaped? c) true (← doubleRun cs)
  | c :: cs => (doubleRun cs).map (QuotedRun.cons c false)

/-- Drop the blanks at the start of quoted characters. -/
def trimQuoted (cs : List QuotedChar) : List QuotedChar :=
  cs.dropWhile fun c => isBlank c.char && !c.fixed

/-- A line of quoted text without the blanks around its line ends. -/
def quotedLine (isFirst : Bool) (cs : List QuotedChar) (ending : QuotedEnd) : TextLine :=
  let cs := if isFirst then cs else trimQuoted cs
  let cs := match ending with
    | .lineEnd false => (trimQuoted cs.reverse).reverse
    | _ => cs
  { chars := cs.map (·.char), joined := ending matches .lineEnd true }

/-- The lines of quoted text from a line on, and where it ends. -/
def quotedLines (run : List Char → Option QuotedRun) :
    Bool → Cursor → List (List Char) → Option (List TextLine × Cursor)
  | isFirst, c, below => do
    let (chars, ending) ← run c.rest
    let line := quotedLine isFirst chars ending
    match ending, below with
    | .closed rest, _ => some ([line], c.dropTo rest)
    | .lineEnd _, [] => none
    | .lineEnd _, next :: below =>
      let (lines, c) ← quotedLines run false { rest := next, below } below
      some (line :: lines, c)

/-- Read quoted text, which begins with its opening quote. -/
def readQuoted? (c : Cursor) : Option (String × Cursor) :=
  let run := if c.rest.head? == some '\'' then singleRun else doubleRun
  (quotedLines run true (c.drop 1) c.below).map fun (lines, c) => (foldLines lines, c)

end Yaml

end Preflight
