import Preflight.Toml.Scalar
import Preflight.Toml.Tree

/-!
# Reading TOML text

`Toml.parse?` reads a TOML 1.0 document into its root table.  A document is a sequence of lines,
each blank, a header, or a key with a value, any of them followed by a comment; only values in
brackets and multi-line strings go on over several lines.

Numbers, dates and times are read as one run of characters and then classified, since whatever
may follow them is no part of such a run.  The readers of nested values carry a bound on the
number of characters still to read, computed from the text.
-/

namespace Preflight

namespace Toml

/-- The rest of a text. -/
abbrev Input := List Char

/-! ## Blanks, comments and line ends -/

/-- Whether a character is a blank within a line. -/
def isBlankChar (c : Char) : Bool := c == ' ' || c == '\t'

/-- Drop blanks within a line. -/
def skipBlanks (cs : Input) : Input := cs.dropWhile isBlankChar

/-- Whether a character may stand in text: a tab, or anything but control characters. -/
def isTextChar (c : Char) : Bool := c == '\t' || (0x20 ≤ c.toNat && c.toNat != 0x7F)

/-- Drop a comment, up to the end of its line. -/
def skipComment : Input → Input
  | '#' :: cs => cs.dropWhile isTextChar
  | cs => cs

/-- Read the end of a line. -/
def readLineEnd? : Input → Option Input
  | '\n' :: cs => some cs
  | '\r' :: '\n' :: cs => some cs
  | _ => none

/-- Drop blanks, comments and line ends; a comment must reach the end of its line. -/
def skipLines : Nat → Input → Input
  | 0, cs => cs
  | bound + 1, cs =>
    match readLineEnd? (skipComment (skipBlanks cs)) with
    | some rest => skipLines bound rest
    | none => skipBlanks cs

/-! ## Strings -/

/-- Read the given number of hexadecimal digits as a character. -/
def readHexChar? (count : Nat) (cs : Input) : Option (Char × Input) :=
  let digits := cs.take count
  if digits.length = count && areDigitsOf 16 digits then
    let code := valueIn 16 digits
    if code < 0xD800 || (0xDFFF < code && code < 0x110000) then
      some (Char.ofNat code, cs.drop count)
    else none
  else none

/-- Read the character after a backslash. -/
def readEscape? : Input → Option (Char × Input)
  | 'b' :: cs => some ('\x08', cs)
  | 't' :: cs => some ('\t', cs)
  | 'n' :: cs => some ('\n', cs)
  | 'f' :: cs => some ('\x0c', cs)
  | 'r' :: cs => some ('\r', cs)
  | '"' :: cs => some ('"', cs)
  | '\\' :: cs => some ('\\', cs)
  | 'u' :: cs => readHexChar? 4 cs
  | 'U' :: cs => readHexChar? 8 cs
  | _ => none

/-- Read a basic string after its opening quote. -/
def readBasic? : Nat → Input → Option (List Char × Input)
  | 0, _ => none
  | _ + 1, [] => none
  | bound + 1, c :: cs =>
    if c = '"' then some ([], cs)
    else if c = '\\' then do
      let (c, cs) ← readEscape? cs
      let (s, rest) ← readBasic? bound cs
      some (c :: s, rest)
    else if isTextChar c then do
      let (s, rest) ← readBasic? bound cs
      some (c :: s, rest)
    else none

/-- Read a literal string after its opening quote. -/
def readLiteral? : Input → Option (List Char × Input)
  | [] => none
  | c :: cs =>
    if c = '\'' then some ([], cs)
    else if isTextChar c then (readLiteral? cs).map fun (s, rest) => (c :: s, rest)
    else none

/-- Drop a line end right after the opening quotes of a multi-line string. -/
def skipFirstLineEnd (cs : Input) : Input := (readLineEnd? cs).getD cs

/-- Drop blanks and line ends. -/
def skipBlankLines : Nat → Input → Input
  | 0, cs => cs
  | bound + 1, cs =>
    match readLineEnd? (skipBlanks cs) with
    | some rest => skipBlankLines bound rest
    | none => skipBlanks cs

/-- Whether a text, after blanks, goes on with a line end; if so, what follows all blanks and line
ends from there. -/
def skipContinuation? (cs : Input) : Option Input :=
  (readLineEnd? (skipBlanks cs)).map fun rest => skipBlankLines (rest.length + 1) rest

/-- Read the quotes that end a multi-line string: three of them, after up to two more that belong
to the string. -/
def readClosing? (quote : Char) (cs : Input) : Option (List Char × Input) :=
  let quotes := (cs.take 5).takeWhile (· == quote)
  if 3 ≤ quotes.length then
    some (List.replicate (quotes.length - 3) quote, cs.drop quotes.length)
  else none

/-- Read a multi-line string after its opening quotes; `escapes` for a basic one. -/
def readMultiLine? (quote : Char) (escapes : Bool) : Nat → Input → Option (List Char × Input)
  | 0, _ => none
  | bound + 1, cs =>
    match readClosing? quote cs with
    | some closed => some closed
    | none =>
      match readLineEnd? cs with
      | some cs => do
        let (s, rest) ← readMultiLine? quote escapes bound cs
        some ('\n' :: s, rest)
      | none =>
        match cs with
        | [] => none
        | c :: cs =>
          if escapes && c == '\\' then
            match skipContinuation? cs with
            | some cs => readMultiLine? quote escapes bound cs
            | none => do
              let (c, cs) ← readEscape? cs
              let (s, rest) ← readMultiLine? quote escapes bound cs
              some (c :: s, rest)
          else if isTextChar c then do
            let (s, rest) ← readMultiLine? quote escapes bound cs
            some (c :: s, rest)
          else none

/-- Read a string of any of the four kinds, if one starts here. -/
def readString? (cs : Input) : Option (String × Input) :=
  let finish (r : Option (List Char × Input)) : Option (String × Input) :=
    r.map fun (s, rest) => (String.ofList s, rest)
  match cs with
  | '"' :: '"' :: '"' :: cs =>
    finish (readMultiLine? '"' true (cs.length + 1) (skipFirstLineEnd cs))
  | '\'' :: '\'' :: '\'' :: cs =>
    finish (readMultiLine? '\'' false (cs.length + 1) (skipFirstLineEnd cs))
  | '"' :: cs => finish (readBasic? (cs.length + 1) cs)
  | '\'' :: cs => finish (readLiteral? cs)
  | _ => none

/-! ## Keys -/

/-- Whether a character may stand in a bare key. -/
def isBareKeyChar (c : Char) : Bool := c.isAlphanum || c == '-' || c == '_'

/-- Read one part of a key. -/
def readKeyPart? (cs : Input) : Option (String × Input) :=
  match cs with
  | '"' :: cs => (readBasic? (cs.length + 1) cs).map fun (s, rest) => (String.ofList s, rest)
  | '\'' :: cs => (readLiteral? cs).map fun (s, rest) => (String.ofList s, rest)
  | cs =>
    let part := cs.takeWhile isBareKeyChar
    if part.isEmpty then none else some (String.ofList part, cs.drop part.length)

/-- How deep values in brackets may stand in each other, and how many parts a key may have. -/
def maxDepth : Nat := 79

/-- Read a dotted key of at most `bound` parts between blanks: the parts before the last, and the
last. -/
def readKeyParts? : Nat → Input → Option ((List String × String) × Input)
  | 0, _ => none
  | bound + 1, cs => do
    let (part, cs) ← readKeyPart? (skipBlanks cs)
    match skipBlanks cs with
    | '.' :: cs =>
      let ((path, last), rest) ← readKeyParts? bound cs
      some ((part :: path, last), rest)
    | cs => some (([], part), cs)

/-- Read a dotted key between blanks. -/
def readKey? (cs : Input) : Option ((List String × String) × Input) := readKeyParts? maxDepth cs

/-! ## Numbers, dates and times -/

/-- Whether a character belongs to a run. -/
def isRunChar (c : Char) : Bool :=
  c.isAlphanum || c == '_' || c == '+' || c == '-' || c == '.' || c == ':'

/-- Read a run; a date and a time may be one run with a blank between them. -/
def readRun (cs : Input) : List Char × Input :=
  let run := cs.takeWhile isRunChar
  let rest := cs.drop run.length
  match rest with
  | ' ' :: d :: more =>
    if isDecimalDigit d && (readDate? run).any (·.2.isEmpty) then
      let time := (d :: more).takeWhile isRunChar
      (run ++ ' ' :: time, (d :: more).drop time.length)
    else (run, rest)
  | _ => (run, rest)

/-- Read a value that is neither a string nor in brackets. -/
def readScalar? (cs : Input) : Option (Toml × Input) :=
  let (run, rest) := readRun cs
  let v :=
    if run = "true".toList then some (Toml.bool true)
    else if run = "false".toList then some (Toml.bool false)
    else (datetime? run).or ((integer? run).or (float? run))
  v.map (·, rest)

/-! ## Values -/

mutual

/-- Read a value that starts at the first character.  `depth` is how many more brackets it may
have around its parts. -/
def readValue? : Nat → Nat → Input → Option (Toml × Input)
  | 0, _, _ => none
  | bound + 1, depth, cs =>
    match cs with
    | '"' :: _ => (readString? cs).map fun (s, rest) => (.text s, rest)
    | '\'' :: _ => (readString? cs).map fun (s, rest) => (.text s, rest)
    | '[' :: cs =>
      if depth = 0 then none
      else (readItems? bound (depth - 1) cs).map fun (items, rest) => (.list items, rest)
    | '\x7b' :: cs =>
      if depth = 0 then none
      else
        match skipBlanks cs with
        | '\x7d' :: rest => some (.table [], rest)
        | cs => (readInline? bound (depth - 1) [] cs).map fun (members, rest) =>
            (.table (finishMembers members), rest)
    | cs => readScalar? cs

/-- Read the items of an array up to its closing bracket.  Line ends, comments and a last comma
are allowed. -/
def readItems? : Nat → Nat → Input → Option (List Toml × Input)
  | 0, _, _ => none
  | bound + 1, depth, cs =>
    match skipLines (cs.length + 1) cs with
    | ']' :: rest => some ([], rest)
    | cs => do
      let (item, cs) ← readValue? bound depth cs
      match skipLines (cs.length + 1) cs with
      | ']' :: rest => some ([item], rest)
      | ',' :: cs =>
        let (items, rest) ← readItems? bound depth cs
        some (item :: items, rest)
      | _ => none

/-- Read the members of an inline table up to its closing brace, at least one, adding them to
those already read. -/
def readInline? : Nat → Nat → Members → Input → Option (Members × Input)
  | 0, _, _, _ => none
  | bound + 1, depth, ms, cs => do
    let ((path, name), cs) ← readKey? cs
    let cs ← expect? '=' cs
    let (v, cs) ← readValue? bound depth (skipBlanks cs)
    let ms ← Members.insertDotted? path name (.value v) ms
    match skipBlanks cs with
    | '\x7d' :: rest => some (ms, rest)
    | ',' :: cs => readInline? bound depth ms cs
    | _ => none

end

/-! ## Documents -/

/-- Read what may follow on a line: blanks, a comment, and the end of the line or the text. -/
def readTrail? (cs : Input) : Option Input :=
  match skipComment (skipBlanks cs) with
  | [] => some []
  | cs => readLineEnd? cs

/-- Read the lines of a document.  `header` is the path of the open table. -/
def readLines? : Nat → List String → Members → Input → Option Members
  | 0, _, _, _ => none
  | bound + 1, header, ms, cs =>
    match skipBlanks cs with
    | [] => some ms
    | '[' :: '[' :: cs => do
      let ((path, name), cs) ← readKey? cs
      let cs ← expect? ']' cs
      let cs ← expect? ']' cs
      let cs ← readTrail? cs
      let ms ← Members.appendTable? path name ms
      readLines? bound (path ++ [name]) ms cs
    | '[' :: cs => do
      let ((path, name), cs) ← readKey? cs
      let cs ← expect? ']' cs
      let cs ← readTrail? cs
      let ms ← Members.openTable? path name ms
      readLines? bound (path ++ [name]) ms cs
    | c :: cs =>
      if c = '#' || c = '\n' || c = '\r' then do
        let cs ← readTrail? (c :: cs)
        readLines? bound header ms cs
      else do
        let ((path, name), cs) ← readKey? (c :: cs)
        let cs ← expect? '=' cs
        let (v, cs) ← readValue? (2 * cs.length + 2) maxDepth (skipBlanks cs)
        let cs ← readTrail? cs
        let ms ← Members.insertValue? header path name v ms
        readLines? bound header ms cs

/-- Drop the byte order mark that may begin a document. -/
def skipMark : Input → Input
  | '\uFEFF' :: cs => cs
  | cs => cs

/-- Read a document into the members of its root table. -/
def parse? (text : String) : Option (List (String × Toml)) :=
  let cs := skipMark text.toList
  (readLines? (cs.length + 1) [] [] cs).map finishMembers

end Toml

end Preflight
