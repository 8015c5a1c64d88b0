import Preflight.Yaml.Cursor

/-!
# Blocks of YAML text

A block holds text line by line, without the indentation of its first line.  After the mark of a
literal block each line end is kept; after that of a folded block a line end is read as a blank,
unless one of the lines around it begins with a blank.  What becomes of the line ends after the
last line is up to the block's header.
-/

namespace Preflight

namespace Yaml

/-! ## Headers -/

/-- What becomes of the line ends after the last line of a block. -/
inductive Chomping where
  | strip
  /-- The first of them is kept. -/
  | clip
  | keep
  deriving DecidableEq, Repr

/-- The header of a block. -/
structure BlockHeader where
  folded : Bool
  chomping : Chomping := .clip
  /-- By how much the block is indented; zero if its first line says so. -/
  indentation : Nat := 0

/-- Read one sign of a header. -/
def BlockHeader.readSign (header : BlockHeader) (cs : List Char) : BlockHeader × List Char :=
  match cs with
  | '-' :: rest => ({ header with chomping := .strip }, rest)
  | '+' :: rest => ({ header with chomping := .keep }, rest)
  | c :: rest =>
    match decimalDigit? c with
    | some n => ({ header with indentation := n }, rest)
    | none => (header, cs)
  | [] => (header, [])

/-- Read a header, which has two signs at most after its mark. -/
def readBlockHeader? (c : Cursor) : Option (BlockHeader × Cursor) := do
  let folded ← c.rest.head?.bind fun mark => List.lookup mark [('|', false), ('>', true)]
  let (header, rest) := BlockHeader.readSign { folded } (c.rest.drop 1)
  let (header, rest) := header.readSign rest
  let c := c.dropTo rest
  if c.atLineEnd then some (header, c) else none

/-! ## Lines -/

/-- The number of spaces that a line begins with. -/
def indentOf (line : List Char) : Nat := (line.takeWhile (· == ' ')).length

/-- The greatest indentation among lines up to the first that holds more than spaces. -/
def firstIndent : List (List Char) → Nat
  | [] => 0
  | line :: below =>
    if indentOf line = line.length then max line.length (firstIndent below) else indentOf line

/-- The lines of a block. -/
structure BlockLines where
  /-- The lines with content, each with the number of empty lines before it. -/
  lines : List (Nat × List Char) := []
  /-- The number of empty lines after the last one. -/
  trailing : Nat := 0
  /-- Whether the last line with content has a line end. -/
  ended : Bool := true
  /-- The column at which the document ends, if it ends with the block. -/
  finish : Option Nat := none
  /-- The lines that follow. -/
  below : List (List Char) := []

/-- The lines of a block that is indented by `indent`; `empty` counts the empty lines passed. -/
def blockLines (indent : Nat) : Nat → List (List Char) → BlockLines
  | empty, [] => { trailing := empty }
  | empty, line :: below =>
    let text := line.drop indent
    if indentOf line = line.length && line.length ≤ indent then
      if below.isEmpty then { trailing := empty, finish := some line.length }
      else blockLines indent (empty + 1) below
    else if indentOf line < indent || Cursor.atDocumentMark { rest := line, below } then
      { trailing := empty, below := line :: below }
    else if below.isEmpty then
      { lines := [(empty, text)], ended := false, finish := some line.length }
    else
      let more := blockLines indent 0 below
      { more with lines := (empty, text) :: more.lines }

/-! ## Text -/

/-- Some line feeds. -/
def lineFeeds (count : Nat) : List Char := List.replicate count '\n'

/-- Whether a line begins with a blank. -/
def startsBlank (line : List Char) : Bool := line.head?.any isBlank

/-- The text of lines that follow a line. -/
def joinBlock (folded : Bool) (previous : List Char) : List (Nat × List Char) → List Char
  | [] => []
  | (empty, line) :: lines =>
    let breaks :=
      if folded && !startsBlank previous && !startsBlank line then
        if empty = 0 then [' '] else lineFeeds empty
      else lineFeeds (empty + 1)
    breaks ++ line ++ joinBlock folded line lines

/-- The line feeds at the end of a block with content.  A document that ends within the block's
indentation ends a line as well. -/
def chompedBreaks (chomping : Chomping) (indent : Nat) (block : BlockLines) : List Char :=
  if chomping = .strip then []
  else
    lineFeeds (if block.ended && !block.lines.isEmpty then 1 else 0)
      ++ lineFeeds (if block.finish.any (max indent 1 ≤ ·) then 1 else 0)
      ++ (if chomping = .keep then lineFeeds block.trailing else [])

/-- The text of a block. -/
def blockText (header : BlockHeader) (indent : Nat) (block : BlockLines) : List Char :=
  match block.lines with
  | [] =>
    if block.finish.isSome then
      match header.chomping with
      | .strip => []
      | .clip => lineFeeds 1
      | .keep => lineFeeds (max block.trailing 1)
    else chompedBreaks header.chomping indent block
  | (empty, line) :: lines =>
    lineFeeds empty ++ line ++ joinBlock header.folded line lines
      ++ chompedBreaks header.chomping indent block

/-- Read a block, from its header on.  The block is indented by `least` at least. -/
def readBlock? (least : Nat) (c : Cursor) : Option (String × Cursor) := do
  let (header, c) ← readBlockHeader? c
  let indent :=
    if header.indentation = 0 then max (firstIndent c.below) least
    else least - 1 + header.indentation
  let block := blockLines indent 0 c.below
  return (String.ofList (blockText header indent block), Cursor.ofLines block.below)

end Yaml

end Preflight
