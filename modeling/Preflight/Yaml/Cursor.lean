import Preflight.Text

/-!
# Positions in a YAML document

YAML goes by lines and columns.  A `Cursor` is a position in a document, given as what is left of
its line, the column that the rest begins at, and the lines below.  `Cursor.toToken` moves past
blanks, comments and empty lines.
-/

namespace Preflight

namespace Yaml

/-! ## Characters -/

/-- Whether a character is a blank. -/
def isBlank (c : Char) : Bool := c == ' ' || c == '\t'

/-- Whether a line ends here, or a blank follows. -/
def endsWord (cs : List Char) : Bool := cs.head?.all isBlank

/-- The characters that structure lists and records within lines. -/
def isFlowMark (c : Char) : Bool := ",[]\x7b\x7d".toList.contains c

/-- Characters without blanks at their end. -/
def trimEnd (cs : List Char) : List Char := (cs.reverse.dropWhile isBlank).reverse

/-- The lines of a text; a carriage return ends one too, alone or before a line feed. -/
def linesOf : List Char → List (List Char)
  | [] => [[]]
  | '\r' :: '\n' :: cs => [] :: linesOf cs
  | c :: cs =>
    if c = '\n' || c = '\r' then [] :: linesOf cs
    else
      match linesOf cs with
      | [] => [[c]]
      | line :: lines => (c :: line) :: lines

/-! ## Cursors -/

/-- A position in a document. -/
structure Cursor where
  column : Nat := 0
  rest : List Char
  below : List (List Char)
  deriving Inhabited

namespace Cursor

/-- The end of a document. -/
def finish : Cursor := { rest := [], below := [] }

/-- The start of the first of some lines. -/
def ofLines : List (List Char) → Cursor
  | [] => finish
  | line :: below => { rest := line, below }

/-- Move on by characters of the line. -/
def drop (n : Nat) (c : Cursor) : Cursor :=
  { c with column := c.column + n, rest := c.rest.drop n }

/-- Move on to what is left of the line after some reading. -/
def dropTo (rest : List Char) (c : Cursor) : Cursor := c.drop (c.rest.length - rest.length)

/-- Whether the document ends here. -/
def isEnd (c : Cursor) : Bool := c.rest.isEmpty && c.below.isEmpty

/-- Whether nothing but blanks and a comment is left of the line. -/
def atLineEnd (c : Cursor) : Bool := (c.rest.dropWhile isBlank).head?.all (· == '#')

/-- Move past blanks. -/
def skipBlanks (c : Cursor) : Cursor := c.dropTo (c.rest.dropWhile isBlank)

/-- The first of some lines that does not only hold blanks and a comment, after its blanks. -/
def firstToken : List (List Char) → Cursor
  | [] => finish
  | line :: below =>
    let c : Cursor := { rest := line, below }
    if c.atLineEnd then firstToken below else c.skipBlanks

/-- Move on to the next token, here or on a line below. -/
def toToken (c : Cursor) : Cursor := if c.atLineEnd then firstToken c.below else c.skipBlanks

/-- Whether a mark stands here, such as a dash, with a blank or the end of the line after it. -/
def atMark (mark : List Char) (c : Cursor) : Bool :=
  match dropLeading? mark c.rest with
  | some rest => endsWord rest
  | none => false

/-- Whether a line that starts or ends a document begins here. -/
def atDocumentMark (c : Cursor) : Bool :=
  c.column == 0 && (c.atMark ['-', '-', '-'] || c.atMark ['.', '.', '.'])

/-- Whether no more of the current document is to come. -/
def atDocumentEnd (c : Cursor) : Bool := c.isEnd || c.atDocumentMark

end Cursor

end Yaml

end Preflight
