import Preflight.Yaml.BlockText
import Preflight.Yaml.FlowText
import Preflight.Yaml.Value

/-!
# Reading YAML text

`Yaml.documents?` reads the documents of a text.  In block style, lists and records go by
indentation: a node belongs to what is further left, and the members of a record stand in one
column.  In flow style they go by brackets.

A node may have properties in front: an anchor, by which an alias can name the node later, and a
tag, which demands a type of plain text.  A key is text or an integer, and it has a line to
itself, up to its colon, unless a question mark announces it.

The functions that read nested nodes take a bound on the depth of their calls, which is computed
from the size of the text.
-/

namespace Preflight

namespace Yaml

/-! ## State -/

/-- Where reading stands. -/
structure ReaderState where
  cursor : Cursor
  /-- The nodes with an anchor, the latest first. -/
  anchors : List (String × Yaml) := []
  /-- What the handles of tags stand for. -/
  handles : List (String × String) := []

/-- A reader of a part of a text. -/
abbrev Reader := StateT ReaderState Option

/-- The cursor. -/
def cursor : Reader Cursor := return (← get).cursor

/-- Move the cursor. -/
def moveTo (c : Cursor) : Reader Unit := modify fun s => { s with cursor := c }

/-- Move on by characters of the line. -/
def drop (n : Nat) : Reader Unit := modify fun s => { s with cursor := s.cursor.drop n }

/-- Move on to the next token, and answer where it is. -/
def toToken : Reader Cursor := do
  let c := (← cursor).toToken
  moveTo c
  return c

/-- Move past blanks, and answer what follows them. -/
def skipBlanks : Reader Cursor := do
  let c := (← cursor).skipBlanks
  moveTo c
  return c

/-- Note the node of an anchor. -/
def setAnchor (name : String) (value : Yaml) : Reader Unit :=
  modify fun s => { s with anchors := (name, value) :: s.anchors }

/-! ## Properties -/

/-- The properties of a node. -/
structure Properties where
  anchor : Option String := none
  tag : Option TagType := none

/-- Whether there are no properties. -/
def Properties.isEmpty (p : Properties) : Bool := p.anchor.isNone && p.tag.isNone

/-- Cut the word off that names an anchor or a tag. -/
def cutWord (cs : List Char) : List Char × List Char :=
  cs.span fun c => !isBlank c && !isFlowMark c

/-- The tags of the types that YAML defines begin with this. -/
def coreTags : String := "tag:yaml.org,2002:"

/-- The type that a tag demands, given what its handle stands for.  A tag of another origin
demands text. -/
def tagType (handle suffix : String) : TagType :=
  if handle = coreTags then
    (List.lookup suffix [("bool", .bool), ("int", .int), ("float", .real),
      ("null", .null)]).getD .text
  else .text

/-- Read a tag after its exclamation mark. -/
def readTag? (handles : List (String × String)) (cs : List Char) :
    Option (TagType × List Char) :=
  match cs with
  | '<' :: cs =>
    let (_, rest) := cs.span (· != '>')
    (expect? '>' rest).map fun rest => (.text, rest)
  | cs =>
    let (word, rest) := cutWord cs
    let (name, suffix) := word.span (· != '!')
    match suffix with
    | '!' :: suffix => do
      let handle := "!" ++ String.ofList name ++ "!"
      let known := (List.lookup handle handles).or (if handle = "!!" then some coreTags else none)
      return (tagType (← known) (String.ofList suffix), rest)
    | _ => some (tagType ((List.lookup "!" handles).getD "!") (String.ofList word), rest)

/-- Read a property, if one stands here. -/
def readProperty (p : Properties) : Reader Properties := do
  let c ← cursor
  match c.rest with
  | '&' :: cs =>
    let (name, rest) := cutWord cs
    let name := String.ofList name
    setAnchor name .null
    moveTo (c.dropTo rest)
    return { p with anchor := some name }
  | '!' :: cs =>
    let (tag, rest) ← readTag? (← get).handles cs
    moveTo (c.dropTo rest)
    return { p with tag := some tag }
  | _ => return p

/-- Read the properties that stand here, two at most, and the blanks after them. -/
def readProperties (p : Properties) : Reader Properties := do
  let p ← readProperty p
  let _ ← skipBlanks
  let p ← readProperty p
  let _ ← skipBlanks
  return p

/-- A node with its properties. -/
def finish (p : Properties) (value : Yaml) : Reader Yaml := do
  if let some name := p.anchor then setAnchor name value
  return value

/-- The value of plain text with properties. -/
def plainValue (p : Properties) (text : String) : Yaml :=
  match p.tag with
  | some type => ofTagged type text
  | none => ofPlain text

/-- A node without content. -/
def emptyNode (p : Properties) : Reader Yaml :=
  if p.isEmpty then return .null else finish p (plainValue p "")

/-- Read an alias, which begins with an asterisk. -/
def readAlias : Reader Yaml := do
  let c ← cursor
  let (name, rest) := cutWord (c.rest.drop 1)
  let value ← List.lookup (String.ofList name) (← get).anchors
  moveTo (c.dropTo rest)
  return value

/-- Read quoted text. -/
def readQuoted : Reader Yaml := do
  let (content, c) ← readQuoted? (← cursor)
  moveTo c
  return .text content

/-- Whether quoted text begins here. -/
def startsQuoted (c : Cursor) : Bool := c.rest.head? == some '"' || c.rest.head? == some '\''

/-- Read plain text with properties. -/
def readPlainNode (inFlow : Bool) (least : Nat) (p : Properties) : Reader Yaml := do
  let c ← cursor
  if !startsPlain inFlow c.rest then failure
  let (content, c) := readPlain inFlow least c
  moveTo c
  return plainValue p content

/-! ## Keys -/

/-- Read a key that stands on one line with its colon. -/
def readKey : Reader String := do
  let start ← cursor
  let p ← readProperties {}
  let c ← cursor
  let key ←
    if c.rest.head? == some '*' then readAlias
    else if startsQuoted c then readQuoted
    else if startsPlain false c.rest then do
      let (run, rest) := plainRun false c.rest
      moveTo (c.dropTo rest)
      pure (plainValue p (String.ofList (trimEnd run)))
    else failure
  let c ← skipBlanks
  if c.below.length != start.below.length || !c.atMark [':'] then failure
  drop 1
  let _ ← finish p key
  keyName? key

/-! ## Flow style -/

/-- Whether the colon between a key and its value stands here.  After quotes or brackets it needs
no blank after it. -/
def atColon (adjacent : Bool) (c : Cursor) : Bool :=
  match c.rest with
  | ':' :: cs => adjacent || endsKey true cs
  | _ => false

/-- Whether a node in flow style ends before it begins. -/
def atFlowEnd (c : Cursor) : Bool :=
  c.rest.head? == some ',' || c.rest.head? == some ']' || c.rest.head? == some '}'

mutual

/-- Read a node in flow style. -/
def readFlow : Nat → Reader Yaml
  | 0 => failure
  | bound + 1 => do
    let _ ← toToken
    let p ← readProperties {}
    let c ← toToken
    match c.rest.head? with
    | some '[' => drop 1; finish p (.list (← readFlowItems bound))
    | some '{' => drop 1; finish p (.record (← readFlowMembers bound))
    | some '*' => readAlias
    | _ =>
      if startsQuoted c then finish p (← readQuoted)
      else if !p.isEmpty && (atFlowEnd c || atColon false c) then emptyNode p
      else finish p (← readPlainNode true 0 p)

/-- Read a node in flow style, or nothing before a comma or a bracket. -/
def readFlowSlot : Nat → Reader Yaml
  | 0 => failure
  | bound + 1 => do
    let c ← toToken
    if atFlowEnd c || atColon false c then return .null else readFlow bound

/-- Read a node and, if a colon follows, its value. -/
def readFlowPair : Nat → Reader (Yaml × Option Yaml)
  | 0 => failure
  | bound + 1 => do
    let c ← toToken
    let announced := c.atMark ['?']
    if announced then drop 1
    let c ← toToken
    let adjacent := startsQuoted c || c.rest.head? == some '[' || c.rest.head? == some '{'
    let key ← if announced then readFlowSlot bound else readFlow bound
    let c ← toToken
    if atColon adjacent c then
      drop 1
      return (key, some (← readFlowSlot bound))
    else return (key, if announced then some .null else none)

/-- Read the items of a list up to its closing bracket.  An item with a colon is a record. -/
def readFlowItems : Nat → Reader (List Yaml)
  | 0 => failure
  | bound + 1 => do
    let c ← toToken
    if c.rest.head? == some ']' then
      drop 1
      return []
    let (node, value) ← readFlowPair bound
    let item ← match value with
      | some value => pure (.record [(← keyName? node, value)])
      | none => pure node
    let c ← toToken
    match c.rest.head? with
    | some ',' => drop 1; return item :: (← readFlowItems bound)
    | some ']' => drop 1; return [item]
    | _ => failure

/-- Read the members of a record up to its closing bracket.  A key without a colon has the value
null. -/
def readFlowMembers : Nat → Reader (List (String × Yaml))
  | 0 => failure
  | bound + 1 => do
    let c ← toToken
    if c.rest.head? == some '}' then
      drop 1
      return []
    let (key, value) ← readFlowPair bound
    let member := (← keyName? key, value.getD .null)
    let c ← toToken
    match c.rest.head? with
    | some ',' => drop 1; return member :: (← readFlowMembers bound)
    | some '}' => drop 1; return [member]
    | _ => failure

end

/-! ## Block style -/

/-- A place that a node in block style can stand in. -/
structure Slot where
  /-- The least column of a node on a line of its own. -/
  least : Nat
  /-- Whether a list or a record can begin on the same line. -/
  compact : Bool := false
  /-- Whether a list can stand in the column of the key. -/
  hangs : Bool := false

/-- The place after the colon of a key in a column. -/
def Slot.afterKey (column : Nat) : Slot := { least := column + 1, hangs := true }

/-- The place after a dash in a column. -/
def Slot.afterDash (column : Nat) : Slot := { least := column + 1, compact := true }

/-- The place after a question mark, or a colon of its own, in a column. -/
def Slot.announced (column : Nat) : Slot :=
  { least := column + 1, compact := true, hangs := true }

mutual

/-- Read a node on the same line or on the lines below. -/
def readSlot : Nat → Slot → Properties → Reader Yaml
  | 0, _, _ => failure
  | bound + 1, slot, p => do
    if (← cursor).atLineEnd then
      let c ← toToken
      if c.atDocumentEnd then emptyNode p
      else if slot.least ≤ c.column then readOpen bound slot p
      else if slot.hangs && c.column + 1 = slot.least && c.atMark ['-'] then
        finish p (.list (← readItems bound c.column))
      else emptyNode p
    else
      let _ ← skipBlanks
      if slot.compact then readOpen bound slot p else readInline bound slot p

/-- Read a node where a list or a record can begin. -/
def readOpen : Nat → Slot → Properties → Reader Yaml
  | 0, _, _ => failure
  | bound + 1, slot, p => do
    let c ← cursor
    if c.atMark ['-'] then finish p (.list (← readItems bound c.column))
    else if c.atMark ['?'] || (readKey (← get)).isSome then
      finish p (.record (← readMembers bound c.column))
    else readInline bound slot p

/-- Read a node that is neither a list nor a record in block style. -/
def readInline : Nat → Slot → Properties → Reader Yaml
  | 0, _, _ => failure
  | bound + 1, slot, p => do
    let p ← readProperties p
    let c ← cursor
    if c.atLineEnd then readSlot bound slot p
    else
      match c.rest.head? with
      | some '[' | some '{' => finish p (← readFlow bound)
      | some '*' => readAlias
      | some '|' | some '>' =>
        let (content, c) ← readBlock? slot.least c
        moveTo c
        finish p (.text content)
      | _ =>
        if startsQuoted c then finish p (← readQuoted)
        else finish p (← readPlainNode false slot.least p)

/-- Read the items of a list whose dashes stand in a column. -/
def readItems : Nat → Nat → Reader (List Yaml)
  | 0, _ => failure
  | bound + 1, column => do
    let c ← toToken
    if c.atDocumentEnd || c.column < column then return []
    else if c.column > column then failure
    else if !c.atMark ['-'] then return []
    else
      drop 1
      let item ← readSlot bound (.afterDash column) {}
      return item :: (← readItems bound column)

/-- Read the members of a record whose keys stand in a column. -/
def readMembers : Nat → Nat → Reader (List (String × Yaml))
  | 0, _ => failure
  | bound + 1, column => do
    let c ← toToken
    if c.atDocumentEnd || c.column < column then return []
    else if c.column > column then failure
    else if c.atMark ['?'] then
      drop 1
      let key ← keyName? (← readSlot bound (.announced column) {})
      let c ← toToken
      let value ←
        if !c.atDocumentEnd && c.column = column && c.atMark [':'] then
          drop 1
          readSlot bound (.announced column) {}
        else pure .null
      return (key, value) :: (← readMembers bound column)
    else
      let key ← readKey
      let value ← readSlot bound (.afterKey column) {}
      return (key, value) :: (← readMembers bound column)

end

/-! ## Documents -/

/-- Read a directive, which may say what a handle of tags stands for. -/
def readDirective : Reader Unit := do
  let c ← cursor
  let words := (splitParts ' ' c.rest).filter fun word => !word.isEmpty
  if let [name, handle, value] := words.map String.ofList then
    if name = "%TAG" then
      modify fun s => { s with handles := (handle, value) :: s.handles }
  moveTo (Cursor.ofLines c.below)

/-- Read documents to the end of the text.  A document that no line marks can only stand at the
start, or after a line that marks the end of another; the same holds for directives. -/
def readDocuments : Nat → Bool → Reader (List Yaml)
  | 0, _ => failure
  | bound + 1, isFree => do
    let c ← toToken
    if c.isEnd then return []
    else if c.atDocumentMark && c.atMark ['.', '.', '.'] then
      drop 3
      readDocuments bound true
    else if isFree && c.column = 0 && c.rest.head? == some '%' then
      readDirective
      readDocuments bound true
    else
      let document ←
        if c.atDocumentMark then do
          drop 3
          readSlot bound { least := 0 } {}
        else if isFree then readOpen bound { least := 0 } {}
        else failure
      modify fun s => { s with handles := [] }
      let c ← toToken
      if !c.atDocumentEnd then failure
      return document :: (← readDocuments bound false)

/-- The documents of a text. -/
def documents? (text : String) : Option (List Yaml) :=
  let start : ReaderState := { cursor := Cursor.ofLines (linesOf text.toList) }
  ((readDocuments (8 * text.length + 16) true).run start).map (·.1)

end Yaml

end Preflight
