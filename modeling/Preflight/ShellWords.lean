import Preflight.Text

/-!
# Shell words

A release command is split into words the way a shell does, without expanding anything: blanks
separate words, `#` at the start of a word hides the rest of its line, single quotes keep
everything, double quotes keep everything but a few escapes, and a backslash keeps the next
character.  A backslash before a newline vanishes together with it, yet it belongs to a word, so
it can make an empty one.

The splitter is a machine with one state per context, run over the characters of the command.
`ShellWords.split?` answers `none` for an unclosed quote or a backslash at the end.
-/

namespace Preflight

namespace ShellWords

/-! ## The machine -/

/-- Where the splitter is. -/
inductive Context where
  /-- Between words. -/
  | between
  /-- In a comment. -/
  | comment
  /-- In a word, outside quotes. -/
  | word
  /-- After a backslash outside quotes. -/
  | escape
  /-- Inside single quotes. -/
  | single
  /-- Inside double quotes. -/
  | double
  /-- After a backslash inside double quotes. -/
  | doubleEscape
  deriving DecidableEq, Repr

/-- The context, the characters of the current word and the finished words, both in reverse. -/
structure State where
  context : Context
  current : List Char
  finished : List String

/-- Nothing read yet. -/
def State.start : State := ⟨.between, [], []⟩

/-- The blanks that separate words. -/
def isSeparator (c : Char) : Bool := c == ' ' || c == '\t' || c == '\n'

/-- Move to another context. -/
def State.goto (s : State) (context : Context) : State := { s with context }

/-- Add a character to the current word and move to another context. -/
def State.keep (s : State) (c : Char) (context : Context) : State :=
  { s with context, current := c :: s.current }

/-- The finished words together with the current one. -/
def State.closeWord (s : State) : List String :=
  String.ofList s.current.reverse :: s.finished

/-- Read a character as part of a word, outside quotes. -/
def State.wordChar (s : State) (c : Char) : State :=
  if c = '"' then s.goto .double
  else if c = '\'' then s.goto .single
  else if c = '\\' then s.goto .escape
  else if isSeparator c then ⟨.between, [], s.closeWord⟩
  else s.keep c .word

/-- Read one character. -/
def State.step (s : State) (c : Char) : State :=
  match s.context with
  | .between =>
    if isSeparator c then s
    else if c = '#' then s.goto .comment
    else s.wordChar c
  | .comment => if c = '\n' then s.goto .between else s
  | .word => s.wordChar c
  | .escape => if c = '\n' then s.goto .word else s.keep c .word
  | .single => if c = '\'' then s.goto .word else s.keep c .single
  | .double =>
    if c = '"' then s.goto .word
    else if c = '\\' then s.goto .doubleEscape
    else s.keep c .double
  | .doubleEscape =>
    if c = '$' || c = '\x60' || c = '"' || c = '\\' then s.keep c .double
    else if c = '\n' then s.goto .double
    else (s.keep '\\' .double).keep c .double

/-! ## Splitting -/

/-- The words read so far, if the text may end here. -/
def State.finish? (s : State) : Option (List String) :=
  match s.context with
  | .between | .comment => some s.finished.reverse
  | .word => some s.closeWord.reverse
  | .escape | .single | .double | .doubleEscape => none

/-- The words of a command. -/
def split? (command : String) : Option (List String) :=
  (command.toList.foldl State.step State.start).finish?

end ShellWords

end Preflight
