import Preflight.Settings.Tree
import Preflight.Text

/-!
# Paths of settings

The name under which a layer gives a value can be a path: `logging.level` is the level in the
table of logging settings, `defaults[0]` the first of a list.  Steps that lead through what is not
there make it, and steps that lead through a value of another kind replace it.

Only the last step of a path disregards letter case, and only where it is a name.
-/

namespace Preflight

/-- A step of a path. -/
inductive PathStep where
  | member (name : String)
  /-- An item of a list; a negative position counts from the end. -/
  | item (position : Int)
  deriving DecidableEq, Repr

namespace PathStep

/-! ## Reading -/

/-- Whether a character can be part of a name in a path. -/
def isNameChar (c : Char) : Bool := c.isAlphanum || c == '_' || c == '-' || c == ' '

/-- Whether a character may surround a position. -/
def isSpacing (c : Char) : Bool := c == ' ' || c == '\t'

/-- The largest position that a list is extended to. -/
def maxPosition : Int := Nat.pow 2 20

/-- Read the position of an item. -/
def readPosition? (cs : List Char) : Option Int :=
  let cs := (cs.dropWhile isSpacing).reverse.dropWhile isSpacing |>.reverse
  let (negative, digits) := match cs with
    | '-' :: digits => (true, digits)
    | digits => (false, digits)
  let position := signed negative (decimalValue digits)
  if areDigitsOf 10 digits && position ≤ maxPosition then some position else none

/-- Read what follows the first name of a path.  A step takes a character at least, so that
`bound`, if it is the length of the text, is not reached. -/
def readSteps? : Nat → List Char → Option (List PathStep)
  | _, [] => some []
  | 0, _ :: _ => none
  | bound + 1, '.' :: cs => do
    let (name, rest) := cs.span isNameChar
    if name.isEmpty then none
    else return .member (String.ofList name) :: (← readSteps? bound rest)
  | bound + 1, '[' :: cs => do
    let (inside, rest) := cs.span (· != ']')
    let position ← readPosition? inside
    return .item position :: (← readSteps? bound (← expect? ']' rest))
  | _ + 1, _ => none

/-- The path that a name stands for.  One that is not of the form of a path is a single name. -/
def ofName (name : String) : List PathStep :=
  let (first, rest) := name.toList.span isNameChar
  let steps := if first.isEmpty then none else readSteps? rest.length rest
  match steps with
  | some steps => .member (String.ofList first) :: steps
  | none => [.member name]

end PathStep

namespace SettingTree

/-! ## Setting -/

/-- The index of a position in a list, if it does not lie before the first item. -/
def indexOf? (position : Int) (size : Nat) : Option Nat :=
  let index := if position < 0 then position + size else position
  if index < 0 then none else some index.toNat

/-- Put a value into a tree at a path. -/
def set (value : SettingTree) : List PathStep → SettingTree → SettingTree
  | [], _ => value
  | [.member name], tree => tree.setMember name value
  | .member name :: steps, tree =>
    let (origin, members) := tree.asTable
    let old := (List.lookup name members).getD null
    .table origin (put name (set value steps old) members)
  | .item position :: steps, tree =>
    let (origin, items) := tree.asList
    match indexOf? position items.length with
    | none => tree
    | some index =>
      let items := items ++ List.replicate (index + 1 - items.length) null
      .list origin (items.modify index (set value steps))

/-- Put values into a tree at the paths that their names stand for. -/
def overlay (tree : SettingTree) (values : List (String × SettingTree)) : SettingTree :=
  values.foldl (fun tree (name, value) => set value (PathStep.ofName name) tree) tree

end SettingTree

end Preflight
