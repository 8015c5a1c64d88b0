import Preflight.Text.CharWidth
import Preflight.Text.Emoji

/-!
# Display width

How many columns a text takes on a terminal.  Most characters take their own width, but some take
another one because of what follows them: the parts of an emoji sequence share two columns, a
variation selector chooses between a wide picture and a narrow sign, and a few scripts have
ligatures of several characters.

A text is therefore measured from its end.  `Text.widthBefore` gives what a character adds to the
width, given what stands right after it, and what stands after the character before it in turn.
-/

namespace Preflight

namespace Text

/-! ## What follows a character -/

/-- What stands right after a character, as far as its width can depend on it. -/
inductive Follower where
  | other
  /-- A picture, or a sequence that is shown as one. -/
  | picture
  | tone
  /-- Regional indicators: one, or several. -/
  | regional (several : Bool)
  /-- A joiner with a picture after it. -/
  | joined
  /-- The frame of a keycap, joined to a picture. -/
  | joinedKeycap
  /-- Regional indicators joined to a picture: one, an even number, or a greater odd number. -/
  | joinedRegional
  | joinedRegionalEven
  | joinedRegionalOdd
  /-- The end of a tag sequence that is joined to a picture, with the letters or the digits that
  stand there. -/
  | joinedTags (letters digits : Nat)
  /-- A form of the Arabic letter alef. -/
  | alef
  /-- The Hebrew letter lamed, perhaps after a joiner. -/
  | lamed (joined : Bool)
  /-- The Buginese letter ya, perhaps after a joiner. -/
  | ya (joined : Bool)
  /-- The Buginese vowel sign i, joined to the letter ya. -/
  | vowelYa
  /-- A Tifinagh consonant, perhaps after a joiner. -/
  | tifinagh (joined : Bool)
  /-- The Tifinagh consonant joiner with a consonant after it. -/
  | tifinaghJoiner
  /-- The second of two Lisu tone letters that may combine. -/
  | lisuTone
  /-- The Old Turkic letter orkhon i, perhaps after a joiner. -/
  | orkhon (joined : Bool)
  /-- A Khmer letter that has a subscript form. -/
  | subscriptLetter
  deriving DecidableEq, Repr

/-- The form that a variation selector asks for. -/
inductive Presentation where
  | picture
  | sign
  deriving DecidableEq, Repr

/-- What stands after a character, and the variation selector before that, if there is one. -/
structure Surroundings where
  follower : Follower := .other
  selector : Option Presentation := none
  deriving DecidableEq, Repr

namespace Follower

/-- Whether a letter follows that may be part of a ligature. -/
def isLetter : Follower → Bool
  | .alef | .lamed _ | .ya _ | .vowelYa | .tifinagh _ | .tifinaghJoiner | .lisuTone | .orkhon _
  | .subscriptLetter => true
  | _ => false

/-- Whether a joined picture follows that a variation selector leaves joined. -/
def isJoined (f : Follower) : Bool := f = .joined || f = .joinedKeycap

/-- What follows when a joiner is put before a letter; `none` where a joiner has no such part. -/
def afterJoiner? : Follower → Option Follower
  | .lamed _ => some (.lamed true)
  | .ya _ => some (.ya true)
  | .tifinagh _ => some (.tifinagh true)
  | .orkhon _ => some (.orkhon true)
  | .vowelYa => some .vowelYa
  | .tifinaghJoiner => some .tifinaghJoiner
  | .lisuTone => some .lisuTone
  | .subscriptLetter => some .subscriptLetter
  | _ => none

/-- What follows when a variation selector is put before it. -/
def select (p : Presentation) (f : Follower) : Surroundings :=
  if f.isLetter || (p = .picture && f.isJoined) then ⟨f, some p⟩ else ⟨.other, some p⟩

end Follower

/-! ## Classes of letters -/

/-- Whether a character is a form of the Arabic letter alef. -/
def isAlef (c : Char) : Bool :=
  inRanges [(0x622, 0x623), (0x625, 0x625), (0x627, 0x627), (0x671, 0x673), (0x675, 0x675),
    (0x773, 0x774), (0x870, 0x882)] c.toNat

/-- Whether a character is a form of the Arabic letter lam. -/
def isLam (c : Char) : Bool :=
  inRanges [(0x644, 0x644), (0x6B5, 0x6B8), (0x76A, 0x76A), (0x8A6, 0x8A6), (0x8C7, 0x8C7)]
    c.toNat

/-- Whether a character is a Tifinagh consonant. -/
def isTifinaghConsonant (c : Char) : Bool :=
  inRanges [(0x2D31, 0x2D65), (0x2D6F, 0x2D6F)] c.toNat

/-- Whether a Khmer letter has a subscript form. -/
def hasSubscript (c : Char) : Bool :=
  inRanges [(0x1780, 0x1782), (0x1784, 0x1787), (0x1789, 0x178C), (0x178E, 0x1793),
    (0x1795, 0x1798), (0x179B, 0x179D), (0x17A0, 0x17A0), (0x17A2, 0x17A2), (0x17A7, 0x17A7),
    (0x17AB, 0x17AC), (0x17AF, 0x17AF)] c.toNat

/-- Whether a mark is ignored inside a ligature. -/
def isIgnoredMark (c : Char) : Bool :=
  inRanges [(0x34F, 0x34F), (0x17B4, 0x17B5), (0x180B, 0x180D), (0x180F, 0x180F),
    (0xFE00, 0xFE0F), (0xE0100, 0xE01EF)] c.toNat

/-- Characters without a column that separate Arabic letters all the same. -/
def separatorRanges : List (Nat × Nat) :=
  [(0x605, 0x605), (0x890, 0x891), (0x8E2, 0x8E2), (0x9BE, 0x9BE), (0x9D7, 0x9D7),
    (0xB3E, 0xB3E), (0xB57, 0xB57), (0xBBE, 0xBBE), (0xBD7, 0xBD7), (0xCC0, 0xCC0),
    (0xCC2, 0xCC2), (0xCC7, 0xCC8), (0xCCA, 0xCCB), (0xCD5, 0xCD6), (0xD3E, 0xD3E),
    (0xD4E, 0xD4E), (0xD57, 0xD57), (0xDCF, 0xDCF), (0xDDF, 0xDDF), (0x1160, 0x11FF),
    (0x180E, 0x180E), (0x1B35, 0x1B35), (0x1B3B, 0x1B3B), (0x1B3D, 0x1B3D), (0x1B43, 0x1B43),
    (0x200C, 0x200D), (0x2065, 0x2069), (0x302E, 0x302F), (0x3164, 0x3164), (0xA8FA, 0xA8FA),
    (0xD7B0, 0xD7C6), (0xD7CB, 0xD7FB), (0xFF9E, 0xFFA0), (0xFFF0, 0xFFF8),
    (0x111C2, 0x111C3), (0x1133E, 0x1133E), (0x11357, 0x11357), (0x114B0, 0x114B0),
    (0x114BD, 0x114BD), (0x115AF, 0x115AF), (0x11930, 0x11930), (0x1193F, 0x1193F),
    (0x11941, 0x11941), (0x11A3A, 0x11A3A), (0x11A84, 0x11A89), (0x11D46, 0x11D46),
    (0x11F02, 0x11F02), (0x1D165, 0x1D165), (0x1D16E, 0x1D172), (0xE0000, 0xE0000),
    (0xE0002, 0xE001F), (0xE0080, 0xE00FF), (0xE01F0, 0xE0FFF)]

/-- Whether a character may stand between two Arabic letters that join. -/
def isTransparent (c : Char) : Bool :=
  charWidth c == 0 && !inRanges separatorRanges c.toNat

/-! ## Measuring -/

/-- What a character is to the one before it. -/
def followerOf (c : Char) : Follower :=
  if isPicture c then .picture
  else if isTone c then .tone
  else if isRegional c then .regional false
  else if isAlef c then .alef
  else if c = '\u05DC' then .lamed false
  else if c = '\u1A10' then .ya false
  else if isTifinaghConsonant c then .tifinagh false
  else if c = '\uA4FC' || c = '\uA4FD' then .lisuTone
  else if c.toNat = 0x10C03 then .orkhon false
  else if hasSubscript c then .subscriptLetter
  else .other

/-- What a character adds to the width, and what it is to the one before it, where it makes part
of a sequence with what follows. -/
def sequenceWidth? (c : Char) : Follower → Option (Int × Follower)
  | .alef =>
    if isLam c then some (0, .other) else if isTransparent c then some (0, .alef) else none
  | .lamed true => if c = '\u05D0' then some (0, .other) else none
  | .ya true => if c = '\u1A17' then some (0, .vowelYa) else none
  | .vowelYa => if c = '\u1A15' then some (0, .other) else none
  | .tifinagh joined =>
    if c = '\u2D7F' then some (1, .tifinaghJoiner)
    else if joined && isTifinaghConsonant c then some (0, .other)
    else none
  | .tifinaghJoiner => if isTifinaghConsonant c then some (-1, .other) else none
  | .lisuTone => if 0xA4F8 ≤ c.toNat && c.toNat ≤ 0xA4FB then some (0, .other) else none
  | .orkhon true => if c.toNat = 0x10C32 then some (0, .other) else none
  | .subscriptLetter => if c = '\u17D2' then some (-1, .other) else none
  | .tone =>
    if takesTone c then some (0, .picture)
    else if c = '\u200D' then some (0, .joined)
    else none
  | .regional several =>
    if isRegional c then some (1, .regional true)
    else if several && c = '\u200D' then some (0, .joined)
    else none
  | .picture => if c = '\u200D' then some (0, .joined) else none
  | .joined =>
    if c = '\u20E3' then some (0, .joinedKeycap)
    else if isRegional c then some (1, .joinedRegional)
    else if isTone c then some (0, .tone)
    else if c.toNat = 0xE007F then some (0, .joinedTags 0 0)
    else if isPicture c then some (0, .picture)
    else none
  | .joinedRegional => if isRegional c then some (-1, .joinedRegionalEven) else none
  | .joinedRegionalEven =>
    if isRegional c then some (3, .joinedRegionalOdd)
    else if c = '\u200D' then some (0, .joined)
    else none
  | .joinedRegionalOdd =>
    if isRegional c then some (-1, .joinedRegionalEven)
    else if c = '\u200D' then some (0, .joined)
    else none
  | .joinedTags letters digits =>
    if isTagLetter c && digits = 0 && letters < 6 then some (0, .joinedTags (letters + 1) 0)
    else if isTagDigit c && digits = 0 && letters ≤ 4 then some (0, .joinedTags 0 1)
    else if isTagDigit c && 0 < digits && digits < 3 then some (0, .joinedTags 0 (digits + 1))
    else if c.toNat = 0x1F3F4 && (3 ≤ letters || digits = 3) then some (0, .picture)
    else none
  | _ => none

/-- What a character adds to the width before a given follower, and what it is to the character
before it. -/
def widthBeforeFollower (c : Char) (f : Follower) : Int × Surroundings :=
  match (if c = '\u200D' then f.afterJoiner? else none) with
  | some f => (0, ⟨f, none⟩)
  | none =>
    if f.isLetter && f != .alef && isIgnoredMark c then (0, ⟨f, none⟩)
    else
      match sequenceWidth? c f with
      | some (w, f) => (w, ⟨f, none⟩)
      | none => (charWidth c, ⟨followerOf c, none⟩)

/-- What a character adds to the width, given what follows, and its own surroundings. -/
def widthBefore (c : Char) (s : Surroundings) : Int × Surroundings :=
  if s.selector = some .picture && isSelectable c then
    (if s.follower.isJoined then 0 else 2, ⟨.picture, none⟩)
  else if c.toNat ≤ 0xA0 then (1, {})
  else
    let f :=
      if s.selector = some .picture && !s.follower.isLetter then .other else s.follower
    if c = '\uFE0F' then (0, f.select .picture)
    else if c = '\uFE0E' then (0, f.select .sign)
    else if s.selector = some .sign && isNarrowable c then (1, {})
    else widthBeforeFollower c f

/-- The width of the rest of a text, and what it is to the character before it. -/
def widthFrom : List Char → Int × Surroundings
  | [] => (0, {})
  | c :: cs =>
    let (width, surroundings) := widthFrom cs
    let (added, surroundings) := widthBefore c surroundings
    (width + added, surroundings)

/-- The columns of a text. -/
def width (cs : List Char) : Nat := (widthFrom cs).1.toNat

end Text

end Preflight
