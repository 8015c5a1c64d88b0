import Mathlib.Data.List.Nodup
import Mathlib.Logic.Relation
import Preflight.Proofs.Codec

/-!
# Edits that a reader does not see

Who keeps a form may write it down differently: with the fields of a record in another order, with
fields that the reader does not know, or without a field that holds its default.  `Edit` is one such
change anywhere in a form and `EditedForm` what a sequence of them makes of the form of a value.

A form does not tell a record from a map, whose keys are not fields.  `Shape` says where the records
of a type are and which fields they have.

`RecordType` describes a type by the list of its fields: how each of them is written, when a member
is read as its value and when it may be left out.  From the list follow the two properties of the
type: its values survive when the values of their fields do (`roundTrips_of_fields`), and no edit
changes what is decoded (`decode_edit_record`).
-/

namespace Preflight

/-! ## Edits -/

/-- Where the records of a form are. -/
inductive Shape where
  /-- No record with fields is in it. -/
  | plain
  | list (item : Shape)
  /-- The names of the fields, the form of the default of those that may be left out, and the shapes
  of their values. -/
  | record (fields : List (String × Option Json × Shape))

/-- One change of a form. -/
inductive Edit : Shape → Json → Json → Prop where
  /-- Put the members of a record in another order. -/
  | reorder {fields : List (String × Option Json × Shape)} {members members' : List (String × Json)}
    (hperm : members.Perm members') : Edit (.record fields) (.record members) (.record members')
  /-- Add a member under a name that no field has. -/
  | add {fields : List (String × Option Json × Shape)} {members : List (String × Json)}
    {name : String} {value : Json} (hname : ∀ f ∈ fields, f.1 ≠ name) :
    Edit (.record fields) (.record members) (.record ((name, value) :: members))
  /-- Leave out a field that holds its default. -/
  | drop {fields : List (String × Option Json × Shape)} {members : List (String × Json)}
    {name : String} {default : Json} {shape : Shape}
    (hfield : (name, some default, shape) ∈ fields) :
    Edit (.record fields) (.record ((name, default) :: members)) (.record members)
  /-- Change the value of a field. -/
  | field {fields : List (String × Option Json × Shape)} {members : List (String × Json)}
    {name : String} {default? : Option Json} {shape : Shape} {value value' : Json}
    (hfield : (name, default?, shape) ∈ fields) (hedit : Edit shape value value') :
    Edit (.record fields) (.record ((name, value) :: members))
      (.record ((name, value') :: members))
  /-- Change an item of a list. -/
  | item {shape : Shape} {before after : List Json} {item item' : Json}
    (hedit : Edit shape item item') :
    Edit (.list shape) (.list (before ++ item :: after)) (.list (before ++ item' :: after))

/-- Any number of changes. -/
abbrev Edits (shape : Shape) : Json → Json → Prop := Relation.ReflTransGen (Edit shape)

namespace Edits

variable {fields : List (String × Option Json × Shape)} {before after : List (String × Json)}
  {name : String} {shape : Shape}

/-- A field is left out wherever it stands. -/
theorem drop {default : Json} (hfield : (name, some default, shape) ∈ fields) :
    Edits (.record fields) (.record (before ++ (name, default) :: after))
      (.record (before ++ after)) :=
  .trans (.single (.reorder List.perm_middle)) (.single (.drop hfield))

/-- A member is added anywhere. -/
theorem add {value : Json} (hname : ∀ f ∈ fields, f.1 ≠ name) :
    Edits (.record fields) (.record (before ++ after))
      (.record (before ++ (name, value) :: after)) :=
  .trans (.single (.add hname)) (.single (.reorder List.perm_middle.symm))

/-- The value of a field is changed wherever it stands. -/
theorem field {default? : Option Json} {value value' : Json}
    (hfield : (name, default?, shape) ∈ fields) (hedits : Edits shape value value') :
    Edits (.record fields) (.record (before ++ (name, value) :: after))
      (.record (before ++ (name, value') :: after)) := by
  have hfront : Edits (.record fields) (.record ((name, value) :: (before ++ after)))
      (.record ((name, value') :: (before ++ after))) := by
    induction hedits with
    | refl => exact .refl
    | tail _ hedit ih => exact ih.tail (.field hfield hedit)
  exact .trans (.single (.reorder List.perm_middle))
    (hfront.trans (.single (.reorder List.perm_middle.symm)))

end Edits

theorem Edit.ne_null {shape : Shape} {j k : Json} (h : Edit shape j k) : j ≠ .null ∧ k ≠ .null := by
  cases h <;> exact ⟨nofun, nofun⟩

/-- A type whose decoding does not see edits. -/
class Editable (α : Type) [Codec α] where
  shape : Shape
  decode_edit : ∀ {j k : Json} {a : α}, Edit shape j k → decode j = some a → decode k = some a

/-- The form of a value after any number of edits. -/
def EditedForm {α : Type} [Codec α] [Editable α] (a : α) (j : Json) : Prop :=
  Edits (Editable.shape α) (encode a) j

section EditedForm

variable {α : Type} [Codec α] [Editable α]

/-- What survives its form survives every edit of it. -/
theorem decode_of_editedForm {a : α} {j : Json} (hround : Codec.RoundTrips a)
    (h : EditedForm a j) : decode j = some a := by
  induction h with
  | refl => exact hround
  | tail _ hedit ih => exact Editable.decode_edit hedit ih

end EditedForm

/-! ## Forms without records -/

/-- Nothing can be edited in a plain form. -/
abbrev Editable.ofPlain (α : Type) [Codec α] : Editable α where
  shape := .plain
  decode_edit := by
    intro _ _ _ h
    cases h

instance : Editable String := .ofPlain String
instance : Editable Bool := .ofPlain Bool
instance : Editable UInt64 := .ofPlain UInt64
instance : Editable UInt32 := .ofPlain UInt32
instance : Editable Nat := .ofPlain Nat
instance : Editable Json := .ofPlain Json
instance {α : Type} [Codec α] : Editable (TextMap α) := .ofPlain (TextMap α)

/-! ## Options and lists -/

/-- A step of a reader succeeds when it finds something from which the rest succeeds. -/
theorem do_eq_some_iff {α β : Type} {x : Option α} {f : α → Option β} {b : β} :
    (do let a ← x; f a) = some b ↔ ∃ a, x = some a ∧ f a = some b :=
  Option.bind_eq_some_iff

section Compound

variable {α : Type} [Codec α] [Editable α]

instance : Editable (Option α) where
  shape := Editable.shape α
  decode_edit := by
    intro j k a hedit hdecode
    obtain ⟨hj, hk⟩ := hedit.ne_null
    rw [Codec.decode_option hj, Option.map_eq_some_iff] at hdecode
    obtain ⟨content, hcontent, rfl⟩ := hdecode
    rw [Codec.decode_option hk, Editable.decode_edit hedit hcontent, Option.map_some]

theorem decodeItems_edit {before after : List Json} {item item' : Json} {as : List α}
    (hedit : Edit (Editable.shape α) item item')
    (h : decodeItems (before ++ item :: after) = some as) :
    decodeItems (before ++ item' :: after) = some as := by
  induction before generalizing as with
  | nil =>
    simp only [List.nil_append, decodeItems, do_eq_some_iff] at h ⊢
    obtain ⟨a, ha, rest, hrest, heq⟩ := h
    exact ⟨a, Editable.decode_edit hedit ha, rest, hrest, heq⟩
  | cons first before ih =>
    simp only [List.cons_append, decodeItems, do_eq_some_iff] at h ⊢
    obtain ⟨a, ha, rest, hrest, heq⟩ := h
    exact ⟨a, ha, rest, ih hrest, heq⟩

instance : Editable (List α) where
  shape := .list (Editable.shape α)
  decode_edit := by
    intro j k as hedit hdecode
    cases hedit with
    | item hedit => exact decodeItems_edit hedit hdecode

end Compound

/-! ## Members of a record -/

/-- What the members of one name say of a field. -/
def FieldValue.ofMembers : List (String × Json) → FieldValue
  | [] => .absent
  | [(_, value)] => .given value
  | _ => .repeated

theorem fieldValue_eq (members : List (String × Json)) (name : String) :
    fieldValue members name = .ofMembers (members.filter (·.1 == name)) := rfl

/-- A list of at most one member is equal to each of its permutations. -/
theorem FieldValue.ofMembers_perm {members members' : List (String × Json)}
    (h : members.Perm members') : ofMembers members' = ofMembers members := by
  match members, h with
  | [], h => rw [List.nil_perm.1 h]
  | [m], h => rw [List.singleton_perm.1 h]
  | _ :: _ :: _, h =>
    match members', h.length_eq with
    | _ :: _ :: _, _ => rfl

theorem fieldValue_perm {members members' : List (String × Json)} (h : members.Perm members')
    (name : String) : fieldValue members' name = fieldValue members name := by
  rw [fieldValue_eq, fieldValue_eq]
  exact FieldValue.ofMembers_perm (h.filter _)

theorem fieldValue_cons_of_ne {name other : String} (h : other ≠ name) (value : Json)
    (members : List (String × Json)) :
    fieldValue ((other, value) :: members) name = fieldValue members name := by
  have hmiss : (other == name) = false := by simpa using h
  simp [fieldValue, hmiss]

/-- A second member of one name makes the field a repeated one. -/
theorem fieldValue_cons_self (name : String) (value : Json) (members : List (String × Json)) :
    fieldValue ((name, value) :: members) name =
      match fieldValue members name with
      | .absent => .given value
      | _ => .repeated := by
  rw [fieldValue_eq, fieldValue_eq, List.filter_cons_of_pos (by simp)]
  generalize members.filter (·.1 == name) = found
  match found with
  | [] => rfl
  | [_] => rfl
  | _ :: _ :: _ => rfl

theorem fieldValue_of_nodup {members : List (String × Json)} {name : String} {value : Json}
    (hnames : (members.map (·.1)).Nodup) (hmem : (name, value) ∈ members) :
    fieldValue members name = .given value := by
  obtain ⟨before, after, rfl⟩ := List.append_of_mem hmem
  have hperm : (before ++ (name, value) :: after).Perm ((name, value) :: (before ++ after)) :=
    List.perm_middle
  have hnone : fieldValue (before ++ after) name = .absent := by
    rw [(hperm.map _).nodup_iff, List.map_cons, List.nodup_cons] at hnames
    have hfilter : (before ++ after).filter (·.1 == name) = [] := by
      rw [List.filter_eq_nil_iff]
      intro m hm
      have hne : m.1 ≠ name := fun heq => hnames.1 (List.mem_map.2 ⟨m, hm, heq⟩)
      simpa using hne
    rw [fieldValue_eq, hfilter]
    rfl
  rw [fieldValue_perm hperm.symm, fieldValue_cons_self, hnone]

/-! ## Fields -/

/-- A field of a record type. -/
structure RecordField (α : Type) where
  name : String
  /-- The form of its default, if it may be left out. -/
  default? : Option Json
  shape : Shape
  /-- The form of the field in a value. -/
  form : α → Json
  /-- A member of this form is read as the field of the value. -/
  Reads : Json → α → Prop
  /-- The field of the value is the default. -/
  Omits : α → Prop

namespace RecordField

variable {α β : Type} [Codec β] [Editable β]

/-- A field that must be there. -/
def needed (name : String) (get : α → β) : RecordField α where
  name := name
  default? := none
  shape := Editable.shape β
  form a := encode (get a)
  Reads j a := decode j = some (get a)
  Omits _ := False

/-- A field that may be left out when it holds its default. -/
def defaulted (name : String) (get : α → β) (default : β) : RecordField α where
  name := name
  default? := some (encode default)
  shape := Editable.shape β
  form a := encode (get a)
  Reads j a := decode j = some (get a)
  Omits a := default = get a

/-- What a record says of a field is right for the value. -/
def Accepts (f : RecordField α) (a : α) : FieldValue → Prop
  | .absent => f.Omits a
  | .given value => f.Reads value a
  | .repeated => False

/-- The field does not see edits of its form, and reads its default as what may be left out. -/
structure Lawful (f : RecordField α) : Prop where
  edit : ∀ {j k : Json} {a : α}, Edit f.shape j k → f.Reads j a → f.Reads k a
  leave : ∀ {default : Json} {a : α}, f.default? = some default → f.Reads default a → f.Omits a

@[simp] theorem lawful_needed (name : String) (get : α → β) : (needed name get).Lawful where
  edit := Editable.decode_edit
  leave := by
    intro _ _ h
    cases h

@[simp] theorem lawful_defaulted (name : String) (get : α → β) {default : β}
    (hdefault : Codec.RoundTrips default) : (defaulted name get default).Lawful where
  edit := Editable.decode_edit
  leave := by
    rintro _ a ⟨⟩ hread
    exact Option.some.inj (hdefault.symm.trans hread)

@[simp] theorem accepts_needed_iff {name : String} {get : α → β} {a : α}
    {members : List (String × Json)} :
    (needed name get).Accepts a (fieldValue members (needed name get).name) ↔
      required members name = some (get a) := by
  show (needed name get).Accepts a (fieldValue members name) ↔ _
  unfold required
  cases fieldValue members name <;> simp [Accepts, needed]

@[simp] theorem accepts_defaulted_iff {name : String} {get : α → β} {default : β} {a : α}
    {members : List (String × Json)} :
    (defaulted name get default).Accepts a
        (fieldValue members (defaulted name get default).name) ↔
      withDefault members name default = some (get a) := by
  show (defaulted name get default).Accepts a (fieldValue members name) ↔ _
  unfold withDefault
  cases fieldValue members name <;> simp [Accepts, defaulted]

@[simp] theorem reads_needed_iff {name : String} {get : α → β} {a : α} :
    (needed name get).Reads ((needed name get).form a) a ↔ Codec.RoundTrips (get a) := .rfl

@[simp] theorem reads_defaulted_iff {name : String} {get : α → β} {default : β} {a : α} :
    (defaulted name get default).Reads ((defaulted name get default).form a) a ↔
      Codec.RoundTrips (get a) := .rfl

end RecordField

/-! ## Record types -/

@[simp] theorem members?_record (fields : List String) (leading : Nat)
    (members : List (String × Json)) :
    (Json.record members).members? fields leading = some members := rfl

/-- A type whose values are written as records. -/
class RecordType (α : Type) [Codec α] where
  fields : List (RecordField α)
  distinct : (fields.map (·.name)).Nodup := by decide
  lawful : ∀ f ∈ fields, f.Lawful := by simp
  /-- A value is written with all of its fields. -/
  encode_eq : ∀ a : α, encode a = .record (fields.map fun f => (f.name, f.form a)) := by
    intro a
    rfl
  /-- A record is read field by field. -/
  decode_iff : ∀ (members : List (String × Json)) (a : α),
    decode (.record members) = some a ↔
      ∀ f ∈ fields, f.Accepts a (fieldValue members f.name) := by
    rintro members ⟨⟩
    dsimp only [decode]
    -- The steps are opened from the first one on: from inside, each would open all after it again.
    simp only [↓do_eq_some_iff, members?_record]
    simp [-Bool.exists_bool]

namespace RecordType

variable {α : Type} [Codec α] [RecordType α]

instance : Codec.NeverNull α where
  encode_ne_null a := by
    rw [encode_eq]
    exact nofun

variable (α) in
/-- The shape of the records of the type. -/
def shape : Shape := .record ((fields (α := α)).map fun f => (f.name, f.default?, f.shape))

/-- A value survives when each of its fields does. -/
theorem roundTrips_of_fields {a : α} (h : ∀ f ∈ fields (α := α), f.Reads (f.form a) a) :
    Codec.RoundTrips a := by
  rw [Codec.RoundTrips, encode_eq, decode_iff]
  intro f hf
  have hnames : ((fields.map fun f : RecordField α => (f.name, f.form a)).map (·.1)).Nodup := by
    rw [List.map_map]
    exact distinct
  rw [fieldValue_of_nodup hnames (List.mem_map.2 ⟨f, hf, rfl⟩)]
  exact h f hf

/-- The form of a value is a document when the forms of its fields are. -/
theorem isDocument_of_fields {a : α} (h : ∀ f ∈ fields (α := α), (f.form a).IsDocument) :
    (encode a).IsDocument := by
  rw [encode_eq, Json.IsDocument, Json.haveDocuments_iff, List.map_map]
  refine ⟨distinct, ?_⟩
  intro member hmember
  obtain ⟨f, hf, rfl⟩ := List.mem_map.1 hmember
  exact h f hf

/-- Two fields of one name are the same. -/
theorem eq_of_name {f g : RecordField α} (hf : f ∈ fields) (hg : g ∈ fields)
    (hname : f.name = g.name) : f = g :=
  List.inj_on_of_nodup_map distinct hf hg hname

theorem exists_field_of_mem_shape {name : String} {default? : Option Json} {shape : Shape}
    (h : (name, default?, shape) ∈ (fields (α := α)).map fun f => (f.name, f.default?, f.shape)) :
    ∃ g ∈ fields (α := α), g.name = name ∧ g.default? = default? ∧ g.shape = shape := by
  obtain ⟨g, hg, heq⟩ := List.mem_map.1 h
  obtain ⟨hname, hrest⟩ := Prod.mk.inj heq
  obtain ⟨hdefault, hshape⟩ := Prod.mk.inj hrest
  exact ⟨g, hg, hname, hdefault, hshape⟩

/-- A record that is read gives the same value after each edit. -/
theorem decode_edit_record {j k : Json} {a : α} (hedit : Edit (shape α) j k)
    (h : decode j = some a) : decode k = some a := by
  cases hedit with
  | reorder hperm =>
    rw [decode_iff] at h ⊢
    intro f hf
    rw [fieldValue_perm hperm]
    exact h f hf
  | @add _ _ name value hname =>
    rw [decode_iff] at h ⊢
    intro f hf
    have hne : name ≠ f.name := fun heq => hname _ (List.mem_map.2 ⟨f, hf, rfl⟩) heq.symm
    rw [fieldValue_cons_of_ne hne]
    exact h f hf
  | @drop _ members name default _ hfield =>
    obtain ⟨g, hg, rfl, hdefault, -⟩ := exists_field_of_mem_shape hfield
    rw [decode_iff] at h ⊢
    intro f hf
    have hread := h f hf
    by_cases hname : g.name = f.name
    · obtain rfl := eq_of_name hg hf hname
      rw [fieldValue_cons_self] at hread
      cases hrest : fieldValue members g.name with
      | absent =>
        rw [hrest] at hread
        exact (lawful g hg).leave hdefault hread
      | given _ | repeated =>
        rw [hrest] at hread
        exact hread.elim
    · rwa [fieldValue_cons_of_ne hname] at hread
  | @field _ members name _ _ value value' hfield hinner =>
    obtain ⟨g, hg, rfl, -, rfl⟩ := exists_field_of_mem_shape hfield
    rw [decode_iff] at h ⊢
    intro f hf
    have hread := h f hf
    by_cases hname : g.name = f.name
    · obtain rfl := eq_of_name hg hf hname
      rw [fieldValue_cons_self] at hread ⊢
      cases hrest : fieldValue members g.name with
      | absent =>
        rw [hrest] at hread
        exact (lawful g hg).edit hinner hread
      | given _ | repeated =>
        rw [hrest] at hread
        exact hread.elim
    · rw [fieldValue_cons_of_ne hname] at hread ⊢
      exact hread

instance : Editable α where
  shape := shape α
  decode_edit := decode_edit_record

end RecordType

end Preflight
