import Preflight.Proofs.TextMap
import Preflight.Json.Codec

/-!
# Reading what was written

A value survives its JSON form when decoding the form gives the value back, `Codec.RoundTrips`.  It
is a property of the value and not of its type, because not every form keeps everything: a count
must fit into 64 bits, and a document must be one that can be read, with no member repeated
(`Json.IsDocument`).  Texts, truth values and words of fixed width always survive; options, lists
and maps survive when what they hold does.

The form of an option is that of its content or `null`, so that the content must not have the form
`null` itself; `Codec.NeverNull` says so of a type.
-/

namespace Preflight

/-! ## Documents -/

namespace Json

mutual

/-- Every part of the value can be read, and no record in it names a member twice. -/
def IsDocument : Json → Prop
  | .list items => AreDocuments items
  | .record members => HaveDocuments members
  | .unreadable => False
  | _ => True

/-- Every item of a list is a document. -/
def AreDocuments : List Json → Prop
  | [] => True
  | item :: items => IsDocument item ∧ AreDocuments items

/-- Every member of a record is a document, under a name of its own. -/
def HaveDocuments : List (String × Json) → Prop
  | [] => True
  | (name, value) :: members =>
    (∀ m ∈ members, m.1 ≠ name) ∧ IsDocument value ∧ HaveDocuments members

end

mutual

/-- A document can be read, and there is nothing to drop from it. -/
theorem kept_of_isDocument : (j : Json) → j.IsDocument → j.isReadable = true ∧ j.dropRepeated = j
  | .list items, h => by
    rw [IsDocument] at h
    obtain ⟨hreadable, hkept⟩ := kept_of_areDocuments items h
    rw [isReadable, dropRepeated, hkept]
    exact ⟨hreadable, rfl⟩
  | .record members, h => by
    rw [IsDocument] at h
    obtain ⟨hreadable, hkept⟩ := kept_of_haveDocuments members h
    rw [isReadable, dropRepeated, hkept]
    exact ⟨hreadable, rfl⟩
  | .unreadable, h => by
    rw [IsDocument] at h
    exact h.elim
  | .null, _ | .bool _, _ | .int _, _ | .float _, _ | .text _, _ => by
    simp [isReadable, dropRepeated]

theorem kept_of_areDocuments : (items : List Json) → AreDocuments items →
    areReadable items = true ∧ dropRepeatedItems items = items
  | [], _ => by simp [areReadable, dropRepeatedItems]
  | item :: items, h => by
    rw [AreDocuments] at h
    obtain ⟨hreadable, hkept⟩ := kept_of_isDocument item h.1
    obtain ⟨hreadable', hkept'⟩ := kept_of_areDocuments items h.2
    rw [areReadable, dropRepeatedItems, hreadable, hreadable', hkept, hkept']
    exact ⟨rfl, rfl⟩

theorem kept_of_haveDocuments : (members : List (String × Json)) → HaveDocuments members →
    haveReadable members = true ∧ dropRepeatedMembers members = members
  | [], _ => by simp [haveReadable, dropRepeatedMembers]
  | (name, value) :: members, h => by
    rw [HaveDocuments] at h
    have hnew : (members.any (·.1 == name)) = false := by simpa using h.1
    obtain ⟨hreadable, hkept⟩ := kept_of_isDocument value h.2.1
    obtain ⟨hreadable', hkept'⟩ := kept_of_haveDocuments members h.2.2
    rw [haveReadable, dropRepeatedMembers, hnew, hreadable, hreadable', hkept, hkept']
    exact ⟨rfl, rfl⟩

end

theorem areDocuments_iff {items : List Json} :
    AreDocuments items ↔ ∀ item ∈ items, item.IsDocument := by
  induction items with
  | nil => simp [AreDocuments]
  | cons item items ih => rw [AreDocuments, ih, List.forall_mem_cons]

theorem haveDocuments_iff {members : List (String × Json)} :
    HaveDocuments members ↔
      (members.map (·.1)).Nodup ∧ ∀ m ∈ members, m.2.IsDocument := by
  induction members with
  | nil => simp [HaveDocuments]
  | cons m members ih =>
    obtain ⟨name, value⟩ := m
    have hnew : (∀ m ∈ members, m.1 ≠ name) ↔ name ∉ members.map (·.1) := by
      rw [List.mem_map, not_exists]
      exact forall_congr' fun m => not_and.symm
    rw [HaveDocuments, ih, hnew, List.map_cons, List.nodup_cons, List.forall_mem_cons]
    exact ⟨fun ⟨h, hv, hn, hm⟩ => ⟨⟨h, hn⟩, hv, hm⟩, fun ⟨⟨h, hn⟩, hv, hm⟩ => ⟨h, hv, hn, hm⟩⟩

end Json

/-! ## Values that survive -/

namespace Codec

variable {α : Type} [Codec α]

/-- Decoding the form of the value gives it back. -/
def RoundTrips (a : α) : Prop := decode (encode a) = some a

/-- No value of the type has the form `null`. -/
class NeverNull (α : Type) [Codec α] : Prop where
  encode_ne_null : ∀ a : α, encode a ≠ .null

instance : NeverNull String where
  encode_ne_null _ := nofun

@[simp] theorem roundTrips_text (s : String) : RoundTrips s := rfl

@[simp] theorem roundTrips_bool (b : Bool) : RoundTrips b := rfl

theorem decodeNatBelow_of_lt {n bound : Nat} (h : n < bound) :
    decodeNatBelow bound (.int n) = some n := by
  have hlt : (n : Int) < bound := Int.ofNat_lt.2 h
  simp [decodeNatBelow, hlt]

theorem roundTrips_nat {n : Nat} (h : n < UInt64.size) : RoundTrips n := decodeNatBelow_of_lt h

@[simp] theorem roundTrips_word64 (n : UInt64) : RoundTrips n := by
  show (decodeNatBelow UInt64.size (.int n.toNat)).map UInt64.ofNat = some n
  rw [decodeNatBelow_of_lt n.toNat_lt, Option.map_some, UInt64.ofNat_toNat]

@[simp] theorem roundTrips_word32 (n : UInt32) : RoundTrips n := by
  show (decodeNatBelow UInt32.size (.int n.toNat)).map UInt32.ofNat = some n
  rw [decodeNatBelow_of_lt n.toNat_lt, Option.map_some, UInt32.ofNat_toNat]

theorem roundTrips_of_isDocument {j : Json} (h : j.IsDocument) : RoundTrips j := by
  show (if j.isReadable then some j.dropRepeated else none) = some j
  obtain ⟨hreadable, hkept⟩ := Json.kept_of_isDocument j h
  rw [if_pos hreadable, hkept]

/-! ## Options, lists and maps -/

/-- What is not `null` decodes as the content of an option. -/
theorem decode_option {j : Json} (hj : j ≠ .null) :
    (decode j : Option (Option α)) = (decode j).map some := by
  cases j with
  | null => exact absurd rfl hj
  | _ => rfl

@[simp] theorem roundTrips_none : RoundTrips (none : Option α) := rfl

@[simp] theorem roundTrips_some_iff [NeverNull α] {a : α} :
    RoundTrips (some a) ↔ RoundTrips a := by
  have hdecode : decode (encode (some a)) = (decode (encode a) : Option α).map some :=
    decode_option (NeverNull.encode_ne_null a)
  rw [RoundTrips, RoundTrips, hdecode]
  simp

@[simp] theorem roundTrips_option [NeverNull α] {o : Option α} (h : ∀ a ∈ o, RoundTrips a) :
    RoundTrips o := by
  cases o with
  | none => exact roundTrips_none
  | some a => exact roundTrips_some_iff.2 (h a rfl)

theorem decodeItems_map {as : List α} (h : ∀ a ∈ as, RoundTrips a) :
    decodeItems (as.map encode) = some as := by
  induction as with
  | nil => rfl
  | cons a as ih =>
    obtain ⟨ha, has⟩ := List.forall_mem_cons.1 h
    rw [List.map_cons, decodeItems, ha, ih has]
    rfl

@[simp] theorem roundTrips_list {as : List α} (h : ∀ a ∈ as, RoundTrips a) : RoundTrips as :=
  decodeItems_map h

theorem decodeEntries_map {entries : List (String × α)} (h : ∀ e ∈ entries, RoundTrips e.2) :
    decodeEntries (entries.map fun e => (e.1, encode e.2)) = some entries := by
  induction entries with
  | nil => rfl
  | cons e entries ih =>
    obtain ⟨he, hentries⟩ := List.forall_mem_cons.1 h
    rw [List.map_cons, decodeEntries, he, ih hentries]
    rfl

@[simp] theorem roundTrips_map {m : TextMap α} (h : ∀ e ∈ m.entries, RoundTrips e.2) :
    RoundTrips m := by
  show (decodeEntries (m.entries.map fun e => (e.1, encode e.2))).map TextMap.ofList = some m
  rw [decodeEntries_map h, Option.map_some, TextMap.ofList_entries]

/-! ## Forms that are documents -/

@[simp] theorem isDocument_text (s : String) : (encode s).IsDocument := by
  show (Json.text s).IsDocument
  simp [Json.IsDocument]

@[simp] theorem isDocument_option {o : Option α} (h : ∀ a ∈ o, (encode a).IsDocument) :
    (encode o).IsDocument := by
  cases o with
  | none =>
    show Json.null.IsDocument
    simp [Json.IsDocument]
  | some a => exact h a rfl

@[simp] theorem isDocument_list {as : List α} (h : ∀ a ∈ as, (encode a).IsDocument) :
    (encode as).IsDocument := by
  show (Json.list (as.map encode)).IsDocument
  rw [Json.IsDocument, Json.areDocuments_iff]
  intro item hitem
  obtain ⟨a, ha, rfl⟩ := List.mem_map.1 hitem
  exact h a ha

@[simp] theorem isDocument_map {m : TextMap α} (h : ∀ e ∈ m.entries, (encode e.2).IsDocument) :
    (encode m).IsDocument := by
  show (Json.record (m.entries.map fun e => (e.1, encode e.2))).IsDocument
  rw [Json.IsDocument, Json.haveDocuments_iff, List.map_map]
  refine ⟨m.nodup_keys, ?_⟩
  intro member hmember
  obtain ⟨e, he, rfl⟩ := List.mem_map.1 hmember
  exact h e he

end Codec

end Preflight
