import Preflight.CommandLine.Run
import Preflight.PreflightError
import Preflight.Proofs.GuestSpec
import Preflight.Proofs.Printing

/-!
# The grammar of size tokens

A token is accepted when it spells a preset (`GuestSpec.Spells`) and then stands for that preset
alone; any other is refused by name.  A caller may leave the token out or give white space; with
white space around a name, or with a sign or a zero before its number, a token is a
`GuestSpec.NearMiss` and is refused like the rest.

The list of sizes has a row for each preset, and what is printed of it is said exactly for each
format (`CommandLine.ListsSizes`): a grid with a line for each row, or a document with a record for
each row.
-/

namespace Preflight

/-! ## White space -/

/-- The code points with the Unicode property `White_Space`. -/
def whiteSpaces : List Nat :=
  [0x09, 0x0A, 0x0B, 0x0C, 0x0D, 0x20, 0x85, 0xA0, 0x1680, 0x2000, 0x2001, 0x2002, 0x2003, 0x2004,
    0x2005, 0x2006, 0x2007, 0x2008, 0x2009, 0x200A, 0x2028, 0x2029, 0x202F, 0x205F, 0x3000]

theorem isWhiteSpace_iff {c : Char} : isWhiteSpace c = true ↔ c.toNat ∈ whiteSpaces := by
  simp only [isWhiteSpace, whiteSpaces, Bool.or_eq_true, Bool.and_eq_true, decide_eq_true_eq,
    beq_iff_eq, List.mem_cons, List.not_mem_nil, or_false]
  omega

theorem isBlank_iff {s : String} : isBlank s = true ↔ ∀ c ∈ s.toList, c.toNat ∈ whiteSpaces := by
  simp only [isBlank, List.all_eq_true, isWhiteSpace_iff]

namespace GuestSpec

/-! ## The grammar -/

/-- A token that spells a specification: the stem of its class, a hyphen, the number of processors
in decimal and an `x`, where the class offers that number with so much memory for each. -/
structure Spells (token : String) (spec : GuestSpec) : Prop where
  offered : spec.cpus ∈ spec.cpuKind.counts
  token : token = spec.cpuKind.sizeStem ++ "-" ++ toString spec.cpus ++ "x"
  memory : spec.memory.toNat = spec.cpus.toNat * spec.cpuKind.memoryPerCpu.toNat

/-- The memory of a preset fits into its word. -/
theorem memory_preset {kind : CpuKind} {cpus : UInt32} (h : cpus ∈ kind.counts) :
    (preset kind cpus).memory.toNat = cpus.toNat * kind.memoryPerCpu.toNat := by
  have hmemory := CpuKind.of_all_counts (p := fun kind cpus =>
    (preset kind cpus).memory.toNat = cpus.toNat * kind.memoryPerCpu.toNat) (by decide) h
  exact of_decide_eq_true hmemory

theorem ofSize_ok_iff_spells {token : String} {spec : GuestSpec} :
    ofSize token = .ok spec ↔ Spells token spec := by
  rw [ofSize_ok_iff]
  constructor
  · rintro ⟨kind, cpus, hcpus, rfl, rfl⟩
    exact ⟨hcpus, rfl, memory_preset hcpus⟩
  · intro h
    obtain ⟨kind, cpus, memory⟩ := spec
    refine ⟨kind, cpus, h.offered, h.token, ?_⟩
    have hmemory : memory = (preset kind cpus).memory :=
      UInt32.toNat_inj.1 (h.memory.trans (memory_preset h.offered).symm)
    rw [hmemory]
    rfl

/-- How a token is read: as the preset that it spells, of which there is one at most, and otherwise
with an error that repeats it. -/
structure ReadsSize (token : String) : Prop where
  accepted : (∃ spec, ofSize token = .ok spec) ↔ token ∈ presetNames
  spelled : ∀ spec, ofSize token = .ok spec ↔ Spells token spec
  refused : ∀ e, ofSize token = .error e → e.token = token
  distinct : ∀ token' spec, ofSize token = .ok spec → ofSize token' = .ok spec → token' = token

theorem readsSize (token : String) : ReadsSize token where
  accepted := exists_ofSize_iff
  spelled _ := ofSize_ok_iff_spells
  refused e h := by rw [(ofSize_error_iff.1 h).2]
  distinct token' spec h h' := by
    rw [(ofSize_ok_iff_spells.1 h).token, (ofSize_ok_iff_spells.1 h').token]

/-! ## Optional tokens -/

/-- How an optional token is read: white space is as good as nothing, a name has to be given
verbatim, and all else is refused. -/
structure ReadsToken (token : Option String) : Prop where
  absent : ofToken token = .ok none ↔
    ∀ t, token = some t → ∀ c ∈ t.toList, c.toNat ∈ whiteSpaces
  named : ∀ t ∈ presetNames, token = some t →
    ∃ spec, ofSize t = .ok spec ∧ ofToken token = .ok (some spec)
  refused : ∀ t, token = some t → (∃ c ∈ t.toList, c.toNat ∉ whiteSpaces) → t ∉ presetNames →
    (ofToken token).mapError PreflightError.invalidSize = .error (.invalidSize ⟨t⟩)

/-- No white space stands in the name of a preset. -/
theorem not_whiteSpace_of_mem_presetNames {name : String} (h : name ∈ presetNames) {c : Char}
    (hc : c ∈ name.toList) : c.toNat ∉ whiteSpaces := by
  have hall : presetNames.all (fun name => name.toList.all fun c => !isWhiteSpace c) = true := by
    decide +kernel
  have hsolid : (!isWhiteSpace c) = true :=
    List.all_eq_true.1 (List.all_eq_true.1 hall name h) c hc
  rw [← isWhiteSpace_iff]
  simpa using hsolid

theorem isBlank_of_mem_presetNames {name : String} (h : name ∈ presetNames) :
    isBlank name = false := by
  have hall : ∀ name ∈ presetNames, isBlank name = false := by decide +kernel
  exact hall name h

theorem readsToken (token : Option String) : ReadsToken token where
  absent := by
    rw [ofToken_ok_none_iff]
    simp only [isBlank_iff]
  named := by
    rintro t hname rfl
    obtain ⟨spec, hspec⟩ := exists_ofSize_iff.2 hname
    refine ⟨spec, hspec, ?_⟩
    rw [ofToken_of_not_blank (isBlank_of_mem_presetNames hname), hspec]
    rfl
  refused := by
    rintro t rfl ⟨c, hc, hsolid⟩ hnot
    have hblank : isBlank t = false := by
      rw [← Bool.not_eq_true, isBlank_iff]
      exact fun hall => hsolid (hall c hc)
    rw [ofToken_of_not_blank hblank, ofSize_error_iff.2 ⟨hnot, rfl⟩]
    rfl

/-- Names of presets with what a lenient reader might pass over: white space around the name, or a
sign or a zero before the number of processors. -/
inductive NearMiss : String → Prop where
  | padded {before name after : String} (hname : name ∈ presetNames)
    (hbefore : isBlank before = true) (hafter : isBlank after = true)
    (hne : before ≠ "" ∨ after ≠ "") : NearMiss (before ++ name ++ after)
  | counted (kind : CpuKind) {lead : Char} (hlead : lead ∈ ['+', '-', '0']) (digits : List Char) :
    NearMiss (kind.sizeStem ++ "-" ++ String.ofList (lead :: digits) ++ "x")

/-- The classes have stems of which neither begins with the other. -/
theorem eq_of_eq_sizeToken {kind kind' : CpuKind} {count : String} {cpus : UInt32}
    (h : kind.sizeStem ++ "-" ++ count ++ "x" = sizeToken kind' cpus) :
    kind = kind' ∧ count = toString cpus := by
  have hchars := congrArg String.toList h
  simp only [sizeToken, String.toList_append] at hchars
  obtain rfl : kind = kind' := by
    have hfirst := congrArg List.head? hchars
    cases kind <;> cases kind' <;> first | rfl | simp [CpuKind.sizeStem] at hfirst
  refine ⟨rfl, String.toList_inj.1 ?_⟩
  exact List.append_cancel_left (List.append_cancel_right hchars)

/-- A number of processors begins with neither a sign nor a zero. -/
theorem toString_ne_of_mem_counts {kind : CpuKind} {cpus : UInt32} (h : cpus ∈ kind.counts)
    {lead : Char} (hlead : lead ∈ ['+', '-', '0']) (digits : List Char) :
    String.ofList (lead :: digits) ≠ toString cpus := by
  have hnone := CpuKind.of_all_counts (p := fun _ cpus => ['+', '-', '0'].all fun lead =>
    (toString cpus).toList.head? != some lead) (by decide +kernel) h
  intro heq
  have hlead' : (toString cpus).toList.head? = some lead := by
    rw [← heq, String.toList_ofList, List.head?_cons]
  have hne := List.all_eq_true.1 hnone lead hlead
  rw [hlead', bne_self_eq_false] at hne
  cases hne

namespace NearMiss

variable {t : String}

theorem notMem_presetNames (h : NearMiss t) : t ∉ presetNames := by
  intro hmem
  cases h with
  | @padded before name after hname hbefore hafter hne =>
    have hnone : ∀ part : String, isBlank part = true →
        (∀ c ∈ part.toList, c ∈ (before ++ name ++ after).toList) → part = "" := by
      intro part hblank hsub
      rw [← String.toList_eq_nil_iff, List.eq_nil_iff_forall_not_mem]
      intro c hc
      exact not_whiteSpace_of_mem_presetNames hmem (hsub c hc) (isBlank_iff.1 hblank c hc)
    rcases hne with hne | hne
    · exact hne (hnone before hbefore fun c hc => by simp [hc])
    · exact hne (hnone after hafter fun c hc => by simp [hc])
  | counted kind hlead digits =>
    obtain ⟨kind', cpus, hcpus, heq⟩ := mem_presetNames_iff.1 hmem
    obtain ⟨-, hcount⟩ := eq_of_eq_sizeToken heq
    exact toString_ne_of_mem_counts hcpus hlead digits hcount

theorem exists_not_whiteSpace (h : NearMiss t) : ∃ c ∈ t.toList, c.toNat ∉ whiteSpaces := by
  cases h with
  | @padded before name after hname hbefore hafter hne =>
    have hsolid : ¬ ∀ c ∈ name.toList, c.toNat ∈ whiteSpaces := by
      rw [← isBlank_iff, isBlank_of_mem_presetNames hname]
      decide
    obtain ⟨c, hc, hnot⟩ : ∃ c ∈ name.toList, c.toNat ∉ whiteSpaces := by
      simpa using hsolid
    exact ⟨c, by simp [hc], hnot⟩
  | counted kind hlead digits => exact ⟨'x', by simp, by decide⟩

/-- It names no preset and is not blank, so that nobody takes it for either. -/
theorem refused (h : NearMiss t) :
    (ofToken (some t)).mapError PreflightError.invalidSize = .error (.invalidSize ⟨t⟩) :=
  (readsToken (some t)).refused t rfl h.exists_not_whiteSpace h.notMem_presetNames

end NearMiss

end GuestSpec

namespace CommandLine

open GuestSpec

/-! ## The list of sizes -/

theorem ofSize_of_mem_sizeRows {row : SizeRow} (h : row ∈ sizeRows) :
    ofSize row.name = .ok row.spec := by
  obtain ⟨name, -, hrow⟩ := List.mem_filterMap.1 h
  obtain ⟨spec, hspec, rfl⟩ := Option.map_eq_some_iff.1 hrow
  cases hsize : ofSize name with
  | error e =>
    rw [hsize] at hspec
    cases hspec
  | ok found =>
    rw [hsize] at hspec
    rw [Option.some.inj hspec]

/-- No preset is left out, and none is listed twice. -/
theorem names_sizeRows : sizeRows.map SizeRow.name = presetNames := by
  unfold sizeRows
  rw [List.map_filterMap]
  have hall : ∀ name ∈ presetNames, ((ofSize name).toOption.map fun spec =>
      (⟨name, spec⟩ : SizeRow)).map SizeRow.name = some name := by
    intro name hname
    obtain ⟨spec, hspec⟩ := exists_ofSize_iff.2 hname
    rw [hspec]
    rfl
  rw [List.filterMap_congr hall, List.filterMap_some]

/-- A row is about a preset. -/
theorem exists_preset_of_mem_sizeRows {row : SizeRow} (h : row ∈ sizeRows) :
    ∃ kind : CpuKind, ∃ cpus ∈ kind.counts,
      row = ⟨sizeToken kind cpus, preset kind cpus⟩ := by
  obtain ⟨kind, cpus, hcpus, hname, hspec⟩ := ofSize_ok_iff.1 (ofSize_of_mem_sizeRows h)
  refine ⟨kind, cpus, hcpus, ?_⟩
  rw [← hname, ← hspec]

/-- The texts of a row need neither quotes nor escapes in a document. -/
theorem plain_of_mem_sizeRows {row : SizeRow} (hrow : row ∈ sizeRows) :
    ∀ text ∈ [row.name, row.spec.cpuKind.name],
      Yaml.isPlain text = true ∧ Json.isUnescaped text = true := by
  obtain ⟨kind, cpus, hcpus, rfl⟩ := exists_preset_of_mem_sizeRows hrow
  have hplain := CpuKind.of_all_counts (p := fun kind cpus =>
    [sizeToken kind cpus, kind.name].all fun text =>
      Yaml.isPlain text && Json.isUnescaped text) (by decide +kernel) hcpus
  intro text htext
  exact Bool.and_eq_true_iff.1 (List.all_eq_true.1 hplain text htext)

/-- Nor do the names of the members of its record. -/
theorem plain_keys : ∀ key ∈ ["name", "cpu_kind", "cpus", "memory_mb"],
    Yaml.isPlain key = true ∧ Json.isUnescaped key = true := by
  decide +kernel

/-- The cells of a row fit on a line. -/
theorem newline_notMem_cells {row : SizeRow} (hrow : row ∈ sizeRows) :
    ∀ cell ∈ row.cells, '\n' ∉ cell.toList := by
  obtain ⟨kind, cpus, hcpus, rfl⟩ := exists_preset_of_mem_sizeRows hrow
  have hline := CpuKind.of_all_counts (p := fun kind cpus =>
    (SizeRow.mk (sizeToken kind cpus) (preset kind cpus)).cells.all fun cell =>
      !cell.toList.contains '\n') (by decide +kernel) hcpus
  simpa using hline

theorem sizeRows_ne_nil : sizeRows ≠ [] := by
  intro hnil
  have hnames := names_sizeRows
  rw [hnil] at hnames
  exact absurd hnames (by decide)

/-! ## What is printed -/

/-- A size as a record in a JSON list. -/
def SizeRow.inJson (row : SizeRow) : String :=
  "  \x7b\n" ++
  "    \"name\": \"" ++ row.name ++ "\",\n" ++
  "    \"cpu_kind\": \"" ++ row.spec.cpuKind.name ++ "\",\n" ++
  "    \"cpus\": " ++ toString row.spec.cpus ++ ",\n" ++
  "    \"memory_mb\": " ++ toString row.spec.memory ++ "\n" ++
  "  \x7d"

/-- A size as a record in a YAML list. -/
def SizeRow.inYaml (row : SizeRow) : String :=
  "- name: " ++ row.name ++ "\n" ++
  "  cpu_kind: " ++ row.spec.cpuKind.name ++ "\n" ++
  "  cpus: " ++ toString row.spec.cpus ++ "\n" ++
  "  memory_mb: " ++ toString row.spec.memory ++ "\n"

/-- How the sizes are listed in each format: with a line, or a record, for every size in turn that
holds its name, its class, its processors and its memory, and nothing else. -/
structure ListsSizes (printed : OutputFormat → String) : Prop where
  text : ∃ grid, printed .text = grid ++ "\n" ∧
    Grid.Draws (["SIZE", "CPU KIND", "CPUS", "MEMORY (MB)"] :: sizeRows.map fun row =>
      [row.name, row.spec.cpuKind.name, toString row.spec.cpus, toString row.spec.memory]) grid
  json : printed .json = "[\n" ++ ",\n".intercalate (sizeRows.map SizeRow.inJson) ++ "\n]\n"
  yaml : printed .yaml = String.join (sizeRows.map SizeRow.inYaml)

theorem document_eq (row : SizeRow) :
    row.document = .record [("name", .text row.name), ("cpu_kind", .text row.spec.cpuKind.name),
      ("cpus", .int row.spec.cpus.toNat), ("memory_mb", .int row.spec.memory.toNat)] :=
  rfl

theorem digits_eq (n : UInt32) : toString n = toString n.toNat := rfl

theorem prettyAt_document {row : SizeRow} (hrow : row ∈ sizeRows) :
    Json.indent 1 ++ row.document.prettyAt 1 = row.inJson := by
  have hplain := fun text h => (plain_of_mem_sizeRows hrow text h).2
  have hkeys := fun key h => Json.quoteText_of_isUnescaped (plain_keys key h).2
  simp only [List.forall_mem_cons] at hplain hkeys
  obtain ⟨hname, hkind, -⟩ := hplain
  obtain ⟨hnameKey, hkindKey, hcpusKey, hmemoryKey, -⟩ := hkeys
  rw [document_eq, Json.prettyAt_record (by simp), List.map_cons, List.map_cons, List.map_cons,
    List.map_cons, List.map_nil, Json.prettyAt_text hname, Json.prettyAt_text hkind,
    Json.prettyAt_nat, Json.prettyAt_nat, hnameKey, hkindKey, hcpusKey, hmemoryKey]
  unfold SizeRow.inJson
  rw [digits_eq, digits_eq]
  -- the digits do not matter from here on
  generalize toString row.spec.cpus.toNat = cpus, toString row.spec.memory.toNat = memory
  rw [← String.toList_inj]
  simp [Json.indent]

theorem layoutItems_document {row : SizeRow} (hrow : row ∈ sizeRows) (items : List Json) :
    Yaml.layoutItems 0 (row.document :: items) = row.inYaml ++ Yaml.layoutItems 0 items := by
  have hplain := fun text h => (plain_of_mem_sizeRows hrow text h).1
  have hkeys := fun key h => Yaml.scalar_of_isPlain (plain_keys key h).1
  simp only [List.forall_mem_cons] at hplain hkeys
  obtain ⟨hname, hkind, -⟩ := hplain
  obtain ⟨hnameKey, hkindKey, hcpusKey, hmemoryKey, -⟩ := hkeys
  rw [document_eq, Yaml.layoutItems_record, Yaml.layoutMembers, Yaml.layoutMembers,
    Yaml.layoutMembers, Yaml.layoutMembers, Yaml.after_text hname, Yaml.after_text hkind,
    Yaml.after_nat, Yaml.after_nat, hnameKey, hkindKey, hcpusKey, hmemoryKey]
  unfold SizeRow.inYaml
  rw [digits_eq, digits_eq]
  generalize toString row.spec.cpus.toNat = cpus, toString row.spec.memory.toNat = memory
  rw [← String.toList_inj]
  simp [Yaml.blanks]

theorem layoutItems_map_document {rows : List SizeRow} (hrows : ∀ row ∈ rows, row ∈ sizeRows) :
    Yaml.layoutItems 0 (rows.map SizeRow.document) = String.join (rows.map SizeRow.inYaml) := by
  induction rows with
  | nil => rfl
  | cons row rows ih =>
    rw [List.forall_mem_cons] at hrows
    rw [List.map_cons, layoutItems_document hrows.1, ih hrows.2, List.map_cons, String.join_cons]

/-- No size is left out, in any format. -/
theorem listsSizes_renderSizes : ListsSizes renderSizes where
  text := by
    refine ⟨_, rfl, Grid.draws_render (n := 4) (by decide) ?_ ?_⟩
    · rw [List.forall_mem_cons, List.forall_mem_map]
      exact ⟨rfl, fun _ _ => rfl⟩
    · rw [List.forall_mem_cons, List.forall_mem_map]
      exact ⟨by decide +kernel, fun row hrow => newline_notMem_cells hrow⟩
  json := by
    have hrecords : (sizeRows.map SizeRow.document).map (fun doc =>
        Json.indent 1 ++ doc.prettyAt 1) = sizeRows.map SizeRow.inJson := by
      rw [List.map_map]
      exact List.map_congr_left fun row hrow => prettyAt_document hrow
    have hne : sizeRows.map SizeRow.document ≠ [] := by simpa using sizeRows_ne_nil
    show Json.prettyAt 0 (.list (sizeRows.map SizeRow.document)) ++ "\n" = _
    rw [Json.prettyAt_list hne, hrecords, ← String.toList_inj]
    simp [Json.indent]
  yaml := by
    have hne : sizeRows.map SizeRow.document ≠ [] := by simpa using sizeRows_ne_nil
    exact (Yaml.render_list hne).trans (layoutItems_map_document fun _ h => h)

/-- Exactly the names of presets are sizes, and all of them are listed. -/
theorem sizes_exact :
    (∀ token, ReadsSize token) ∧ (∀ token, ReadsToken token) ∧
      (∀ token, NearMiss token →
        (ofToken (some token)).mapError PreflightError.invalidSize =
          .error (.invalidSize ⟨token⟩)) ∧
      sizeRows.map SizeRow.name = presetNames ∧
      (∀ row ∈ sizeRows, ofSize row.name = .ok row.spec) ∧
      ListsSizes renderSizes ∧
      ∀ {m : Type → Type} [Monad m] (readFile : String → m (Except ReadError String)) newId env
        globals, execute readFile newId env globals .sizes = (do
          let _ ← loadSettings readFile env globals.config
          return renderSizes globals.output) := by
  refine ⟨readsSize, readsToken, fun _ h => h.refused, names_sizeRows, ?_,
    listsSizes_renderSizes, ?_⟩
  · intro row hrow
    exact ofSize_of_mem_sizeRows hrow
  · intros
    rfl

end CommandLine

end Preflight
