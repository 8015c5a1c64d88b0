import Mathlib.Data.List.Forall2
import Preflight.Json.Printer
import Preflight.Text.Grid
import Preflight.Yaml.Printer

/-!
# What printed text looks like

The exact layout of what reports are made of: a grid whose cells have one line each
(`Grid.draws_render`), and a list of records as a JSON document (`Json.prettyAt_list` and
`Json.prettyAt_record`) and as a YAML document (`Yaml.render_list` and
`Yaml.layoutItems_record`).  In a document a text without special characters stands as it is,
between double quotes in JSON (`Json.quoteText_of_isUnescaped`) and without quotes in YAML
(`Yaml.scalar_of_isPlain`).
-/

namespace Preflight

/-! ## Grids -/

namespace Grid

/-- A line of a grid with its cells in columns of the given widths: each cell stands behind a bar
and a blank, and is filled with blanks. -/
inductive LineOf : List Nat → List String → String → Prop where
  | nil : LineOf [] [] "|"
  | cons {widths : List Nat} {cells : List String} {line : String} (cell : String) (fill : Nat)
    (h : LineOf widths cells line) :
    LineOf ((Text.width cell.toList + fill) :: widths) (cell :: cells)
      ("| " ++ cell ++ String.ofList (List.replicate fill ' ') ++ " " ++ line)

/-- A border of a grid, with a corner at every bar of its lines. -/
inductive BorderOf : List Nat → String → Prop where
  | nil : BorderOf [] "+"
  | cons {widths : List Nat} {border : String} (w : Nat) (h : BorderOf widths border) :
    BorderOf (w :: widths) ("+" ++ String.ofList (List.replicate (w + 2) '-') ++ border)

/-- A text draws the rows: each is a line, all in the same columns, and a border stands above,
below and between them. -/
def Draws (rows : List (List String)) (text : String) : Prop :=
  ∃ widths border lines, BorderOf widths border ∧ List.Forall₂ (LineOf widths) rows lines ∧
    text = "\n".intercalate (border :: lines.flatMap fun line => [line, border])

theorem splitParts_of_notMem {α : Type} [DecidableEq α] {separator : α} {xs : List α}
    (h : separator ∉ xs) : splitParts separator xs = [xs] := by
  induction xs with
  | nil => rfl
  | cons x xs ih =>
    rw [List.mem_cons, not_or] at h
    rw [splitParts, if_neg (Ne.symm h.1), ih h.2]

/-- A cell of one line. -/
theorem cellLines_of_flat {cell : String} (h : '\n' ∉ cell.toList) :
    cellLines cell = [cell.toList] :=
  splitParts_of_notMem h

theorem cellWidth_of_flat {cell : String} (h : '\n' ∉ cell.toList) :
    cellWidth cell = Text.width cell.toList := by
  rw [cellWidth, cellLines_of_flat h]
  exact Nat.zero_max _

/-- No column is cut off. -/
theorem length_columnWidths {n : Nat} {rows : List (List String)}
    (hrows : ∀ row ∈ rows, row.length = n) (hne : rows ≠ []) : (columnWidths rows).length = n := by
  induction rows with
  | nil => exact absurd rfl hne
  | cons row rows ih =>
    rw [List.forall_mem_cons] at hrows
    cases rows with
    | nil =>
      rw [columnWidths, List.length_map]
      exact hrows.1
    | cons next rows =>
      rw [columnWidths, List.length_zipWith, List.length_map, hrows.1, ih hrows.2 (by simp),
        Nat.min_self]
      simp

/-- Every cell fits into its column. -/
theorem cellWidth_le_columnWidths {n : Nat} {rows : List (List String)}
    (hrows : ∀ row ∈ rows, row.length = n) {row : List String} (hrow : row ∈ rows) {i : Nat}
    (hi : i < row.length) (hcolumn : i < (columnWidths rows).length) :
    cellWidth row[i] ≤ (columnWidths rows)[i] := by
  induction rows with
  | nil => cases hrow
  | cons first rows ih =>
    rw [List.forall_mem_cons] at hrows
    cases rows with
    | nil =>
      obtain rfl := List.mem_singleton.1 hrow
      simp [columnWidths]
    | cons second rows =>
      simp only [columnWidths, List.getElem_zipWith, List.getElem_map]
      rcases List.mem_cons.1 hrow with rfl | htail
      · exact Nat.le_max_left _ _
      · exact Nat.le_trans (ih hrows.2 htail _) (Nat.le_max_right _ _)

theorem forall₂_columnWidths {n : Nat} {rows : List (List String)}
    (hrows : ∀ row ∈ rows, row.length = n) {row : List String} (hrow : row ∈ rows)
    (hflat : ∀ cell ∈ row, '\n' ∉ cell.toList) :
    List.Forall₂ (fun w cell => Text.width cell.toList ≤ w) (columnWidths rows) row := by
  rw [List.forall₂_iff_get]
  constructor
  · rw [length_columnWidths hrows (List.ne_nil_of_mem hrow), hrows row hrow]
  · intro i hcolumn hi
    rw [← cellWidth_of_flat (hflat _ (List.get_mem row ⟨i, hi⟩))]
    exact cellWidth_le_columnWidths hrows hrow hi hcolumn

/-- The line of a row whose cells have one line each. -/
def flatLine (widths : List Nat) (row : List String) : String :=
  "|" ++ String.join (List.zipWith (fun w cell => cellText w cell.toList) widths row)

/-- Cells of one line make a row of one line. -/
theorem height_of_flat (cell : String) (cells : List String) :
    (((cell :: cells).map fun cell => [cell.toList]).map List.length).foldl max 0 = 1 := by
  induction cells with
  | nil => rfl
  | cons next cells ih => exact ih

theorem rowLines_of_flat {row : List String} (hne : row ≠ [])
    (hflat : ∀ cell ∈ row, '\n' ∉ cell.toList) (widths : List Nat) :
    rowLines widths row = [flatLine widths row] := by
  have hcells : row.map cellLines = row.map fun cell => [cell.toList] :=
    List.map_congr_left fun cell h => cellLines_of_flat (hflat cell h)
  have hheight : ((row.map fun cell => [cell.toList]).map List.length).foldl max 0 = 1 := by
    obtain ⟨cell, cells, rfl⟩ := List.exists_cons_of_ne_nil hne
    exact height_of_flat cell cells
  unfold rowLines flatLine
  simp only [hcells, hheight, List.zipWith_map_right]
  rfl

theorem flatLine_cons (w : Nat) (widths : List Nat) (cell : String) (row : List String) :
    flatLine (w :: widths) (cell :: row) =
      "| " ++ cell ++ String.ofList (List.replicate (w - Text.width cell.toList) ' ') ++ " " ++
        flatLine widths row := by
  rw [← String.toList_inj]
  simp [flatLine, cellText]

theorem lineOf_flatLine {widths : List Nat} {row : List String}
    (h : List.Forall₂ (fun w cell => Text.width cell.toList ≤ w) widths row) :
    LineOf widths row (flatLine widths row) := by
  induction h with
  | nil => exact .nil
  | @cons w cell widths row hle _ ih =>
    obtain ⟨fill, rfl⟩ := Nat.exists_eq_add_of_le hle
    rw [flatLine_cons, Nat.add_sub_cancel_left]
    exact .cons cell fill ih

theorem borderOf_rule (widths : List Nat) : BorderOf widths (rule widths) := by
  induction widths with
  | nil => exact .nil
  | cons w widths ih =>
    have hcons : rule (w :: widths) =
        "+" ++ String.ofList (List.replicate (w + 2) '-') ++ rule widths := by
      rw [← String.toList_inj]
      simp [rule]
    rw [hcons]
    exact .cons w ih

/-- A grid draws its rows, if they have the same length and their cells one line each. -/
theorem draws_render {n : Nat} (hn : 0 < n) {rows : List (List String)}
    (hrows : ∀ row ∈ rows, row.length = n)
    (hflat : ∀ row ∈ rows, ∀ cell ∈ row, '\n' ∉ cell.toList) : Draws rows (render rows) := by
  refine ⟨columnWidths rows, rule (columnWidths rows), rows.map (flatLine (columnWidths rows)),
    borderOf_rule _, ?_, ?_⟩
  · rw [List.forall₂_map_right_iff, List.forall₂_same]
    intro row hrow
    exact lineOf_flatLine (forall₂_columnWidths hrows hrow (hflat row hrow))
  · have hlines : (rows.flatMap fun row =>
        rowLines (columnWidths rows) row ++ [rule (columnWidths rows)]) =
        rows.flatMap fun row =>
          [flatLine (columnWidths rows) row, rule (columnWidths rows)] := by
      apply List.flatMap_congr
      intro row hrow
      have hne : row ≠ [] := List.ne_nil_of_length_pos (hrows row hrow ▸ hn)
      rw [rowLines_of_flat hne (hflat row hrow), List.singleton_append]
    rw [render, hlines, List.flatMap_map]

end Grid

/-! ## JSON documents -/

namespace Json

theorem prettyItems_eq (level : Nat) (items : List Json) :
    prettyItems level items = items.map (prettyAt level) := by
  induction items with
  | nil => rfl
  | cons item items ih => rw [prettyItems, ih, List.map_cons]

theorem prettyMembers_eq (level : Nat) (members : List (String × Json)) :
    prettyMembers level members =
      members.map fun m => quoteText m.1 ++ ": " ++ prettyAt level m.2 := by
  induction members with
  | nil => rfl
  | cons m members ih => rw [prettyMembers, ih, List.map_cons]

theorem bracketed_of_ne_nil {lines : List String} (h : lines ≠ []) (opening closing : String)
    (level : Nat) :
    bracketed opening closing level lines =
      opening ++ "\n" ++ ",\n".intercalate (lines.map (indent (level + 1) ++ ·)) ++ "\n" ++
        indent level ++ closing := by
  rw [bracketed, List.isEmpty_eq_false_iff.2 h, if_neg Bool.false_ne_true]

/-- A list, with each item on lines of its own. -/
theorem prettyAt_list {items : List Json} (h : items ≠ []) (level : Nat) :
    prettyAt level (list items) =
      "[\n" ++ ",\n".intercalate (items.map fun item =>
        indent (level + 1) ++ prettyAt (level + 1) item) ++ "\n" ++ indent level ++ "]" := by
  have hlines : items.map (prettyAt (level + 1)) ≠ [] := by simpa using h
  rw [prettyAt, prettyItems_eq, bracketed_of_ne_nil hlines, List.map_map]
  rfl

/-- A record, with each member on lines of its own. -/
theorem prettyAt_record {members : List (String × Json)} (h : members ≠ []) (level : Nat) :
    prettyAt level (record members) =
      "\x7b\n" ++ ",\n".intercalate (members.map fun m =>
        indent (level + 1) ++ (quoteText m.1 ++ ": " ++ prettyAt (level + 1) m.2)) ++ "\n" ++
          indent level ++ "\x7d" := by
  have hlines : (members.map fun m => quoteText m.1 ++ ": " ++ prettyAt (level + 1) m.2) ≠ [] := by
    simpa using h
  rw [prettyAt, prettyMembers_eq, bracketed_of_ne_nil hlines, List.map_map]
  rfl

/-- A text that is written as it is, between its quotes. -/
def isUnescaped (s : String) : Bool := s.toList.all fun c => escapeChar c == c.toString

theorem quoteText_of_isUnescaped {s : String} (h : isUnescaped s = true) :
    quoteText s = "\"" ++ s ++ "\"" := by
  simp only [isUnescaped, List.all_eq_true, beq_iff_eq] at h
  have hjoin : String.join (s.toList.map escapeChar) = s := by
    rw [← String.toList_inj, String.toList_join, List.map_congr_left h]
    simp [List.flatMap_map]
  rw [quoteText, hjoin]

theorem prettyAt_text {s : String} (h : isUnescaped s = true) (level : Nat) :
    prettyAt level (text s) = "\"" ++ s ++ "\"" :=
  quoteText_of_isUnescaped h

theorem prettyAt_nat (level n : Nat) : prettyAt level (int n) = toString n := rfl

end Json

/-! ## YAML documents -/

namespace Yaml

theorem endLine_of_no_break {text : String} (h : ∀ c ∈ text.toList, isBreak c = false) :
    endLine text = text ++ "\n" := by
  have hlast : ¬text.toList.getLast?.any isBreak := by
    rw [Option.any_eq_true]
    rintro ⟨c, hc, hbreak⟩
    rw [h c (List.mem_of_getLast? hc)] at hbreak
    cases hbreak
  rw [endLine, if_neg hlast]

theorem isBreak_of_isDigit {c : Char} (h : c.isDigit = true) : isBreak c = false := by
  rw [← Bool.not_eq_true]
  intro hbreak
  simp only [isBreak, Bool.or_eq_true, beq_iff_eq] at hbreak
  rcases hbreak with (((rfl | rfl) | rfl) | rfl) | rfl <;> exact absurd h (by decide)

theorem endLine_toString (n : Nat) : endLine (toString n) = toString n ++ "\n" := by
  apply endLine_of_no_break
  intro c hc
  rw [Nat.toString_eq_ofList_toDigits, String.toList_ofList] at hc
  exact isBreak_of_isDigit (Nat.isDigit_of_mem_toDigits (by decide) (by decide) hc)

/-- A text that is written without quotes. -/
def isPlain (s : String) : Bool :=
  let cs := s.toList
  !cs.contains '\n' && !hasBlankAt true cs && cs.all isPrintable && !hasBlankAt false cs &&
    !readsAsOther s && !readsAsSyntax cs && !hasEdgeBlank cs && !cs.any isBreak

theorem scalar_of_isPlain {s : String} (h : isPlain s = true) (indent : Nat) :
    scalar indent s = s := by
  simp only [isPlain, Bool.and_eq_true, Bool.not_eq_true', List.all_eq_true] at h
  obtain ⟨⟨⟨⟨⟨⟨⟨hline, hbefore⟩, hprint⟩, hafter⟩, hother⟩, hsyntax⟩, hedge⟩, hbreak⟩ := h
  have hspecial : (s.toList.any fun c => !isPrintable c) = false := by
    simpa using hprint
  simp only [scalar, hline, hbefore, hspecial, hafter, hother, hsyntax, hedge, hbreak,
    Bool.or_self, Bool.false_eq_true, if_false]

theorem endLine_of_isPlain {s : String} (h : isPlain s = true) : endLine s = s ++ "\n" := by
  rw [isPlain, Bool.and_eq_true, Bool.not_eq_true', List.any_eq_false] at h
  apply endLine_of_no_break
  intro c hc
  exact Bool.eq_false_iff.2 (h.2 c hc)

theorem render_list {items : List Json} (h : items ≠ []) :
    render (.list items) = layoutItems 0 items := by
  obtain ⟨item, items, rfl⟩ := List.exists_cons_of_ne_nil h
  rfl

theorem Layout.after_append (s key : String) (l : Layout) :
    l.after (s ++ key) = s ++ l.after key := by
  cases l <;> simp only [Layout.after, String.append_assoc]

theorem after_text {s : String} (h : isPlain s = true) (indent : Nat) (key : String) :
    (layout indent (.text s)).after key = key ++ " " ++ s ++ "\n" := by
  rw [layout, Layout.after, scalar_of_isPlain h, endLine_of_isPlain h,
    ← String.append_assoc]

theorem after_nat (indent n : Nat) (key : String) :
    (layout indent (.int n)).after key = key ++ " " ++ toString n ++ "\n" := by
  have hlayout : layout indent (.int n) = .inline (toString n) := rfl
  rw [hlayout, Layout.after, endLine_toString, ← String.append_assoc]

/-- A record in a list: its first member follows the dash. -/
theorem layoutItems_record (indent : Nat) (m : String × Json) (members : List (String × Json))
    (items : List Json) :
    layoutItems indent (.record (m :: members) :: items) =
      blanks indent ++ "- " ++ (layout (indent + 2) m.2).after (scalar (indent + 2) m.1 ++ ":") ++
        layoutMembers (indent + 2) members ++ layoutItems indent items := by
  have hblanks : (blanks (indent + 2)).toList.length = indent + 2 := by simp [blanks]
  have hmembers : (layoutMembers (indent + 2) (m :: members)).toList.drop (indent + 2) =
      ((layout (indent + 2) m.2).after (scalar (indent + 2) m.1 ++ ":") ++
        layoutMembers (indent + 2) members).toList := by
    rw [layoutMembers, String.append_assoc, Layout.after_append, String.append_assoc,
      String.toList_append, List.drop_left' hblanks]
  rw [layoutItems, hmembers, String.ofList_toList, ← String.append_assoc]

end Yaml

end Preflight
