import CommandConsole.Proofs.Table.Widths
import CommandConsole.Proofs.Text.Lines
import Mathlib.Computability.Primrec.List
import Mathlib.Data.List.Forall2
import Mathlib.Data.List.GetD
import Mathlib.Data.List.Permutation

/-!
# Columns of a table

A line of a table shows its texts in columns. `Fitted` says what a column of a given width shows of
a text: always as many characters as the column is wide. So each column starts at the same place in
every line (`slice_join`), whatever the texts are, and a line is as wide as its columns with the
spaces between them (`length_join_columns`).

`Sheet` lists the lines of a table. Where no text has a line feed, these are the lines of the text
that is written (`columns_line_up`).
-/

set_option autoImplicit false

namespace CommandConsole.Table

open Text

/-! ## A text in a column -/

/-- **What a column shows of a text**: the text with spaces behind it, or what there is room for in
front of an ellipsis. There is no room for anything in a column without width. -/
inductive Fitted : (width : Nat) → (text cell : List Char) → Prop where
  | padded {width : Nat} {text : List Char} : text.length ≤ width →
      Fitted width text (text ++ List.replicate (width - text.length) ' ')
  | cut {width : Nat} {text : List Char} : width + 1 < text.length →
      Fitted (width + 1) text (text.take width ++ ['…'])
  | hidden {text : List Char} : text ≠ [] → Fitted 0 text []

variable {width : Nat} {text cell line : List Char}

theorem fitted_fit (width : Nat) (text : List Char) : Fitted width text (fit true width text) := by
  unfold fit clip
  by_cases hfits : text.length ≤ width
  · rw [if_pos hfits]
    exact .padded hfits
  · rw [if_neg hfits, if_pos rfl, if_neg hfits]
    cases width with
    | zero =>
        refine .hidden fun hnil => hfits ?_
        simp [hnil]
    | succ width => exact .cut (by omega)

/-- **A cell is as wide as its column.** -/
theorem Fitted.length_eq (h : Fitted width text cell) : cell.length = width := by
  cases h with
  | padded hfits =>
      rw [List.length_append, List.length_replicate]
      omega
  | cut hlonger =>
      rw [List.length_append, List.length_take, List.length_singleton]
      omega
  | hidden _ => rfl

theorem Fitted.lineFeed_not_mem (h : Fitted width text cell) (htext : '\n' ∉ text) :
    '\n' ∉ cell := by
  cases h with
  | padded _ =>
      rw [List.mem_append, List.mem_replicate]
      rintro (hmem | ⟨-, hspace⟩)
      · exact htext hmem
      · exact absurd hspace (by decide)
  | cut _ =>
      rw [List.mem_append, List.mem_singleton]
      rintro (hmem | hellipsis)
      · exact htext (List.mem_of_mem_take hmem)
      · exact absurd hellipsis (by decide)
  | hidden _ => simp

/-! ## Columns side by side -/

/-- Where a column starts: behind those in front of it, with two spaces behind each. -/
def offset (widths : List Nat) (i : Nat) : Nat := (widths.take i).sum + 2 * i

/-- The text in a column of a line. -/
def slice (widths : List Nat) (i : Nat) (line : List Char) : List Char :=
  (line.drop (offset widths i)).take (widths.getD i 0)

variable {cells : List (List Char)} {widths : List Nat} {i : Nat}

/-- A line is as wide as its columns with the spaces between them. -/
theorem length_join_columns (cells : List (List Char)) :
    (join [' ', ' '] cells).length = totalWidth (cells.map List.length) := by
  induction cells with
  | nil => rfl
  | cons c r ih =>
      cases r with
      | nil => simp [join, totalWidth_eq]
      | cons d r =>
          rw [join_cons (List.cons_ne_nil d r), List.length_append, List.length_append, ih]
          simp only [totalWidth_eq, List.map_cons, List.sum_cons, List.length_cons, List.length_nil]
          omega

/-- **A column starts at the same place in every line**, whatever stands in the columns in front. -/
theorem slice_join (hcells : cells.map List.length = widths) (hi : i < cells.length) :
    slice widths i (join [' ', ' '] cells) = cells.getD i [] := by
  subst hcells
  induction cells generalizing i with
  | nil => simp at hi
  | cons c r ih =>
      cases i with
      | zero =>
          cases r with
          | nil => simp [slice, offset, join]
          | cons d r => simp [slice, offset, join]
      | succ i =>
          have hr : r ≠ [] := by
            rintro rfl
            simp at hi
          have hrest := ih (i := i) (by simpa using hi)
          have hoffset : offset ((c :: r).map List.length) (i + 1) =
              (c ++ [' ', ' ']).length + offset (r.map List.length) i := by
            simp only [offset, List.map_cons, List.take_succ_cons, List.sum_cons,
              List.length_append, List.length_cons, List.length_nil]
            omega
          rw [slice, hoffset, join_cons hr, ← List.drop_drop, List.drop_left]
          exact hrest

/-! ## Lines of a table -/

/-- The cells of a line: one for each column, with what the column shows of the text that the line
has for it, or of nothing. -/
structure Cells (widths : List Nat) (texts : List String) (cells : List (List Char)) : Prop where
  length_eq : cells.length = widths.length
  fitted : ∀ i < widths.length,
    Fitted (widths.getD i 0) (texts.getD i "").toList (cells.getD i [])
  aligned : ∀ i < widths.length, slice widths i (join [' ', ' '] cells) = cells.getD i []

/-- A line that shows texts in columns. The blanks it ends with are left out. -/
def Shows (widths : List Nat) (texts : List String) (line : List Char) : Prop :=
  ∃ cells, Cells widths texts cells ∧ line = trimEnd (join [' ', ' '] cells)

/-- Dashes under each column. -/
def rule (widths : List Nat) : List Char :=
  join [' ', ' '] (widths.map fun w => List.replicate w '-')

/-- **The lines of a table**: the headers, the dashes where they are asked for, and the rows. -/
inductive Sheet (underline : Bool) (widths : List Nat) (headers : List String)
    (rows : List (List String)) : (lines : List (List Char)) → Prop where
  | intro {first : List Char} {below : List (List Char)} :
      Shows widths headers first → List.Forall₂ (Shows widths) rows below →
      Sheet underline widths headers rows
        (first :: (if underline then [rule widths] else []) ++ below)

variable {underline : Bool} {texts headers : List String} {rows : List (List String)}
  {lines : List (List Char)} {layout : Layout}

/-- The cells of a row. -/
def rowCells (widths : List Nat) (texts : List (List Char)) : List (List Char) :=
  widths.zipIdx.map fun p => fit true p.1 (texts[p.2]?.getD [])

theorem getD_rowCells (texts : List (List Char)) (hi : i < widths.length) :
    (rowCells widths texts).getD i [] = fit true (widths.getD i 0) (texts.getD i []) := by
  simp [rowCells, List.getD_eq_getElem?_getD, hi]

theorem map_length_rowCells (widths : List Nat) (texts : List (List Char)) :
    (rowCells widths texts).map List.length = widths := by
  rw [rowCells, List.map_map]
  conv_rhs => rw [← List.zipIdx_map_fst 0 widths]
  exact List.map_congr_left fun p _ => (fitted_fit p.1 _).length_eq

theorem cells_rowCells (widths : List Nat) (texts : List String) :
    Cells widths texts (rowCells widths (texts.map String.toList)) := by
  have hlength : (rowCells widths (texts.map String.toList)).length = widths.length := by
    simp [rowCells]
  refine ⟨hlength, fun i hi => ?_, fun i hi => ?_⟩
  · have htext : (texts.map String.toList).getD i [] = (texts.getD i "").toList := by
      rw [List.getD_eq_getElem?_getD, List.getD_eq_getElem?_getD, List.getElem?_map]
      cases texts[i]? <;> rfl
    rw [getD_rowCells _ hi, htext]
    exact fitted_fit _ _
  · exact slice_join (map_length_rowCells widths _) (hlength ▸ hi)

theorem shows_renderRow (widths : List Nat) (texts : List String) :
    Shows widths texts (renderRow true widths (texts.map String.toList)) :=
  ⟨_, cells_rowCells widths texts, rfl⟩

/-- **What is written is a sheet**, with columns that are narrowed where the table is too wide. -/
theorem sheet_renderLines (htruncate : layout.truncate = true) (headers : List String)
    (rows : List (List String)) :
    Sheet layout.underline
      (narrowed layout.maxWidth layout.minColumn
        (naturalWidths (headers.map String.toList) (rows.map (·.map String.toList))))
      headers rows (renderLines layout (headers.map String.toList)
        (rows.map (·.map String.toList))) := by
  rw [renderLines, htruncate, List.map_map]
  refine .intro (shows_renderRow _ headers) ?_
  rw [List.forall₂_map_right_iff, List.forall₂_same]
  exact fun row _ => shows_renderRow _ row

theorem toList_render (layout : Layout) (hheaders : headers ≠ []) (rows : List (List String)) :
    (render layout headers rows).toList = join ['\n'] (renderLines layout
      (headers.map String.toList) (rows.map (·.map String.toList))) := by
  have hempty : headers.isEmpty = false := List.isEmpty_eq_false_iff.mpr hheaders
  simp [render, hempty]

/-! ## Texts without line feeds -/

theorem Shows.lineFeed_not_mem (h : Shows widths texts line)
    (htexts : ∀ text ∈ texts, '\n' ∉ text.toList) : '\n' ∉ line := by
  obtain ⟨cells, hcells, rfl⟩ := h
  intro hmem
  rcases mem_join ((trimEnd_isPrefix _).subset hmem) with hgap | ⟨cell, hcell, hmem⟩
  · exact absurd hgap (by decide)
  · obtain ⟨i, hi, rfl⟩ := List.getElem_of_mem hcell
    have hfitted := hcells.fitted i (hcells.length_eq ▸ hi)
    rw [List.getD_eq_getElem _ _ hi] at hfitted
    refine hfitted.lineFeed_not_mem ?_ hmem
    -- a line that has no text for the column shows nothing in it
    by_cases htext : i < texts.length
    · rw [List.getD_eq_getElem _ _ htext]
      exact htexts _ (List.getElem_mem htext)
    · rw [List.getD_eq_default _ _ (by omega)]
      decide

theorem lineFeed_not_mem_rule (widths : List Nat) : '\n' ∉ rule widths := by
  intro hmem
  rcases mem_join hmem with hgap | ⟨dashes, hdashes, hmem⟩
  · exact absurd hgap (by decide)
  · obtain ⟨w, -, rfl⟩ := List.mem_map.mp hdashes
    exact absurd (List.eq_of_mem_replicate hmem) (by decide)

/-- What stands on the right of related lists is related to something on the left. -/
theorem exists_of_mem_forall₂ {α β : Type} {R : α → β → Prop} {as : List α} {bs : List β}
    (h : List.Forall₂ R as bs) {b : β} (hb : b ∈ bs) : ∃ a ∈ as, R a b := by
  induction h with
  | nil => simp at hb
  | @cons a b' as bs hab _ ih =>
      rcases List.mem_cons.mp hb with rfl | hb
      · exact ⟨a, List.mem_cons_self, hab⟩
      · obtain ⟨c, hc, hcb⟩ := ih hb
        exact ⟨c, List.mem_cons_of_mem a hc, hcb⟩

theorem Sheet.ne_nil (h : Sheet underline widths headers rows lines) : lines ≠ [] := by
  cases h
  simp

theorem Sheet.lineFeed_not_mem (h : Sheet underline widths headers rows lines)
    (hplain : ∀ texts ∈ headers :: rows, ∀ text ∈ texts, '\n' ∉ text.toList) :
    ∀ line ∈ lines, '\n' ∉ line := by
  obtain ⟨hfirst, hbelow⟩ := h
  intro line hline
  rw [List.mem_append, List.mem_cons] at hline
  rcases hline with (rfl | hline) | hline
  · exact hfirst.lineFeed_not_mem (hplain headers List.mem_cons_self)
  · split at hline
    · rw [List.mem_singleton.mp hline]
      exact lineFeed_not_mem_rule widths
    · simp at hline
  · obtain ⟨row, hrow, hshows⟩ := exists_of_mem_forall₂ hbelow hline
    exact hshows.lineFeed_not_mem (hplain row (List.mem_cons_of_mem _ hrow))

/-- The dashes of a column stand where the column does. -/
theorem slice_rule (hi : i < widths.length) :
    slice widths i (rule widths) = List.replicate (widths.getD i 0) '-' := by
  have hwidths : (widths.map fun w => List.replicate w '-').map List.length = widths := by
    simp [Function.comp_def]
  rw [rule, slice_join hwidths (by simpa using hi)]
  simp [List.getD_eq_getElem?_getD, hi]

/-- **Columns line up, and each cell shows its own text.** A table has headers, rows that are longer
or shorter, and no line feed in its texts, and cells that are too long are cut. Then there are
widths of its columns such that the lines of what is written are the headers, the dashes if they are
asked for, and the rows in their order. In each of these lines a column starts at the same place and
shows the text that the line has for it: with spaces behind it unless it is longer than the column
is wide, and else with an ellipsis in the last place. -/
theorem columns_line_up (htruncate : layout.truncate = true) (hheaders : headers ≠ [])
    (hplain : ∀ texts ∈ headers :: rows, ∀ text ∈ texts, '\n' ∉ text.toList) :
    ∃ widths, widths.length = headers.length ∧
      Sheet layout.underline widths headers rows
        ((render layout headers rows).toList.splitOn '\n') ∧
      ∀ i < headers.length,
        slice widths i (rule widths) = List.replicate (widths.getD i 0) '-' := by
  let natural := naturalWidths (headers.map String.toList) (rows.map (·.map String.toList))
  let widths := narrowed layout.maxWidth layout.minColumn natural
  have hlength : widths.length = headers.length := by
    simp [widths, natural, naturalWidths_eq]
  have hsheet := sheet_renderLines htruncate headers rows
  have hlines : (render layout headers rows).toList.splitOn '\n' = renderLines layout
      (headers.map String.toList) (rows.map (·.map String.toList)) := by
    rw [toList_render layout hheaders rows,
      splitOn_join_of_not_mem hsheet.ne_nil (hsheet.lineFeed_not_mem hplain)]
  exact ⟨widths, hlength, hlines ▸ hsheet, fun i hi => slice_rule (hlength ▸ hi)⟩

/-- Rows of different lengths. -/
def raggedRows : List (List String) :=
  [["1", "Azure Interior"], ["12", "Deco", "", "behind"], [], ["", "", "longer"]]

/-- The lines of a table of them that is made narrower. -/
def raggedLines : List String :=
  ["ID  N…", "--  --  ------", "1   A…", "12  D…", "", "        longer"]

theorem columns_line_up_ragged :
    (∀ texts ∈ ["ID", "NAME", ""] :: raggedRows, ∀ text ∈ texts, '\n' ∉ text.toList) ∧
      ∃ widths, widths.length = 3 ∧
        Sheet true widths ["ID", "NAME", ""] raggedRows (raggedLines.map String.toList) ∧
        ∀ i < 3, slice widths i (rule widths) = List.replicate (widths.getD i 0) '-' := by
  have hplain : ∀ texts ∈ ["ID", "NAME", ""] :: raggedRows, ∀ text ∈ texts,
      '\n' ∉ text.toList := by decide
  obtain ⟨widths, hlength, hsheet, hrule⟩ :=
    @columns_line_up _ _ ⟨14, true, true, 1⟩ rfl (List.cons_ne_nil _ _) hplain
  have hlines : (render ⟨14, true, true, 1⟩ ["ID", "NAME", ""] raggedRows).toList.splitOn '\n' =
      raggedLines.map String.toList := by cbv
  rw [hlines] at hsheet
  exact ⟨hplain, widths, hlength, hsheet, hrule⟩

end CommandConsole.Table
