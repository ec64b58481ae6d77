import CommandConsole.Proofs.Table.Columns

/-!
# Line feeds in a table

A table has a line for each of its rows, and that line shows the texts of the row as they are, line
feeds included. So a line of a table can be several lines of what is written. How many depends on
what its columns show: a line feed that is cut off does not count, and neither does one with nothing
but blanks behind it in the line (`Shows.count_lineFeed`). What is written has a line for each line
of the table just in case none of them is broken (`Sheet.unbroken_iff`).
-/

set_option autoImplicit false

namespace CommandConsole.Table

open Text

/-- What columns show of the texts of a line, without the spaces that fill them up. -/
def shown (widths : List Nat) (texts : List String) : List Char :=
  (List.range widths.length).flatMap fun i => clip (widths.getD i 0) (texts.getD i "").toList

/-- How often a line is broken: the line feeds that are left in it. -/
def breaks (widths : List Nat) (texts : List String) : Nat :=
  (trimEnd (shown widths texts)).count '\n'

variable {underline : Bool} {width : Nat} {widths : List Nat} {texts headers : List String}
  {rows : List (List String)} {text cell line : List Char} {cells lines : List (List Char)}

/-! ## One line -/

/-- A cell is what it shows, up to spaces. -/
theorem Fitted.unspaced_eq (h : Fitted width text cell) :
    unspaced cell = unspaced (clip width text) := by
  cases h with
  | padded hfits =>
      have hclip : clip width text = text := by
        unfold clip
        split
        · exact (List.length_eq_zero_iff.mp (by omega)).symm
        · rfl
      rw [hclip, unspaced_append, unspaced_spaces, List.append_nil]
  | @cut width _ hlonger =>
      have hcut : ¬ text.length ≤ width + 1 := by omega
      rw [clip, if_neg (Nat.succ_ne_zero width), if_neg hcut, Nat.add_sub_cancel]
  | hidden _ => rw [clip, if_pos rfl]

theorem unspaced_join (cells : List (List Char)) :
    unspaced (join [' ', ' '] cells) = cells.flatMap unspaced := by
  induction cells with
  | nil => rfl
  | cons c r ih =>
      cases r with
      | nil => simp [join]
      | cons d r =>
          have hgap : unspaced [' ', ' '] = [] := by decide
          rw [join_cons (List.cons_ne_nil d r), unspaced_append, unspaced_append, hgap, ih,
            List.append_nil]
          rfl

theorem Cells.unspaced_eq (h : Cells widths texts cells) :
    unspaced (join [' ', ' '] cells) = unspaced (shown widths texts) := by
  have hcells : cells = (List.range widths.length).map fun i => cells.getD i [] := by
    refine List.ext_getElem (by simp [h.length_eq]) fun i hi _ => ?_
    rw [List.getElem_map, List.getElem_range, List.getD_eq_getElem _ _ hi]
  have hclip : ∀ i ∈ List.range widths.length, unspaced (cells.getD i []) =
      unspaced (clip (widths.getD i 0) (texts.getD i "").toList) := by
    intro i hi
    exact (h.fitted i (List.mem_range.mp hi)).unspaced_eq
  rw [unspaced_join, hcells, List.flatMap_map, List.flatMap_congr hclip, shown, unspaced,
    List.filter_flatMap]
  rfl

/-- **The line feeds in a line** are those of what its columns show. -/
theorem Shows.count_lineFeed (h : Shows widths texts line) :
    line.count '\n' = breaks widths texts := by
  obtain ⟨cells, hcells, rfl⟩ := h
  -- the line differs from what its columns show in spaces alone, and those do not count
  calc (trimEnd (join [' ', ' '] cells)).count '\n'
      = (trimEnd (unspaced (join [' ', ' '] cells))).count '\n' := count_trimEnd_spaces _
    _ = (trimEnd (unspaced (shown widths texts))).count '\n' := by rw [hcells.unspaced_eq]
    _ = breaks widths texts := (count_trimEnd_spaces _).symm

/-- A line is not broken where its texts are not. -/
theorem breaks_eq_zero (widths : List Nat) (htexts : ∀ text ∈ texts, '\n' ∉ text.toList) :
    breaks widths texts = 0 := by
  have hshows := shows_renderRow widths texts
  rw [← hshows.count_lineFeed]
  exact List.count_eq_zero.mpr (hshows.lineFeed_not_mem htexts)

/-! ## All lines -/

theorem Sheet.length_eq (h : Sheet underline widths headers rows lines) :
    lines.length = rows.length + (if underline then 2 else 1) := by
  obtain ⟨-, hbelow⟩ := h
  have hlength := hbelow.length_eq
  cases underline with
  | true =>
      simp only [List.length_append, List.length_cons, if_true, List.length_nil]
      omega
  | false =>
      simp only [List.length_append, List.length_cons, Bool.false_eq_true, if_false,
        List.length_nil]
      omega

theorem sum_count_below {below : List (List Char)}
    (h : List.Forall₂ (Shows widths) rows below) :
    (below.map (List.count '\n')).sum = (rows.map (breaks widths)).sum := by
  induction h with
  | nil => rfl
  | cons hshows _ ih =>
      rw [List.map_cons, List.map_cons, List.sum_cons, List.sum_cons, hshows.count_lineFeed, ih]

/-- The line feeds in the lines of a table. -/
theorem Sheet.sum_count (h : Sheet underline widths headers rows lines) :
    (lines.map (List.count '\n')).sum = ((headers :: rows).map (breaks widths)).sum := by
  obtain ⟨hfirst, hbelow⟩ := h
  have hrule : (rule widths).count '\n' = 0 := List.count_eq_zero.mpr (lineFeed_not_mem_rule widths)
  have hmiddle : ((if underline then [rule widths] else []).map (List.count '\n')).sum = 0 := by
    split <;> simp [hrule]
  rw [List.map_append, List.sum_append, List.map_cons, List.sum_cons, hmiddle,
    sum_count_below hbelow, hfirst.count_lineFeed]
  rfl

/-- **What is written has a line for each line of the table, and one more for each line feed** in
what the lines show. -/
theorem Sheet.length_splitOn (h : Sheet underline widths headers rows lines) :
    ((join ['\n'] lines).splitOn '\n').length =
      lines.length + ((headers :: rows).map (breaks widths)).sum := by
  rw [length_splitOn_join '\n' h.ne_nil, h.sum_count]

/-- There are as many lines as the table has just in case no line is broken. -/
theorem Sheet.length_splitOn_iff (h : Sheet underline widths headers rows lines) :
    ((join ['\n'] lines).splitOn '\n').length = lines.length ↔
      ∀ texts ∈ headers :: rows, breaks widths texts = 0 := by
  have hsum : ((headers :: rows).map (breaks widths)).sum = 0 ↔
      ∀ texts ∈ headers :: rows, breaks widths texts = 0 := by
    rw [List.sum_eq_zero_iff_forall_eq_nat, List.forall_mem_map]
  rw [← hsum, h.length_splitOn]
  omega

/-- **The lines that are written are those of the table** just in case no line is broken. -/
theorem Sheet.unbroken_iff (h : Sheet underline widths headers rows lines) :
    (∀ texts ∈ headers :: rows, breaks widths texts = 0) ↔
      (join ['\n'] lines).splitOn '\n' = lines := by
  rw [← h.length_splitOn_iff]
  constructor
  · intro hlength
    have hnone : (lines.map (List.count '\n')).sum = 0 := by
      have hmore := length_splitOn_join '\n' h.ne_nil
      omega
    rw [List.sum_eq_zero_iff_forall_eq_nat, List.forall_mem_map] at hnone
    refine splitOn_join_of_not_mem h.ne_nil fun line hline => ?_
    exact List.count_eq_zero.mp (hnone line hline)
  · intro hlines
    rw [hlines]

end CommandConsole.Table
