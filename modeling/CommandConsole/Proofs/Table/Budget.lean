import CommandConsole.Proofs.Table.Columns

/-!
# Tables keep to their limit

A table is as wide as its columns with two spaces between each two. Columns give way until the table
fits its limit, but each keeps its least width, so the limit is exceeded only where columns of the
least width exceed it (`render_within_limit`). Nothing is cut in a table that fits, and no more than
needed in one that does not.
-/

set_option autoImplicit false

namespace CommandConsole.Table

open Text

/-- The natural widths of the columns: the length of the longest text in each. -/
def natural (headers : List String) (rows : List (List String)) : List Nat :=
  (List.range headers.length).map fun i =>
    ((column headers rows i).map String.length).max?.getD 0

variable {layout : Layout} {underline : Bool} {widths : List Nat} {headers texts : List String}
  {rows : List (List String)} {line : List Char} {lines cells : List (List Char)} {i : Nat}

theorem column_map {α β : Type} (f : α → β) (headers : List α) (rows : List (List α)) (i : Nat) :
    column (headers.map f) (rows.map (·.map f)) i = (column headers rows i).map f := by
  have hall : headers.map f :: rows.map (·.map f) = (headers :: rows).map (·.map f) := rfl
  rw [column, column, hall, List.filterMap_map, List.map_filterMap]
  refine List.filterMap_congr fun texts _ => ?_
  exact List.getElem?_map

theorem naturalWidths_toList (headers : List String) (rows : List (List String)) :
    naturalWidths (headers.map String.toList) (rows.map (·.map String.toList)) =
      natural headers rows := by
  rw [naturalWidths_eq, natural, List.length_map]
  refine List.map_congr_left fun i _ => ?_
  have hlengths : ((column headers rows i).map String.toList).map List.length =
      (column headers rows i).map String.length := by
    rw [List.map_map]
    exact List.map_congr_left fun text _ => String.length_toList
  rw [column_map, hlengths]

/-- A text is no longer than the natural width of its column. -/
theorem length_le_natural {text : String} (hi : i < headers.length)
    (htext : text ∈ column headers rows i) : text.length ≤ (natural headers rows).getD i 0 := by
  have hget : (natural headers rows).getD i 0 =
      ((column headers rows i).map String.length).max?.getD 0 := by
    simp [natural, List.getD_eq_getElem?_getD, hi]
  rw [hget]
  exact List.le_max?_getD_of_mem (List.mem_map_of_mem htext)

/-! ## The width of a line -/

theorem Cells.map_length (h : Cells widths texts cells) : cells.map List.length = widths := by
  refine List.ext_getElem (by simp [h.length_eq]) fun i _ hi => ?_
  have hlength := (h.fitted i hi).length_eq
  have hcell : i < cells.length := h.length_eq ▸ hi
  rw [List.getElem_map, ← List.getD_eq_getElem _ [] hcell, hlength, List.getD_eq_getElem _ _ hi]

theorem Shows.length_le (h : Shows widths texts line) : line.length ≤ totalWidth widths := by
  obtain ⟨cells, hcells, rfl⟩ := h
  calc (trimEnd (join [' ', ' '] cells)).length
      ≤ (join [' ', ' '] cells).length := length_trimEnd_le _
    _ = totalWidth widths := by rw [length_join_columns, hcells.map_length]

theorem length_rule (widths : List Nat) : (rule widths).length = totalWidth widths := by
  rw [rule, length_join_columns, List.map_map]
  congr 1
  simp [Function.comp_def]

/-- No line is wider than the columns with the spaces between them. -/
theorem Sheet.length_le (h : Sheet underline widths headers rows lines) (hline : line ∈ lines) :
    line.length ≤ totalWidth widths := by
  obtain ⟨hfirst, hbelow⟩ := h
  rw [List.mem_append, List.mem_cons] at hline
  rcases hline with (rfl | hline) | hline
  · exact hfirst.length_le
  · split at hline
    · rw [List.mem_singleton.mp hline, length_rule]
    · simp at hline
  · obtain ⟨row, -, hshows⟩ := exists_of_mem_forall₂ hbelow hline
    exact hshows.length_le

/-! ## The limit -/

/-- **A table keeps to its limit.** It has headers and any rows, and cells that are too long are
cut. Then there are widths of its columns with which its texts are laid out. No line is longer than
the limit, unless columns of the least width already are. A column is no wider than its longest
text, and not narrower than the least width unless that text is so. Where all columns fit with their
natural widths no text is longer than its column; and where they do not, but would with the least
width, the table is exactly as wide as the limit. -/
theorem render_within_limit (htruncate : layout.truncate = true) (hheaders : headers ≠ [])
    (rows : List (List String)) :
    ∃ widths lines,
      Sheet layout.underline widths headers rows lines ∧
      (render layout headers rows).toList = join ['\n'] lines ∧
      List.Forall₂ (fun width n => min n layout.minColumn ≤ width ∧ width ≤ n) widths
        (natural headers rows) ∧
      (totalWidth (natural headers rows) ≤ layout.maxWidth →
        ∀ i < headers.length, ∀ text ∈ column headers rows i, text.length ≤ widths.getD i 0) ∧
      (layout.maxWidth < totalWidth (natural headers rows) →
        totalWidth ((natural headers rows).map (min · layout.minColumn)) ≤ layout.maxWidth →
        totalWidth widths = layout.maxWidth) ∧
      ∀ line ∈ (render layout headers rows).toList.splitOn '\n', line.length ≤
        max layout.maxWidth (totalWidth ((natural headers rows).map (min · layout.minColumn))) := by
  let widths := narrowed layout.maxWidth layout.minColumn (natural headers rows)
  have hsheet := sheet_renderLines htruncate headers rows
  rw [naturalWidths_toList] at hsheet
  have htext := toList_render layout hheaders rows
  have htotal : totalWidth widths = max (min layout.maxWidth (totalWidth (natural headers rows)))
      (totalWidth ((natural headers rows).map (min · layout.minColumn))) :=
    totalWidth_narrowed layout.maxWidth layout.minColumn (natural headers rows)
  refine ⟨widths, _, hsheet, htext, ?_, ?_, ?_, ?_⟩
  · refine List.forall₂_iff_get.mpr ⟨by simp [widths], fun i hwidth hi => ?_⟩
    have hbounds := getElem_narrowed_bounds layout.maxWidth layout.minColumn hi
    rwa [List.getD_eq_getElem _ _ hwidth] at hbounds
  · intro hfits i hi text hmem
    show text.length ≤ (narrowed layout.maxWidth layout.minColumn (natural headers rows)).getD i 0
    rw [narrowed_of_totalWidth_le hfits]
    exact length_le_natural hi hmem
  · intro hwide hleast
    omega
  · intro line hline
    rw [htext, splitOn_join '\n' hsheet.ne_nil] at hline
    obtain ⟨whole, hwhole, hpiece⟩ := List.mem_flatMap.mp hline
    calc line.length
        ≤ whole.length := length_le_of_mem_splitOn hpiece
      _ ≤ totalWidth widths := hsheet.length_le hwhole
      _ ≤ _ := by omega

/-- Rows with a text of several lines, and a limit that the table exceeds. -/
def brokenRows : List (List String) := [["1", "one line\nand another"], [], ["12", "x", "behind"]]

theorem render_within_limit_broken :
    totalWidth (natural ["ID", "NOTE"] brokenRows) = 24 ∧
      ∃ widths lines, Sheet true widths ["ID", "NOTE"] brokenRows lines ∧
        (render ⟨14, true, true, 2⟩ ["ID", "NOTE"] brokenRows).toList = join ['\n'] lines ∧
        totalWidth widths = 14 ∧
        ∀ line ∈ ["ID  NOTE", "--  ----------", "1   one line", "…", "", "12  x"].map String.toList,
          line.length ≤ 14 := by
  have hnatural : natural ["ID", "NOTE"] brokenRows = [2, 20] := by decide
  have hlines : (render ⟨14, true, true, 2⟩ ["ID", "NOTE"] brokenRows).toList.splitOn '\n' =
      ["ID  NOTE", "--  ----------", "1   one line", "…", "", "12  x"].map String.toList := by cbv
  obtain ⟨widths, lines, hsheet, htext, -, -, hlimit, hwithin⟩ :=
    @render_within_limit ⟨14, true, true, 2⟩ ["ID", "NOTE"] rfl (List.cons_ne_nil _ _) brokenRows
  rw [hnatural] at hlimit hwithin
  rw [hlines] at hwithin
  exact ⟨by rw [hnatural]; rfl, widths, lines, hsheet, htext, hlimit (by decide) (by decide),
    hwithin⟩

end CommandConsole.Table
