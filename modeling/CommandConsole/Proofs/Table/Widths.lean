import CommandConsole.Table
import Mathlib.Algebra.BigOperators.Group.List.Basic
import Mathlib.Algebra.GroupWithZero.Nat
import Mathlib.Data.List.Perm.Basic

/-!
# Widths of columns

The natural width of a column is that of its longest text (`naturalWidths_eq`). Where a table is too
wide its columns are asked in turn to give way. What one column gives is bounded by what it has
above the least width and by what is left to give; together they give all that is asked for, or all
they have (`sum_concessions`).

The order in which the columns are asked is some order of all of them, and that is all that counts
for the sum. So the width of the narrowed table has a closed form (`totalWidth_narrowed`): that of
the table, cut down to the limit, but not below that of columns with the least width.
-/

set_option autoImplicit false

namespace CommandConsole.Table

/-! ## Natural widths -/

/-- What stands in a column: its header, and what each row has there. -/
def column {α : Type} (headers : List α) (rows : List (List α)) (i : Nat) : List α :=
  (headers :: rows).filterMap (·[i]?)

theorem getElem?_widen (ws vs : List Nat) (i : Nat) :
    (widen ws vs)[i]? = ws[i]?.map (max · (vs[i]?.getD 0)) := by
  induction ws generalizing vs i with
  | nil => simp [widen]
  | cons w ws ih =>
      cases vs with
      | nil => simp [widen]
      | cons v vs =>
          cases i with
          | zero => simp [widen]
          | succ i => simpa [widen] using ih vs i

/-- Widening row by row goes through each column from the top. -/
theorem getElem?_foldl_widen (rows : List (List (List Char))) (ws : List Nat) (i : Nat) :
    (rows.foldl (fun ws row => widen ws (row.map List.length)) ws)[i]? =
      ws[i]?.map fun w => ((rows.filterMap (·[i]?)).map List.length).foldl max w := by
  induction rows generalizing ws with
  | nil => simp
  | cons row rows ih =>
      rw [List.foldl_cons, ih, getElem?_widen, Option.map_map]
      congr 1
      funext w
      cases hcell : row[i]? with
      | none => simp [hcell]
      | some cell => simp [hcell]

/-- **The natural width of a column is that of its longest text.** -/
theorem naturalWidths_eq (headers : List (List Char)) (rows : List (List (List Char))) :
    naturalWidths headers rows =
      (List.range headers.length).map fun i =>
        ((column headers rows i).map List.length).max?.getD 0 := by
  refine List.ext_getElem? fun i => ?_
  rw [naturalWidths, getElem?_foldl_widen, List.getElem?_map, List.getElem?_map]
  by_cases hi : i < headers.length
  · have hcolumn : column headers rows i = headers[i] :: rows.filterMap (·[i]?) := by
      simp [column, hi]
    rw [List.getElem?_eq_getElem hi, List.getElem?_range hi]
    simp only [Option.map_some, hcolumn, List.map_cons, List.max?_cons', Option.getD_some]
  · rw [List.getElem?_eq_none (by omega), List.getElem?_eq_none (by simp; omega)]
    rfl

/-! ## What columns give -/

variable {least excess maxWidth : Nat} {order : List (Nat × Nat)} {widths : List Nat}

theorem map_fst_concessions (least excess : Nat) (order : List (Nat × Nat)) :
    (concessions least excess order).map Prod.fst = order.map Prod.fst := by
  induction order generalizing excess with
  | nil => rfl
  | cons c r ih => simp [concessions, ih]

/-- **What one column gives** is within what it has above the least width, and within what is asked
for. -/
theorem exists_concession {c : Nat × Nat} (hc : c ∈ order) (excess : Nat) :
    ∃ given, (c.1, given) ∈ concessions least excess order ∧
      given ≤ c.2 - least ∧ given ≤ excess := by
  induction order generalizing excess with
  | nil => simp at hc
  | cons d r ih =>
      rcases List.mem_cons.mp hc with rfl | hc
      · exact ⟨_, List.mem_cons_self, Nat.min_le_left _ _, Nat.min_le_right _ _⟩
      · obtain ⟨given, hmem, hleast, hexcess⟩ := ih hc (excess - min (d.2 - least) excess)
        exact ⟨given, List.mem_cons_of_mem _ hmem, hleast, Nat.le_trans hexcess (Nat.sub_le _ _)⟩

/-- **Together the columns give all that is asked for**, or else all they have. -/
theorem sum_concessions (least excess : Nat) (order : List (Nat × Nat)) :
    ((concessions least excess order).map Prod.snd).sum =
      min excess (order.map fun c => c.2 - least).sum := by
  induction order generalizing excess with
  | nil => simp [concessions]
  | cons c r ih =>
      have hrest := ih (excess - min (c.2 - least) excess)
      simp only [concessions, List.map_cons, List.sum_cons]
      omega

/-- In a list with distinct keys an entry is what is found under its key. -/
theorem lookup_of_mem {entries : List (Nat × Nat)} (hkeys : (entries.map Prod.fst).Nodup)
    {k v : Nat} (h : (k, v) ∈ entries) : entries.lookup k = some v := by
  induction entries with
  | nil => simp at h
  | cons e r ih =>
      obtain ⟨hfresh, hrest⟩ := List.nodup_cons.mp hkeys
      rcases List.mem_cons.mp h with rfl | h
      · simp
      · have hne : k ≠ e.1 := by
          rintro rfl
          exact hfresh (List.mem_map.mpr ⟨_, h, rfl⟩)
        rw [List.lookup_cons, beq_false_of_ne hne]
        exact ih hrest h

/-! ## Narrowed columns -/

/-- What a column gives when a table with columns of these widths is narrowed. -/
def conceded (maxWidth least : Nat) (widths : List Nat) (i : Nat) : Nat :=
  ((concessions least (totalWidth widths - maxWidth) (narrowingOrder widths)).lookup i).getD 0

theorem narrowed_eq (maxWidth least : Nat) (widths : List Nat) :
    narrowed maxWidth least widths =
      widths.zipIdx.map fun p => p.1 - conceded maxWidth least widths p.2 := rfl

@[simp] theorem length_narrowed (maxWidth least : Nat) (widths : List Nat) :
    (narrowed maxWidth least widths).length = widths.length := by
  simp [narrowed]

/-- The columns are asked in some order. -/
theorem narrowingOrder_perm (widths : List Nat) :
    (narrowingOrder widths).Perm (widths.zipIdx.map fun p => (p.2, p.1)) :=
  List.mergeSort_perm _ _

/-- Each column is asked once. -/
theorem nodup_columns (least excess : Nat) (widths : List Nat) :
    ((concessions least excess (narrowingOrder widths)).map Prod.fst).Nodup := by
  have hcolumns : (widths.zipIdx.map fun p => (p.2, p.1)).map Prod.fst =
      List.range' 0 widths.length := by
    rw [List.map_map]
    exact List.zipIdx_map_snd 0 widths
  rw [map_fst_concessions, ((narrowingOrder_perm widths).map _).nodup_iff, hcolumns]
  exact List.nodup_range'

theorem conceded_le (maxWidth least : Nat) {p : Nat × Nat} (hp : p ∈ widths.zipIdx) :
    conceded maxWidth least widths p.2 ≤ p.1 - least ∧
      conceded maxWidth least widths p.2 ≤ totalWidth widths - maxWidth := by
  have hasked : (p.2, p.1) ∈ narrowingOrder widths :=
    (narrowingOrder_perm widths).mem_iff.mpr (List.mem_map_of_mem hp)
  obtain ⟨given, hmem, hle⟩ := exists_concession hasked (totalWidth widths - maxWidth)
  rw [conceded, lookup_of_mem (nodup_columns _ _ widths) hmem]
  exact hle

/-- The columns together give what is asked for, in whatever order they are asked. -/
theorem sum_conceded (maxWidth least : Nat) (widths : List Nat) :
    (widths.zipIdx.map fun p => conceded maxWidth least widths p.2).sum =
      min (totalWidth widths - maxWidth) (widths.map (· - least)).sum := by
  let given := concessions least (totalWidth widths - maxWidth) (narrowingOrder widths)
  have hperm := narrowingOrder_perm widths
  -- what is found under a column is what the column gave
  have hfound : (given.map Prod.fst).map (conceded maxWidth least widths) = given.map Prod.snd := by
    rw [List.map_map]
    refine List.map_congr_left fun e he => ?_
    show (given.lookup e.1).getD 0 = e.2
    rw [lookup_of_mem (nodup_columns _ _ widths) he, Option.getD_some]
  have hasked : ((narrowingOrder widths).map fun c => c.2 - least).sum =
      (widths.map (· - least)).sum := by
    have hwidths : (widths.zipIdx.map fun p => (p.2, p.1)).map (fun c => c.2 - least) =
        widths.map (· - least) := by
      rw [List.map_map]
      conv_rhs => rw [← List.zipIdx_map_fst 0 widths, List.map_map]
      rfl
    rw [(hperm.map _).sum_nat, hwidths]
  calc (widths.zipIdx.map fun p => conceded maxWidth least widths p.2).sum
      = (((widths.zipIdx.map fun p => (p.2, p.1)).map Prod.fst).map
          (conceded maxWidth least widths)).sum := by rw [List.map_map, List.map_map]; rfl
    _ = ((given.map Prod.fst).map (conceded maxWidth least widths)).sum := by
        rw [map_fst_concessions]
        exact ((hperm.symm.map _).map _).sum_nat
    _ = min (totalWidth widths - maxWidth) (widths.map (· - least)).sum := by
        rw [hfound, sum_concessions, hasked]

theorem sum_narrowed_add (maxWidth least : Nat) (widths : List Nat) :
    (narrowed maxWidth least widths).sum +
      (widths.zipIdx.map fun p => conceded maxWidth least widths p.2).sum = widths.sum := by
  rw [narrowed_eq, ← List.sum_map_add]
  conv_rhs => rw [← List.zipIdx_map_fst 0 widths]
  congr 1
  refine List.map_congr_left fun p hp => ?_
  have hle := (conceded_le maxWidth least hp).1
  omega

theorem sum_sub_add_sum_min (least : Nat) (widths : List Nat) :
    (widths.map (· - least)).sum + (widths.map (min · least)).sum = widths.sum := by
  induction widths with
  | nil => rfl
  | cons w ws ih =>
      simp only [List.map_cons, List.sum_cons]
      omega

theorem totalWidth_eq (widths : List Nat) :
    totalWidth widths = widths.sum + 2 * (widths.length - 1) := rfl

/-- **The width of a narrowed table**: that of the table, cut down to the limit, but not below that
of columns with the least width. -/
theorem totalWidth_narrowed (maxWidth least : Nat) (widths : List Nat) :
    totalWidth (narrowed maxWidth least widths) =
      max (min maxWidth (totalWidth widths)) (totalWidth (widths.map (min · least))) := by
  have hsum := sum_narrowed_add maxWidth least widths
  have hleast := sum_sub_add_sum_min least widths
  rw [sum_conceded] at hsum
  simp only [totalWidth_eq, length_narrowed, List.length_map] at hsum ⊢
  omega

/-- A narrowed column is no wider than before, and not narrower than the least width unless it was
so before. -/
theorem getElem_narrowed_bounds (maxWidth least : Nat) {i : Nat} (hi : i < widths.length) :
    min widths[i] least ≤ (narrowed maxWidth least widths).getD i 0 ∧
      (narrowed maxWidth least widths).getD i 0 ≤ widths[i] := by
  have hmem : (widths[i], i) ∈ widths.zipIdx := List.mk_mem_zipIdx_iff_getElem?.mpr (by simp [hi])
  have hle := (conceded_le maxWidth least hmem).1
  have hget : (narrowed maxWidth least widths).getD i 0 =
      widths[i] - conceded maxWidth least widths i := by
    simp [narrowed_eq, List.getD_eq_getElem?_getD, hi]
  rw [hget]
  dsimp only at hle
  omega

/-- A table that is not too wide keeps its columns as they are. -/
theorem narrowed_of_totalWidth_le (hfits : totalWidth widths ≤ maxWidth) (least : Nat) :
    narrowed maxWidth least widths = widths := by
  rw [narrowed_eq]
  conv_rhs => rw [← List.zipIdx_map_fst 0 widths]
  refine List.map_congr_left fun p hp => ?_
  have hle := (conceded_le maxWidth least hp).2
  omega

end CommandConsole.Table
