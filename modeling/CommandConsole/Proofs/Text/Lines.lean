import CommandConsole.Proofs.Text.Words
import Mathlib.Algebra.GroupWithZero.Nat
import Mathlib.Data.List.DropRight

/-!
# Lines of a text

A text has one line more than it has line feeds (`length_splitOn`). The lines of texts that are
joined with line feeds are the lines of each (`splitOn_join`), so they are the texts themselves
where no text has a line feed.

Blanks at the end of a line are trimmed, and a line feed is a blank. So which line feeds are left
depends on what stands behind them, but not on the spaces in the line (`count_trimEnd_spaces`).
-/

set_option autoImplicit false

namespace CommandConsole.Text

variable {cs line : List Char} {ts : List (List Char)}

/-! ## Splitting -/

theorem length_splitOn (c : Char) (cs : List Char) : (cs.splitOn c).length = cs.count c + 1 := by
  induction cs with
  | nil => simp
  | cons d r ih =>
      rw [List.splitOn_cons_eq_if_modifyHead, List.count_cons]
      split
      · rw [List.length_cons, ih]
      · rw [List.length_modifyHead, ih, Nat.add_zero]

theorem length_le_join_of_mem {t : List Char} (separator : List Char) (h : t ∈ ts) :
    t.length ≤ (join separator ts).length := by
  induction ts with
  | nil => simp at h
  | cons u ts ih =>
      cases ts with
      | nil =>
          obtain rfl := List.mem_singleton.mp h
          exact Nat.le_refl _
      | cons v ts =>
          rw [join_cons (List.cons_ne_nil v ts), List.length_append, List.length_append]
          rcases List.mem_cons.mp h with rfl | h
          · omega
          · have hrest := ih h
            omega

/-- A line is no longer than the text. -/
theorem length_le_of_mem_splitOn {c : Char} (h : line ∈ cs.splitOn c) :
    line.length ≤ cs.length := by
  have hle := length_le_join_of_mem [c] h
  rwa [join_eq_intercalate, List.intercalate_splitOn] at hle

/-- **The lines of joined texts are the lines of each.** -/
theorem splitOn_join (c : Char) (hts : ts ≠ []) :
    (join [c] ts).splitOn c = ts.flatMap (·.splitOn c) := by
  induction ts with
  | nil => contradiction
  | cons t ts ih =>
      cases ts with
      | nil => simp [join]
      | cons u ts =>
          have hrest := ih (List.cons_ne_nil u ts)
          calc (join [c] (t :: u :: ts)).splitOn c
              = (t ++ c :: join [c] (u :: ts)).splitOn c := by simp [join]
            _ = t.splitOn c ++ (join [c] (u :: ts)).splitOn c :=
                List.splitOn_append_cons_self t _
            _ = (t :: u :: ts).flatMap (·.splitOn c) := by
                rw [hrest]
                rfl

/-- Texts without the separator are the lines themselves. -/
theorem splitOn_join_of_not_mem {c : Char} (hts : ts ≠ []) (h : ∀ t ∈ ts, c ∉ t) :
    (join [c] ts).splitOn c = ts := by
  rw [join_eq_intercalate]
  exact List.splitOn_intercalate c h hts

/-- Joined texts have a line for each, and one more for each separator within. -/
theorem length_splitOn_join (c : Char) (hts : ts ≠ []) :
    ((join [c] ts).splitOn c).length = ts.length + (ts.map (List.count c)).sum := by
  have hsum : (ts.map fun t => (t.splitOn c).length).sum =
      ts.length + (ts.map (List.count c)).sum := by
    clear hts
    induction ts with
    | nil => rfl
    | cons t ts ih =>
        simp only [List.map_cons, List.sum_cons, List.length_cons, length_splitOn] at ih ⊢
        omega
  rw [splitOn_join c hts, List.length_flatMap, hsum]

/-- A character of joined texts is one of the separator or of a text. -/
theorem mem_join {c : Char} {separator : List Char} {ts : List (List Char)}
    (h : c ∈ join separator ts) : c ∈ separator ∨ ∃ t ∈ ts, c ∈ t := by
  induction ts with
  | nil => simp [join] at h
  | cons t ts ih =>
      cases ts with
      | nil => exact .inr ⟨t, by simp, h⟩
      | cons u ts =>
          rw [join_cons (List.cons_ne_nil u ts), List.mem_append, List.mem_append] at h
          rcases h with (h | h) | h
          · exact .inr ⟨t, by simp, h⟩
          · exact .inl h
          · rcases ih h with h | ⟨v, hv, h⟩
            · exact .inl h
            · exact .inr ⟨v, List.mem_cons_of_mem t hv, h⟩

/-! ## Trimming -/

theorem trimEnd_isPrefix (cs : List Char) : trimEnd cs <+: cs := List.rdropWhile_prefix isBlank cs

theorem length_trimEnd_le (cs : List Char) : (trimEnd cs).length ≤ cs.length :=
  (trimEnd_isPrefix cs).length_le

/-- Trimming passes over characters that are blanks, whether they are there or not. -/
theorem filter_trimEnd {keep : Char → Bool} (hkeep : ∀ c, keep c = false → isBlank c = true)
    (cs : List Char) : (trimEnd cs).filter keep = trimEnd (cs.filter keep) := by
  have hblank : (fun c => !keep c || isBlank c) = isBlank := by
    funext c
    cases hc : keep c with
    | true => simp
    | false => simp [hkeep c hc]
  have hback : (cs.filter keep).reverse.dropWhile isBlank =
      (cs.reverse.dropWhile isBlank).filter keep := by
    rw [← List.filter_reverse, List.dropWhile_filter, hblank]
  rw [trimEnd, trimEnd, hback, List.filter_reverse]

/-- A text without its spaces. -/
def unspaced (cs : List Char) : List Char := cs.filter (· ≠ ' ')

@[simp] theorem unspaced_append (cs ds : List Char) :
    unspaced (cs ++ ds) = unspaced cs ++ unspaced ds := List.filter_append ..

@[simp] theorem unspaced_spaces (n : Nat) : unspaced (List.replicate n ' ') = [] := by
  simp [unspaced]

/-- **Spaces do not matter for the line feeds** that trimming leaves in a text. -/
theorem count_trimEnd_spaces (cs : List Char) :
    (trimEnd cs).count '\n' = (trimEnd (unspaced cs)).count '\n' := by
  have hkeep : ∀ c, decide (c ≠ ' ') = false → isBlank c = true := by
    intro c hc
    obtain rfl : c = ' ' := by simpa using hc
    decide
  rw [unspaced, ← filter_trimEnd hkeep, List.count_filter (by decide)]

end CommandConsole.Text
