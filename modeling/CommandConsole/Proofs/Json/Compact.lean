import CommandConsole.Json.Writer
import CommandConsole.Proofs.Number.Decimal
import CommandConsole.Proofs.Text.Lines

/-!
# Compact texts

The compact text of a value stands on one line: it has no character in front of the space at all
(`printable_render`). The strings in it are quoted, and quoting escapes such characters, and numbers
are digits with a few marks between them.
-/

set_option autoImplicit false

namespace CommandConsole

/-- A text without the control characters in front of the space. -/
def Text.Printable (cs : List Char) : Prop := ∀ c ∈ cs, ' ' ≤ c

namespace Text

variable {cs ds : List Char} {ts : List (List Char)}

instance (cs : List Char) : Decidable (Printable cs) :=
  List.decidableBAll (' ' ≤ ·) cs

theorem Printable.append (h : Printable cs) (h' : Printable ds) : Printable (cs ++ ds) :=
  List.forall_mem_append.mpr ⟨h, h'⟩

theorem Printable.cons {c : Char} (hc : ' ' ≤ c) (h : Printable cs) : Printable (c :: cs) :=
  List.forall_mem_cons.mpr ⟨hc, h⟩

theorem Printable.subset (h : Printable cs) (hsub : ds ⊆ cs) : Printable ds :=
  fun c hc => h c (hsub hc)

theorem Printable.join {separator : List Char} (hseparator : Printable separator)
    (hts : ∀ t ∈ ts, Printable t) : Printable (join separator ts) := by
  intro c hc
  rcases mem_join hc with hgap | ⟨t, ht, hmem⟩
  · exact hseparator c hgap
  · exact hts t ht c hmem

theorem Printable.lineFeed_not_mem (h : Printable cs) : '\n' ∉ cs :=
  fun hmem => absurd (h _ hmem) (by decide)

end Text

open Text

/-! ## Numbers -/

namespace Number

theorem printable_toDigits (n : Nat) : Printable (Nat.toDigits 10 n) := by
  intro c hc
  have hdigit : '0' ≤ c ∧ c ≤ '9' := by simpa [isDigit] using isDigit_of_mem_toDigits hc
  exact Char.le_trans (by decide) hdigit.1

namespace Double

theorem printable_significant (n : Nat) : Printable (significant n) := by
  refine (printable_toDigits n).subset fun c hc => ?_
  have hback := (List.dropWhile_suffix _).subset (List.mem_reverse.mp hc)
  exact List.mem_reverse.mp hback

theorem printable_digitsFrom (units width left count : Nat) :
    Printable (digitsFrom units width left count).digits := by
  induction left generalizing count with
  | zero => exact printable_toDigits _
  | succ left ih =>
      rw [digitsFrom]
      split
      · exact printable_significant _
      · exact ih (count + 1)

theorem printable_shortest (units : Nat) : Printable (shortest units).digits := by
  unfold shortest
  split
  · decide
  · exact printable_digitsFrom _ _ _ _

variable {d : Digits}

theorem printable_zeros (n : Nat) : Printable (List.replicate n '0') := by
  intro c hc
  rw [List.eq_of_mem_replicate hc]
  decide

theorem printable_positional (h : Printable d.digits) : Printable (positional d) := by
  unfold positional
  dsimp only
  split
  · exact (Printable.append (by decide) (printable_zeros _)).append h
  · split
    · exact (h.append (printable_zeros _)).append (by decide)
    · exact (h.subset (List.take_subset ..)).append
        (.cons (by decide) (h.subset (List.drop_subset ..)))

theorem printable_scientific (h : Printable d.digits) : Printable (scientific d) := by
  have hexponent : ∀ e : Int, Printable ['e', if e < 0 then '-' else '+'] := by
    intro e
    split <;> decide
  unfold scientific
  refine (Printable.append ?_ (hexponent _)).append (printable_toDigits _)
  split
  · decide
  · rename_i hdigits
    exact hdigits ▸ h
  · rename_i c r _ hdigits
    rw [hdigits] at h
    obtain ⟨hc, hr⟩ := List.forall_mem_cons.mp h
    exact .cons hc (.cons (by decide) hr)

theorem printable_text (x : Double) : Printable x.text.toList := by
  have hdigits := printable_shortest x.units
  unfold text signed
  rw [String.toList_ofList]
  split
  · split
    · exact .cons (by decide) (printable_positional hdigits)
    · exact .cons (by decide) (printable_scientific hdigits)
  · split
    · exact printable_positional hdigits
    · exact printable_scientific hdigits

end Double

theorem printable_repr (n : Int) : Printable n.repr.toList := by
  cases n with
  | ofNat n => simpa [Int.repr, Nat.repr] using printable_toDigits n
  | negSucc n =>
      simpa [Int.repr, Nat.repr] using Printable.cons (by decide) (printable_toDigits (n + 1))

end Number

/-! ## Strings -/

namespace Json

theorem printable_escaped (c : Char) : Printable (escaped c) := by
  unfold escaped
  split
  case h_8 =>
    split
    · -- a control character without a name has two digits
      rename_i hcontrol
      have hdigits : ∀ n < 0x20, Printable
          ['\\', 'u', '0', '0', Nat.digitChar (n / 16), Nat.digitChar (n % 16)] := by decide
      exact hdigits c.toNat hcontrol
    · rename_i hshown
      intro d hd
      rw [List.mem_singleton.mp hd, Char.le_def, UInt32.le_iff_toNat_le]
      exact Nat.le_of_not_lt hshown
  all_goals decide

theorem printable_quoted (s : String) : Printable (quoted s) := by
  have hcontents : Printable (s.toList.flatMap escaped) := by
    intro d hd
    obtain ⟨c, -, hmem⟩ := List.mem_flatMap.mp hd
    exact printable_escaped c d hmem
  exact .append (.cons (by decide) hcontents) (by decide)

/-! ## Values -/

mutual

/-- **The compact text of a value has no line feed** and no other control character in front of the
space, whatever strings are in the value. -/
theorem printable_render : (v : Json) → Printable (render v)
  | .null => by decide
  | .bool true => by decide
  | .bool false => by decide
  | .int n => Number.printable_repr n
  | .float x => Number.Double.printable_text x
  | .str s => printable_quoted s
  | .arr items =>
      have hitems : Printable (join [','] (renderItems items)) :=
        .join (by decide) (printable_renderItems items)
      .append (.cons (by decide) hitems) (by decide)
  | .obj fields =>
      have hfields : Printable (join [','] (renderFields fields)) :=
        .join (by decide) (printable_renderFields fields)
      .append (.cons (by decide) hfields) (by decide)

theorem printable_renderItems : (items : List Json) → ∀ t ∈ renderItems items, Printable t
  | [] => by simp [renderItems]
  | v :: vs => List.forall_mem_cons.mpr ⟨printable_render v, printable_renderItems vs⟩

theorem printable_renderFields : (fields : Fields) → ∀ t ∈ renderFields fields, Printable t
  | [] => by simp [renderFields]
  | (k, v) :: fs =>
      have hfield : Printable (quoted k ++ ':' :: render v) :=
        .append (printable_quoted k) (.cons (by decide) (printable_render v))
      List.forall_mem_cons.mpr ⟨hfield, printable_renderFields fs⟩

end

theorem printable_text (v : Json) : Printable v.text.toList := by
  rw [text, String.toList_ofList]
  exact printable_render v

end Json

end CommandConsole
