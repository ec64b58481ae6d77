import CommandConsole.Text.Markup

/-!
# Texts without markup

A text is inert for an HTML host when it has no character that delimits a tag or the value of an
attribute, and every ampersand in it begins one of the five entities (`Inert`). Inert texts side by
side are inert, and escaping makes a text inert whatever it was (`inert_escapeMarkup`).

A piece of an inert text need not be inert, since an entity may be cut in two. So a text is cut to
size before it is escaped.
-/

set_option autoImplicit false

namespace CommandConsole.Text

/-- The characters that delimit tags and the values of attributes. -/
def delimiters : List Char := ['<', '>', '"', '\'']

/-- What stands for a delimiter or an ampersand. -/
def entities : List (List Char) := ["&amp;", "&lt;", "&gt;", "&quot;", "&#39;"].map String.toList

/-- A text that an HTML host shows as a text and nothing else. -/
structure Inert (cs : List Char) : Prop where
  no_delimiter : ∀ c ∈ cs, c ∉ delimiters
  begins_entity : ∀ front rest, cs = front ++ '&' :: rest → ∃ e ∈ entities, e <+: '&' :: rest

variable {cs ds : List Char} {c : Char}

theorem Inert.nil : Inert [] := ⟨by simp, by simp⟩

/-- **Inert texts can be put side by side.** -/
theorem Inert.append (h : Inert cs) (h' : Inert ds) : Inert (cs ++ ds) := by
  refine ⟨fun c hc => ?_, fun front rest heq => ?_⟩
  · rcases List.mem_append.mp hc with hc | hc
    · exact h.no_delimiter c hc
    · exact h'.no_delimiter c hc
  · rcases List.append_eq_append_iff.mp heq with ⟨front', -, hds⟩ | ⟨back, hcs, hrest⟩
    · exact h'.begins_entity front' rest hds
    · -- the ampersand is in the first text, unless nothing of that is left
      cases back with
      | nil => exact h'.begins_entity [] rest hrest.symm
      | cons c back =>
          obtain ⟨rfl, rfl⟩ := List.cons.inj hrest
          obtain ⟨e, he, hprefix⟩ := h.begins_entity front back hcs
          exact ⟨e, he, hprefix.trans (List.prefix_append ('&' :: back) ds)⟩

theorem Inert.singleton (hc : c ∉ delimiters) (hamp : c ≠ '&') : Inert [c] := by
  refine ⟨by simpa using hc, fun front rest heq => ?_⟩
  have hmem : '&' ∈ [c] := heq ▸ by simp
  exact absurd (List.mem_singleton.mp hmem).symm hamp

/-- An entity begins with its only ampersand. -/
theorem inert_of_mem_entities {e : List Char} (he : e ∈ entities) : Inert e := by
  have hshape : ∀ e ∈ entities, (e.all fun c => c ∉ delimiters) ∧ '&' ∉ e.tail := by decide
  obtain ⟨hplain, htail⟩ := hshape e he
  refine ⟨fun c hc => of_decide_eq_true (List.all_eq_true.mp hplain c hc), fun front rest heq => ?_⟩
  cases front with
  | nil => exact ⟨e, he, heq ▸ List.prefix_rfl⟩
  | cons c front => exact absurd (heq ▸ by simp) htail

theorem inert_entity (c : Char) : Inert (entity c) := by
  unfold entity
  split
  case h_6 hamp hlt hgt hquot hapos =>
    have hplain : c ∉ delimiters := by simpa [delimiters] using ⟨hlt, hgt, hquot, hapos⟩
    exact .singleton hplain hamp
  all_goals exact inert_of_mem_entities (by decide)

theorem escape_cons (c : Char) (cs : List Char) : escape (c :: cs) = entity c ++ escape cs :=
  List.flatMap_cons

theorem inert_escape (cs : List Char) : Inert (escape cs) := by
  induction cs with
  | nil => exact .nil
  | cons c cs ih =>
      rw [escape_cons]
      exact (inert_entity c).append ih

theorem toList_escapeMarkup (s : String) : (escapeMarkup s).toList = escape s.toList :=
  String.toList_ofList

/-- **What is escaped is inert.** -/
theorem inert_escapeMarkup (s : String) : Inert (escapeMarkup s).toList := by
  rw [toList_escapeMarkup]
  exact inert_escape s.toList

end CommandConsole.Text
