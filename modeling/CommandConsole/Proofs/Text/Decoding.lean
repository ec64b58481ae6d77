import CommandConsole.Proofs.Text.Markup

/-!
# Escaped texts read back

A host reads markup from left to right. It shows an entity as the character that the entity stands
for and all else as it is, which goes for an ampersand that begins no entity as well (`decode`).

What has been escaped is read back whatever stands behind it (`decode_escape_append`), since an
entity is read to its end and no other character is read together with what follows. So a text is
not lost by being escaped, although it may have entities and ampersands of its own. The texts that
escaping makes are the inert ones, and each is made of what it is shown as alone (`escape_eq_iff`).

What stands in front of an escaped text is another matter: with `&am` in front, the text `p;` is not
shown as it is.
-/

set_option autoImplicit false

namespace CommandConsole.Text

/-- What a host shows for a text: a character for each entity, and all else as it is. -/
def decode : List Char → List Char
  | '&' :: 'a' :: 'm' :: 'p' :: ';' :: rest => '&' :: decode rest
  | '&' :: 'l' :: 't' :: ';' :: rest => '<' :: decode rest
  | '&' :: 'g' :: 't' :: ';' :: rest => '>' :: decode rest
  | '&' :: 'q' :: 'u' :: 'o' :: 't' :: ';' :: rest => '"' :: decode rest
  | '&' :: '#' :: '3' :: '9' :: ';' :: rest => '\'' :: decode rest
  | c :: rest => c :: decode rest
  | [] => []

/-- **A string as a host shows it.** -/
def decodeMarkup (s : String) : String := String.ofList (decode s.toList)

variable {cs ds t : List Char} {c : Char}

/-! ## Reading back -/

theorem decode_cons (hamp : c ≠ '&') (rest : List Char) :
    decode (c :: rest) = c :: decode rest := by
  rw [decode]
  all_goals
    intro _ heq
    exact absurd heq hamp

/-- A character is read back, and what stands behind it is read on its own. -/
theorem decode_entity_append (c : Char) (rest : List Char) :
    decode (entity c ++ rest) = c :: decode rest := by
  unfold entity
  split
  case h_6 hamp _ _ _ _ => exact decode_cons hamp rest
  all_goals rfl

theorem escape_append (cs ds : List Char) : escape (cs ++ ds) = escape cs ++ escape ds :=
  List.flatMap_append

/-- **What is escaped is read back** whatever stands behind it. -/
theorem decode_escape_append (cs rest : List Char) :
    decode (escape cs ++ rest) = cs ++ decode rest := by
  induction cs with
  | nil => rfl
  | cons c cs ih =>
      rw [escape_cons, List.append_assoc, decode_entity_append, ih, List.cons_append]

theorem decode_escape (cs : List Char) : decode (escape cs) = cs := by
  have hread := decode_escape_append cs []
  rwa [List.append_nil, decode, List.append_nil] at hread

/-! ## What escaping makes -/

theorem entity_of_not_mem (hplain : c ∉ delimiters) (hamp : c ≠ '&') : entity c = [c] := by
  unfold entity
  split <;> simp_all [delimiters]

theorem entity_ne_nil (c : Char) : entity c ≠ [] := by
  unfold entity
  split <;> simp

/-- The entities are what a delimiter or an ampersand is escaped to. -/
theorem entities_eq : entities = ('&' :: delimiters).map entity := rfl

theorem Inert.of_append (h : Inert (cs ++ ds)) : Inert ds where
  no_delimiter := fun c hc => h.no_delimiter c (List.mem_append_right cs hc)
  begins_entity := fun front rest heq =>
    h.begins_entity (cs ++ front) rest (by rw [heq, List.append_assoc])

/-- An inert text starts with an escaped character. -/
theorem Inert.exists_entity (h : Inert (c :: cs)) : ∃ d rest, c :: cs = entity d ++ rest := by
  by_cases hamp : c = '&'
  · subst hamp
    obtain ⟨e, he, rest, hrest⟩ := h.begins_entity [] cs rfl
    rw [entities_eq] at he
    obtain ⟨d, -, rfl⟩ := List.mem_map.mp he
    exact ⟨d, rest, hrest.symm⟩
  · have hplain : c ∉ delimiters := h.no_delimiter c List.mem_cons_self
    exact ⟨c, cs, by rw [entity_of_not_mem hplain hamp, List.singleton_append]⟩

/-- **Every inert text is an escaped one.** -/
theorem Inert.exists_escape (h : Inert t) : ∃ cs, escape cs = t := by
  -- an entity is taken off as a whole, so the induction is on the length
  induction hlength : t.length using Nat.strongRecOn generalizing t with
  | ind n ih =>
      cases t with
      | nil => exact ⟨[], rfl⟩
      | cons c rest =>
          obtain ⟨d, behind, heq⟩ := h.exists_entity
          rw [heq] at h hlength ⊢
          have hpos := List.length_pos_iff.mpr (entity_ne_nil d)
          have hshorter : behind.length < n := by
            rw [List.length_append] at hlength
            omega
          obtain ⟨cs, rfl⟩ := ih _ hshorter h.of_append rfl
          exact ⟨d :: cs, escape_cons d cs⟩

/-- **Escaping and reading back** are inverse between all texts and the inert ones. -/
theorem escape_eq_iff : escape cs = t ↔ Inert t ∧ decode t = cs := by
  constructor
  · rintro rfl
    exact ⟨inert_escape cs, decode_escape cs⟩
  · rintro ⟨hinert, rfl⟩
    obtain ⟨ds, rfl⟩ := hinert.exists_escape
    rw [decode_escape]

/-! ## Strings -/

theorem toList_decodeMarkup (s : String) : (decodeMarkup s).toList = decode s.toList :=
  String.toList_ofList

theorem escapeMarkup_append (a b : String) :
    escapeMarkup (a ++ b) = escapeMarkup a ++ escapeMarkup b := by
  simp only [escapeMarkup, String.toList_append, escape_append, String.ofList_append]

theorem escapeMarkup_join (texts : List String) :
    escapeMarkup (String.join texts) = String.join (texts.map escapeMarkup) := by
  induction texts with
  | nil => rfl
  | cons text texts ih =>
      rw [String.join_cons, escapeMarkup_append, ih, List.map_cons, String.join_cons]

theorem decodeMarkup_escapeMarkup (s : String) : decodeMarkup (escapeMarkup s) = s := by
  rw [← String.toList_inj, toList_decodeMarkup, toList_escapeMarkup, decode_escape]

-- what is shown is not read again, and not all that looks like an entity is one
example : decodeMarkup "&amp;lt; &nbsp; & &am" = "&lt; &nbsp; & &am" := by decide

theorem escapeMarkup_eq_iff {s t : String} :
    escapeMarkup s = t ↔ Inert t.toList ∧ decodeMarkup t = s := by
  rw [← String.toList_inj, ← String.toList_inj, toList_escapeMarkup, toList_decodeMarkup,
    escape_eq_iff]

end CommandConsole.Text
