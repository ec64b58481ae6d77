import CommandConsole.Alias.Table
import CommandConsole.Proofs.Assoc

/-!
# Changes of the alias table

`apply_cases` says once what a change that the table takes can be: a new alias under a free name, a
new template for an alias that is there, or an alias less. What the answers of the table show of
each is proved from that; a change that they do not show is none (`eq_of_apply`).
-/

set_option autoImplicit false

namespace CommandConsole.Alias.Table

/-- The table with another template for the alias with a number. -/
def rewritten (t : Table) (id : Int) (command : String) : Table :=
  { t with byName := t.byName.map fun e =>
      if e.2.id = id then (e.1, { e.2 with command := command }) else e }

/-- The table without the alias with a number. -/
def without (t : Table) (id : Int) : Table :=
  { t with byName := t.byName.filter fun e => e.2.id ≠ id }

variable {t t' : Table} {c : Change} {id : Int}

/-- **What the table takes.** -/
theorem apply_cases (h : t.apply c = .ok (id, t')) :
    (∃ name command, c = .create name command ∧ t.find? name = none ∧
      id = t.lastId + 1 ∧ t' = t.add name command) ∨
    (∃ command, c = .update id command ∧ t.has id = true ∧ t' = t.rewritten id command) ∨
    (c = .delete id ∧ t.has id = true ∧ t' = t.without id) := by
  cases c with
  | create name command =>
      simp only [apply] at h
      split at h
      · contradiction
      · next hfree =>
          cases h
          exact .inl ⟨name, command, rfl, by simpa using hfree, rfl, rfl⟩
  | update i command =>
      simp only [apply] at h
      split at h
      · next hhas =>
          cases h
          exact .inr (.inl ⟨command, rfl, hhas, rfl⟩)
      · contradiction
  | delete i =>
      simp only [apply] at h
      split at h
      · next hhas =>
          cases h
          exact .inr (.inr ⟨rfl, hhas, rfl⟩)
      · contradiction

/-! ## What the answers show -/

theorem find?_add_self (t : Table) (name command : String) :
    (t.add name command).find? name = some ⟨t.lastId + 1, name, command⟩ :=
  Assoc.find?_insert_self name _ t.byName

/-- A new template shows, unless it is the old one. -/
theorem rewritten_eq_self {command : String}
    (h : (t.rewritten id command).commands = t.commands) : t.rewritten id command = t := by
  simp only [rewritten, commands, List.map_map] at h
  have hentry := List.map_inj_left.mp h
  have hentries : (t.rewritten id command).byName = t.byName := by
    refine (List.map_congr_left fun e he => ?_).trans (List.map_id _)
    have hsame := hentry e he
    by_cases hid : e.2.id = id
    · -- the template of this alias shows, so it is the one that it was given
      have hcommand : command = e.2.command := by simpa [hid] using hsame
      rw [if_pos hid, hcommand]
      rfl
    · rw [if_neg hid]
      rfl
  exact congrArg (Table.mk t.lastId) hentries

/-- An alias less shows. -/
theorem commands_without_ne (h : t.has id = true) : (t.without id).commands ≠ t.commands := by
  intro heq
  obtain ⟨e, he, hid⟩ := List.any_eq_true.mp h
  have hlength : (t.without id).byName.length = t.byName.length := by
    simpa [commands] using congrArg List.length heq
  have hless : (t.without id).byName.length < t.byName.length := by
    refine List.length_filter_lt_length_iff_exists.mpr ⟨e, he, ?_⟩
    simpa using hid
  omega

/-- **A change that no answer shows is none.** -/
theorem eq_of_apply (h : t.apply c = .ok (id, t')) (hcommands : t'.commands = t.commands)
    (hfind : ∀ name, t'.find? name = t.find? name) : t' = t := by
  rcases apply_cases h with
    ⟨name, command, -, hfree, -, rfl⟩ | ⟨command, -, -, rfl⟩ | ⟨-, hhas, rfl⟩
  · have hfound := hfind name
    rw [find?_add_self, hfree] at hfound
    contradiction
  · exact rewritten_eq_self hcommands
  · exact absurd hcommands (commands_without_ne hhas)

end CommandConsole.Alias.Table
