import CommandConsole.Proofs.Assoc
import CommandConsole.Registry
import Mathlib.Data.List.Forall2

/-!
# The registry behind its calls

Commands are put in and taken out, in any order and under any names. What is left behind all these
calls can be told from the calls alone: under a name there is the command that was put in last, if
the name was not taken out since (`lookup_after_iff`). Each command stands under its own name, and
the names are in order (`Sound`), so the listing shows each of these commands once, in the order of
the names.

`last_write_wins` says so for every sequence of calls, together with what the next call does.
-/

set_option autoImplicit false

namespace CommandConsole

/-! ## Names up to the case of ASCII letters -/

namespace Text

/-- Two characters are the same, or one is an ASCII capital and the other its small letter. -/
inductive SameLetter : Char → Char → Prop where
  | same (c : Char) : SameLetter c c
  | lowered {c d : Char} : 'A' ≤ c → c ≤ 'Z' → d.toNat = c.toNat + 32 → SameLetter c d
  | raised {c d : Char} : 'A' ≤ d → d ≤ 'Z' → c.toNat = d.toNat + 32 → SameLetter c d

/-- An ASCII capital by its number. -/
theorem capital_iff (c : Char) : ('A' ≤ c ∧ c ≤ 'Z') ↔ (65 ≤ c.toNat ∧ c.toNat ≤ 90) :=
  Iff.rfl

theorem toNat_foldAscii (c : Char) :
    (foldAscii c).toNat = if 65 ≤ c.toNat ∧ c.toNat ≤ 90 then c.toNat + 32 else c.toNat := by
  unfold foldAscii
  simp only [capital_iff]
  split
  · next h =>
      have hvalid : (c.toNat + 32).isValidChar := .inl (by omega)
      rw [Char.ofNat, dif_pos hvalid]
      rfl
  · rfl

/-- Folding takes two characters together if they are one letter. -/
theorem foldAscii_eq_iff {c d : Char} : foldAscii c = foldAscii d ↔ SameLetter c d := by
  rw [← Char.toNat_inj, toNat_foldAscii, toNat_foldAscii]
  constructor
  · intro h
    by_cases heq : c.toNat = d.toNat
    · obtain rfl : c = d := Char.toNat_inj.mp heq
      exact .same c
    · by_cases hc : 65 ≤ c.toNat ∧ c.toNat ≤ 90
      · have hd : d.toNat = c.toNat + 32 := by split at h <;> split at h <;> omega
        exact .lowered ((capital_iff c).mpr hc).1 ((capital_iff c).mpr hc).2 hd
      · rw [if_neg hc] at h
        have hd : (65 ≤ d.toNat ∧ d.toNat ≤ 90) ∧ c.toNat = d.toNat + 32 := by
          split at h <;> omega
        exact .raised ((capital_iff d).mpr hd.1).1 ((capital_iff d).mpr hd.1).2 hd.2
  · intro h
    cases h with
    | same => rfl
    | lowered hfrom hto hd =>
        have hc := (capital_iff c).mp ⟨hfrom, hto⟩
        rw [if_pos hc, if_neg (by omega), hd]
    | raised hfrom hto hc =>
        have hd := (capital_iff d).mp ⟨hfrom, hto⟩
        rw [if_pos hd, if_neg (by omega), hc]

/-- **Equality up to the case of ASCII letters**, letter by letter. -/
theorem sameIgnoringCase_iff {a b : List Char} :
    sameIgnoringCase a b = true ↔ List.Forall₂ SameLetter a b := by
  rw [sameIgnoringCase, beq_iff_eq]
  constructor
  · intro h
    have hfolded : List.Forall₂ (fun c d => c = d) (a.map foldAscii) (b.map foldAscii) :=
      List.forall₂_eq_eq_eq ▸ h
    rw [List.forall₂_map_left_iff, List.forall₂_map_right_iff] at hfolded
    exact hfolded.imp fun _ _ => foldAscii_eq_iff.mp
  · intro h
    induction h with
    | nil => rfl
    | cons hc _ ih => rw [List.map_cons, List.map_cons, foldAscii_eq_iff.mpr hc, ih]

end Text

namespace Registry

/-! ## Calls -/

/-- A call that changes a registry. -/
inductive Change where
  | register (d : Definition)
  | unregister (name : String)

/-- The name that a call is about. -/
def Change.name : Change → String
  | .register d => d.name
  | .unregister name => name

/-- What is under the name of a call behind it. -/
def Change.definition? : Change → Option Definition
  | .register d => some d
  | .unregister _ => none

/-- The registry behind a call. -/
def change (r : Registry) : Change → Registry
  | .register d => r.register d
  | .unregister name => (r.unregister name).2

/-- The registry behind calls, one after another, on one without commands. -/
def after (changes : List Change) : Registry := changes.foldl change empty

/-- The names are in order, and each command stands under its own. -/
structure Sound (r : Registry) : Prop where
  sorted : Assoc.Sorted r
  named : ∀ e ∈ r, e.2.name = e.1

variable {r : Registry} {name : String} {d : Definition}

/-- **To take a command out** is to look it up and to erase its name. -/
theorem unregister_eq (h : Assoc.Sorted r) (name : String) :
    r.unregister name = (r.lookup name, Assoc.erase name r) :=
  Assoc.take_eq h name

/-- **One call**: it decides what is under its own name, and nothing else. -/
theorem Sound.lookup_change (h : r.Sound) (c : Change) (name : String) :
    (r.change c).lookup name = if name = c.name then c.definition? else r.lookup name := by
  cases c with
  | register d =>
      by_cases hname : name = d.name
      · subst hname
        simp [change, register, lookup, Change.name, Change.definition?, Assoc.find?_insert_self]
      · simp [change, register, lookup, Change.name, hname, Assoc.find?_insert_of_ne hname]
  | unregister other =>
      rw [change, unregister_eq h.sorted]
      exact Assoc.find?_erase name other r

theorem sound_empty : Sound empty := ⟨Assoc.sorted_nil, by simp [empty]⟩

theorem Sound.change (h : r.Sound) (c : Change) : (r.change c).Sound := by
  cases c with
  | register d =>
      refine ⟨Assoc.sorted_insert h.sorted d.name d, fun e he => ?_⟩
      rcases Assoc.mem_of_mem_insert he with rfl | he
      · rfl
      · exact h.named e he
  | unregister name =>
      rw [Registry.change, unregister_eq h.sorted]
      exact ⟨h.sorted.filter _, fun e he => h.named e (List.mem_of_mem_filter he)⟩

theorem sound_after (changes : List Change) : (after changes).Sound := by
  have hfold : ∀ r : Registry, r.Sound → (changes.foldl change r).Sound := by
    induction changes with
    | nil => exact fun r hr => hr
    | cons c changes ih => exact fun r hr => ih _ (hr.change c)
  exact hfold empty sound_empty

/-- **What one call leaves under a name**: the command it puts in, under the name of this command,
and under the names it is not about what was there. -/
theorem Sound.lookup_change_iff (h : r.Sound) {c : Change} :
    (r.change c).lookup name = some d ↔
      (c = .register d ∧ d.name = name) ∨ (c.name ≠ name ∧ r.lookup name = some d) := by
  rw [h.lookup_change]
  by_cases hname : name = c.name
  · subst hname
    cases c with
    | register e =>
        have hput : e = d ↔ (e = d ∧ d.name = e.name) := by
          constructor
          · rintro rfl
            exact ⟨rfl, rfl⟩
          · exact And.left
        simpa [Change.name, Change.definition?] using hput
    | unregister other => simp [Change.definition?]
  · have hput : ¬ (c = .register d ∧ d.name = name) := by
      rintro ⟨rfl, hd⟩
      exact hname hd.symm
    rw [if_neg hname]
    simp only [hput, false_or, ne_eq, Ne.symm hname, not_false_eq_true, true_and]

/-- **What calls leave under a name**: the command that was put in last under it, if the name was
not taken out since, or what was there before, if no call is about the name. -/
theorem Sound.lookup_foldl_iff (h : r.Sound) (changes : List Change) :
    (changes.foldl Registry.change r).lookup name = some d ↔
      (∃ front back, changes = front ++ .register d :: back ∧ d.name = name ∧
        ∀ c ∈ back, c.name ≠ name) ∨
      (∀ c ∈ changes, c.name ≠ name) ∧ r.lookup name = some d := by
  induction changes generalizing r with
  | nil => simp
  | cons c changes ih =>
      rw [List.foldl_cons, ih (h.change c), h.lookup_change_iff]
      constructor
      · rintro (⟨front, back, rfl, hd, hback⟩ | ⟨hrest, ⟨rfl, hd⟩ | ⟨hc, hr⟩⟩)
        · exact .inl ⟨c :: front, back, rfl, hd, hback⟩
        · exact .inl ⟨[], changes, rfl, hd, hrest⟩
        · exact .inr ⟨List.forall_mem_cons.mpr ⟨hc, hrest⟩, hr⟩
      · rintro (⟨front, back, hcut, hd, hback⟩ | ⟨hall, hr⟩)
        · rcases List.cons_eq_append_iff.mp hcut with ⟨-, hhead⟩ | ⟨front, -, hrest⟩
          · obtain ⟨rfl, rfl⟩ := List.cons.inj hhead
            exact .inr ⟨hback, .inl ⟨rfl, hd⟩⟩
          · exact .inl ⟨front, back, hrest, hd, hback⟩
        · obtain ⟨hc, hrest⟩ := List.forall_mem_cons.mp hall
          exact .inr ⟨hrest, .inr ⟨hc, hr⟩⟩

theorem lookup_after_iff (changes : List Change) :
    (after changes).lookup name = some d ↔
      ∃ front back, changes = front ++ .register d :: back ∧ d.name = name ∧
        ∀ c ∈ back, c.name ≠ name := by
  have hempty : empty.lookup name = none := rfl
  rw [after, sound_empty.lookup_foldl_iff, hempty]
  simp only [reduceCtorEq, and_false, or_false]

/-! ## The listing -/

theorem Sound.names_eq (h : r.Sound) : r.names = r.listing.map (·.name) := by
  rw [names, listing, Assoc.keys, Assoc.values, List.map_map]
  exact List.map_congr_left fun e he => (h.named e he).symm

theorem Sound.mem_listing_iff (h : r.Sound) : d ∈ r.listing ↔ r.lookup d.name = some d := by
  rw [lookup, Assoc.find?_eq_some_iff_mem h.sorted, listing, Assoc.values, List.mem_map]
  constructor
  · rintro ⟨e, he, rfl⟩
    rw [h.named e he]
    exact he
  · exact fun hmem => ⟨(d.name, d), hmem, rfl⟩

/-- The commands are listed in the order of their names. -/
theorem Sound.listing_pairwise (h : r.Sound) :
    r.listing.Pairwise fun d e => d.name < e.name := by
  have hnames : r.names.Pairwise (· < ·) := h.sorted
  rwa [h.names_eq, List.pairwise_map] at hnames

/-- A word is refused as the name of an alias for the name of a command. -/
theorem containsIgnoringCase_iff {names : List String} {word : String} :
    containsIgnoringCase names word = true ↔
      ∃ name ∈ names, List.Forall₂ Text.SameLetter name.toList word.toList := by
  rw [containsIgnoringCase, List.any_eq_true]
  simp only [Text.sameIgnoringCase_iff]

/-- **The last call about a name counts.** Behind any calls on a registry without commands, there is
under each name the command that was registered last under exactly this name, if the name was not
unregistered since, and otherwise nothing. The listing has exactly these commands, in strictly
increasing order of their names; the names are those of the listing, and there are as many. A name
is taken out together with what is found under it, and nothing changes under the others. To
register the command that is there already leaves the listing as it is. A word is taken up to the
case of ASCII letters if and only if a listed name is the same letter by letter. -/
theorem last_write_wins (changes : List Change) :
    (∀ name d, (after changes).lookup name = some d ↔
      ∃ front back, changes = front ++ .register d :: back ∧ d.name = name ∧
        ∀ c ∈ back, c.name ≠ name) ∧
    ((after changes).listing.Pairwise fun d e => d.name < e.name) ∧
    (∀ d, d ∈ (after changes).listing ↔ (after changes).lookup d.name = some d) ∧
    (after changes).names = (after changes).listing.map (·.name) ∧
    (after changes).length = (after changes).listing.length ∧
    (∀ name, (after changes).unregister name =
        ((after changes).lookup name, Assoc.erase name (after changes)) ∧
      ∀ other, ((after changes).unregister name).2.lookup other =
        if other = name then none else (after changes).lookup other) ∧
    (∀ d, (after changes).lookup d.name = some d →
      ((after changes).register d).listing = (after changes).listing) ∧
    ∀ word, containsIgnoringCase (after changes).names word = true ↔
      ∃ d ∈ (after changes).listing,
        List.Forall₂ Text.SameLetter d.name.toList word.toList := by
  have hsound := sound_after changes
  refine ⟨fun name d => lookup_after_iff changes, hsound.listing_pairwise,
    fun d => hsound.mem_listing_iff, hsound.names_eq, ?_,
    fun name => ⟨unregister_eq hsound.sorted name, ?_⟩, fun d hd => ?_, fun word => ?_⟩
  · rw [listing, Assoc.values, List.length_map]
  · exact hsound.lookup_change (.unregister name)
  · rw [register, Assoc.insert_of_find? hsound.sorted hd]
  · rw [containsIgnoringCase_iff, hsound.names_eq]
    simp

end Registry

end CommandConsole
