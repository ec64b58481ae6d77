import CommandConsole.Files
import CommandConsole.Proofs.Assoc
import CommandConsole.Proofs.Except

/-!
# Files that were written

What was written to a path is read from it (`read_write`). A write puts one entry at the end of a
way. That entry is no directory, and what was a directory stays one, so every way that could be
followed before can be followed still (`foldlM_step_put`).
-/

set_option autoImplicit false

namespace CommandConsole.Files

variable {files files' : Files} {way : List String} {e : FileEntry}

/-! ## The entry that is put -/

theorem find?_replaced (files : Files) (way w : List String) (e : FileEntry) :
    Assoc.find? w (files.map fun f => if f.1 = way then (way, e) else f) =
      if w = way then (Assoc.find? w files).map fun _ => e else Assoc.find? w files := by
  induction files with
  | nil => simp [Assoc.find?]
  | cons f files ih =>
      obtain ⟨v, a⟩ := f
      simp only [List.map_cons]
      by_cases hv : v = way
      · by_cases hw : way = w
        · simp [Assoc.find?, hv, hw]
        · simpa [Assoc.find?, hv, hw] using ih
      · by_cases hw : v = w
        · have hne : w ≠ way := hw ▸ hv
          simp [Assoc.find?, hw, hne]
        · simpa [Assoc.find?, hv, hw] using ih

theorem find?_put_self (files : Files) (way : List String) (e : FileEntry) :
    Assoc.find? way (files.put way e) = some e := by
  rw [put]
  split
  · next hthere =>
      obtain ⟨a, ha⟩ := Option.isSome_iff_exists.mp hthere
      simp [find?_replaced, ha]
  · next hfree =>
      have hnone : Assoc.find? way files = none := by simpa using hfree
      simp [Assoc.find?_append, hnone, Assoc.find?]

theorem find?_put_of_ne {w : List String} (h : w ≠ way) :
    Assoc.find? w (files.put way e) = Assoc.find? w files := by
  have h' : way ≠ w := fun heq => h heq.symm
  rw [put]
  split
  · simp [find?_replaced, h]
  · simp [Assoc.find?_append, Assoc.find?, h']

/-- What lies below a way stays there. -/
theorem holds_put {w : List String} (h : files.holds w = true) :
    (files.put way e).holds w = true := by
  obtain ⟨f, hf, hbelow⟩ := List.any_eq_true.mp h
  rw [put]
  split
  · refine List.any_eq_true.mpr ⟨_, List.mem_map_of_mem hf, ?_⟩
    split
    · next heq => exact heq ▸ hbelow
    · exact hbelow
  · exact List.any_eq_true.mpr ⟨f, List.mem_append_left _ hf, hbelow⟩

theorem lookup?_put_self (files : Files) (way : List String) (e : FileEntry) :
    lookup? (files.put way e) way = some e := by
  rw [lookup?, find?_put_self]

/-- A directory stays one, unless an entry is put in its place. -/
theorem lookup?_put_directory {w : List String} (h : files.lookup? w = some .directory)
    (hne : w ≠ way) : lookup? (files.put way e) w = some .directory := by
  rw [lookup?, find?_put_of_ne hne]
  rw [lookup?] at h
  cases hfind : Assoc.find? w files with
  | some a => simpa [hfind] using h
  | none =>
      simp only [hfind] at h ⊢
      split at h
      · next hdir =>
          rcases Bool.or_eq_true_iff.mp hdir with hempty | hholds
          · simp [hempty]
          · simp [holds_put hholds]
      · contradiction

/-! ## Paths in the files with the entry -/

/-- A step starts from a directory. -/
theorem at_of_step {p q : Place} {part : String} (h : files.step p part = .ok q) :
    files.at_ p = some .directory := by
  unfold step at h
  split at h
  · contradiction
  · assumption
  · contradiction

/-- The last step to a directory leads to it. -/
theorem eq_of_step_point {p q : Place} (h : files.step p "." = .ok q) : q = p := by
  have hdir := at_of_step h
  unfold step at h
  rw [hdir] at h
  simpa using h.symm

variable (hway : files.lookup? way ≠ some .directory)

include hway

theorem step_put {p q : Place} {part : String} (h : files.step p part = .ok q) :
    (files.put way e).step p part = .ok q := by
  have hdir := at_of_step h
  have hdir' : (files.put way e).at_ p = some .directory := by
    cases p with
    | above => rfl
    | below w =>
        refine lookup?_put_directory hdir fun heq => hway ?_
        exact heq ▸ hdir
  unfold step at h ⊢
  rw [hdir] at h
  rw [hdir']
  exact h

theorem foldlM_step_put {parts : List String} {p q : Place}
    (h : parts.foldlM files.step p = .ok q) :
    parts.foldlM (files.put way e).step p = .ok q := by
  induction parts generalizing p with
  | nil => exact h
  | cons part parts ih =>
      rw [List.foldlM_cons] at h ⊢
      cases hstep : files.step p part with
      | error r => simp [hstep, bind, Except.bind] at h
      | ok p' =>
          rw [hstep] at h
          rw [step_put hway hstep]
          exact ih h

omit hway

/-- A path that does not name a directory ends with a name. -/
theorem exists_last_of_names {path : String} (h : ¬ namesDirectory path = true) :
    endsWithSlash path = false ∧ ∃ last, parts path = (parts path).dropLast ++ [last] := by
  have hname : namesDirectory path = false := by simpa using h
  obtain ⟨hslash, hlast⟩ := Bool.or_eq_false_iff.mp hname
  refine ⟨hslash, ?_⟩
  cases hparts : (parts path).getLast? with
  | none => simp [hparts] at hlast
  | some last =>
      obtain ⟨front, hfront⟩ := List.getLast?_eq_some_iff.mp hparts
      exact ⟨last, by simp [hfront]⟩

/-- What a write that succeeds does: the path ends with a name in a directory, and the text is put
there. -/
theorem write_ok {path text : String} (h : files.write path text = .ok files') :
    ∃ start front last directory way, flaw? path = none ∧ endsWithSlash path = false ∧
      start = (if startsAtRoot path then Place.above else .below []) ∧
      parts path = front ++ [last] ∧ front.foldlM files.step start = .ok directory ∧
      files.step directory last = .ok (.below way) ∧ files.lookup? way ≠ some .directory ∧
      files' = files.put way (.text text) := by
  unfold write at h
  obtain ⟨directory, hdirectory, h⟩ := exists_of_bind h
  split at h
  · contradiction
  next hname =>
  obtain ⟨place, hlast, h⟩ := exists_of_bind h
  split at h
  · contradiction
  next way =>
  split at h
  · contradiction
  next hway =>
  obtain ⟨hslash, last, hparts⟩ := exists_last_of_names hname
  -- the way to the directory ends with a point, which leads nowhere else
  unfold follow at hdirectory
  split at hdirectory
  · contradiction
  next hflaw =>
  rw [List.foldlM_append] at hdirectory
  obtain ⟨reached, hfront, hpoint⟩ := exists_of_bind hdirectory
  obtain rfl : directory = reached := eq_of_step_point ((bind_pure _).symm.trans hpoint)
  have hgetLast : (parts path).getLast? = some last := by rw [hparts]; simp
  rw [hgetLast] at hlast
  exact ⟨_, (parts path).dropLast, last, directory, way, hflaw, hslash, rfl, hparts, hfront, hlast,
    hway, (Except.ok.inj h).symm⟩

/-- **What was written is read.** -/
theorem read_write {path text : String} (h : files.write path text = .ok files') :
    files'.read path = .ok text := by
  obtain ⟨start, front, last, directory, way, hflaw, hslash, hstart, hparts, hfront, hlast, hway,
    rfl⟩ := write_ok h
  have hfollow : (files.put way (.text text)).follow path (parts path) = .ok (.below way) := by
    rw [follow, hflaw, ← hstart, hparts, List.foldlM_append, foldlM_step_put hway hfront]
    exact (bind_pure _).trans (step_put hway hlast)
  have hresolve : (files.put way (.text text)).resolve path = .ok (.text text) := by
    rw [resolve, hslash]
    simp [hfollow, at_, lookup?_put_self, Except.bind]
  rw [read, hresolve]

end CommandConsole.Files
