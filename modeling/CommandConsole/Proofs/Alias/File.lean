import CommandConsole.Alias.Store
import CommandConsole.Proofs.Alias.Integrity
import CommandConsole.Proofs.Files
import CommandConsole.Proofs.Json.Objects
import CommandConsole.Proofs.Json.StringMaps

/-!
# Alias files are read back

The templates that were saved to a path are loaded from it (`load_of_read`), and a memory store that
is opened on it has them (`open?_of_read`). For JSON that is a theorem about the text, for all names
and templates. For YAML it rests on `YamlRestores`: that YAML reads the text that it has for a map
of texts as that map.

Loading and saving ask the same question about the path, `isYaml`. A text that was saved is never
blank, so it does not pass for an empty file. Whoever wrote a JSON file, its templates are loaded in
the order of their names (`exists_of_open?`).
-/

set_option autoImplicit false

namespace CommandConsole.Alias

/-- YAML reads the text that it has for these templates as these templates. -/
def YamlRestores (m : List (String × String)) : Prop :=
  (valueOf true (fileText true m)).bind commandsOf = .ok m

variable {files files' : Files} {path : String} {m : List (String × String)}

/-! ## The text of a file -/

theorem commandsOf_strings (m : List (String × String)) :
    commandsOf (.obj (Json.strings m)) = .ok m := by
  rw [commandsOf, Json.strings, List.mapM_map]
  exact (List.mapM_pure ..).trans (congrArg Except.ok (List.map_id m))

/-- JSON reads the text that it has for templates as these templates. -/
theorem valueOf_fileText_json (h : Assoc.Sorted m) :
    (valueOf false (fileText false m)).bind commandsOf = .ok m := by
  have hread : Json.read (fileText false m) = .ok (.obj (Json.strings m)) :=
    Json.read_pretty_strings h
  simp [valueOf, hread, Except.mapError, Except.bind, commandsOf_strings]

theorem colon_mem_entry (e : String × String) : ':' ∈ Yaml.Writer.entry e := by
  unfold Yaml.Writer.entry
  split <;> simp

/-- A text that was saved is not blank. -/
theorem isBlankString_fileText (yaml : Bool) (m : List (String × String)) :
    Text.isBlankString (fileText yaml m) = false := by
  have hletter {text : String} {c : Char} (hc : c ∈ text.toList) (hblank : Text.isBlank c = false) :
      Text.isBlankString text = false :=
    List.all_eq_false.mpr ⟨c, hc, by simp [hblank]⟩
  cases yaml with
  | true =>
      cases m with
      | nil => rfl
      | cons e m =>
          refine hletter (c := ':') ?_ (by decide)
          simpa [fileText, Yaml.textOf] using .inl (colon_mem_entry e)
  | false =>
      refine hletter (c := '\x7b') ?_ (by decide)
      cases m <;> simp [fileText, Json.pretty, Json.layout, Json.layoutFields, Json.block]

/-! ## Saving and loading -/

/-- What was saved is the text of the file. -/
theorem read_of_save (h : save files path m = .ok files') :
    files'.read path = .ok (fileText (isYaml path) m) := by
  unfold save at h
  split at h
  · next hwrite =>
      obtain rfl := Except.ok.inj h
      exact Files.read_write hwrite
  · contradiction

/-- **Templates are loaded from the text that is saved for them.** -/
theorem load_of_read (hread : files.read path = .ok (fileText (isYaml path) m))
    (hsorted : Assoc.Sorted m) (hyaml : isYaml path = true → YamlRestores m) :
    load files path = .ok m := by
  have hvalue : (valueOf (isYaml path) (fileText (isYaml path) m)).bind commandsOf = .ok m := by
    cases hpath : isYaml path with
    | true => exact hyaml hpath
    | false => exact valueOf_fileText_json hsorted
  simp only [load, hread, isBlankString_fileText]
  exact hvalue

/-- A memory store that is opened on such a file has the templates. -/
theorem open?_of_read (hread : files.read path = .ok (fileText (isYaml path) m))
    (hsorted : Assoc.Sorted m) (hyaml : isYaml path = true → YamlRestores m) :
    MemoryStore.open? files path = .ok ⟨.ofCommands m, some path⟩ := by
  have hexists : files.exists? path = true := by
    unfold Files.read at hread
    unfold Files.exists?
    cases hentry : files.resolve path with
    | error e => simp [hentry] at hread
    | ok entry => rfl
  rw [MemoryStore.open?, if_pos hexists, load_of_read hread hsorted hyaml]
  rfl

/-! ## Memory stores of JSON files -/

/-- The templates of an object have the names of its fields. -/
theorem keys_of_commandsOf {fields : Json.Fields} (h : commandsOf (.obj fields) = .ok m) :
    Assoc.keys m = Assoc.keys fields := by
  rw [commandsOf] at h
  induction fields generalizing m with
  | nil =>
      obtain rfl : [] = m := Except.ok.inj h
      rfl
  | cons e fields ih =>
      rw [List.mapM_cons] at h
      obtain ⟨x, hx, h⟩ := exists_of_bind h
      obtain ⟨rest, hrest, h⟩ := exists_of_bind h
      obtain rfl : x :: rest = m := Except.ok.inj h
      have hname : x.1 = e.1 := by
        split at hx
        next name w =>
          cases w with
          | str command =>
              obtain rfl := Except.ok.inj hx
              rfl
          | _ => contradiction
      show x.1 :: Assoc.keys rest = e.1 :: Assoc.keys fields
      rw [hname, ih hrest]

/-- Templates are loaded from a JSON file in the order of their names. -/
theorem sorted_of_load (hjson : isYaml path = false) (h : load files path = .ok m) :
    Assoc.Sorted m := by
  unfold load at h
  split at h
  · contradiction
  next text _ =>
    split at h
    · obtain rfl := Except.ok.inj h
      exact Assoc.sorted_nil
    · obtain ⟨v, hv, h⟩ := exists_of_bind h
      rw [hjson, valueOf] at hv
      cases v with
      | obj fields =>
          have hread : Json.read text = .ok (.obj fields) := by
            cases hread : Json.read text with
            | error complaint => simp [hread, Except.mapError] at hv
            | ok w => simpa [hread, Except.mapError] using hv
          rw [Assoc.Sorted, keys_of_commandsOf h]
          exact Json.sorted_of_read hread
      | _ => contradiction

/-- **The store of a JSON file** holds templates in the order of their names, numbered in it. -/
theorem exists_of_open? {s : MemoryStore} (hjson : isYaml path = false)
    (h : MemoryStore.open? files path = .ok s) :
    ∃ m, Assoc.Sorted m ∧ s = ⟨.ofCommands m, some path⟩ := by
  unfold MemoryStore.open? at h
  split at h
  · cases hload : load files path with
    | error t => simp [hload, Except.map] at h
    | ok m =>
        obtain rfl : (⟨.ofCommands m, some path⟩ : MemoryStore) = s := by
          simpa [hload, Except.map] using h
        exact ⟨m, sorted_of_load hjson hload, rfl⟩
  · obtain rfl := Except.ok.inj h
    exact ⟨[], Assoc.sorted_nil, rfl⟩

end CommandConsole.Alias
