import CommandConsole.Proofs.Records.Reading
import CommandConsole.Proofs.Records.Stepwise
import Mathlib.Data.List.Dedup
import Mathlib.Data.List.Nodup

/-!
# What writes and deletions do

A write that names records which are all there puts its values on them, whatever their order and
however often one is named: each of them has from now on, under each name but `id`, the value that
is given, and under all other names what it had before (`Written`). A deletion takes the named
records away (`Unlinked`). Nothing else changes, be it in other records, in other models or in the
number given last. That is so at once and step by step, and it can be read off the rows that
readings hand out before and afterwards (`exact_effects_of_run`).
-/

set_option autoImplicit false

namespace CommandConsole.Records

/-- The request that writes values to the records with some numbers. -/
def writeRequest (model : String) (arg : Json) (values : Json.Fields) : Request :=
  ⟨model, "write", [arg, .obj values], []⟩

/-- The request that deletes the records with some numbers. -/
def unlinkRequest (model : String) (arg : Json) : Request := ⟨model, "unlink", [arg], []⟩

/-- The number in a row. -/
def rowNumber? (row : Json) : Option Int :=
  match row.get? "id" with
  | some (.int n) => some n
  | _ => none

namespace Store

/-- What a write of values to the records with some numbers leaves behind. -/
structure Written (numbers : List Int) (values : Json.Fields) (model : String) (s s' : Store) :
    Prop where
  lastId : s'.lastId = s.lastId
  elsewhere : ∀ other, other ≠ model → s'.table other = s.table other
  keys : Assoc.keys (s'.table model) = Assoc.keys (s.table model)
  others : ∀ e, (e.1 : Int) ∉ numbers → (e ∈ s'.table model ↔ e ∈ s.table model)
  given : ∀ (id : Nat) (record record' : Json.Fields), (id : Int) ∈ numbers →
    (id, record) ∈ s.table model → (id, record') ∈ s'.table model → ∀ name,
      Assoc.find? name record' =
        if name ≠ "id" ∧ name ∈ Assoc.keys values then Assoc.find? name values
        else Assoc.find? name record
  rows : ∀ arg numbers', Names arg numbers' → ∀ names, ∃ rows rows',
    s.answer (readRequest model arg names) = (.ok (.arr rows), s) ∧
    s'.answer (readRequest model arg names) = (.ok (.arr rows'), s') ∧
    List.Forall₂ (fun row row' => ∀ name, row'.get? name =
      if (∃ n ∈ numbers, rowNumber? row = some n) ∧ name ≠ "id" ∧ name ∈ Assoc.keys values ∧
          ∀ asked ∈ names, name ∈ asked
      then Assoc.find? name values else row.get? name) rows rows'

/-- What a deletion of the records with some numbers leaves behind. -/
structure Unlinked (numbers : List Int) (model : String) (s s' : Store) : Prop where
  lastId : s'.lastId = s.lastId
  elsewhere : ∀ other, other ≠ model → s'.table other = s.table other
  left : ∀ e, e ∈ s'.table model ↔ e ∈ s.table model ∧ (e.1 : Int) ∉ numbers
  count : s'.count model + numbers.dedup.length = s.count model
  rows : ∀ arg numbers', Names arg numbers' → ∀ names, ∃ rows,
    s.answer (readRequest model arg names) = (.ok (.arr rows), s) ∧
    s'.answer (readRequest model arg names) =
      (.ok (.arr (rows.filter fun row => ∀ n ∈ numbers, rowNumber? row ≠ some n)), s')

variable {s s' : Store} {r : Request} {calls : List Call} {exchanges : List (Call × Returned)}
  {model : String} {arg : Json} {numbers : List Int} {values record : Json.Fields} {t : Table}
  {names : Option (List String)} {id : Nat} {name : String} {e : Nat × Json.Fields}

/-! ## Values put on a record -/

theorem find?_update (h : Assoc.Sorted values) (record : Json.Fields) (name : String) :
    Assoc.find? name (update values record) =
      if name ≠ "id" ∧ name ∈ Assoc.keys values then Assoc.find? name values
      else Assoc.find? name record := by
  have htop : Assoc.find? name (values.filter fun f => f.1 ≠ "id") =
      if name = "id" then none else Assoc.find? name values := Assoc.find?_erase name "id" values
  rw [update, Assoc.find?_union (h.filter _), htop]
  by_cases hname : name = "id"
  · simp [hname]
  · by_cases hmem : name ∈ Assoc.keys values
    · obtain ⟨v, hv⟩ := Assoc.exists_find?_of_mem_keys hmem
      simp [hname, hmem, hv]
    · simp [hname, hmem, Assoc.find?_eq_none_iff.mpr hmem]

/-- A row of a record with values put on it. -/
theorem shown_update (h : Assoc.Sorted values) (names : Option (List String)) (id : Nat)
    (record : Json.Fields) (name : String) :
    shown names id (update values record) name =
      if name ≠ "id" ∧ name ∈ Assoc.keys values ∧ ∀ asked ∈ names, name ∈ asked
      then Assoc.find? name values else shown names id record name := by
  by_cases hname : name = "id"
  · simp [shown, hname]
  · by_cases hmem : name ∈ Assoc.keys values
    · obtain ⟨v, hv⟩ := Assoc.exists_find?_of_mem_keys hmem
      cases names with
      | none => simp [shown, hname, hmem, find?_update h]
      | some asked =>
          -- a name that is not asked for is not in the row, before the write or behind it
          by_cases hasked : name ∈ asked
          · simp [shown, hname, hmem, find?_update h, hasked, hv]
          · simp [shown, hname, hasked]
    · simp [shown, hname, hmem, find?_update h]

theorem rowNumber?_project (h : "id" ∉ Assoc.keys record) (names : Option (List String))
    (id : Nat) : rowNumber? (project names id record) = some id := by
  rw [rowNumber?, get?_project h]
  rfl

/-! ## Records that are found behind a change -/

/-- Records that are changed and keep their numbers are found under them. -/
theorem record?_map {f : Nat × Json.Fields → Nat × Json.Fields} (hf : ∀ e, (f e).1 = e.1) (n : Int)
    (t : Table) : record? (t.map f) n = (record? t n).map f := by
  by_cases hneg : n < 0
  · simp [record?_of_neg hneg]
  · obtain ⟨id, rfl⟩ := Int.eq_ofNat_of_zero_le (not_lt.mp hneg)
    rw [record?_natCast, record?_natCast, Assoc.find?_map hf, Option.map_map, Option.map_map]
    refine congrArg (Option.map · _) (funext fun r => ?_)
    exact Prod.ext (hf (id, r)).symm rfl

theorem named_map {f : Nat × Json.Fields → Nat × Json.Fields} (hf : ∀ e, (f e).1 = e.1)
    (numbers : List Int) (t : Table) : named (t.map f) numbers = (named t numbers).map f := by
  rw [named, named, List.map_filterMap]
  exact congrArg (List.filterMap · _) (funext fun n => record?_map hf n t)

theorem find?_without (numbers : List Int) (id : Nat) (t : Table) :
    Assoc.find? id (without numbers t) =
      if (id : Int) ∈ numbers then none else Assoc.find? id t := by
  rw [without, Assoc.find?_filter fun j : Nat => !numbers.contains (j : Int)]
  by_cases hid : (id : Int) ∈ numbers
  · simp [hid]
  · simp [hid]

theorem record?_without (numbers : List Int) (n : Int) (t : Table) :
    record? (without numbers t) n =
      (record? t n).filter fun e => !numbers.contains (e.1 : Int) := by
  by_cases hneg : n < 0
  · simp [record?_of_neg hneg]
  · obtain ⟨id, rfl⟩ := Int.eq_ofNat_of_zero_le (not_lt.mp hneg)
    rw [record?_natCast, record?_natCast, find?_without]
    by_cases hid : (id : Int) ∈ numbers
    · cases Assoc.find? id t <;> simp [hid, Option.filter]
    · cases Assoc.find? id t <;> simp [hid, Option.filter]

theorem named_without (numbers numbers' : List Int) (t : Table) :
    named (without numbers t) numbers' = without numbers (named t numbers') := by
  have hfilter : without numbers (named t numbers') = numbers'.filterMap fun n =>
      (record? t n).filter fun e => !numbers.contains (e.1 : Int) := List.filter_filterMap
  rw [hfilter]
  exact congrArg (List.filterMap · _) (funext fun n => record?_without numbers n t)

/-! ## What is left behind -/

/-- A row of a record behind a write. -/
theorem InOrder.get?_project_rewrite (h : s.InOrder) (hvalues : Assoc.Sorted values)
    (he : e ∈ s.table model) (names : Option (List String)) (name : String) :
    (project names (rewrite numbers values e).1 (rewrite numbers values e).2).get? name =
      if (∃ n ∈ numbers, rowNumber? (project names e.1 e.2) = some n) ∧ name ≠ "id" ∧
          name ∈ Assoc.keys values ∧ ∀ asked ∈ names, name ∈ asked
      then Assoc.find? name values else (project names e.1 e.2).get? name := by
  have hfields := h.fields model e he
  have hid := h.unnumbered model e he
  have hnumber : (∃ n ∈ numbers, rowNumber? (project names e.1 e.2) = some n) ↔
      (e.1 : Int) ∈ numbers := by
    simp [rowNumber?_project hid]
  rw [if_congr (and_congr_left' hnumber) rfl rfl]
  by_cases hmem : (e.1 : Int) ∈ numbers
  · rw [rewrite_of_mem hmem, Store.get?_project_eq (sorted_update hfields values)
      (not_mem_keys_update hid values), shown_update hvalues, h.get?_project_eq he]
    simp [hmem]
  · rw [rewrite_of_not_mem hmem, if_neg fun h => hmem h.1]

/-- **A write leaves behind what it says**, in every store that shows the same. -/
theorem InOrder.written (h : s.InOrder) (hvalues : Assoc.Sorted values)
    (halike : (s.withTable model (rewritten numbers values (s.table model))).Alike s') :
    Written numbers values model s s' := by
  have htable : s'.table model = rewritten numbers values (s.table model) := by
    rw [halike.table, table_withTable]
  have hsorted : Assoc.Sorted (s'.table model) := by
    rw [htable, Assoc.Sorted, keys_rewritten]
    exact h.ordered model
  refine ⟨halike.lastId, fun other hother => ?_, ?_, fun e he => ?_, ?_, ?_⟩
  · rw [halike.table, table_withTable_of_ne hother]
  · rw [htable, keys_rewritten]
  · rw [htable, rewritten_eq, List.mem_map]
    constructor
    · rintro ⟨f, hf, rfl⟩
      rw [rewrite_fst] at he
      rwa [rewrite_of_not_mem he]
    · exact fun hmem => ⟨e, hmem, rewrite_of_not_mem he⟩
  · intro id record record' hid hrecord hrecord' name
    -- in a table in order a number stands for one record
    have hfind := (Assoc.find?_eq_some_iff_mem (h.ordered model)).mpr hrecord
    have hfind' := (Assoc.find?_eq_some_iff_mem hsorted).mpr hrecord'
    rw [htable, rewritten_eq, Assoc.find?_map (rewrite_fst numbers values), hfind, Option.map_some,
      rewrite_of_mem hid] at hfind'
    rw [← Option.some.inj hfind', find?_update hvalues]
  · -- both readings hand out the rows of the same records in the same order
    intro arg numbers' hnames names
    refine ⟨_, _, read_of_names hnames s model names, read_of_names hnames s' model names, ?_⟩
    rw [htable, rewritten_eq, named_map (rewrite_fst numbers values), List.forall₂_map_left_iff,
      List.forall₂_map_right_iff, List.forall₂_map_right_iff, List.forall₂_same]
    intro e he name
    obtain ⟨n, -, hn⟩ := List.mem_filterMap.mp he
    exact h.get?_project_rewrite hvalues (mem_of_record? hn) names name

/-- The numbers of the records that are named are the named ones, each of them once. -/
theorem perm_dedup (h : Assoc.Sorted (s.table model)) (hhas : ∀ n ∈ numbers, s.Has model n) :
    (((s.table model).filter fun e => numbers.contains (e.1 : Int)).map
      fun e => (e.1 : Int)).Perm numbers.dedup := by
  -- neither list has a number twice, so it is enough that they have the same numbers
  have hnodup : ((s.table model).map fun e => (e.1 : Int)).Nodup :=
    List.pairwise_map.mpr ((List.pairwise_map.mp h).imp fun hlt heq => by omega)
  refine (List.perm_ext_iff_of_nodup (hnodup.sublist (List.filter_sublist.map _))
    numbers.nodup_dedup).mpr fun n => ?_
  rw [List.mem_dedup]
  constructor
  · intro hn
    obtain ⟨e, he, rfl⟩ := List.mem_map.mp hn
    simpa using (List.mem_filter.mp he).2
  · intro hn
    obtain ⟨id, hid, rfl⟩ := hhas n hn
    obtain ⟨e, he, rfl⟩ := List.mem_map.mp hid
    exact List.mem_map.mpr ⟨e, List.mem_filter.mpr ⟨he, by simpa using hn⟩, rfl⟩

theorem length_without (h : Assoc.Sorted (s.table model)) (hhas : ∀ n ∈ numbers, s.Has model n) :
    (without numbers (s.table model)).length + numbers.dedup.length = (s.table model).length := by
  have hgone := (perm_dedup h hhas).length_eq
  rw [List.length_map] at hgone
  have hsplit := List.length_eq_length_filter_add (l := s.table model)
    fun e => numbers.contains (e.1 : Int)
  rw [← hgone, hsplit, Nat.add_comm]
  rfl

/-- **A deletion leaves behind what it says**, in every store that shows the same. -/
theorem InOrder.unlinked (h : s.InOrder) (hhas : ∀ n ∈ numbers, s.Has model n)
    (halike : (s.withTable model (without numbers (s.table model))).Alike s') :
    Unlinked numbers model s s' := by
  have htable : s'.table model = without numbers (s.table model) := by
    rw [halike.table, table_withTable]
  refine ⟨halike.lastId, fun other hother => ?_, fun e => ?_, ?_, ?_⟩
  · rw [halike.table, table_withTable_of_ne hother]
  · rw [htable, without, List.mem_filter]
    simp
  · rw [Store.count, htable]
    exact length_without (h.ordered model) hhas
  · intro arg numbers' hnames names
    refine ⟨_, read_of_names hnames s model names, ?_⟩
    rw [read_of_names hnames s' model names, htable, named_without, handedOut, without,
      List.filter_map]
    -- a row is left out if its record is gone, which can be told by the number in the row
    refine congrArg (fun es : Table => (Except.ok (Json.arr (es.map _)), s'))
      (List.filter_congr fun e he => ?_)
    obtain ⟨n, -, hn⟩ := List.mem_filterMap.mp he
    have hid := h.unnumbered model e (mem_of_record? hn)
    have hleft : (∀ n ∈ numbers, rowNumber? (project names e.1 e.2) ≠ some n) ↔
        (e.1 : Int) ∉ numbers := by
      rw [rowNumber?_project hid]
      exact ⟨fun h hmem => h _ hmem rfl, fun h n hn heq => h (Option.some.inj heq ▸ hn)⟩
    simp [hleft]

/-! ## Requests that name records that are all there -/

theorem answer_of_write (hnames : Names arg numbers) (hhas : ∀ n ∈ numbers, s.Has model n)
    (values : Json.Fields) : s.answer (writeRequest model arg values) =
      (.ok (.bool true), s.withTable model (rewritten numbers values (s.table model))) := by
  have hwrite : s.write (writeRequest model arg values) =
      .ok (.bool true, s.withTable model (rewritten numbers values (s.table model))) := by
    simp only [write, writeRequest, List.head?_cons, ids_eq_ok_iff.mpr hnames,
      firstMissing?_eq_none_iff.mpr hhas, bind, Except.bind]
    rfl
  show s.changed (s.write (writeRequest model arg values)) = _
  rw [hwrite]
  rfl

theorem answer_of_unlink (hnames : Names arg numbers) (hhas : ∀ n ∈ numbers, s.Has model n) :
    s.answer (unlinkRequest model arg) =
      (.ok (.bool true), s.withTable model (without numbers (s.table model))) := by
  have hunlink : s.unlink (unlinkRequest model arg) =
      .ok (.bool true, s.withTable model (without numbers (s.table model))) := by
    simp only [unlink, unlinkRequest, List.head?_cons, ids_eq_ok_iff.mpr hnames,
      firstMissing?_eq_none_iff.mpr hhas, bind, Except.bind]
    rfl
  show s.changed (s.unlink (unlinkRequest model arg)) = _
  rw [hunlink]
  rfl

/-- At once or step by step, a request gets the same answer and leaves a store that shows the
same. -/
theorem exists_of_way {reply : Reply} (h : s.answer r = (reply, s'))
    {way : Store → Request → Reply × Store} (hway : way ∈ [answer, stepwise]) :
    ∃ s'', way s r = (reply, s'') ∧ s'.Alike s'' := by
  rcases List.mem_pair.mp hway with rfl | rfl
  · exact ⟨s', h, .refl s'⟩
  · obtain ⟨hreply, halike⟩ := s.stepwise_alike r
    rw [h] at hreply halike
    exact ⟨(s.stepwise r).2, Prod.ext hreply rfl, halike⟩

/-- **Writes and deletions do exactly what they say.** Calls are made of a store that was empty, and
then records of a model are named, by one number or by a list of them. A reading hands out a row for
each of the numbers that is there, in their order and as often as they are named, which shows the
record. When all of them are there, a write of values and a deletion succeed, at once and step by
step, and leave behind what `Written` and `Unlinked` say: the values on the named records, or no
record under the named numbers, and all else as it was. -/
theorem exact_effects_of_run (hrun : empty.run calls = (exchanges, s))
    (hcalls : ∀ c ∈ calls, c.InOrder) (hnames : Names arg numbers) (model : String) :
    (∀ names, ∃ rows, s.answer (readRequest model arg names) = (.ok (.arr rows), s) ∧
      List.Forall₂ (fun n row => ∃ (id : Nat) (record : Json.Fields), (id : Int) = n ∧
          (id, record) ∈ s.table model ∧ ∀ name, row.get? name = shown names id record name)
        (numbers.filter fun n => s.Has model n) rows) ∧
    ((∀ n ∈ numbers, s.Has model n) → ∀ way ∈ [answer, stepwise],
      (∀ values, Assoc.Sorted values → ∃ s',
        way s (writeRequest model arg values) = (.ok (.bool true), s') ∧
          Written numbers values model s s') ∧
      ∃ s', way s (unlinkRequest model arg) = (.ok (.bool true), s') ∧
        Unlinked numbers model s s') := by
  have hs : s.InOrder := inOrder_run inOrder_empty hcalls hrun
  refine ⟨fun names => ⟨_, read_of_names hnames s model names, named_shows hs model numbers names⟩,
    fun hhas way hway => ⟨fun values hvalues => ?_, ?_⟩⟩
  · obtain ⟨s', hanswer, halike⟩ := exists_of_way (answer_of_write hnames hhas values) hway
    exact ⟨s', hanswer, hs.written hvalues halike⟩
  · obtain ⟨s', hanswer, halike⟩ := exists_of_way (answer_of_unlink hnames hhas) hway
    exact ⟨s', hanswer, hs.unlinked hhas halike⟩

/-- Three notes and a task among them. -/
def insertions : List Call :=
  [.insert "note" (.obj [("tag", .int 1), ("text", .str "a")]),
    .insert "task" (.obj [("text", .str "a")]), .insert "note" (.obj []),
    .insert "note" (.obj [("text", .str "c")])]

/-- The store with them. -/
def notes : Store := (empty.run insertions).2

/-- Two of the notes, one of them twice. -/
def twoNotes : Json := .arr [.int 4, .int 1, .int 4]

/-- Values among which there is a number. -/
def newText : Json.Fields := [("id", .int 9), ("text", .str "b")]

theorem exact_effects_of_run_repeated :
    (∃ exchanges, empty.run insertions = (exchanges, notes)) ∧ (∀ c ∈ insertions, c.InOrder) ∧
      Names twoNotes [4, 1, 4] ∧ (∀ n ∈ [4, 1, 4], notes.Has "note" n) ∧ Assoc.Sorted newText ∧
      (∃ rows, notes.answer (readRequest "note" twoNotes none) = (.ok (.arr rows), notes) ∧
        rows.length = 3) ∧
      (∃ s', notes.stepwise (writeRequest "note" twoNotes newText) = (.ok (.bool true), s') ∧
        Written [4, 1, 4] newText "note" notes s' ∧ s'.table "note" =
          [(1, [("tag", .int 1), ("text", .str "b")]), (3, []), (4, [("text", .str "b")])]) ∧
      ∃ s', notes.answer (unlinkRequest "note" twoNotes) = (.ok (.bool true), s') ∧
        Unlinked [4, 1, 4] "note" notes s' ∧ s'.table "note" = [(3, [])] := by
  have hrun : empty.run insertions = (_, notes) := rfl
  have hcalls : ∀ c ∈ insertions, c.InOrder := by
    have hfirst : Assoc.Sorted [("tag", Json.int 1), ("text", Json.str "a")] := by decide +kernel
    simpa [insertions, Call.InOrder, Json.InOrder, Json.obj?, Assoc.Sorted, Assoc.keys] using hfirst
  have hwords : ∀ n ∈ [4, 1, 4], Number.isInt64 n = true := by decide
  have hnames : Names twoNotes [4, 1, 4] := .many hwords
  have hhas : ∀ n ∈ [4, 1, 4], notes.Has "note" n := by decide
  have hsorted : Assoc.Sorted newText := by decide +kernel
  obtain ⟨hread, hchange⟩ := exact_effects_of_run hrun hcalls hnames "note"
  obtain ⟨rows, hrows, hshown⟩ := hread none
  obtain ⟨s', hwrite, hwritten⟩ := (hchange hhas stepwise (by simp)).1 newText hsorted
  obtain ⟨s'', hunlink, hunlinked⟩ := (hchange hhas answer (by simp)).2
  have hs' : (notes.stepwise (writeRequest "note" twoNotes newText)).2 = s' :=
    congrArg Prod.snd hwrite
  have hs'' : (notes.answer (unlinkRequest "note" twoNotes)).2 = s'' := congrArg Prod.snd hunlink
  refine ⟨⟨_, hrun⟩, hcalls, hnames, hhas, hsorted, ⟨rows, hrows, ?_⟩, ⟨s', hwrite, hwritten, ?_⟩,
    s'', hunlink, hunlinked, ?_⟩
  · rw [← hshown.length_eq]
    rfl
  · rw [← hs']
    rfl
  · rw [← hs'']
    rfl

end Store

end CommandConsole.Records
