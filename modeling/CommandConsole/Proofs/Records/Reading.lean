import CommandConsole.Proofs.Records.Rows
import Mathlib.Data.List.Forall2

/-!
# Records that are named by their numbers

A request names records by one number or by a list of numbers, in which a number may stand more than
once (`Names`). A reading hands out a row for each number that a record has, in the order in which
they are named and as often (`named_shows`).
-/

set_option autoImplicit false

namespace CommandConsole.Records

/-- What names records by their numbers. -/
inductive Names : Json → List Int → Prop where
  | one {n : Int} (h : Number.isInt64 n = true) : Names (.int n) [n]
  | many {ns : List Int} (h : ∀ n ∈ ns, Number.isInt64 n = true) : Names (.arr (ns.map .int)) ns

/-- The request for the records with some numbers, with all fields or those with the given names. -/
def readRequest (model : String) (arg : Json) (names : Option (List String)) : Request :=
  ⟨model, "read", [arg], (names.map fun names => ("fields", Json.arr (names.map .str))).toList⟩

namespace Store

variable {s : Store} {model : String} {arg : Json} {numbers ns : List Int} {t : Table} {n : Int}
  {items : List Json}

/-! ## Numbers -/

theorem mapM_int64?_eq_some_iff :
    items.mapM Json.int64? = some ns ↔
      items = ns.map .int ∧ ∀ n ∈ ns, Number.isInt64 n = true := by
  induction items generalizing ns with
  | nil => cases ns <;> simp
  | cons v items ih =>
      rw [List.mapM_cons]
      constructor
      · intro h
        obtain ⟨n, hn, h⟩ := Option.bind_eq_some_iff.mp h
        obtain ⟨ms, hms, h⟩ := Option.bind_eq_some_iff.mp h
        obtain rfl := Option.some.inj h
        obtain ⟨rfl, hword⟩ := Json.int64?_eq_some_iff.mp hn
        obtain ⟨rfl, hwords⟩ := ih.mp hms
        exact ⟨rfl, List.forall_mem_cons.mpr ⟨hword, hwords⟩⟩
      · rintro ⟨heq, hwords⟩
        cases ns with
        | nil => contradiction
        | cons n ns =>
            obtain ⟨rfl, rfl⟩ := List.cons.inj heq
            obtain ⟨hword, hwords⟩ := List.forall_mem_cons.mp hwords
            rw [Json.int64?_eq_some_iff.mpr ⟨rfl, hword⟩, ih.mpr ⟨rfl, hwords⟩]
            rfl

/-- **What is read as numbers of records** is a number or a list of numbers. -/
theorem ids_eq_ok_iff : ids (some arg) = .ok numbers ↔ Names arg numbers := by
  constructor
  · intro h
    unfold ids at h
    split at h
    · next items heq =>
        obtain rfl := Option.some.inj heq
        split at h
        · next ns hns =>
            obtain rfl := Except.ok.inj h
            obtain ⟨rfl, hwords⟩ := mapM_int64?_eq_some_iff.mp hns
            exact .many hwords
        · contradiction
    · next v _ heq =>
        obtain rfl := Option.some.inj heq
        split at h
        · next n hn =>
            obtain rfl := Except.ok.inj h
            obtain ⟨rfl, hword⟩ := Json.int64?_eq_some_iff.mp hn
            exact .one hword
        · contradiction
    · contradiction
  · intro h
    cases h with
    | one hword => rw [ids, Json.int64?_eq_some_iff.mpr ⟨rfl, hword⟩]; simp
    | many hwords => rw [ids, mapM_int64?_eq_some_iff.mpr ⟨rfl, hwords⟩]

/-- Whether a record of a model has a number. -/
def Has (s : Store) (model : String) (n : Int) : Prop :=
  ∃ id ∈ Assoc.keys (s.table model), (id : Int) = n

instance (s : Store) (model : String) : DecidablePred (s.Has model) := fun n =>
  inferInstanceAs (Decidable (∃ id ∈ Assoc.keys (s.table model), (id : Int) = n))

@[simp] theorem has_natCast {id : Nat} :
    s.Has model (id : Int) ↔ id ∈ Assoc.keys (s.table model) :=
  ⟨fun ⟨_, hmem, heq⟩ => Int.ofNat_inj.mp heq ▸ hmem, fun hmem => ⟨id, hmem, rfl⟩⟩

theorem not_has_of_neg (h : n < 0) : ¬ s.Has model n := by
  rintro ⟨id, -, rfl⟩
  omega

theorem record?_natCast (t : Table) (id : Nat) :
    record? t id = (Assoc.find? id t).map fun record => (id, record) := by
  simp [record?]

theorem record?_of_neg (h : n < 0) (t : Table) : record? t n = none := if_neg (by omega)

theorem record?_eq_none_iff : record? (s.table model) n = none ↔ ¬ s.Has model n := by
  -- a request may name negative numbers, which no record has
  by_cases hneg : n < 0
  · simp [record?_of_neg hneg, not_has_of_neg hneg]
  · obtain ⟨id, rfl⟩ := Int.eq_ofNat_of_zero_le (not_lt.mp hneg)
    rw [record?_natCast, Option.map_eq_none_iff, has_natCast, Assoc.find?_eq_none_iff]

theorem firstMissing?_eq_none_iff :
    firstMissing? (s.table model) numbers = none ↔ ∀ n ∈ numbers, s.Has model n := by
  rw [firstMissing?, List.find?_eq_none]
  refine forall₂_congr fun n _ => ?_
  rw [Option.isNone_iff_eq_none, record?_eq_none_iff, not_not]

/-- A record that is found has the number. -/
theorem eq_of_record? {e : Nat × Json.Fields} (h : record? t n = some e) : (e.1 : Int) = n := by
  by_cases hneg : n < 0
  · rw [record?_of_neg hneg] at h
    contradiction
  · obtain ⟨id, rfl⟩ := Int.eq_ofNat_of_zero_le (not_lt.mp hneg)
    rw [record?_natCast] at h
    obtain ⟨record, -, rfl⟩ := Option.map_eq_some_iff.mp h
    rfl

/-! ## Readings -/

/-- The records with some numbers, in the order of the numbers. -/
def named (t : Table) (numbers : List Int) : Table := numbers.filterMap (record? t)

theorem read_of_names (h : Names arg numbers) (s : Store) (model : String)
    (names : Option (List String)) :
    s.answer (readRequest model arg names) =
      (.ok (handedOut names (named (s.table model) numbers)), s) := by
  have hids := ids_eq_ok_iff.mpr h
  have hnames : fieldNames (Assoc.find? "fields" (readRequest model arg names).named) =
      .ok names := by
    cases names with
    | none => rfl
    | some names => exact fieldNames_strings names
  have hread : s.read (readRequest model arg names) =
      .ok (handedOut names (named (s.table model) numbers)) := by
    calc s.read (readRequest model arg names)
        = (ids (some arg)).bind fun numbers =>
            (fieldNames ((Assoc.find? "fields" (readRequest model arg names).named).or none)).bind
              fun names => .ok (handedOut names (named (s.table model) numbers)) := rfl
      _ = .ok (handedOut names (named (s.table model) numbers)) := by
          rw [hids, Option.or_none, hnames]
          rfl
  rw [answer_of_read rfl, hread]

/-- **A reading shows the records that are there**, in the order in which they are named, each as
often as it is named. -/
theorem named_shows (h : s.InOrder) (model : String) (numbers : List Int)
    (names : Option (List String)) :
    List.Forall₂ (fun n row => ∃ (id : Nat) (record : Json.Fields), (id : Int) = n ∧
        (id, record) ∈ s.table model ∧ ∀ name, row.get? name = shown names id record name)
      (numbers.filter fun n => s.Has model n)
      ((named (s.table model) numbers).map fun e => project names e.1 e.2) := by
  induction numbers with
  | nil => exact .nil
  | cons n numbers ih =>
      cases hrecord : record? (s.table model) n with
      | none =>
          -- a number without a record is passed over on both sides
          have hhas : ¬ s.Has model n := record?_eq_none_iff.mp hrecord
          simpa [named, hrecord, hhas] using ih
      | some e =>
          have hhas : s.Has model n := by
            by_contra hnot
            exact absurd (hrecord.symm.trans (record?_eq_none_iff.mpr hnot)) (by simp)
          have hmem := mem_of_record? hrecord
          simp only [named, List.filter_cons, hhas, decide_true, if_true, List.filterMap_cons,
            hrecord, List.map_cons]
          exact .cons ⟨e.1, e.2, eq_of_record? hrecord, hmem, h.get?_project_eq hmem names⟩ ih

end Store

end CommandConsole.Records
