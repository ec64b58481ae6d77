import CommandConsole.Proofs.Records.Condition
import CommandConsole.Proofs.Records.Rows
import CommandConsole.Vocabulary

/-!
# What a search finds

A search with a list of terms hands out the records of its model that meet all of them, as they
stand in the store (`search_of_lists`). Which ones these are does not depend on the order of the
terms, on how often one of them is written, or on the conjunctions between them (`matching_congr`).
-/

set_option autoImplicit false

namespace CommandConsole.Records

theorem Condition.Lists.append {items items' : List Json} {cs cs' : List Condition}
    (h : Lists items cs) (h' : Lists items' cs') : Lists (items ++ items') (cs ++ cs') := by
  induction h with
  | nil => exact h'
  | and _ ih => exact ih.and
  | term c _ ih => exact ih.term c

namespace Store

/-- The records of a model that meet all conditions. -/
def matching (s : Store) (model : String) (cs : List Condition) : Table :=
  (s.table model).filter fun e => cs.all (·.meets e.1 e.2)

variable {s : Store} {model : String} {cs cs' : List Condition} {e : Nat × Json.Fields}
  {items : List Json}

theorem mem_matching :
    e ∈ s.matching model cs ↔ e ∈ s.table model ∧ ∀ c ∈ cs, c.meets e.1 e.2 = true := by
  simp [matching]

/-- The records that are found are in the order of their numbers, each of them once. -/
theorem sorted_matching (h : s.Sound) (model : String) (cs : List Condition) :
    Assoc.Sorted (s.matching model cs) :=
  (h.ordered model).filter _

/-- The same conditions find the same records. -/
theorem matching_congr (h : ∀ c, c ∈ cs ↔ c ∈ cs') (s : Store) (model : String) :
    s.matching model cs = s.matching model cs' := by
  refine List.filter_congr fun e _ => ?_
  rw [Bool.eq_iff_iff, List.all_eq_true, List.all_eq_true]
  exact forall_congr' fun c => imp_congr (h c) Iff.rfl

/-- **A search finds the records that meet all terms.** -/
theorem search_of_lists (h : Condition.Lists items cs) (s : Store) (model : String)
    (names : Option (List String)) :
    s.search (Vocabulary.searchRequest model names (.arr items)) =
      .ok (handedOut names (s.matching model cs)) := by
  have hconditions : Condition.ofJson (.arr items) = .ok cs := h.ofTerms
  have hnames : fieldNames (Assoc.find? "fields"
      (Vocabulary.searchRequest model names (.arr items)).named) = .ok names := by
    cases names with
    | none => rfl
    | some names => exact fieldNames_strings names
  calc s.search (Vocabulary.searchRequest model names (.arr items))
      = (Condition.ofJson (.arr items)).bind fun cs =>
          (fieldNames ((Assoc.find? "fields"
            (Vocabulary.searchRequest model names (.arr items)).named).or none)).bind fun names =>
              .ok (handedOut names (s.matching model cs)) := rfl
    _ = .ok (handedOut names (s.matching model cs)) := by
        rw [hconditions, Option.or_none, hnames]
        rfl

end Store

end CommandConsole.Records
