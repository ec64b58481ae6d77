import CommandConsole.Proofs.Except
import CommandConsole.Proofs.Number.Numeral
import CommandConsole.Records.Payload

/-!
# What structured arguments stand for

What the structured arguments of the record commands stand for can be said without the readers that
the commands have for them. A domain is the list that its text is in JSON, with every quote a double
one, and the empty list where there is no text (`DomainOf`). The values of a record are the object
that their text is. The names of fields are what stands between commas, without the blanks around it
(`fieldsOf`), and the number of a record is what a numeral denotes, if that is a signed word.

Each reader finds what its argument stands for, and fails if it stands for nothing
(`readDomain_eq_ok_iff`, `readValues_eq_ok_iff`, `readFields_eq`, `readId_eq_ok_iff`).
-/

set_option autoImplicit false

namespace CommandConsole.Records

/-- The terms of a domain: the list that its text is, with every quote a double one. Where there is
no text there are no terms. -/
inductive DomainOf : Option String → List Json → Prop where
  | absent : DomainOf none []
  | given {raw : String} {terms : List Json} :
      Json.read (Line.normalizeQuotes raw) = .ok (.arr terms) → DomainOf (some raw) terms

/-- The names in a list of fields: what stands between commas, without the blanks around it, where
something is left. -/
def fieldsOf (list : String) : List String :=
  (((list.toList.splitOn ',').map Text.trim).filter (· ≠ [])).map String.ofList

variable {raw : String} {raw? : Option String} {v : Json} {values : Json.Fields} {n : Int}

/-! ## Payloads -/

theorem readPayload_eq_ok_iff :
    readPayload raw = .ok v ↔ Json.read (Line.normalizeQuotes raw) = .ok v := by
  rw [readPayload]
  cases Json.read (Line.normalizeQuotes raw) with
  | ok w => simp only [Except.ok.injEq]
  | error e => simp only [reduceCtorEq]

/-- **A domain is read as the list that it stands for.** -/
theorem readDomain_eq_ok_iff :
    readDomain raw? = .ok v ↔ ∃ terms, DomainOf raw? terms ∧ v = .arr terms := by
  constructor
  · intro h
    cases raw? with
    | none =>
        obtain rfl := Except.ok.inj h
        exact ⟨[], .absent, rfl⟩
    | some raw =>
        obtain ⟨w, hw, h⟩ := exists_of_bind h
        split at h
        · obtain rfl := Except.ok.inj h
          exact ⟨_, .given (readPayload_eq_ok_iff.mp hw), rfl⟩
        · contradiction
  · rintro ⟨terms, hterms, rfl⟩
    cases hterms with
    | absent => rfl
    | given hread =>
        rw [readDomain, readPayload_eq_ok_iff.mpr hread]
        rfl

/-- **The values of a record are read as the object that they stand for.** -/
theorem readValues_eq_ok_iff :
    readValues raw = .ok values ↔ Json.read (Line.normalizeQuotes raw) = .ok (.obj values) := by
  constructor
  · intro h
    obtain ⟨w, hw, h⟩ := exists_of_bind h
    split at h
    · obtain rfl := Except.ok.inj h
      exact readPayload_eq_ok_iff.mp hw
    · contradiction
  · intro hread
    rw [readValues, readPayload_eq_ok_iff.mpr hread]
    rfl

/-! ## Fields -/

theorem parts_eq_splitOn (cs : List Char) : parts cs = cs.splitOn ',' := by
  induction cs with
  | nil => rfl
  | cons c r ih =>
      rw [parts, List.splitOn_cons_eq_if_modifyHead, ih]
      by_cases hcomma : c = ','
      · simp [hcomma]
      · -- there is a first part, and the character goes in front of it
        obtain ⟨part, more, hparts⟩ := List.exists_cons_of_ne_nil (List.splitOn_ne_nil ',' r)
        simp [hcomma, hparts, Text.consWord]

/-- **A list of fields is read as the names in it**, and a lone star as no list. -/
theorem readFields_eq (list : String) :
    readFields list = if Text.trim list.toList = ['*'] then none else some (fieldsOf list) := by
  have hkept (part : List Char) : (!part.isEmpty) = decide (part ≠ []) := by cases part <;> rfl
  rw [readFields, parts_eq_splitOn, fieldsOf]
  simp only [hkept]

/-! ## Numbers -/

/-- **The number of a record is read as what its numeral denotes**, if that is a signed word. -/
theorem readId_eq_ok_iff :
    readId raw = .ok n ↔ Number.Denotes raw.toList n ∧ -2 ^ 63 ≤ n ∧ n ≤ 2 ^ 63 - 1 := by
  rw [← Number.readInt64_eq_ok_iff, readId]
  cases Number.readInt64 raw.toList with
  | ok m => simp only [Except.ok.injEq]
  | error e => simp only [reduceCtorEq]

end CommandConsole.Records
