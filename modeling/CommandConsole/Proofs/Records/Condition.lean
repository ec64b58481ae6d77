import CommandConsole.Records.Domain

/-!
# Terms of a domain

A term looks at one thing of a record, what it holds under a name: its number under `id`, and false
under a name that it does not have (`held`). The terms of a domain stand in a list, with the
conjunction between them wherever it is written (`Lists`), and such lists are read
(`Lists.ofTerms`).
-/

set_option autoImplicit false

namespace CommandConsole.Records

/-- What a record holds under a name. -/
def held (name : String) (id : Nat) (record : Json.Fields) : Json :=
  if name = "id" then .ofNat id else (Assoc.find? name record).getD (.bool false)

namespace Condition

theorem meets_eq (c : Condition) (id : Nat) (record : Json.Fields) :
    c.meets id record = compares c.operator (held c.field id record) c.value := rfl

/-- A term as it stands in a domain. -/
def term (c : Condition) : Json := .arr [.str c.field, .str c.operator, c.value]

/-- A list of terms and conjunctions, and the conditions that stand in it. -/
inductive Lists : List Json → List Condition → Prop where
  | nil : Lists [] []
  | and {items : List Json} {cs : List Condition} :
      Lists items cs → Lists (.str "&" :: items) cs
  | term {items : List Json} {cs : List Condition} (c : Condition) :
      Lists items cs → Lists (c.term :: items) (c :: cs)

theorem Lists.ofTerms {items : List Json} {cs : List Condition} (h : Lists items cs) :
    ofTerms items = .ok cs := by
  induction h with
  | nil => rfl
  | and _ ih => rw [Condition.ofTerms, ih]
  | term c _ ih =>
      rw [Condition.term, Condition.ofTerms, ih]
      rfl

end Condition

end CommandConsole.Records
