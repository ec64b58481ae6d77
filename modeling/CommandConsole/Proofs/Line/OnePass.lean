import CommandConsole.Proofs.Line.Filling

/-!
# Templates in one pass

Every template can be cut at its dollar signs: into the text in front of the first one and, for each
dollar sign, the run of digits and the text behind it. There is one way to do so if all the digits
behind a dollar sign go to its run (`Cut.Proper`): putting the pieces together and cutting at the
dollar signs are inverse to each other (`Cut.template_ofTemplate`, `Cut.ofTemplate_template`).

Filling a template replaces each dollar sign with its digits, and nothing else, by what they stand
for (`substitute_in_one_pass`). The texts between them are copied, and so is what is put in for the
dollar signs: it is not looked at again.
-/

set_option autoImplicit false

namespace CommandConsole.Line

/-! ## Cuts -/

/-- A dollar sign, by the digits behind it and the text behind those. -/
structure Mark where
  digits : List Char
  text : List Char
deriving DecidableEq, Repr

/-- The pieces of a template: the text in front of the first dollar sign, and the dollar signs. -/
structure Cut where
  front : List Char
  marks : List Mark
deriving DecidableEq, Repr

namespace Cut

/-- The pieces put together, where a way is given to write a dollar sign with its digits. -/
def join (write : List Char → List Char) (cut : Cut) : List Char :=
  cut.front ++ cut.marks.flatMap fun m => write m.digits ++ m.text

/-- The template that is cut: a dollar sign is written as one. -/
def template (cut : Cut) : List Char := cut.join ('$' :: ·)

/-- A cut is proper when each dollar sign is a mark, and has all the digits behind it. -/
structure Proper (cut : Cut) : Prop where
  front : '$' ∉ cut.front
  digits : ∀ m ∈ cut.marks, ∀ d ∈ m.digits, Number.isDigit d = true
  text : ∀ m ∈ cut.marks, '$' ∉ m.text
  apart : ∀ m ∈ cut.marks, startsDigit m.text = false

/-- The cut of a template, from its end on: a dollar sign takes the digits from the text behind. -/
def ofTemplate : List Char → Cut
  | [] => ⟨[], []⟩
  | c :: r =>
      let cut := ofTemplate r
      if c = '$' then
        ⟨[], ⟨cut.front.takeWhile Number.isDigit, cut.front.dropWhile Number.isDigit⟩ :: cut.marks⟩
      else ⟨c :: cut.front, cut.marks⟩

variable {front : List Char} {m : Mark} {marks : List Mark}

theorem join_mark (write : List Char → List Char) :
    join write ⟨front, m :: marks⟩ = front ++ (write m.digits ++ join write ⟨m.text, marks⟩) := by
  simp [join]

theorem join_append (write : List Char → List Char) (s : List Char) :
    join write ⟨s ++ front, marks⟩ = s ++ join write ⟨front, marks⟩ :=
  List.append_assoc ..

/-- What is behind one dollar sign of a proper cut is properly cut. -/
theorem Proper.tail (h : Proper ⟨front, m :: marks⟩) : Proper ⟨m.text, marks⟩ where
  front := h.text m List.mem_cons_self
  digits := fun m' hm' => h.digits m' (List.mem_cons_of_mem _ hm')
  text := fun m' hm' => h.text m' (List.mem_cons_of_mem _ hm')
  apart := fun m' hm' => h.apart m' (List.mem_cons_of_mem _ hm')

/-! ## There is one proper cut -/

theorem template_ofTemplate (s : List Char) : (ofTemplate s).template = s := by
  induction s with
  | nil => rfl
  | cons c r ih =>
      by_cases hc : c = '$'
      · subst hc
        have hfront := List.takeWhile_append_dropWhile (p := Number.isDigit)
          (l := (ofTemplate r).front)
        simp only [ofTemplate, if_true, template, join_mark, List.nil_append, List.cons_append]
        rw [← join_append, hfront]
        exact congrArg ('$' :: ·) ih
      · simp only [ofTemplate, hc, if_false]
        exact congrArg (c :: ·) ih

theorem startsDigit_dropWhile (s : List Char) :
    startsDigit (s.dropWhile Number.isDigit) = false := by
  induction s with
  | nil => rfl
  | cons c s ih =>
      cases hc : Number.isDigit c with
      | true => simpa [hc] using ih
      | false => simp [hc, startsDigit]

theorem proper_ofTemplate (s : List Char) : (ofTemplate s).Proper := by
  induction s with
  | nil =>
      exact ⟨List.not_mem_nil, by simp [ofTemplate], by simp [ofTemplate], by simp [ofTemplate]⟩
  | cons c r ih =>
      by_cases hc : c = '$'
      · have hdigits := List.all_eq_true.mp
          (List.all_takeWhile (p := Number.isDigit) (l := (ofTemplate r).front))
        have htext : '$' ∉ (ofTemplate r).front.dropWhile Number.isDigit := fun h =>
          ih.front ((List.dropWhile_sublist _).subset h)
        simp only [ofTemplate, hc, if_true]
        exact
          { front := List.not_mem_nil
            digits := List.forall_mem_cons.mpr ⟨hdigits, ih.digits⟩
            text := List.forall_mem_cons.mpr ⟨htext, ih.text⟩
            apart := List.forall_mem_cons.mpr ⟨startsDigit_dropWhile _, ih.apart⟩ }
      · have hfront : '$' ∉ c :: (ofTemplate r).front := by simp [ih.front, Ne.symm hc]
        simp only [ofTemplate, hc, if_false]
        exact ⟨hfront, ih.digits, ih.text, ih.apart⟩

/-- A text without a dollar sign goes to the front of a cut. -/
theorem ofTemplate_append {s : List Char} (hs : '$' ∉ s) (r : List Char) :
    ofTemplate (s ++ r) = ⟨s ++ (ofTemplate r).front, (ofTemplate r).marks⟩ := by
  induction s with
  | nil => rfl
  | cons c s ih =>
      have hc : c ≠ '$' := fun h => hs (by simp [h])
      have hrest := ih fun h => hs (List.mem_cons_of_mem _ h)
      simp [ofTemplate, hc, hrest]

theorem ofTemplate_mark {ds : List Char} (hds : ∀ d ∈ ds, Number.isDigit d = true)
    {cut : Cut} (hcut : startsDigit cut.front = false) {r : List Char} (hr : ofTemplate r = cut) :
    ofTemplate ('$' :: (ds ++ r)) = ⟨[], ⟨ds, cut.front⟩ :: cut.marks⟩ := by
  have hdollar : '$' ∉ ds := fun h => absurd (hds _ h) (by decide)
  have hnone : cut.front.takeWhile Number.isDigit = [] ∧
      cut.front.dropWhile Number.isDigit = cut.front := by
    cases hfront : cut.front with
    | nil => exact ⟨rfl, rfl⟩
    | cons c s =>
        have hc : Number.isDigit c = false := by simpa [startsDigit, hfront] using hcut
        simp [hc]
  simp only [ofTemplate, if_true, ofTemplate_append hdollar, hr, List.takeWhile_append_of_pos hds,
    List.dropWhile_append_of_pos hds, hnone, List.append_nil]

/-- **A proper cut is the cut of its template.** -/
theorem ofTemplate_template {cut : Cut} (h : cut.Proper) : ofTemplate cut.template = cut := by
  obtain ⟨front, marks⟩ := cut
  induction marks generalizing front with
  | nil =>
      have hcut := ofTemplate_append h.front []
      simpa [template, join, ofTemplate] using hcut
  | cons m marks ih =>
      have hdigits := h.digits m List.mem_cons_self
      have hapart : startsDigit (Cut.front ⟨m.text, marks⟩) = false := h.apart m List.mem_cons_self
      have hmark := ofTemplate_mark hdigits hapart (ih _ h.tail)
      rw [template, join_mark, ofTemplate_append h.front, List.cons_append]
      rw [template] at hmark
      simp [hmark]

end Cut

/-! ## Filling -/

/-- What stands for a dollar sign with digits in the filled template: the argument whose number the
digits denote, quoted, and otherwise the dollar sign with its digits. -/
def filled (args : List String) (digits : List Char) : List Char :=
  let k := Number.ofDigits digits
  if h : 1 ≤ k ∧ k ≤ args.length then (quoteArgument args[k - 1]).toList else '$' :: digits

theorem filled_of_not {args : List String} {digits : List Char}
    (h : ¬ (1 ≤ Number.ofDigits digits ∧ Number.ofDigits digits ≤ args.length)) :
    filled args digits = '$' :: digits :=
  dif_neg h

theorem filled_eq_placeholder (args : List String) (digits : List Char) :
    filled args digits = placeholder (args.map String.toList) digits := by
  by_cases h : 1 ≤ Number.ofDigits digits ∧ Number.ofDigits digits ≤ args.length
  · obtain ⟨k, hk⟩ : ∃ k, Number.ofDigits digits = k + 1 := ⟨_, (Nat.sub_add_cancel h.1).symm⟩
    have hlt : k < args.length := by omega
    have harg : (args.map String.toList)[k]? = some args[k].toList := by simp [hlt]
    rw [placeholder_of_ofDigits hk harg, filled, dif_pos h, quoteArgument, String.toList_ofList]
    simp [hk]
  · have hnone : argument? (args.map String.toList) digits = none := by
      unfold argument?
      cases hk : Number.ofDigits digits with
      | zero => rfl
      | succ k =>
          have hle : args.length ≤ k := by omega
          simp [hle]
    rw [filled_of_not h, placeholder, hnone]

/-- **A proper cut is filled piece by piece.** The induction is on the dollar signs. -/
theorem fill_template {args : List (List Char)} {cut : Cut} (h : cut.Proper) :
    fill args none cut.template = cut.join (placeholder args) := by
  obtain ⟨front, marks⟩ := cut
  induction marks generalizing front with
  | nil =>
      have hfront : fill args none (front ++ []) = front ++ fill args none [] :=
        fill_append_literal h.front []
      simpa [Cut.template, Cut.join, fill] using hfront
  | cons m marks ih =>
      have hdigits := h.digits m List.mem_cons_self
      -- the digits end where the text behind them begins, or with the next dollar sign
      have hend : startsDigit (Cut.template ⟨m.text, marks⟩) = false := by
        have hapart := h.apart m List.mem_cons_self
        cases htext : m.text with
        | cons c s => simpa [Cut.template, Cut.join, startsDigit, htext] using hapart
        | nil => cases marks <;> simp [Cut.template, Cut.join, startsDigit, Number.isDigit]
      calc fill args none (Cut.template ⟨front, m :: marks⟩)
          = front ++ fill args none ('$' :: (m.digits ++ Cut.template ⟨m.text, marks⟩)) := by
            rw [Cut.template, Cut.join_mark, fill_append_literal h.front]
            rfl
        _ = front ++
            (placeholder args m.digits ++ fill args none (Cut.template ⟨m.text, marks⟩)) := by
            rw [fill_placeholder hdigits hend]
        _ = Cut.join (placeholder args) ⟨front, m :: marks⟩ := by rw [ih _ h.tail, Cut.join_mark]

/-- Without arguments nothing is filled in. -/
theorem filled_nil (digits : List Char) : filled [] digits = '$' :: digits := by
  refine filled_of_not fun h => ?_
  have hle : Number.ofDigits digits ≤ 0 := h.2
  omega

/-- **A template is filled in one pass.** It can be cut at its dollar signs in exactly one way such
that each dollar sign has all the digits behind it. In the filled template each of them is replaced,
with its digits, by the argument whose number the digits denote, quoted, counted from one; it stays
where there is no such argument, in particular where the digits are too many for a machine word,
since a word counts the arguments. The texts between them stay, and without arguments everything
does. -/
theorem substitute_in_one_pass (template : String) (args : List String) :
    (∃! cut : Cut, cut.Proper ∧ cut.template = template.toList) ∧
    (∀ cut : Cut, cut.Proper → cut.template = template.toList →
      (substitute template args).toList = cut.join (filled args)) ∧
    (args.length ≤ Number.maxWord → ∀ digits, Number.maxWord < Number.ofDigits digits →
      filled args digits = '$' :: digits) ∧
    substitute template [] = template := by
  have hfill : ∀ args : List String, ∀ cut : Cut, cut.Proper → cut.template = template.toList →
      (substitute template args).toList = cut.join (filled args) := by
    intro args cut hproper hcut
    have hwrite : filled args = placeholder (args.map String.toList) :=
      funext (filled_eq_placeholder args)
    rw [substitute, String.toList_ofList, ← hcut, fill_template hproper, hwrite]
  have hproper := Cut.proper_ofTemplate template.toList
  have htemplate := Cut.template_ofTemplate template.toList
  refine ⟨⟨Cut.ofTemplate template.toList, ⟨hproper, htemplate⟩, ?_⟩, hfill args, ?_, ?_⟩
  · rintro cut ⟨hcut, heq⟩
    rw [← heq, Cut.ofTemplate_template hcut]
  · exact fun hargs digits hbig => filled_of_not fun h => by omega
  · rw [← String.toList_inj, hfill [] _ hproper htemplate]
    have hwrite : filled [] = ('$' :: ·) := funext filled_nil
    rw [hwrite]
    exact htemplate

/-- The digits of a placeholder are one number, and what is put in is not read again. -/
example : substitute "$2$01 $10 $" ["a", "$1 b"] = "\"$1 b\"a $10 $" := by decide

end CommandConsole.Line
