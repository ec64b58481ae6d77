import CommandConsole.Proofs.Records.Search
import CommandConsole.Proofs.Text.LetterCase

/-!
# Likeness with and without letter case

`like` looks for a text in a text, and `ilike` for its small form in the small form. One would
expect the second to find whatever the first one finds. It does so for a needle that has one small
form wherever it stands, and for no other one (`like_within_ilike_iff`): the small form of an open
sigma is another one in the needle than in the text.
-/

set_option autoImplicit false

namespace CommandConsole.Records

namespace Condition

theorem occursIn_iff {needle hay : List Char} :
    occursIn needle hay = true ↔ needle <:+: hay := by
  induction hay with
  | nil => simp [occursIn]
  | cons c r ih =>
      rw [occursIn, Bool.or_eq_true, List.isPrefixOf_iff_prefix, ih, List.infix_cons_iff]

/-- A needle that is no text, or has one small form wherever it stands. -/
def Steady : Json → Prop
  | .str s => Text.settled s.toList = true
  | _ => True

instance : DecidablePred Steady
  | .str s => inferInstanceAs (Decidable (Text.settled s.toList = true))
  | .null => inferInstanceAs (Decidable True)
  | .bool _ => inferInstanceAs (Decidable True)
  | .int _ => inferInstanceAs (Decidable True)
  | .float _ => inferInstanceAs (Decidable True)
  | .arr _ => inferInstanceAs (Decidable True)
  | .obj _ => inferInstanceAs (Decidable True)

variable {needle actual : Json}

/-- Only a text is like a text. -/
theorem exists_of_isLike (fold : List Char → List Char) (h : isLike fold actual needle = true) :
    ∃ hay s, actual = .str hay ∧ needle = .str s ∧ fold s.toList <:+: fold hay.toList := by
  unfold isLike at h
  split at h
  · next hay s => exact ⟨hay, s, rfl, rfl, occursIn_iff.mp h⟩
  · contradiction

theorem ilike_of_like (hsteady : Steady needle) (h : compares "like" actual needle = true) :
    compares "ilike" actual needle = true := by
  obtain ⟨hay, s, rfl, rfl, hwithin⟩ := exists_of_isLike id h
  exact occursIn_iff.mpr (Text.toLower_isInfix hsteady hwithin)

/-- A needle that is not steady is in some text in which it is not found without letter case. -/
theorem exists_like_not_ilike (h : ¬ Steady needle) :
    ∃ hay, compares "like" (.str hay) needle = true ∧
      compares "ilike" (.str hay) needle = false := by
  cases needle with
  | str s =>
      have hopen : Text.settled s.toList = false := by simpa [Steady] using h
      obtain ⟨text, hwithin, hlost⟩ := Text.exists_text_losing hopen
      refine ⟨String.ofList text, ?_, ?_⟩
      · exact occursIn_iff.mpr (by simpa using hwithin)
      · have hnot : ¬ compares "ilike" (.str (String.ofList text)) (.str s) = true := by
          intro hlike
          have hfound := occursIn_iff.mp hlike
          exact hlost (by simpa using hfound)
        exact Bool.eq_false_of_not_eq_true hnot
  | _ => exact absurd trivial h

-- a sigma at the end of a needle is open, one in front of a blank is the end of a word
example : ¬ Steady (.str "ΟΔΟΣ") ∧ Steady (.str "ΟΔΟΣ ΑΣΑ") := by decide +kernel

end Condition

namespace Store

open Condition

/-- Records that meet more conditions are among those that meet fewer. -/
theorem matching_sublist {cs cs' : List Condition} (s : Store) (model : String)
    (h : ∀ id record, (∀ c ∈ cs, c.meets id record = true) →
      ∀ c ∈ cs', c.meets id record = true) :
    (s.matching model cs).Sublist (s.matching model cs') := by
  refine List.monotone_filter_right _ fun e he => ?_
  rw [List.all_eq_true] at he ⊢
  exact h e.1 e.2 he

/-- **Likeness without letter case finds at least what likeness finds, for steady needles.** For any
needle: every record that meets a `like` term with it, in whatever field, meets the `ilike` term, if
and only if the needle is steady. And if and only if it is steady, the rows of every search with an
`ilike` term, among whatever other terms, include those of the search with the `like` term. -/
theorem like_within_ilike_iff (needle : Json) :
    ((∀ field id record, (⟨field, "like", needle⟩ : Condition).meets id record = true →
      (⟨field, "ilike", needle⟩ : Condition).meets id record = true) ↔ Steady needle) ∧
    ((∀ (s : Store) (model : String) (names : Option (List String)) (field : String)
      (front rest : List Json) (fs rs : List Condition), Lists front fs → Lists rest rs →
      ∃ rows rows', rows.Sublist rows' ∧
        s.search (Vocabulary.searchRequest model names
          (.arr (front ++ term ⟨field, "like", needle⟩ :: rest))) = .ok (.arr rows) ∧
        s.search (Vocabulary.searchRequest model names
          (.arr (front ++ term ⟨field, "ilike", needle⟩ :: rest))) = .ok (.arr rows')) ↔
      Steady needle) := by
  refine ⟨⟨fun h => ?_, fun hsteady field id record => ilike_of_like hsteady⟩,
    fun h => ?_, fun hsteady s model names field front rest fs rs hfront hrest => ?_⟩
  · by_contra hnot
    obtain ⟨hay, hlike, hilike⟩ := exists_like_not_ilike hnot
    have hmeets := h "text" 1 [("text", .str hay)] hlike
    exact absurd (hmeets.symm.trans hilike) (by decide)
  · by_contra hnot
    obtain ⟨hay, hlike, hilike⟩ := exists_like_not_ilike hnot
    -- a store with the one record that is lost
    let s : Store := (empty.insert "note" [("text", .str hay)]).2
    have hlists (operator : String) : Lists [term ⟨"text", operator, needle⟩]
        [⟨"text", operator, needle⟩] := .term _ .nil
    obtain ⟨rows, rows', hsub, hrows, hrows'⟩ :=
      h s "note" none "text" [] [] [] [] .nil .nil
    rw [List.nil_append, search_of_lists (hlists _)] at hrows hrows'
    have htable : s.table "note" = [(1, [("text", .str hay)])] := rfl
    have hmeets (operator : String) : (⟨"text", operator, needle⟩ : Condition).meets 1
        [("text", .str hay)] = compares operator (.str hay) needle := rfl
    have hone : s.matching "note" [⟨"text", "like", needle⟩] = [(1, [("text", .str hay)])] := by
      simp [matching, htable, hmeets, hlike]
    have hnone : s.matching "note" [⟨"text", "ilike", needle⟩] = [] := by
      simp [matching, htable, hmeets, hilike]
    rw [hone] at hrows
    rw [hnone] at hrows'
    obtain rfl := Json.arr.inj (Except.ok.inj hrows)
    obtain rfl := Json.arr.inj (Except.ok.inj hrows')
    exact absurd hsub.length_le (by simp)
  · refine ⟨_, _, ?_, search_of_lists (hfront.append (hrest.term _)) s model names,
      search_of_lists (hfront.append (hrest.term _)) s model names⟩
    refine (matching_sublist s model fun id record hmeets c hc => ?_).map _
    rcases List.mem_append.mp hc with hc | hc
    · exact hmeets c (List.mem_append_left _ hc)
    · rcases List.mem_cons.mp hc with rfl | hc
      · exact ilike_of_like hsteady (hmeets _ (List.mem_append_right _ List.mem_cons_self))
      · exact hmeets c (List.mem_append_right _ (List.mem_cons_of_mem _ hc))

/-- A sigma at the end of a needle is not the end of the word that has the needle in it. -/
theorem inner_sigma_not_found :
    let store := (empty.insert "note" [("text", .str "ΑΣΑ")]).2
    let found (operator : String) := store.search
      (Vocabulary.searchRequest "note" none (.arr [term ⟨"text", operator, .str "ΑΣ"⟩]))
    found "like" = .ok (.arr [.obj [("id", .int 1), ("text", .str "ΑΣΑ")]]) ∧
      found "ilike" = .ok (.arr []) := by
  intro store found
  have hfound (operator : String) : found operator =
      .ok (handedOut none (store.matching "note" [⟨"text", operator, .str "ΑΣ"⟩])) :=
    search_of_lists (.term _ .nil) store "note" none
  have htable : store.table "note" = [(1, [("text", .str "ΑΣΑ")])] := rfl
  have hmeets (operator : String) : (⟨"text", operator, .str "ΑΣ"⟩ : Condition).meets 1
      [("text", .str "ΑΣΑ")] = compares operator (.str "ΑΣΑ") (.str "ΑΣ") := rfl
  have hlike : compares "like" (.str "ΑΣΑ") (.str "ΑΣ") = true := by decide +kernel
  have hilike : compares "ilike" (.str "ΑΣΑ") (.str "ΑΣ") = false := by decide +kernel
  constructor
  · rw [hfound, matching, htable]
    simp only [List.filter, List.all_cons, List.all_nil, hmeets, hlike]
    rfl
  · rw [hfound, matching, htable]
    simp only [List.filter, List.all_cons, List.all_nil, hmeets, hilike]
    rfl

end Store

end CommandConsole.Records
