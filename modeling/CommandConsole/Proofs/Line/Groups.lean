import CommandConsole.Line.Token
import CommandConsole.Proofs.Text.Words

/-!
# Groups of words

The scan reads a line in one pass and keeps the open group in hand. What it does with a group that
closes is said without that state: `IsGroup` lists the words of a closed group (none of them closes
it before the last one does), and `scan_group` turns such a group, whatever follows it, into one
token. A token is single spaced, whether it is a word or the text of a group
(`singleSpaced_of_mem_tokens`).
-/

set_option autoImplicit false

namespace CommandConsole.Line

open Text

/-- The words of a group that a quote opens and closes: one word that closes itself, or a word that
does not, words that do not close the group, and one that does. -/
inductive IsGroup (q : Char) : List (List Char) → Prop where
  | short {w : List Char} : openingQuote w = some q → closesItself q w = true → IsGroup q [w]
  | long {w last : List Char} {inner : List (List Char)} :
      openingQuote w = some q → closesItself q w = false →
      (∀ v ∈ inner, endsWith q v = false) → endsWith q last = true →
      IsGroup q (w :: (inner ++ [last]))

theorem openingQuote_cons_of_isQuote {q : Char} (hq : isQuote q = true) (r : List Char) :
    openingQuote (q :: r) = some q := by
  simp [openingQuote, Option.filter, hq]

theorem isBlank_of_isQuote {q : Char} (hq : isQuote q = true) : isBlank q = false := by
  have h : q = '"' ∨ q = '\'' := by simpa [isQuote] using hq
  rcases h with rfl | rfl <;> decide

theorem scan_plain {w : List Char} (hw : openingQuote w = none) (rest : List (List Char)) :
    scan none (w :: rest) = w :: scan none rest := by
  simp [scan, hw]

/-- An open group takes words up to the first that ends with its quote. -/
theorem scan_held {q : Char} {last : List Char} (hlast : endsWith q last = true)
    (inner : List (List Char)) (hinner : ∀ v ∈ inner, endsWith q v = false)
    (group rest : List (List Char)) :
    scan (some (q, group)) (inner ++ last :: rest) =
      groupText (group.reverse ++ inner ++ [last]) :: scan none rest := by
  induction inner generalizing group with
  | nil => simp [scan, hlast]
  | cons v inner ih =>
      have hv : endsWith q v = false := hinner v (by simp)
      have hrest := ih (fun u hu => hinner u (List.mem_cons_of_mem _ hu)) (v :: group)
      rw [List.cons_append]
      simpa [scan, hv] using hrest

/-- **A closed group is one token**, whatever follows it. -/
theorem scan_group {q : Char} {group : List (List Char)} (h : IsGroup q group)
    (rest : List (List Char)) :
    scan none (group ++ rest) = groupText group :: scan none rest := by
  cases h with
  | short hopen hclose => simp [scan, hopen, hclose]
  | @long w last inner hopen hclose hinner hlast =>
      have hheld := scan_held hlast inner hinner [w] rest
      rw [List.cons_append, List.append_assoc, List.singleton_append]
      simpa [scan, hopen, hclose] using hheld

/-! ## White space in tokens -/

theorem singleSpaced_groupText {group : List (List Char)} (hgroup : ∀ w ∈ group, IsWord w) :
    SingleSpaced (groupText group) :=
  (singleSpaced_join hgroup).tail.dropLast

/-- The words of the open group, if there is one. -/
def heldWords : Option (Char × List (List Char)) → List (List Char)
  | none => []
  | some g => g.2

/-- Where there are words there is a token, whether they are in hand or to come. -/
theorem scan_ne_nil {held : Option (Char × List (List Char))} {ws : List (List Char)}
    (h : heldWords held ++ ws ≠ []) : scan held ws ≠ [] := by
  induction ws generalizing held with
  | nil =>
      cases held with
      | none => exact absurd rfl h
      | some g => simpa [heldWords, scan] using h
  | cons w ws ih =>
      cases held with
      | none =>
          simp only [scan]
          split
          · exact List.cons_ne_nil _ _
          · split
            · exact List.cons_ne_nil _ _
            · exact ih (by simp [heldWords])
      | some g =>
          simp only [scan]
          split
          · exact List.cons_ne_nil _ _
          · exact ih (by simp [heldWords])

/-- **A line without a token** is one that is all white space. -/
theorem tokenize_eq_nil_iff {line : String} :
    tokenize line = [] ↔ isBlankString line = true := by
  have hwords : tokens line.toList = [] ↔ words line.toList = [] := by
    constructor
    · intro h
      by_contra hne
      exact scan_ne_nil (by simpa [heldWords] using hne) h
    · intro h
      simp [tokens, h, scan]
  rw [tokenize, List.map_eq_nil_iff, hwords, words_eq_nil_iff, isBlankString, List.all_eq_true]

theorem singleSpaced_of_mem_scan {held : Option (Char × List (List Char))}
    {ws : List (List Char)} {t : List Char} (hheld : ∀ w ∈ heldWords held, IsWord w)
    (hws : ∀ w ∈ ws, IsWord w) (ht : t ∈ scan held ws) : SingleSpaced t := by
  induction ws generalizing held with
  | nil =>
      cases held with
      | none => simp [scan] at ht
      | some g => exact .word (hheld t (by simpa [scan, heldWords] using ht))
  | cons w ws ih =>
      have hw : IsWord w := hws w (by simp)
      have hrest : ∀ v ∈ ws, IsWord v := fun v hv => hws v (List.mem_cons_of_mem _ hv)
      have hnone : t ∈ scan none ws → SingleSpaced t := ih (by simp [heldWords]) hrest
      cases held with
      | none =>
          simp only [scan] at ht
          split at ht
          · rcases List.mem_cons.mp ht with rfl | ht
            · exact .word hw
            · exact hnone ht
          · split at ht
            · rcases List.mem_cons.mp ht with rfl | ht
              · exact singleSpaced_groupText (by simpa using hw)
              · exact hnone ht
            · exact ih (by simpa [heldWords] using hw) hrest ht
      | some g =>
          -- the group so far and the word in hand are words all the same
          have hgroup : ∀ v ∈ w :: g.2, IsWord v := by
            intro v hv
            rcases List.mem_cons.mp hv with rfl | hv
            · exact hw
            · exact hheld v hv
          simp only [scan] at ht
          split at ht
          · rcases List.mem_cons.mp ht with rfl | ht
            · exact singleSpaced_groupText fun v hv => hgroup v (List.mem_reverse.mp hv)
            · exact hnone ht
          · refine ih ?_ hrest ht
            exact hgroup

/-- The only blanks in a token are single spaces. -/
theorem singleSpaced_of_mem_tokens {line t : List Char} (ht : t ∈ tokens line) :
    SingleSpaced t :=
  singleSpaced_of_mem_scan (by simp [heldWords]) (fun _ => isWord_of_mem_words) ht

theorem singleSpaced_of_mem_tokenize {line token : String} (h : token ∈ tokenize line) :
    SingleSpaced token.toList := by
  obtain ⟨t, ht, rfl⟩ := List.mem_map.mp h
  rw [String.toList_ofList]
  exact singleSpaced_of_mem_tokens ht

end CommandConsole.Line
