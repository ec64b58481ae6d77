import CommandConsole.Registry
import CommandConsole.Signature
import Mathlib.Computability.RegularExpressions
import Mathlib.Data.Set.List

/-!
# The grammar of signatures

White space aside, the text of a signature is a run of markers and then a run of markers with a
question mark in front: `grammar` says so as a regular expression. The reader goes through the text
character by character and keeps two flags and a count. What they mean is fixed by the slots that
have been read (`read_chars_append`): whether one of them is optional, and how many they are.

So the text of slots in front of anything else is read as these slots, and any text is the text of
such slots up to its end or up to something that keeps it from being read on
(`exists_slots`). From this follow `read_eq_ok_iff`, that reading undoes writing, and
`read_eq_error_iff`, which flaw is found; `read_follows_grammar` puts them together.
-/

set_option autoImplicit false

namespace CommandConsole

/-! ## Markers -/

namespace SlotKind

variable {c : Char} {kind : SlotKind}

@[simp] theorem ofMarker?_marker (kind : SlotKind) : ofMarker? kind.marker = some kind := by
  cases kind <;> rfl

@[simp] theorem marker_ne_mark (kind : SlotKind) : kind.marker ≠ '?' := by
  cases kind <;> decide

theorem eq_marker_of_ofMarker? (h : ofMarker? c = some kind) : c = kind.marker := by
  unfold ofMarker? at h
  split at h
  · obtain rfl := Option.some.inj h
    rfl
  · obtain rfl := Option.some.inj h
    rfl
  · contradiction

/-- White space is no marker. -/
theorem ofMarker?_of_isBlank (h : Text.isBlank c = true) : ofMarker? c = none := by
  cases hc : ofMarker? c with
  | none => rfl
  | some kind =>
      rw [eq_marker_of_ofMarker? hc] at h
      cases kind <;> exact absurd h (by decide)

end SlotKind

namespace Signature

variable {s : Signature} {cs rest t : List Char} {flaw : Flaw}

/-! ## Slots in order -/

/-- No slot that must be filled stands behind one that may stay empty. -/
def OptionalLast (s : Signature) : Prop :=
  s.Pairwise fun a b => a.optional = true → b.optional = true

/-- Slots that must be filled, and then slots that may stay empty. -/
def ofKinds (needed spare : List SlotKind) : Signature :=
  needed.map (⟨·, false⟩) ++ spare.map (⟨·, true⟩)

theorem optionalLast_ofKinds (needed spare : List SlotKind) :
    (ofKinds needed spare).OptionalLast := by
  rw [OptionalLast, ofKinds, List.pairwise_append, List.pairwise_map, List.pairwise_map]
  refine ⟨List.pairwise_of_forall (by simp), List.pairwise_of_forall (by simp), ?_⟩
  intro a ha b _ hopt
  obtain ⟨kind, -, rfl⟩ := List.mem_map.mp ha
  contradiction

/-- **Slots are in order if and only if the optional ones are the last ones.** -/
theorem optionalLast_iff : s.OptionalLast ↔ ∃ needed spare, s = ofKinds needed spare := by
  constructor
  · intro h
    induction s with
    | nil => exact ⟨[], [], rfl⟩
    | cons slot s ih =>
        obtain ⟨hslot, hs⟩ := List.pairwise_cons.mp h
        obtain ⟨needed, spare, rfl⟩ := ih hs
        obtain ⟨kind, optional⟩ := slot
        cases optional with
        | false => exact ⟨kind :: needed, spare, rfl⟩
        | true =>
            -- behind an optional slot there is none that must be filled
            cases needed with
            | nil => exact ⟨[], kind :: spare, rfl⟩
            | cons other needed =>
                have hopt : false = true := hslot ⟨other, false⟩ List.mem_cons_self rfl
                contradiction
  · rintro ⟨needed, spare, rfl⟩
    exact optionalLast_ofKinds needed spare

/-- A slot goes behind others if it is optional or none of them is. -/
theorem optionalLast_concat (slot : Slot) (h : s.OptionalLast)
    (hslot : s.any (·.optional) = true → slot.optional = true) : (s ++ [slot]).OptionalLast := by
  refine List.pairwise_append.mpr ⟨h, List.pairwise_singleton _ _, fun a ha b hb hopt => ?_⟩
  obtain rfl := List.mem_singleton.mp hb
  exact hslot (List.any_eq_true.mpr ⟨a, ha, hopt⟩)

theorem chars_append (s r : Signature) : chars (s ++ r) = chars s ++ chars r := List.flatMap_append

theorem chars_ofKinds (needed spare : List SlotKind) :
    chars (ofKinds needed spare) =
      needed.map SlotKind.marker ++ spare.flatMap fun kind => ['?', kind.marker] := by
  rw [ofKinds, chars_append, chars, chars, List.flatMap_map, List.flatMap_map]
  simp only [slotText, if_true, Bool.false_eq_true, if_false]
  rw [List.map_eq_flatMap]

/-! ## White space -/

/-- The text of a signature without white space. -/
def marks (cs : List Char) : List Char := cs.filter fun c => !Text.isBlank c

/-- **White space means nothing**, wherever it stands, and so also between a question mark and its
marker. -/
theorem readFrom_marks (mark tail : Bool) (count : Nat) (cs : List Char) :
    readFrom mark tail count (marks cs) = readFrom mark tail count cs := by
  induction cs generalizing mark tail count with
  | nil => rfl
  | cons c r ih =>
      by_cases hblank : Text.isBlank c = true
      · -- it is neither a question mark nor a marker, so the reader goes on as it was
        have hmark : c ≠ '?' := by
          rintro rfl
          exact absurd hblank (by decide)
        have hskip : marks (c :: r) = marks r := by simp [marks, hblank]
        rw [hskip, ih, readFrom, if_neg hmark, SlotKind.ofMarker?_of_isBlank hblank]
        exact (if_pos hblank).symm
      · have hkeep : marks (c :: r) = c :: marks r := by simp [marks, hblank]
        rw [hkeep, readFrom, readFrom]
        simp only [ih]

theorem read_marks (cs : List Char) : read (marks cs) = read cs := readFrom_marks false false 0 cs

/-! ## Reading slots -/

/-- One slot in front of anything else. -/
theorem readFrom_slotText {tail : Bool} {slot : Slot} (h : tail = true → slot.optional = true)
    (count : Nat) (rest : List Char) :
    readFrom false tail count (slotText slot ++ rest) =
      (readFrom false (tail || slot.optional) (count + 1) rest).map (slot :: ·) := by
  obtain ⟨kind, optional⟩ := slot
  cases optional with
  | false =>
      have htail : tail = false := by simpa using h
      show readFrom false tail count (kind.marker :: rest) = _
      rw [readFrom, if_neg kind.marker_ne_mark, SlotKind.ofMarker?_marker, htail]
      rfl
  | true =>
      show readFrom false tail count ('?' :: kind.marker :: rest) = _
      rw [readFrom, if_pos rfl, if_neg Bool.false_ne_true, readFrom, if_neg kind.marker_ne_mark,
        SlotKind.ofMarker?_marker]
      simp only [Bool.not_true, Bool.and_false, Bool.false_eq_true, if_false]

/-- **What the reader keeps**: behind the text of slots its flag says whether one of them is
optional, and its count how many they are. -/
theorem read_chars_append (h : s.OptionalLast) (rest : List Char) :
    read (chars s ++ rest) =
      (readFrom false (s.any (·.optional)) s.length rest).map (s ++ ·) := by
  -- the flag and the count are about the slots in front, so the slots are taken from the end
  induction s using List.reverseRecOn generalizing rest with
  | nil =>
      show readFrom false false 0 rest = (readFrom false false 0 rest).map id
      cases readFrom false false 0 rest <;> rfl
  | append_singleton s slot ih =>
      obtain ⟨hs, -, hslot⟩ := List.pairwise_append.mp h
      have hlast : s.any (·.optional) = true → slot.optional = true := by
        intro hany
        obtain ⟨a, ha, hopt⟩ := List.any_eq_true.mp hany
        exact hslot a ha slot List.mem_cons_self hopt
      have htext : chars (s ++ [slot]) ++ rest = chars s ++ (slotText slot ++ rest) := by
        simp [chars]
      rw [htext, ih hs, readFrom_slotText hlast, List.any_append, List.length_append]
      simp only [List.any_cons, List.any_nil, Bool.or_false, List.length_singleton]
      cases readFrom false (s.any (·.optional) || slot.optional) (s.length + 1) rest with
      | ok r => exact congrArg Except.ok (List.append_cons s slot r)
      | error flaw => rfl

theorem read_chars (h : s.OptionalLast) : read (chars s) = .ok s := by
  have hread := read_chars_append h []
  rw [List.append_nil] at hread
  exact hread.trans (congrArg Except.ok (List.append_nil s))

/-! ## What keeps a text from being read -/

/-- **What is wrong with a text behind slots that have been read.** -/
inductive Refuses (s : Signature) : List Char → Flaw → Prop where
  | repeated (rest : List Char) : Refuses s ('?' :: '?' :: rest) .repeatedMark
  | dangling : Refuses s ['?'] .danglingMark
  | unknown {c : Char} (rest : List Char) : c ≠ '?' → SlotKind.ofMarker? c = none →
      Text.isBlank c = false → Refuses s (c :: rest) (.unknownMarker c)
  | unknownMarked {c : Char} (rest : List Char) : c ≠ '?' → SlotKind.ofMarker? c = none →
      Text.isBlank c = false → Refuses s ('?' :: c :: rest) (.unknownMarker c)
  | required (kind : SlotKind) (rest : List Char) : s.any (·.optional) = true →
      Refuses s (kind.marker :: rest) (.requiredBehindOptional (s.length + 1))

theorem read_of_refuses (h : s.OptionalLast) (hrest : Refuses s rest flaw) :
    read (chars s ++ rest) = .error flaw := by
  have hstop : readFrom false (s.any (·.optional)) s.length rest = .error flaw := by
    cases hrest with
    | repeated rest => rfl
    | dangling => rfl
    | unknown rest hmark hmarker hblank =>
        rw [readFrom, if_neg hmark, hmarker]
        simp only [hblank, Bool.false_eq_true, if_false]
    | unknownMarked rest hmark hmarker hblank =>
        rw [readFrom, if_pos rfl, if_neg Bool.false_ne_true, readFrom, if_neg hmark, hmarker]
        simp only [hblank, Bool.false_eq_true, if_false]
    | required kind rest hany =>
        rw [readFrom, if_neg kind.marker_ne_mark, SlotKind.ofMarker?_marker, hany]
        rfl
  rw [read_chars_append h, hstop]
  rfl

/-- Behind slots a text is that of further slots, up to its end or up to something that keeps it
from being read on. -/
def ReadsOn (s : Signature) (rest : List Char) : Prop :=
  ∃ r, (s ++ r).OptionalLast ∧
    (rest = chars r ∨ ∃ rest' flaw, rest = chars r ++ rest' ∧ Refuses (s ++ r) rest' flaw)

theorem ReadsOn.of_refuses (h : s.OptionalLast) (hrest : Refuses s rest flaw) :
    ReadsOn s rest := by
  refine ⟨[], by rwa [List.append_nil], .inr ⟨rest, flaw, rfl, ?_⟩⟩
  rwa [List.append_nil]

theorem ReadsOn.slot {slot : Slot} (h : ReadsOn (s ++ [slot]) rest) :
    ReadsOn s (slotText slot ++ rest) := by
  obtain ⟨r, hlast, hend⟩ := h
  rw [List.append_assoc, List.singleton_append] at hlast hend
  refine ⟨slot :: r, hlast, ?_⟩
  rcases hend with rfl | ⟨rest', flaw, rfl, hrefuses⟩
  · exact .inl rfl
  · exact .inr ⟨rest', flaw, (List.append_assoc _ _ _).symm, hrefuses⟩

/-- **How far a text can be read.** -/
theorem readsOn (hblank : ∀ c ∈ rest, Text.isBlank c = false) (h : s.OptionalLast) :
    ReadsOn s rest := by
  -- a question mark and its marker are read in one step, so the induction is on the length
  induction hlength : rest.length using Nat.strong_induction_on generalizing s rest with
  | _ n ih =>
      subst hlength
      have hslot {slot : Slot} {r : List Char} (htext : rest = slotText slot ++ r)
          (hlast : (s ++ [slot]).OptionalLast) : ReadsOn s rest := by
        subst htext
        have hshorter : r.length < (slotText slot ++ r).length := by
          rw [List.length_append, slotText]
          split <;> simp
        have hr : ∀ c ∈ r, Text.isBlank c = false := fun c hc =>
          hblank c (List.mem_append_right _ hc)
        exact (ih r.length hshorter hr hlast rfl).slot
      cases rest with
      | nil => exact ⟨[], by rwa [List.append_nil], .inl rfl⟩
      | cons c r =>
          have hc : Text.isBlank c = false := hblank c List.mem_cons_self
          by_cases hmark : c = '?'
          · subst hmark
            cases r with
            | nil => exact .of_refuses h .dangling
            | cons d r =>
                by_cases hagain : d = '?'
                · subst hagain
                  exact .of_refuses h (.repeated r)
                have hd : Text.isBlank d = false := hblank d (by simp)
                cases hmarker : SlotKind.ofMarker? d with
                | none => exact .of_refuses h (.unknownMarked r hagain hmarker hd)
                | some kind =>
                    obtain rfl := SlotKind.eq_marker_of_ofMarker? hmarker
                    exact @hslot ⟨kind, true⟩ r rfl (optionalLast_concat _ h fun _ => rfl)
          cases hmarker : SlotKind.ofMarker? c with
          | none => exact .of_refuses h (.unknown r hmark hmarker hc)
          | some kind =>
              obtain rfl := SlotKind.eq_marker_of_ofMarker? hmarker
              -- whether a slot that must be filled can stand here depends on those in front
              cases hany : s.any (·.optional) with
              | true => exact .of_refuses h (.required kind r hany)
              | false =>
                  exact @hslot ⟨kind, false⟩ r rfl (optionalLast_concat _ h (by simp [hany]))

/-! ## What reading accepts, and what not -/

theorem isBlank_of_mem_marks {c : Char} (h : c ∈ marks cs) : Text.isBlank c = false := by
  have hc := (List.mem_filter.mp h).2
  rwa [Bool.not_eq_true'] at hc

/-- The text of a signature is that of slots, or of slots and of something that is refused. -/
theorem exists_slots (cs : List Char) : ∃ s, OptionalLast s ∧
    (marks cs = chars s ∨ ∃ rest flaw, marks cs = chars s ++ rest ∧ Refuses s rest flaw) :=
  @readsOn [] (marks cs) (fun _ hc => isBlank_of_mem_marks hc) List.Pairwise.nil

/-- **Reading undoes writing**: a text is read as the slots whose text it is. -/
theorem read_eq_ok_iff : read cs = .ok s ↔ s.OptionalLast ∧ chars s = marks cs := by
  constructor
  · intro h
    obtain ⟨r, hlast, hend⟩ := exists_slots cs
    rcases hend with htext | ⟨rest, flaw, htext, hrefuses⟩
    · rw [← read_marks, htext, read_chars hlast] at h
      obtain rfl := Except.ok.inj h
      exact ⟨hlast, htext.symm⟩
    · rw [← read_marks, htext, read_of_refuses hlast hrefuses] at h
      contradiction
  · rintro ⟨hlast, htext⟩
    rw [← read_marks, ← htext, read_chars hlast]

/-- **Which flaw is found**: the one behind the slots that can be read. -/
theorem read_eq_error_iff : read cs = .error flaw ↔
    ∃ s rest, OptionalLast s ∧ marks cs = chars s ++ rest ∧ Refuses s rest flaw := by
  constructor
  · intro h
    obtain ⟨s, hlast, hend⟩ := exists_slots cs
    rcases hend with htext | ⟨rest, flaw', htext, hrefuses⟩
    · rw [read_eq_ok_iff.mpr ⟨hlast, htext.symm⟩] at h
      contradiction
    · have herror := read_of_refuses hlast hrefuses
      rw [← htext, read_marks, h] at herror
      obtain rfl := Except.error.inj herror
      exact ⟨s, rest, hlast, htext, hrefuses⟩
  · rintro ⟨s, rest, hlast, htext, hrefuses⟩
    rw [← read_marks, htext, read_of_refuses hlast hrefuses]

/-! ## The grammar -/

/-- A marker: `s` or `i`. -/
def anyMarker : RegularExpression Char := .char 's' + .char 'i'

/-- **The grammar of signatures** without white space: markers, and then markers with a question
mark in front. -/
def grammar : RegularExpression Char := anyMarker.star * (.char '?' * anyMarker).star

theorem mem_anyMarker : t ∈ anyMarker.matches' ↔ ∃ kind : SlotKind, t = [kind.marker] := by
  rw [anyMarker, RegularExpression.matches'_add, RegularExpression.matches'_char,
    RegularExpression.matches'_char, Language.mem_add]
  constructor
  · rintro (rfl | rfl)
    · exact ⟨.text, rfl⟩
    · exact ⟨.integer, rfl⟩
  · rintro ⟨kind, rfl⟩
    cases kind with
    | text => exact .inl rfl
    | integer => exact .inr rfl

theorem mem_markedMarker :
    t ∈ (.char '?' * anyMarker : RegularExpression Char).matches' ↔
      ∃ kind : SlotKind, t = ['?', kind.marker] := by
  rw [RegularExpression.matches'_mul, RegularExpression.matches'_char, Language.mem_mul]
  constructor
  · rintro ⟨a, rfl, b, hb, rfl⟩
    obtain ⟨kind, rfl⟩ := mem_anyMarker.mp hb
    exact ⟨kind, rfl⟩
  · rintro ⟨kind, rfl⟩
    exact ⟨['?'], rfl, [kind.marker], mem_anyMarker.mpr ⟨kind, rfl⟩, rfl⟩

/-- A run of pieces, each of which stands for a kind. -/
theorem mem_star {piece : RegularExpression Char} {text : SlotKind → List Char}
    (hpiece : ∀ t, t ∈ piece.matches' ↔ ∃ kind, t = text kind) :
    t ∈ piece.star.matches' ↔ ∃ kinds : List SlotKind, t = kinds.flatMap text := by
  rw [RegularExpression.matches'_star, Language.mem_kstar]
  constructor
  · rintro ⟨pieces, rfl, hpieces⟩
    have hrange : pieces ∈ Set.range (List.map text) := by
      rw [Set.range_list_map]
      intro t ht
      obtain ⟨kind, rfl⟩ := (hpiece t).mp (hpieces t ht)
      exact ⟨kind, rfl⟩
    obtain ⟨kinds, rfl⟩ := hrange
    exact ⟨kinds, (List.flatMap_def ..).symm⟩
  · rintro ⟨kinds, rfl⟩
    refine ⟨kinds.map text, List.flatMap_def .., fun t ht => ?_⟩
    obtain ⟨kind, -, rfl⟩ := List.mem_map.mp ht
    exact (hpiece _).mpr ⟨kind, rfl⟩

/-- The texts of the grammar are the texts of slots in order. -/
theorem mem_grammar : t ∈ grammar.matches' ↔ ∃ s, OptionalLast s ∧ t = chars s := by
  have hmarks : t ∈ grammar.matches' ↔
      ∃ needed spare : List SlotKind, t = chars (ofKinds needed spare) := by
    rw [grammar, RegularExpression.matches'_mul, Language.mem_mul]
    constructor
    · rintro ⟨a, ha, b, hb, rfl⟩
      obtain ⟨needed, rfl⟩ := (mem_star fun _ => mem_anyMarker).mp ha
      obtain ⟨spare, rfl⟩ := (mem_star fun _ => mem_markedMarker).mp hb
      exact ⟨needed, spare, by rw [chars_ofKinds, List.map_eq_flatMap]⟩
    · rintro ⟨needed, spare, rfl⟩
      refine ⟨_, (mem_star fun _ => mem_anyMarker).mpr ⟨needed, rfl⟩, _,
        (mem_star fun _ => mem_markedMarker).mpr ⟨spare, rfl⟩, ?_⟩
      rw [chars_ofKinds, List.map_eq_flatMap]
  rw [hmarks]
  constructor
  · rintro ⟨needed, spare, rfl⟩
    exact ⟨_, optionalLast_ofKinds needed spare, rfl⟩
  · rintro ⟨s, hlast, rfl⟩
    obtain ⟨needed, spare, rfl⟩ := optionalLast_iff.mp hlast
    exact ⟨needed, spare, rfl⟩

/-- **Signatures follow the grammar.** A text is a signature if and only if, white space aside, it
is in the grammar. Then its slots are those of its markers, in order, and optional are just those
with a question mark in front; none that must be filled stands behind one of them. Writing the slots
gives the text without its white space, and reading that gives the slots again. Any other text is
refused as it stands, and the reason given is what stands behind the slots that can be read. -/
theorem read_follows_grammar (text : String) :
    ((∃ s, read text.toList = .ok s) ↔ marks text.toList ∈ grammar.matches') ∧
    (∀ needed spare : List SlotKind,
      marks text.toList =
          needed.map SlotKind.marker ++ spare.flatMap (fun kind => ['?', kind.marker]) →
        read text.toList = .ok (needed.map (⟨·, false⟩) ++ spare.map (⟨·, true⟩))) ∧
    (∀ s, read text.toList = .ok s →
      s.OptionalLast ∧ s.text = String.ofList (marks text.toList) ∧ read s.text.toList = .ok s) ∧
    (marks text.toList ∉ grammar.matches' → ∃ s rest flaw,
      OptionalLast s ∧ marks text.toList = chars s ++ rest ∧ Refuses s rest flaw ∧
      ∀ name handler, Definition.make name text handler =
        .error (.badSignature text flaw.message)) := by
  refine ⟨?_, fun needed spare htext => ?_, fun s hread => ?_, fun hnot => ?_⟩
  · rw [mem_grammar]
    exact exists_congr fun s => read_eq_ok_iff.trans (and_congr_right fun _ => eq_comm)
  · rw [← chars_ofKinds] at htext
    exact read_eq_ok_iff.mpr ⟨optionalLast_ofKinds needed spare, htext.symm⟩
  · obtain ⟨hlast, htext⟩ := read_eq_ok_iff.mp hread
    refine ⟨hlast, by rw [Signature.text, htext], ?_⟩
    rw [Signature.text, String.toList_ofList, read_chars hlast]
  · cases hread : read text.toList with
    | ok s =>
        obtain ⟨hlast, htext⟩ := read_eq_ok_iff.mp hread
        exact absurd (mem_grammar.mpr ⟨s, hlast, htext.symm⟩) hnot
    | error flaw =>
        obtain ⟨s, rest, hlast, htext, hrefuses⟩ := read_eq_error_iff.mp hread
        refine ⟨s, rest, flaw, hlast, htext, hrefuses, fun name handler => ?_⟩
        rw [Definition.make, hread]

/-- White space may stand between a question mark and its marker. -/
example : read "s ? i".toList = .ok [⟨.text, false⟩, ⟨.integer, true⟩] := by decide

end Signature

end CommandConsole
