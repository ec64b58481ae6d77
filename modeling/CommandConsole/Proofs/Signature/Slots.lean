import CommandConsole.Proofs.Number.Numeral
import CommandConsole.Proofs.Signature.Grammar

/-!
# Arguments slot by slot

A signature means something for each of its slots (`Takes`): an argument that is there is of the
kind of its slot, and a slot without one is optional. What is checked is less than that. It counts
the slots in front of the first optional one, compares this with the number of arguments, and looks
at the kinds. The two come to the same because the slots that have to be filled all stand in front
(`required_le_iff`), and this is so for every signature that can be read (`accepts_slot_by_slot`).
-/

set_option autoImplicit false

namespace CommandConsole

/-! ## Kinds -/

/-- **What a slot is for**: a whole number, or anything but one. -/
def SlotKind.Fits : SlotKind → List Char → Prop
  | .integer, arg => ∃ n, Number.Denotes arg n
  | .text, arg => ¬∃ n, Number.Denotes arg n

theorem SlotKind.accepts_iff {kind : SlotKind} {arg : List Char} :
    kind.accepts arg = true ↔ kind.Fits arg := by
  cases kind with
  | integer => exact Number.isInteger_iff
  | text =>
      show (!Number.isInteger arg) = true ↔ ¬∃ n, Number.Denotes arg n
      rw [← Number.isInteger_iff, Bool.not_eq_true', Bool.not_eq_true]

namespace Signature

variable {s : Signature} {args front : List (List Char)}

/-! ## What is checked -/

/-- **What a signature means**, slot by slot. -/
structure Takes (s : Signature) (args : List (List Char)) : Prop where
  surplus : args.length ≤ s.length
  fits : ∀ (i : Nat) slot arg, s[i]? = some slot → args[i]? = some arg → slot.kind.Fits arg
  filled : ∀ (i : Nat) slot, s[i]? = some slot → args[i]? = none → slot.optional = true

/-- **Arguments fill what has to be filled** if and only if the slots behind them are optional. This
is where it matters that no slot that must be filled stands behind an optional one. -/
theorem required_le_iff (h : s.OptionalLast) (n : Nat) :
    s.required ≤ n ↔ ∀ (i : Nat) slot, s[i]? = some slot → n ≤ i → slot.optional = true := by
  induction s generalizing n with
  | nil => simp [required]
  | cons slot s ih =>
      obtain ⟨hslot, hs⟩ := List.pairwise_cons.mp h
      cases hopt : slot.optional with
      | true =>
          -- nothing has to be filled, and all slots are optional
          have hnone : required (slot :: s) = 0 := by simp [required, hopt]
          rw [hnone]
          refine ⟨fun _ i other hi _ => ?_, fun _ => Nat.zero_le n⟩
          rcases List.mem_cons.mp (List.mem_of_getElem? hi) with rfl | hmem
          · exact hopt
          · exact hslot other hmem hopt
      | false =>
          have hone : required (slot :: s) = required s + 1 := by simp [required, hopt]
          rw [hone]
          cases n with
          | zero =>
              refine ⟨fun hle => absurd hle (Nat.not_succ_le_zero _), fun hall => ?_⟩
              have hfirst := hall 0 slot rfl (Nat.le_refl 0)
              rw [hopt] at hfirst
              contradiction
          | succ n =>
              rw [Nat.succ_le_succ_iff, ih hs]
              constructor
              · intro hall i other hi hle
                cases i with
                | zero => exact absurd hle (Nat.not_succ_le_zero n)
                | succ i => exact hall i other hi (Nat.le_of_succ_le_succ hle)
              · intro hall i other hi hle
                exact hall (i + 1) other hi (Nat.succ_le_succ hle)

/-- The kinds are looked at slot by slot. -/
theorem all_zip_iff : (s.zip args).all (fun p => p.1.kind.accepts p.2) = true ↔
    ∀ (i : Nat) slot arg, s[i]? = some slot → args[i]? = some arg → slot.kind.Fits arg := by
  rw [List.all_eq_true]
  constructor
  · intro hall i slot arg hslot harg
    have hpair : (s.zip args)[i]? = some (slot, arg) :=
      List.getElem?_zip_eq_some.mpr ⟨hslot, harg⟩
    exact SlotKind.accepts_iff.mp (hall (slot, arg) (List.mem_of_getElem? hpair))
  · rintro hall ⟨slot, arg⟩ hmem
    obtain ⟨i, hi⟩ := List.mem_iff_getElem?.mp hmem
    obtain ⟨hslot, harg⟩ := List.getElem?_zip_eq_some.mp hi
    exact SlotKind.accepts_iff.mpr (hall i slot arg hslot harg)

/-- **Where the slots are in order, what is checked is what the signature means.** -/
theorem accepts_iff_takes (h : s.OptionalLast) (args : List (List Char)) :
    s.accepts args = true ↔ s.Takes args := by
  rw [accepts, Bool.and_eq_true, Bool.and_eq_true, decide_eq_true_iff, decide_eq_true_iff,
    required_le_iff h, all_zip_iff]
  constructor
  · rintro ⟨⟨hsurplus, hfilled⟩, hfits⟩
    exact ⟨hsurplus, hfits, fun i slot hslot hnone =>
      hfilled i slot hslot (List.getElem?_eq_none_iff.mp hnone)⟩
  · intro ht
    exact ⟨⟨ht.surplus, fun i slot hslot hle => ht.filled i slot hslot (List.getElem?_eq_none hle)⟩,
      ht.fits⟩

/-- A signature accepts as many arguments as it has to have and has slots for. -/
theorem length_of_accepts (h : s.accepts args = true) :
    s.required ≤ args.length ∧ args.length ≤ s.length := by
  simp only [accepts, Bool.and_eq_true, decide_eq_true_eq] at h
  exact ⟨h.1.2, h.1.1⟩

/-- An argument that is accepted is of the kind of its slot. -/
theorem fits_of_accepts (h : s.accepts args = true) {i : Nat} {slot : Slot} {arg : List Char}
    (hslot : s[i]? = some slot) (harg : args[i]? = some arg) : slot.kind.Fits arg := by
  rw [accepts, Bool.and_eq_true] at h
  exact all_zip_iff.mp h.2 i slot arg hslot harg

/-! ## One argument less -/

/-- **The last argument can be left out** if and only if its slot is optional. -/
theorem Takes.dropLast_iff {last : List Char} (h : s.Takes (front ++ [last])) :
    ∃ slot, s[front.length]? = some slot ∧ (s.Takes front ↔ slot.optional = true) := by
  have hroom : front.length < s.length := by
    have hsurplus := h.surplus
    rw [List.length_append, List.length_singleton] at hsurplus
    omega
  have hlast : s[front.length]? = some s[front.length] := List.getElem?_eq_getElem hroom
  refine ⟨s[front.length], hlast, fun hfront => ?_, fun hopt => ?_⟩
  · exact hfront.filled front.length _ hlast (List.getElem?_eq_none (Nat.le_refl _))
  · refine ⟨Nat.le_of_lt hroom, fun i slot arg hslot harg => ?_, fun i slot hslot hnone => ?_⟩
    · have hi : i < front.length := (List.getElem?_eq_some_iff.mp harg).1
      refine h.fits i slot arg hslot ?_
      rw [List.getElem?_append_left hi]
      exact harg
    · have hi : front.length ≤ i := List.getElem?_eq_none_iff.mp hnone
      by_cases heq : i = front.length
      · -- the slot of the argument that is left out
        subst heq
        obtain rfl := Option.some.inj (hlast.symm.trans hslot)
        exact hopt
      · refine h.filled i slot hslot (List.getElem?_eq_none ?_)
        rw [List.length_append, List.length_singleton]
        omega

/-- **A signature accepts arguments slot by slot.** For every signature that can be read and all
arguments: they are accepted if and only if there are no more of them than slots, each of them is of
the kind of its own slot, and the slots without one are optional. So where arguments are accepted,
those without the last one are accepted if and only if the slot of the last one is optional. -/
theorem accepts_slot_by_slot {text : String} (h : read text.toList = .ok s)
    (args : List (List Char)) :
    (s.accepts args = true ↔ s.Takes args) ∧
    ∀ front last, args = front ++ [last] → s.accepts args = true →
      ∃ slot, s[front.length]? = some slot ∧
        (s.accepts front = true ↔ slot.optional = true) := by
  have hlast : s.OptionalLast := (read_eq_ok_iff.mp h).1
  refine ⟨accepts_iff_takes hlast args, fun front last hargs haccepts => ?_⟩
  subst hargs
  rw [accepts_iff_takes hlast front]
  exact ((accepts_iff_takes hlast _).mp haccepts).dropLast_iff

/-- Two slots that must be filled and two optional ones, with three arguments. -/
theorem accepts_slot_by_slot_mixed :
    ∃ s, read "i s ?i?s".toList = .ok s ∧
      s.accepts ["-007".toList, "+".toList, "+5".toList] = true ∧
      s.Takes ["-007".toList, "+".toList, "+5".toList] ∧
      s.accepts ["-007".toList, "+".toList] = true ∧
      s.accepts ["-007".toList] = false := by
  have hread : read "i s ?i?s".toList =
      .ok [⟨.integer, false⟩, ⟨.text, false⟩, ⟨.integer, true⟩, ⟨.text, true⟩] := by decide
  obtain ⟨htakes, hdrop⟩ := accepts_slot_by_slot hread ["-007".toList, "+".toList, "+5".toList]
  have haccepts : accepts [⟨.integer, false⟩, ⟨.text, false⟩, ⟨.integer, true⟩, ⟨.text, true⟩]
      ["-007".toList, "+".toList, "+5".toList] = true := by decide
  obtain ⟨slot, hslot, hshorter⟩ := hdrop ["-007".toList, "+".toList] "+5".toList rfl haccepts
  obtain rfl := Option.some.inj hslot
  exact ⟨_, hread, haccepts, htakes.mp haccepts, hshorter.mpr rfl, by decide⟩

end Signature

end CommandConsole
