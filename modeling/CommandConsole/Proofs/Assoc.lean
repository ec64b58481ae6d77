import CommandConsole.Assoc
import Mathlib.Data.String.Basic
import Mathlib.Order.RelClasses

/-!
# Laws of the sorted maps

What the operations on sorted association lists do to the value under a key, to the entries and to
their order. `insert` puts a key in its place, so a map that is built with it is sorted
(`sorted_ofList`), and a sorted list of pairs is the map of its own pairs (`ofList_of_sorted`). A
key that is taken out of it is erased (`take_eq`).
-/

set_option autoImplicit false

namespace CommandConsole.Assoc

variable {κ α : Type} {k : κ} {a : α} {m : List (κ × α)}

/-! ## Order -/

section

variable [LT κ]

instance [DecidableLT κ] : Decidable (Sorted m) :=
  inferInstanceAs (Decidable ((keys m).Pairwise (· < ·)))

theorem sorted_nil : Sorted ([] : List (κ × α)) := List.Pairwise.nil

theorem sorted_cons {e : κ × α} : Sorted (e :: m) ↔ (∀ f ∈ m, e.1 < f.1) ∧ Sorted m := by
  simp [Sorted, keys, List.pairwise_cons]

/-- Some of the entries of a sorted map are sorted. -/
theorem Sorted.filter (h : Sorted m) (p : κ × α → Bool) : Sorted (m.filter p) :=
  h.sublist (List.filter_sublist.map Prod.fst)

end

/-! ## The value under a key -/

variable [DecidableEq κ]

theorem find?_append (m r : List (κ × α)) : find? k (m ++ r) = (find? k m).or (find? k r) := by
  induction m with
  | nil => rfl
  | cons e m ih =>
      obtain ⟨j, b⟩ := e
      by_cases hj : j = k
      · simp [find?, hj]
      · simpa [find?, hj] using ih

theorem mem_of_find?_eq_some (h : find? k m = some a) : (k, a) ∈ m := by
  induction m with
  | nil => contradiction
  | cons e m ih =>
      obtain ⟨j, b⟩ := e
      by_cases hj : j = k
      · obtain rfl : b = a := by simpa [find?, hj] using h
        exact hj ▸ List.mem_cons_self
      · exact List.mem_cons_of_mem _ (ih (by simpa [find?, hj] using h))

/-- A key has no value when it is none of the keys. -/
theorem find?_eq_none_iff : find? k m = none ↔ k ∉ keys m := by
  induction m with
  | nil => simp [find?, keys]
  | cons e m ih =>
      obtain ⟨j, b⟩ := e
      by_cases hj : j = k
      · simp [find?, keys, hj]
      · have hk : k ≠ j := fun heq => hj heq.symm
        simpa [find?, keys, hj, hk] using ih

theorem exists_find?_of_mem_keys (h : k ∈ keys m) : ∃ a, find? k m = some a := by
  cases hfind : find? k m with
  | some a => exact ⟨a, rfl⟩
  | none => exact absurd h (find?_eq_none_iff.mp hfind)

theorem not_mem_keys_erase (k : κ) (m : List (κ × α)) : k ∉ keys (erase k m) := by
  simp [keys, erase]

/-- The value under a key when the entries are chosen by their keys. -/
theorem find?_filter (p : κ → Bool) (k : κ) (m : List (κ × α)) :
    find? k (m.filter fun e => p e.1) = if p k then find? k m else none := by
  induction m with
  | nil => simp [find?]
  | cons e m ih =>
      obtain ⟨j, b⟩ := e
      by_cases hj : j = k
      · subst hj
        by_cases hp : p j = true
        · simp [find?, hp]
        · simpa [hp] using ih
      · by_cases hp : p j = true
        · simpa [find?, hp, hj] using ih
        · simpa [find?, hp, hj] using ih

/-- The value under another key stays when a key is taken away. -/
theorem find?_erase (k j : κ) (m : List (κ × α)) :
    find? k (erase j m) = if k = j then none else find? k m := by
  rw [erase, find?_filter (fun i => decide (i ≠ j))]
  by_cases hk : k = j
  · simp [hk]
  · simp [hk]

omit [DecidableEq κ] in
theorem keys_map {f : κ × α → κ × α} (hf : ∀ e, (f e).1 = e.1) (m : List (κ × α)) :
    keys (m.map f) = keys m := by
  rw [keys, List.map_map]
  exact List.map_congr_left fun e _ => hf e

/-- The value under a key when entries are changed that keep their keys. -/
theorem find?_map {f : κ × α → κ × α} (hf : ∀ e, (f e).1 = e.1) (k : κ) (m : List (κ × α)) :
    find? k (m.map f) = (find? k m).map fun a => (f (k, a)).2 := by
  induction m with
  | nil => rfl
  | cons e m ih =>
      obtain ⟨j, a⟩ := e
      have hj : f (j, a) = (j, (f (j, a)).2) := Prod.ext (hf (j, a)) rfl
      rw [List.map_cons, hj, find?, find?]
      split
      · next heq => simp [heq]
      · exact ih

variable [LT κ] [DecidableLT κ]

/-- What was put under a key is found there. -/
theorem find?_insert_self (k : κ) (a : α) (m : List (κ × α)) : find? k (insert k a m) = some a := by
  induction m with
  | nil => simp [insert, find?]
  | cons e r ih =>
      obtain ⟨j, b⟩ := e
      by_cases hj : j = k
      · simp [insert, find?, hj]
      · by_cases hlt : k < j
        · simp [insert, find?, hj, hlt]
        · simp [insert, find?, hj, hlt, ih]

/-- The value under another key stays. -/
theorem find?_insert_of_ne {j : κ} (h : j ≠ k) (a : α) (m : List (κ × α)) :
    find? j (insert k a m) = find? j m := by
  have hk : k ≠ j := fun heq => h heq.symm
  induction m with
  | nil => simp [insert, find?, hk]
  | cons e r ih =>
      obtain ⟨i, b⟩ := e
      simp only [insert]
      split
      · next hi => simp [find?, hk, hi]
      · split
        · simp [find?, hk]
        · simp [find?, ih]

/-- Of two values put under a key, the later one stands. -/
theorem insert_insert_self (k : κ) (a b : α) (m : List (κ × α)) :
    insert k a (insert k b m) = insert k a m := by
  induction m with
  | nil => simp [insert]
  | cons e r ih =>
      obtain ⟨j, c⟩ := e
      by_cases hj : j = k
      · simp [insert, hj]
      · by_cases hlt : k < j
        · simp [insert, hj, hlt]
        · simp [insert, hj, hlt, ih]

theorem mem_of_mem_insert {e : κ × α} (h : e ∈ insert k a m) : e = (k, a) ∨ e ∈ m := by
  induction m with
  | nil => exact .inl (List.mem_singleton.mp h)
  | cons f r ih =>
      obtain ⟨j, b⟩ := f
      simp only [insert] at h
      split at h
      · rcases List.mem_cons.mp h with h | h
        · exact .inl h
        · exact .inr (List.mem_cons_of_mem _ h)
      · split at h
        · exact List.mem_cons.mp h
        · rcases List.mem_cons.mp h with h | h
          · exact .inr (h ▸ List.mem_cons_self)
          · exact (ih h).imp_right (List.mem_cons_of_mem _)

theorem mem_keys_insert {j : κ} : j ∈ keys (insert k a m) ↔ j = k ∨ j ∈ keys m := by
  constructor
  · intro h
    obtain ⟨e, he, rfl⟩ := List.mem_map.mp h
    rcases mem_of_mem_insert he with rfl | he
    · exact .inl rfl
    · exact .inr (List.mem_map_of_mem he)
  · intro h
    by_contra hnot
    rw [← find?_eq_none_iff] at hnot
    by_cases hj : j = k
    · rw [hj, find?_insert_self] at hnot
      contradiction
    · rw [find?_insert_of_ne hj] at hnot
      exact find?_eq_none_iff.mp hnot (h.resolve_left hj)

/-! ## Maps with entries put on top -/

/-- The value under a key that is not on top stays. -/
theorem find?_union_of_not_mem {top : List (κ × α)} (h : k ∉ keys top) :
    find? k (union m top) = find? k m := by
  induction top generalizing m with
  | nil => rfl
  | cons e top ih =>
      have hne : k ≠ e.1 := fun heq => h (heq ▸ List.mem_map_of_mem List.mem_cons_self)
      have htop : k ∉ keys top := fun hmem => h (List.mem_cons_of_mem _ hmem)
      calc find? k (union m (e :: top))
          = find? k (union (insert e.1 e.2 m) top) := rfl
        _ = find? k (insert e.1 e.2 m) := ih htop
        _ = find? k m := find?_insert_of_ne hne ..

theorem mem_keys_union {top : List (κ × α)} :
    k ∈ keys (union m top) ↔ k ∈ keys m ∨ k ∈ keys top := by
  induction top generalizing m with
  | nil => simp [union, keys]
  | cons e top ih =>
      have hcons : union m (e :: top) = union (insert e.1 e.2 m) top := rfl
      have hkeys : k ∈ keys (e :: top) ↔ k = e.1 ∨ k ∈ keys top := List.mem_cons
      rw [hcons, ih, mem_keys_insert, hkeys, or_assoc, or_left_comm]

theorem mem_keys_ofList {pairs : List (κ × α)} : k ∈ keys (ofList pairs) ↔ k ∈ keys pairs := by
  have hnil : k ∉ keys ([] : List (κ × α)) := List.not_mem_nil
  calc k ∈ keys (ofList pairs)
      ↔ k ∈ keys ([] : List (κ × α)) ∨ k ∈ keys pairs := mem_keys_union
    _ ↔ k ∈ keys pairs := or_iff_right hnil

/-- The value under a key behind entries whose values depend on their keys alone. -/
theorem find?_union_map (f : κ → α) (ks : List κ) :
    find? k (union m (ks.map fun j => (j, f j))) = if k ∈ ks then some (f k) else find? k m := by
  induction ks generalizing m with
  | nil => rfl
  | cons j ks ih =>
      have hcons : union m ((j :: ks).map fun j => (j, f j)) =
          union (insert j (f j) m) (ks.map fun j => (j, f j)) := rfl
      rw [hcons, ih]
      by_cases hk : k = j
      · subst hk
        simp [find?_insert_self]
      · simp [hk, find?_insert_of_ne hk]

/-! ## Maps that are built with `insert` -/

variable [IsStrictTotalOrder κ (· < ·)]

theorem sorted_insert (h : Sorted m) (k : κ) (a : α) : Sorted (insert k a m) := by
  induction m with
  | nil => simp [insert, Sorted, keys]
  | cons e r ih =>
      obtain ⟨j, b⟩ := e
      obtain ⟨hlt, hr⟩ := sorted_cons.mp h
      simp only [insert]
      split
      · next hj => exact sorted_cons.mpr ⟨hj ▸ hlt, hr⟩
      · next hj =>
          split
          · next hkj =>
              refine sorted_cons.mpr ⟨fun f hf => ?_, h⟩
              rcases List.mem_cons.mp hf with rfl | hf
              · exact hkj
              · exact trans_of (· < ·) hkj (hlt f hf)
          · next hkj =>
              have hjk : j < k := (trichotomous_of (· < ·) j k).resolve_right (by simp [hj, hkj])
              refine sorted_cons.mpr ⟨fun f hf => ?_, ih hr⟩
              rcases mem_of_mem_insert hf with rfl | hf
              · exact hjk
              · exact hlt f hf

theorem sorted_union (h : Sorted m) (top : List (κ × α)) : Sorted (union m top) := by
  induction top generalizing m with
  | nil => exact h
  | cons e top ih => exact ih (sorted_insert h e.1 e.2)

theorem sorted_ofList (pairs : List (κ × α)) : Sorted (ofList pairs) :=
  sorted_union sorted_nil pairs

/-- The value under a key of a map on top, or else of the map below. -/
theorem find?_union {top : List (κ × α)} (h : Sorted top) :
    find? k (union m top) = (find? k top).or (find? k m) := by
  induction top generalizing m with
  | nil => rfl
  | cons e top ih =>
      obtain ⟨j, b⟩ := e
      obtain ⟨hlt, htop⟩ := sorted_cons.mp h
      have hcons : union m ((j, b) :: top) = union (insert j b m) top := rfl
      rw [hcons, ih htop]
      by_cases hj : j = k
      · subst hj
        -- the keys behind the first one are greater
        have hnone : find? j top = none := by
          rw [find?_eq_none_iff]
          intro hmem
          obtain ⟨f, hf, rfl⟩ := List.mem_map.mp hmem
          exact irrefl_of (· < ·) f.1 (hlt f hf)
        simp [hnone, find?, find?_insert_self]
      · have hne : k ≠ j := fun heq => hj heq.symm
        simp [find?, hj, find?_insert_of_ne hne]

/-- A key behind all others goes to the end. -/
theorem insert_eq_append (h : ∀ e ∈ m, e.1 < k) (a : α) : insert k a m = m ++ [(k, a)] := by
  induction m with
  | nil => rfl
  | cons e r ih =>
      obtain ⟨j, b⟩ := e
      have hjk : j < k := h (j, b) List.mem_cons_self
      have hne : j ≠ k := fun heq => irrefl_of (· < ·) k (heq ▸ hjk)
      have hnlt : ¬ k < j := asymm_of (· < ·) hjk
      rw [insert, if_neg hne, if_neg hnlt, ih fun f hf => h f (List.mem_cons_of_mem _ hf),
        List.cons_append]

theorem union_of_sorted {top : List (κ × α)} (h : Sorted (m ++ top)) : union m top = m ++ top := by
  induction top generalizing m with
  | nil => simp [union]
  | cons e top ih =>
      have hbelow : ∀ f ∈ m, f.1 < e.1 := by
        intro f hf
        rw [Sorted, keys, List.map_append, List.pairwise_append] at h
        exact h.2.2 f.1 (List.mem_map_of_mem hf) e.1 (List.mem_map_of_mem List.mem_cons_self)
      have hinsert := insert_eq_append hbelow e.2
      have hsorted : Sorted (insert e.1 e.2 m ++ top) := by simpa [hinsert] using h
      calc union m (e :: top)
          = union (insert e.1 e.2 m) top := rfl
        _ = insert e.1 e.2 m ++ top := ih hsorted
        _ = m ++ e :: top := by simp [hinsert]

/-- A sorted list of pairs is the map of its pairs. -/
theorem ofList_of_sorted (h : Sorted m) : ofList m = m := union_of_sorted (m := []) h

omit [DecidableLT κ] in
/-- In a sorted map each entry is found under its key. -/
theorem find?_eq_some_iff_mem (h : Sorted m) : find? k m = some a ↔ (k, a) ∈ m := by
  induction m with
  | nil => simp [find?]
  | cons e r ih =>
      obtain ⟨j, b⟩ := e
      obtain ⟨hlt, hr⟩ := sorted_cons.mp h
      by_cases hj : j = k
      · subst hj
        have hfresh : (j, a) ∉ r := fun hmem => irrefl_of (· < ·) j (hlt _ hmem)
        simp [find?, hfresh, eq_comm]
      · have hj' : k ≠ j := fun heq => hj heq.symm
        simp [find?, hj, hj', ih hr]

omit [DecidableLT κ] in
/-- Two sorted maps with the same value under every key are the same. -/
theorem Sorted.ext {r : List (κ × α)} (h : Sorted m) (h' : Sorted r)
    (hfind : ∀ k, find? k m = find? k r) : m = r := by
  have hbelow {m : List (κ × α)} (h : Sorted m) : m.Pairwise fun e f => e.1 < f.1 :=
    List.pairwise_map.mp h
  have hnodup {m : List (κ × α)} (h : Sorted m) : m.Nodup := by
    refine (hbelow h).imp ?_
    rintro e f hlt rfl
    exact irrefl_of (· < ·) e.1 hlt
  have hmem (e : κ × α) : e ∈ m ↔ e ∈ r := by
    rw [← find?_eq_some_iff_mem h, ← find?_eq_some_iff_mem h', hfind]
  refine List.Perm.eq_of_pairwise (fun e f _ _ hlt hgt => ?_) (hbelow h) (hbelow h')
    ((List.perm_ext_iff_of_nodup (hnodup h) (hnodup h')).mpr hmem)
  exact absurd hgt (asymm_of (· < ·) hlt)

/-! ## Entries put on top again -/

theorem insert_comm_of_lt {j : κ} (h : j < k) (a b : α) (m : List (κ × α)) :
    insert j a (insert k b m) = insert k b (insert j a m) := by
  have hne : j ≠ k := fun heq => irrefl_of (· < ·) k (heq ▸ h)
  have hnlt : ¬ k < j := asymm_of (· < ·) h
  induction m with
  | nil => simp [insert, hne, hne.symm, h, hnlt]
  | cons e r ih =>
      obtain ⟨i, c⟩ := e
      by_cases hij : i = j
      · subst hij
        simp [insert, hne, hnlt]
      by_cases hji : j < i
      · -- the smaller key goes to the front, wherever the greater one has gone
        have hfront : insert j a (insert k b ((i, c) :: r)) =
            (j, a) :: insert k b ((i, c) :: r) := by
          simp only [insert]
          split
          · simp [insert, hne.symm, h]
          · split
            · simp [insert, hne.symm, h]
            · simp [insert, hij, hji]
        rw [hfront]
        simp [insert, hij, hji, hne, hnlt]
      · have hlt : i < j := (trichotomous_of (· < ·) i j).resolve_right (by simp [hij, hji])
        have hik : i < k := trans_of (· < ·) hlt h
        have hik' : i ≠ k := fun heq => irrefl_of (· < ·) k (heq ▸ hik)
        have hki : ¬ k < i := asymm_of (· < ·) hik
        simp [insert, hij, hji, hik', hki, ih]

/-- Values under different keys can be put in in any order. -/
theorem insert_comm {j : κ} (h : j ≠ k) (a b : α) (m : List (κ × α)) :
    insert j a (insert k b m) = insert k b (insert j a m) := by
  rcases trichotomous_of (· < ·) j k with hlt | heq | hlt
  · exact insert_comm_of_lt hlt a b m
  · exact absurd heq h
  · exact (insert_comm_of_lt hlt b a m).symm

/-- What is put under a key in front of entries that are put on top either stays under it or is
covered. -/
theorem union_insert (k : κ) (a : α) (m top : List (κ × α)) :
    union (insert k a m) top = if k ∈ keys top then union m top else insert k a (union m top) := by
  induction top generalizing m with
  | nil => simp [union, keys]
  | cons e top ih =>
      obtain ⟨j, b⟩ := e
      have hcons (m : List (κ × α)) : union m ((j, b) :: top) = union (insert j b m) top := rfl
      by_cases hj : k = j
      · subst hj
        simp [hcons, insert_insert_self, keys]
      · have hmem : k ∈ keys ((j, b) :: top) ↔ k ∈ keys top := by simp [keys, hj]
        rw [hcons, hcons, insert_comm (Ne.symm hj), ih, if_congr hmem rfl rfl]

/-- Entries that are put on top twice are there once. -/
theorem union_union_self (m top : List (κ × α)) : union (union m top) top = union m top := by
  induction top generalizing m with
  | nil => rfl
  | cons e top ih =>
      have hcons (m : List (κ × α)) : union m (e :: top) = union (insert e.1 e.2 m) top := rfl
      rw [hcons, hcons, union_insert, ih]
      split
      · rfl
      · next htop => rw [union_insert, if_neg htop, insert_insert_self]

/-- What is there under a key already changes nothing when it is put there. -/
theorem insert_of_find? (hm : Sorted m) (h : find? k m = some a) : insert k a m = m := by
  refine (sorted_insert hm k a).ext hm fun j => ?_
  by_cases hj : j = k
  · rw [hj, find?_insert_self, h]
  · exact find?_insert_of_ne hj a m

/-! ## Keys that are taken out -/

omit [LT κ] [DecidableLT κ] [IsStrictTotalOrder κ (· < ·)] in
theorem erase_of_find?_eq_none (h : find? k m = none) : erase k m = m := by
  refine List.filter_eq_self.mpr fun e he => ?_
  have hne : e.1 ≠ k := by
    rintro rfl
    exact find?_eq_none_iff.mp h (List.mem_map_of_mem he)
  simpa using hne

omit [DecidableLT κ] in
/-- **To take out a key is to look it up and to erase it**, as no sorted map has it twice. -/
theorem take_eq (hm : Sorted m) (k : κ) : take k m = (find? k m, erase k m) := by
  induction m with
  | nil => rfl
  | cons e m ih =>
      obtain ⟨j, a⟩ := e
      obtain ⟨hj, hm⟩ := List.pairwise_cons.mp hm
      by_cases hkey : j = k
      · subst hkey
        have hrest : find? j m = none :=
          find?_eq_none_iff.mpr fun hmem => irrefl_of (· < ·) j (hj j hmem)
        have herase : erase j ((j, a) :: m) = m := by
          rw [erase, List.filter_cons_of_neg (by simp), ← erase, erase_of_find?_eq_none hrest]
        simp [take, find?, herase]
      · have herase : erase k ((j, a) :: m) = (j, a) :: erase k m :=
          List.filter_cons_of_pos (by simpa using hkey)
        simp [take, find?, hkey, ih hm, herase]

end CommandConsole.Assoc
