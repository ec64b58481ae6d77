/-!
# Sorted association lists

The finite maps of the console: a list of pairs whose keys increase. A map is built with
`insert` and `erase` alone, which keep it sorted, so that a list of its pairs is at once the
listing by key. The key that is looked for decides: of two entries that were inserted under one
key, the later one stands.
-/

set_option autoImplicit false

namespace CommandConsole.Assoc

variable {κ α : Type} [DecidableEq κ]

/-- The value under a key. -/
def find? (k : κ) : List (κ × α) → Option α
  | [] => none
  | (j, a) :: r => if j = k then some a else find? k r

/-- The map without a key. -/
def erase (k : κ) (m : List (κ × α)) : List (κ × α) := m.filter fun e => e.1 ≠ k

/-- A key taken out of a map: the value that is found under it, and the rest. The walk stops at the
first entry with this key. -/
def take (k : κ) : List (κ × α) → Option α × List (κ × α)
  | [] => (none, [])
  | (j, a) :: r => if j = k then (some a, r) else ((take k r).1, (j, a) :: (take k r).2)

/-- The keys, in order. -/
def keys {κ α : Type} (m : List (κ × α)) : List κ := m.map Prod.fst

/-- The values, in the order of their keys. -/
def values {κ α : Type} (m : List (κ × α)) : List α := m.map Prod.snd

variable [LT κ] [DecidableLT κ]

/-- The map with a value put under a key. -/
def insert (k : κ) (a : α) : List (κ × α) → List (κ × α)
  | [] => [(k, a)]
  | (j, b) :: r =>
      if j = k then (k, a) :: r
      else if k < j then (k, a) :: (j, b) :: r
      else (j, b) :: insert k a r

/-- The map of a list of pairs; of two pairs with one key the later one counts. -/
def ofList (pairs : List (κ × α)) : List (κ × α) :=
  pairs.foldl (fun m e => insert e.1 e.2 m) []

/-- A map with the entries of another put on top. -/
def union (m top : List (κ × α)) : List (κ × α) :=
  top.foldl (fun m e => insert e.1 e.2 m) m

/-- The keys increase strictly. -/
def Sorted (m : List (κ × α)) : Prop := (keys m).Pairwise (· < ·)

end CommandConsole.Assoc
