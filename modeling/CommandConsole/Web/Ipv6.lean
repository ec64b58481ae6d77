import CommandConsole.Number.Radix

/-!
# Numeric hosts of eight pieces

Eight numbers of 16 bits in hexadecimal digits, with colons between them. Two colons in a row stand
for a run of zeros, and the last two pieces can be written as four bytes.
-/

set_option autoImplicit false

namespace CommandConsole.Web.Ipv6

/-- The value of hexadecimal digits. -/
def hexNumber (cs : List Char) : Nat := (Number.natural? 16 cs).getD 0

/-- A byte in decimal digits, without a zero in front. -/
def byte? (cs : List Char) : Option Nat :=
  let n := cs.foldl (fun n c => 10 * n + (c.toNat - '0'.toNat)) 0
  if cs.isEmpty || !cs.all Char.isDigit || (1 < cs.length && cs.head? == some '0') || 255 < n then
    none
  else some n

/-- The two pieces that four bytes give. -/
def bytes? (cs : List Char) : Option (List Nat) :=
  match (cs.splitOn '.').mapM byte? with
  | some [a, b, c, d] => some [256 * a + b, 256 * c + d]
  | _ => none

/-- Reads the pieces on, in at most so many turns. The place of the run of zeros is behind the one
zero that it stands for at least. -/
def piecesFrom :
    (turns : Nat) → (held : List Nat) → (gap : Option Nat) → List Char →
      Option (List Nat × Option Nat)
  | _, held, gap, [] => some (held, gap)
  | 0, _, _, _ => none
  | n + 1, held, gap, cs =>
      if 8 ≤ held.length then none
      else match cs with
        | ':' :: r =>
            if gap.isSome then none else piecesFrom n (held ++ [0]) (some (held.length + 1)) r
        | cs =>
            let ds := (cs.take 4).takeWhile fun c => (Number.digitIn? 16 c).isSome
            match cs.drop ds.length with
            | [] => some (held ++ [hexNumber ds], gap)
            | [':'] => none
            | ':' :: r => piecesFrom n (held ++ [hexNumber ds]) gap r
            | '.' :: _ =>
                if ds.isEmpty || 6 < held.length then none
                else (bytes? cs).map fun ps => (held ++ ps, gap)
            | _ => none

/-- **The pieces of a host**, without its brackets. -/
def read? (cs : List Char) : Option (List Nat) := do
  let (held, gap) ← match cs with
    | ':' :: ':' :: r => piecesFrom 9 [0] (some 1) r
    | ':' :: _ => none
    | [] => none
    | [_] => none
    | cs => piecesFrom 9 [] none cs
  match gap with
  | none => if held.length = 8 then some held else none
  | some g => some (held.take g ++ List.replicate (8 - held.length) 0 ++ held.drop g)

/-- The length of the run of zeros at the start of pieces. -/
def zeros (ps : List Nat) : Nat := (ps.takeWhile (· == 0)).length

/-- The first of the longest runs of zeros: its start and its length. -/
def longestRun (ps : List Nat) : Nat × Nat :=
  (List.range ps.length).foldl
    (fun best i =>
      let n := zeros (ps.drop i)
      if best.2 < n then (i, n) else best) (0, 0)

/-- Pieces in hexadecimal digits, with colons between them. -/
def row (ps : List Nat) : List Char := [':'].intercalate (ps.map (Nat.toDigits 16))

/-- The pieces as text. The longest run of two zeros or more becomes two colons. -/
def text (ps : List Nat) : List Char :=
  let (start, count) := longestRun ps
  if count < 2 then row ps else row (ps.take start) ++ ':' :: ':' :: row (ps.drop (start + count))

end CommandConsole.Web.Ipv6
