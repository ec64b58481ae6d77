import CommandConsole.Text.CaseTable
import CommandConsole.Text.Rows

/-!
# Letter case

`toUpper` and `toLower` map a whole text by the Unicode mappings: one letter can become several
(`ß` becomes `SS`), and the capital sigma becomes `ς` at the end of a word and `σ` elsewhere. It
ends a word when a cased letter stands before it and none behind it, the ignorable characters
between them passed over. `sameIgnoringCase` compares texts up to the case of ASCII letters only.
-/

set_option autoImplicit false

namespace CommandConsole.Text

/-- The image of a character under a case mapping: rows of single letters and of wide ones. -/
def mapped (rows : List CaseTable.Shift) (wide : List (Nat × List Nat)) (c : Char) : List Char :=
  match wide.find? fun r => r.1 == c.toNat with
  | some r => r.2.map Char.ofNat
  | none =>
      match rows.find? fun r => r.covers c.toNat with
      | some r => [Char.ofNat (c.toNat + r.shift).toNat]
      | none => [c]

/-- The capital form of a character. -/
def upperOf (c : Char) : List Char := mapped CaseTable.upper CaseTable.upperWide c

/-- The small form of a character that stands alone. -/
def lowerOf (c : Char) : List Char := mapped CaseTable.lower CaseTable.lowerWide c

/-- A text in capital letters. -/
def toUpper (cs : List Char) : List Char := cs.flatMap upperOf

/-- Whether the nearest character that is not ignorable has case. -/
def facesCased : List Char → Bool
  | [] => false
  | c :: r => if inRanges CaseTable.ignorable c then facesCased r else inRanges CaseTable.cased c

/-- A text in small letters; `before` is what has been read, last character first. -/
def lowerAfter : (before : List Char) → List Char → List Char
  | _, [] => []
  | before, c :: r =>
      (if c = 'Σ' then [if facesCased before && !facesCased r then 'ς' else 'σ'] else lowerOf c) ++
        lowerAfter (c :: before) r

/-- A text in small letters. -/
def toLower (cs : List Char) : List Char := lowerAfter [] cs

/-- An ASCII capital as the small letter. -/
def foldAscii (c : Char) : Char :=
  if 'A' ≤ c ∧ c ≤ 'Z' then Char.ofNat (c.toNat + 32) else c

/-- Whether two texts are equal up to the case of ASCII letters. -/
def sameIgnoringCase (a b : List Char) : Bool := a.map foldAscii == b.map foldAscii

end CommandConsole.Text
