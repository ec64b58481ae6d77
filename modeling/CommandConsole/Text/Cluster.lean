import CommandConsole.Text.Category
import CommandConsole.Text.ClusterTable
import CommandConsole.Text.Composition

/-!
# Clusters

What a reader takes for one character can be several: a letter with marks, a syllable of Hangul, a
flag of two signs, pictures with joiners between them, or consonants that a mark links. Such a
**cluster** is found from the start of a text: `joins` says whether a character still belongs to
the cluster before it. The clusters of a text one after another are the text.
-/

set_option autoImplicit false

namespace CommandConsole.Text

/-- What a character does in a cluster. -/
inductive ClusterRole where
  | control
  | extending
  | joiner
  | spacing
  | prepended
  | leading
  | vowel
  | trailing
  | openSyllable
  | closedSyllable
  | flag
  | other
deriving DecidableEq, Repr

/-- The characters that end a cluster on both sides. -/
def clusterControls : List (Nat × Nat) := ranges ClusterTable.control

/-- The spacing marks that stand apart. -/
def apart : List (Nat × Nat) := ranges ClusterTable.apart

/-- The characters that belong to the one behind them. -/
def prepended : List (Nat × Nat) := ranges ClusterTable.prepended

/-- The pictures. -/
def pictures : List (Nat × Nat) := ranges ClusterTable.pictures

/-- The consonants that can be linked. -/
def consonants : List (Nat × Nat) := ranges ClusterTable.consonants

/-- The marks that link consonants. -/
def linkers : List (Nat × Nat) := ranges ClusterTable.linkers

/-- A spacing mark that belongs to the character before it, or one of the two vowel signs that
count as such. -/
def isSpacingInCluster (c : Char) : Bool :=
  (isSpacing c && !inRanges apart c) || c == '\u0E33' || c == '\u0EB3'

/-- The role of a letter of Hangul. -/
def hangulRole? (c : Char) : Option ClusterRole :=
  let n := c.toNat
  if (0x1100 ≤ n ∧ n ≤ 0x115F) ∨ (0xA960 ≤ n ∧ n ≤ 0xA97C) then some .leading
  else if (0x1160 ≤ n ∧ n ≤ 0x11A7) ∨ (0xD7B0 ≤ n ∧ n ≤ 0xD7C6) ∨ n = 0x16D63 ∨
      (0x16D67 ≤ n ∧ n ≤ 0x16D6A) then some .vowel
  else if (0x11A8 ≤ n ∧ n ≤ 0x11FF) ∨ (0xD7CB ≤ n ∧ n ≤ 0xD7FB) then some .trailing
  else (Hangul.place? c).map fun place =>
    if place % 28 = 0 then .openSyllable else .closedSyllable

/-- The role of a character. -/
def clusterRole (c : Char) : ClusterRole :=
  if isPlainAscii c then .other
  else if c = '\u200D' then .joiner
  else if inRanges clusterControls c then .control
  else if isExtending c || (0x1F3FB ≤ c.toNat && c.toNat ≤ 0x1F3FF) then .extending
  else if 0x1F1E6 ≤ c.toNat && c.toNat ≤ 0x1F1FF then .flag
  else if inRanges prepended c then .prepended
  else if isSpacingInCluster c then .spacing
  else (hangulRole? c).getD .other

/-- Whether two letters of Hangul belong to one syllable. -/
def joinHangul : ClusterRole → ClusterRole → Bool
  | .leading, b => [.leading, .vowel, .openSyllable, .closedSyllable].contains b
  | .openSyllable, b => b == .vowel || b == .trailing
  | .vowel, b => b == .vowel || b == .trailing
  | .closedSyllable, b => b == .trailing
  | .trailing, b => b == .trailing
  | _, _ => false

/-- Whether a picture with a joiner behind it ends the characters, which are given last one
first. -/
def endsInPicture (held : List Char) : Bool :=
  match held with
  | '\u200D' :: r =>
      match r.dropWhile fun c => clusterRole c == .extending with
      | c :: _ => inRanges pictures c
      | [] => false
  | _ => false

/-- Whether a consonant with a linker behind it ends the characters, which are given last one
first. -/
def endsInLinker (held : List Char) : Bool :=
  let isLinked (c : Char) : Bool :=
    (clusterRole c == .extending || clusterRole c == .joiner) && c != '\u200C'
  let (marks, r) := held.span isLinked
  marks.any (inRanges linkers) && r.head?.any (inRanges consonants)

/-- Whether an odd number of signs of flags ends the characters, which are given last one first. -/
def endsInHalfFlag (held : List Char) : Bool :=
  (held.takeWhile fun c => clusterRole c == .flag).length % 2 == 1

/-- Whether a character belongs to the cluster whose characters are given, last one first. -/
def joins (held : List Char) (c : Char) : Bool :=
  match held with
  | [] => true
  | p :: _ =>
      let a := clusterRole p
      let b := clusterRole c
      if a == .control || b == .control then p == '\r' && c == '\n'
      else b == .extending || b == .joiner || b == .spacing || a == .prepended || joinHangul a b ||
        (inRanges pictures c && endsInPicture held) ||
        (inRanges consonants c && endsInLinker held) || (b == .flag && endsInHalfFlag held)

/-- The clusters of a text behind the characters of one that has begun, last one first. -/
def clustersFrom : (held : List Char) → List Char → List (List Char)
  | [], [] => []
  | held, [] => [held.reverse]
  | held, c :: r =>
      if joins held c then clustersFrom (c :: held) r else held.reverse :: clustersFrom [c] r

/-- **The clusters of a text.** -/
def clusters (cs : List Char) : List (List Char) := clustersFrom [] cs

end CommandConsole.Text
