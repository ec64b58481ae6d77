import CommandConsole.Proofs.Line.Groups

/-!
# The blocks of a line

The words of a line fall into blocks: words that stand for themselves, closed groups, and perhaps
words at the end whose first opens a group that none of them closes. `Fits` is this grammar. It
looks at a whole block at a time, while the scan goes word by word with the open group in hand.

`existsUnique_blocks` says that all words fall into blocks in exactly one way, and `scan_blocks`
that the scan turns each block into its tokens. Nothing is lost on the way: a closed group is its
token between its quotes (`IsGroup.join_eq`), so the tokens with those quotes put back are the words
again (`join_requoted`). `tokenize_follows_grammar` puts this together.
-/

set_option autoImplicit false

namespace CommandConsole.Line

open Text

/-! ## Blocks -/

/-- Words of a line that belong together: a word without a quote in front, a closed group with its
quote, or the words from a quote on that nothing closes. -/
inductive Block where
  | plain (word : List Char)
  | group (quote : Char) (group : List (List Char))
  | tail (rest : List (List Char))
deriving DecidableEq, Repr

namespace Block

/-- The words of a block. -/
def words : Block → List (List Char)
  | plain w => [w]
  | group _ g => g
  | tail ws => ws

/-- The tokens that a block comes to. -/
def tokens : Block → List (List Char)
  | plain w => [w]
  | group _ g => [groupText g]
  | tail ws => ws

/-- The tokens of a block, a group between its quotes again. -/
def requoted : Block → List (List Char)
  | plain w => [w]
  | group q g => [q :: groupText g ++ [q]]
  | tail ws => ws

end Block

/-- Words whose first opens a group that none of them closes. -/
inductive IsTail : List (List Char) → Prop where
  | intro {q : Char} {w : List Char} {ws : List (List Char)} :
      openingQuote w = some q → closesItself q w = false →
      (∀ v ∈ ws, endsWith q v = false) → IsTail (w :: ws)

/-- **The grammar of lines**: plain words and closed groups in any order, and at most one tail, as
the last block. -/
inductive Fits : List Block → Prop where
  | nil : Fits []
  | plain {w : List Char} {bs : List Block} :
      openingQuote w = none → Fits bs → Fits (.plain w :: bs)
  | group {q : Char} {g : List (List Char)} {bs : List Block} :
      IsGroup q g → Fits bs → Fits (.group q g :: bs)
  | tail {ws : List (List Char)} : IsTail ws → Fits [.tail ws]

variable {q q' : Char} {w : List Char} {g g' r r' ws : List (List Char)} {bs : List Block}

/-! ## Where the first block ends -/

theorem IsGroup.exists_cons (h : IsGroup q g) :
    ∃ w ws, g = w :: ws ∧ openingQuote w = some q := by
  cases h with
  | short hopen _ => exact ⟨_, [], rfl, hopen⟩
  | long hopen _ _ _ => exact ⟨_, _, rfl, hopen⟩

/-- The first word that ends with a quote is the only place to cut there. -/
theorem append_cons_inj_of_endsWith {last last' : List Char} {inner inner' : List (List Char)}
    (hinner : ∀ v ∈ inner, endsWith q v = false) (hlast : endsWith q last = true)
    (hinner' : ∀ v ∈ inner', endsWith q v = false) (hlast' : endsWith q last' = true)
    (heq : inner ++ last :: r = inner' ++ last' :: r') :
    inner = inner' ∧ last = last' ∧ r = r' := by
  induction inner generalizing inner' with
  | nil =>
      cases inner' with
      | nil =>
          obtain ⟨rfl, rfl⟩ := List.cons.inj heq
          exact ⟨rfl, rfl, rfl⟩
      | cons v inner' =>
          obtain ⟨rfl, -⟩ := List.cons.inj heq
          have hv := hinner' last (by simp)
          rw [hlast] at hv
          contradiction
  | cons u inner ih =>
      have hu := hinner u (by simp)
      cases inner' with
      | nil =>
          obtain ⟨rfl, -⟩ := List.cons.inj heq
          rw [hlast'] at hu
          contradiction
      | cons v inner' =>
          obtain ⟨rfl, hrest⟩ := List.cons.inj heq
          obtain ⟨rfl, rfl, rfl⟩ := ih (fun x hx => hinner x (List.mem_cons_of_mem _ hx))
            (fun x hx => hinner' x (List.mem_cons_of_mem _ hx)) hrest
          exact ⟨rfl, rfl, rfl⟩

/-- **Of two closed groups at the start of the same words, one is the other.** -/
theorem IsGroup.cut_unique (h : IsGroup q g) (h' : IsGroup q' g') (heq : g ++ r = g' ++ r') :
    q = q' ∧ g = g' ∧ r = r' := by
  obtain ⟨w, ws, hg, hopen⟩ := h.exists_cons
  obtain ⟨w', ws', hg', hopen'⟩ := h'.exists_cons
  -- both start with the same word, so with the same quote
  have hword : w = w' := by
    rw [hg, hg'] at heq
    exact (List.cons.inj heq).1
  subst hword
  obtain rfl : q = q' := Option.some.inj (hopen.symm.trans hopen')
  cases h with
  | short hw hcloses =>
      cases h' with
      | short hw' hcloses' =>
          obtain ⟨rfl, rfl⟩ := List.cons.inj heq
          exact ⟨rfl, rfl, rfl⟩
      | long hw' hheld hinner hlast =>
          obtain ⟨rfl, -⟩ := List.cons.inj heq
          rw [hcloses] at hheld
          contradiction
  | long hw hheld hinner hlast =>
      cases h' with
      | short hw' hcloses' =>
          obtain ⟨rfl, -⟩ := List.cons.inj heq
          rw [hcloses'] at hheld
          contradiction
      | long hw' hheld' hinner' hlast' =>
          simp only [List.cons_append, List.append_assoc, List.nil_append] at heq
          obtain ⟨rfl, hrest⟩ := List.cons.inj heq
          obtain ⟨rfl, rfl, rfl⟩ := append_cons_inj_of_endsWith hinner hlast hinner' hlast' hrest
          exact ⟨rfl, rfl, rfl⟩

/-- No closed group stands at the start of a tail. -/
theorem IsTail.ne_group_append (h : IsTail ws) (hg : IsGroup q g) : ws ≠ g ++ r := by
  rintro rfl
  generalize hws : g ++ r = ws at h
  obtain ⟨hopen, hheld, hrest⟩ := h
  cases hg with
  | short hopen' hcloses =>
      obtain ⟨rfl, -⟩ := List.cons.inj hws
      obtain rfl := Option.some.inj (hopen'.symm.trans hopen)
      rw [hcloses] at hheld
      contradiction
  | @long v last inner hopen' _ _ hlast =>
      obtain ⟨rfl, rfl⟩ := List.cons.inj hws
      obtain rfl := Option.some.inj (hopen'.symm.trans hopen)
      have hends := hrest last (by simp)
      rw [hlast] at hends
      contradiction

/-- **How words start**: with a plain word or a closed group, or else they are a tail. -/
theorem plain_or_group_or_tail (w : List Char) (ws : List (List Char)) :
    openingQuote w = none ∨ (∃ q g r, w :: ws = g ++ r ∧ IsGroup q g) ∨ IsTail (w :: ws) := by
  cases hopen : openingQuote w with
  | none => exact .inl rfl
  | some q =>
      cases hcloses : closesItself q w with
      | true => exact .inr (.inl ⟨q, [w], ws, rfl, .short hopen hcloses⟩)
      | false =>
          -- the group ends with the first word behind that ends with the quote, if there is one
          cases hlast : ws.find? (endsWith q) with
          | none =>
              have hrest : ∀ v ∈ ws, endsWith q v = false := by
                simpa using List.find?_eq_none.mp hlast
              exact .inr (.inr ⟨hopen, hcloses, hrest⟩)
          | some last =>
              obtain ⟨hends, inner, r, rfl, hinner⟩ := List.find?_eq_some_iff_append.mp hlast
              have hinner : ∀ v ∈ inner, endsWith q v = false := by simpa using hinner
              exact .inr (.inl
                ⟨q, w :: (inner ++ [last]), r, by simp, .long hopen hcloses hinner hends⟩)

/-! ## Exactly one way to fall into blocks -/

theorem Fits.eq_nil (h : Fits bs) (hwords : bs.flatMap Block.words = []) : bs = [] := by
  cases h with
  | nil => rfl
  | plain _ _ => simp [Block.words] at hwords
  | group hg _ =>
      obtain ⟨w, ws, rfl, -⟩ := hg.exists_cons
      simp [Block.words] at hwords
  | tail ht =>
      obtain ⟨-, -, -⟩ := ht
      simp [Block.words] at hwords

theorem Fits.eq_plain (h : Fits bs) (hwords : bs.flatMap Block.words = w :: ws)
    (hw : openingQuote w = none) :
    ∃ bs', bs = .plain w :: bs' ∧ Fits bs' ∧ bs'.flatMap Block.words = ws := by
  cases h with
  | nil => simp at hwords
  | plain _ hbs =>
      obtain ⟨rfl, hws⟩ := List.cons.inj hwords
      exact ⟨_, rfl, hbs, hws⟩
  | group hg _ =>
      obtain ⟨v, vs, rfl, hopen⟩ := hg.exists_cons
      obtain ⟨rfl, -⟩ := List.cons.inj hwords
      rw [hopen] at hw
      contradiction
  | tail ht =>
      obtain ⟨hopen, -, -⟩ := ht
      obtain ⟨rfl, -⟩ := List.cons.inj hwords
      rw [hopen] at hw
      contradiction

theorem Fits.eq_group (h : Fits bs) (hwords : bs.flatMap Block.words = g ++ r)
    (hg : IsGroup q g) :
    ∃ bs', bs = .group q g :: bs' ∧ Fits bs' ∧ bs'.flatMap Block.words = r := by
  cases h with
  | nil =>
      obtain ⟨v, vs, rfl, -⟩ := hg.exists_cons
      simp at hwords
  | plain hw _ =>
      obtain ⟨v, vs, rfl, hopen⟩ := hg.exists_cons
      obtain ⟨rfl, -⟩ := List.cons.inj hwords
      rw [hopen] at hw
      contradiction
  | group hg' hbs =>
      rw [List.flatMap_cons] at hwords
      obtain ⟨rfl, rfl, hr⟩ := hg'.cut_unique hg hwords
      exact ⟨_, rfl, hbs, hr⟩
  | tail ht =>
      rw [List.flatMap_singleton] at hwords
      exact absurd hwords (ht.ne_group_append hg)

theorem Fits.eq_tail (h : Fits bs) (hwords : bs.flatMap Block.words = ws) (ht : IsTail ws) :
    bs = [.tail ws] := by
  cases h with
  | nil =>
      obtain ⟨-, -, -⟩ := ht
      simp at hwords
  | plain hw _ =>
      obtain ⟨hopen, -, -⟩ := ht
      obtain ⟨rfl, -⟩ := List.cons.inj hwords
      rw [hopen] at hw
      contradiction
  | group hg _ =>
      rw [List.flatMap_cons] at hwords
      exact absurd hwords.symm (ht.ne_group_append hg)
  | tail _ =>
      rw [List.flatMap_singleton] at hwords
      rw [← hwords]
      rfl

/-- **Words fall into blocks in exactly one way.** The first block is forced, and what stands behind
it is shorter. -/
theorem existsUnique_blocks (ws : List (List Char)) :
    ∃! bs, Fits bs ∧ bs.flatMap Block.words = ws := by
  induction hn : ws.length using Nat.strong_induction_on generalizing ws with
  | _ n ih =>
      cases ws with
      | nil => exact ⟨[], ⟨.nil, rfl⟩, fun bs h => h.1.eq_nil h.2⟩
      | cons w ws =>
          rcases plain_or_group_or_tail w ws with hw | ⟨q, g, r, heq, hg⟩ | ht
          · obtain ⟨bs, ⟨hbs, rfl⟩, hunique⟩ := ih ws.length (by simp [← hn]) ws rfl
            refine ⟨.plain w :: bs, ⟨.plain hw hbs, rfl⟩, fun bs' h => ?_⟩
            obtain ⟨rest, rfl, hrest⟩ := h.1.eq_plain h.2 hw
            rw [hunique rest hrest]
          · rw [heq] at hn ⊢
            obtain ⟨v, vs, hcons, -⟩ := hg.exists_cons
            have hlength : r.length < n := by
              rw [← hn, List.length_append, hcons, List.length_cons]
              omega
            obtain ⟨bs, ⟨hbs, rfl⟩, hunique⟩ := ih r.length hlength r rfl
            refine ⟨.group q g :: bs, ⟨.group hg hbs, List.flatMap_cons⟩, fun bs' h => ?_⟩
            obtain ⟨rest, rfl, hrest⟩ := h.1.eq_group h.2 hg
            rw [hunique rest hrest]
          · exact ⟨[.tail (w :: ws)], ⟨.tail ht, List.flatMap_singleton ..⟩,
              fun bs' h => h.1.eq_tail h.2 ht⟩

/-! ## The scan, block by block -/

/-- A group that nothing closes keeps its words. -/
theorem scan_unclosed (hrest : ∀ v ∈ ws, endsWith q v = false) (held : List (List Char)) :
    scan (some (q, held)) ws = held.reverse ++ ws := by
  induction ws generalizing held with
  | nil => simp [scan]
  | cons v ws ih =>
      have hv : endsWith q v = false := hrest v (by simp)
      have hmore := ih (fun u hu => hrest u (List.mem_cons_of_mem _ hu)) (v :: held)
      simpa [scan, hv] using hmore

theorem scan_tail (h : IsTail ws) : scan none ws = ws := by
  obtain ⟨hopen, hheld, hrest⟩ := h
  simpa [scan, hopen, hheld] using scan_unclosed hrest [_]

/-- **The scan turns each block into its tokens.** -/
theorem scan_blocks (h : Fits bs) :
    scan none (bs.flatMap Block.words) = bs.flatMap Block.tokens := by
  induction h with
  | nil => rfl
  | plain hw _ ih =>
      rw [List.flatMap_cons, List.flatMap_cons, ← ih]
      exact scan_plain hw _
  | group hg _ ih =>
      rw [List.flatMap_cons, List.flatMap_cons, ← ih]
      exact scan_group hg _
  | tail ht =>
      rw [List.flatMap_singleton, List.flatMap_singleton]
      exact scan_tail ht

/-! ## Putting the quotes back -/

theorem exists_of_openingQuote (h : openingQuote w = some q) : ∃ cs, w = q :: cs := by
  obtain ⟨hhead, -⟩ := Option.filter_eq_some_iff.mp h
  exact ⟨w.tail, (List.cons_head?_tail hhead).symm⟩

theorem exists_of_endsWith (h : endsWith q w = true) : ∃ cs, w = cs ++ [q] := by
  have hlast : w.getLast? = some q := by simpa [endsWith] using h
  exact ⟨w.dropLast, (List.dropLast_append_getLast? q hlast).symm⟩

theorem exists_join_concat (ws : List (List Char)) (w : List Char) :
    ∃ cs, join [' '] (ws ++ [w]) = cs ++ w := by
  induction ws with
  | nil => exact ⟨[], rfl⟩
  | cons v ws ih =>
      obtain ⟨cs, hcs⟩ := ih
      refine ⟨v ++ [' '] ++ cs, ?_⟩
      rw [List.cons_append, join_cons (by simp), hcs]
      simp only [List.append_assoc]

theorem Fits.isGroup_of_mem (h : Fits bs) (hmem : .group q g ∈ bs) : IsGroup q g := by
  induction h with
  | nil => simp at hmem
  | plain _ _ ih => exact ih (by simpa using hmem)
  | group hg _ ih =>
      rcases List.mem_cons.mp hmem with heq | hmem
      · obtain ⟨rfl, rfl⟩ := Block.group.inj heq
        exact hg
      · exact ih hmem
  | tail _ => simp at hmem

/-- **A closed group is its token between its quotes**: there are two quotes to take away, and they
are two characters and not one. -/
theorem IsGroup.join_eq (h : IsGroup q g) : join [' '] g = q :: groupText g ++ [q] := by
  have hbetween : ∃ cs, join [' '] g = q :: cs ++ [q] := by
    cases h with
    | @short w hopen hcloses =>
        simp only [closesItself, Bool.and_eq_true, decide_eq_true_eq] at hcloses
        obtain ⟨cs, rfl⟩ := exists_of_openingQuote hopen
        obtain ⟨front, hfront⟩ := exists_of_endsWith hcloses.2
        cases front with
        | nil =>
            rw [hfront] at hcloses
            simp at hcloses
        | cons c front =>
            obtain ⟨rfl, -⟩ := List.cons.inj hfront
            exact ⟨front, hfront⟩
    | @long w last inner hopen _ _ hlast =>
        obtain ⟨cs, rfl⟩ := exists_of_openingQuote hopen
        obtain ⟨front, rfl⟩ := exists_of_endsWith hlast
        obtain ⟨mid, hmid⟩ := exists_join_concat inner (front ++ [q])
        refine ⟨cs ++ [' '] ++ mid ++ front, ?_⟩
        rw [join_cons (by simp), hmid]
        simp
  obtain ⟨cs, hcs⟩ := hbetween
  simp [groupText, hcs]

/-- Joined words do not tell which of them were joined before. -/
theorem join_append_eq (hg : g ≠ []) (r : List (List Char)) :
    join [' '] (g ++ r) = join [' '] (join [' '] g :: r) := by
  induction g with
  | nil => contradiction
  | cons w g ih =>
      cases g with
      | nil => rfl
      | cons v g =>
          rw [List.cons_append, join_cons (by simp), ih (by simp), join_cons (by simp) _ w]
          cases r with
          | nil => rfl
          | cons u r =>
              rw [join_cons (by simp), join_cons (by simp) _ (w ++ _ ++ _)]
              simp only [List.append_assoc]

theorem join_cons_congr (hnil : r = [] ↔ r' = []) (hjoin : join [' '] r = join [' '] r')
    (w : List Char) : join [' '] (w :: r) = join [' '] (w :: r') := by
  by_cases h : r = []
  · rw [h, hnil.mp h]
  · rw [join_cons h, join_cons (mt hnil.mpr h), hjoin]

/-- **Nothing is lost**: the tokens with the quotes of the groups put back are the words again. -/
theorem join_requoted (h : Fits bs) :
    (bs.flatMap Block.requoted = [] ↔ bs.flatMap Block.words = []) ∧
      join [' '] (bs.flatMap Block.requoted) = join [' '] (bs.flatMap Block.words) := by
  induction h with
  | nil => exact ⟨Iff.rfl, rfl⟩
  | @plain w bs hw _ ih =>
      refine ⟨by simp [Block.requoted, Block.words], ?_⟩
      rw [List.flatMap_cons, List.flatMap_cons]
      exact join_cons_congr ih.1 ih.2 w
  | @group q g bs hg _ ih =>
      obtain ⟨v, vs, hcons, -⟩ := hg.exists_cons
      have hne : g ≠ [] := by simp [hcons]
      refine ⟨by simp [Block.requoted, Block.words, hne], ?_⟩
      rw [List.flatMap_cons, List.flatMap_cons]
      calc join [' '] ([q :: groupText g ++ [q]] ++ bs.flatMap Block.requoted)
          = join [' '] (join [' '] g :: bs.flatMap Block.requoted) := by rw [hg.join_eq]; rfl
        _ = join [' '] (join [' '] g :: bs.flatMap Block.words) := join_cons_congr ih.1 ih.2 _
        _ = join [' '] (g ++ bs.flatMap Block.words) := (join_append_eq hne _).symm
  | tail _ => exact ⟨Iff.rfl, rfl⟩

/-! ## The grammar of lines -/

/-- **Tokenizing follows its grammar and loses nothing.** The words of a line fall into blocks in
exactly one way. For these blocks the tokens of the line are those of the blocks, in order; a closed
group is its token between its quotes; and the tokens with these quotes put back, joined with
spaces, are the joined words. The only blanks in a token are single spaces, and lines with the same
words have the same tokens. -/
theorem tokenize_follows_grammar (line : String) :
    (∃! bs, Fits bs ∧ bs.flatMap Block.words = words line.toList) ∧
    (∀ bs, Fits bs → bs.flatMap Block.words = words line.toList →
      tokenize line = (bs.flatMap Block.tokens).map String.ofList ∧
      (∀ q g, Block.group q g ∈ bs → join [' '] g = q :: groupText g ++ [q]) ∧
      join [' '] (bs.flatMap Block.requoted) = join [' '] (words line.toList)) ∧
    (∀ token ∈ tokenize line, SingleSpaced token.toList) ∧
    ∀ other, words other.toList = words line.toList → tokenize other = tokenize line := by
  refine ⟨existsUnique_blocks _, fun bs hfits hwords => ⟨?_, fun q g hmem => ?_, ?_⟩,
    fun token htoken => singleSpaced_of_mem_tokenize htoken, fun other hwords => ?_⟩
  · rw [tokenize, tokens, ← hwords, scan_blocks hfits]
  · exact (hfits.isGroup_of_mem hmem).join_eq
  · rw [(join_requoted hfits).2, hwords]
  · rw [tokenize, tokens, hwords]
    rfl

/-- A line with a block of each kind: the other quote stands inside a group, a group is empty, and
the last quote is not closed. -/
def mixedLine : String := "x \"a 'b c\" '' \"d e"

/-- The blocks of that line. -/
def mixedBlocks : List Block :=
  [.plain ['x'], .group '"' [['"', 'a'], ['\'', 'b'], ['c', '"']], .group '\'' [['\'', '\'']],
    .tail [['"', 'd'], ['e']]]

theorem fits_mixedBlocks : Fits mixedBlocks := by
  have hlong : IsGroup '"' [['"', 'a'], ['\'', 'b'], ['c', '"']] :=
    @IsGroup.long '"' ['"', 'a'] ['c', '"'] [['\'', 'b']] rfl rfl (by decide) rfl
  have htail : IsTail [['"', 'd'], ['e']] := @IsTail.intro '"' _ _ rfl rfl (by decide)
  exact .plain rfl (.group hlong (.group (.short rfl rfl) (.tail htail)))

theorem tokenize_follows_grammar_mixedLine :
    Fits mixedBlocks ∧ mixedBlocks.flatMap Block.words = words mixedLine.toList ∧
      tokenize mixedLine = ["x", "a 'b c", "", "\"d", "e"] := by
  have hwords : mixedBlocks.flatMap Block.words = words mixedLine.toList := by decide
  obtain ⟨-, hblocks, -⟩ := tokenize_follows_grammar mixedLine
  exact ⟨fits_mixedBlocks, hwords, (hblocks mixedBlocks fits_mixedBlocks hwords).1⟩

end CommandConsole.Line
