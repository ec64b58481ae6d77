import CommandConsole.Line.Template
import CommandConsole.Proofs.Line.Quoting
import CommandConsole.Proofs.Number.Decimal
import Mathlib.Data.List.Forall2

/-!
# Filled templates

How `fill` goes through a template: a text without dollar signs stays as it is
(`fill_append_literal`), and a placeholder is replaced when its digits have come to an end
(`fill_placeholder`). What is put in is not read again.

A template can be a row of items with spaces between them, each a placeholder or a quoted text.
Filling it gives the row of the quoted values of its items (`fill_join`), so the filled line has one
token for each item, whatever is in the arguments (`tokenize_substitute_items`).
-/

set_option autoImplicit false

namespace CommandConsole.Line

open Text

/-- Whether a text starts with a digit. -/
def startsDigit (t : List Char) : Bool := t.head?.any Number.isDigit

section

variable {args : List (List Char)}

/-! ## One piece at a time -/

theorem fill_append_literal {s : List Char} (hs : '$' ∉ s) (r : List Char) :
    fill args none (s ++ r) = s ++ fill args none r := by
  induction s with
  | nil => rfl
  | cons c s ih =>
      have hc : c ≠ '$' := fun h => hs (by simp [h])
      have hrest := ih fun h => hs (List.mem_cons_of_mem _ h)
      simp [fill, hc, hrest]

theorem fill_append_digits {ds : List Char} (hds : ∀ d ∈ ds, Number.isDigit d = true)
    (held r : List Char) :
    fill args (some held) (ds ++ r) = fill args (some (ds.reverse ++ held)) r := by
  induction ds generalizing held with
  | nil => rfl
  | cons d ds ih =>
      have hd : Number.isDigit d = true := hds d (by simp)
      have hrest := ih (fun c hc => hds c (List.mem_cons_of_mem _ hc)) (d :: held)
      simp [fill, hd, hrest]

theorem fill_behind_digits (held : List Char) {r : List Char} (hr : startsDigit r = false) :
    fill args (some held) r = placeholder args held.reverse ++ fill args none r := by
  cases r with
  | nil => simp [fill]
  | cons c r =>
      have hc : Number.isDigit c = false := hr
      simp [fill, hc]

/-- **A placeholder is replaced**, by all the digits behind its sign. -/
theorem fill_placeholder {ds : List Char} (hds : ∀ d ∈ ds, Number.isDigit d = true)
    {r : List Char} (hr : startsDigit r = false) :
    fill args none ('$' :: (ds ++ r)) = placeholder args ds ++ fill args none r := by
  have hopen : fill args none ('$' :: (ds ++ r)) = fill args (some []) (ds ++ r) := by
    simp [fill]
  rw [hopen, fill_append_digits hds, fill_behind_digits _ hr]
  simp

/-- Digits that denote the number of an argument become that argument, quoted. -/
theorem placeholder_of_ofDigits {ds arg : List Char} {i : Nat}
    (hnumber : Number.ofDigits ds = i + 1) (harg : args[i]? = some arg) :
    placeholder args ds = quote arg := by
  simp [placeholder, argument?, hnumber, harg]

/-! ## Rows of items -/

/-- Filling makes a quoted text of what is written, whatever follows it but a digit. -/
def FillsTo (args : List (List Char)) (written value : List Char) : Prop :=
  ∀ r, startsDigit r = false →
    fill args none (written ++ r) = quote value ++ fill args none r

theorem fillsTo_placeholder {ds arg : List Char} {i : Nat}
    (hds : ∀ d ∈ ds, Number.isDigit d = true) (hnumber : Number.ofDigits ds = i + 1)
    (harg : args[i]? = some arg) : FillsTo args ('$' :: ds) arg := by
  intro r hr
  rw [List.cons_append, fill_placeholder hds hr, placeholder_of_ofDigits hnumber harg]

theorem fillsTo_text {cs : List Char} (hcs : '$' ∉ cs) : FillsTo args (quote cs) cs := by
  intro r _
  have hquoted : '$' ∉ quote cs := fun h => hcs (mem_of_mem_quote (by decide) h)
  exact fill_append_literal hquoted r

/-- **A row is filled item by item**: what is put in for one item is not read again. -/
theorem fill_join {written values : List (List Char)}
    (h : List.Forall₂ (FillsTo args) written values) :
    fill args none (join [' '] written) = join [' '] (values.map quote) := by
  induction h with
  | nil => rfl
  | @cons w v written values hitem hrest ih =>
      cases hrest with
      | nil =>
          have hlast := hitem [] rfl
          simpa [join, fill] using hlast
      | @cons w' v' written values _ _ =>
          -- the space behind an item is no digit, so it ends a placeholder
          have hspace : '$' ∉ [' '] := by decide
          calc fill args none (join [' '] (w :: w' :: written))
              = fill args none (w ++ ([' '] ++ join [' '] (w' :: written))) := by
                rw [join, List.append_assoc]
            _ = quote v ++ fill args none ([' '] ++ join [' '] (w' :: written)) := hitem _ rfl
            _ = quote v ++ ([' '] ++ join [' '] ((v' :: values).map quote)) := by
                rw [fill_append_literal hspace, ih]
            _ = join [' '] ((v :: v' :: values).map quote) := by
                simp only [List.map_cons, join, List.append_assoc]

/-- An item of a template: a slot for an argument, counted from zero, or a text that is quoted. -/
inductive Item where
  | slot (index : Nat)
  | text (cs : List Char)

namespace Item

/-- An item as it stands in the template. -/
def written : Item → List Char
  | slot i => '$' :: Nat.toDigits 10 (i + 1)
  | text cs => quote cs

/-- What an item stands for. -/
def value (args : List (List Char)) : Item → List Char
  | slot i => args.getD i []
  | text cs => cs

/-- A slot has an argument, and a text has no dollar sign. -/
def Fits (args : List (List Char)) : Item → Prop
  | slot i => i < args.length
  | text cs => '$' ∉ cs

end Item

theorem fillsTo_item {item : Item} (hitem : item.Fits args) :
    FillsTo args item.written (item.value args) := by
  cases item with
  | slot i =>
      have hi : i < args.length := hitem
      have harg : args[i]? = some (args.getD i []) := by simp [hi]
      exact fillsTo_placeholder (fun _ => Number.isDigit_of_mem_toDigits)
        (Number.ofDigits_toDigits _) harg
  | text cs => exact fillsTo_text hitem

/-- A row of items is filled item by item. -/
theorem fill_join_items {items : List Item} (hitems : ∀ item ∈ items, item.Fits args) :
    fill args none (join [' '] (items.map Item.written)) =
      join [' '] ((items.map (Item.value args)).map quote) := by
  refine fill_join ?_
  rw [List.forall₂_map_left_iff, List.forall₂_map_right_iff, List.forall₂_same]
  exact fun item hitem => fillsTo_item (hitems item hitem)

/-- The filled line has one token for each item. -/
theorem tokens_fill_items {items : List Item} (hitems : ∀ item ∈ items, item.Fits args) :
    tokens (fill args none (join [' '] (items.map Item.written))) =
      (items.map (Item.value args)).map restored := by
  rw [fill_join_items hitems, tokens_join_quote]

end

/-! ## Templates of placeholders and quoted texts -/

/-- **What an item of a template stands for**: a dollar sign with digits for the argument that they
denote, counted from one, and a quoted text without a dollar sign for that text. -/
inductive StandsFor (args : List String) : (item value : String) → Prop where
  | placeholder {ds : List Char} {i : Nat} {arg : String} :
      (∀ d ∈ ds, Number.isDigit d = true) → Number.ofDigits ds = i + 1 → args[i]? = some arg →
      StandsFor args (String.ofList ('$' :: ds)) arg
  | text {s : String} : '$' ∉ s.toList → StandsFor args (quoteArgument s) s

theorem StandsFor.fillsTo {args : List String} {item value : String}
    (h : StandsFor args item value) :
    FillsTo (args.map String.toList) item.toList value.toList := by
  cases h with
  | placeholder hds hnumber harg =>
      rw [String.toList_ofList]
      exact fillsTo_placeholder hds hnumber (by simp [harg])
  | text hs =>
      rw [quoteArgument, String.toList_ofList]
      exact fillsTo_text hs

/-- **One token for each item.** A template is made of items with single spaces between them. Then
the tokens of the filled template are what its items stand for, in order, each as it comes back from
being quoted. It makes no difference what the arguments are, which of them are asked for, how often
and in which order, and whether there are dollar signs in them. -/
theorem tokenize_substitute_items {args items values : List String}
    (h : List.Forall₂ (StandsFor args) items values) :
    tokenize (substitute (" ".intercalate items) args) = values.map restoredArgument := by
  have hfills : List.Forall₂ (FillsTo (args.map String.toList)) (items.map String.toList)
      (values.map String.toList) := by
    rw [List.forall₂_map_left_iff, List.forall₂_map_right_iff]
    exact h.imp fun _ _ => StandsFor.fillsTo
  have hline : (" ".intercalate items).toList = join [' '] (items.map String.toList) := by
    simp [join_eq_intercalate]
  calc tokenize (substitute (" ".intercalate items) args)
      = (tokens (join [' '] ((values.map String.toList).map quote))).map String.ofList := by
        rw [tokenize, substitute, String.toList_ofList, hline, fill_join hfills]
    _ = values.map restoredArgument := by
        rw [tokens_join_quote]
        simp [restoredArgument, Function.comp_def]

/-- Arguments that look like placeholders, have quotes of both kinds, or are empty. -/
def awkwardArguments : List String := ["$2 \t$1", "it's \"so\" x", ""]

/-- A template that asks for them, for one of them twice. -/
def awkwardItems : List String := ["$2", "\"a  b\"", "$01", "$3", "say", "$1"]

theorem tokenize_substitute_items_awkward :
    List.Forall₂ (StandsFor awkwardArguments) awkwardItems
        ["it's \"so\" x", "a  b", "$2 \t$1", "", "say", "$2 \t$1"] ∧
      tokenize (substitute (" ".intercalate awkwardItems) awkwardArguments) =
        ["it's 'so' x", "a b", "$2 $1", "", "say", "$2 $1"] := by
  have hitems : List.Forall₂ (StandsFor awkwardArguments) awkwardItems
      ["it's \"so\" x", "a  b", "$2 \t$1", "", "say", "$2 \t$1"] :=
    .cons (@StandsFor.placeholder _ ['2'] 1 _ (by simp [Number.isDigit]) rfl rfl) <|
    .cons (@StandsFor.text _ "a  b" (by decide)) <|
    .cons (@StandsFor.placeholder _ ['0', '1'] 0 _ (by simp [Number.isDigit]) rfl rfl) <|
    .cons (@StandsFor.placeholder _ ['3'] 2 _ (by simp [Number.isDigit]) rfl rfl) <|
    .cons (@StandsFor.text _ "say" (by decide)) <|
    .cons (@StandsFor.placeholder _ ['1'] 0 _ (by simp [Number.isDigit]) rfl rfl) .nil
  refine ⟨hitems, (tokenize_substitute_items hitems).trans ?_⟩
  decide

end CommandConsole.Line
