import CommandConsole.Proofs.Text.Decoding
import CommandConsole.Sink
import Mathlib.Data.List.DropRight

/-!
# What a page says

A page is written to in pieces, with line ends behind some of them, and is cleared now and then. It
holds what its pieces since it was cleared last are shown as, one behind the other (`run_page`).

Where all of them are untrusted, what a host shows for the page is what the pieces say, put together
(`page_reads_back`): no piece is read together with the next, wherever the text was cut, and the
page is the same for all ways to cut it.
-/

set_option autoImplicit false

namespace CommandConsole.Sink

open Text

/-! ## Calls -/

/-- A text that is written, and whether its line ends behind it. -/
structure Piece where
  text : String
  newline : Bool
deriving DecidableEq, Repr

/-- What a piece says. -/
def Piece.says (p : Piece) : String := if p.newline then p.text ++ "\n" else p.text

/-- What pieces say, one behind the other. -/
def said (pieces : List Piece) : String := String.join (pieces.map Piece.says)

/-- What can be asked of a place for output. -/
inductive Call where
  | write (p : Piece)
  | writeEscaped (p : Piece)
  | clear
deriving DecidableEq, Repr

/-- One call. -/
def call (s : Sink) : Call → Sink
  | .write p => s.write p.text p.newline
  | .writeEscaped p => s.writeEscaped p.text p.newline
  | .clear => s.clear

/-- Calls, one after the other. -/
def run (s : Sink) (calls : List Call) : Sink := calls.foldl call s

/-- The calls since the last one that clears. -/
def sinceClear (calls : List Call) : List Call := calls.rtakeWhile (· ≠ .clear)

/-- What a call puts on a page. -/
def Call.shown : Call → String
  | .write p => p.says
  | .writeEscaped p => Piece.says ⟨escapeMarkup p.text, p.newline⟩
  | .clear => ""

variable {c : Call}

theorem sinceClear_clear (calls : List Call) : sinceClear (calls ++ [.clear]) = [] :=
  List.rtakeWhile_concat_neg _ _ _ (by simp)

theorem sinceClear_concat (hc : c ≠ .clear) (calls : List Call) :
    sinceClear (calls ++ [c]) = sinceClear calls ++ [c] :=
  List.rtakeWhile_concat_pos _ _ _ (by simpa using hc)

/-! ## Pages -/

/-- **A call puts something on a page** behind what is there, unless it clears it. -/
theorem call_page (hc : c ≠ .clear) (contents : String) :
    call ⟨.page, contents⟩ c = ⟨.page, contents ++ c.shown⟩ := by
  cases c with
  | write p => rfl
  | writeEscaped p => rfl
  | clear => contradiction

/-- **A page holds what was put on it** since it was cleared last. -/
theorem run_page (calls : List Call) :
    page.run calls = ⟨.page, String.join ((sinceClear calls).map Call.shown)⟩ := by
  induction calls using List.reverseRecOn with
  | nil => rfl
  | append_singleton calls c ih =>
      have hlast : page.run (calls ++ [c]) = (page.run calls).call c := List.foldl_concat ..
      rw [hlast, ih]
      by_cases hc : c = .clear
      · subst hc
        rw [sinceClear_clear]
        rfl
      · rw [call_page hc, sinceClear_concat hc, List.map_append, String.join_append]
        simp

/-! ## Untrusted pieces -/

/-- The end of a line is escaped to itself, so it can be escaped with the line. -/
theorem shown_writeEscaped (p : Piece) : (Call.writeEscaped p).shown = escapeMarkup p.says := by
  obtain ⟨text, newline⟩ := p
  cases newline with
  | false => rfl
  | true =>
      have hend : escapeMarkup "\n" = "\n" := by decide
      calc (Call.writeEscaped ⟨text, true⟩).shown
          = escapeMarkup text ++ "\n" := rfl
        _ = escapeMarkup (text ++ "\n") := by rw [escapeMarkup_append, hend]

/-- Untrusted pieces are on a page as what they say, escaped at one stretch. -/
theorem contents_run_page {calls : List Call} {pieces : List Piece}
    (h : sinceClear calls = pieces.map .writeEscaped) :
    (page.run calls).contents = escapeMarkup (said pieces) := by
  have hshown : Call.shown ∘ .writeEscaped = escapeMarkup ∘ Piece.says :=
    funext shown_writeEscaped
  rw [run_page, h, List.map_map, hshown, ← List.map_map, ← escapeMarkup_join]
  rfl

/-- **Escaping is faithful, and can be done piece by piece.** A text is what another is escaped to
if and only if it is inert and is shown as the other. So what is escaped is shown as what it was, no
two texts are escaped to the same, and texts that are put together can be escaped together or apart.

A page that untrusted pieces alone were written to since it was cleared last holds what they say,
escaped as if it had been written at one stretch, and is shown as what they say. -/
theorem page_reads_back :
    (∀ s t, escapeMarkup s = t ↔ Inert t.toList ∧ decodeMarkup t = s) ∧
      (∀ s, decodeMarkup (escapeMarkup s) = s) ∧
      Function.Injective escapeMarkup ∧
      (∀ a b, escapeMarkup (a ++ b) = escapeMarkup a ++ escapeMarkup b) ∧
      ∀ calls pieces, sinceClear calls = pieces.map .writeEscaped →
        (page.run calls).contents = escapeMarkup (said pieces) ∧
          decodeMarkup (page.run calls).contents = said pieces := by
  have hback : Function.LeftInverse decodeMarkup escapeMarkup := decodeMarkup_escapeMarkup
  refine ⟨fun s t => escapeMarkup_eq_iff, hback, hback.injective, escapeMarkup_append, ?_⟩
  intro calls pieces hcalls
  have hcontents := contents_run_page hcalls
  exact ⟨hcontents, hcontents ▸ hback (said pieces)⟩

/-- Pieces of a text that is cut within an entity of its own. -/
def cutPieces : List Piece := [⟨"it's &am", false⟩, ⟨"p; <", true⟩, ⟨"&", false⟩, ⟨"lt;", false⟩]

/-- They are written to a page that had markup on it before. -/
def cutCalls : List Call :=
  [.write ⟨"<b>", true⟩, .writeEscaped ⟨"&", false⟩, .clear] ++ cutPieces.map .writeEscaped

theorem page_reads_back_cut :
    sinceClear cutCalls = cutPieces.map .writeEscaped ∧
      (page.run cutCalls).contents = "it&#39;s &amp;amp; &lt;\n&amp;lt;" ∧
      decodeMarkup (page.run cutCalls).contents = "it's &amp; <\n&lt;" := by
  have hsince : sinceClear cutCalls = cutPieces.map .writeEscaped := by decide
  have hescaped : escapeMarkup (said cutPieces) = "it&#39;s &amp;amp; &lt;\n&amp;lt;" := by decide
  have hsaid : said cutPieces = "it's &amp; <\n&lt;" := by decide
  obtain ⟨hcontents, hshown⟩ := page_reads_back.2.2.2.2 cutCalls cutPieces hsince
  exact ⟨hsince, hcontents.trans hescaped, hshown.trans hsaid⟩

end CommandConsole.Sink
