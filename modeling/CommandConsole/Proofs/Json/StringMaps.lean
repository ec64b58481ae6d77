import CommandConsole.Json.Reader
import CommandConsole.Json.Writer
import CommandConsole.Proofs.Assoc

/-!
# Maps of strings are read back

The text of an object whose fields hold strings is read as that object (`read_pretty_strings`),
whatever the names and the strings are.

`Reads` says what the run over a text does with a piece of it: the events that it gives and the
state that it leads to, whatever text follows. Pieces are put together with `Reads.append`, so the
text is followed in the order in which it is written: characters in their escaped form, quoted
strings, fields, and the object around them. At the end the events are assembled, and the fields
are put into a map that has them in their order already.
-/

set_option autoImplicit false

namespace CommandConsole.Json

/-- A piece of a text, read in a state, gives events and leads to another state, whatever follows
it. -/
def Reads (limit : Nat) (s : State) (piece : List Char) (events : List Event) (s' : State) : Prop :=
  ∀ p rest, ∃ p',
    (run limit s p (piece ++ rest)).flaw = (run limit s' p' rest).flaw ∧
    (run limit s p (piece ++ rest)).events.map Prod.fst =
      events ++ (run limit s' p' rest).events.map Prod.fst

namespace Reads

variable {limit : Nat} {s s₁ s₂ : State} {piece more : List Char} {events later : List Event}

theorem nil (limit : Nat) (s : State) : Reads limit s [] [] s := fun p _ => ⟨p, rfl, rfl⟩

theorem append (h : Reads limit s piece events s₁) (h' : Reads limit s₁ more later s₂) :
    Reads limit s (piece ++ more) (events ++ later) s₂ := by
  intro p rest
  obtain ⟨p₁, hflaw, hevents⟩ := h p (more ++ rest)
  obtain ⟨p₂, hflaw', hevents'⟩ := h' p₁ rest
  refine ⟨p₂, ?_, ?_⟩
  · rw [List.append_assoc, hflaw, hflaw']
  · rw [List.append_assoc, hevents, hevents', List.append_assoc]

/-- One character. -/
theorem char {c : Char} {before behind : List Event}
    (h : s.turn limit c = ⟨before, behind, .ok s₁⟩) :
    Reads limit s [c] (before ++ behind) s₁ := by
  intro p rest
  refine ⟨p.next c, ?_, ?_⟩
  · simp only [List.singleton_append, run, h, Transcript.behind]
  · simp only [List.singleton_append, run, h, Transcript.behind, List.map_append, List.map_map]
    simp [Function.comp_def]

end Reads

/-! ## Characters of a string -/

/-- The state inside of a string, with the characters that have been read, last one first. -/
def inside (nesting : List Bracket) (expected : Expected) (isName : Bool) (held : List Char)
    (escape : Escape) : State :=
  ⟨nesting, expected, some (.string isName held escape)⟩

section

variable {limit : Nat} {nesting : List Bracket} {expected : Expected} {isName : Bool}
  {held : List Char}

theorem turn_backslash : (inside nesting expected isName held .none).turn limit '\\' =
    ⟨[], [], .ok (inside nesting expected isName held .backslash)⟩ := rfl

theorem turn_shortEscape {l c : Char} (h : State.shortEscape? l = some c) (hu : l ≠ 'u') :
    (inside nesting expected isName held .backslash).turn limit l =
      ⟨[], [], .ok (inside nesting expected isName (c :: held) .none)⟩ := by
  simp [inside, State.turn, State.inString, hu, h, State.began, State.moved]

/-- An escape of two characters. -/
theorem reads_shortEscape {l c : Char} (h : State.shortEscape? l = some c) (hu : l ≠ 'u') :
    Reads limit (inside nesting expected isName held .none) ['\\', l] []
      (inside nesting expected isName (c :: held) .none) :=
  (Reads.char turn_backslash).append (.char (turn_shortEscape h hu))

theorem digitIn?_digitChar : ∀ d < 16, Number.digitIn? 16 (Nat.digitChar d) = some d := by decide

theorem utf8Size_digitChar : ∀ d < 16, (Nat.digitChar d).utf8Size = 1 := by decide

variable {left v d : Nat}

/-- A digit of an escape that is not the last one. -/
theorem turn_hex (hleft : 1 < left) (hd : d < 16) :
    (inside nesting expected isName held (.hex none left (some v))).turn limit (Nat.digitChar d) =
      ⟨[], [], .ok (inside nesting expected isName held
        (.hex none (left - 1) (some (16 * v + d))))⟩ := by
  simp [inside, State.turn, State.inString, digitIn?_digitChar d hd, utf8Size_digitChar d hd, hleft,
    State.began, State.moved]

/-- The last digit of an escape of a character below the surrogates. -/
theorem turn_lastHex (hd : d < 16) (hbelow : 16 * v + d < 0xD800) :
    (inside nesting expected isName held (.hex none 1 (some v))).turn limit (Nat.digitChar d) =
      ⟨[], [], .ok (inside nesting expected isName (Char.ofNat (16 * v + d) :: held) .none)⟩ := by
  have hlow : State.isLow (16 * v + d) = false := by
    simp [State.isLow]
    omega
  have hhigh : State.isHigh (16 * v + d) = false := by
    simp [State.isHigh]
    omega
  simp [inside, State.turn, State.inString, digitIn?_digitChar d hd, utf8Size_digitChar d hd,
    State.escapeEnds, hlow, hhigh, State.began, State.moved]

/-- A control character by its number. -/
theorem reads_hexEscape {c : Char} (hc : c.toNat < 0x20) :
    Reads limit (inside nesting expected isName held .none)
      ['\\', 'u', '0', '0', Nat.digitChar (c.toNat / 16), Nat.digitChar (c.toNat % 16)] []
      (inside nesting expected isName (c :: held) .none) := by
  have hu : (inside nesting expected isName held .backslash).turn limit 'u' =
      ⟨[], [], .ok (inside nesting expected isName held (.hex none 4 (some 0)))⟩ := rfl
  have hzero (left : Nat) (hleft : 1 < left) :
      (inside nesting expected isName held (.hex none left (some 0))).turn limit '0' =
        ⟨[], [], .ok (inside nesting expected isName held (.hex none (left - 1) (some 0)))⟩ :=
    turn_hex (d := 0) hleft (by decide)
  have hhigh : (inside nesting expected isName held (.hex none 2 (some 0))).turn limit
      (Nat.digitChar (c.toNat / 16)) =
        ⟨[], [],
          .ok (inside nesting expected isName held (.hex none 1 (some (c.toNat / 16))))⟩ := by
    rw [turn_hex (by decide) (by omega), Nat.mul_zero, Nat.zero_add]
  have hlast : (inside nesting expected isName held (.hex none 1 (some (c.toNat / 16)))).turn limit
      (Nat.digitChar (c.toNat % 16)) =
        ⟨[], [], .ok (inside nesting expected isName (c :: held) .none)⟩ := by
    rw [turn_lastHex (by omega) (by omega), Nat.div_add_mod, Char.ofNat_toNat]
  exact (Reads.char turn_backslash).append <| (Reads.char hu).append <|
    (Reads.char (hzero 4 (by decide))).append <| (Reads.char (hzero 3 (by decide))).append <|
    (Reads.char hhigh).append (.char hlast)

/-- A character as it is written in a string is read as itself. -/
theorem reads_escaped (c : Char) :
    Reads limit (inside nesting expected isName held .none) (escaped c) []
      (inside nesting expected isName (c :: held) .none) := by
  rw [escaped.eq_def]
  split
  · exact reads_shortEscape rfl (by decide)
  · exact reads_shortEscape rfl (by decide)
  · exact reads_shortEscape rfl (by decide)
  · exact reads_shortEscape rfl (by decide)
  · exact reads_shortEscape rfl (by decide)
  · exact reads_shortEscape rfl (by decide)
  · exact reads_shortEscape rfl (by decide)
  · next hquote hslash _ _ _ _ _ =>
      split
      · next hcontrol => exact reads_hexEscape hcontrol
      · next hcontrol =>
          -- the character stands for itself
          refine @Reads.char _ _ _ _ [] [] ?_
          simp only [inside, State.turn, State.inString, State.began, State.moved, if_neg hquote,
            if_neg hslash, if_neg hcontrol]

theorem reads_flatMap_escaped (cs : List Char) :
    Reads limit (inside nesting expected isName held .none) (cs.flatMap escaped) []
      (inside nesting expected isName (cs.reverse ++ held) .none) := by
  induction cs generalizing held with
  | nil => exact .nil limit _
  | cons c cs ih =>
      have hchar : Reads limit (inside nesting expected isName held .none) (escaped c) []
          (inside nesting expected isName (c :: held) .none) := reads_escaped c
      simpa using hchar.append ih

theorem reads_content (s : String) :
    Reads limit (inside nesting expected isName [] .none) (s.toList.flatMap escaped) []
      (inside nesting expected isName s.toList.reverse .none) := by
  have hall : Reads limit (inside nesting expected isName [] .none) (s.toList.flatMap escaped) []
      (inside nesting expected isName (s.toList.reverse ++ []) .none) :=
    reads_flatMap_escaped s.toList
  simpa using hall

end

/-! ## Strings and fields -/

section

variable {limit : Nat} {nesting : List Bracket} {expected : Expected}

/-- A quoted string where a value may come next. -/
theorem reads_quoted_value (s : String) :
    Reads limit ⟨nesting, .value, none⟩ (quoted s) [.scalar (.str s)] ⟨nesting, .comma, none⟩ := by
  have hopen : (⟨nesting, .value, none⟩ : State).turn limit '"' =
      ⟨[], [], .ok (inside nesting .value false [] .none)⟩ := rfl
  have hclose : (inside nesting .value false s.toList.reverse .none).turn limit '"' =
      ⟨[], [.scalar (.str s)], .ok ⟨nesting, .comma, none⟩⟩ := by
    simp [inside, State.turn, State.inString, State.ended]
  exact ((Reads.char hopen).append (reads_content s)).append (.char hclose)

/-- A quoted string where the name of a field may come next. -/
theorem reads_quoted_name (h : expected = .firstName ∨ expected = .name) (s : String) :
    Reads limit ⟨nesting, expected, none⟩ (quoted s) [.name s] ⟨nesting, .colon, none⟩ := by
  have hopen : (⟨nesting, expected, none⟩ : State).turn limit '"' =
      ⟨[], [], .ok (inside nesting expected true [] .none)⟩ := by
    rcases h with rfl | rfl <;> rfl
  have hclose : (inside nesting expected true s.toList.reverse .none).turn limit '"' =
      ⟨[], [.name s], .ok ⟨nesting, .colon, none⟩⟩ := by
    simp [inside, State.turn, State.inString, State.ended]
  exact ((Reads.char hopen).append (reads_content s)).append (.char hclose)

/-- Blanks between two tokens. -/
theorem reads_blanks {cs : List Char} (h : ∀ c ∈ cs, c = ' ' ∨ c = '\n') :
    Reads limit ⟨nesting, expected, none⟩ cs [] ⟨nesting, expected, none⟩ := by
  induction cs with
  | nil => exact .nil limit _
  | cons c cs ih =>
      have hblank : (⟨nesting, expected, none⟩ : State).turn limit c =
          ⟨[], [], .ok ⟨nesting, expected, none⟩⟩ := by
        rcases h c List.mem_cons_self with rfl | rfl <;> rfl
      exact (Reads.char hblank).append (ih fun d hd => h d (List.mem_cons_of_mem c hd))

theorem reads_newline (depth : Nat) :
    Reads limit ⟨nesting, expected, none⟩ (newline depth) [] ⟨nesting, expected, none⟩ := by
  refine reads_blanks fun c hc => ?_
  rcases List.mem_cons.mp hc with rfl | hc
  · exact .inr rfl
  · exact .inl (List.eq_of_mem_replicate hc)

/-- A field that holds a string, as it is written. -/
def fieldText (e : String × String) : List Char := quoted e.1 ++ ':' :: ' ' :: quoted e.2

/-- The events of a field that holds a string. -/
def fieldEvents (e : String × String) : List Event := [.name e.1, .scalar (.str e.2)]

theorem reads_fieldText (h : expected = .firstName ∨ expected = .name) (e : String × String) :
    Reads limit ⟨nesting, expected, none⟩ (fieldText e) (fieldEvents e)
      ⟨nesting, .comma, none⟩ := by
  have hcolon : (⟨nesting, .colon, none⟩ : State).turn limit ':' =
      ⟨[], [], .ok ⟨nesting, .value, none⟩⟩ := rfl
  have hspace : Reads limit ⟨nesting, .value, none⟩ [' '] [] ⟨nesting, .value, none⟩ :=
    reads_blanks (by simp)
  exact (reads_quoted_name h e.1).append <| (Reads.char hcolon).append <|
    hspace.append (reads_quoted_value e.2)

/-- Fields on lines of their own. -/
theorem reads_fields (h : expected = .firstName ∨ expected = .name) (depth : Nat)
    (e : String × String) (es : List (String × String)) :
    Reads limit ⟨.object :: nesting, expected, none⟩
      (Text.join (',' :: newline depth) ((e :: es).map fieldText)) ((e :: es).flatMap fieldEvents)
      ⟨.object :: nesting, .comma, none⟩ := by
  induction es generalizing expected e with
  | nil => simpa [Text.join] using reads_fieldText h e
  | cons e' es ih =>
      have hcomma : (⟨.object :: nesting, .comma, none⟩ : State).turn limit ',' =
          ⟨[], [], .ok ⟨.object :: nesting, .name, none⟩⟩ := rfl
      have hrest := (Reads.char hcomma).append ((reads_newline depth).append (ih (.inr rfl) e'))
      have hall := (reads_fieldText h e).append hrest
      simpa [Text.join] using hall

end

/-! ## Maps -/

/-- The fields of a map of strings. -/
def strings (m : List (String × String)) : Fields := m.map fun e => (e.1, .str e.2)

theorem keys_strings (m : List (String × String)) : Assoc.keys (strings m) = Assoc.keys m := by
  simp [Assoc.keys, strings, Function.comp_def]

theorem layoutFields_strings (depth : Nat) (m : List (String × String)) :
    layoutFields depth (strings m) = m.map fieldText := by
  induction m with
  | nil => rfl
  | cons e m ih =>
      have hfields : layoutFields depth (strings (e :: m)) =
          fieldText e :: layoutFields depth (strings m) := rfl
      rw [hfields, ih, List.map_cons]

/-- What the events of fields add to an object. -/
theorem assemble_fieldEvents (m : List (String × String)) (fields : Fields) (name : String) :
    assemble [.object fields name] (m.flatMap fieldEvents ++ [.closeObject]) =
      some (.obj (Assoc.union fields (strings m))) := by
  induction m generalizing fields name with
  | nil => rfl
  | cons e m ih => exact ih (Assoc.insert e.1 (.str e.2) fields) ""

/-- The whole text of a map. -/
theorem reads_layout_strings {limit : Nat} (hlimit : 0 < limit) (m : List (String × String)) :
    Reads limit .start (layout 0 (.obj (strings m)))
      (.openObject :: (m.flatMap fieldEvents ++ [.closeObject])) ⟨[], .comma, none⟩ := by
  have hopen : State.start.turn limit '\x7b' =
      ⟨[.openObject], [], .ok ⟨[.object], .firstName, none⟩⟩ := by
    have hroom : ¬ limit ≤ 0 := by omega
    simp [State.turn, State.start, State.between, State.startValue, State.opened, hroom]
  have hclose (expected : Expected) (h : expected = .firstName ∨ expected = .comma) :
      (⟨[.object], expected, none⟩ : State).turn limit '\x7d' =
        ⟨[.closeObject], [], .ok ⟨[], .comma, none⟩⟩ := by
    rcases h with rfl | rfl <;> rfl
  rw [layout, layoutFields_strings]
  cases m with
  | nil => exact (Reads.char hopen).append (.char (hclose _ (.inl rfl)))
  | cons e m =>
      have hfields : Reads limit ⟨[.object], .firstName, none⟩
          (Text.join (',' :: newline 1) ((e :: m).map fieldText)) ((e :: m).flatMap fieldEvents)
          ⟨[.object], .comma, none⟩ := reads_fields (.inl rfl) 1 e m
      have hlines := (reads_newline 1).append (hfields.append (reads_newline 0))
      have hall := (Reads.char hopen).append (hlines.append (.char (hclose _ (.inr rfl))))
      simpa [block] using hall

/-- **The text of a map of strings is read back as the map.** -/
theorem read_pretty_strings {m : List (String × String)} (h : Assoc.Sorted m) :
    read (pretty (.obj (strings m))) = .ok (.obj (strings m)) := by
  have hroom : 0 < maxNesting := by decide
  obtain ⟨p, hflaw, hevents⟩ := reads_layout_strings hroom m .start []
  have hend : run maxNesting ⟨[], .comma, none⟩ p [] = ⟨[], none⟩ := rfl
  rw [hend, List.append_nil] at hflaw hevents
  have hvalue : assemble [] (.openObject :: (m.flatMap fieldEvents ++ [.closeObject])) =
      some (.obj (strings m)) := by
    have hsorted : Assoc.Sorted (strings m) := by rwa [Assoc.Sorted, keys_strings]
    have hmap : Assoc.union [] (strings m) = strings m := Assoc.ofList_of_sorted hsorted
    exact hmap ▸ assemble_fieldEvents m [] ""
  rw [read, readWithin, pretty, String.toList_ofList, events, hflaw, hevents, List.map_nil,
    List.append_nil, hvalue]

end CommandConsole.Json
