import CommandConsole.Json.Numeral
import CommandConsole.Number.Radix

/-!
# Events of a JSON text

A JSON text is read as a list of events: a scalar, the name of a field, a bracket that opens or
closes. `events` runs through the text once, a character at a time. Its state is the list of
brackets that are open, what may come next, and the token that is being read, if any. A flaw ends
the run, and the events in front of it stand: who reads a text event by event can complain about
a value before a flaw that lies behind it.

Each event comes with a cursor: a scalar and a name with the one behind it, a bracket with the
one in front of it.
-/

set_option autoImplicit false

namespace CommandConsole.Json

/-- A piece of a JSON text. -/
inductive Event where
  | scalar (v : Json)
  | name (s : String)
  | openList
  | closeList
  | openObject
  | closeObject
deriving Repr

/-- What a bracket holds. -/
inductive Bracket where
  | list
  | object
deriving DecidableEq, Repr

/-- What may come next between two tokens. -/
inductive Expected where
  | value
  | firstItem
  | item
  | firstName
  | name
  | colon
  | comma
deriving DecidableEq, Repr

/-- How far an escape in a string has been read. A hexadecimal one holds the surrogate in front
of it, the bytes it still has and its value so far, unless it is bad. -/
inductive Escape where
  | none
  | backslash
  | hex (high : Option Nat) (left : Nat) (value : Option Nat)
  | half (high : Nat)
  | halfBackslash (high : Nat)
deriving DecidableEq, Repr

/-- A token that has been read in part. -/
inductive Partial where
  | word (left : List Char) (v : Json)
  | number (negative : Bool) (n : Numeral)
  | string (isName : Bool) (held : List Char) (escape : Escape)
deriving Repr

/-- A state of the run. -/
structure State where
  nesting : List Bracket
  expected : Expected
  token : Option Partial
deriving Repr

/-- What one character leads to: events whose cursor is in front of it, events whose cursor is
behind it, and the next state or a flaw so many bytes into the character. -/
structure Turn where
  before : List Event
  behind : List Event
  result : Except (Flaw × Nat) State

namespace State

/-- The state in front of a text. -/
def start : State := ⟨[], .value, none⟩

/-- A turn without events. -/
def moved (s : State) : Turn := ⟨[], [], .ok s⟩

/-- A turn that shows a flaw at the character. -/
def flawed (f : Flaw) : Turn := ⟨[], [], .error (f, 1)⟩

/-- A turn that ends a token with an event behind the character. -/
def ended (s : State) (e : Event) (expected : Expected) : Turn :=
  ⟨[], [e], .ok ⟨s.nesting, expected, none⟩⟩

/-- A turn that opens a bracket, unless too many are open. -/
def opened (limit : Nat) (s : State) (b : Bracket) : Turn :=
  if limit ≤ s.nesting.length then flawed .tooDeep
  else match b with
    | .list => ⟨[.openList], [], .ok ⟨.list :: s.nesting, .firstItem, none⟩⟩
    | .object => ⟨[.openObject], [], .ok ⟨.object :: s.nesting, .firstName, none⟩⟩

/-- A turn that closes the innermost bracket. -/
def closed (s : State) (e : Event) : Turn := ⟨[e], [], .ok ⟨s.nesting.drop 1, .comma, none⟩⟩

/-- A turn that starts a token. -/
def began (s : State) (t : Partial) : Turn := moved { s with token := some t }

/-- The character starts a value. -/
def startValue (limit : Nat) (s : State) (c : Char) : Turn :=
  match c with
  | 'n' => s.began (.word "ull".toList .null)
  | 't' => s.began (.word "rue".toList (.bool true))
  | 'f' => s.began (.word "alse".toList (.bool false))
  | '-' => s.began (.number true .sign)
  | '"' => s.began (.string false [] .none)
  | '[' => s.opened limit .list
  | '\x7b' => s.opened limit .object
  | c =>
      match Numeral.turn .sign c with
      | .more n => s.began (.number false n)
      | _ => flawed .noValue

/-- The character stands between two tokens. -/
def between (limit : Nat) (s : State) (c : Char) : Turn :=
  if c = ' ' ∨ c = '\n' ∨ c = '\t' ∨ c = '\r' then moved s
  else match s.expected with
    | .value => s.startValue limit c
    | .firstItem => if c = ']' then s.closed .closeList else s.startValue limit c
    | .item => if c = ']' then flawed .trailingComma else s.startValue limit c
    | .firstName =>
        if c = '\x7d' then s.closed .closeObject
        else if c = '"' then s.began (.string true [] .none) else flawed .noKey
    | .name =>
        if c = '\x7d' then flawed .trailingComma
        else if c = '"' then s.began (.string true [] .none) else flawed .noKey
    | .colon => if c = ':' then moved { s with expected := .value } else flawed .noColon
    | .comma =>
        match s.nesting with
        | [] => flawed .trailingCharacters
        | .list :: _ =>
            if c = ',' then moved { s with expected := .item }
            else if c = ']' then s.closed .closeList else flawed .noListComma
        | .object :: _ =>
            if c = ',' then moved { s with expected := .name }
            else if c = '\x7d' then s.closed .closeObject else flawed .noObjectComma

/-- Whether a code stands for the first or the second half of a character. -/
def isHigh (n : Nat) : Bool := 0xD800 ≤ n && n ≤ 0xDBFF

/-- Whether a code stands for the second half of a character. -/
def isLow (n : Nat) : Bool := 0xDC00 ≤ n && n ≤ 0xDFFF

/-- The character of two halves. -/
def paired (high low : Nat) : Char :=
  Char.ofNat ((high - 0xD800) * 0x400 + (low - 0xDC00) + 0x10000)

/-- A whole hexadecimal escape has been read. -/
def escapeEnds (s : State) (isName : Bool) (held : List Char) (high : Option Nat) (n : Nat) :
    Turn :=
  match high with
  | none =>
      if isLow n then flawed .loneSurrogate
      else if isHigh n then s.began (.string isName held (.half n))
      else s.began (.string isName (Char.ofNat n :: held) .none)
  | some h =>
      if isLow n then s.began (.string isName (paired h n :: held) .none)
      else flawed .loneSurrogate

/-- The character that a short escape stands for. -/
def shortEscape? : Char → Option Char
  | '"' => some '"'
  | '\\' => some '\\'
  | '/' => some '/'
  | 'b' => some '\x08'
  | 'f' => some '\x0c'
  | 'n' => some '\n'
  | 'r' => some '\r'
  | 't' => some '\t'
  | _ => none

/-- The character stands in a string. -/
def inString (s : State) (isName : Bool) (held : List Char) (escape : Escape) (c : Char) : Turn :=
  match escape with
  | .none =>
      if c = '"' then
        let text := String.ofList held.reverse
        if isName then s.ended (.name text) .colon else s.ended (.scalar (.str text)) .comma
      else if c = '\\' then s.began (.string isName held .backslash)
      else if c.toNat < 0x20 then flawed .controlCharacter
      else s.began (.string isName (c :: held) .none)
  | .backslash =>
      if c = 'u' then s.began (.string isName held (.hex none 4 (some 0)))
      else match shortEscape? c with
        | some d => s.began (.string isName (d :: held) .none)
        | none => flawed .badEscape
  | .hex high left value =>
      let value := match value, Number.digitIn? 16 c with
        | some v, some d => some (16 * v + d)
        | _, _ => none
      if c.utf8Size < left then
        s.began (.string isName held (.hex high (left - c.utf8Size) value))
      else match value with
        | some n => s.escapeEnds isName held high n
        | none => ⟨[], [], .error (.badEscape, left)⟩
  | .half high =>
      if c = '\\' then s.began (.string isName held (.halfBackslash high))
      else flawed .brokenSurrogate
  | .halfBackslash high =>
      if c = 'u' then s.began (.string isName held (.hex (some high) 4 (some 0)))
      else flawed .brokenSurrogate

/-- One character of the text. -/
def turn (limit : Nat) (s : State) (c : Char) : Turn :=
  match s.token with
  | none => s.between limit c
  | some (.word left v) =>
      match left with
      | [] => s.ended (.scalar v) .comma
      | [d] => if c = d then s.ended (.scalar v) .comma else flawed .noWord
      | d :: r => if c = d then s.began (.word r v) else flawed .noWord
  | some (.number negative n) =>
      match n.turn c with
      | .more m => s.began (.number negative m)
      | .flawed f => flawed f
      | .ends =>
          match n.value negative with
          | .error f => ⟨[], [], .error (f, 0)⟩
          | .ok v =>
              let t := State.between limit ⟨s.nesting, .comma, none⟩ c
              { t with before := .scalar v :: t.before }
  | some (.string isName held escape) => s.inString isName held escape c

/-- The end of the text: the event of a token that ends here, or a flaw. -/
def finish (s : State) : Except Flaw (List Event) :=
  match s.token with
  | some (.word _ _) => .error .endInValue
  | some (.string _ _ _) => .error .endInString
  | some (.number negative n) =>
      match n.value negative with
      | .error f => .error f
      | .ok v => .ok [.scalar v]
  | none => .ok []

/-- What is missing when the text ends in this state. -/
def missing? (s : State) : Option Flaw :=
  match s.expected with
  | .value => some .endInValue
  | .item => some .endInValue
  | .name => some .endInValue
  | .firstItem => some .endInList
  | .firstName => some .endInObject
  | .colon => some .endInObject
  | .comma =>
      match s.nesting with
      | [] => none
      | .list :: _ => some .endInList
      | .object :: _ => some .endInObject

end State

/-- The events of a text, each with its cursor, and the flaw that ends them. -/
structure Transcript where
  events : List (Event × Cursor)
  flaw : Option Complaint
deriving Repr

/-- Puts events with one cursor in front. -/
def Transcript.behind (events : List Event) (at_ : Cursor) (t : Transcript) : Transcript :=
  { t with events := events.map (·, at_) ++ t.events }

/-- The run from a state. -/
def run (limit : Nat) : State → Place → List Char → Transcript
  | s, p, [] =>
      match s.finish with
      | .error f => ⟨[], some ⟨f.message, p⟩⟩
      | .ok es =>
          let s := if es.isEmpty then s else { s with expected := .comma }
          ⟨es.map (·, ⟨[], p⟩), s.missing?.map fun f => ⟨f.message, p⟩⟩
  | s, p, c :: r =>
      let t := s.turn limit c
      match t.result with
      | .error (f, bytes) => ⟨t.before.map (·, ⟨c :: r, p⟩), some ⟨f.message, p.into c bytes⟩⟩
      | .ok s' =>
          (run limit s' (p.next c) r |>.behind t.behind ⟨r, p.next c⟩).behind t.before ⟨c :: r, p⟩

/-- **The events of a text** in which at most so many brackets are open at once. -/
def events (limit : Nat) (text : List Char) : Transcript := run limit .start .start text

end CommandConsole.Json
