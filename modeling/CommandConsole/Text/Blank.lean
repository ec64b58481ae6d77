/-!
# White space

The characters with the Unicode property White_Space, and what the console does with them:
trimming a text and splitting it into words. A **word** is a non-empty run of characters that
are not blank; `words` lists the words of a text in order and forgets the blanks between them.
-/

set_option autoImplicit false

namespace CommandConsole.Text

/-- The characters with the Unicode property White_Space. -/
def isBlank (c : Char) : Bool :=
  let n := c.toNat
  (9 ≤ n && n ≤ 13) || n == 0x20 || n == 0x85 || n == 0xA0 || n == 0x1680 ||
    (0x2000 ≤ n && n ≤ 0x200A) || n == 0x2028 || n == 0x2029 || n == 0x202F || n == 0x205F ||
    n == 0x3000

/-- The text without the blanks it starts with. -/
def trimStart (cs : List Char) : List Char := cs.dropWhile isBlank

/-- The text without the blanks it ends with. -/
def trimEnd (cs : List Char) : List Char := (cs.reverse.dropWhile isBlank).reverse

/-- The text without the blanks at both ends. -/
def trim (cs : List Char) : List Char := trimEnd (trimStart cs)

/-- Puts a character in front of the first word. -/
def consWord (c : Char) : List (List Char) → List (List Char)
  | [] => [[c]]
  | w :: ws => (c :: w) :: ws

/-- The words of a text. A character that a blank or the end follows is a word's last one. -/
def words : List Char → List (List Char)
  | [] => []
  | [c] => if isBlank c then [] else [[c]]
  | c :: d :: r =>
      if isBlank c then words (d :: r)
      else if isBlank d then [c] :: words (d :: r)
      else consWord c (words (d :: r))

/-- Joins texts with a separator between each two. -/
def join (separator : List Char) : List (List Char) → List Char
  | [] => []
  | [w] => w
  | w :: v :: r => w ++ separator ++ join separator (v :: r)

/-! ## The same on strings -/

/-- The string without the blanks it ends with. -/
def trimmedEnd (s : String) : String := String.ofList (trimEnd s.toList)

/-- Whether a string has no word. -/
def isBlankString (s : String) : Bool := s.toList.all isBlank

/-- The lines of a text: each ends with a line feed, which goes, and so does one carriage
return in front of it. A text that ends with a line feed has no empty last line. -/
def lines (cs : List Char) : List (List Char) :=
  match cs with
  | [] => []
  | c :: r => go [] (c :: r)
where
  /-- Collects one line, last character first. -/
  go : List Char → List Char → List (List Char)
    | [], [] => []
    | held, [] => [held.reverse]
    | held, '\n' :: r =>
        (match held with
          | '\r' :: front => front.reverse
          | _ => held.reverse) :: go [] r
    | held, c :: r => go (c :: held) r

end CommandConsole.Text
