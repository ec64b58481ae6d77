import CommandConsole.Web.Host

/-!
# Web addresses

The addresses of web servers: of a page, or of a socket. An address is read leniently, as browsers
do: blanks around it and line breaks in it do no harm, slashes may be missing or lean backwards,
and names of directories that lead up are followed. `Address.text` writes it in one form: the
scheme and the host in small letters, without the port that goes without saying, and with all
characters encoded that have to be.
-/

set_option autoImplicit false

namespace CommandConsole.Web

/-- The kind of a server. -/
inductive Scheme where
  | http
  | https
  | ws
  | wss
deriving DecidableEq, Repr

namespace Scheme

/-- The name of a scheme. -/
def name : Scheme → String
  | .http => "http"
  | .https => "https"
  | .ws => "ws"
  | .wss => "wss"

/-- The scheme with a name. -/
def ofName? (name : String) : Option Scheme := [http, https, ws, wss].find? (·.name == name)

/-- The port that goes without saying. -/
def defaultPort : Scheme → Nat
  | .http => 80
  | .https => 443
  | .ws => 80
  | .wss => 443

end Scheme

/-- A web address. The parts around the host are encoded; a password can be missing, and so can
the port, the query and the fragment. -/
structure Address where
  scheme : Scheme
  user : List Char
  password : Option (List Char)
  host : Host
  port : Option Nat
  path : List (List Char)
  query : Option (List Char)
  fragment : Option (List Char)
deriving DecidableEq, Repr

namespace Address

/-- A slash, leaning either way. -/
def isSlash (c : Char) : Bool := c == '/' || c == '\\'

/-- A character that ends the part of an address in front of the path. -/
def endsAuthority (c : Char) : Bool := isSlash c || c == '?' || c == '#'

/-- The text without the controls and spaces around it and the line breaks in it. -/
def cleaned (cs : List Char) : List Char :=
  let outer (c : Char) : Bool := c.toNat ≤ 0x20
  let trimmed := ((cs.dropWhile outer).reverse.dropWhile outer).reverse
  trimmed.filter fun c => !(c == '\t' || c == '\n' || c == '\r')

/-- The scheme of an address and what follows its colon. -/
def scheme? (cs : List Char) : Option (Scheme × List Char) :=
  let name := cs.takeWhile fun c => c.isAlphanum || c == '+' || c == '-' || c == '.'
  match cs.drop name.length with
  | ':' :: r => (Scheme.ofName? (String.ofList (name.map Char.toLower))).map fun s => (s, r)
  | _ => none

/-- The name and the password in front of the last at sign, encoded. -/
def credentials (cs : List Char) : List Char × Option (List Char) :=
  let (user, r) := cs.span (· ≠ ':')
  let password := r.drop 1
  (encode inUser user, if password.isEmpty then none else some (encode inUser password))

/-- What stands in front of the last at sign, if there is one, and what stands behind it. -/
def splitAtSign (cs : List Char) : Option (List Char) × List Char :=
  let (back, front) := cs.reverse.span (· ≠ '@')
  match front with
  | [] => (none, cs)
  | _ :: front => (some front.reverse, back.reverse)

/-- The length of the host at the start of a text: it ends at a colon that is not in brackets. -/
def hostLength : (inBrackets : Bool) → List Char → Nat
  | _, [] => 0
  | inBrackets, c :: r =>
      if c = ':' ∧ inBrackets = false then 0
      else hostLength (if c = '[' then true else if c = ']' then false else inBrackets) r + 1

/-- The port behind a colon. An outer `none` is a bad one, an inner one is none at all. -/
def port? (scheme : Scheme) (cs : List Char) : Option (Option Nat) :=
  match cs with
  | ':' :: ds =>
      let n := ds.foldl (fun n c => 10 * n + (c.toNat - '0'.toNat)) 0
      if !ds.all Char.isDigit || 65535 < n then none
      else if ds.isEmpty || n == scheme.defaultPort then some none
      else some (some n)
  | _ => some none

/-! ## Paths -/

/-- What the name of a directory does to a path. -/
inductive Segment where
  | up
  | stay
  | name
deriving DecidableEq, Repr

/-- A segment with its encoded points shown. -/
def shownPoints : List Char → List Char
  | '%' :: '2' :: e :: r =>
      if e = 'e' ∨ e = 'E' then '.' :: shownPoints r else '%' :: '2' :: shownPoints (e :: r)
  | c :: r => c :: shownPoints r
  | [] => []

/-- What a segment does to a path. -/
def segmentOf (cs : List Char) : Segment :=
  if shownPoints cs = ['.', '.'] then .up
  else if shownPoints cs = ['.'] then .stay else .name

/-- Whether a segment names a drive, from which nothing leads up. -/
def isDrive : List Char → Bool
  | [c, d] => c.isAlpha && (d == ':' || d == '|')
  | _ => false

/-- The directories on the way, the last one first, without the last of them. -/
def goUp : List (List Char) → List (List Char)
  | [] => []
  | d :: ds => if isDrive d then d :: ds else ds

/-- Follows the segments of a path from the directories on the way, the last one first. -/
def walk : (way : List (List Char)) → List (List Char) → List (List Char)
  | way, [] => way.reverse
  | way, [last] =>
      match segmentOf last with
      | .up => (goUp way).reverse ++ [[]]
      | .stay => way.reverse ++ [[]]
      | .name => way.reverse ++ [last]
  | way, s :: r =>
      match segmentOf s with
      | .up => walk (goUp way) r
      | .stay => walk way r
      | .name => walk (s :: way) r

/-- The segments of a text that starts with a slash, or with none. -/
def pathOf (cs : List Char) : List (List Char) :=
  let cs := match cs with
    | c :: r => if isSlash c then r else c :: r
    | [] => []
  walk [] ((cs.splitOnP isSlash).map (encode inPath))

/-! ## Reading and writing -/

/-- **The web address that a text gives**, if it gives one. -/
def read? (text : String) : Option Address := do
  let (scheme, r) ← scheme? (cleaned text.toList)
  let (authority, r) := (r.dropWhile isSlash).span fun c => !endsAuthority c
  let (before, place) := splitAtSign authority
  let (user, password) := credentials (before.getD [])
  let (host, port) := place.splitAt (hostLength false place)
  if host.isEmpty then none
  let host ← Host.read? host
  let port ← port? scheme port
  let (way, r) := r.span fun c => c ≠ '?' && c ≠ '#'
  let (query, r) := match r with
    | '?' :: r =>
        let (q, r) := r.span (· ≠ '#')
        (some (encode inQuery q), r)
    | r => (none, r)
  let fragment := match r with
    | '#' :: r => some (encode inFragment r)
    | _ => none
  return ⟨scheme, user, password, host, port, pathOf way, query, fragment⟩

/-- A part behind its mark, if it is there. -/
def marked (mark : Char) : Option (List Char) → List Char
  | some cs => mark :: cs
  | none => []

/-- The name and the password in front of the host. -/
def userText (a : Address) : List Char :=
  if a.user.isEmpty && a.password.isNone then [] else a.user ++ marked ':' a.password ++ ['@']

/-- **The text of an address.** -/
def text (a : Address) : String :=
  String.ofList (a.scheme.name.toList ++ "://".toList ++ a.userText ++ a.host.text ++
    marked ':' (a.port.map (Nat.toDigits 10)) ++ a.path.flatMap ('/' :: ·) ++
    marked '?' a.query ++ marked '#' a.fragment)

end Address

end CommandConsole.Web
