import ColumnWire.Url.Host

/-!
# Addresses of resources

An address has a scheme, and behind two slashes credentials, a host and a port; then
come a path and a query. The schemes of the web have rules of their own. What is kept
is kept as it is written, with the characters spelled out that have to be.
-/
namespace ColumnWire

/-- An address. -/
structure Url where
  scheme : List Char
  user : List Char := []
  password : Option (List Char) := none
  host : Option Host := none
  port : Option Nat := none
  path : List Char := []
  query : List Char := []
deriving Repr, DecidableEq, Inhabited

namespace Url

/-- How the scheme shapes the rest. -/
inductive Kind where
  | web
  | file
  | other
deriving DecidableEq

/-- The kind of a scheme. -/
def kind (scheme : List Char) : Kind :=
  if ["http", "https", "ws", "wss", "ftp"].contains (String.ofList scheme) then .web
  else if String.ofList scheme = "file" then .file
  else .other

/-- A text without the blanks and controls at its ends, and without line breaks and tabs. -/
def cleaned (cs : List Char) : List Char :=
  let blank : Char → Bool := fun c => c.toNat ≤ 0x20
  let inner := ((cs.dropWhile blank).reverse.dropWhile blank).reverse
  inner.filter fun c => c ≠ '\t' && c ≠ '\n' && c ≠ '\r'

/-- The scheme in lower case, and what follows its colon. -/
def scheme? (cs : List Char) : Option (List Char × List Char) :=
  let (scheme, rest) := cs.span fun c => c.isAlphanum || c = '+' || c = '-' || c = '.'
  match rest with
  | ':' :: rest =>
    if (scheme.head?.map Char.isAlpha).getD false then some (scheme.map Char.toLower, rest) else none
  | _ => none

/-- Whether a character ends the part with the host. -/
def endsAuthority (k : Kind) (c : Char) : Bool :=
  c = '/' || c = '?' || c = '#' || (c = '\\' && k ≠ .other)

/-- The part before the last at sign, if there is one, and what follows it. -/
def splitAtSign (cs : List Char) : Option (List Char × List Char) :=
  let (after, before) := cs.reverse.span (· ≠ '@')
  match before with
  | '@' :: before => some (before.reverse, after.reverse)
  | _ => none

/-- User and password, each spelled out where needed. An empty password is none. -/
def credentials (cs : List Char) : List Char × Option (List Char) :=
  let (user, rest) := cs.span (· ≠ ':')
  let password := rest.drop 1
  (Percent.encode Percent.credentials user,
    if password = [] then none else some (Percent.encode Percent.credentials password))

/-- Split off the host: it ends at a colon, unless that is between brackets. -/
def splitHost (inBrackets : Bool) (done : List Char) : List Char → List Char × List Char
  | [] => (done.reverse, [])
  | c :: cs =>
    if c = ':' ∧ ¬inBrackets then (done.reverse, c :: cs)
    else splitHost (if c = '[' then true else if c = ']' then false else inBrackets) (c :: done) cs

/-- The number of the port, and what follows a backslash behind it. Without digits there is none. -/
def port? (cs : List Char) : Except UrlFault (Option Nat × List Char) :=
  let (digits, rest) := cs.span (· ≠ '\\')
  if digits = [] then .ok (none, rest)
  else if digits.all Char.isDigit ∧ Digits.value digits < 65536 then
    .ok (some (Digits.value digits), rest)
  else .error .badPort

/-- Path and query. A fragment is dropped. -/
def splitQuery (cs : List Char) : List Char × List Char :=
  let cs := cs.takeWhile (· ≠ '#')
  let (path, query) := cs.span (· ≠ '?')
  (path, query.drop 1)

/-! ## Paths -/

/-- Whether a segment stands for the same level, or for the level above. -/
def isDot (segment : List Char) : Bool :=
  [".", "%2e"].contains (String.ofList (segment.map Char.toLower))

def isDoubleDot (segment : List Char) : Bool :=
  ["..", "%2e.", ".%2e", "%2e%2e"].contains (String.ofList (segment.map Char.toLower))

/-- Whether a text names a drive. -/
def isDrive : List Char → Bool
  | [letter, sign] => letter.isAlpha && (sign = ':' || sign = '|')
  | _ => false

/-- Whether a segment starts with a drive, by itself or before a backslash. Such a segment is
never left. -/
def onDrive (segment : List Char) : Bool :=
  isDrive (segment.take 2) && (segment.length = 2 || segment[2]? = some '\\')

/-- Resolve the segments of a path; `done` holds those above, the nearest first. The last segment
is there even if it is empty. -/
def resolve (done : List (List Char)) : List (List Char) → List (List Char)
  | [] => done.reverse
  | segment :: rest =>
    let last := rest = []
    if isDoubleDot segment then
      let above := match done with
        | top :: above => if onDrive top then done else above
        | [] => []
      resolve (if last then [] :: above else above) rest
    else if isDot segment then resolve (if last then [] :: done else done) rest
    else resolve (segment :: done) rest

/-- A path in its shortest form, spelled out where needed. -/
def normalizePath (cs : List Char) : List Char :=
  match Percent.encode Percent.path cs with
  | [] => []
  | path =>
    let segments := (if path.head? = some '/' then path.drop 1 else path).splitOnP (· = '/')
    (resolve [] segments).flatMap ('/' :: ·)

/-! ## Whole addresses -/

/-- Read what follows the two slashes of an address. -/
def withAuthority (scheme cs : List Char) : Except UrlFault Url := do
  let k := kind scheme
  let (authority, rest) := cs.span fun c => !endsAuthority k c
  let (login, place) ← match splitAtSign authority with
    | none => pure ([], authority)
    | some ([], place) => if place = [] ∧ rest ≠ [] then throw .noHost else pure ([], place)
    | some (login, place) => pure (login, place)
  let (user, password) := credentials login
  let (hostText, portText) := splitHost false [] place
  if hostText = [] ∧ (k = .web ∨ portText ≠ []) then throw .noHost
  let host ← if k = .web then Host.ofWeb hostText else Host.ofOpaque hostText
  let (port, afterPort) ← port? (portText.drop 1)
  if host.text = [] ∧ (user ≠ [] ∨ password.isSome) then throw .noHost
  let (path, query) := splitQuery (afterPort ++ rest)
  return { scheme, user, password, host := if host.text = [] then none else some host, port,
           path := normalizePath path, query }

/-- Read the host of an address of a file. -/
def ofFile (scheme cs : List Char) : Except UrlFault Url := do
  let isSlash : Char → Bool := fun c => c = '/' || c = '\\'
  match cs with
  | a :: b :: rest =>
    if isSlash a ∧ isSlash b then
      let hostText := rest.takeWhile fun c => !endsAuthority .file c
      if hostText = [] ∨ isDrive hostText then return { scheme }
      let host ← Host.ofWeb hostText
      return { scheme, host := some host }
    else return { scheme }
  | _ => return { scheme }

/-- Read an address. Without two slashes it has no host. -/
def parse (text : String) : Except UrlFault Url :=
  match scheme? (cleaned text.toList) with
  | none => .error .noScheme
  | some (scheme, rest) =>
    match kind scheme with
    | .web => withAuthority scheme (rest.dropWhile fun c => c = '/' || c = '\\')
    | .file => ofFile scheme rest
    | .other =>
      match rest with
      | '/' :: '/' :: rest => withAuthority scheme rest
      | rest => .ok { scheme, path := rest }

end Url

end ColumnWire
