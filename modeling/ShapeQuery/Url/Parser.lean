import ShapeQuery.Url
import ShapeQuery.Url.Host

/-!
# Reading web addresses

Blanks and controls around the text and tabs and line ends inside it are dropped,
a backslash counts as a slash up to the query, any number of slashes may follow
the scheme, and dot segments are resolved.  A text of another scheme, without a
host, or with a bad host or port is no web address.
-/

namespace ShapeQuery

namespace Url

/-- Blanks and controls that may surround an address. -/
def isOuterBlank (character : Char) : Bool :=
  character.toNat ≤ 0x20

/-- Characters that are dropped anywhere. -/
def isDropped (character : Char) : Bool :=
  character == '\t' || character == '\n' || character == '\r'

def isSlash (character : Char) : Bool :=
  character == '/' || character == '\\'

/-- Whether the character ends the authority. -/
def endsAuthority (character : Char) : Bool :=
  isSlash character || character == '?' || character == '#'

/-- The text before and behind the first character of a class. -/
def cut (stops : Char → Bool) (text : List Char) : List Char × List Char :=
  (text.takeWhile (fun character => !stops character),
    text.dropWhile (fun character => !stops character))

/-- The scheme and the text behind its colon. -/
def readScheme? (text : List Char) : Option (Scheme × List Char) :=
  let (name, rest) := cut (· == ':') text
  match rest with
  | ':' :: after =>
    match String.ofList (name.map Char.toLower) with
    | "http" => some (.http, after)
    | "https" => some (.https, after)
    | _ => none
  | _ => none

/-- The written credentials with their separator: a user name and a password,
either of which may be empty. -/
def renderCredentials (text : List Char) : String :=
  let (name, rest) := cut (· == ':') text
  let password := rest.drop 1
  let encode (part : List Char) : List Char := percentEncode inCredentialsSet part
  if password.isEmpty then
    if name.isEmpty then "" else String.ofList (encode name ++ ['@'])
  else String.ofList (encode name ++ ':' :: (encode password ++ ['@']))

/-- The credentials before the last at sign of the authority, and the rest. -/
def readCredentials (authority : List Char) : String × List Char :=
  let host := (authority.reverse.takeWhile (· != '@')).reverse
  if host.length = authority.length then ("", authority)
  else (renderCredentials (authority.take (authority.length - host.length - 1)), host)

/-- The host before the first colon outside brackets, and the rest. -/
def cutHost (inBrackets : Bool) : List Char → List Char × List Char
  | [] => ([], [])
  | character :: rest =>
    if character = ':' ∧ !inBrackets then ([], character :: rest)
    else
      let inside :=
        if character = '[' then true else if character = ']' then false else inBrackets
      let (host, after) := cutHost inside rest
      (character :: host, after)

/-- The port behind the host, unless it is the default one. -/
def readPort? (scheme : Scheme) : List Char → Option (Option Nat)
  | [] => some none
  | ':' :: digits =>
    if digits.all Char.isDigit then
      let port := Nat.ofDigitChars 10 digits 0
      if 65535 < port then none
      else if digits.isEmpty ∨ port = scheme.defaultPort then some none
      else some (some port)
    else none
  | _ => none

/-- A segment with its escaped dots unescaped. -/
def unescapeDots : List Char → List Char
  | '%' :: '2' :: 'e' :: rest | '%' :: '2' :: 'E' :: rest => '.' :: unescapeDots rest
  | character :: rest => character :: unescapeDots rest
  | [] => []

/-- Whether a segment is a letter followed by a colon or a bar. -/
def isDriveLetter : List Char → Bool
  | [letter, mark] => letter.isAlpha && (mark == ':' || mark == '|')
  | _ => false

/-- Resolves dot segments; `done` holds the finished segments in reverse, each
followed by a slash.  A double dot removes the last finished segment, unless that
is a drive letter. -/
def resolveSegments (done : List (List Char)) : List (List Char) → List (List Char)
  | [] => done.reverse
  | segment :: rest =>
    let isLast := rest.isEmpty
    let shortened :=
      match done with
      | last :: others => if isDriveLetter last then done else others
      | [] => []
    match unescapeDots segment with
    | ['.', '.'] =>
      if isLast then ([] :: shortened).reverse else resolveSegments shortened rest
    | ['.'] => if isLast then ([] :: done).reverse else resolveSegments done rest
    | _ => resolveSegments (segment :: done) rest

/-- The parts of a path between slashes. -/
def splitSegments (path : List Char) : List (List Char) :=
  path.splitOnP isSlash

def renderPath (path : List Char) : String :=
  let text :=
    match path with
    | [] => []
    | _ :: rest => rest
  let segments := (splitSegments text).map (percentEncode inPathSet)
  String.ofList ((resolveSegments [] segments).flatMap ('/' :: ·))

/-- The address that a text writes. -/
def parse? (text : String) : Option Url := do
  let trimmed :=
    ((text.toList.dropWhile isOuterBlank).reverse.dropWhile isOuterBlank).reverse
  let (scheme, rest) ← readScheme? (trimmed.filter (!isDropped ·))
  let (authority, rest) := cut endsAuthority (rest.dropWhile isSlash)
  let (credentials, hostPort) := readCredentials authority
  let (hostText, portText) := cutHost false hostPort
  let host ← readHost? hostText
  let port ← readPort? scheme portText
  let (path, rest) := cut (fun character => character == '?' || character == '#') rest
  let (query, rest) := cut (· == '#') rest
  let encodeTail (set : Char → Bool) (tail : List Char) : Option String :=
    match tail with
    | [] => none
    | _ :: behind => some (String.ofList (percentEncode set behind))
  return {
    scheme, credentials, host, port
    path := renderPath path
    query := encodeTail inQuerySet query
    fragment := encodeTail inFragmentSet rest }

end Url

end ShapeQuery
