import ShapeQuery.Json.Number

/-!
# JSON tokens

The lexer cuts a text into tokens without looking at their order.  Each scalar
token carries what a strict reader makes of it and whether a loose reader, which
only skips over it, accepts it; the lexer stops behind the first token that no
reader accepts.  The end of the token list is the end of the text.
-/

namespace ShapeQuery

namespace Json

inductive Word where
  | null
  | boolean (value : Bool)
  deriving DecidableEq, Repr

inductive Token where
  | openList
  | closeList
  | openObject
  | closeObject
  | comma
  | colon
  | word (outcome : Except SyntaxFault Word)
  | number (reading : Reading Number)
  | text (reading : Reading String)
  | stray

/-- A piece of a written text: a character, or the code unit of a `\u` escape. -/
inductive TextPiece where
  | character (value : Char)
  | unit (code : Nat)
  deriving DecidableEq, Repr

/-- How the pieces of a written text end. -/
inductive TextEnd where
  | closed (rest : List Char)
  | cut
  | control
  | badLetter
  | badDigit
  deriving DecidableEq, Repr

/-- The value of a hexadecimal digit of either case. -/
def hexValue? (digit : Char) : Option Nat :=
  if '0' ≤ digit ∧ digit ≤ '9' then some (digit.toNat - 48)
  else if 'a' ≤ digit ∧ digit ≤ 'f' then some (digit.toNat - 87)
  else if 'A' ≤ digit ∧ digit ≤ 'F' then some (digit.toNat - 55)
  else none

/-- The value of four hexadecimal digits. -/
def codeUnit? (first second third fourth : Char) : Option Nat := do
  let first ← hexValue? first
  let second ← hexValue? second
  let third ← hexValue? third
  let fourth ← hexValue? fourth
  return ((first * 16 + second) * 16 + third) * 16 + fourth

/-- The character of a one-letter escape. -/
def escapedCharacter? : Char → Option Char
  | '"' => some '"'
  | '\\' => some '\\'
  | '/' => some '/'
  | 'b' => some '\x08'
  | 'f' => some '\x0c'
  | 'n' => some '\n'
  | 'r' => some '\r'
  | 't' => some '\t'
  | _ => none

/-- The number of UTF-8 bytes of some characters. -/
def byteCount (characters : List Char) : Nat :=
  characters.foldr (fun character count => character.utf8Size + count) 0

/-- The pieces of a text behind its opening quote.  A `\u` escape takes four
bytes, so a text with fewer bytes left is cut rather than wrong. -/
def textPieces : List Char → List TextPiece × TextEnd
  | [] => ([], .cut)
  | '"' :: rest => ([], .closed rest)
  | ['\\'] => ([], .cut)
  | '\\' :: 'u' :: first :: second :: third :: fourth :: rest =>
    match codeUnit? first second third fourth with
    | some code =>
      let (pieces, ending) := textPieces rest
      (.unit code :: pieces, ending)
    | none => ([], .badDigit)
  | '\\' :: 'u' :: rest => ([], if 4 ≤ byteCount rest then .badDigit else .cut)
  | '\\' :: letter :: rest =>
    match escapedCharacter? letter with
    | some value =>
      let (pieces, ending) := textPieces rest
      (.character value :: pieces, ending)
    | none => ([], .badLetter)
  | value :: rest =>
    if value.toNat < 0x20 then ([], .control)
    else
      let (pieces, ending) := textPieces rest
      (.character value :: pieces, ending)

/-- The fault of an ending, and the rest behind the closing quote. -/
def TextEnd.rest : TextEnd → Except SyntaxFault (List Char)
  | .closed rest => .ok rest
  | .cut => .error .endInText
  | .control => .error .controlCharacter
  | .badLetter => .error .invalidEscape
  | .badDigit => .error .invalidEscape

/-- The fault of a leading surrogate behind which the text ends. -/
def TextEnd.afterLeading : TextEnd → SyntaxFault
  | .cut => .endInText
  | .badDigit => .invalidEscape
  | _ => .unfinishedSurrogate

def isLeadingSurrogate (code : Nat) : Bool := 0xD800 ≤ code && code ≤ 0xDBFF

def isTrailingSurrogate (code : Nat) : Bool := 0xDC00 ≤ code && code ≤ 0xDFFF

/-- The characters of the pieces.  A leading surrogate is joined with the
trailing one that has to follow it. -/
def joinPieces (ending : TextEnd) : List TextPiece → Except SyntaxFault (List Char)
  | [] => ending.rest.map fun _ => []
  | .character value :: rest => (joinPieces ending rest).map (value :: ·)
  | .unit code :: rest =>
    if isTrailingSurrogate code then .error .loneSurrogate
    else if isLeadingSurrogate code then
      match rest with
      | .unit next :: after =>
        if isTrailingSurrogate next then
          (joinPieces ending after).map
            (Char.ofNat (0x10000 + (code - 0xD800) * 0x400 + (next - 0xDC00)) :: ·)
        else .error .loneSurrogate
      | .character _ :: _ => .error .unfinishedSurrogate
      | [] => .error ending.afterLeading
    else (joinPieces ending rest).map (Char.ofNat code :: ·)

/-- Reads a text behind its opening quote. -/
def readText (text : List Char) : Reading String × List Char :=
  let (pieces, ending) := textPieces text
  let strict := (joinPieces ending pieces).map String.ofList
  match ending.rest with
  | .ok rest => (⟨strict, .ok ()⟩, rest)
  | .error cause => (⟨strict, .error cause⟩, [])

/-- Reads the remaining letters of a word. -/
def readWord (word : Word) : List Char → List Char → Except SyntaxFault Word × List Char
  | [], rest => (.ok word, rest)
  | _ :: _, [] => (.error .endInValue, [])
  | letter :: letters, character :: rest =>
    if letter = character then readWord word letters rest else (.error .expectedWord, [])

def isJsonBlank (character : Char) : Bool :=
  character == ' ' || character == '\n' || character == '\t' || character == '\r'

/-- The token at the front of a text that does not start with a blank, and the
rest, which is empty when no reader gets past the token. -/
def nextToken (character : Char) (rest : List Char) : Token × List Char :=
  match character with
  | '[' => (.openList, rest)
  | ']' => (.closeList, rest)
  | '\x7b' => (.openObject, rest)
  | '\x7d' => (.closeObject, rest)
  | ',' => (.comma, rest)
  | ':' => (.colon, rest)
  | 'n' =>
    let (outcome, after) := readWord .null ['u', 'l', 'l'] rest
    (.word outcome, after)
  | 't' =>
    let (outcome, after) := readWord (.boolean true) ['r', 'u', 'e'] rest
    (.word outcome, after)
  | 'f' =>
    let (outcome, after) := readWord (.boolean false) ['a', 'l', 's', 'e'] rest
    (.word outcome, after)
  | '"' =>
    let (reading, after) := readText rest
    (.text reading, after)
  | _ =>
    if character = '-' ∨ character.isDigit then
      let (reading, after) := readNumber (character :: rest)
      match reading.loose with
      | .ok () => (.number reading, after)
      | .error _ => (.number reading, [])
    else (.stray, [])

/-- Cuts at most `limit` tokens off a text. -/
def lexUpTo : Nat → List Char → List Token
  | 0, _ => []
  | limit + 1, characters =>
    match characters.dropWhile isJsonBlank with
    | [] => []
    | character :: rest =>
      let (token, after) := nextToken character rest
      token :: lexUpTo limit after

/-- The tokens of a text.  Every token takes at least one character, so there
are no more tokens than characters. -/
def lex (text : List Char) : List Token :=
  lexUpTo text.length text

end Json

end ShapeQuery
