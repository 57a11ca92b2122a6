/-!
# Reading UTF-8

Bytes are read as UTF-8 with a replacement character for each maximal piece that
starts like a character and does not end as one, and for each byte that starts
none.
-/

namespace ShapeQuery

namespace Text

/-- The character that stands for what cannot be read. -/
def replacementCharacter : Char := '\uFFFD'

/-- A character whose first bytes have been read: how many are still owed, the
value so far, and the range of the next byte. -/
structure Pending where
  owed : Nat
  value : Nat
  low : Nat
  high : Nat
  deriving DecidableEq, Repr

/-- A complete character or one that owes bytes. -/
inductive Utf8Progress where
  | character (value : Char)
  | pending (state : Pending)
  deriving DecidableEq, Repr

/-- Reads the first byte of a character. -/
def beginUtf8 (byte : Nat) : Utf8Progress :=
  if byte < 0x80 then .character (Char.ofNat byte)
  else if byte < 0xC2 then .character replacementCharacter
  else if byte < 0xE0 then .pending ⟨1, byte - 0xC0, 0x80, 0xBF⟩
  else if byte < 0xF0 then
    .pending ⟨2, byte - 0xE0, if byte = 0xE0 then 0xA0 else 0x80,
      if byte = 0xED then 0x9F else 0xBF⟩
  else if byte < 0xF5 then
    .pending ⟨3, byte - 0xF0, if byte = 0xF0 then 0x90 else 0x80,
      if byte = 0xF4 then 0x8F else 0xBF⟩
  else .character replacementCharacter

/-- Reads a further byte of a character, if it continues it. -/
def Pending.advance? (state : Pending) (byte : Nat) : Option Utf8Progress :=
  if byte < state.low ∨ state.high < byte then none
  else
    let value := state.value * 64 + (byte - 0x80)
    if state.owed ≤ 1 then some (.character (Char.ofNat value))
    else some (.pending ⟨state.owed - 1, value, 0x80, 0xBF⟩)

/-- Reads bytes behind a possibly unfinished character. -/
def readUtf8 : Option Pending → List UInt8 → List Char
  | none, [] => []
  | some _, [] => [replacementCharacter]
  | none, byte :: rest =>
    match beginUtf8 byte.toNat with
    | .character value => value :: readUtf8 none rest
    | .pending state => readUtf8 (some state) rest
  | some state, byte :: rest =>
    match state.advance? byte.toNat with
    | some (.character value) => value :: readUtf8 none rest
    | some (.pending next) => readUtf8 (some next) rest
    | none =>
      replacementCharacter ::
        match beginUtf8 byte.toNat with
        | .character value => value :: readUtf8 none rest
        | .pending next => readUtf8 (some next) rest

/-- The text that some bytes write in UTF-8. -/
def decodeUtf8 (bytes : List UInt8) : String :=
  String.ofList (readUtf8 none bytes)

end Text

end ShapeQuery
