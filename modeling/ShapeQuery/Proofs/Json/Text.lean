import ShapeQuery.Json.Token
import ShapeQuery.Json.Writer

/-!
# Reading back written texts

Every character of a text is written as one piece, which is the character itself or
the code unit of a control character.  The pieces are read back one by one, and
joining them gives the text.
-/

namespace ShapeQuery

namespace Json

/-- The piece that a written character is read back as. -/
def pieceOf (character : Char) : TextPiece :=
  if character.toNat < 0x20 ∧ character ∉ ['\x08', '\t', '\n', '\x0c', '\r'] then
    .unit character.toNat
  else .character character

/-- Two digits are enough for the code unit of a control character. -/
theorem codeUnit?_hexDigit {code : Nat} (control : code < 0x20) :
    codeUnit? '0' '0' (hexDigit (code / 16)) (hexDigit (code % 16)) = some code := by
  have all : ∀ code < 0x20,
      codeUnit? '0' '0' (hexDigit (code / 16)) (hexDigit (code % 16)) = some code := by
    decide
  exact all code control

theorem textPieces_cons_of_plain {character : Char} (rest : List Char)
    (notQuote : character ≠ '"') (notBackslash : character ≠ '\\')
    (printable : ¬ character.toNat < 0x20) :
    textPieces (character :: rest) =
      (.character character :: (textPieces rest).1, (textPieces rest).2) := by
  rw [textPieces]
  · simp [printable]
  · exact notQuote
  · intro backslash
    exact (notBackslash backslash).elim
  · intro first second third fourth after backslash
    exact (notBackslash backslash).elim
  · intro after backslash
    exact (notBackslash backslash).elim
  · intro letter after backslash
    exact (notBackslash backslash).elim

/-- A written character is read back as one piece. -/
theorem textPieces_escape (character : Char) (rest : List Char) :
    textPieces (escape character ++ rest) =
      (pieceOf character :: (textPieces rest).1, (textPieces rest).2) := by
  unfold escape
  split
  -- the seven one-letter escapes
  · simp [textPieces, escapedCharacter?, pieceOf]
  · simp [textPieces, escapedCharacter?, pieceOf]
  · simp [textPieces, escapedCharacter?, pieceOf]
  · simp [textPieces, escapedCharacter?, pieceOf]
  · simp [textPieces, escapedCharacter?, pieceOf]
  · simp [textPieces, escapedCharacter?, pieceOf]
  · simp [textPieces, escapedCharacter?, pieceOf]
  · rename_i notQuote notBackslash notBackspace notTab notNewline notFeed notReturn
    split
    · rename_i control
      have long : character ∉ ['\x08', '\t', '\n', '\x0c', '\r'] := by
        simp only [List.mem_cons, List.not_mem_nil, or_false, not_or]
        exact ⟨notBackspace, notTab, notNewline, notFeed, notReturn⟩
      have unit : pieceOf character = .unit character.toNat := if_pos ⟨control, long⟩
      simp only [List.cons_append, List.nil_append, textPieces,
        codeUnit?_hexDigit control, unit]
    · rename_i printable
      have plain : pieceOf character = .character character :=
        if_neg fun both => printable both.1
      rw [List.cons_append, List.nil_append, plain]
      exact textPieces_cons_of_plain rest notQuote notBackslash printable

theorem textPieces_escaped (characters rest : List Char) :
    textPieces (characters.flatMap escape ++ '"' :: rest) =
      (characters.map pieceOf, .closed rest) := by
  induction characters with
  | nil => simp [textPieces]
  | cons character others induction =>
      rw [List.flatMap_cons, List.append_assoc, textPieces_escape, induction, List.map_cons]

theorem joinPieces_map_pieceOf (characters rest : List Char) :
    joinPieces (.closed rest) (characters.map pieceOf) = .ok characters := by
  induction characters with
  | nil => rfl
  | cons character others induction =>
      rw [List.map_cons]
      by_cases control :
          character.toNat < 0x20 ∧ character ∉ ['\x08', '\t', '\n', '\x0c', '\r']
      · have notTrailing : isTrailingSurrogate character.toNat = false := by
          simp [isTrailingSurrogate]
          omega
        have notLeading : isLeadingSurrogate character.toNat = false := by
          simp [isLeadingSurrogate]
          omega
        rw [pieceOf, if_pos control, joinPieces.eq_def]
        simp [notTrailing, notLeading, induction, Except.map, Char.ofNat_toNat]
      · rw [pieceOf, if_neg control, joinPieces, induction]
        rfl

/-- A written text is read back, and what follows it is left. -/
theorem readText_escaped (value : String) (rest : List Char) :
    readText (value.toList.flatMap escape ++ '"' :: rest) =
      (.wellFormed (.ok value), rest) := by
  unfold readText
  rw [textPieces_escaped]
  simp [joinPieces_map_pieceOf, Except.map, TextEnd.rest, Reading.wellFormed]

end Json

end ShapeQuery
