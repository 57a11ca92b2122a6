import ShapeQuery.Proofs.Document.Token

/-!
# Lexemes of the query language

The query language cuts a text into marks, names, numbers and texts, with blanks, line
ends, commas and comments between them.  Where a text has nothing but marks and names, its
lexemes are the tokens of documents.
-/

namespace ShapeQuery

inductive Lexeme where
  | mark (character : Char)
  | spread
  | name (text : String)
  | integer
  | decimal
  | text
  deriving DecidableEq, Repr

namespace Lexeme

def isMark (character : Char) : Bool :=
  ['!', '$', '&', '(', ')', ':', '=', '@', '[', ']', '\x7b', '|', '\x7d'].contains character

def isLineEnd (character : Char) : Bool :=
  character == '\n' || character == '\r'

/-- Characters that only keep lexemes apart. -/
def isIgnored (character : Char) : Bool :=
  isLineEnd character || character == ' ' || character == '\t' || character == ',' ||
    character == '\uFEFF'

/-- Characters that a name may begin with. -/
def beginsName (character : Char) : Bool :=
  character.isAlpha || character == '_'

def isHexDigit (character : Char) : Bool :=
  character.isDigit || ('a' ≤ character && character ≤ 'f') ||
    ('A' ≤ character && character ≤ 'F')

/-- What follows a text behind its opening quote. -/
def afterText : List Char → Option (List Char)
  | '"' :: rest => some rest
  | '\\' :: 'u' :: first :: second :: third :: fourth :: rest =>
    if [first, second, third, fourth].all isHexDigit then afterText rest else none
  | '\\' :: letter :: rest =>
    if ['"', '\\', '/', 'b', 'f', 'n', 'r', 't'].contains letter then afterText rest else none
  | character :: rest => if isLineEnd character then none else afterText rest
  | [] => none

/-- What follows a text that may have several lines, behind its three opening quotes. -/
def afterBlock : List Char → Option (List Char)
  | '"' :: '"' :: '"' :: rest => some rest
  | '\\' :: '"' :: '"' :: '"' :: rest => afterBlock rest
  | _ :: rest => afterBlock rest
  | [] => none

/-- What follows at least one digit. -/
def afterDigits : List Char → Option (List Char)
  | [] => none
  | digit :: rest => if digit.isDigit then some (rest.dropWhile Char.isDigit) else none

/-- What follows a whole number; only zero itself begins with zero. -/
def afterWhole : List Char → Option (List Char)
  | '-' :: '0' :: rest | '0' :: rest => some rest
  | '-' :: rest | rest => afterDigits rest

/-- What follows the digits behind a point, if there is one, and whether there is. -/
def afterFraction : List Char → Option (Bool × List Char)
  | '.' :: rest => (afterDigits rest).map (true, ·)
  | rest => some (false, rest)

/-- What follows an exponent, if there is one, and whether there is. -/
def afterExponent : List Char → Option (Bool × List Char)
  | 'e' :: '+' :: rest | 'e' :: '-' :: rest | 'E' :: '+' :: rest | 'E' :: '-' :: rest
  | 'e' :: rest | 'E' :: rest => (afterDigits rest).map (true, ·)
  | rest => some (false, rest)

/-- A number at the front of a text.  Neither a point nor a name may follow it directly. -/
def number? (text : List Char) : Option (Lexeme × List Char) := do
  let rest ← afterWhole text
  let (broken, rest) ← afterFraction rest
  let (scaled, rest) ← afterExponent rest
  let stopped := rest.head?.all fun next => next != '.' && !isWordCharacter next
  if stopped then return (if broken || scaled then decimal else integer, rest) else none

/-- A spread, a text or a number at the front of a text. -/
def literal? : List Char → Option (Lexeme × List Char)
  | '.' :: '.' :: '.' :: rest => some (spread, rest)
  | '"' :: '"' :: '"' :: rest => (afterBlock rest).map (text, ·)
  | '"' :: rest => (afterText rest).map (text, ·)
  | rest => number? rest

/-- The lexeme at the front of a text that begins with no ignored character. -/
def next? (character : Char) (rest : List Char) : Option (Lexeme × List Char) :=
  if isMark character then some (mark character, rest)
  else if beginsName character then
    some (name (String.ofList (character :: rest.takeWhile isWordCharacter)),
      rest.dropWhile isWordCharacter)
  else literal? (character :: rest)

/-- Cuts a text in at most `limit` steps. -/
def lexUpTo : Nat → List Char → Option (List Lexeme)
  | _, [] => some []
  | 0, _ :: _ => none
  | limit + 1, character :: rest =>
    if isIgnored character then lexUpTo limit rest
    else if character = '#' then lexUpTo limit (rest.dropWhile fun other => !isLineEnd other)
    else do
      let (lexeme, rest) ← next? character rest
      let lexemes ← lexUpTo limit rest
      return lexeme :: lexemes

/-- The lexemes of a text.  Every step takes at least one character. -/
def lex? (text : String) : Option (List Lexeme) :=
  lexUpTo text.toList.length text.toList

end Lexeme

/-! ## Tokens as lexemes -/

namespace DocumentToken

/-- The token is a mark, or a word that is a name. -/
def isPlain : DocumentToken → Bool
  | .word text => isName text
  | .stray _ => false
  | _ => true

def lexeme : DocumentToken → Lexeme
  | .word text => .name text
  | .dollar => .mark '$'
  | .colon => .mark ':'
  | .bang => .mark '!'
  | .openParenthesis => .mark '('
  | .closeParenthesis => .mark ')'
  | .openBracket => .mark '['
  | .closeBracket => .mark ']'
  | .openBrace => .mark '\x7b'
  | .closeBrace => .mark '\x7d'
  | .stray character => .mark character

end DocumentToken

namespace Lexeme

open DocumentToken (lexFrom ofMark? lexeme isPlain Stops)

theorem isIgnored_of_beginsName {character : Char} (begins : beginsName character = true) :
    isIgnored character = false ∧ isMark character = false ∧ character ≠ '#' := by
  refine ⟨?_, ?_, ?_⟩
  · rw [Bool.eq_false_iff]
    intro ignored
    simp only [isIgnored, isLineEnd, Bool.or_eq_true, beq_iff_eq] at ignored
    rcases ignored with ((((rfl | rfl) | rfl) | rfl) | rfl) | rfl <;> cases begins
  · rw [Bool.eq_false_iff]
    intro marked
    simp only [isMark, List.contains_cons, List.contains_nil, Bool.or_eq_true, beq_iff_eq,
      Bool.false_eq_true, or_false] at marked
    rcases marked with rfl | rfl | rfl | rfl | rfl | rfl | rfl | rfl | rfl | rfl | rfl | rfl |
      rfl <;>
      cases begins
  · rintro rfl
    cases begins

theorem lexUpTo_name {limit : Nat} {first : Char} (begins : beginsName first = true)
    (rest : List Char) :
    lexUpTo (limit + 1) (first :: rest) =
      (lexUpTo limit (rest.dropWhile isWordCharacter)).map
        (name (String.ofList (first :: rest.takeWhile isWordCharacter)) :: ·) := by
  obtain ⟨kept, unmarked, visible⟩ := isIgnored_of_beginsName begins
  rw [lexUpTo, if_neg (by simp [kept]), if_neg visible, next?, if_neg (by simp [unmarked]),
    if_pos begins]
  exact Option.map_eq_bind.symm

theorem lexUpTo_mark {limit : Nat} {character : Char} (marked : isMark character = true)
    (kept : isIgnored character = false) (visible : character ≠ '#') (rest : List Char) :
    lexUpTo (limit + 1) (character :: rest) =
      (lexUpTo limit rest).map (mark character :: ·) := by
  rw [lexUpTo, if_neg (by simp [kept]), if_neg visible, next?, if_pos marked]
  exact Option.map_eq_bind.symm

/-- A character other than that of a word is ignored, is the mark of its token, or is
stray. -/
theorem ofMark?_cases (character : Char) :
    (ofMark? character = none ∧ isIgnored character = true) ∨
      (∃ token, ofMark? character = some token ∧ token.lexeme = mark character ∧
        isMark character = true ∧ isIgnored character = false ∧ character ≠ '#') ∨
      ofMark? character = some (.stray character) := by
  unfold ofMark?
  split
  -- the ignored characters, then everything that is no mark; the others are marks
  case h_10 | h_11 | h_12 | h_13 | h_14 => exact .inl ⟨rfl, rfl⟩
  case h_15 => exact .inr (.inr rfl)
  all_goals exact .inr (.inl ⟨_, rfl, rfl, rfl, rfl, by decide⟩)

theorem stops_dropWhile (text : List Char) : Stops (text.dropWhile isWordCharacter) := by
  induction text with
  | nil => trivial
  | cons character rest induction =>
      rw [List.dropWhile_cons]
      split
      · exact induction
      · exact Bool.eq_false_iff.mpr ‹_›

theorem lexFrom_word_cons {first : Char} (word : isWordCharacter first = true)
    (rest : List Char) :
    lexFrom [] (first :: rest) =
      .word (String.ofList (first :: rest.takeWhile isWordCharacter)) ::
        lexFrom [] (rest.dropWhile isWordCharacter) := by
  have characters : (first :: rest.takeWhile isWordCharacter).all isWordCharacter = true := by
    rw [List.all_cons, word, Bool.true_and, List.all_takeWhile]
  calc
    lexFrom [] (first :: rest)
        = lexFrom [] ((first :: rest.takeWhile isWordCharacter) ++
            rest.dropWhile isWordCharacter) := by
        rw [List.cons_append, List.takeWhile_append_dropWhile]
    _ = lexFrom (first :: rest.takeWhile isWordCharacter).reverse
          (rest.dropWhile isWordCharacter) := by
        rw [DocumentToken.lexFrom_word characters, List.append_nil]
    _ = _ := by
        rw [DocumentToken.lexFrom_of_stops (stops_dropWhile rest)]
        simp [DocumentToken.flush]

/-- A text of marks and names is cut into the lexemes that its tokens are. -/
theorem lexUpTo_of_plain {limit : Nat} {text : List Char} (enough : text.length ≤ limit)
    (plain : ∀ token ∈ lexFrom [] text, token.isPlain = true) :
    lexUpTo limit text = some ((lexFrom [] text).map lexeme) := by
  -- by the limit and not along the text, because a word takes several characters in one step
  induction limit generalizing text with
  | zero =>
      obtain rfl := List.eq_nil_of_length_eq_zero (Nat.le_zero.mp enough)
      rfl
  | succ limit induction =>
      match text with
      | [] => rfl
      | character :: rest =>
          rw [List.length_cons] at enough
          by_cases word : isWordCharacter character = true
          · -- the whole word is one name
            rw [lexFrom_word_cons word] at plain ⊢
            obtain ⟨written, restPlain⟩ := List.forall_mem_cons.mp plain
            have begins : beginsName character = true := by
              simp only [isPlain, isName, String.toList_ofList, Bool.and_eq_true] at written
              exact written.1
            have shorter : (rest.dropWhile isWordCharacter).length ≤ limit :=
              Nat.le_trans (List.dropWhile_suffix _).length_le (by omega)
            rw [lexUpTo_name begins, induction shorter restPlain]
            rfl
          · have noWord := Bool.eq_false_iff.mpr word
            rw [DocumentToken.lexFrom_mark noWord] at plain ⊢
            obtain ⟨unmarked, ignored⟩ | ⟨token, marked, same, isMarked, kept, visible⟩ |
              stray := ofMark?_cases character
            · rw [unmarked] at plain ⊢
              rw [lexUpTo, if_pos ignored]
              exact induction (by omega) plain
            · rw [marked] at plain ⊢
              obtain ⟨_, restPlain⟩ := List.forall_mem_cons.mp plain
              rw [lexUpTo_mark isMarked kept visible, induction (by omega) restPlain]
              simp [same]
            · rw [stray] at plain
              have unplain := plain (.stray character) List.mem_cons_self
              cases unplain

theorem lex?_of_plain {text : String}
    (plain : ∀ token ∈ DocumentToken.lex text, token.isPlain = true) :
    lex? text = some ((DocumentToken.lex text).map lexeme) :=
  lexUpTo_of_plain (Nat.le_refl _) plain

end Lexeme

end ShapeQuery
