import ShapeQuery.Proofs.Json.Number
import ShapeQuery.Proofs.Json.Text

/-!
# Tokens of written values

`Lexes text tokens rest` says that the front of a text is cut into some tokens before
the rest of it; such judgments are composed from left to right.  A written value is
cut into the tokens of its parts, so its text has no other reading.
-/

namespace ShapeQuery

namespace Json

mutual

def tokens : Json → List Token
  | .null => [.word (.ok .null)]
  | .boolean value => [.word (.ok (.boolean value))]
  | .integer value => [.number (.wellFormed (.ok (.integer value)))]
  | .floating value => [.number (.wellFormed (.ok (.floating value)))]
  | .text value => [.text (.wellFormed (.ok value))]
  | .list [] => [.openList, .closeList]
  | .list (item :: rest) => .openList :: (tokens item ++ itemTokens rest)
  | .object [] => [.openObject, .closeObject]
  | .object ((name, value) :: rest) =>
    .openObject :: .text (.wellFormed (.ok name)) :: .colon ::
      (tokens value ++ memberTokens rest)

/-- The tokens of the items after the first and of the closing bracket. -/
def itemTokens : List Json → List Token
  | [] => [.closeList]
  | item :: rest => .comma :: (tokens item ++ itemTokens rest)

/-- The tokens of the members after the first and of the closing brace. -/
def memberTokens : List (String × Json) → List Token
  | [] => [.closeObject]
  | (name, value) :: rest =>
    .comma :: .text (.wellFormed (.ok name)) :: .colon ::
      (tokens value ++ memberTokens rest)

end

/-! ## Cutting texts -/

/-- The front of a text is cut into tokens, each of at least one character, before
the rest. -/
structure Lexes (text : List Char) (tokens : List Token) (rest : List Char) : Prop where
  counted : tokens.length + rest.length ≤ text.length
  cut : ∀ limit, lexUpTo (tokens.length + limit) text = tokens ++ lexUpTo limit rest

namespace Lexes

variable {text middle rest : List Char} {left right : List Token}

theorem append (first : Lexes text left middle) (second : Lexes middle right rest) :
    Lexes text (left ++ right) rest := by
  constructor
  · have leftCounted := first.counted
    have rightCounted := second.counted
    simp only [List.length_append]
    omega
  · intro limit
    calc
      lexUpTo ((left ++ right).length + limit) text
          = lexUpTo (left.length + (right.length + limit)) text := by
          rw [List.length_append, Nat.add_assoc]
      _ = left ++ lexUpTo (right.length + limit) middle := first.cut _
      _ = left ++ (right ++ lexUpTo limit rest) := by rw [second.cut]
      _ = left ++ right ++ lexUpTo limit rest := (List.append_assoc ..).symm

/-- One token that starts with a character other than a blank. -/
theorem token {character : Char} {tail after : List Char} {token : Token}
    (visible : isJsonBlank character = false)
    (next : nextToken character tail = (token, after))
    (shorter : after.length ≤ tail.length) : Lexes (character :: tail) [token] after := by
  constructor
  · simp only [List.length_cons, List.length_nil]
    omega
  · intro limit
    rw [List.length_singleton, Nat.add_comm, lexUpTo]
    simp [visible, next]

/-- Lexing a whole text needs no more tokens than there are characters. -/
theorem lex_eq (whole : Lexes text left []) : lex text = left := by
  have counted := whole.counted
  obtain ⟨spare, enough⟩ := Nat.exists_eq_add_of_le counted
  have nothing : lexUpTo spare [] = [] := by cases spare <;> rfl
  rw [lex, enough, List.length_nil, Nat.add_zero, whole.cut, nothing, List.append_nil]

end Lexes

/-! ## The parts of a written value -/

theorem lexes_writeText (value : String) (rest : List Char) :
    Lexes (writeText value ++ rest) [.text (.wellFormed (.ok value))] rest := by
  have written : writeText value ++ rest =
      '"' :: (value.toList.flatMap escape ++ '"' :: rest) := by
    simp [writeText]
  rw [written]
  apply Lexes.token rfl
  · simp [nextToken, readText_escaped]
  · simp only [List.length_append, List.length_cons]
    omega

theorem nextToken_number {character : Char} {tail after : List Char} {number : Number}
    (first : character = '-' ∨ character.isDigit = true)
    (reads : readNumber (character :: tail) = (.wellFormed (.ok number), after)) :
    nextToken character tail = (.number (.wellFormed (.ok number)), after) := by
  unfold nextToken
  split
  -- only the last branch is left to a sign or a digit
  case h_11 =>
    rw [if_pos first, reads]
    rfl
  all_goals simp at first

theorem toList_repr_eq_cons (value : Int) :
    ∃ character tail, (Int.repr value).toList = character :: tail ∧
      (character = '-' ∨ character.isDigit = true) := by
  cases value with
  | ofNat magnitude =>
      obtain ⟨digit, others, digits, _⟩ := toDigits_eq_cons magnitude
      refine ⟨digit, others, by rw [toList_repr_ofNat, digits], .inr ?_⟩
      exact Nat.isDigit_of_mem_toDigits (by decide) (by decide) (digits ▸ List.mem_cons_self)
  | negSucc magnitude => exact ⟨'-', _, toList_repr_negSucc magnitude, .inl rfl⟩

theorem not_isJsonBlank_of_number {character : Char}
    (first : character = '-' ∨ character.isDigit = true) :
    isJsonBlank character = false := by
  unfold isJsonBlank
  simp only [Bool.or_eq_false_iff, beq_eq_false_iff_ne]
  refine ⟨⟨⟨?_, ?_⟩, ?_⟩, ?_⟩ <;> rintro rfl <;> simp at first

theorem lexes_integer {value : Int} (word : IsWord value) {rest : List Char}
    (delimited : Delimited rest) :
    Lexes ((Int.repr value).toList ++ rest)
      [.number (.wellFormed (.ok (.integer value)))] rest := by
  have reads := readNumber_repr word delimited
  obtain ⟨character, tail, written, first⟩ := toList_repr_eq_cons value
  rw [written, List.cons_append] at reads ⊢
  apply Lexes.token (not_isJsonBlank_of_number first) (nextToken_number first reads)
  simp

theorem Lexes.mark {mark : Char} {token : Token} {text rest : List Char}
    {tokens : List Token} (visible : isJsonBlank mark = false)
    (next : nextToken mark text = (token, text)) (behind : Lexes text tokens rest) :
    Lexes (mark :: text) (token :: tokens) rest :=
  (Lexes.token visible next (Nat.le_refl _)).append behind

theorem delimited_nil : Delimited [] := by simp [Delimited]

theorem delimited_writeItems (items : List Json) (rest : List Char) :
    Delimited (writeItems items ++ rest) := by
  cases items <;> simp [writeItems, Delimited]

theorem delimited_writeMembers (members : List (String × Json)) (rest : List Char) :
    Delimited (writeMembers members ++ rest) := by
  cases members <;> simp [writeMembers, Delimited]

/-! ## Written values -/

mutual

/-- A plain value is cut into its tokens, wherever its text may stand. -/
theorem lexes_write :
    (json : Json) → json.Plain → {rest : List Char} → Delimited rest →
      Lexes (write json ++ rest) (tokens json) rest
  | .null, _, rest, _ => Lexes.token rfl rfl (Nat.le_add_right rest.length 3)
  | .boolean true, _, rest, _ => Lexes.token rfl rfl (Nat.le_add_right rest.length 3)
  | .boolean false, _, rest, _ => Lexes.token rfl rfl (Nat.le_add_right rest.length 4)
  | .integer value, word, rest, delimited => lexes_integer word delimited
  | .text value, _, rest, _ => lexes_writeText value rest
  | .list [], _, rest, _ => by
      apply Lexes.mark rfl rfl
      exact Lexes.token rfl rfl (Nat.le_refl _)
  | .list (item :: items), plain, rest, _ => by
      obtain ⟨itemPlain, restPlain⟩ := plain
      rw [write, tokens, List.cons_append, List.append_assoc]
      apply Lexes.mark rfl rfl
      apply Lexes.append
      · exact lexes_write item itemPlain (delimited_writeItems items rest)
      · exact lexes_writeItems items restPlain rest
  | .object [], _, rest, _ => by
      apply Lexes.mark rfl rfl
      exact Lexes.token rfl rfl (Nat.le_refl _)
  | .object ((name, value) :: members), plain, rest, _ => by
      obtain ⟨_, valuePlain, restPlain⟩ := plain
      rw [write, tokens, List.cons_append, List.append_assoc, List.cons_append,
        List.append_assoc]
      apply Lexes.mark rfl rfl
      apply (lexes_writeText name _).append
      apply Lexes.mark rfl rfl
      apply Lexes.append
      · exact lexes_write value valuePlain (delimited_writeMembers members rest)
      · exact lexes_writeMembers members restPlain rest

theorem lexes_writeItems :
    (items : List Json) → PlainList items → (rest : List Char) →
      Lexes (writeItems items ++ rest) (itemTokens items) rest
  | [], _, rest => Lexes.token rfl rfl (Nat.le_refl _)
  | item :: items, plain, rest => by
      obtain ⟨itemPlain, restPlain⟩ := plain
      rw [writeItems, itemTokens, List.cons_append, List.append_assoc]
      apply Lexes.mark rfl rfl
      apply Lexes.append
      · exact lexes_write item itemPlain (delimited_writeItems items rest)
      · exact lexes_writeItems items restPlain rest

theorem lexes_writeMembers :
    (members : List (String × Json)) → PlainMembers members → (rest : List Char) →
      Lexes (writeMembers members ++ rest) (memberTokens members) rest
  | [], _, rest => Lexes.token rfl rfl (Nat.le_refl _)
  | (name, value) :: members, plain, rest => by
      obtain ⟨valuePlain, restPlain⟩ := plain
      rw [writeMembers, memberTokens, List.cons_append, List.append_assoc, List.cons_append,
        List.append_assoc]
      apply Lexes.mark rfl rfl
      apply (lexes_writeText name _).append
      apply Lexes.mark rfl rfl
      apply Lexes.append
      · exact lexes_write value valuePlain (delimited_writeMembers members rest)
      · exact lexes_writeMembers members restPlain rest

end

theorem lex_write {json : Json} (plain : json.Plain) : lex (write json) = tokens json := by
  have whole := lexes_write json plain delimited_nil
  rw [List.append_nil] at whole
  exact whole.lex_eq

end Json

end ShapeQuery
