import ShapeQuery.Json.Number
import ShapeQuery.Proofs.Json.Plain

/-!
# Reading back written integers

An integer of 64 bits is written with its decimal digits, which start with a zero
only for zero itself.  They are accumulated without loss and read back as the same
integer, up to a mark that cannot belong to a number.
-/

namespace ShapeQuery

namespace Json

/-- What may stand behind a written value: nothing, a comma or a closing bracket. -/
def Delimited (rest : List Char) : Prop :=
  ∀ mark ∈ rest.head?, mark ∈ [',', ']', '\x7d']

/-! ## Digits -/

/-- Only zero is written with a leading zero. -/
theorem head?_toDigits_of_pos {value : Nat} (positive : 0 < value) :
    (Nat.toDigits 10 value).head? ≠ some '0' := by
  induction value using Nat.strongRecOn with
  | ind value induction =>
      rcases Nat.lt_or_ge value 10 with small | large
      · have all : ∀ digit < 10, 0 < digit → digit.digitChar ≠ '0' := by decide
        rw [Nat.toDigits_of_lt_base small]
        simpa using all value small positive
      · rw [Nat.toDigits_of_base_le (by decide) large]
        have previous := induction (value / 10) (by omega) (by omega)
        rw [List.head?_append]
        cases front : (Nat.toDigits 10 (value / 10)).head? with
        | none => exact (Nat.toDigits_ne_nil (List.head?_eq_none_iff.mp front)).elim
        | some digit => simpa [front] using previous

theorem le_ofDigitChars (digits : List Char) (significand : Nat) :
    significand ≤ Nat.ofDigitChars 10 digits significand := by
  rw [Nat.ofDigitChars_eq_ofDigitChars_zero]
  calc
    significand ≤ 10 ^ digits.length * significand :=
      Nat.le_mul_of_pos_left significand (Nat.pow_pos (by decide))
    _ ≤ 10 ^ digits.length * significand + Nat.ofDigitChars 10 digits 0 :=
      Nat.le_add_right _ _

/-- Digits that stay within the limit are accumulated to the end. -/
theorem accumulate_eq_of_le (digits : List Char) (significand : Nat)
    (within : Nat.ofDigitChars 10 digits significand ≤ significandLimit) :
    accumulate significand digits = (Nat.ofDigitChars 10 digits significand, []) := by
  induction digits generalizing significand with
  | nil => simp [accumulate]
  | cons digit rest induction =>
      rw [Nat.ofDigitChars_cons, Nat.mul_comm] at within ⊢
      have next : significand * 10 + (digit.toNat - '0'.toNat) ≤ significandLimit :=
        Nat.le_trans (le_ofDigitChars rest _) within
      rw [accumulate, if_neg (Nat.not_lt_of_le next)]
      exact induction _ within

theorem takeWhile_toDigits (value : Nat) {rest : List Char}
    (ended : ∀ mark ∈ rest.head?, mark.isDigit = false) :
    (Nat.toDigits 10 value ++ rest).takeWhile Char.isDigit = Nat.toDigits 10 value ∧
      (Nat.toDigits 10 value ++ rest).dropWhile Char.isDigit = rest := by
  have digits : ∀ digit ∈ Nat.toDigits 10 value, digit.isDigit = true := fun digit member =>
    Nat.isDigit_of_mem_toDigits (by decide) (by decide) member
  rw [List.takeWhile_append_of_pos digits, List.dropWhile_append_of_pos digits]
  cases rest with
  | nil => simp
  | cons mark after =>
      have other : mark.isDigit = false := ended mark rfl
      simp [other]

/-- A number is told from what stands behind its digits. -/
theorem eq_of_toDigits_append {value other : Nat} {rest behind : List Char}
    (ended : ∀ mark ∈ rest.head?, mark.isDigit = false)
    (endedOther : ∀ mark ∈ behind.head?, mark.isDigit = false)
    (same : Nat.toDigits 10 value ++ rest = Nat.toDigits 10 other ++ behind) :
    value = other ∧ rest = behind := by
  obtain ⟨digits, left⟩ := takeWhile_toDigits value ended
  obtain ⟨digitsOther, leftOther⟩ := takeWhile_toDigits other endedOther
  rw [same] at digits left
  have numbers := congrArg (Nat.ofDigitChars 10 · 0) (digits.symm.trans digitsOther)
  simp only [Nat.ofDigitChars_ten_toDigits] at numbers
  exact ⟨numbers, left.symm.trans leftOther⟩

/-- A leading zero stands alone. -/
theorem toDigits_eq_cons (value : Nat) :
    ∃ digit others, Nat.toDigits 10 value = digit :: others ∧ (digit = '0' → others = []) := by
  cases digits : Nat.toDigits 10 value with
  | nil => exact (Nat.toDigits_ne_nil digits).elim
  | cons digit others =>
      refine ⟨digit, others, rfl, ?_⟩
      rintro rfl
      rcases Nat.eq_zero_or_pos value with zero | positive
      · rw [zero, Nat.toDigits_zero] at digits
        exact (List.cons.inj digits).2.symm
      · exact (head?_toDigits_of_pos positive (by rw [digits]; rfl)).elim

/-! ## Integers -/

theorem Delimited.not_digit {rest : List Char} (delimited : Delimited rest) :
    ∀ mark ∈ rest.head?, mark.isDigit = false := by
  intro mark front
  have marks := delimited mark front
  simp only [List.mem_cons, List.not_mem_nil, or_false] at marks
  rcases marks with rfl | rfl | rfl <;> rfl

theorem readTail_of_delimited (negative : Bool) (whole : List Char) {rest : List Char}
    (delimited : Delimited rest) :
    readTail negative whole [] rest =
      (.wellFormed (NumberParts.value ⟨negative, whole, [], none⟩), rest) := by
  unfold readTail
  split
  · have marks := delimited 'e' rfl
    simp at marks
  · have marks := delimited 'E' rfl
    simp at marks
  · rfl

/-- A written magnitude is read back whole. -/
theorem readMagnitude_toDigits (negative : Bool) (value : Nat) {rest : List Char}
    (delimited : Delimited rest) :
    readMagnitude negative (Nat.toDigits 10 value ++ rest) =
      (.wellFormed (NumberParts.value ⟨negative, Nat.toDigits 10 value, [], none⟩), rest) := by
  obtain ⟨front, back⟩ := takeWhile_toDigits value delimited.not_digit
  obtain ⟨digit, others, digits, alone⟩ := toDigits_eq_cons value
  unfold readMagnitude
  simp only [front, back]
  rw [digits]
  -- neither the missing digit nor the leading zero can occur
  split
  · rename_i empty
    cases empty
  · rename_i second third leading
    obtain ⟨zero, more⟩ := List.cons.inj leading
    rw [alone zero] at more
    cases more
  · split
    · have marks := delimited '.' rfl
      simp at marks
    · exact readTail_of_delimited negative (digit :: others) delimited

theorem value_toDigits (negative : Bool) {value : Nat} (within : value ≤ significandLimit) :
    NumberParts.value ⟨negative, Nat.toDigits 10 value, [], none⟩ =
      .ok (NumberParts.toInteger ⟨negative, Nat.toDigits 10 value, [], none⟩ value) := by
  have accumulated : accumulate 0 (Nat.toDigits 10 value) = (value, []) := by
    have whole := accumulate_eq_of_le (Nat.toDigits 10 value) 0
    rw [Nat.ofDigitChars_ten_toDigits] at whole
    exact whole within
  simp [NumberParts.value, accumulated, accumulate]

theorem toList_repr_ofNat (value : Nat) :
    (Int.repr (.ofNat value)).toList = Nat.toDigits 10 value := Nat.toList_repr

theorem toList_repr_negSucc (value : Nat) :
    (Int.repr (.negSucc value)).toList = '-' :: Nat.toDigits 10 (value + 1) := by
  simp [Int.repr, Nat.toList_repr]

theorem IsWord.le_significandLimit {magnitude : Nat} (word : IsWord (.ofNat magnitude)) :
    magnitude ≤ significandLimit := by
  have upper : magnitude < Nat.pow 2 64 := Int.ofNat_lt.mp word.2
  exact Nat.le_sub_one_of_lt upper

theorem IsWord.succ_le {magnitude : Nat} (word : IsWord (.negSucc magnitude)) :
    magnitude + 1 ≤ Nat.pow 2 63 := by
  have lower := word.1
  omega

theorem readNumber_toDigits (value : Nat) (rest : List Char) :
    readNumber (Nat.toDigits 10 value ++ rest) =
      readMagnitude false (Nat.toDigits 10 value ++ rest) := by
  unfold readNumber
  split
  · rename_i after signed
    obtain ⟨digit, others, digits, _⟩ := toDigits_eq_cons value
    have isDigit : digit.isDigit = true :=
      Nat.isDigit_of_mem_toDigits (by decide) (by decide) (digits ▸ List.mem_cons_self)
    rw [digits, List.cons_append] at signed
    rw [(List.cons.inj signed).1] at isDigit
    cases isDigit
  · rfl

/-- A written integer of 64 bits is read back as itself. -/
theorem readNumber_repr {value : Int} (word : IsWord value) {rest : List Char}
    (delimited : Delimited rest) :
    readNumber ((Int.repr value).toList ++ rest) =
      (.wellFormed (.ok (.integer value)), rest) := by
  cases value with
  | ofNat magnitude =>
      rw [toList_repr_ofNat, readNumber_toDigits,
        readMagnitude_toDigits false magnitude delimited,
        value_toDigits false word.le_significandLimit]
      rfl
  | negSucc magnitude =>
      have fits : magnitude + 1 ≤ Nat.pow 2 63 := word.succ_le
      have half : Nat.pow 2 63 ≤ significandLimit := by decide
      have negated : NumberParts.toInteger
          ⟨true, Nat.toDigits 10 (magnitude + 1), [], none⟩ (magnitude + 1) =
          .integer (.negSucc magnitude) := by
        simp only [NumberParts.toInteger, Nat.succ_ne_zero, Nat.not_lt_of_le fits, or_self,
          if_false]
        rfl
      rw [toList_repr_negSucc, List.cons_append, readNumber,
        readMagnitude_toDigits true (magnitude + 1) delimited,
        value_toDigits true (Nat.le_trans fits half), negated]

end Json

end ShapeQuery
