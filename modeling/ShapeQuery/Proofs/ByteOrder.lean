/-!
# Names in the order of their bytes

Names are compared code point by code point.  Their UTF-8 forms compare the same
way byte by byte, so the smallest name, and every list in increasing order of
names, is the same in both orders.
-/

namespace ShapeQuery

/-- The UTF-8 form of a text. -/
def utf8Bytes (value : String) : List UInt8 :=
  value.toUTF8.data.toList

namespace ByteOrder

/-- The UTF-8 form of some characters. -/
def encode (characters : List Char) : List UInt8 :=
  characters.flatMap String.utf8EncodeChar

theorem utf8Bytes_eq_encode (value : String) :
    utf8Bytes value = encode value.toList := by
  unfold utf8Bytes encode
  rw [String.toUTF8_eq_toByteArray, ← String.utf8Encode_toList]
  simp [List.utf8Encode]

/-- The left bytes are smaller at a place where neither side has ended. -/
def Below (left right : List UInt8) : Prop :=
  ∀ after after', left ++ after < right ++ after'

private theorem Below.head {left right : UInt8} (smaller : left < right)
    (rest rest' : List UInt8) : Below (left :: rest) (right :: rest') := by
  intro after after'
  exact List.cons_lt_cons_iff.mpr (.inl smaller)

private theorem Below.append {left right : List UInt8} (below : Below left right)
    (rest rest' : List UInt8) : Below (left ++ rest) (right ++ rest') := by
  intro after after'
  rw [List.append_assoc, List.append_assoc]
  exact below _ _

private theorem Below.last {left right : UInt8} (smaller : left < right) :
    ∀ common : List UInt8, Below (common ++ [left]) (common ++ [right])
  | [] => Below.head smaller [] []
  | byte :: common => by
      intro after after'
      exact List.cons_lt_cons_iff.mpr (.inr ⟨rfl, Below.last smaller common _ _⟩)

private theorem ofNat_lt_ofNat {left right : Nat} (smaller : left < right)
    (small : right < 256) : UInt8.ofNat left < UInt8.ofNat right := by
  rw [UInt8.lt_iff_toNat_lt, UInt8.toNat_ofNat', UInt8.toNat_ofNat']
  omega

/-- The byte for the last six bits of a number. -/
private def lastDigit (number : Nat) : UInt8 :=
  UInt8.ofNat (number % 64 + 128)

/-- Numbers compare by what precedes their last six bits, then by these. -/
private theorem Below.lastDigit {left right : List UInt8} {number number' : Nat}
    (smaller : number < number')
    (higher : number / 64 < number' / 64 → Below left right)
    (equal : number / 64 = number' / 64 → left = right) :
    Below (left ++ [lastDigit number]) (right ++ [lastDigit number']) := by
  rcases Nat.lt_or_ge (number / 64) (number' / 64) with below | above
  · exact (higher below).append _ _
  · have same : number / 64 = number' / 64 := by omega
    rw [equal same]
    exact Below.last (ofNat_lt_ofNat (by omega) (by omega)) right

/-- The bytes of a code point. -/
private def form (number : Nat) : List UInt8 :=
  if number ≤ 0x7f then [UInt8.ofNat number]
  else if number ≤ 0x7ff then [UInt8.ofNat (number / 64 % 32 + 192)] ++ [lastDigit number]
  else if number ≤ 0xffff then
    [UInt8.ofNat (number / 4096 % 16 + 224)] ++ [lastDigit (number / 64)] ++ [lastDigit number]
  else
    [UInt8.ofNat (number / 262144 % 8 + 240)] ++ [lastDigit (number / 4096)] ++
      [lastDigit (number / 64)] ++ [lastDigit number]

private theorem utf8EncodeChar_eq_form (character : Char) :
    String.utf8EncodeChar character = form character.toNat := rfl

private theorem below_form_of_two {number number' : Nat} (smaller : number < number')
    (above : 0x7f < number) (small : number' ≤ 0x7ff) : Below (form number) (form number') := by
  unfold form
  rw [if_neg (by omega), if_pos (by omega), if_neg (by omega), if_pos small]
  refine Below.lastDigit smaller ?_ ?_
  · intro higher
    exact Below.head (ofNat_lt_ofNat (by omega) (by omega)) [] []
  · intro equal
    rw [equal]

private theorem below_form_of_three {number number' : Nat} (smaller : number < number')
    (above : 0x7ff < number) (small : number' ≤ 0xffff) :
    Below (form number) (form number') := by
  unfold form
  rw [if_neg (by omega), if_neg (by omega), if_pos (by omega), if_neg (by omega),
    if_neg (by omega), if_pos small]
  refine Below.lastDigit smaller (fun higher => Below.lastDigit higher ?_ ?_) ?_
  · intro higher
    exact Below.head (ofNat_lt_ofNat (by omega) (by omega)) [] []
  · intro equal
    rw [← Nat.div_div_eq_div_mul number 64 64, ← Nat.div_div_eq_div_mul number' 64 64, equal]
  · intro equal
    rw [← Nat.div_div_eq_div_mul number 64 64, ← Nat.div_div_eq_div_mul number' 64 64, equal]

private theorem below_form_of_four {number number' : Nat} (smaller : number < number')
    (above : 0xffff < number) (small : number' ≤ 0x10ffff) :
    Below (form number) (form number') := by
  unfold form
  rw [if_neg (by omega), if_neg (by omega), if_neg (by omega), if_neg (by omega),
    if_neg (by omega), if_neg (by omega)]
  rw [show number / 262144 = number / 64 / 64 / 64 by omega,
    show number' / 262144 = number' / 64 / 64 / 64 by omega,
    show number / 4096 = number / 64 / 64 by omega,
    show number' / 4096 = number' / 64 / 64 by omega]
  refine Below.lastDigit smaller
    (fun higher => Below.lastDigit higher (fun higher => Below.lastDigit higher ?_ ?_) ?_) ?_
  · intro higher
    exact Below.head (ofNat_lt_ofNat (by omega) (by omega)) [] []
  all_goals
    intro equal
    rw [equal]

/-- The first byte tells how many follow. -/
private theorem form_head (number : Nat) (small : number ≤ 0x10ffff) :
    ∃ lead rest, form number = UInt8.ofNat lead :: rest ∧ lead < 256 ∧
      (number ≤ 0x7f → lead = number) ∧
      (0x7f < number → number ≤ 0x7ff → 194 ≤ lead ∧ lead < 224) ∧
      (0x7ff < number → number ≤ 0xffff → 224 ≤ lead ∧ lead < 240) ∧
      (0xffff < number → 240 ≤ lead) := by
  unfold form
  split
  · exact ⟨number, [], rfl, by omega⟩
  · split
    · exact ⟨_, _, rfl, by omega⟩
    · split
      · exact ⟨_, _, rfl, by omega⟩
      · exact ⟨_, _, rfl, by omega⟩

private theorem below_form {number number' : Nat} (smaller : number < number')
    (small : number' ≤ 0x10ffff) : Below (form number) (form number') := by
  by_cases two : 0x7f < number ∧ number' ≤ 0x7ff
  · exact below_form_of_two smaller two.1 two.2
  by_cases three : 0x7ff < number ∧ number' ≤ 0xffff
  · exact below_form_of_three smaller three.1 three.2
  by_cases four : 0xffff < number
  · exact below_form_of_four smaller four small
  -- what is left are a single byte and forms of different lengths
  obtain ⟨lead, rest, equal, ranges⟩ := form_head number (by omega)
  obtain ⟨lead', rest', equal', ranges'⟩ := form_head number' small
  rw [equal, equal']
  exact Below.head (ofNat_lt_ofNat (by omega) (by omega)) rest rest'

private theorem toNat_le (character : Char) : character.toNat ≤ 0x10ffff := by
  have valid := character.valid
  simp only [UInt32.isValidChar, Nat.isValidChar] at valid
  rw [← Char.toNat_val]
  omega

/-- A smaller character has a smaller form, and the two differ before either
ends. -/
theorem below_utf8EncodeChar {left right : Char} (smaller : left < right) :
    Below (String.utf8EncodeChar left) (String.utf8EncodeChar right) := by
  rw [utf8EncodeChar_eq_form, utf8EncodeChar_eq_form]
  exact below_form smaller (toNat_le right)

theorem encode_lt_of_lt : {left right : List Char} → left < right →
    encode left < encode right
  | _, [], smaller => (List.not_lt_nil _ smaller).elim
  | [], character :: rest, _ => by
      obtain ⟨byte, bytes, form⟩ :=
        List.exists_cons_of_ne_nil (String.utf8EncodeChar_ne_nil (c := character))
      simp [encode, form]
  | character :: rest, character' :: rest', smaller => by
      simp only [encode, List.flatMap_cons]
      rcases List.cons_lt_cons_iff.mp smaller with below | ⟨equal, restSmaller⟩
      · exact below_utf8EncodeChar below _ _
      · subst equal
        exact List.append_left_lt (encode_lt_of_lt restSmaller)

end ByteOrder

open ByteOrder in
/-- The order of names is the order of their bytes. -/
theorem lt_iff_utf8Bytes_lt (left right : String) :
    left < right ↔ utf8Bytes left < utf8Bytes right := by
  rw [utf8Bytes_eq_encode, utf8Bytes_eq_encode]
  constructor
  · intro smaller
    exact encode_lt_of_lt smaller
  · intro smaller
    refine Decidable.byContradiction fun notSmaller => ?_
    by_cases equal : left = right
    · subst equal
      exact List.lt_irrefl _ smaller
    · have larger : right < left := String.not_le.mp fun below =>
        equal (String.le_antisymm below (String.not_lt.mp notSmaller))
      exact List.lt_asymm smaller (encode_lt_of_lt larger)

theorem le_iff_utf8Bytes_le (left right : String) :
    left ≤ right ↔ utf8Bytes left ≤ utf8Bytes right := by
  rw [← String.not_lt, ← List.not_lt, lt_iff_utf8Bytes_lt]

end ShapeQuery
