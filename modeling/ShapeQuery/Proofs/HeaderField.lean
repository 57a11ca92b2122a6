import ShapeQuery.HeaderField
import ShapeQuery.Proofs.ByteOrder

/-!
# Bytes of header fields

An ASCII character is written as the byte of its number, and every byte of another character
is above ASCII.  So a class of ASCII characters can be told by the bytes of a text.
-/

namespace ShapeQuery

open ByteOrder

theorem utf8Bytes_append (left right : String) :
    utf8Bytes (left ++ right) = utf8Bytes left ++ utf8Bytes right := by
  simp only [utf8Bytes_eq_encode, encode, String.toList_append, List.flatMap_append]

theorem mem_utf8Bytes_iff {text : String} {byte : UInt8} :
    byte ∈ utf8Bytes text ↔
      ∃ character ∈ text.toList, byte ∈ String.utf8EncodeChar character := by
  rw [utf8Bytes_eq_encode, encode, List.mem_flatMap]

theorem utf8EncodeChar_of_ascii {character : Char} (ascii : character.toNat ≤ 0x7F) :
    String.utf8EncodeChar character = [UInt8.ofNat character.toNat] :=
  if_pos ascii

theorem lt_of_mem_utf8EncodeChar {character : Char} (beyond : 0x7F < character.toNat)
    {byte : UInt8} (written : byte ∈ String.utf8EncodeChar character) : 0x7F < byte.toNat := by
  have notAscii : ¬ character.val.toNat ≤ 0x7F := Nat.not_le_of_lt beyond
  simp only [String.utf8EncodeChar, if_neg notAscii] at written
  -- the first byte of a longer form starts at 192, and every later one at 128
  split at written
  · simp only [List.mem_cons, List.not_mem_nil, or_false] at written
    rcases written with rfl | rfl <;> simp only [UInt8.toNat_ofNat'] <;> omega
  · split at written
    · simp only [List.mem_cons, List.not_mem_nil, or_false] at written
      rcases written with rfl | rfl | rfl <;> simp only [UInt8.toNat_ofNat'] <;> omega
    · simp only [List.mem_cons, List.not_mem_nil, or_false] at written
      rcases written with rfl | rfl | rfl | rfl <;> simp only [UInt8.toNat_ofNat'] <;> omega

theorem exists_mem_utf8EncodeChar (character : Char) :
    ∃ byte, byte ∈ String.utf8EncodeChar character := by
  apply List.exists_mem_of_ne_nil
  rw [String.utf8EncodeChar]
  repeat' split
  all_goals exact List.cons_ne_nil _ _

/-- A class of ASCII numbers holds for the bytes of a text if and only if it holds for its
characters. -/
theorem forall_mem_utf8Bytes_iff {allowed : Nat → Prop}
    (ascii : ∀ number, allowed number → number ≤ 0x7F) (text : String) :
    (∀ byte ∈ utf8Bytes text, allowed byte.toNat) ↔
      ∀ character ∈ text.toList, allowed character.toNat := by
  have single (character : Char) (low : character.toNat ≤ 0x7F) :
      (UInt8.ofNat character.toNat).toNat = character.toNat := by
    rw [UInt8.toNat_ofNat']
    omega
  constructor
  · intro bytes character inText
    rcases Nat.lt_or_ge 0x7F character.toNat with beyond | low
    · obtain ⟨byte, written⟩ := exists_mem_utf8EncodeChar character
      have above := lt_of_mem_utf8EncodeChar beyond written
      have below := ascii _ (bytes byte (mem_utf8Bytes_iff.mpr ⟨character, inText, written⟩))
      omega
    · have written : UInt8.ofNat character.toNat ∈ String.utf8EncodeChar character := by
        rw [utf8EncodeChar_of_ascii low]
        exact List.mem_cons_self
      have holds := bytes _ (mem_utf8Bytes_iff.mpr ⟨character, inText, written⟩)
      rwa [single character low] at holds
  · intro characters byte inBytes
    obtain ⟨character, inText, written⟩ := mem_utf8Bytes_iff.mp inBytes
    have holds := characters character inText
    have low := ascii _ holds
    rw [utf8EncodeChar_of_ascii low, List.mem_singleton] at written
    rw [written, single character low]
    exact holds

/-! ## Texts that a field can carry -/

theorem isFieldByte_iff {byte : UInt8} :
    isFieldByte byte = true ↔ (0x20 ≤ byte ∨ byte = 0x09) ∧ byte ≠ 0x7F := by
  simp [isFieldByte]

theorem all_iff_forall_utf8Bytes {accepts : UInt8 → Bool} {text : String} :
    text.toUTF8.data.all accepts = true ↔ ∀ byte ∈ utf8Bytes text, accepts byte = true := by
  rw [← Array.all_toList, List.all_eq_true, utf8Bytes]

theorem isFieldText_iff {text : String} :
    isFieldText text = true ↔
      ∀ byte ∈ utf8Bytes text, (0x20 ≤ byte ∨ byte = 0x09) ∧ byte ≠ 0x7F := by
  simp only [isFieldText, all_iff_forall_utf8Bytes, isFieldByte_iff]

theorem isFieldText_append {left right : String} :
    isFieldText (left ++ right) = true ↔ isFieldText left = true ∧ isFieldText right = true := by
  simp only [isFieldText_iff, utf8Bytes_append, List.forall_mem_append]

end ShapeQuery
