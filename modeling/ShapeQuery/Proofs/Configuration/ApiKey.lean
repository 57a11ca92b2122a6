import Mathlib.Logic.Basic
import ShapeQuery.Client.Connection
import ShapeQuery.Proofs.HeaderField

/-!
# Keys in header fields

A text becomes a key if it is visible ASCII and not empty.  The header value of such a key is
visible ASCII and one blank, which every header field can carry, and what stands behind its
fixed beginning is the key again.
-/

namespace ShapeQuery

namespace Text

theorem dropWhile_of_head? {drop : Char → Bool} {characters : List Char}
    (kept : ∀ first, characters.head? = some first → drop first = false) :
    characters.dropWhile drop = characters := by
  cases characters with
  | nil => rfl
  | cons first rest =>
      have keptFirst := kept first rfl
      rw [List.dropWhile_cons, keptFirst, if_neg Bool.false_ne_true]

/-- Nothing is trimmed where neither end is of the class. -/
theorem trimCharacters_of_ends {drop : Char → Bool} {characters : List Char}
    (start : ∀ first, characters.head? = some first → drop first = false)
    (stop : ∀ last, characters.getLast? = some last → drop last = false) :
    trimCharacters drop characters = characters := by
  rw [← List.head?_reverse] at stop
  rw [trimCharacters, dropWhile_of_head? start, dropWhile_of_head? stop, List.reverse_reverse]

end Text

theorem Request.filter_setHeader (request : Request) (header : Header) :
    (request.setHeader header).headers.filter (·.name == header.name) = [header] := by
  simp [setHeader]

namespace ApiKey

/-- Every byte of the text is a visible ASCII character. -/
def Visible (text : String) : Prop :=
  ∀ byte ∈ utf8Bytes text, 0x21 ≤ byte ∧ byte ≤ 0x7E

theorem isVisibleByte_iff {byte : UInt8} :
    isVisibleByte byte = true ↔ 0x21 ≤ byte ∧ byte ≤ 0x7E := by
  simp [isVisibleByte]

theorem all_isVisibleByte_iff {text : String} :
    text.toUTF8.data.all isVisibleByte = true ↔ Visible text := by
  simp only [all_iff_forall_utf8Bytes, isVisibleByte_iff, Visible]

theorem visible_iff_characters {text : String} :
    Visible text ↔
      ∀ character ∈ text.toList, 0x21 ≤ character.toNat ∧ character.toNat ≤ 0x7E := by
  let shown (number : Nat) : Prop := 0x21 ≤ number ∧ number ≤ 0x7E
  have ascii : ∀ number, shown number → number ≤ 0x7F := by
    rintro number ⟨_, below⟩
    omega
  exact forall_mem_utf8Bytes_iff ascii text

theorem not_visible_iff {text : String} :
    ¬ Visible text ↔ ∃ byte ∈ utf8Bytes text, byte < 0x21 ∨ 0x7E < byte := by
  simp only [Visible, not_forall, not_and_or, UInt8.not_le, exists_prop]

/-! ## Header values -/

/-- The bytes of a header value are those of its fixed beginning, which are visible but for the
blank, and those of the key. -/
theorem forall_mem_authorization (allowed : UInt8 → Prop) (blank : allowed 0x20)
    (visible : ∀ byte, 0x21 ≤ byte ∧ byte ≤ 0x7E → allowed byte) {key : ApiKey}
    (accepted : Visible key.text) : ∀ byte ∈ utf8Bytes key.authorization, allowed byte := by
  have beginning : ∀ byte ∈ utf8Bytes "bearer ",
      byte = 0x20 ∨ 0x21 ≤ byte ∧ byte ≤ 0x7E := by decide +kernel
  rw [authorization, utf8Bytes_append, List.forall_mem_append]
  constructor
  · intro byte written
    rcases beginning byte written with rfl | shown
    · exact blank
    · exact visible byte shown
  · intro byte written
    exact visible byte (accepted byte written)

/-- What the key type asks for is narrower than what a header field can carry. -/
theorem isFieldText_authorization {key : ApiKey} (accepted : Visible key.text) :
    isFieldText key.authorization = true := by
  rw [isFieldText_iff]
  refine forall_mem_authorization (fun byte => (0x20 ≤ byte ∨ byte = 0x09) ∧ byte ≠ 0x7F)
    (by decide) ?_ accepted
  rintro byte ⟨above, below⟩
  rw [UInt8.le_iff_toNat_le] at above below
  have notDelete : byte ≠ 0x7F := by
    rintro rfl
    simp at below
  have notControl : 0x20 ≤ byte := by
    rw [UInt8.le_iff_toNat_le]
    exact Nat.le_trans (by decide) above
  exact ⟨.inl notControl, notDelete⟩

theorem carried_of_visible {key : ApiKey} (accepted : Visible key.text) :
    carried key = .ok key :=
  if_pos (isFieldText_authorization accepted)

/-! ## Accepted texts -/

theorem ofText_empty : ofText "" = .error .emptyApiKey := rfl

theorem ofText_of_visible {text : String} (nonempty : text ≠ "") (accepted : Visible text) :
    ofText text = .ok ⟨text⟩ := by
  have notEmpty : ¬ text.isEmpty = true := fun empty => nonempty (String.isEmpty_iff.mp empty)
  rw [ofText, if_neg notEmpty, if_pos (all_isVisibleByte_iff.mpr accepted)]
  exact carried_of_visible accepted

theorem ofText_of_not_visible {text : String} (nonempty : text ≠ "")
    (refused : ¬ Visible text) : ofText text = .error .invalidApiKey := by
  have notEmpty : ¬ text.isEmpty = true := fun empty => nonempty (String.isEmpty_iff.mp empty)
  have notAll : ¬ text.toUTF8.data.all isVisibleByte = true :=
    fun all => refused (all_isVisibleByte_iff.mp all)
  rw [ofText, if_neg notEmpty, if_neg notAll]

/-- What becomes of a text that is offered as a key. -/
inductive Judges : String → Except ConfigError ApiKey → Prop where
  | empty : Judges "" (.error .emptyApiKey)
  | invalid {text : String} : text ≠ "" → ¬ Visible text →
      Judges text (.error .invalidApiKey)
  | accepted {text : String} : text ≠ "" → Visible text → Judges text (.ok ⟨text⟩)

theorem judges_ofText (text : String) : Judges text (ofText text) := by
  by_cases nonempty : text = ""
  · rw [nonempty, ofText_empty]
    exact .empty
  · by_cases visible : Visible text
    · rw [ofText_of_visible nonempty visible]
      exact .accepted nonempty visible
    · rw [ofText_of_not_visible nonempty visible]
      exact .invalid nonempty visible

theorem Judges.eq_ofText {text : String} {result : Except ConfigError ApiKey}
    (judged : Judges text result) : ofText text = result := by
  cases judged with
  | empty => exact ofText_empty
  | invalid nonempty refused => exact ofText_of_not_visible nonempty refused
  | accepted nonempty visible => exact ofText_of_visible nonempty visible

theorem judges_iff {text : String} {result : Except ConfigError ApiKey} :
    Judges text result ↔ ofText text = result := by
  constructor
  · exact Judges.eq_ofText
  · rintro rfl
    exact judges_ofText text

theorem ofText_eq_ok_iff {text : String} {key : ApiKey} :
    ofText text = .ok key ↔ text ≠ "" ∧ Visible text ∧ key = ⟨text⟩ := by
  rw [← judges_iff]
  constructor
  · intro judged
    cases judged with
    | accepted nonempty visible => exact ⟨nonempty, visible, rfl⟩
  · rintro ⟨nonempty, visible, rfl⟩
    exact .accepted nonempty visible

theorem ofText_eq_empty_iff {text : String} :
    ofText text = .error .emptyApiKey ↔ text = "" := by
  rw [← judges_iff]
  constructor
  · intro judged
    cases judged
    rfl
  · rintro rfl
    exact .empty

theorem ofText_eq_invalid_iff {text : String} :
    ofText text = .error .invalidApiKey ↔ text ≠ "" ∧ ¬ Visible text := by
  rw [← judges_iff]
  constructor
  · intro judged
    cases judged with
    | invalid nonempty refused => exact ⟨nonempty, refused⟩
  · rintro ⟨nonempty, refused⟩
    exact .invalid nonempty refused

/-! ## Reading a key back -/

/-- What stands behind the fixed beginning of a header value. -/
def behindBearer (value : String) : String :=
  String.ofList (value.toList.drop "bearer ".toList.length)

theorem behindBearer_authorization (key : ApiKey) : behindBearer key.authorization = key.text := by
  rw [behindBearer, authorization, String.toList_append, List.drop_left, String.ofList_toList]

theorem authorization_injective {left right : ApiKey}
    (same : left.authorization = right.authorization) : left = right := by
  have texts : left.text = right.text := by
    rw [← behindBearer_authorization left, same, behindBearer_authorization]
  cases left
  exact congrArg ApiKey.mk texts

/-- A receiver that drops the blanks around a header value reads the whole value. -/
theorem received_authorizationHeader {key : ApiKey} (nonempty : key.text ≠ "")
    (accepted : Visible key.text) :
    (Transport.authorizationHeader key).received = Transport.authorizationHeader key := by
  have characters : key.authorization.toList = "bearer ".toList ++ key.text.toList :=
    String.toList_append
  have shown := visible_iff_characters.mp accepted
  have kept : Text.trimCharacters isFieldBlank key.authorization.toList =
      key.authorization.toList := by
    apply Text.trimCharacters_of_ends
    · intro first atStart
      rw [characters] at atStart
      cases atStart
      decide
    · intro last atEnd
      have behind : key.text.toList ≠ [] := fun nothing =>
        nonempty (String.toList_eq_nil_iff.mp nothing)
      rw [characters, List.getLast?_append, List.getLast?_eq_some_getLast behind,
        Option.some_or, ← List.getLast?_eq_some_getLast behind] at atEnd
      have visible := shown last (List.mem_of_getLast? atEnd)
      cases blank : isFieldBlank last with
      | false => rfl
      | true =>
          rw [isFieldBlank, Bool.or_eq_true, beq_iff_eq, beq_iff_eq] at blank
          rcases blank with rfl | rfl <;> simp at visible
  rw [Header.received, Transport.authorizationHeader]
  simp only [kept, String.ofList_toList]

/-- No accepted key breaks out of its header.  A text is refused as empty if it is empty and as
invalid if one of its bytes is not visible ASCII; any other text is kept unchanged, and the
header value made of it is one that a header field can carry.  The value is visible ASCII and
blanks, the key can be read off it, and every request that is authenticated with the key has it
as the only authorization, which a receiver reads in full. -/
theorem ofText_within_header (text : String) :
    (ofText text = .error .emptyApiKey ↔ text = "") ∧
    (ofText text = .error .invalidApiKey ↔
      text ≠ "" ∧ ∃ byte ∈ utf8Bytes text, byte < 0x21 ∨ 0x7E < byte) ∧
    (ofText text = .ok ⟨text⟩ ↔
      text ≠ "" ∧ ∀ byte ∈ utf8Bytes text, 0x21 ≤ byte ∧ byte ≤ 0x7E) ∧
    ((∀ byte ∈ utf8Bytes text, 0x21 ≤ byte ∧ byte ≤ 0x7E) → carried ⟨text⟩ = .ok ⟨text⟩) ∧
    ∀ key, ofText text = .ok key →
      key.text = text ∧
      key.authorization = "bearer " ++ text ∧
      (∀ byte ∈ utf8Bytes key.authorization, 0x20 ≤ byte ∧ byte ≤ 0x7E) ∧
      behindBearer key.authorization = text ∧
      (∀ otherText other, ofText otherText = .ok other → other ≠ key →
        other.authorization ≠ key.authorization) ∧
      ∀ (m : Type → Type) (wrapped : Transport m) (request : Request), ∃ handed : Request,
        (wrapped.authenticated key).roundTrip request = wrapped.roundTrip handed ∧
        (handed.headers.filter (·.name == "authorization")).map Header.received =
          [⟨"authorization", "bearer " ++ text, true⟩] := by
  refine ⟨ofText_eq_empty_iff, ?_, ?_, carried_of_visible, ?_⟩
  · rw [ofText_eq_invalid_iff, not_visible_iff]
  · rw [ofText_eq_ok_iff, and_iff_left rfl]
    rfl
  · intro key accepted
    obtain ⟨nonempty, visible, rfl⟩ := ofText_eq_ok_iff.mp accepted
    refine ⟨rfl, rfl, ?_, behindBearer_authorization _, ?_, ?_⟩
    · refine forall_mem_authorization (fun byte => 0x20 ≤ byte ∧ byte ≤ 0x7E) (by decide) ?_
        visible
      rintro byte ⟨above, below⟩
      exact ⟨UInt8.le_trans (by decide) above, below⟩
    · intro otherText other _ different same
      exact different (authorization_injective same)
    · intro m wrapped request
      refine ⟨request.setHeader (Transport.authorizationHeader ⟨text⟩), rfl, ?_⟩
      have alone := request.filter_setHeader (Transport.authorizationHeader ⟨text⟩)
      calc
        _ = [(Transport.authorizationHeader ⟨text⟩).received] :=
              congrArg (List.map Header.received) alone
        _ = _ := by rw [received_authorizationHeader nonempty visible]; rfl

theorem ofText_within_header_token :
    ofText "tok-1" = .ok ⟨"tok-1"⟩ ∧
    carried ⟨"tok-1"⟩ = .ok ⟨"tok-1"⟩ ∧
    authorization ⟨"tok-1"⟩ = "bearer tok-1" ∧
    behindBearer "bearer tok-1" = "tok-1" ∧
    authorization ⟨"tok-2"⟩ ≠ authorization ⟨"tok-1"⟩ := by
  obtain ⟨_, _, accepts, carries, kept⟩ := ofText_within_header "tok-1"
  have visible : ∀ byte ∈ utf8Bytes "tok-1", 0x21 ≤ byte ∧ byte ≤ 0x7E := by decide +kernel
  have otherVisible : ∀ byte ∈ utf8Bytes "tok-2", 0x21 ≤ byte ∧ byte ≤ 0x7E := by
    decide +kernel
  have accepted := accepts.mpr ⟨by decide, visible⟩
  have other : ofText "tok-2" = .ok ⟨"tok-2"⟩ :=
    (ofText_within_header "tok-2").2.2.1.mpr ⟨by decide, otherVisible⟩
  obtain ⟨_, value, _, readBack, distinct, _⟩ := kept ⟨"tok-1"⟩ accepted
  exact ⟨accepted, carries visible, value, readBack,
    distinct "tok-2" ⟨"tok-2"⟩ other (by decide)⟩

end ApiKey

end ShapeQuery
