import ShapeQuery.Proofs.Json.Token
import ShapeQuery.Proofs.Json.Written

/-!
# Reading back written values

A plain value is written as a tree without faults, of which a strict reader makes that value
again where it nests deeply enough.  A whole text is read back as the value it was written
from.
-/

namespace ShapeQuery

namespace Json

namespace Written

mutual

/-- The value as it is written. -/
def ofJson : Json → Written
  | .null => .word .null
  | .boolean value => .word (.boolean value)
  | .integer value => .number (.ok (.integer value))
  | .floating value => .number (.ok (.floating value))
  | .text value => .text (.ok value)
  | .list items => .list (ofItems items)
  | .object members => .object (ofMembers members)

def ofItems : List Json → List Written
  | [] => []
  | item :: rest => ofJson item :: ofItems rest

def ofMembers : List (String × Json) → List (Except SyntaxFault String × Written)
  | [] => []
  | (name, value) :: rest => (.ok name, ofJson value) :: ofMembers rest

end

mutual

theorem tokens_ofJson : (json : Json) → (ofJson json).tokens = Json.tokens json
  | .null | .boolean _ | .integer _ | .floating _ | .text _ | .list [] | .object [] => rfl
  | .list (item :: rest) => by
      rw [ofJson, ofItems, tokens, itemTokens, separated, if_pos rfl, tokens_ofJson item,
        itemTokens_ofItems rest, Json.tokens]
  | .object ((name, value) :: rest) => by
      rw [ofJson, ofMembers, tokens, memberTokens, separated, if_pos rfl, tokens_ofJson value,
        memberTokens_ofMembers rest, Json.tokens]

theorem itemTokens_ofItems : (items : List Json) →
    itemTokens false (ofItems items) = Json.itemTokens items
  | [] => rfl
  | item :: rest => by
      rw [ofItems, itemTokens, separated, if_neg Bool.false_ne_true, tokens_ofJson item,
        itemTokens_ofItems rest, Json.itemTokens]

theorem memberTokens_ofMembers : (members : List (String × Json)) →
    memberTokens false (ofMembers members) = Json.memberTokens members
  | [] => rfl
  | (name, value) :: rest => by
      rw [ofMembers, memberTokens, separated, if_neg Bool.false_ne_true, tokens_ofJson value,
        memberTokens_ofMembers rest, Json.memberTokens]

end

mutual

theorem read_ofJson : (json : Json) → json.Plain → {room : Nat} → json.depth < room →
    (ofJson json).read room = .ok json
  | .null, _, _, _ | .boolean _, _, _, _ | .integer _, _, _, _ | .text _, _, _, _ => rfl
  | .list items, plain, room, shallow => by
      simp only [depth] at shallow
      rw [ofJson, read, if_neg (by omega), readItems_ofItems items plain (by omega)]
      rfl
  | .object members, plain, room, shallow => by
      simp only [depth] at shallow
      rw [ofJson, read, if_neg (by omega),
        readMembers_ofMembers members plain.2 [] plain.1 (by omega)]
      rfl

theorem readItems_ofItems : (items : List Json) → PlainList items → {room : Nat} →
    depthList items < room → readItems room (ofItems items) = .ok items
  | [], _, _, _ => rfl
  | item :: rest, plain, room, shallow => by
      simp only [depthList] at shallow
      rw [ofItems, readItems, read_ofJson item plain.1 (by omega),
        readItems_ofItems rest plain.2 (by omega)]
      rfl

/-- Members are added behind those that were read before, whose names are smaller. -/
theorem readMembers_ofMembers : (members : List (String × Json)) → PlainMembers members →
    (held : List (String × Json)) → Named.Increasing (held ++ members) → {room : Nat} →
    depthMembers members < room → readMembers room held (ofMembers members) = .ok (held ++ members)
  | [], _, held, _, _, _ => by
      rw [List.append_nil]
      rfl
  | (name, value) :: rest, plain, held, increasing, room, shallow => by
      have above : ∀ entry ∈ held, entry.1 < name := fun entry member =>
        (List.pairwise_append.mp increasing).2.2 entry member (name, value) List.mem_cons_self
      have shifted : Named.Increasing ((held ++ [(name, value)]) ++ rest) := by
        rw [List.append_assoc]
        exact increasing
      have behind := readMembers_ofMembers rest plain.2 (held ++ [(name, value)]) shifted
        (Nat.lt_of_le_of_lt (Nat.le_max_right _ _) shallow)
      rw [List.append_assoc, List.singleton_append] at behind
      calc
        readMembers room held (ofMembers ((name, value) :: rest))
            = (ofJson value).read room >>= fun json =>
                readMembers room (Named.insert name json held) (ofMembers rest) := rfl
        _ = readMembers room (Named.insert name value held) (ofMembers rest) := by
            rw [read_ofJson value plain.1 (Nat.lt_of_le_of_lt (Nat.le_max_left _ _) shallow)]
            rfl
        _ = .ok (held ++ (name, value) :: rest) := by
            rw [Named.insert_of_above above, behind]

end

end Written

/-! ## Whole texts -/

/-- The value that a text writes, with a bound on the nesting of its own. -/
def parseWithin (limit : Nat) (source : String) : Except Fault Json :=
  match anyValue limit (lex source.toList) with
  | .ok (json, []) => .ok json
  | .ok (_, _ :: _) => .error (.syntactic .trailingCharacters)
  | .error fault => .error fault

theorem parse_eq_parseWithin (source : String) :
    parse source = parseWithin nestingLimit source := by
  rw [parse, readAll, parseWithin]
  rcases anyValue nestingLimit (lex source.toList) with fault | ⟨json, _ | ⟨token, rest⟩⟩
  · rfl
  · rfl
  · rfl

/-- A plain value is read back from its text by every reader that nests deeply
enough. -/
theorem parseWithin_render {json : Json} {limit : Nat} (plain : json.Plain)
    (shallow : json.depth < limit) : parseWithin limit json.render = .ok json := by
  have lexed : lex json.render.toList = tokens json := by
    rw [render, String.toList_ofList]
    exact lex_write plain
  have read := anyValue_written limit (.ofJson json) []
  rw [List.append_nil, Written.tokens_ofJson, Written.read_ofJson json plain shallow] at read
  rw [parseWithin, lexed, read]
  rfl

end Json

end ShapeQuery
