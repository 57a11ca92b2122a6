import ShapeQuery.Envelope
import ShapeQuery.Proofs.Datum.Encoding
import ShapeQuery.Proofs.Named.LastWritten

/-!
# Values that are read have ordered members

Every open list and object of the reading machine holds ordered values, and every step
keeps this.  So every value that is read is ordered, in particular the data of an envelope.
-/

namespace ShapeQuery

namespace Json

theorem orderedList_iff {items : List Json} :
    OrderedList items ↔ ∀ item ∈ items, item.Ordered := by
  induction items with
  | nil => simp [OrderedList]
  | cons item rest induction => simp [OrderedList, induction]

theorem orderedMembers_iff {members : List (String × Json)} :
    OrderedMembers members ↔ ∀ entry ∈ members, entry.2.Ordered := by
  induction members with
  | nil => simp [OrderedMembers]
  | cons entry rest induction => simp [OrderedMembers, induction]

/-- A member of an ordered object is ordered. -/
theorem Ordered.of_find? {members : List (String × Json)} (ordered : (object members).Ordered)
    {name : String} {value : Json} (found : Named.find? name members = some value) :
    value.Ordered :=
  orderedMembers_iff.mp ordered.2 (name, value) (Named.mem_of_find?_eq_some found)

theorem Ordered.nodup_names {members : List (String × Json)}
    (ordered : (object members).Ordered) : (members.map Prod.fst).Nodup :=
  Named.Increasing.nodup_names ordered.1

/-! ## The reading machine -/

/-- What an open list or object has read is ordered. -/
def Frame.Ordered : Frame → Prop
  | .list items => OrderedList items
  | .object members _ => (Json.object members).Ordered

def Progress.Ordered : Progress → Prop
  | .finished json => json.Ordered
  | .reading state => ∀ frame ∈ state.stack, frame.Ordered

theorem ordered_deliver {json : Json} {stack : List Frame} (ordered : json.Ordered)
    (stackOrdered : ∀ frame ∈ stack, frame.Ordered) : (deliver json stack).Ordered := by
  cases stack with
  | nil => exact ordered
  | cons frame outer =>
      obtain ⟨frameOrdered, outerOrdered⟩ := List.forall_mem_cons.mp stackOrdered
      cases frame with
      | list items => exact List.forall_mem_cons.mpr ⟨⟨ordered, frameOrdered⟩, outerOrdered⟩
      | object members name =>
          refine List.forall_mem_cons.mpr ⟨⟨frameOrdered.1.insert, ?_⟩, outerOrdered⟩
          rw [orderedMembers_iff]
          intro entry member
          obtain rfl | older := Named.mem_insert member
          · exact ordered
          · exact orderedMembers_iff.mp frameOrdered.2 entry older

theorem Frame.Ordered.close {frame : Frame} (ordered : frame.Ordered) : frame.close.Ordered := by
  cases frame with
  | list items =>
      refine orderedList_iff.mpr fun item member => ?_
      exact orderedList_iff.mp ordered item (List.mem_reverse.mp member)
  | object members name => exact ordered

theorem ordered_closeFrame {stack : List Frame} (stackOrdered : ∀ frame ∈ stack, frame.Ordered) :
    (closeFrame stack).Ordered := by
  cases stack with
  | nil => trivial
  | cons frame outer =>
      obtain ⟨frameOrdered, outerOrdered⟩ := List.forall_mem_cons.mp stackOrdered
      exact ordered_deliver frameOrdered.close outerOrdered

section

variable {limit : Nat} {stack : List Frame} {token : Token} {progress : Progress}

theorem ordered_beginValue (stackOrdered : ∀ frame ∈ stack, frame.Ordered)
    (begun : beginValue limit stack token = .ok progress) : progress.Ordered := by
  cases token with
  | word outcome =>
      obtain ⟨word, _, rfl⟩ := exists_of_map_eq_ok begun
      exact ordered_deliver (by cases word <;> trivial) stackOrdered
  | number reading =>
      obtain ⟨number, _, rfl⟩ := exists_of_map_eq_ok begun
      exact ordered_deliver (by cases number <;> trivial) stackOrdered
  | text reading =>
      obtain ⟨value, _, rfl⟩ := exists_of_map_eq_ok begun
      exact ordered_deliver trivial stackOrdered
  | openList =>
      rw [beginValue] at begun
      split at begun
      · cases begun
      · cases begun
        exact List.forall_mem_cons.mpr ⟨trivial, stackOrdered⟩
  | openObject =>
      rw [beginValue] at begun
      split at begun
      · cases begun
      · cases begun
        exact List.forall_mem_cons.mpr ⟨⟨List.Pairwise.nil, trivial⟩, stackOrdered⟩
  | _ => cases begun

theorem ordered_beginMember (stackOrdered : ∀ frame ∈ stack, frame.Ordered)
    (begun : beginMember stack token = .ok progress) : progress.Ordered := by
  cases token with
  | text reading =>
      obtain ⟨name, _, rfl⟩ := exists_of_map_eq_ok begun
      split
      · obtain ⟨frameOrdered, outerOrdered⟩ := List.forall_mem_cons.mp stackOrdered
        exact List.forall_mem_cons.mpr ⟨frameOrdered, outerOrdered⟩
      · exact stackOrdered
  | _ => cases begun

theorem ordered_separate (stackOrdered : ∀ frame ∈ stack, frame.Ordered)
    (separated : separate stack token = .ok progress) : progress.Ordered := by
  unfold separate at separated
  split at separated
  case h_1 | h_4 =>
    cases separated
    exact stackOrdered
  case h_2 | h_5 =>
    cases separated
    exact ordered_closeFrame stackOrdered
  case h_3 | h_6 => cases separated

/-- No step brings in a value that is not ordered. -/
theorem ordered_step {state : ReaderState} (stackOrdered : ∀ frame ∈ state.stack, frame.Ordered)
    (stepped : step limit state token = .ok progress) : progress.Ordered := by
  unfold step at stepped
  split at stepped
  · cases stepped
    exact ordered_closeFrame stackOrdered
  · cases stepped
  · cases stepped
    exact ordered_closeFrame stackOrdered
  · cases stepped
  · exact ordered_beginValue stackOrdered stepped
  · exact ordered_beginValue stackOrdered stepped
  · exact ordered_beginValue stackOrdered stepped
  · exact ordered_beginMember stackOrdered stepped
  · exact ordered_beginMember stackOrdered stepped
  · cases stepped
    exact stackOrdered
  · cases stepped
  · exact ordered_separate stackOrdered stepped

end

theorem ordered_run {limit : Nat} {state : ReaderState} {tokens rest : List Token} {json : Json}
    (stackOrdered : ∀ frame ∈ state.stack, frame.Ordered)
    (ended : run limit state tokens = .ok (json, rest)) : json.Ordered := by
  -- the invariant is that every open list and object holds ordered values
  induction tokens generalizing state with
  | nil => cases ended
  | cons token remaining induction =>
      rw [run] at ended
      split at ended
      · cases ended
      · rename_i finished stepped
        cases ended
        exact ordered_step stackOrdered stepped
      · rename_i next stepped
        exact induction (ordered_step stackOrdered stepped) ended

/-! ## Typed readers -/

variable {α β : Type}

/-- Every value that a reader gives has a property. -/
def Reader.Yields (reader : Reader α) (property : α → Prop) : Prop :=
  ∀ limit tokens value rest, reader limit tokens = .ok (value, rest) → property value

theorem anyValue_yields : Reader.Yields anyValue Json.Ordered := by
  intro limit tokens json rest read
  exact ordered_run (List.forall_mem_nil _) (eq_ok_of_mapError_eq_ok read)

theorem refuse_ne_ok {wanted : String} {tokens : List Token} {result : α} :
    refuse wanted tokens ≠ .ok result := by
  unfold refuse
  split <;> nofun

theorem mappingReader_yields :
    Reader.Yields mappingReader fun members => (object members).Ordered := by
  intro limit tokens members rest read
  unfold mappingReader at read
  split at read
  · obtain ⟨⟨json, behind⟩, valueRead, remaining⟩ := exists_of_bind_eq_ok read
    have ordered := anyValue_yields _ _ _ _ valueRead
    cases json with
    | object held =>
        cases remaining
        exact ordered
    | _ => exact absurd remaining refuse_ne_ok
  · exact absurd read refuse_ne_ok

theorem optionalReader_yields {inner : Reader α} {property : α → Prop}
    (yields : inner.Yields property) :
    (optionalReader inner).Yields fun value? => ∀ value ∈ value?, property value := by
  intro limit tokens value? rest read
  unfold optionalReader at read
  split at read
  · cases read
    nofun
  · cases read
  · obtain ⟨⟨value, behind⟩, valueRead, paired⟩ := exists_of_map_eq_ok read
    cases paired
    intro other same
    cases same
    exact yields _ _ _ _ valueRead

/-- A member that is read leaves the state as it was, or what its reader makes of it. -/
theorem readMember_eq_ok {σ : Type} {choice : MemberChoice σ} {limit : Nat} {state next : σ}
    {tokens rest : List Token} (read : readMember choice limit state tokens = .ok (next, rest)) :
    next = state ∨ ∃ name reader tokens, choice name state = .ok (some reader) ∧
      reader limit tokens = .ok (next, rest) := by
  unfold readMember at read
  split at read
  · obtain ⟨name, _, remaining⟩ := exists_of_bind_eq_ok read
    obtain ⟨chosen, choiceMade, remaining⟩ := exists_of_bind_eq_ok remaining
    have chose := eq_ok_of_mapError_eq_ok choiceMade
    split at remaining
    · cases chosen with
      | some reader => exact .inr ⟨name, reader, _, chose, remaining⟩
      | none =>
          obtain ⟨behind, _, result⟩ := exists_of_bind_eq_ok remaining
          cases result
          exact .inl rfl
    · cases remaining
    · cases remaining
  · cases read

/-- What the chosen readers keep holds behind all members. -/
theorem readMembers_keeps {σ : Type} {choice : MemberChoice σ} {property : σ → Prop}
    {limit : Nat}
    (keeps : ∀ name state reader, property state → choice name state = .ok (some reader) →
      ∀ tokens next rest, reader limit tokens = .ok (next, rest) → property next)
    {fuel : Nat} {first : Bool} {state last : σ} {tokens rest : List Token}
    (holds : property state)
    (read : readMembers choice limit fuel first state tokens = .ok (last, rest)) :
    property last := by
  induction fuel generalizing first state tokens with
  | zero => cases read
  | succ fuel induction =>
      unfold readMembers at read
      split at read
      · cases read
      · cases read
        exact holds
      · obtain ⟨⟨next, behind⟩, memberRead, remaining⟩ := exists_of_bind_eq_ok read
        refine induction ?_ remaining
        obtain rfl | ⟨name, reader, _, chosen, valueRead⟩ := readMember_eq_ok memberRead
        · exact holds
        · exact keeps name state reader holds chosen _ _ _ valueRead

theorem enter_eq_ok {limit : Nat} {inside : Nat → Except Fault α} {result : α}
    (entered : enter limit inside = .ok result) : inside (limit - 1) = .ok result := by
  unfold enter at entered
  split at entered
  · cases entered
  · exact entered

section

variable {left : Slot α} {right : Slot β} {property : α → Prop}

/-- The left one of two members has what its reader yields. -/
theorem pairChoice_keeps (yields : left.reader.Yields property) {name : String}
    {state : Option α × Option β} {reader : Reader (Option α × Option β)}
    (holds : ∀ value ∈ state.1, property value)
    (chosen : pairChoice left right name state = .ok (some reader)) {limit : Nat}
    {tokens rest : List Token} {next : Option α × Option β}
    (read : reader limit tokens = .ok (next, rest)) : ∀ value ∈ next.1, property value := by
  unfold pairChoice at chosen
  split at chosen
  · split at chosen
    · cases chosen
    · cases chosen
      obtain ⟨⟨value, behind⟩, valueRead, result⟩ := exists_of_map_eq_ok read
      cases result
      intro other same
      cases same
      exact yields _ _ _ _ valueRead
  · split at chosen
    · split at chosen
      · cases chosen
      · cases chosen
        obtain ⟨_, _, result⟩ := exists_of_map_eq_ok read
        cases result
        exact holds
    · cases chosen

theorem Slot.resolve_eq_ok (absent : ∀ value, left.absent = .ok value → property value)
    {read : Option α} (holds : ∀ value ∈ read, property value) {value : α}
    (resolved : left.resolve read = .ok value) : property value := by
  unfold Slot.resolve at resolved
  split at resolved
  · cases resolved
    exact holds value rfl
  · exact absent value (eq_ok_of_mapError_eq_ok resolved)

theorem Slot.readItem_eq_ok (yields : left.reader.Yields property)
    (short : ∀ value, left.short = .ok value → property value) {limit : Nat} {first : Bool}
    {tokens rest : List Token} {value : α}
    (read : left.readItem limit first tokens = .ok (value, rest)) : property value := by
  obtain ⟨next, _, remaining⟩ := exists_of_bind_eq_ok read
  cases next with
  | some start => exact yields _ _ _ _ remaining
  | none =>
      obtain ⟨other, stands, result⟩ := exists_of_bind_eq_ok remaining
      cases result
      exact short value (eq_ok_of_mapError_eq_ok stands)

/-- The left member of a pair has what its reader yields, if what stands for it has. -/
theorem pairReader_yields_left {wanted : String} (yields : left.reader.Yields property)
    (absent : ∀ value, left.absent = .ok value → property value)
    (short : ∀ value, left.short = .ok value → property value) :
    (pairReader wanted left right).Yields fun pair => property pair.1 := by
  intro limit tokens pair rest read
  unfold pairReader at read
  split at read
  · obtain ⟨⟨state, behind⟩, membersRead, remaining⟩ :=
      exists_of_bind_eq_ok (enter_eq_ok read)
    obtain ⟨value, resolved, remaining⟩ := exists_of_bind_eq_ok remaining
    obtain ⟨_, _, result⟩ := exists_of_bind_eq_ok remaining
    cases result
    have holds : ∀ value ∈ state.1, property value := readMembers_keeps
      (fun _ _ _ held chosen _ _ _ => pairChoice_keeps yields held chosen)
      (by simp) membersRead
    exact Slot.resolve_eq_ok absent holds resolved
  · obtain ⟨⟨value, behind⟩, itemRead, remaining⟩ := exists_of_bind_eq_ok (enter_eq_ok read)
    obtain ⟨_, _, remaining⟩ := exists_of_bind_eq_ok remaining
    obtain ⟨_, _, result⟩ := exists_of_bind_eq_ok remaining
    cases result
    exact Slot.readItem_eq_ok yields short itemRead
  · exact absurd read refuse_ne_ok

end

theorem Reader.Yields.of_readAll {reader : Reader α} {property : α → Prop}
    (yields : reader.Yields property) {source : String} {value : α}
    (read : readAll reader source = .ok value) : property value := by
  unfold readAll at read
  split at read
  · rename_i valueRead
    cases read
    exact yields _ _ _ _ valueRead
  · cases read
  · cases read

end Json

namespace Envelope

/-- The data of an envelope are ordered. -/
theorem ordered_of_parse {body : String} {envelope : Envelope}
    (parsed : parse body = .ok envelope) :
    ∀ members ∈ envelope.data, (Json.object members).Ordered := by
  have yields : Json.Reader.Yields reader fun envelope =>
      ∀ members ∈ envelope.data, (Json.object members).Ordered := by
    intro limit tokens envelope rest read
    obtain ⟨⟨⟨data, errors⟩, behind⟩, pairRead, result⟩ := exists_of_map_eq_ok read
    cases result
    have missing : ∀ value : Option (List (String × Json)),
        (.ok none : Except Json.DataFault _) = .ok value →
          ∀ members ∈ value, (Json.object members).Ordered := by
      intro value same
      cases same
      nofun
    exact Json.pairReader_yields_left (Json.optionalReader_yields Json.mappingReader_yields)
      missing missing _ _ _ _ pairRead
  exact yields.of_readAll parsed

end Envelope

end ShapeQuery
