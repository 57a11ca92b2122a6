import ShapeQuery.Proofs.Datum.Decoding
import ShapeQuery.Proofs.Json.Typed
import ShapeQuery.Proofs.Named.LastWritten

/-!
# What readers make of values

Where no name is repeated and a strict reader gets through a written value, what a typed
reader makes of it depends on its value alone: the order of the members and the members that
nobody asked for play no part.
-/

namespace ShapeQuery

section

variable {α β ε : Type}

theorem toOption_bind (first : Except ε α) (next : α → Except ε β) :
    (first >>= next).toOption = first.toOption.bind fun value => (next value).toOption := by
  cases first <;> rfl

theorem toOption_map (first : Except ε α) (convert : α → β) :
    (first.map convert).toOption = first.toOption.map convert := by
  cases first <;> rfl

theorem toOption_mapM {γ : Type} {convert : α → Except ε β} {meaning : γ → Option β}
    {items : List α} {values : List γ}
    (related : List.Forall₂ (fun item value => (convert item).toOption = meaning value) items
      values) :
    (items.mapM convert).toOption = values.mapM meaning := by
  induction related with
  | nil => rfl
  | cons first others induction =>
      simp only [List.mapM_cons, toOption_bind, first, induction]
      rfl

theorem toOption_mapError {ζ : Type} (first : Except ε α) (convert : ε → ζ) :
    (first.mapError convert).toOption = first.toOption := by
  cases first <;> rfl

end

namespace Json

namespace Written

mutual

/-- No object in the value has a name twice. -/
def Unrepeated : Written → Prop
  | .list items => UnrepeatedItems items
  | .object members => (members.map Prod.fst).Nodup ∧ UnrepeatedMembers members
  | _ => True

def UnrepeatedItems : List Written → Prop
  | [] => True
  | item :: rest => Unrepeated item ∧ UnrepeatedItems rest

def UnrepeatedMembers : List (Except SyntaxFault String × Written) → Prop
  | [] => True
  | (_, value) :: rest => Unrepeated value ∧ UnrepeatedMembers rest

end

theorem unrepeatedItems_iff {items : List Written} :
    UnrepeatedItems items ↔ ∀ item ∈ items, item.Unrepeated := by
  induction items with
  | nil => simp [UnrepeatedItems]
  | cons item rest induction => simp [UnrepeatedItems, induction]

theorem unrepeatedMembers_iff {members : List (Except SyntaxFault String × Written)} :
    UnrepeatedMembers members ↔ ∀ member ∈ members, member.2.Unrepeated := by
  induction members with
  | nil => simp [UnrepeatedMembers]
  | cons member rest induction => simp [UnrepeatedMembers, induction]

/-- A strict reader gets through the member and makes the entry of it. -/
def MemberReads (room : Nat) (member : Except SyntaxFault String × Written)
    (entry : String × Json) : Prop :=
  member.1 = .ok entry.1 ∧ member.2.read room = .ok entry.2

/-- The member has the name of the entry.  If that is among the wanted names, nothing in its
value is repeated, and a strict reader gets through it and makes the value of the entry. -/
def Offers (wanted : List String) (room : Nat) (member : Except SyntaxFault String × Written)
    (entry : String × Json) : Prop :=
  member.1 = .ok entry.1 ∧
    (entry.1 ∈ wanted → member.2.Unrepeated ∧ member.2.read room = .ok entry.2)

theorem offers_of_memberReads {room : Nat} {members : List (Except SyntaxFault String × Written)}
    {writes : List (String × Json)} (wanted : List String)
    (unrepeated : UnrepeatedMembers members)
    (related : List.Forall₂ (MemberReads room) members writes) :
    List.Forall₂ (Offers wanted room) members writes := by
  have each := (List.forall₂_and_left _ _).mpr ⟨unrepeatedMembers_iff.mp unrepeated, related⟩
  exact each.imp fun member entry facts => ⟨facts.2.1, fun _ => ⟨facts.1, facts.2.2⟩⟩

theorem readItems_eq_mapM (room : Nat) (items : List Written) :
    readItems room items = items.mapM (read room) := by
  induction items with
  | nil => rfl
  | cons item rest induction => rw [readItems, List.mapM_cons, induction]

theorem readMembers_eq_ok_iff {room : Nat} {held entries : List (String × Json)}
    {members : List (Except SyntaxFault String × Written)} :
    readMembers room held members = .ok entries ↔
      ∃ writes, List.Forall₂ (MemberReads room) members writes ∧
        entries = Named.insertAll held writes := by
  induction members generalizing held with
  | nil =>
      constructor
      · intro read
        cases read
        exact ⟨[], .nil, rfl⟩
      · rintro ⟨writes, related, rfl⟩
        cases related
        rfl
  | cons member rest induction =>
      obtain ⟨name, value⟩ := member
      rw [readMembers]
      constructor
      · intro read
        obtain ⟨name, rfl, remaining⟩ := exists_of_bind_eq_ok read
        obtain ⟨json, valueRead, remaining⟩ := exists_of_bind_eq_ok remaining
        obtain ⟨writes, related, rfl⟩ := induction.mp remaining
        exact ⟨(name, json) :: writes, .cons ⟨rfl, valueRead⟩ related, rfl⟩
      · rintro ⟨writes, related, rfl⟩
        cases related with
        | cons first others =>
            obtain ⟨rfl, valueRead⟩ := first
            rw [valueRead]
            exact induction.mpr ⟨_, others, rfl⟩

theorem names_eq {members : List (Except SyntaxFault String × Written)}
    {writes : List (String × Json)}
    (named : List.Forall₂ (fun member write => member.1 = .ok write.1) members writes) :
    members.map Prod.fst = (writes.map Prod.fst).map .ok := by
  induction named with
  | nil => rfl
  | cons first others induction =>
      rw [List.map_cons, List.map_cons, List.map_cons, first, induction]

theorem nodup_of_names {members : List (Except SyntaxFault String × Written)}
    {writes : List (String × Json)}
    (named : List.Forall₂ (fun member write => member.1 = .ok write.1) members writes)
    (distinct : (members.map Prod.fst).Nodup) : (writes.map Prod.fst).Nodup := by
  rw [names_eq named] at distinct
  exact distinct.of_map

/-- What is found under a name is what the last member of the name reads as. -/
theorem find?_of_readMembers {room : Nat} {name : String} {payload : Written}
    {earlier later : List (Except SyntaxFault String × Written)} {entries : List (String × Json)}
    (read : readMembers room [] (earlier ++ (.ok name, payload) :: later) = .ok entries)
    (last : ∀ value, (.ok name, value) ∉ later) :
    ∃ json, payload.read room = .ok json ∧ Named.find? name entries = some json := by
  obtain ⟨writes, related, rfl⟩ := readMembers_eq_ok_iff.mp read
  have behind := List.forall₂_drop earlier.length related
  rw [List.drop_left] at behind
  rw [Named.find?_insertAll, ← List.take_append_drop earlier.length writes,
    Named.lastWritten?_append]
  cases remaining : writes.drop earlier.length with
  | nil =>
      rw [remaining] at behind
      cases behind
  | cons write after =>
      rw [remaining] at behind
      obtain ⟨⟨named, payloadRead⟩, laterRelated⟩ := List.forall₂_cons.mp behind
      have sameName : name = write.1 := Except.ok.inj named
      -- no later member writes over what the last one of the name has written
      have nothing : Named.lastWritten? name after = none := by
        rw [← Option.not_isSome_iff_eq_none, Named.lastWritten?_isSome_iff]
        intro inAfter
        have inLater : .ok name ∈ later.map Prod.fst := by
          rw [names_eq (laterRelated.imp fun _ _ => And.left)]
          exact List.mem_map_of_mem inAfter
        obtain ⟨⟨_, value⟩, inMembers, rfl⟩ := List.mem_map.mp inLater
        exact last value inMembers
      refine ⟨write.2, payloadRead, ?_⟩
      rw [Named.lastWritten?_cons, nothing, if_pos sameName.symm, Option.none_or, Option.some_or,
        Option.some_or]

/-- How a strict reader gets through a value. -/
inductive ReadsAs (limit : Nat) : Written → Json → Prop where
  | null : ReadsAs limit (.word .null) .null
  | boolean (value : Bool) : ReadsAs limit (.word (.boolean value)) (.boolean value)
  | integer (value : Int) : ReadsAs limit (.number (.ok (.integer value))) (.integer value)
  | floating (value : Floating) : ReadsAs limit (.number (.ok (.floating value))) (.floating value)
  | text (value : String) : ReadsAs limit (.text (.ok value)) (.text value)
  | list {items : List Written} {values : List Json} (room : ¬ limit ≤ 1)
      (related : List.Forall₂ (fun item value => read (limit - 1) item = .ok value) items values) :
      ReadsAs limit (.list items) (.list values)
  | object {members : List (Except SyntaxFault String × Written)}
      {writes : List (String × Json)} (room : ¬ limit ≤ 1)
      (related : List.Forall₂ (MemberReads (limit - 1)) members writes) :
      ReadsAs limit (.object members) (.object (Named.insertAll [] writes))

theorem readsAs_of_read {limit : Nat} {written : Written} {json : Json}
    (strict : written.read limit = .ok json) : ReadsAs limit written json := by
  cases written with
  | word value =>
      cases strict
      cases value with
      | null => exact .null
      | boolean value => exact .boolean value
  | number reading =>
      obtain ⟨number, rfl, rfl⟩ := exists_of_map_eq_ok strict
      cases number with
      | integer value => exact .integer value
      | floating value => exact .floating value
  | text reading =>
      obtain ⟨value, rfl, rfl⟩ := exists_of_map_eq_ok strict
      exact .text value
  | list items =>
      rw [read] at strict
      split at strict
      · cases strict
      · rename_i room
        obtain ⟨values, itemsRead, rfl⟩ := exists_of_map_eq_ok strict
        rw [readItems_eq_mapM] at itemsRead
        exact .list room (mapM_eq_ok_iff.mp itemsRead)
  | object members =>
      rw [read] at strict
      split at strict
      · cases strict
      · rename_i room
        obtain ⟨entries, membersRead, rfl⟩ := exists_of_map_eq_ok strict
        obtain ⟨writes, related, rfl⟩ := readMembers_eq_ok_iff.mp membersRead
        exact .object room related

end Written

/-- The reader does not look behind a value, and what it makes of one without repeated names
that a strict reader gets through is what the meaning says of the value. -/
structure Reader.Means {α : Type} (reader : Reader α) (meaning : Json → Option α) : Prop where
  isLocal : reader.Local
  reads : ∀ limit written json, Written.Unrepeated written → written.read limit = .ok json →
    (reader.on limit written).toOption = meaning json

namespace Reader.Means

variable {α β : Type} {reader : Reader α} {meaning : Json → Option α}

theorem of_computes {evaluate : Nat → Written → Except Fault α}
    (computes : reader.Computes evaluate)
    (reads : ∀ limit written json, Written.Unrepeated written →
      Written.ReadsAs limit written json → (evaluate limit written).toOption = meaning json) :
    reader.Means meaning where
  isLocal := computes.isLocal
  reads limit written json unrepeated strict := by
    rw [computes.on_eq]
    exact reads limit written json unrepeated (Written.readsAs_of_read strict)

theorem map (means : reader.Means meaning) (convert : α → β) :
    Reader.Means (fun limit tokens => (reader limit tokens).map fun result =>
      (convert result.1, result.2)) fun json => (meaning json).map convert where
  isLocal := (means.isLocal.map convert).isLocal
  reads limit written json unrepeated strict := by
    rw [(means.isLocal.map convert).on_eq, toOption_map,
      means.reads limit written json unrepeated strict]

theorem combine {γ : Type} {reader : Reader (α × β)} {meaning : Json → Option (α × β)}
    (means : reader.Means meaning) (convert : α → β → γ) :
    Reader.Means (fun limit tokens => (reader limit tokens).map fun ((left, right), rest) =>
      (convert left right, rest)) fun json =>
        (meaning json).map fun both => convert both.1 both.2 :=
  means.map fun both => convert both.1 both.2

end Reader.Means

variable {α β : Type}

/-! ## Single values -/

def textMeaning : Json → Option String
  | .text value => some value
  | _ => none

def word32Meaning : Json → Option UInt32
  | .integer value =>
    if 0 ≤ value ∧ value < Nat.pow 2 32 then some (UInt32.ofNat value.toNat) else none
  | _ => none

def mappingMeaning : Json → Option (List (String × Json))
  | .object members => some members
  | _ => none

def optionalMeaning (inner : Json → Option α) : Json → Option (Option α)
  | .null => some none
  | json => (inner json).map some

theorem textReader_means : textReader.Means textMeaning := by
  apply Reader.Means.of_computes textReader_computes
  intro limit written json unrepeated reads
  cases reads <;> rfl

theorem word32Reader_means : word32Reader.Means word32Meaning := by
  apply Reader.Means.of_computes word32Reader_computes
  intro limit written json unrepeated reads
  cases reads with
  | integer value =>
      rw [word32On_integer, word32Meaning]
      split <;> rfl
  | _ => rfl

theorem mappingReader_means : mappingReader.Means mappingMeaning := by
  apply Reader.Means.of_computes mappingReader_computes
  intro limit written json unrepeated reads
  cases reads with
  | object room related =>
      rw [mappingOn, if_neg room, Written.readMembers_eq_ok_iff.mpr ⟨_, related, rfl⟩]
      rfl
  | _ => rfl

theorem optionalReader_means {inner : Reader α} {meaning : Json → Option α}
    (means : inner.Means meaning) : (optionalReader inner).Means (optionalMeaning meaning) where
  isLocal := (optionalReader_computes means.isLocal).isLocal
  reads limit written json unrepeated strict := by
    have innerReads : ((inner.on limit written).map some).toOption = (meaning json).map some := by
      rw [toOption_map, means.reads limit written json unrepeated strict]
    rw [(optionalReader_computes means.isLocal).on_eq]
    cases Written.readsAs_of_read strict with
    | null => rfl
    | _ => exact innerReads

/-! ## Lists -/

def listMeaning (item : Json → Option α) : Json → Option (List α)
  | .list items => items.mapM item
  | _ => none

theorem listReader_means {item : Reader α} {meaning : Json → Option α}
    (means : item.Means meaning) : (listReader item).Means (listMeaning meaning) := by
  apply Reader.Means.of_computes (listReader_computes means.isLocal)
  intro limit written json unrepeated reads
  cases reads with
  | list room related =>
      rw [listOn, enter, if_neg room, listMeaning]
      apply toOption_mapM
      have each := (List.forall₂_and_left _ _).mpr
        ⟨Written.unrepeatedItems_iff.mp unrepeated, related⟩
      exact each.imp fun item value facts => means.reads _ item value facts.1 facts.2
  | _ => rfl

/-! ## Records -/

/-- What a member means that may be missing. -/
def slotMeaning (slot : Slot α) (meaning : Json → Option α) : Option Json → Option α
  | none => slot.absent.toOption
  | some json => meaning json

def itemMeaning (slot : Slot α) (meaning : Json → Option α) : Option Json → Option α
  | none => slot.short.toOption
  | some json => meaning json

def pairMeaning (left : Slot α) (right : Slot β) (leftMeaning : Json → Option α)
    (rightMeaning : Json → Option β) : Json → Option (α × β)
  | .object members => do
    let leftValue ← slotMeaning left leftMeaning (Named.find? left.name members)
    let rightValue ← slotMeaning right rightMeaning (Named.find? right.name members)
    return (leftValue, rightValue)
  | .list items =>
    if 2 < items.length then none
    else do
      let leftValue ← itemMeaning left leftMeaning items[0]?
      let rightValue ← itemMeaning right rightMeaning items[1]?
      return (leftValue, rightValue)
  | _ => none

/-- What is gathered of a member, beside what was gathered before. -/
def gatheredMeaning (meaning : Json → Option α) (held : Option α) : Option Json → Option (Option α)
  | none => some held
  | some json => (meaning json).map some

section

variable {left : Slot α} {right : Slot β} {leftMeaning : Json → Option α}
  {rightMeaning : Json → Option β}

theorem toOption_members (leftMeans : left.reader.Means leftMeaning)
    (rightMeans : right.reader.Means rightMeaning) (different : left.name ≠ right.name)
    {limit : Nat} {members : List (Except SyntaxFault String × Written)}
    {writes : List (String × Json)}
    (related : List.Forall₂ (Written.Offers [left.name, right.name] limit) members writes)
    (distinct : (writes.map Prod.fst).Nodup) (state : Option α × Option β)
    (leftFree : left.name ∈ writes.map Prod.fst → state.1 = none)
    (rightFree : right.name ∈ writes.map Prod.fst → state.2 = none) :
    (members.foldlM (memberOn (pairChoice left right) limit) state).toOption = do
      let leftValue ← gatheredMeaning leftMeaning state.1 (Named.find? left.name writes)
      let rightValue ← gatheredMeaning rightMeaning state.2 (Named.find? right.name writes)
      return (leftValue, rightValue) := by
  -- names are distinct, so a member is free in the state as long as its name is still to come
  induction related generalizing state with
  | nil => rfl
  | @cons member entry others rest first related induction =>
      obtain ⟨written, value⟩ := member
      obtain ⟨name, json⟩ := entry
      obtain ⟨rfl, offered⟩ := first
      obtain ⟨fresh, restDistinct⟩ := List.nodup_cons.mp distinct
      have leftBehind (inRest : left.name ∈ rest.map Prod.fst) : state.1 = none :=
        leftFree (List.mem_cons_of_mem _ inRest)
      have rightBehind (inRest : right.name ∈ rest.map Prod.fst) : state.2 = none :=
        rightFree (List.mem_cons_of_mem _ inRest)
      rw [List.foldlM_cons, toOption_bind, Named.find?_cons, Named.find?_cons]
      by_cases isLeft : name = left.name
      · subst isLeft
        obtain ⟨leftRead, rightRead⟩ := state
        obtain rfl : leftRead = none := leftFree List.mem_cons_self
        obtain ⟨unrepeated, read⟩ := offered List.mem_cons_self
        rw [memberOn_left leftMeans.isLocal, toOption_map, leftMeans.reads _ _ _ unrepeated read,
          if_pos rfl, if_neg (Ne.symm different), gatheredMeaning]
        cases leftMeaning json with
        | none => rfl
        | some read =>
            have remaining := induction restDistinct (some read, rightRead)
              (fun inRest => absurd inRest fresh) rightBehind
            rw [Named.find?_eq_none_iff.mpr fresh] at remaining
            exact remaining
      · by_cases isRight : name = right.name
        · subst isRight
          obtain ⟨leftRead, rightRead⟩ := state
          obtain rfl : rightRead = none := rightFree List.mem_cons_self
          obtain ⟨unrepeated, read⟩ := offered (List.mem_cons_of_mem _ List.mem_cons_self)
          rw [memberOn_right different rightMeans.isLocal, toOption_map,
            rightMeans.reads _ _ _ unrepeated read, if_neg different, if_pos rfl,
            gatheredMeaning]
          cases rightMeaning json with
          | none =>
              -- the left member is read later and may fail as well
              cases gatheredMeaning leftMeaning leftRead (Named.find? left.name rest) <;> rfl
          | some read =>
              have remaining := induction restDistinct (leftRead, some read) leftBehind
                (fun inRest => absurd inRest fresh)
              rw [Named.find?_eq_none_iff.mpr fresh] at remaining
              exact remaining
        · rw [memberOn_other isLeft isRight, if_neg (Ne.symm isLeft), if_neg (Ne.symm isRight)]
          exact induction restDistinct state leftBehind rightBehind

theorem toOption_resolve (slot : Slot α) (meaning : Json → Option α) (json? : Option Json) :
    ((gatheredMeaning meaning none json?).bind fun read => (slot.resolve read).toOption) =
      slotMeaning slot meaning json? := by
  cases json? with
  | none => exact toOption_mapError slot.absent Fault.data
  | some json =>
      rw [gatheredMeaning, slotMeaning]
      cases meaning json <;> rfl

theorem toOption_itemOn {slot : Slot α} {meaning : Json → Option α}
    (means : slot.reader.Means meaning) {limit : Nat} {items : List Written} {values : List Json}
    (related : List.Forall₂ (fun item value => item.Unrepeated ∧ item.read limit = .ok value)
      items values) :
    (slot.itemOn limit items).toOption =
      (itemMeaning slot meaning values[0]?).map fun value => (value, items.drop 1) := by
  cases related with
  | nil =>
      rw [Slot.itemOn, toOption_map, toOption_mapError]
      rfl
  | cons first others =>
      rw [Slot.itemOn, toOption_map, means.reads limit _ _ first.1 first.2]
      rfl

theorem toOption_resolveBoth (left : Slot α) (right : Slot β) (read : Option α × Option β) :
    (resolveBoth left right read).toOption = do
      let leftValue ← (left.resolve read.1).toOption
      let rightValue ← (right.resolve read.2).toOption
      return (leftValue, rightValue) := by
  rw [resolveBoth]
  cases left.resolve read.1 with
  | error fault => rfl
  | ok leftValue => cases right.resolve read.2 <;> rfl

/-- Of the members of an object only those count that a record asks for. -/
theorem toOption_pairOn_object {wanted : String} (leftMeans : left.reader.Means leftMeaning)
    (rightMeans : right.reader.Means rightMeaning) (different : left.name ≠ right.name)
    {limit : Nat} {members : List (Except SyntaxFault String × Written)}
    {writes : List (String × Json)} (room : ¬ limit ≤ 1)
    (related : List.Forall₂ (Written.Offers [left.name, right.name] (limit - 1)) members writes)
    (distinct : (writes.map Prod.fst).Nodup) :
    (pairOn wanted left right limit (.object members)).toOption =
      pairMeaning left right leftMeaning rightMeaning (.object writes) := by
  rw [pairOn, enter, if_neg room, toOption_bind,
    toOption_members leftMeans rightMeans different related distinct (none, none) (fun _ => rfl)
      (fun _ => rfl), pairMeaning, ← toOption_resolve left, ← toOption_resolve right]
  cases gatheredMeaning leftMeaning none (Named.find? left.name writes) with
  | none => rfl
  | some leftRead =>
      cases gatheredMeaning rightMeaning none (Named.find? right.name writes) with
      | none => exact (Option.bind_fun_none _).symm
      | some rightRead => exact toOption_resolveBoth left right (leftRead, rightRead)

/-- A record of two members means what its members mean, by name or by place. -/
theorem pairReader_means {wanted : String} (leftMeans : left.reader.Means leftMeaning)
    (rightMeans : right.reader.Means rightMeaning) (different : left.name ≠ right.name) :
    (pairReader wanted left right).Means (pairMeaning left right leftMeaning rightMeaning) := by
  apply Reader.Means.of_computes (pairReader_computes leftMeans.isLocal rightMeans.isLocal)
  intro limit written json unrepeated reads
  cases reads with
  | @object members writes room related =>
      have distinct := Written.nodup_of_names (related.imp fun _ _ => And.left) unrepeated.1
      have offers := Written.offers_of_memberReads [left.name, right.name] unrepeated.2 related
      rw [toOption_pairOn_object leftMeans rightMeans different room offers distinct, pairMeaning,
        pairMeaning, Named.find?_insertAll_of_nodup distinct,
        Named.find?_insertAll_of_nodup distinct]
  | @list items values room related =>
      -- two items are read by place, and a third one is refused
      have itemsUnrepeated := Written.unrepeatedItems_iff.mp unrepeated
      have each := (List.forall₂_and_left _ _).mpr ⟨itemsUnrepeated, related⟩
      have sameLength := related.length_eq
      have second : (values.drop 1)[0]? = values[1]? := List.getElem?_drop
      rw [pairOn, enter, if_neg room, bothItemsOn, pairMeaning, toOption_bind,
        toOption_itemOn leftMeans each]
      cases itemMeaning left leftMeaning values[0]? with
      | none => exact (ite_self none).symm
      | some leftValue =>
          rw [Option.map_some, Option.bind_some, toOption_bind,
            toOption_itemOn rightMeans (List.forall₂_drop 1 each), second]
          cases itemMeaning right rightMeaning values[1]? with
          | none => exact (ite_self none).symm
          | some rightValue =>
              rw [Option.map_some, Option.bind_some, List.drop_drop]
              by_cases long : 2 < values.length
              · have remains : items.drop 2 ≠ [] := by
                  rw [ne_eq, List.drop_eq_nil_iff]
                  omega
                rw [if_pos long, if_neg remains]
                rfl
              · have nothing : items.drop 2 = [] := by
                  rw [List.drop_eq_nil_iff]
                  omega
                rw [if_neg long, if_pos nothing]
                rfl
  | _ => rfl

end

end Json

end ShapeQuery
