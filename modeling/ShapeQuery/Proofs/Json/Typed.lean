import ShapeQuery.Proofs.Datum.Encoding
import ShapeQuery.Proofs.Json.Written

/-!
# Typed readers on written values

Typed readers take exactly the tokens of a written value, so what they make of it does not
depend on what stands behind.  This gives each of them a meaning on written values, in which
the members of a record are read one after the other.
-/

namespace ShapeQuery

namespace Json

variable {α β σ : Type}

/-- What the reader makes of a written value that stands alone. -/
def Reader.on (reader : Reader α) (limit : Nat) (written : Written) : Except Fault α :=
  (reader limit written.tokens).map Prod.fst

/-- The reader makes of every written value what is given, whatever stands behind. -/
def Reader.Computes (reader : Reader α) (evaluate : Nat → Written → Except Fault α) : Prop :=
  ∀ limit written rest, reader limit (written.tokens ++ rest) =
    (evaluate limit written).map fun value => (value, rest)

/-- The reader does not look behind a written value. -/
def Reader.Local (reader : Reader α) : Prop :=
  reader.Computes reader.on

namespace Reader.Computes

variable {reader : Reader α} {evaluate : Nat → Written → Except Fault α}

theorem on_eq (computes : reader.Computes evaluate) (limit : Nat) (written : Written) :
    reader.on limit written = evaluate limit written := by
  have alone := computes limit written []
  rw [List.append_nil] at alone
  rw [Reader.on, alone]
  cases evaluate limit written <;> rfl

theorem isLocal (computes : reader.Computes evaluate) : reader.Local := by
  intro limit written rest
  rw [computes.on_eq]
  exact computes limit written rest

theorem map (computes : reader.Computes evaluate) (convert : α → β) :
    Reader.Computes (fun limit tokens => (reader limit tokens).map fun result =>
      (convert result.1, result.2)) fun limit written => (evaluate limit written).map convert := by
  intro limit written rest
  simp only [computes limit written rest]
  cases evaluate limit written <;> rfl

end Reader.Computes

/-! ## Single values -/

/-- The fault of a value of another type. -/
def refusal (wanted : String) (written : Written) : Fault :=
  match foundAt [written.opening] with
  | .ok found => .data (.invalidType found wanted)
  | .error fault => .syntactic fault

/-- What is made of a written value where a text is wanted. -/
def textOn : Written → Except Fault String
  | .text strict => strict.mapError .syntactic
  | other => .error (refusal "a string" other)

def word32On : Written → Except Fault UInt32
  | .number strict => do
    match ← strict.mapError Fault.syntactic with
    | .floating value => illTyped (.invalidType (.floating value) "u32")
    | .integer value =>
      if 0 ≤ value ∧ value < Nat.pow 2 32 then .ok (UInt32.ofNat value.toNat)
      else illTyped (.invalidValue (.integer value) "u32")
  | other => .error (refusal "u32" other)

theorem word32On_integer (value : Int) :
    word32On (.number (.ok (.integer value))) =
      if 0 ≤ value ∧ value < Nat.pow 2 32 then .ok (UInt32.ofNat value.toNat)
      else illTyped (.invalidValue (.integer value) "u32") := rfl

theorem textReader_computes : textReader.Computes fun _ written => textOn written := by
  intro limit written rest
  cases written with
  | word value | list items | object members => rfl
  | number strict | text strict => cases strict <;> rfl

theorem word32Reader_computes : word32Reader.Computes fun _ written => word32On written := by
  intro limit written rest
  cases written with
  | word value | list items | object members => rfl
  | text strict => cases strict <;> rfl
  | number strict =>
      match strict with
      | .error _ | .ok (.floating _) => rfl
      | .ok (.integer value) =>
          have reads : word32Reader limit
              ((Written.number (.ok (.integer value))).tokens ++ rest) =
                if 0 ≤ value ∧ value < Nat.pow 2 32 then .ok (UInt32.ofNat value.toNat, rest)
                else illTyped (.invalidValue (.integer value) "u32") := rfl
          simp only [reads, word32On_integer]
          split <;> rfl

def optionalOn (inner : Reader α) (limit : Nat) : Written → Except Fault (Option α)
  | .word .null => .ok none
  | other => (inner.on limit other).map some

theorem optionalReader_computes {inner : Reader α} (innerLocal : inner.Local) :
    (optionalReader inner).Computes (optionalOn inner) := by
  intro limit written rest
  have mapped := innerLocal.map some limit written rest
  cases written with
  | word value =>
      cases value with
      | null => rfl
      | boolean value => exact mapped
  | number strict | text strict | list items | object members => exact mapped

def mappingOn (limit : Nat) : Written → Except Fault (List (String × Json))
  | .object members =>
    if limit ≤ 1 then malformed .tooDeep
    else (Written.readMembers (limit - 1) [] members).mapError .syntactic
  | other => .error (refusal "a map" other)

theorem mappingReader_computes : mappingReader.Computes mappingOn := by
  intro limit written rest
  cases written with
  | word value | list items => rfl
  | number strict | text strict => cases strict <;> rfl
  | object members =>
      have read := anyValue_written limit (.object members) rest
      rw [Written.tokens, List.cons_append] at read ⊢
      rw [mappingReader]
      simp only [read, Written.read, mappingOn]
      split
      · rfl
      · cases Written.readMembers (limit - 1) [] members <;> rfl

/-! ## Lists -/

theorem nextItem?_separated (first : Bool) (written : Written) (rest : List Token) :
    nextItem? first (separated first (written.tokens ++ rest)) =
      .ok (some (written.tokens ++ rest)) := by
  cases first <;> cases written <;> rfl

theorem nextItem?_close (first : Bool) (rest : List Token) :
    nextItem? first (.closeList :: rest) = .ok none := rfl

theorem Written.length_itemTokens (first : Bool) (items : List Written) :
    items.length < (itemTokens first items).length := by
  induction items generalizing first with
  | nil => exact Nat.zero_lt_one
  | cons item items induction =>
      obtain ⟨more, opened⟩ := item.tokens_eq_cons
      have shorter := induction false
      rw [itemTokens, separated]
      split <;> simp only [List.length_cons, List.length_append, opened] <;> omega

theorem readItems_written {item : Reader α} (itemLocal : item.Local) (limit : Nat)
    {fuel : Nat} {items : List Written} (enough : items.length < fuel) (first : Bool)
    (rest : List Token) :
    readItems item limit fuel first (Written.itemTokens first items ++ rest) =
      (items.mapM (item.on limit)).map fun values => (values, rest) := by
  induction items generalizing fuel first with
  | nil =>
      obtain ⟨fuel, rfl⟩ := Nat.exists_eq_succ_of_ne_zero (Nat.ne_of_gt enough)
      rfl
  | cons written items induction =>
      obtain ⟨fuel, rfl⟩ := Nat.exists_eq_succ_of_ne_zero (Nat.ne_of_gt (Nat.zero_lt_of_lt enough))
      have behind := induction (Nat.lt_of_succ_lt_succ enough) false
      rw [Written.itemTokens, separated_append, List.append_assoc, readItems,
        nextItem?_separated]
      simp only [itemLocal limit written, List.mapM_cons]
      cases item.on limit written with
      | error fault => rfl
      | ok value =>
          calc
            _ = (readItems item limit fuel false (Written.itemTokens false items ++ rest)).map
                  fun (read : List α × List Token) => (value :: read.1, read.2) := rfl
            _ = _ := by
                rw [behind]
                cases items.mapM (item.on limit) <;> rfl

def listOn (item : Reader α) (limit : Nat) : Written → Except Fault (List α)
  | .list items => enter limit fun inside => items.mapM (item.on inside)
  | other => .error (refusal "a sequence" other)

theorem enter_map (limit : Nat) (inside : Nat → Except Fault α) (convert : α → β) :
    (enter limit inside).map convert = enter limit fun limit => (inside limit).map convert := by
  unfold enter
  split <;> rfl

theorem listReader_computes {item : Reader α} (itemLocal : item.Local) :
    (listReader item).Computes (listOn item) := by
  intro limit written rest
  cases written with
  | word value | object members => rfl
  | number strict | text strict => cases strict <;> rfl
  | list items =>
      have enough := Written.length_itemTokens true items
      rw [Written.tokens, List.cons_append, listReader, listOn, enter_map]
      congr 1
      funext inside
      apply readItems_written itemLocal
      simp only [List.length_cons, List.length_append]
      omega

/-! ## Objects -/

theorem nextMember?_separated (first : Bool) (name : Except SyntaxFault String)
    (rest : List Token) :
    nextMember? first (separated first (.text (.wellFormed name) :: rest)) =
      .ok (some (.text (.wellFormed name) :: rest)) := by
  cases first <;> rfl

theorem Written.length_memberTokens (first : Bool)
    (members : List (Except SyntaxFault String × Written)) :
    members.length < (memberTokens first members).length := by
  induction members generalizing first with
  | nil => exact Nat.zero_lt_one
  | cons member members induction =>
      have shorter := induction false
      rw [memberTokens, separated]
      split <;> simp only [List.length_cons, List.length_append] <;> omega

/-- What one member does to the state of a record that is being read. -/
def memberOn (choice : MemberChoice σ) (limit : Nat) (state : σ)
    (member : Except SyntaxFault String × Written) : Except Fault σ := do
  let name ← member.1.mapError Fault.syntactic
  match ← (choice name state).mapError Fault.data with
  | some reader => reader.on limit member.2
  | none => return state

theorem memberOn_ok (choice : MemberChoice σ) (limit : Nat) (state : σ) (name : String)
    (value : Written) :
    memberOn choice limit state (.ok name, value) = (do
      match ← (choice name state).mapError Fault.data with
      | some reader => reader.on limit value
      | none => return state) := rfl

/-- No chosen reader looks behind its value. -/
def MemberChoice.Local (choice : MemberChoice σ) : Prop :=
  ∀ name state reader, choice name state = .ok (some reader) → Reader.Local reader

theorem readMember_written {choice : MemberChoice σ} (choiceLocal : choice.Local) (limit : Nat)
    (state : σ) (name : Except SyntaxFault String) (value : Written) (rest : List Token) :
    readMember choice limit state
        (.text (.wellFormed name) :: .colon :: (value.tokens ++ rest)) =
      (memberOn choice limit state (name, value)).map fun next => (next, rest) := by
  cases name with
  | error fault => rfl
  | ok name =>
      have unfolded : readMember choice limit state
          (.text (.wellFormed (.ok name)) :: .colon :: (value.tokens ++ rest)) = (do
            match ← (choice name state).mapError Fault.data with
            | some reader => reader limit (value.tokens ++ rest)
            | none =>
              let rest ← (skip (value.tokens ++ rest)).mapError Fault.syntactic
              return (state, rest)) := rfl
      rw [unfolded, skip_written, memberOn_ok]
      cases chosen : choice name state with
      | error fault => rfl
      | ok reader? =>
          cases reader? with
          | none => rfl
          -- the chosen reader is given all that follows, and takes the value alone
          | some reader => exact choiceLocal name state reader chosen limit value rest

theorem readMembers_written {choice : MemberChoice σ} (choiceLocal : choice.Local) (limit : Nat)
    {fuel : Nat} {members : List (Except SyntaxFault String × Written)}
    (enough : members.length < fuel) (first : Bool) (state : σ) (rest : List Token) :
    readMembers choice limit fuel first state (Written.memberTokens first members ++ rest) =
      (members.foldlM (memberOn choice limit) state).map fun last => (last, rest) := by
  induction members generalizing fuel first state with
  | nil =>
      obtain ⟨fuel, rfl⟩ := Nat.exists_eq_succ_of_ne_zero (Nat.ne_of_gt enough)
      rfl
  | cons member members induction =>
      obtain ⟨name, value⟩ := member
      obtain ⟨fuel, rfl⟩ := Nat.exists_eq_succ_of_ne_zero (Nat.ne_of_gt (Nat.zero_lt_of_lt enough))
      rw [Written.memberTokens, separated_append, List.cons_append, List.cons_append,
        List.append_assoc, readMembers, nextMember?_separated, List.foldlM_cons]
      simp only [readMember_written choiceLocal]
      cases memberOn choice limit state (name, value) with
      | error fault => rfl
      | ok next => exact induction (Nat.lt_of_succ_lt_succ enough) false next

/-! ## Records -/

section

variable {left : Slot α} {right : Slot β}

theorem pairChoice_local (leftLocal : left.reader.Local) (rightLocal : right.reader.Local) :
    (pairChoice left right).Local := by
  intro name state reader chosen
  unfold pairChoice at chosen
  split at chosen
  · split at chosen
    · cases chosen
    · cases chosen
      exact (leftLocal.map fun value => (some value, state.2)).isLocal
  · split at chosen
    · split at chosen
      · cases chosen
      · cases chosen
        exact (rightLocal.map fun value => (state.1, some value)).isLocal
    · cases chosen

theorem memberOn_left (leftLocal : left.reader.Local) (limit : Nat) (rightRead : Option β)
    (value : Written) :
    memberOn (pairChoice left right) limit (none, rightRead) (.ok left.name, value) =
      (left.reader.on limit value).map fun read => (some read, rightRead) := by
  have chosen : pairChoice left right left.name (none, rightRead) =
      .ok (some fun limit tokens => (left.reader limit tokens).map fun result =>
        ((some result.1, rightRead), result.2)) := if_pos rfl
  have converted := (leftLocal.map fun read => (some read, rightRead)).on_eq limit value
  rw [memberOn_ok, chosen]
  exact converted

theorem memberOn_right (different : left.name ≠ right.name) (rightLocal : right.reader.Local)
    (limit : Nat) (leftRead : Option α) (value : Written) :
    memberOn (pairChoice left right) limit (leftRead, none) (.ok right.name, value) =
      (right.reader.on limit value).map fun read => (leftRead, some read) := by
  have chosen : pairChoice left right right.name (leftRead, none) =
      .ok (some fun limit tokens => (right.reader limit tokens).map fun result =>
        ((leftRead, some result.1), result.2)) :=
    (if_neg different.symm).trans (if_pos rfl)
  have converted := (rightLocal.map fun read => (leftRead, some read)).on_eq limit value
  rw [memberOn_ok, chosen]
  exact converted

theorem memberOn_other {name : String} (notLeft : name ≠ left.name) (notRight : name ≠ right.name)
    (limit : Nat) (state : Option α × Option β) (value : Written) :
    memberOn (pairChoice left right) limit state (.ok name, value) = .ok state := by
  have unchosen : pairChoice left right name state = .ok none :=
    (if_neg notLeft).trans (if_neg notRight)
  rw [memberOn_ok, unchosen]
  rfl

theorem memberOn_left_held (limit : Nat) (held : α) (rightRead : Option β) (value : Written) :
    memberOn (pairChoice left right) limit (some held, rightRead) (.ok left.name, value) =
      illTyped (.duplicateMember left.name) := by
  have refused : pairChoice left right left.name (some held, rightRead) =
      .error (.duplicateMember left.name) := if_pos rfl
  rw [memberOn_ok, refused]
  rfl

theorem memberOn_right_held (different : left.name ≠ right.name) (limit : Nat)
    (leftRead : Option α) (held : β) (value : Written) :
    memberOn (pairChoice left right) limit (leftRead, some held) (.ok right.name, value) =
      illTyped (.duplicateMember right.name) := by
  have refused : pairChoice left right right.name (leftRead, some held) =
      .error (.duplicateMember right.name) := (if_neg different.symm).trans (if_pos rfl)
  rw [memberOn_ok, refused]
  rfl

/-- How a member of a record is read. -/
inductive ReadsMember (left : Slot α) (right : Slot β) (limit : Nat) :
    Option α × Option β → String → Written → Option α × Option β → Prop where
  | left {value : Written} {read : α} (second : Option β)
      (valueRead : left.reader.on limit value = .ok read) :
      ReadsMember left right limit (none, second) left.name value (some read, second)
  | right {value : Written} {read : β} (first : Option α) (other : right.name ≠ left.name)
      (valueRead : right.reader.on limit value = .ok read) :
      ReadsMember left right limit (first, none) right.name value (first, some read)
  | skipped {name : String} (value : Written) (state : Option α × Option β)
      (notLeft : name ≠ left.name) (notRight : name ≠ right.name) :
      ReadsMember left right limit state name value state

theorem readsMember_of_memberOn (leftLocal : left.reader.Local) (rightLocal : right.reader.Local)
    (different : left.name ≠ right.name) {limit : Nat} {state next : Option α × Option β}
    {member : Except SyntaxFault String × Written}
    (stepped : memberOn (pairChoice left right) limit state member = .ok next) :
    ∃ name, member.1 = .ok name ∧ ReadsMember left right limit state name member.2 next := by
  obtain ⟨written, value⟩ := member
  obtain ⟨name, named, _⟩ := exists_of_bind_eq_ok stepped
  obtain rfl := eq_ok_of_mapError_eq_ok named
  obtain ⟨leftRead, rightRead⟩ := state
  refine ⟨name, rfl, ?_⟩
  by_cases isLeft : name = left.name
  · subst isLeft
    cases leftRead with
    | some held =>
        rw [memberOn_left_held] at stepped
        cases stepped
    | none =>
        rw [memberOn_left leftLocal] at stepped
        obtain ⟨read, valueRead, rfl⟩ := exists_of_map_eq_ok stepped
        exact .left rightRead valueRead
  · by_cases isRight : name = right.name
    · subst isRight
      cases rightRead with
      | some held =>
          rw [memberOn_right_held different] at stepped
          cases stepped
      | none =>
          rw [memberOn_right different rightLocal] at stepped
          obtain ⟨read, valueRead, rfl⟩ := exists_of_map_eq_ok stepped
          exact .right leftRead isLeft valueRead
    · rw [memberOn_other isLeft isRight] at stepped
      cases stepped
      exact .skipped value (leftRead, rightRead) isLeft isRight

/-- What becomes of the state where the members of the name are read into it: it was empty and
holds what is made of the one member of the name, or there is none and it stays as it was. -/
structure Gathers (name : String) (reader : Reader α) (limit : Nat)
    (members : List (Except SyntaxFault String × Written)) (before after : Option α) : Prop where
  named : ∀ value, (.ok name, value) ∈ members →
    before = none ∧ ∃ read, reader.on limit value = .ok read ∧ after = some read
  unnamed : (∀ value, (.ok name, value) ∉ members) → after = before

theorem Gathers.cons_other {name : String} {reader : Reader α} {limit : Nat}
    {member : Except SyntaxFault String × Written}
    {rest : List (Except SyntaxFault String × Written)} {before after : Option α}
    (other : member.1 ≠ .ok name) (behind : Gathers name reader limit rest before after) :
    Gathers name reader limit (member :: rest) before after where
  named := by
    intro value inMembers
    rcases List.mem_cons.mp inMembers with rfl | inRest
    · exact absurd rfl other
    · exact behind.named value inRest
  unnamed := by
    intro fresh
    exact behind.unnamed fun value inRest => fresh value (List.mem_cons_of_mem _ inRest)

theorem Gathers.cons_read {name : String} {reader : Reader α} {limit : Nat} {value : Written}
    {rest : List (Except SyntaxFault String × Written)} {read : α} {after : Option α}
    (valueRead : reader.on limit value = .ok read)
    (behind : Gathers name reader limit rest (some read) after) :
    Gathers name reader limit ((.ok name, value) :: rest) none after where
  named := by
    have fresh : ∀ other, (.ok name, other) ∉ rest := by
      intro other inRest
      cases (behind.named other inRest).1
    intro found inMembers
    refine ⟨rfl, ?_⟩
    rcases List.mem_cons.mp inMembers with same | inRest
    · cases same
      exact ⟨read, valueRead, behind.unnamed fresh⟩
    · exact absurd inRest (fresh found)
  unnamed := by
    intro fresh
    exact absurd List.mem_cons_self (fresh value)

theorem gathers_of_foldlM (leftLocal : left.reader.Local) (rightLocal : right.reader.Local)
    (different : left.name ≠ right.name) {limit : Nat}
    {members : List (Except SyntaxFault String × Written)} {state last : Option α × Option β}
    (read : members.foldlM (memberOn (pairChoice left right) limit) state = .ok last) :
    Gathers left.name left.reader limit members state.1 last.1 ∧
      Gathers right.name right.reader limit members state.2 last.2 := by
  -- a second member of one name is refused, so a member is only ever read into an empty state
  induction members generalizing state with
  | nil =>
      cases read
      exact ⟨⟨nofun, fun _ => rfl⟩, ⟨nofun, fun _ => rfl⟩⟩
  | cons member rest induction =>
      rw [List.foldlM_cons] at read
      obtain ⟨next, stepped, remaining⟩ := exists_of_bind_eq_ok read
      obtain ⟨leftBehind, rightBehind⟩ := induction remaining
      obtain ⟨name, named, step⟩ := readsMember_of_memberOn leftLocal rightLocal different stepped
      obtain ⟨written, value⟩ := member
      cases named
      cases step with
      | left second valueRead =>
          exact ⟨leftBehind.cons_read valueRead,
            rightBehind.cons_other fun same => different (Except.ok.inj same)⟩
      | right first other valueRead =>
          exact ⟨leftBehind.cons_other fun same => other (Except.ok.inj same),
            rightBehind.cons_read valueRead⟩
      | skipped value state notLeft notRight =>
          exact ⟨leftBehind.cons_other fun same => notLeft (Except.ok.inj same),
            rightBehind.cons_other fun same => notRight (Except.ok.inj same)⟩

/-- What a slot makes of the items that are left, and what it leaves of them. -/
def Slot.itemOn (slot : Slot α) (limit : Nat) :
    List Written → Except Fault (α × List Written)
  | [] => (slot.short.mapError .data).map fun value => (value, [])
  | item :: rest => (slot.reader.on limit item).map fun value => (value, rest)

theorem Slot.readItem_written {slot : Slot α} (slotLocal : slot.reader.Local) (limit : Nat)
    (first : Bool) (items : List Written) (rest : List Token) :
    slot.readItem limit first (Written.itemTokens first items ++ rest) =
      (slot.itemOn limit items).map fun result =>
        (result.1, Written.itemTokens false result.2 ++ rest) := by
  cases items with
  | nil =>
      have close : slot.readItem limit first (Written.itemTokens first [] ++ rest) =
          (slot.short.mapError .data).map fun value => (value, .closeList :: rest) := by
        rw [Written.itemTokens, List.cons_append, Slot.readItem, nextItem?_close]
        cases slot.short <;> rfl
      rw [close]
      cases short : slot.short <;> simp only [Slot.itemOn, short] <;> rfl
  | cons item items =>
      rw [Written.itemTokens, separated_append, List.append_assoc, Slot.readItem,
        nextItem?_separated]
      calc
        _ = slot.reader limit (item.tokens ++ (Written.itemTokens false items ++ rest)) := rfl
        _ = _ := slotLocal limit item _
        _ = _ := by
            rw [Slot.itemOn]
            cases slot.reader.on limit item <;> rfl

/-- The two members of a record behind an object. -/
def resolveBoth (left : Slot α) (right : Slot β) (read : Option α × Option β) :
    Except Fault (α × β) := do
  let leftValue ← left.resolve read.1
  let rightValue ← right.resolve read.2
  return (leftValue, rightValue)

/-- The two members of a record that is written as a list. -/
def bothItemsOn (left : Slot α) (right : Slot β) (limit : Nat) (items : List Written) :
    Except Fault (α × β) := do
  let first ← left.itemOn limit items
  let second ← right.itemOn limit first.2
  if second.2 = [] then return (first.1, second.1) else malformed .trailingCharacters

/-- The last of two items where there are no more. -/
theorem noMoreItems (limit : Nat) (leftValue : α) :
    (do
      let result ← right.itemOn limit []
      if result.2 = [] then return (leftValue, result.1)
      else malformed .trailingCharacters) = (do
      let rightValue ← right.short.mapError Fault.data
      return (leftValue, rightValue)) := by
  rw [Slot.itemOn]
  cases right.short <;> rfl

theorem bothItemsOn_nil (limit : Nat) :
    bothItemsOn left right limit [] = (do
      let leftValue ← left.short.mapError Fault.data
      let rightValue ← right.short.mapError Fault.data
      return (leftValue, rightValue)) := by
  rw [bothItemsOn, Slot.itemOn]
  cases left.short with
  | error fault => rfl
  | ok leftValue => exact noMoreItems limit leftValue

theorem bothItemsOn_single (limit : Nat) (first : Written) :
    bothItemsOn left right limit [first] = (do
      let leftValue ← left.reader.on limit first
      let rightValue ← right.short.mapError Fault.data
      return (leftValue, rightValue)) := by
  rw [bothItemsOn, Slot.itemOn]
  cases left.reader.on limit first with
  | error fault => rfl
  | ok leftValue => exact noMoreItems limit leftValue

theorem bothItemsOn_cons_cons (limit : Nat) (first second : Written) (rest : List Written) :
    bothItemsOn left right limit (first :: second :: rest) = (do
      let leftValue ← left.reader.on limit first
      let rightValue ← right.reader.on limit second
      if rest = [] then return (leftValue, rightValue) else malformed .trailingCharacters) := by
  rw [bothItemsOn, Slot.itemOn]
  cases left.reader.on limit first with
  | error fault => rfl
  | ok leftValue =>
      calc
        _ = (do
              let result ← right.itemOn limit (second :: rest)
              if result.2 = [] then return (leftValue, result.1)
              else malformed .trailingCharacters) := rfl
        _ = _ := by
            rw [Slot.itemOn]
            cases right.reader.on limit second <;> rfl

/-- What is made of a written value where a record of two members is wanted. -/
def pairOn (wanted : String) (left : Slot α) (right : Slot β) (limit : Nat) :
    Written → Except Fault (α × β)
  | .object members =>
    enter limit fun inside =>
      members.foldlM (memberOn (pairChoice left right) inside) (none, none) >>=
        resolveBoth left right
  | .list items => enter limit fun inside => bothItemsOn left right inside items
  | other => .error (refusal wanted other)

theorem pairReader_computes {wanted : String} (leftLocal : left.reader.Local)
    (rightLocal : right.reader.Local) :
    (pairReader wanted left right).Computes (pairOn wanted left right) := by
  intro limit written rest
  cases written with
  | word value => rfl
  | number strict | text strict => cases strict <;> rfl
  | object members =>
      have enough : members.length <
          (.openObject :: (Written.memberTokens true members ++ rest)).length := by
        have := Written.length_memberTokens true members
        simp only [List.length_cons, List.length_append]
        omega
      rw [Written.tokens, List.cons_append, pairReader, pairOn, enter_map]
      congr 1
      funext inside
      rw [readMembers_written (pairChoice_local leftLocal rightLocal) inside enough]
      cases members.foldlM (memberOn (pairChoice left right) inside) (none, none) with
      | error fault => rfl
      | ok read =>
          calc
            _ = (do
                  let leftValue ← left.resolve read.1
                  let rightValue ← right.resolve read.2
                  return ((leftValue, rightValue), rest)) := rfl
            _ = (resolveBoth left right read).map fun both => (both, rest) := by
                unfold resolveBoth
                cases left.resolve read.1 with
                | error fault => rfl
                | ok leftValue => cases right.resolve read.2 <;> rfl
  | list items =>
      rw [Written.tokens, List.cons_append, pairReader, pairOn, enter_map]
      congr 1
      funext inside
      rw [Slot.readItem_written leftLocal, bothItemsOn]
      cases left.itemOn inside items with
      | error fault => rfl
      | ok first =>
          calc
            _ = (do
                  let result ←
                    right.readItem inside false (Written.itemTokens false first.2 ++ rest)
                  let rest ← (closeItems result.2).mapError Fault.syntactic
                  return ((first.1, result.1), rest)) := rfl
            _ = Except.map (fun both => (both, rest)) (do
                  let second ← right.itemOn inside first.2
                  if second.2 = [] then return (first.1, second.1)
                  else malformed .trailingCharacters) := by
                rw [Slot.readItem_written rightLocal]
                cases right.itemOn inside first.2 with
                | error fault => rfl
                | ok second =>
                    obtain ⟨value, behind⟩ := second
                    cases behind with
                    | nil => rfl
                    | cons item items => cases item <;> rfl

theorem foldlM_memberOn_both (leftLocal : left.reader.Local) (rightLocal : right.reader.Local)
    (different : left.name ≠ right.name) (limit : Nat) (first second : Written) :
    [(.ok left.name, first), (.ok right.name, second)].foldlM
        (memberOn (pairChoice left right) limit) (none, none) =
      left.reader.on limit first >>= fun leftRead =>
        (right.reader.on limit second).map fun rightRead => (some leftRead, some rightRead) := by
  rw [List.foldlM_cons, memberOn_left leftLocal]
  cases left.reader.on limit first with
  | error fault => rfl
  | ok leftRead =>
      calc
        _ = (memberOn (pairChoice left right) limit (some leftRead, none)
              (.ok right.name, second) >>= pure) := rfl
        _ = _ := by
            rw [memberOn_right different rightLocal, bind_pure]
            rfl

/-- Where missing items and missing members stand for the same, a list of up to two items is
read like the object that has them as members. -/
theorem pairOn_list_of_short {wanted : String} (leftLocal : left.reader.Local)
    (rightLocal : right.reader.Local) (different : left.name ≠ right.name)
    (leftSame : left.short = left.absent) (rightSame : right.short = right.absent)
    (limit : Nat) {items : List Written} (short : items.length ≤ 2) :
    pairOn wanted left right limit (.list items) =
      pairOn wanted left right limit
        (.object ([.ok left.name, .ok right.name].zip items)) := by
  rw [pairOn, pairOn, enter, enter]
  split
  · rfl
  · match items with
    | [] =>
        rw [bothItemsOn_nil, leftSame, rightSame]
        rfl
    | [first] =>
        rw [bothItemsOn_single, rightSame, List.zip_cons_cons, List.zip_nil_right,
          List.foldlM_cons, memberOn_left leftLocal]
        cases left.reader.on (limit - 1) first <;> rfl
    | [first, second] =>
        rw [bothItemsOn_cons_cons, List.zip_cons_cons, List.zip_cons_cons, List.zip_nil_right,
          foldlM_memberOn_both leftLocal rightLocal different]
        cases left.reader.on (limit - 1) first with
        | error fault => rfl
        | ok leftRead => cases right.reader.on (limit - 1) second <;> rfl
    | _ :: _ :: _ :: _ => simp at short

end

end Json

end ShapeQuery
