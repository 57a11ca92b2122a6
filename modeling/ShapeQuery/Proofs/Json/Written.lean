import ShapeQuery.Json.Typed
import ShapeQuery.Proofs.Named

/-!
# JSON as it is written

A written value keeps its members in the order of the text, repeated names included, and a
number or text in it may be one that only a loose reader accepts.  On its tokens the
reading machine makes one pass over the value, and skipping takes all of them; neither
looks at what stands behind.
-/

namespace ShapeQuery

namespace Json

deriving instance DecidableEq for Reading

deriving instance DecidableEq for Token

/-- A value of the JSON grammar.  Numbers and texts come with what a strict reader makes of
them. -/
inductive Written where
  | word (value : Word)
  | number (strict : Except SyntaxFault Number)
  | text (strict : Except SyntaxFault String)
  | list (items : List Written)
  | object (members : List (Except SyntaxFault String × Written))

/-- A row of tokens behind the comma that separates it from what stands before it. -/
def separated (first : Bool) (tokens : List Token) : List Token :=
  if first then tokens else .comma :: tokens

theorem separated_append (first : Bool) (tokens rest : List Token) :
    separated first tokens ++ rest = separated first (tokens ++ rest) := by
  cases first <;> rfl

namespace Written

mutual

def tokens : Written → List Token
  | .word value => [.word (.ok value)]
  | .number strict => [.number (.wellFormed strict)]
  | .text strict => [.text (.wellFormed strict)]
  | .list items => .openList :: itemTokens true items
  | .object members => .openObject :: memberTokens true members

/-- The tokens of items and of the closing bracket. -/
def itemTokens : Bool → List Written → List Token
  | _, [] => [.closeList]
  | first, item :: rest => separated first (tokens item ++ itemTokens false rest)

/-- The tokens of members and of the closing brace. -/
def memberTokens : Bool → List (Except SyntaxFault String × Written) → List Token
  | _, [] => [.closeObject]
  | first, (name, value) :: rest =>
    separated first (.text (.wellFormed name) :: .colon ::
      (tokens value ++ memberTokens false rest))

end

mutual

/-- What a strict reader makes of the value, given how many more lists and objects may be
opened, plus one. -/
def read (room : Nat) : Written → Except SyntaxFault Json
  | .word value => .ok (ofWord value)
  | .number strict => strict.map ofNumber
  | .text strict => strict.map .text
  | .list items =>
    if room ≤ 1 then .error .tooDeep else (readItems (room - 1) items).map .list
  | .object members =>
    if room ≤ 1 then .error .tooDeep else (readMembers (room - 1) [] members).map .object

def readItems (room : Nat) : List Written → Except SyntaxFault (List Json)
  | [] => .ok []
  | item :: rest => do
    let value ← read room item
    let values ← readItems room rest
    return value :: values

/-- Reads members over those that were read before. -/
def readMembers (room : Nat) (held : List (String × Json)) :
    List (Except SyntaxFault String × Written) → Except SyntaxFault (List (String × Json))
  | [] => .ok held
  | (name, value) :: rest => do
    let name ← name
    let value ← read room value
    readMembers room (Named.insert name value held) rest

end

def opening : Written → Token
  | .word value => .word (.ok value)
  | .number strict => .number (.wellFormed strict)
  | .text strict => .text (.wellFormed strict)
  | .list _ => .openList
  | .object _ => .openObject

theorem tokens_eq_cons (written : Written) :
    ∃ rest, written.tokens = written.opening :: rest := by
  cases written <;> exact ⟨_, rfl⟩

end Written

/-! ## The reading machine -/

/-- Goes on from the outcome of a step. -/
def proceed (limit : Nat) (progress : Progress) (rest : List Token) :
    Except SyntaxFault (Json × List Token) :=
  match progress with
  | .finished json => .ok (json, rest)
  | .reading state => run limit state rest

theorem run_cons {limit : Nat} {state : ReaderState} {token : Token} {progress : Progress}
    (rest : List Token) (stepped : step limit state token = .ok progress) :
    run limit state (token :: rest) = proceed limit progress rest := by
  rw [run, stepped]
  cases progress <;> rfl

/-- The states in which a value may start. -/
def Awaiting.StartsValue (awaiting : Awaiting) : Prop :=
  awaiting = .value ∨ awaiting = .firstItem ∨ awaiting = .nextItem

/-- Where a value may start, everything but a closing bracket starts one. -/
theorem step_of_startsValue {limit : Nat} {stack : List Frame} {awaiting : Awaiting}
    {token : Token} (starts : awaiting.StartsValue) (opens : token ≠ .closeList) :
    step limit ⟨stack, awaiting⟩ token = beginValue limit stack token := by
  rcases starts with rfl | rfl | rfl <;> cases token <;> first | rfl | exact (opens rfl).elim

theorem run_openList {limit : Nat} {stack : List Frame} {awaiting : Awaiting}
    (starts : awaiting.StartsValue) (room : stack.length + 1 < limit) (rest : List Token) :
    run limit ⟨stack, awaiting⟩ (.openList :: rest) =
      run limit ⟨.list [] :: stack, .firstItem⟩ rest := by
  have stepped : step limit ⟨stack, awaiting⟩ .openList =
      .ok (.reading ⟨.list [] :: stack, .firstItem⟩) := by
    rw [step_of_startsValue starts (by nofun), beginValue, if_neg (Nat.not_le_of_lt room)]
  exact run_cons rest stepped

theorem run_openObject {limit : Nat} {stack : List Frame} {awaiting : Awaiting}
    (starts : awaiting.StartsValue) (room : stack.length + 1 < limit) (rest : List Token) :
    run limit ⟨stack, awaiting⟩ (.openObject :: rest) =
      run limit ⟨.object [] "" :: stack, .firstName⟩ rest := by
  have stepped : step limit ⟨stack, awaiting⟩ .openObject =
      .ok (.reading ⟨.object [] "" :: stack, .firstName⟩) := by
    rw [step_of_startsValue starts (by nofun), beginValue, if_neg (Nat.not_le_of_lt room)]
  exact run_cons rest stepped

theorem run_error {limit : Nat} {state : ReaderState} {token : Token} {fault : SyntaxFault}
    (rest : List Token) (stepped : step limit state token = .error fault) :
    run limit state (token :: rest) = .error fault := by
  rw [run, stepped]

theorem run_scalar {limit : Nat} {stack : List Frame} {awaiting : Awaiting} {token : Token}
    {value : Except SyntaxFault Json} (starts : awaiting.StartsValue)
    (opens : token ≠ .closeList)
    (begun : beginValue limit stack token = value.map fun json => deliver json stack)
    (rest : List Token) :
    run limit ⟨stack, awaiting⟩ (token :: rest) =
      value >>= fun json => proceed limit (deliver json stack) rest := by
  have stepped := (step_of_startsValue starts opens).trans begun
  cases value with
  | error fault => exact run_error rest stepped
  | ok json => exact run_cons rest stepped

/-- What an open list awaits before its next item. -/
def Awaiting.item (first : Bool) : Awaiting :=
  if first then .firstItem else .separator

/-- What an open object awaits before its next member. -/
def Awaiting.member (first : Bool) : Awaiting :=
  if first then .firstName else .separator

theorem run_separated_item (limit : Nat) (first : Bool) (read : List Json) (stack : List Frame)
    (tokens : List Token) :
    ∃ awaiting : Awaiting, awaiting.StartsValue ∧
      run limit ⟨.list read :: stack, .item first⟩ (separated first tokens) =
        run limit ⟨.list read :: stack, awaiting⟩ tokens := by
  cases first with
  | true => exact ⟨.firstItem, .inr (.inl rfl), rfl⟩
  | false => exact ⟨.nextItem, .inr (.inr rfl), rfl⟩

theorem run_separated_name (limit : Nat) (first : Bool) (read : List (String × Json))
    (held : String) (stack : List Frame) (name : Except SyntaxFault String)
    (rest : List Token) :
    run limit ⟨.object read held :: stack, .member first⟩
        (separated first (.text (.wellFormed name) :: .colon :: rest)) =
      name >>= fun name => run limit ⟨.object read name :: stack, .value⟩ rest := by
  cases first <;> cases name <;> rfl

mutual

/-- On the tokens of a value the machine hands on what a strict reader makes of it. -/
theorem run_written (limit : Nat) :
    (written : Written) → {stack : List Frame} → {awaiting : Awaiting} →
      awaiting.StartsValue → (rest : List Token) →
      run limit ⟨stack, awaiting⟩ (written.tokens ++ rest) =
        written.read (limit - stack.length) >>= fun json =>
          proceed limit (deliver json stack) rest
  | .word value, stack, awaiting, starts, rest => by
      rw [Written.tokens, Written.read]
      exact run_scalar starts (by nofun) rfl rest
  | .number strict, stack, awaiting, starts, rest => by
      rw [Written.tokens, Written.read]
      refine run_scalar starts (by nofun) ?_ rest
      cases strict <;> rfl
  | .text strict, stack, awaiting, starts, rest => by
      rw [Written.tokens, Written.read]
      refine run_scalar starts (by nofun) ?_ rest
      cases strict <;> rfl
  | .list items, stack, awaiting, starts, rest => by
      rw [Written.tokens, Written.read, List.cons_append]
      -- the open list is a frame of the stack, so what is inside has one level less
      by_cases room : stack.length + 1 < limit
      · rw [if_neg (by omega)]
        calc
          run limit ⟨stack, awaiting⟩ (.openList :: (Written.itemTokens true items ++ rest))
              = run limit ⟨.list [] :: stack, .item true⟩
                  (Written.itemTokens true items ++ rest) := run_openList starts room _
          _ = _ := run_writtenItems limit items true [] stack rest
          _ = _ := by cases Written.readItems (limit - stack.length - 1) items <;> rfl
      · rw [if_pos (by omega)]
        apply run_error
        rw [step_of_startsValue starts (by nofun), beginValue, if_pos (by omega)]
  | .object members, stack, awaiting, starts, rest => by
      rw [Written.tokens, Written.read, List.cons_append]
      by_cases room : stack.length + 1 < limit
      · rw [if_neg (by omega)]
        calc
          run limit ⟨stack, awaiting⟩ (.openObject :: (Written.memberTokens true members ++ rest))
              = run limit ⟨.object [] "" :: stack, .member true⟩
                  (Written.memberTokens true members ++ rest) := run_openObject starts room _
          _ = _ := run_writtenMembers limit members true [] "" stack rest
          _ = _ := by cases Written.readMembers (limit - stack.length - 1) [] members <;> rfl
      · rw [if_pos (by omega)]
        apply run_error
        rw [step_of_startsValue starts (by nofun), beginValue, if_pos (by omega)]

theorem run_writtenItems (limit : Nat) :
    (items : List Written) → (first : Bool) → (read : List Json) → (stack : List Frame) →
      (rest : List Token) →
      run limit ⟨.list read :: stack, .item first⟩ (Written.itemTokens first items ++ rest) =
        Written.readItems (limit - stack.length - 1) items >>= fun values =>
          proceed limit (deliver (.list (read.reverse ++ values)) stack) rest
  | [], first, read, stack, rest => by
      have closed : closeFrame (.list read :: stack) =
          deliver (.list (read.reverse ++ [])) stack := by rw [List.append_nil]; rfl
      rw [Written.itemTokens, Written.readItems]
      apply run_cons
      rw [← closed]
      cases first <;> rfl
  | item :: items, first, read, stack, rest => by
      have room : limit - (Frame.list read :: stack).length = limit - stack.length - 1 := by
        rw [List.length_cons, Nat.sub_sub]
      rw [Written.itemTokens, separated_append, List.append_assoc]
      obtain ⟨awaiting, starts, separate⟩ := run_separated_item limit first read stack
        (item.tokens ++ (Written.itemTokens false items ++ rest))
      rw [separate, run_written limit item starts, room, Written.readItems]
      cases itemRead : item.read (limit - stack.length - 1) with
      | error fault => rfl
      | ok value =>
          calc
            _ = run limit ⟨.list (value :: read) :: stack, .item false⟩
                  (Written.itemTokens false items ++ rest) := rfl
            _ = _ := run_writtenItems limit items false (value :: read) stack rest
            _ = _ := by
                cases Written.readItems (limit - stack.length - 1) items with
                | error fault => rfl
                | ok values =>
                    have same : (value :: read).reverse ++ values =
                        read.reverse ++ value :: values := by simp
                    exact congrArg (fun all => proceed limit (deliver (.list all) stack) rest) same

theorem run_writtenMembers (limit : Nat) :
    (members : List (Except SyntaxFault String × Written)) → (first : Bool) →
      (read : List (String × Json)) → (held : String) → (stack : List Frame) →
      (rest : List Token) →
      run limit ⟨.object read held :: stack, .member first⟩
          (Written.memberTokens first members ++ rest) =
        Written.readMembers (limit - stack.length - 1) read members >>= fun entries =>
          proceed limit (deliver (.object entries) stack) rest
  | [], first, read, held, stack, rest => by
      rw [Written.memberTokens, Written.readMembers]
      apply run_cons
      cases first <;> rfl
  | (name, value) :: members, first, read, held, stack, rest => by
      rw [Written.memberTokens, separated_append, List.cons_append, List.cons_append,
        List.append_assoc, run_separated_name, Written.readMembers]
      cases name with
      | error fault => rfl
      | ok name =>
          have room : limit - (Frame.object read name :: stack).length =
              limit - stack.length - 1 := by rw [List.length_cons, Nat.sub_sub]
          calc
            _ = run limit ⟨.object read name :: stack, .value⟩
                  (value.tokens ++ (Written.memberTokens false members ++ rest)) := rfl
            _ = _ := run_written limit value (.inl rfl) _
            _ = _ := by
                rw [room]
                cases value.read (limit - stack.length - 1) with
                | error fault => rfl
                | ok value => exact run_writtenMembers limit members false _ name stack rest

end

theorem anyValue_written (limit : Nat) (written : Written) (rest : List Token) :
    anyValue limit (written.tokens ++ rest) =
      ((written.read limit).mapError .syntactic).map fun json => (json, rest) := by
  rw [anyValue, run_written limit written (.inl rfl) rest, List.length_nil, Nat.sub_zero]
  cases written.read limit <;> rfl

/-! ## Skipping -/

def skipProceed (progress : SkipProgress) (rest : List Token) : Except SyntaxFault (List Token) :=
  match progress with
  | none => .ok rest
  | some state => skipRun state rest

theorem skipRun_cons {state : SkipState} {token : Token} {progress : SkipProgress}
    (rest : List Token) (stepped : skipStep state token = .ok progress) :
    skipRun state (token :: rest) = skipProceed progress rest := by
  rw [skipRun, stepped]
  cases progress <;> rfl

/-- Where a value may start. -/
def SkipState.StartsValue (state : SkipState) : Prop :=
  state.awaiting = .value ∨ state.awaiting = .first ∧ ∃ outer, state.brackets = .list :: outer

theorem skipStep_of_startsValue {state : SkipState} {token : Token}
    (starts : state.StartsValue) (opens : token ≠ .closeList) :
    skipStep state token = skipBegin state.brackets token := by
  obtain ⟨brackets, awaiting⟩ := state
  obtain rfl | ⟨rfl, outer, rfl⟩ := starts
  · rfl
  · cases token <;> first | rfl | exact absurd rfl opens

/-- What an open list or object awaits before its next part. -/
def SkipAwaiting.part (first : Bool) : SkipAwaiting :=
  if first then .first else .separator

mutual

/-- Skipping takes the tokens of a value, whatever numbers and texts are in it. -/
theorem skipRun_written :
    (written : Written) → {state : SkipState} → state.StartsValue → (rest : List Token) →
      skipRun state (written.tokens ++ rest) = skipProceed (skipOnward state.brackets) rest
  | .word value, state, starts, rest =>
      skipRun_cons rest (skipStep_of_startsValue starts (by nofun))
  | .number strict, state, starts, rest =>
      skipRun_cons rest (skipStep_of_startsValue starts (by nofun))
  | .text strict, state, starts, rest =>
      skipRun_cons rest (skipStep_of_startsValue starts (by nofun))
  | .list items, state, starts, rest => by
      -- nothing here counts the brackets: a skipped value may be nested to any depth
      rw [Written.tokens, List.cons_append,
        skipRun_cons _ (skipStep_of_startsValue starts (by nofun))]
      exact skipRun_writtenItems items true state.brackets rest
  | .object members, state, starts, rest => by
      rw [Written.tokens, List.cons_append,
        skipRun_cons _ (skipStep_of_startsValue starts (by nofun))]
      exact skipRun_writtenMembers members true state.brackets rest

theorem skipRun_writtenItems :
    (items : List Written) → (first : Bool) → (outer : List Bracket) → (rest : List Token) →
      skipRun ⟨.list :: outer, .part first⟩ (Written.itemTokens first items ++ rest) =
        skipProceed (skipOnward outer) rest
  | [], first, outer, rest => by
      rw [Written.itemTokens]
      apply skipRun_cons
      cases first <;> rfl
  | item :: items, first, outer, rest => by
      rw [Written.itemTokens, separated_append, List.append_assoc]
      cases first with
      | true =>
          rw [separated, if_pos rfl, skipRun_written item (.inr ⟨rfl, outer, rfl⟩)]
          exact skipRun_writtenItems items false outer rest
      | false =>
          rw [separated, if_neg (by decide), skipRun_cons _ rfl]
          calc
            _ = skipRun ⟨.list :: outer, .value⟩
                  (item.tokens ++ (Written.itemTokens false items ++ rest)) := rfl
            _ = _ := skipRun_written item (.inl rfl) _
            _ = _ := skipRun_writtenItems items false outer rest

theorem skipRun_writtenMembers :
    (members : List (Except SyntaxFault String × Written)) → (first : Bool) →
      (outer : List Bracket) → (rest : List Token) →
      skipRun ⟨.object :: outer, .part first⟩ (Written.memberTokens first members ++ rest) =
        skipProceed (skipOnward outer) rest
  | [], first, outer, rest => by
      rw [Written.memberTokens]
      apply skipRun_cons
      cases first <;> rfl
  | (name, value) :: members, first, outer, rest => by
      rw [Written.memberTokens, separated_append, List.cons_append, List.cons_append,
        List.append_assoc]
      calc
        _ = skipRun ⟨.object :: outer, .value⟩
              (value.tokens ++ (Written.memberTokens false members ++ rest)) := by
            cases first <;> rfl
        _ = _ := skipRun_written value (.inl rfl) _
        _ = _ := skipRun_writtenMembers members false outer rest

end

theorem skip_written (written : Written) (rest : List Token) :
    skip (written.tokens ++ rest) = .ok rest :=
  skipRun_written written (.inl rfl) rest

end Json

end ShapeQuery
