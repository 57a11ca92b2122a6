import Mathlib.Data.List.Nodup
import Mathlib.Logic.Function.Basic
import ShapeQuery.Schema
import ShapeQuery.SelectionCache

/-!
# Interleaved calls of the selection cache

Any number of calls begin and advance in any order, each turn being one atomic step of one
call.  Whatever the order, a type gets at most one entry, the entry holds the selection of
its type and stays, and every call for the type that returns has returned this one entry.
-/

namespace ShapeQuery

/-- The text of the selection of a type. -/
def Family.projection (family : Family) (type : Datatype) : Except Shape.NotAnObject String :=
  (family.selection type).map Selection.renderAll

namespace SelectionCache

variable {ι κ ν ε : Type} [DecidableEq κ]

/-- A text together with the call that made it: texts that different calls have made are
different things, even where they read the same. -/
structure SharedText (ι : Type) where
  text : String
  maker : ι
  deriving DecidableEq, Repr

/-- What is stored, and how far each call has come; nothing before it has begun. -/
structure State (ι κ ε : Type) where
  entries : Entries κ (SharedText ι)
  calls : ι → Option (Call κ (SharedText ι) ε)

/-- One step of a schedule: a caller begins a call for a type, or its call advances. -/
inductive Turn (ι κ : Type) where
  | enter (caller : ι) (key : κ)
  | advance (caller : ι)
  deriving DecidableEq, Repr

def make (project : κ → Except ε String) (caller : ι) (key : κ) : Except ε (SharedText ι) :=
  (project key).map fun text => ⟨text, caller⟩

namespace Call

def key : Call κ ν ε → κ
  | .waiting key | .missed key | .projected key _ | .returned key _ | .failed key _ => key

/-- The number of steps that a call may still have to go. -/
def remaining : Call κ ν ε → Nat
  | .waiting _ => 3
  | .missed _ => 2
  | .projected _ _ => 1
  | .returned _ _ | .failed _ _ => 0

end Call

namespace State

def start : State ι κ ε :=
  ⟨[], fun _ => none⟩

variable [DecidableEq ι]

/-- The state behind a turn.  A caller begins once, and advances only a call it has begun. -/
def take (project : κ → Except ε String) (state : State ι κ ε) : Turn ι κ → State ι κ ε
  | .enter caller key =>
    match state.calls caller with
    | some _ => state
    | none => { state with calls := Function.update state.calls caller (some (.waiting key)) }
  | .advance caller =>
    match state.calls caller with
    | none => state
    | some call =>
      let (next, entries) := call.step (make project caller) state.entries
      ⟨entries, Function.update state.calls caller (some next)⟩

/-- The state behind a whole schedule. -/
def run (project : κ → Except ε String) (state : State ι κ ε) (schedule : List (Turn ι κ)) :
    State ι κ ε :=
  schedule.foldl (take project) state

/-- What holds of the cache and its calls, whatever turns were taken. -/
structure Coherent (project : κ → Except ε String) (state : State ι κ ε) : Prop where
  /-- An entry holds exactly the selection of its type. -/
  exact : ∀ entry ∈ state.entries, project entry.1 = .ok entry.2.text
  /-- A type has at most one entry. -/
  distinct : (state.entries.map Prod.fst).Nodup
  /-- An entry is neither changed nor removed by any further turns. -/
  kept : ∀ later key text, stored? key state.entries = some text →
    stored? key (state.run project later).entries = some text
  /-- A call that has returned has returned the entry of its type. -/
  returned : ∀ caller key text, state.calls caller = some (.returned key text) →
    stored? key state.entries = some text
  /-- All calls for a type that have returned have returned the same. -/
  agreed : ∀ first second key text other, state.calls first = some (.returned key text) →
    state.calls second = some (.returned key other) → text = other
  /-- A call for a type without selection fails, and everything else stays as it was. -/
  failing : ∀ caller key error, project key = .error error →
    state.calls caller = some (.missed key) →
    state.take project (.advance caller) =
      ⟨state.entries, Function.update state.calls caller (some (.failed key error))⟩
  /-- A type without selection has no entry, and no call for it returns. -/
  barred : ∀ key error, project key = .error error →
    stored? key state.entries = none ∧
      ∀ caller text, state.calls caller ≠ some (.returned key text)
  /-- Only calls for types without selection fail. -/
  failed : ∀ caller key error, state.calls caller = some (.failed key error) →
    project key = .error error
  /-- A call that is given three turns, among whatever turns of others, comes to an end. -/
  ends : ∀ later caller call, state.calls caller = some call →
    3 ≤ later.count (.advance caller) →
    (∃ text, project call.key = .ok text.text ∧
        (state.run project later).calls caller = some (.returned call.key text)) ∨
      ∃ error, project call.key = .error error ∧
        (state.run project later).calls caller = some (.failed call.key error)

end State

/-! ## Entries -/

theorem stored?_cons (key held : κ) (text : ν) (entries : Entries κ ν) :
    stored? key ((held, text) :: entries) =
      if held = key then some text else stored? key entries := by
  by_cases same : held = key <;> simp [stored?, same]

theorem mem_of_stored? {key : κ} {text : ν} {entries : Entries κ ν}
    (found : stored? key entries = some text) : (key, text) ∈ entries := by
  obtain ⟨entry, first, rfl⟩ := Option.map_eq_some_iff.mp found
  have member := List.mem_of_find?_eq_some first
  have held := List.find?_some first
  rwa [← of_decide_eq_true held]

theorem not_mem_of_stored? {key : κ} {entries : Entries κ ν}
    (absent : stored? key entries = none) : key ∉ entries.map Prod.fst := by
  intro member
  obtain ⟨entry, held, rfl⟩ := List.mem_map.mp member
  have passed := List.find?_eq_none.mp (Option.map_eq_none_iff.mp absent) entry held
  exact passed (decide_eq_true rfl)

theorem stored?_storeIfAbsent (key other : κ) (text : ν) (entries : Entries κ ν) :
    stored? other (storeIfAbsent key text entries) =
      if key = other then some ((stored? key entries).getD text) else stored? other entries := by
  unfold storeIfAbsent
  cases found : stored? key entries with
  | none => rw [stored?_cons, Option.getD_none]
  | some held =>
      by_cases same : key = other
      · subst same
        rw [if_pos rfl, found, Option.getD_some]
      · rw [if_neg same]

/-- Everything that is stored earlier is stored later. -/
def Extends (earlier later : Entries κ ν) : Prop :=
  ∀ key text, stored? key earlier = some text → stored? key later = some text

theorem Extends.trans {first second third : Entries κ ν} (earlier : Extends first second)
    (later : Extends second third) : Extends first third :=
  fun key text stored => later key text (earlier key text stored)

theorem extends_storeIfAbsent (key : κ) (text : ν) (entries : Entries κ ν) :
    Extends entries (storeIfAbsent key text entries) := by
  intro other held stored
  rw [stored?_storeIfAbsent]
  by_cases same : key = other
  · subst same
    rw [if_pos rfl, stored, Option.getD_some]
  · rwa [if_neg same]

/-- Every type has one entry at most, and it holds the selection of the type. -/
structure Sound (project : κ → Except ε String) (entries : Entries κ (SharedText ι)) :
    Prop where
  exact : ∀ entry ∈ entries, project entry.1 = .ok entry.2.text
  distinct : (entries.map Prod.fst).Nodup

theorem Sound.storeIfAbsent {project : κ → Except ε String}
    {entries : Entries κ (SharedText ι)} (sound : Sound project entries) {key : κ}
    {text : SharedText ι} (projected : project key = .ok text.text) :
    Sound project (storeIfAbsent key text entries) := by
  unfold SelectionCache.storeIfAbsent
  cases found : stored? key entries with
  | some held => exact sound
  | none =>
      constructor
      · exact List.forall_mem_cons.mpr ⟨projected, sound.exact⟩
      · exact List.nodup_cons.mpr ⟨not_mem_of_stored? found, sound.distinct⟩

/-! ## The steps of one call -/

/-- What a call can do in one step, given what is stored. -/
inductive Moves (project : κ → Except ε ν) (entries : Entries κ ν) :
    Call κ ν ε → Call κ ν ε → Entries κ ν → Prop
  | hit {key : κ} {text : ν} : stored? key entries = some text →
      Moves project entries (.waiting key) (.returned key text) entries
  | miss {key : κ} : stored? key entries = none →
      Moves project entries (.waiting key) (.missed key) entries
  | project {key : κ} {text : ν} : project key = .ok text →
      Moves project entries (.missed key) (.projected key text) entries
  | fail {key : κ} {error : ε} : project key = .error error →
      Moves project entries (.missed key) (.failed key error) entries
  | store (key : κ) (text : ν) :
      Moves project entries (.projected key text)
        (.returned key ((stored? key entries).getD text)) (storeIfAbsent key text entries)
  | stay {call : Call κ ν ε} : call.remaining = 0 → Moves project entries call call entries

theorem moves_step (project : κ → Except ε ν) (entries : Entries κ ν) (call : Call κ ν ε) :
    Moves project entries call (call.step project entries).1 (call.step project entries).2 := by
  cases call with
  | waiting key =>
      rw [Call.step]
      split
      · exact .hit ‹_›
      · exact .miss ‹_›
  | missed key =>
      rw [Call.step]
      split
      · exact .project ‹_›
      · exact .fail ‹_›
  | projected key text =>
      have stored : stored? key (storeIfAbsent key text entries) =
          some ((stored? key entries).getD text) := by
        rw [stored?_storeIfAbsent, if_pos rfl]
      simp only [Call.step, stored, Option.getD_some]
      exact .store key text
  | returned key text => exact .stay rfl
  | failed key error => exact .stay rfl

section

variable {project : κ → Except ε ν} {entries later : Entries κ ν} {call next : Call κ ν ε}

theorem Moves.extends (moves : Moves project entries call next later) :
    Extends entries later := by
  cases moves with
  | store key text => exact extends_storeIfAbsent key text entries
  | _ => exact fun _ _ stored => stored

theorem Moves.key_eq (moves : Moves project entries call next later) : next.key = call.key := by
  cases moves <;> rfl

theorem Moves.remaining_le (moves : Moves project entries call next later) :
    next.remaining ≤ call.remaining - 1 := by
  cases moves with
  | stay ended => exact Nat.le_trans (Nat.le_of_eq ended) (Nat.zero_le _)
  | _ => simp [Call.remaining]

end

/-- What a call knows is true of the cache: what it has projected is the selection of its
type, what it has returned is stored, and it has failed only where there is no selection. -/
def Call.Knows (project : κ → Except ε String) (entries : Entries κ (SharedText ι)) :
    Call κ (SharedText ι) ε → Prop
  | .waiting _ | .missed _ => True
  | .projected key text => project key = .ok text.text
  | .returned key text => stored? key entries = some text
  | .failed key error => project key = .error error

section

variable {project : κ → Except ε String} {entries later : Entries κ (SharedText ι)}
  {call next : Call κ (SharedText ι) ε}

theorem Call.Knows.mono (knows : call.Knows project entries)
    (longer : Extends entries later) : call.Knows project later := by
  cases call with
  | returned key text => exact longer key text knows
  | _ => exact knows

theorem Moves.sound {caller : ι} (moves : Moves (make project caller) entries call next later)
    (sound : Sound project entries) (knows : call.Knows project entries) :
    Sound project later := by
  cases moves with
  | store key text => exact sound.storeIfAbsent knows
  | _ => exact sound

theorem Moves.knows {caller : ι} (moves : Moves (make project caller) entries call next later)
    (knows : call.Knows project entries) : next.Knows project later := by
  cases moves with
  | hit stored => exact stored
  | miss absent => trivial
  | @project key text made =>
      unfold make at made
      cases projected : project key with
      | error error =>
          rw [projected] at made
          cases made
      | ok written =>
          rw [projected] at made
          cases made
          exact projected
  | @fail key error refused =>
      unfold make at refused
      cases projected : project key with
      | error other =>
          rw [projected] at refused
          cases refused
          exact projected
      | ok written =>
          rw [projected] at refused
          cases refused
  | store key text =>
      -- what is returned is the text stored first, whichever call made it
      show stored? key (storeIfAbsent key text entries) = _
      rw [stored?_storeIfAbsent, if_pos rfl]
  | stay ended => exact knows

end

theorem knows_update [DecidableEq ι] {project : κ → Except ε String}
    {entries : Entries κ (SharedText ι)} {calls : ι → Option (Call κ (SharedText ι) ε)}
    (knows : ∀ other call, calls other = some call → call.Knows project entries) {caller : ι}
    {next : Call κ (SharedText ι) ε} (nextKnows : next.Knows project entries) :
    ∀ other call, Function.update calls caller (some next) other = some call →
      call.Knows project entries := by
  intro other call known
  by_cases same : other = caller
  · subst same
    rw [Function.update_self] at known
    cases known
    exact nextKnows
  · rw [Function.update_of_ne same] at known
    exact knows other call known

/-! ## Turns and schedules -/

namespace State

variable {project : κ → Except ε String} {state : State ι κ ε}

/-- The entries are sound, and every call knows what is true of them. -/
structure Consistent (project : κ → Except ε String) (state : State ι κ ε) : Prop where
  sound : Sound project state.entries
  knows : ∀ caller call, state.calls caller = some call → call.Knows project state.entries

theorem consistent_start : Consistent project (start : State ι κ ε) := by
  constructor
  · exact ⟨List.forall_mem_nil _, List.nodup_nil⟩
  · nofun

variable [DecidableEq ι]

variable (project) in
theorem take_advance {caller : ι} {call : Call κ (SharedText ι) ε}
    (begun : state.calls caller = some call) :
    ∃ next entries, Moves (make project caller) state.entries call next entries ∧
      state.take project (.advance caller) =
        ⟨entries, Function.update state.calls caller (some next)⟩ := by
  refine ⟨_, _, moves_step (make project caller) state.entries call, ?_⟩
  simp only [take, begun]

theorem extends_take (turn : Turn ι κ) :
    Extends state.entries (state.take project turn).entries := by
  cases turn with
  | enter caller key =>
      rw [take]
      split <;> exact fun _ _ stored => stored
  | advance caller =>
      cases begun : state.calls caller with
      | none =>
          simp only [take, begun]
          exact fun _ _ stored => stored
      | some call =>
          obtain ⟨next, entries, moves, taken⟩ := take_advance project begun
          rw [taken]
          exact moves.extends

/-- No turn brings in what is not true of the cache. -/
theorem Consistent.take (consistent : state.Consistent project) (turn : Turn ι κ) :
    (state.take project turn).Consistent project := by
  cases turn with
  | enter caller key =>
      rw [State.take]
      split
      · exact consistent
      · refine ⟨consistent.sound, ?_⟩
        apply knows_update consistent.knows
        trivial
  | advance caller =>
      cases begun : state.calls caller with
      | none =>
          simp only [State.take, begun]
          exact consistent
      | some call =>
          obtain ⟨next, entries, moves, taken⟩ := take_advance project begun
          have knows := consistent.knows caller call begun
          rw [taken]
          refine ⟨moves.sound consistent.sound knows, ?_⟩
          -- nothing stored is lost, so what the other calls know stays true
          apply knows_update
          · intro other held known
            exact (consistent.knows other held known).mono moves.extends
          · exact moves.knows knows

variable (project) in
/-- A turn brings the call of its caller nearer to its end, and leaves every other as it is. -/
theorem calls_take {caller : ι} {call : Call κ (SharedText ι) ε}
    (begun : state.calls caller = some call) (turn : Turn ι κ) :
    ∃ next, (state.take project turn).calls caller = some next ∧ next.key = call.key ∧
      next.remaining ≤ call.remaining - if turn = .advance caller then 1 else 0 := by
  by_cases own : turn = .advance caller
  · subst own
    obtain ⟨next, entries, moves, taken⟩ := take_advance project begun
    refine ⟨next, ?_, moves.key_eq, ?_⟩
    · rw [taken]
      exact Function.update_self ..
    · rw [if_pos rfl]
      exact moves.remaining_le
  · refine ⟨call, ?_, rfl, Nat.le_of_eq (by rw [if_neg own, Nat.sub_zero])⟩
    cases turn with
    | enter other key =>
        rw [take]
        split
        · exact begun
        · rename_i idle
          have different : caller ≠ other := by
            rintro rfl
            cases begun.symm.trans idle
          exact (Function.update_of_ne different ..).trans begun
    | advance other =>
        have different : caller ≠ other := by
          rintro rfl
          exact own rfl
        rw [take]
        split
        · exact begun
        · exact (Function.update_of_ne different ..).trans begun

theorem extends_run (schedule : List (Turn ι κ)) :
    Extends state.entries (state.run project schedule).entries := by
  induction schedule generalizing state with
  | nil => exact fun _ _ stored => stored
  | cons turn later induction => exact (extends_take turn).trans induction

theorem Consistent.run (consistent : state.Consistent project) (schedule : List (Turn ι κ)) :
    (state.run project schedule).Consistent project := by
  induction schedule generalizing state with
  | nil => exact consistent
  | cons turn later induction => exact induction (consistent.take turn)

variable (project) in
theorem calls_run {caller : ι} {call : Call κ (SharedText ι) ε}
    (begun : state.calls caller = some call) (schedule : List (Turn ι κ)) :
    ∃ next, (state.run project schedule).calls caller = some next ∧ next.key = call.key ∧
      next.remaining ≤ call.remaining - schedule.count (.advance caller) := by
  induction schedule generalizing state call with
  | nil => exact ⟨call, begun, rfl, Nat.le_refl _⟩
  | cons turn later induction =>
      obtain ⟨moved, movedCalls, movedKey, movedRemaining⟩ :=
        calls_take project begun turn
      obtain ⟨next, nextCalls, nextKey, nextRemaining⟩ := induction movedCalls
      refine ⟨next, nextCalls, nextKey.trans movedKey, ?_⟩
      rw [List.count_cons]
      by_cases own : turn = .advance caller <;> simp [own] at movedRemaining ⊢ <;> omega

theorem Consistent.coherent (consistent : state.Consistent project) :
    state.Coherent project where
  exact := consistent.sound.exact
  distinct := consistent.sound.distinct
  kept later := extends_run later
  returned caller key text := consistent.knows caller (.returned key text)
  agreed first second key text other firstReturned secondReturned := by
    have firstStored := consistent.knows first _ firstReturned
    have secondStored := consistent.knows second _ secondReturned
    exact Option.some.inj (firstStored.symm.trans secondStored)
  failing caller key error refused missed := by
    have unmade : make project caller key = .error error := by rw [make, refused]; rfl
    simp only [State.take, missed, Call.step, unmade]
  barred key error refused := by
    have unstored : stored? key state.entries = none := by
      rw [Option.eq_none_iff_forall_ne_some]
      intro text stored
      have projected := consistent.sound.exact (key, text) (mem_of_stored? stored)
      cases refused.symm.trans projected
    refine ⟨unstored, fun caller text returned => ?_⟩
    cases unstored.symm.trans (consistent.knows caller _ returned)
  failed caller key error := consistent.knows caller (.failed key error)
  ends later caller call begun given := by
    obtain ⟨last, calls, sameKey, few⟩ := calls_run project begun later
    have knows := (consistent.run later).knows caller last calls
    -- no call has more than three steps to go, and it was given as many
    have ended : last.remaining = 0 := by
      have : call.remaining ≤ 3 := by cases call <;> simp [Call.remaining]
      omega
    rw [calls, ← sameKey]
    cases last with
    | returned key text =>
        have member := mem_of_stored? knows
        exact .inl ⟨text, (consistent.run later).sound.exact (key, text) member, rfl⟩
    | failed key error => exact .inr ⟨error, knows, rfl⟩
    | waiting key => cases ended
    | missed key => cases ended
    | projected key text => cases ended

/-- Whatever calls begin and however their steps interleave, the cache of selections is
coherent. -/
theorem coherent_run (family : Family) (schedule : List (Turn ι Datatype)) :
    (run family.projection start schedule).Coherent family.projection :=
  (consistent_start.run schedule).coherent

/-- The selection of a flag, which the second of two callers stores first. -/
example :
    let flag : RecordDeclaration := ⟨"Flag", [.plain "ok" (.scalar .boolean)], true, false⟩
    let reached := run (Family.projection [flag]) start
      [.enter 1 (.record "Flag"), .advance 1, .enter 2 (.record "Flag"), .advance 2,
        .enter 3 .unit, .advance 3, .advance 1, .advance 2, .advance 3, .advance 2, .advance 1]
    reached.calls 1 = some (.returned (.record "Flag") ⟨"ok", 2⟩) ∧
      reached.calls 2 = some (.returned (.record "Flag") ⟨"ok", 2⟩) ∧
      reached.calls 3 = some (.failed .unit ⟨"unit"⟩) := by
  decide +kernel

end State

end SelectionCache

end ShapeQuery
