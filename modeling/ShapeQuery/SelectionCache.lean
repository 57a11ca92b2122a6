/-!
# Cache of selections

A selection is computed once per type.  A call looks its type up, computes the
selection without holding the cache on a miss, and then stores it unless another
call was faster; every call returns what the cache holds.  The three steps of
different calls may interleave in any order.  What is stored may be more than the
text, so that two selections of one text can be told apart.
-/

namespace ShapeQuery

namespace SelectionCache

variable {κ ν ε : Type} [DecidableEq κ]

abbrev Entries (κ ν : Type) := List (κ × ν)

/-- What is stored for a type. -/
def stored? (key : κ) (entries : Entries κ ν) : Option ν :=
  (entries.find? fun entry => entry.1 = key).map (·.2)

/-- Stores a text unless the type already has one. -/
def storeIfAbsent (key : κ) (text : ν) (entries : Entries κ ν) : Entries κ ν :=
  match stored? key entries with
  | some _ => entries
  | none => (key, text) :: entries

/-- Where a call is between its steps. -/
inductive Call (κ ν ε : Type) where
  | waiting (key : κ)
  | missed (key : κ)
  | projected (key : κ) (text : ν)
  | returned (key : κ) (text : ν)
  | failed (key : κ) (error : ε)
  deriving DecidableEq, Repr

/-- The next step of a call; a call that has ended stays as it is. -/
def Call.step (project : κ → Except ε ν) (entries : Entries κ ν) :
    Call κ ν ε → Call κ ν ε × Entries κ ν
  | .waiting key =>
    match stored? key entries with
    | some text => (.returned key text, entries)
    | none => (.missed key, entries)
  | .missed key =>
    match project key with
    | .ok text => (.projected key text, entries)
    | .error error => (.failed key error, entries)
  | .projected key text =>
    let entries := storeIfAbsent key text entries
    (.returned key ((stored? key entries).getD text), entries)
  | ended => (ended, entries)

/-- The outcome of a call that has ended. -/
def Call.outcome? : Call κ ν ε → Option (Except ε ν)
  | .returned _ text => some (.ok text)
  | .failed _ error => some (.error error)
  | _ => none

/-- A call whose steps no other call interrupts. -/
def select (project : κ → Except ε ν) (key : κ) (entries : Entries κ ν) :
    Option (Except ε ν) × Entries κ ν :=
  let (call, entries) := Call.step project entries (.waiting key)
  let (call, entries) := Call.step project entries call
  let (call, entries) := Call.step project entries call
  (call.outcome?, entries)

end SelectionCache

end ShapeQuery
