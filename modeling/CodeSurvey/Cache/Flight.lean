/-
  A store of results that are computed once.

  Callers look a key up.  A stored result answers at once; the first caller of a
  key without result computes it, and callers that come meanwhile wait for it.
  All of this happens in atomic steps, in any order.  Whoever waits for a
  computation ends with it, in the same step.  There is no state between the end
  of a computation and the moment at which a waiting caller goes on, so that its
  cancellation in between is not a step of its own.

  * `Outcome`, `CallState`, `Call`: what callers are in and end with;
  * `Flights`: the store, the computations in flight, the callers and counters;
  * `Flights.Event`, `Flights.step`: the atomic steps: a lookup, the end of a
    computation, the cancellation of a caller, and the direct uses of the store;
  * `Flights.run`: a sequence of steps.
-/
import CodeSurvey.Cache.Recency

namespace CodeSurvey

/-! ## Callers -/

/-- What a computation ends with. -/
inductive Outcome (ρ ε : Type) where
  | report (r : ρ)
  /-- It failed, and its callers get the failure.  A signal to exit, such as an interrupt from the
      keyboard, is no failure and is left out. -/
  | failure (e : ε)
  | cancelled
  deriving DecidableEq, Repr

/-- The state of a caller. -/
inductive CallState (ρ ε : Type) where
  /-- It computes the result itself. -/
  | computing
  /-- It waits for the computation of the caller with this number. -/
  | waiting (leader : Nat)
  | done (outcome : Outcome ρ ε)
  deriving DecidableEq, Repr

/-- A caller: the key that it looked up, and its state. -/
structure Call (κ ρ ε : Type) where
  key : κ
  state : CallState ρ ε
  deriving DecidableEq, Repr

/-! ## States -/

/-- A store with the computations in flight. -/
structure Flights (κ ρ ε : Type) where
  /-- The greatest number of stored results. -/
  capacity : Nat
  store : Recency κ ρ := {}
  /-- The keys in flight, each with the number of the caller that computes it. -/
  pending : List (κ × Nat) := []
  /-- All callers so far; a caller's number is its position. -/
  calls : List (Call κ ρ ε) := []
  /-- The lookups answered from the store or by a computation in flight. -/
  hits : Nat := 0
  /-- The lookups that started a computation. -/
  misses : Nat := 0
  deriving DecidableEq, Repr

namespace Flights

variable {κ ρ ε : Type} [DecidableEq κ]

/-- The state of a caller. -/
def stateOf? (f : Flights κ ρ ε) (caller : Nat) : Option (CallState ρ ε) :=
  f.calls[caller]?.map Call.state

/-- The caller's state is replaced. -/
def setState (f : Flights κ ρ ε) (caller : Nat) (state : CallState ρ ε) : Flights κ ρ ε :=
  { f with calls := f.calls.modify caller fun c => { c with state } }

/-! ## Steps -/

/-- A new caller looks a key up. -/
def lookup (f : Flights κ ρ ε) (key : κ) : Flights κ ρ ε :=
  match f.store.find? key, f.pending.lookup key with
  | some r, _ =>
    { f with
      store := f.store.touch key
      hits := f.hits + 1
      calls := f.calls ++ [⟨key, .done (.report r)⟩] }
  | none, some leader =>
    { f with hits := f.hits + 1, calls := f.calls ++ [⟨key, .waiting leader⟩] }
  | none, none =>
    { f with
      misses := f.misses + 1
      pending := f.pending ++ [(key, f.calls.length)]
      calls := f.calls ++ [⟨key, .computing⟩] }

/-- The store after a computation for a key has ended. -/
def storeAfter (f : Flights κ ρ ε) (key : κ) : Outcome ρ ε → Recency κ ρ
  | .report r => f.store.put f.capacity key r
  | _ => f.store

/-- A caller is done if it computed or waited for the computation that ends. -/
def settle (leader : Nat) (outcome : Outcome ρ ε) (number : Nat) (c : Call κ ρ ε) :
    Call κ ρ ε :=
  if number = leader then { c with state := .done outcome }
  else match c.state with
    | .waiting l => if l = leader then { c with state := .done outcome } else c
    | _ => c

/-- The computation of a caller ends; whoever waits for it ends with the same outcome, in the same
    step. -/
def finish (f : Flights κ ρ ε) (caller : Nat) (outcome : Outcome ρ ε) : Flights κ ρ ε :=
  match f.calls[caller]? with
  | some ⟨key, .computing⟩ =>
    { f with
      store := f.storeAfter key outcome
      pending := f.pending.filter fun p => p.1 ≠ key
      calls := f.calls.mapIdx (settle caller outcome) }
  | _ => f

/-- A caller is cancelled; the computation of one that computes ends with it, and with that whoever
    waits for it.  A caller that has ended, also by the end of the one it waited for, is not
    cancelled any more. -/
def cancel (f : Flights κ ρ ε) (caller : Nat) : Flights κ ρ ε :=
  match f.stateOf? caller with
  | some .computing => f.finish caller .cancelled
  | some (.waiting _) => f.setState caller (.done .cancelled)
  | _ => f

/-- A stored result is used directly. -/
def get (f : Flights κ ρ ε) (key : κ) : Flights κ ρ ε :=
  { f with store := f.store.touch key }

/-- A result is stored directly. -/
def put (f : Flights κ ρ ε) (key : κ) (r : ρ) : Flights κ ρ ε :=
  { f with store := f.store.put f.capacity key r }

/-- The store is emptied and counting starts anew; computations in flight go on. -/
def clear (f : Flights κ ρ ε) : Flights κ ρ ε :=
  { f with store := {}, hits := 0, misses := 0 }

/-- The atomic steps. -/
inductive Event (κ ρ ε : Type) where
  | lookup (key : κ)
  | finish (caller : Nat) (outcome : Outcome ρ ε)
  | cancel (caller : Nat)
  | get (key : κ)
  | put (key : κ) (r : ρ)
  | clear
  deriving DecidableEq, Repr

/-- The state after a step. -/
def step (f : Flights κ ρ ε) : Event κ ρ ε → Flights κ ρ ε
  | .lookup key => f.lookup key
  | .finish caller outcome => f.finish caller outcome
  | .cancel caller => f.cancel caller
  | .get key => f.get key
  | .put key r => f.put key r
  | .clear => f.clear

/-- The state after some steps. -/
def run (f : Flights κ ρ ε) (events : List (Event κ ρ ε)) : Flights κ ρ ε :=
  events.foldl step f

/-! ## Creation -/

/-- A store has to hold one result at least. -/
inductive CapacityError where
  | belowOne
  deriving DecidableEq, Repr

/-- The sentence for a store that would hold nothing. -/
def CapacityError.message : CapacityError → Text
  | belowOne => Text.ofString "max_entries must be at least 1"

/-- An empty store for so many results. -/
def create (capacity : Int) : Except CapacityError (Flights κ ρ ε) :=
  if capacity < 1 then .error .belowOne else .ok { capacity := capacity.toNat }

end Flights

end CodeSurvey
