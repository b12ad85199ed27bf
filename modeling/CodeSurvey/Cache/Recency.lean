/-
  A bounded store that forgets what was used longest ago.

  * `Recency`: the entries, the one used longest ago first;
  * `Recency.touch`: the store after a use of a key;
  * `Recency.put`: a new entry, for which the oldest ones make room;
  * `Recency.get?`: the value of a key, and the store after its use.
-/
import CodeSurvey.Text.Basic

namespace CodeSurvey

/-- The entries of a bounded store, the one used longest ago first. -/
structure Recency (κ ρ : Type) where
  entries : List (κ × ρ) := []
  deriving DecidableEq, Repr

namespace Recency

variable {κ ρ : Type} [DecidableEq κ]

/-- The stored keys, the one used longest ago first. -/
def keys (s : Recency κ ρ) : List κ :=
  s.entries.map Prod.fst

/-- How many entries are stored. -/
def size (s : Recency κ ρ) : Nat :=
  s.entries.length

/-- The value stored under a key. -/
def find? (s : Recency κ ρ) (key : κ) : Option ρ :=
  s.entries.lookup key

/-- The entries of other keys. -/
def without (s : Recency κ ρ) (key : κ) : List (κ × ρ) :=
  s.entries.filter fun e => e.1 ≠ key

/-- The store in which the key, if it is stored, was used last. -/
def touch (s : Recency κ ρ) (key : κ) : Recency κ ρ :=
  match s.find? key with
  | some value => ⟨s.without key ++ [(key, value)]⟩
  | none => s

/-- The store with a new value under a key and with no more than `capacity` entries. -/
def put (capacity : Nat) (s : Recency κ ρ) (key : κ) (value : ρ) : Recency κ ρ :=
  let entries := s.without key ++ [(key, value)]
  ⟨entries.drop (entries.length - capacity)⟩

end Recency

end CodeSurvey
