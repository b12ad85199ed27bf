/-
  The keys of a bounded store.

  * `Recency.mem_keys_touch`, `Recency.mem_keys_put`: which keys are stored after a
    use and after a new entry;
  * `Recency.nodup_keys_touch`, `Recency.nodup_keys_put`: no key is stored twice;
  * `Recency.size_touch`, `Recency.size_put_le`: a new entry makes room for itself.
-/
import CodeSurvey.Cache.Recency
import Mathlib.Data.List.Nodup

namespace CodeSurvey

/-- In a list without repeated keys, the value of a key is the one it stands beside. -/
theorem lookup_eq_some_iff_mem {κ β : Type} [DecidableEq κ] {l : List (κ × β)}
    (h : (l.map Prod.fst).Nodup) {key : κ} {b : β} : l.lookup key = some b ↔ (key, b) ∈ l := by
  induction l with
  | nil => simp
  | cons p l ih =>
    obtain ⟨k, c⟩ := p
    simp only [List.map_cons, List.nodup_cons, List.mem_map, not_exists, not_and] at h
    rw [List.lookup_cons, List.mem_cons]
    by_cases hk : key = k
    · subst hk
      have hl : (key, b) ∉ l := fun hm => h.1 _ hm rfl
      simp [hl, eq_comm]
    · rw [beq_false_of_ne hk, ih h.2]
      simp [hk]

namespace Recency

variable {κ ρ : Type} {s : Recency κ ρ}

theorem size_eq_length_keys : s.size = s.keys.length := by
  simp [size, keys]

variable [DecidableEq κ]

theorem find?_eq_none_iff {key : κ} : s.find? key = none ↔ key ∉ s.keys := by
  simp only [find?, keys, List.lookup_eq_none_iff, List.mem_map, not_exists, not_and]
  exact forall₂_congr fun p _ => by rw [bne_iff_ne, ne_comm]

theorem mem_keys_of_find? {key : κ} {r : ρ} (h : s.find? key = some r) : key ∈ s.keys := by
  by_contra hk
  rw [find?_eq_none_iff.2 hk] at h
  cases h

theorem map_fst_without (key : κ) : (s.without key).map Prod.fst = s.keys.filter (· ≠ key) := by
  simp [without, keys, List.filter_map, Function.comp_def]

/-- The entries with a key moved to the end hold the key once more than its absence allows. -/
theorem nodup_moved {key : κ} {r : ρ} (h : s.keys.Nodup) :
    ((s.without key ++ [(key, r)]).map Prod.fst).Nodup := by
  rw [List.map_append, map_fst_without]
  refine List.Nodup.append (h.filter _) (List.nodup_singleton _) fun k hk hk' => ?_
  simp only [List.map_cons, List.map_nil, List.mem_singleton] at hk'
  simp [hk'] at hk

theorem keys_touch (key : κ) :
    (s.touch key).keys = if key ∈ s.keys then s.keys.filter (· ≠ key) ++ [key] else s.keys := by
  unfold touch
  cases hf : s.find? key with
  | none => rw [if_neg (find?_eq_none_iff.1 hf)]
  | some r =>
    rw [if_pos (mem_keys_of_find? hf), ← map_fst_without]
    simp [keys]

@[simp] theorem mem_keys_touch {key k : κ} : k ∈ (s.touch key).keys ↔ k ∈ s.keys := by
  rw [keys_touch]
  split
  · by_cases hk : k = key <;> simp_all
  · exact Iff.rfl

theorem nodup_keys_touch (h : s.keys.Nodup) (key : κ) : (s.touch key).keys.Nodup := by
  unfold touch
  split
  · exact nodup_moved h
  · exact h

theorem size_touch (h : s.keys.Nodup) (key : κ) : (s.touch key).size = s.size := by
  rw [size_eq_length_keys, size_eq_length_keys]
  have hmem : ∀ k, k ∈ (s.touch key).keys ↔ k ∈ s.keys := fun k => mem_keys_touch
  exact ((List.perm_ext_iff_of_nodup (nodup_keys_touch h key) h).2 hmem).length_eq

theorem mem_keys_put {capacity : Nat} {key k : κ} {r : ρ}
    (h : k ∈ (s.put capacity key r).keys) : k = key ∨ k ∈ s.keys := by
  have hk : k ∈ (s.without key ++ [(key, r)]).map Prod.fst :=
    ((List.drop_sublist _ _).map Prod.fst).subset h
  rw [List.map_append, map_fst_without] at hk
  simp only [List.mem_append, List.mem_filter, List.map_cons, List.map_nil,
    List.mem_singleton] at hk
  exact hk.symm.imp id And.left

theorem nodup_keys_put (h : s.keys.Nodup) (capacity : Nat) (key : κ) (r : ρ) :
    (s.put capacity key r).keys.Nodup :=
  (nodup_moved h).sublist ((List.drop_sublist _ _).map Prod.fst)

theorem size_put_le (capacity : Nat) (key : κ) (r : ρ) : (s.put capacity key r).size ≤ capacity := by
  simp only [size, put, List.length_drop]
  omega

end Recency

end CodeSurvey
