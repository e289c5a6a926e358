import CandleCraft.Kernel.Table
import Mathlib.Algebra.BigOperators.Group.Finset.Piecewise
import Mathlib.Algebra.Order.Ring.Nat
import Mathlib.Data.Finset.Dedup
import Mathlib.Data.List.Dedup

/-!
# Bounded memories

A table of buckets is pruned to its greatest keys, and a sum over rows is the sum over keys of
what is recorded under them.
-/

namespace Relational

variable {ρ κ α : Type*} {key : ρ → κ}

namespace Table

variable [LinearOrder κ]

def sortedKeys (t : Table ρ key) : List κ := (t.rows.map key).insertionSort (· ≤ ·)

/-- Drop the rows with the least keys until no more than `n` are left. -/
def prune (n : ℕ) (t : Table ρ key) : Table ρ key :=
  if t.rows.length ≤ n then t
  else (t.sortedKeys.take (t.rows.length - n)).foldl remove t

variable {t : Table ρ key} {n : ℕ}

theorem mem_sortedKeys {k : κ} : k ∈ t.sortedKeys ↔ ∃ r ∈ t.rows, key r = k := by
  simp [sortedKeys]

theorem length_sortedKeys (t : Table ρ key) : t.sortedKeys.length = t.rows.length := by
  simp [sortedKeys]

theorem pairwise_sortedKeys (t : Table ρ key) : t.sortedKeys.Pairwise (· < ·) := by
  have hsorted := List.pairwise_insertionSort (· ≤ ·) (t.rows.map key)
  have hnodup : t.sortedKeys.Nodup := (List.perm_insertionSort _ _).nodup_iff.2 t.nodup
  exact hsorted.imp₂ (fun _ _ => lt_of_le_of_ne) hnodup

theorem mem_prune {r : ρ} :
    r ∈ (t.prune n).rows ↔ r ∈ t.rows ∧ key r ∉ t.sortedKeys.take (t.rows.length - n) := by
  unfold prune
  split
  · next hshort =>
    rw [Nat.sub_eq_zero_of_le hshort, List.take_zero]
    exact (and_iff_left List.not_mem_nil).symm
  · exact mem_foldl_remove

theorem sortedKeys_prune (n : ℕ) (t : Table ρ key) :
    (t.prune n).sortedKeys = t.sortedKeys.drop (t.rows.length - n) := by
  have hsorted := t.pairwise_sortedKeys
  refine (t.prune n).pairwise_sortedKeys.eq_of_mem_iff hsorted.drop fun k => ?_
  rw [← List.take_append_drop (t.rows.length - n) t.sortedKeys, List.pairwise_append] at hsorted
  rw [mem_sortedKeys]
  constructor
  · rintro ⟨r, hr, rfl⟩
    obtain ⟨hmem, hleft⟩ := mem_prune.1 hr
    have hall := mem_sortedKeys.2 ⟨r, hmem, rfl⟩
    rw [← List.take_append_drop (t.rows.length - n) t.sortedKeys] at hall
    exact (List.mem_append.1 hall).resolve_left hleft
  · intro hk
    obtain ⟨r, hr, rfl⟩ := mem_sortedKeys.1 (List.mem_of_mem_drop hk)
    exact ⟨r, mem_prune.2 ⟨hr, fun htake => lt_irrefl _ (hsorted.2.2 _ htake _ hk)⟩, rfl⟩

theorem length_prune (n : ℕ) (t : Table ρ key) :
    (t.prune n).rows.length = min t.rows.length n := by
  rw [← length_sortedKeys, sortedKeys_prune, List.length_drop, length_sortedKeys]
  omega

theorem mem_of_mem_prune {r : ρ} (h : r ∈ (t.prune n).rows) : r ∈ t.rows := (mem_prune.1 h).1

/-- A row that is pruned is below every row that is left, and those are `n`. -/
theorem lt_of_pruned {r : ρ} (hr : r ∈ t.rows) (hpruned : r ∉ (t.prune n).rows) :
    (t.prune n).rows.length = n ∧ ∀ k ∈ (t.prune n).sortedKeys, key r < k := by
  have htake : key r ∈ t.sortedKeys.take (t.rows.length - n) := by
    by_contra hleft
    exact hpruned (mem_prune.2 ⟨hr, hleft⟩)
  constructor
  · have hpos := List.length_pos_of_mem htake
    rw [List.length_take] at hpos
    rw [length_prune]
    omega
  · intro k hk
    rw [sortedKeys_prune] at hk
    have hsorted := t.pairwise_sortedKeys
    rw [← List.take_append_drop (t.rows.length - n) t.sortedKeys, List.pairwise_append] at hsorted
    exact hsorted.2.2 _ htake _ hk

end Table

/-- Summing by key leaves nothing out and counts nothing twice. -/
theorem sum_by_key [DecidableEq κ] (keyOf : α → κ) (count : α → ℕ) (l : List α) {keys : List κ}
    (hnodup : keys.Nodup) (hmem : ∀ a ∈ l, keyOf a ∈ keys) :
    (keys.map fun k => ((l.filter fun a => decide (keyOf a = k)).map count).sum).sum =
      (l.map count).sum := by
  induction l with
  | nil => simp
  | cons a rest ih =>
    have hsplit : ∀ k, (((a :: rest).filter fun a => decide (keyOf a = k)).map count).sum =
        (if keyOf a = k then count a else 0) +
          ((rest.filter fun a => decide (keyOf a = k)).map count).sum := by
      intro k
      by_cases h : keyOf a = k <;> simp [h]
    have hone : (keys.map fun k => if keyOf a = k then count a else 0).sum = count a := by
      rw [← List.sum_toFinset _ hnodup, Finset.sum_ite_eq, if_pos]
      exact List.mem_toFinset.2 (hmem a List.mem_cons_self)
    simp only [hsplit, List.sum_map_add, List.map_cons, List.sum_cons]
    rw [hone, ih fun a' ha' => hmem a' (List.mem_cons_of_mem a ha')]

end Relational
