import Mathlib.Algebra.Order.Ring.Int
import Mathlib.Data.List.Chain
import Mathlib.Data.List.Sort
import Mathlib.Algebra.Ring.Divisibility.Basic
import Mathlib.Tactic.Linarith
import Mathlib.Tactic.Ring

/-!
# Contiguous lists on a grid

A list is contiguous when the key of every element is the key of the one before it plus
a fixed step. Such a list is a piece of a grid: its keys increase, they are congruent
modulo the step, and it is determined by its members.
-/

namespace Grid

variable {α : Type*} {key : α → ℤ} {δ : ℤ} {l t u : List α}

/-- Each key is the previous key plus the step. -/
def Contiguous (key : α → ℤ) (δ : ℤ) (l : List α) : Prop :=
  l.IsChain fun a b => key b = key a + δ

namespace Contiguous

theorem nil : Contiguous key δ [] := List.IsChain.nil

theorem tail {a : α} (h : Contiguous key δ (a :: l)) : Contiguous key δ l :=
  List.IsChain.tail h

theorem map_iff {β : Type*} {f : α → β} {key : β → ℤ} :
    Contiguous key δ (l.map f) ↔ Contiguous (fun a => key (f a)) δ l :=
  List.isChain_map f

theorem pairwise_add_le (hδ : 0 < δ) (h : Contiguous key δ l) :
    l.Pairwise fun a b => key a + δ ≤ key b := by
  have : IsTrans α fun a b => key a + δ ≤ key b := ⟨fun a b c hab hbc => by linarith⟩
  exact List.isChain_iff_pairwise.1 (h.imp fun _ _ hab => hab.ge)

theorem pairwise_lt (hδ : 0 < δ) (h : Contiguous key δ l) :
    l.Pairwise fun a b => key a < key b :=
  (h.pairwise_add_le hδ).imp fun hab => by linarith

theorem ext (hδ : 0 < δ) (ht : Contiguous key δ t) (hu : Contiguous key δ u)
    (h : ∀ a, a ∈ t ↔ a ∈ u) : t = u := by
  have : Std.Irrefl fun a b : α => key a < key b := ⟨fun a => lt_irrefl (key a)⟩
  have : Std.Antisymm fun a b : α => key a < key b := ⟨fun a b hab hba => absurd hab hba.asymm⟩
  exact (ht.pairwise_lt hδ).eq_of_mem_iff (hu.pairwise_lt hδ) h

theorem head_le (hδ : 0 < δ) (h : Contiguous key δ l) {a b : α} (ha : a ∈ l.head?) (hb : b ∈ l) :
    key a ≤ key b := by
  obtain ⟨rest, rfl⟩ := List.head?_eq_some_iff.1 ha
  rcases List.mem_cons.1 hb with rfl | hb
  · exact le_rfl
  · exact ((List.pairwise_cons.1 (h.pairwise_lt hδ)).1 b hb).le

theorem filter_ge (hδ : 0 < δ) (h : Contiguous key δ l) (e : ℤ) :
    Contiguous key δ (l.filter fun a => decide (e ≤ key a)) := by
  induction l with
  | nil => exact nil
  | cons a l ih =>
    by_cases ha : e ≤ key a
    · -- Everything after `a` is later still, so nothing is dropped.
      have hall : ∀ b ∈ a :: l, decide (e ≤ key b) = true := by
        intro b hb
        rcases List.mem_cons.1 hb with rfl | hb
        · exact decide_eq_true ha
        · have hlt := (List.pairwise_cons.1 (h.pairwise_lt hδ)).1 b hb
          exact decide_eq_true (by linarith)
      rw [List.filter_eq_self.2 hall]
      exact h
    · rw [List.filter_cons_of_neg (by simpa using ha)]
      exact ih h.tail

/-- What satisfies a condition that later elements only satisfy after earlier ones is
contiguous. -/
theorem filter_of_pairwise (h : Contiguous key δ l) {p : α → Bool}
    (hp : l.Pairwise fun a b => p b = true → p a = true) :
    Contiguous key δ (l.filter p) := by
  induction l with
  | nil => exact nil
  | cons a l ih =>
    rw [List.pairwise_cons] at hp
    by_cases ha : p a = true
    · rw [List.filter_cons_of_pos ha]
      cases l with
      | nil => exact List.isChain_singleton a
      | cons b l =>
        by_cases hb : p b = true
        · have ih := ih h.tail hp.2
          rw [List.filter_cons_of_pos hb] at ih ⊢
          exact List.isChain_cons_cons.2 ⟨(List.isChain_cons_cons.1 h).1, ih⟩
        · have hnone : ∀ c ∈ b :: l, ¬ p c = true := by
            intro c hc hpc
            rcases List.mem_cons.1 hc with rfl | hc
            · exact hb hpc
            · exact hb ((List.pairwise_cons.1 hp.2).1 c hc hpc)
          rw [List.filter_eq_nil_iff.2 hnone]
          exact List.isChain_singleton a
    · rw [List.filter_cons_of_neg ha]
      exact ih h.tail hp.2

end Contiguous

/-- The first point of the grid through `anchor` that is not before `x`. -/
def ceil (δ anchor x : ℤ) : ℤ :=
  let candidate := anchor + δ * ((x - anchor) / δ)
  if candidate < x then candidate + δ else candidate

theorem ceil_spec (hδ : 0 < δ) (anchor x : ℤ) :
    x ≤ ceil δ anchor x ∧ ceil δ anchor x < x + δ ∧ δ ∣ ceil δ anchor x - anchor := by
  have hdiv := Int.mul_ediv_add_emod (x - anchor) δ
  have hnonneg := Int.emod_nonneg (x - anchor) hδ.ne'
  have hlt := Int.emod_lt_of_pos (x - anchor) hδ
  unfold ceil
  dsimp only
  split
  · refine ⟨by linarith, by linarith, (x - anchor) / δ + 1, by ring⟩
  · refine ⟨by linarith, by linarith, (x - anchor) / δ, by ring⟩

end Grid
