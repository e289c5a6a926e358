import Mathlib.Algebra.BigOperators.Group.List.Basic
import Mathlib.Algebra.Order.Group.Defs
import Mathlib.Data.List.Infix
import Mathlib.Data.List.Induction
import Mathlib.Order.Bounds.Basic
import Mathlib.Tactic.Abel

/-!
# The drawdown of a sequence of gains

The running total of the gains, the highest total so far and the largest distance below it are kept in
one pass. The highest total is the greatest sum of a first part of the sequence, and the distance below
it is the greatest loss of a last part, so that the drawdown is the greatest loss of any run.
-/

namespace Drawdown

variable {α : Type*} [AddCommGroup α] [LinearOrder α]

/-- The total, the highest total and the largest distance below it. -/
structure Equity (α : Type*) where
  total : α
  peak : α
  worst : α

def start : Equity α := ⟨0, 0, 0⟩

def step (e : Equity α) (gain : α) : Equity α :=
  let total := e.total + gain
  let peak := max e.peak total
  ⟨total, peak, max e.worst (peak - total)⟩

def after (gains : List α) : Equity α := gains.foldl step start

/-- The losses of the runs of a sequence, the empty run included. -/
def losses (gains : List α) : Set α := {loss | ∃ run, run <:+: gains ∧ loss = -run.sum}

theorem after_concat (gains : List α) (gain : α) : after (gains ++ [gain]) = step (after gains) gain := by
  rw [after, after, List.foldl_append, List.foldl_cons, List.foldl_nil]

theorem total_after (gains : List α) : (after gains).total = gains.sum := by
  induction gains using List.reverseRecOn with
  | nil => rfl
  | append_singleton gains gain ih =>
    rw [after_concat, List.sum_append, List.sum_singleton, ← ih]
    rfl

theorem isGreatest_peak (gains : List α) :
    IsGreatest {total | ∃ first, first <+: gains ∧ total = first.sum} (after gains).peak := by
  induction gains using List.reverseRecOn with
  | nil =>
    refine ⟨⟨[], by simp, rfl⟩, ?_⟩
    rintro total ⟨first, hfirst, rfl⟩
    rw [List.prefix_nil.1 hfirst]
    exact le_rfl
  | append_singleton gains gain ih =>
    obtain ⟨⟨best, hbest, hpeak⟩, hle⟩ := ih
    have hnext : (after (gains ++ [gain])).peak = max (after gains).peak (gains ++ [gain]).sum := by
      rw [← total_after (gains ++ [gain]), after_concat]
      rfl
    rw [hnext]
    constructor
    · rcases max_choice (after gains).peak (gains ++ [gain]).sum with hmax | hmax
      · exact ⟨best, hbest.trans (List.prefix_append _ _), hmax.trans hpeak⟩
      · exact ⟨_, List.prefix_rfl, hmax⟩
    · rintro total ⟨first, hfirst, rfl⟩
      rcases List.prefix_concat_iff.1 hfirst with rfl | hfirst
      · exact le_max_right _ _
      · exact (hle ⟨first, hfirst, rfl⟩).trans (le_max_left _ _)

variable [IsOrderedAddMonoid α]

/-- The distance below the highest total is the greatest loss of a last part. -/
theorem isGreatest_below (gains : List α) :
    IsGreatest {loss | ∃ last, last <:+ gains ∧ loss = -last.sum}
      ((after gains).peak - (after gains).total) := by
  obtain ⟨⟨first, ⟨last, hlast⟩, hpeak⟩, hle⟩ := isGreatest_peak gains
  rw [total_after]
  constructor
  · refine ⟨last, ⟨first, hlast⟩, ?_⟩
    rw [hpeak, ← hlast, List.sum_append]
    abel
  · rintro loss ⟨last, ⟨first, rfl⟩, rfl⟩
    have hfirst := hle ⟨first, List.prefix_append first last, rfl⟩
    rw [List.sum_append]
    calc -last.sum = first.sum - (first.sum + last.sum) := by abel
      _ ≤ (after (first ++ last)).peak - (first.sum + last.sum) := sub_le_sub_right hfirst _

theorem isGreatest_worst (gains : List α) : IsGreatest (losses gains) (after gains).worst := by
  induction gains using List.reverseRecOn with
  | nil =>
    refine ⟨⟨[], by simp, by simp [after, start]⟩, ?_⟩
    rintro loss ⟨run, hrun, rfl⟩
    rw [List.infix_nil.1 hrun]
    simp [after, start]
  | append_singleton gains gain ih =>
    obtain ⟨⟨run, hrun, hworst⟩, hle⟩ := ih
    obtain ⟨⟨last, hlast, hbelow⟩, hbelow_le⟩ := isGreatest_below (gains ++ [gain])
    have hnext : (after (gains ++ [gain])).worst = max (after gains).worst
        ((after (gains ++ [gain])).peak - (after (gains ++ [gain])).total) := by
      rw [after_concat]
      rfl
    rw [hnext]
    constructor
    · rcases max_choice (after gains).worst
        ((after (gains ++ [gain])).peak - (after (gains ++ [gain])).total) with hmax | hmax
      · exact ⟨run, hrun.trans (List.prefix_append _ _).isInfix, hmax.trans hworst⟩
      · exact ⟨last, hlast.isInfix, hmax.trans hbelow⟩
    · rintro loss ⟨run, hrun, rfl⟩
      rcases List.infix_concat_iff.1 hrun with hrun | hrun
      · exact (hbelow_le ⟨run, hrun, rfl⟩).trans (le_max_right _ _)
      · exact (hle ⟨run, hrun, rfl⟩).trans (le_max_left _ _)

end Drawdown
