import Mathlib.Data.List.Basic
import Mathlib.Tactic.Common

/-!
# Runs of a deterministic transition system

A system is a function `step : σ → α → σ`. A run takes a list of actions, so a
statement about every list of actions is a statement about every interleaving of
the parties that issue them.
-/

namespace Transition

variable {σ α : Type*}

section Run

variable (step : σ → α → σ)

/-- The state after the actions, in order. -/
def run (s : σ) (acts : List α) : σ :=
  acts.foldl step s

@[simp]
theorem run_nil (s : σ) : run step s [] = s := rfl

@[simp]
theorem run_cons (s : σ) (a : α) (acts : List α) :
    run step s (a :: acts) = run step (step s a) acts := rfl

@[simp]
theorem run_append (s : σ) (acts acts' : List α) :
    run step s (acts ++ acts') = run step (run step s acts) acts' := by
  rw [run, run, run, List.foldl_append]

/-- What every step preserves holds after every run. -/
theorem run_invariant {I : σ → Prop} (hstep : ∀ s a, I s → I (step s a)) {s : σ} (h : I s)
    (acts : List α) : I (run step s acts) := by
  induction acts generalizing s with
  | nil => exact h
  | cons a acts ih => exact ih (hstep s a h)

/-- What every allowed action preserves holds after every run of allowed actions. -/
theorem run_invariant_of_forall {I : σ → Prop} {ok : α → Prop}
    (hstep : ∀ s a, ok a → I s → I (step s a)) {s : σ} (h : I s) {acts : List α}
    (hacts : ∀ a ∈ acts, ok a) : I (run step s acts) := by
  induction acts generalizing s with
  | nil => exact h
  | cons a acts ih =>
    exact ih (hstep s a (hacts a List.mem_cons_self) h) fun b hb =>
      hacts b (List.mem_cons_of_mem a hb)

/-- A property that is false before a run and true after it was made true by one
of its steps. -/
theorem exists_crossing {P : σ → Prop} {s : σ} {acts : List α} (h : ¬ P s)
    (hrun : P (run step s acts)) :
    ∃ before a after, acts = before ++ a :: after ∧ ¬ P (run step s before) ∧
      P (step (run step s before) a) := by
  induction acts generalizing s with
  | nil => exact absurd hrun h
  | cons a acts ih =>
    by_cases ha : P (step s a)
    · exact ⟨[], a, acts, rfl, h, ha⟩
    · obtain ⟨before, b, after, rfl, hb, hb'⟩ := ih ha hrun
      exact ⟨a :: before, b, after, rfl, hb, hb'⟩

end Run

section Disciplined

variable (step : σ → α → σ) (ok : σ → α → Prop)

/-- Every step of the run is taken in a state in which `ok` allows it. -/
def Disciplined : σ → List α → Prop
  | _, [] => True
  | s, a :: acts => ok s a ∧ Disciplined (step s a) acts

instance Disciplined.decidable [∀ s a, Decidable (ok s a)] :
    ∀ s acts, Decidable (Disciplined step ok s acts)
  | _, [] => inferInstanceAs (Decidable True)
  | s, a :: acts =>
    have := Disciplined.decidable (step s a) acts
    inferInstanceAs (Decidable (ok s a ∧ Disciplined step ok (step s a) acts))

variable {step ok}

theorem Disciplined.of_append {s : σ} {acts acts' : List α}
    (h : Disciplined step ok s (acts ++ acts')) :
    Disciplined step ok s acts ∧ Disciplined step ok (run step s acts) acts' := by
  induction acts generalizing s with
  | nil => exact ⟨trivial, h⟩
  | cons a acts ih => exact ⟨⟨h.1, (ih h.2).1⟩, (ih h.2).2⟩

theorem Disciplined.and_forall {allowed : α → Prop} {s : σ} {acts : List α}
    (h : Disciplined step ok s acts) (hacts : ∀ a ∈ acts, allowed a) :
    Disciplined step (fun s a => ok s a ∧ allowed a) s acts := by
  induction acts generalizing s with
  | nil => trivial
  | cons a acts ih =>
    exact ⟨⟨h.1, hacts a List.mem_cons_self⟩, ih h.2 fun b hb => hacts b (List.mem_cons_of_mem a hb)⟩

/-- What every allowed step preserves holds after every disciplined run. -/
theorem Disciplined.invariant {I : σ → Prop} (hstep : ∀ s a, ok s a → I s → I (step s a)) {s : σ}
    {acts : List α} (h : Disciplined step ok s acts) (hI : I s) : I (run step s acts) := by
  induction acts generalizing s with
  | nil => exact hI
  | cons a acts ih => exact ih h.2 (hstep s a h.1 hI)

end Disciplined

section Tally

variable (step : σ → α → σ) (fires : σ → α → Prop) [∀ s a, Decidable (fires s a)]

/-- The number of steps of the run at which `fires` holds. -/
def tally : σ → List α → ℕ
  | _, [] => 0
  | s, a :: acts => (if fires s a then 1 else 0) + tally (step s a) acts

variable {step fires}

/-- If every step keeps the potential and every counted step raises it, the
potential grows by at least the number of counted steps. -/
theorem tally_le {φ : σ → ℕ} (hkeep : ∀ s a, φ s ≤ φ (step s a))
    (hfire : ∀ s a, fires s a → φ s + 1 ≤ φ (step s a)) (s : σ) (acts : List α) :
    φ s + tally step fires s acts ≤ φ (run step s acts) := by
  induction acts generalizing s with
  | nil => simp [tally]
  | cons a acts ih =>
    have hrest := ih (step s a)
    rw [tally, run_cons]
    split
    · next ha =>
      have := hfire s a ha
      omega
    · next ha =>
      have := hkeep s a
      omega

end Tally

end Transition
