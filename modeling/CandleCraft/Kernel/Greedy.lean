import Mathlib.Data.List.Induction
import Mathlib.Data.List.Perm.Basic

/-!
# Greedy passes

One pass over a list keeps or refuses each element, in view of those that were kept before. What
`judge` says of an element is `none` to keep it, or the reason to refuse it.
-/

namespace Greedy

variable {α ρ : Type*}

/-- The elements kept so far and those refused, in the order in which they came. -/
structure Pass (α ρ : Type*) where
  kept : List α := []
  refused : List (α × ρ) := []

variable (judge : List α → α → Option ρ)

def Pass.step (p : Pass α ρ) (a : α) : Pass α ρ :=
  match judge p.kept a with
  | none => { p with kept := p.kept ++ [a] }
  | some r => { p with refused := p.refused ++ [(a, r)] }

def select (l : List α) : Pass α ρ := l.foldl (Pass.step judge) {}

theorem select_append_singleton (l : List α) (a : α) :
    select judge (l ++ [a]) = (select judge l).step judge a := by
  rw [select, List.foldl_append]
  rfl

variable {judge}

theorem Pass.step_of_none {p : Pass α ρ} {a : α} (h : judge p.kept a = none) :
    p.step judge a = { p with kept := p.kept ++ [a] } := by
  rw [step, h]

theorem Pass.step_of_some {p : Pass α ρ} {a : α} {r : ρ} (h : judge p.kept a = some r) :
    p.step judge a = { p with refused := p.refused ++ [(a, r)] } := by
  rw [step, h]

/-- Invariant rule: the elements kept have every property that admission preserves. -/
theorem kept_invariant {P : List α → Prop} (hnil : P [])
    (hkeep : ∀ kept a, P kept → judge kept a = none → P (kept ++ [a])) (l : List α) :
    P (select judge l).kept := by
  induction l using List.reverseRecOn with
  | nil => exact hnil
  | append_singleton l a ih =>
    rw [select_append_singleton]
    cases hjudge : judge (select judge l).kept a with
    | none =>
      rw [Pass.step_of_none hjudge]
      exact hkeep _ _ ih hjudge
    | some r =>
      rw [Pass.step_of_some hjudge]
      exact ih

/-- Every element of the list is kept or refused, once. -/
theorem perm (l : List α) :
    ((select judge l).kept ++ (select judge l).refused.map Prod.fst).Perm l := by
  induction l using List.reverseRecOn with
  | nil => exact List.Perm.refl _
  | append_singleton l a ih =>
    rw [select_append_singleton]
    cases hjudge : judge (select judge l).kept a with
    | none =>
      rw [Pass.step_of_none hjudge]
      rw [List.append_assoc]
      calc ((select judge l).kept ++ ([a] ++ (select judge l).refused.map Prod.fst)).Perm
            ((select judge l).kept ++ ((select judge l).refused.map Prod.fst ++ [a])) :=
          List.Perm.append_left _ List.perm_append_comm
        _ = (select judge l).kept ++ (select judge l).refused.map Prod.fst ++ [a] :=
          (List.append_assoc _ _ _).symm
        List.Perm _ (l ++ [a]) := ih.append_right [a]
    | some r =>
      rw [Pass.step_of_some hjudge]
      rw [List.map_append, ← List.append_assoc]
      exact ih.append_right [a]

theorem kept_sublist (l : List α) : (select judge l).kept.Sublist l := by
  induction l using List.reverseRecOn with
  | nil => exact List.Sublist.refl _
  | append_singleton l a ih =>
    rw [select_append_singleton]
    cases hjudge : judge (select judge l).kept a with
    | none =>
      rw [Pass.step_of_none hjudge]
      exact ih.append (List.Sublist.refl [a])
    | some r =>
      rw [Pass.step_of_some hjudge]
      exact ih.trans (List.sublist_append_left l [a])

/-- What is refused has no influence on what is kept. -/
theorem kept_filter {p : α → Bool} {l : List α} (h : ∀ a ∈ (select judge l).kept, p a = true) :
    (select judge (l.filter p)).kept = (select judge l).kept := by
  induction l using List.reverseRecOn with
  | nil => rfl
  | append_singleton l a ih =>
    rw [select_append_singleton] at h ⊢
    rw [List.filter_append]
    cases hjudge : judge (select judge l).kept a with
    | none =>
      rw [Pass.step_of_none hjudge] at h ⊢
      have hkept := ih fun b hb => h b (List.mem_append_left _ hb)
      have ha : p a = true := h a (List.mem_append_right _ List.mem_cons_self)
      rw [List.filter_cons_of_pos ha, List.filter_nil, select_append_singleton,
        Pass.step_of_none (hkept ▸ hjudge)]
      exact congrArg (· ++ [a]) hkept
    | some r =>
      rw [Pass.step_of_some hjudge] at h ⊢
      have hkept := ih h
      by_cases ha : p a = true
      · rw [List.filter_cons_of_pos ha, List.filter_nil, select_append_singleton,
          Pass.step_of_some (hkept ▸ hjudge)]
        exact hkept
      · rw [List.filter_cons_of_neg ha, List.filter_nil, List.append_nil]
        exact hkept

/-- How an element came to be refused: `higher` was kept before it and `lower` after it. -/
structure Refusal (judge : List α → α → Option ρ) (l : List α) (a : α) (r : ρ)
    (higher lower : List α) : Prop where
  kept : (select judge l).kept = higher ++ lower
  judged : judge higher a = some r
  order : ∃ before after, l = before ++ a :: after ∧ higher.Sublist before ∧ lower.Sublist after

/-- Every refusal is a judgement in view of the elements that were kept before. -/
theorem refusal_of_mem {l : List α} {a : α} {r : ρ} (h : (a, r) ∈ (select judge l).refused) :
    ∃ higher lower, Refusal judge l a r higher lower := by
  induction l using List.reverseRecOn with
  | nil => cases h
  | append_singleton l b ih =>
    rw [select_append_singleton] at h
    cases hjudge : judge (select judge l).kept b with
    | none =>
      have hstep := Pass.step_of_none hjudge
      rw [hstep] at h
      obtain ⟨higher, lower, hkept, hjudged, before, after, rfl, hhigher, hlower⟩ := ih h
      refine ⟨higher, lower ++ [b], ?_, hjudged, before, after ++ [b], ?_, hhigher, ?_⟩
      · rw [select_append_singleton, hstep, hkept, List.append_assoc]
      · rw [List.append_assoc, List.cons_append]
      · exact hlower.append (List.Sublist.refl [b])
    | some r' =>
      have hstep := Pass.step_of_some hjudge
      rw [hstep] at h
      rcases List.mem_append.1 h with h | h
      · obtain ⟨higher, lower, hkept, hjudged, before, after, rfl, hhigher, hlower⟩ := ih h
        refine ⟨higher, lower, ?_, hjudged, before, after ++ [b], ?_, hhigher, ?_⟩
        · rw [select_append_singleton, hstep, hkept]
        · rw [List.append_assoc, List.cons_append]
        · exact hlower.trans (List.sublist_append_left after [b])
      · -- the last element: everything kept stands before it
        obtain ⟨rfl, rfl⟩ := Prod.mk.inj (List.mem_singleton.1 h)
        refine ⟨(select judge l).kept, [], ?_, hjudge, l, [], rfl, kept_sublist l,
          List.Sublist.refl []⟩
        rw [select_append_singleton, hstep, List.append_nil]

/-- Along a sorted list the elements kept before a refused one come before it in the order. -/
theorem Refusal.ordered {le : α → α → Prop} {l higher lower : List α} {a : α} {r : ρ}
    (h : Refusal judge l a r higher lower) (hsorted : l.Pairwise le) :
    (∀ s ∈ higher, le s a) ∧ ∀ s ∈ lower, le a s := by
  obtain ⟨before, after, rfl, hhigher, hlower⟩ := h.order
  obtain ⟨-, htail, hacross⟩ := List.pairwise_append.1 hsorted
  exact ⟨fun s hs => hacross s (hhigher.subset hs) a List.mem_cons_self,
    fun s hs => (List.pairwise_cons.1 htail).1 s (hlower.subset hs)⟩

end Greedy
