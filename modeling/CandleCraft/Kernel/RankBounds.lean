import Mathlib.Data.List.Perm.Basic
import Mathlib.Data.List.Count
import Mathlib.Order.Lattice
import Mathlib.Tactic.Common

/-!
# Places in a ranking with undecided entries

The place of an entry is one more than the number of entries before it that count. When it is open
for some of them whether they count, the place depends on how this is decided; the least and the
greatest place are those in which none and all of the undecided entries count.
-/

namespace RankBounds

variable {α κ : Type*}

inductive Standing where
  | counted
  | undecided
  | excluded
  deriving DecidableEq

variable (standing : α → Standing) (decision : α → Bool) (before : List α)

def counts (a : α) : Bool :=
  match standing a with
  | .counted => true
  | .undecided => decision a
  | .excluded => false

def place : ℕ := before.countP (counts standing decision) + 1

def number (s : Standing) : ℕ := before.countP fun a => decide (standing a = s)

theorem number_append (s : Standing) (l l' : List α) :
    number standing (l ++ l') s = number standing l s + number standing l' s :=
  List.countP_append

theorem number_singleton (s : Standing) (a : α) :
    number standing [a] s = if standing a = s then 1 else 0 := by
  rw [number, List.countP_singleton]
  simp only [decide_eq_true_eq]

theorem le_place : number standing before .counted + 1 ≤ place standing decision before := by
  refine Nat.succ_le_succ (List.countP_mono_left fun a _ ha => ?_)
  rw [counts, of_decide_eq_true ha]

theorem place_none :
    place standing (fun _ => false) before = number standing before .counted + 1 := by
  rw [place, number]
  congr 2
  funext a
  unfold counts
  cases standing a <;> rfl

theorem place_all : place standing (fun _ => true) before =
    number standing before .counted + number standing before .undecided + 1 := by
  unfold place number
  induction before with
  | nil => rfl
  | cons a l ih =>
    simp only [List.countP_cons]
    have hcount : (if counts standing (fun _ => true) a = true then 1 else 0) =
        (if decide (standing a = .counted) = true then 1 else 0) +
          (if decide (standing a = .undecided) = true then 1 else 0) := by
      unfold counts
      cases standing a <;> rfl
    omega

theorem place_le : place standing decision before ≤
    number standing before .counted + number standing before .undecided + 1 := by
  rw [← place_all]
  refine Nat.succ_le_succ (List.countP_mono_left fun a _ ha => ?_)
  revert ha
  unfold counts
  cases standing a
  · exact fun _ => rfl
  · exact fun _ => rfl
  · exact id

/-- The beginning of a sorted list that comes strictly before the rest begins every sorted
permutation of the list. -/
theorem perm_sorted [LinearOrder κ] {key : α → κ} {first rest l : List α}
    (hstrict : (first ++ rest).Pairwise fun a b => a ∈ first → key a < key b)
    (hsorted : l.Pairwise fun a b => key a ≤ key b) (hperm : l.Perm (first ++ rest)) :
    ∃ rest', l = first ++ rest' ∧ rest'.Perm rest := by
  induction first generalizing l with
  | nil => exact ⟨l, rfl, hperm⟩
  | cons a first ih =>
    rw [List.cons_append] at hstrict hperm
    obtain ⟨hhead, htail⟩ := List.pairwise_cons.1 hstrict
    cases l with
    | nil => exact absurd hperm.symm.eq_nil (List.cons_ne_nil _ _)
    | cons b l =>
      obtain ⟨hfirst, hsorted'⟩ := List.pairwise_cons.1 hsorted
      -- The head of a sorted permutation has the least key, and only one entry has it.
      obtain rfl : b = a := by
        by_contra hne
        have hb : b ∈ first ++ rest :=
          (List.mem_cons.1 (hperm.mem_iff.1 List.mem_cons_self)).resolve_left hne
        have ha : a ∈ l :=
          (List.mem_cons.1 (hperm.mem_iff.2 List.mem_cons_self)).resolve_left (Ne.symm hne)
        exact absurd (hhead b hb List.mem_cons_self) (not_lt.2 (hfirst a ha))
      obtain ⟨rest', rfl, hrest⟩ := ih
        (htail.imp fun himp hmem => himp (List.mem_cons_of_mem b hmem)) hsorted' hperm.cons_inv
      exact ⟨rest', rfl, hrest⟩

end RankBounds
