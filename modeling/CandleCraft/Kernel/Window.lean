import Mathlib.Data.List.Basic
import Mathlib.Data.List.Infix
import Mathlib.Order.Lattice
import Mathlib.Tactic.Common

/-!
# Windows of an indexed list

A loop over a range of positions of a list visits a window of it, each entry with its position.
The window of a longer list over a longer range begins with that of the list itself, and a loop
that leaves at an entry has passed exactly the entries before it.
-/

namespace Window

variable {α σ ε : Type*}

/-- The entries of a list at the positions from `lo` on and below `hi`. -/
def window (l : List α) (lo hi : ℕ) : List (α × ℕ) :=
  (l.zipIdx.take hi).drop lo

theorem getElem?_window (l : List α) (lo hi i : ℕ) :
    (window l lo hi)[i]? = if lo + i < hi then l[lo + i]?.map (·, lo + i) else none := by
  rw [window, List.getElem?_drop, List.getElem?_take, List.getElem?_zipIdx, Nat.zero_add]

variable {l : List α}

theorem mem_window {lo hi : ℕ} {x : α × ℕ} :
    x ∈ window l lo hi ↔ lo ≤ x.2 ∧ x.2 < hi ∧ l[x.2]? = some x.1 := by
  rw [List.mem_iff_getElem?]
  constructor
  · rintro ⟨i, hi⟩
    rw [getElem?_window] at hi
    split at hi
    · next hlt =>
      obtain ⟨a, ha, rfl⟩ := Option.map_eq_some_iff.1 hi
      exact ⟨Nat.le_add_right lo i, hlt, ha⟩
    · cases hi
  · rintro ⟨hlo, hhi, hx⟩
    refine ⟨x.2 - lo, ?_⟩
    rw [getElem?_window, Nat.add_sub_cancel' hlo, if_pos hhi, hx]
    rfl

/-- A window within a first part of a list does not depend on the rest. -/
theorem window_append {hi : ℕ} (l' : List α) (lo : ℕ) (hl : hi ≤ l.length) :
    window (l ++ l') lo hi = window l lo hi := by
  rw [window, window, List.zipIdx_append, List.take_append_of_le_length]
  rwa [List.length_zipIdx]

/-- The window of a first part of a list begins every longer window that starts where it does. -/
theorem window_isPrefix {hi hi' : ℕ} (l' : List α) (lo : ℕ) (hhi : hi ≤ hi')
    (hl : hi ≤ l.length) : window l lo hi <+: window (l ++ l') lo hi' := by
  rw [← window_append l' lo hl]
  exact (List.take_prefix_take_left hhi).drop lo

theorem window_split {lo hi : ℕ} {before after : List (α × ℕ)} {x : α × ℕ}
    (h : window l lo hi = before ++ x :: after) :
    lo ≤ x.2 ∧ x.2 < hi ∧ l[x.2]? = some x.1 ∧
    (∀ y ∈ before, lo ≤ y.2 ∧ y.2 < x.2 ∧ l[y.2]? = some y.1) ∧
    ∀ i a, lo ≤ i → i < x.2 → l[i]? = some a → (a, i) ∈ before := by
  have hx : x ∈ window l lo hi := by
    rw [h]
    exact List.mem_append_right before List.mem_cons_self
  obtain ⟨hlo, hhi, hget⟩ := mem_window.1 hx
  -- An entry's position is its place in the window, counted from the start of the range.
  have hplace : ∀ i y, (window l lo hi)[i]? = some y → y.2 = lo + i := by
    intro i y hy
    rw [getElem?_window] at hy
    split at hy
    · obtain ⟨a, -, rfl⟩ := Option.map_eq_some_iff.1 hy
      rfl
    · cases hy
  have hlast : x.2 = lo + before.length := by
    refine hplace _ x ?_
    rw [h, List.getElem?_append_right le_rfl, Nat.sub_self]
    rfl
  refine ⟨hlo, hhi, hget, ?_, ?_⟩
  · intro y hy
    have hmem : y ∈ window l lo hi := by
      rw [h]
      exact List.mem_append_left _ hy
    obtain ⟨i, hi, hyi⟩ := List.mem_iff_getElem.1 hy
    have hpos : y.2 = lo + i := by
      refine hplace i y ?_
      rw [h, List.getElem?_append_left hi, List.getElem?_eq_getElem hi, hyi]
    exact ⟨(mem_window.1 hmem).1, by omega, (mem_window.1 hmem).2.2⟩
  · intro i a hloi hix ha
    have hmem : (window l lo hi)[i - lo]? = some (a, i) := by
      rw [getElem?_window, Nat.add_sub_cancel' hloi, if_pos (hix.trans hhi), ha]
      rfl
    rw [h, List.getElem?_append_left (by omega)] at hmem
    exact List.mem_of_getElem? hmem

/-- A filter that keeps everything before an entry that it keeps only cuts off the end. -/
theorem filter_isPrefix {p : α → Bool}
    (h : l.Pairwise fun a b => p b = true → p a = true) : l.filter p <+: l := by
  induction l with
  | nil => exact List.prefix_rfl
  | cons a l ih =>
    obtain ⟨hhead, htail⟩ := List.pairwise_cons.1 h
    cases ha : p a with
    | true =>
      rw [List.filter_cons_of_pos ha]
      exact List.prefix_cons_inj a |>.2 (ih htail)
    | false =>
      have hnone : l.filter p = [] := by
        rw [List.filter_eq_nil_iff]
        intro b hb hpb
        rw [hhead b hb hpb] at ha
        cases ha
      rw [List.filter_cons_of_neg (by rw [ha]; decide), hnone]
      exact List.nil_prefix

/-- A fold that fails has passed what lies before the entry it fails at. -/
theorem foldlM_eq_error {step : σ → α → Except ε σ} {s : σ} {e : ε}
    (h : l.foldlM step s = .error e) :
    ∃ before a after s', l = before ++ a :: after ∧ before.foldlM step s = .ok s' ∧
      step s' a = .error e := by
  induction l generalizing s with
  | nil => cases h
  | cons a l ih =>
    rw [List.foldlM_cons] at h
    cases hstep : step s a with
    | error e' =>
      rw [hstep] at h
      cases h
      exact ⟨[], a, l, s, rfl, rfl, hstep⟩
    | ok t =>
      rw [hstep] at h
      obtain ⟨before, b, after, s', rfl, hbefore, herror⟩ := ih h
      refine ⟨a :: before, b, after, s', rfl, ?_, herror⟩
      rw [List.foldlM_cons, hstep]
      exact hbefore

end Window
