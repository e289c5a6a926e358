import Mathlib.Data.List.Basic
import Mathlib.Tactic.Common

/-!
# Scanning an input until a state is done

`runUntil done step` consumes a list from the left. It stops at the first state that is done and at
the first step that fails, so a scan over a list can be cut anywhere.
-/

namespace Scan

universe u

variable {σ τ ε α : Type u}

/-- Consume inputs until the state is done or the inputs run out. -/
def runUntil (done : σ → Bool) (step : σ → α → Except ε σ) : σ → List α → Except ε σ
  | s, [] => .ok s
  | s, a :: l =>
    if done s then .ok s
    else
      match step s a with
      | .error e => .error e
      | .ok s' => runUntil done step s' l

variable {done : σ → Bool} {step : σ → α → Except ε σ}

variable {l : List α} {f : α → Except ε σ} {x : Except ε α} {s : σ}

theorem runUntil_of_done (h : done s = true) (l : List α) :
    runUntil done step s l = .ok s := by
  cases l with
  | nil => rfl
  | cons a l => rw [runUntil, if_pos h]

theorem runUntil_append (s : σ) (l l' : List α) :
    runUntil done step s (l ++ l') =
      (runUntil done step s l).bind fun s' => runUntil done step s' l' := by
  induction l generalizing s with
  | nil => rfl
  | cons a l ih =>
    rw [List.cons_append, runUntil, runUntil]
    split
    · next h =>
      -- A done state ignores what is left of both lists.
      show _ = runUntil done step s l'
      rw [runUntil_of_done h]
    · cases step s a with
      | error e => rfl
      | ok s' => exact ih s'

/-- What holds of the first state and is kept by every step that is taken holds of the
last state. -/
theorem runUntil_induction {I : σ → Prop}
    (hstep : ∀ s, ∀ a ∈ l, ∀ s', done s = false → I s → step s a = .ok s' → I s') {s s' : σ}
    (h : I s) (hrun : runUntil done step s l = .ok s') : I s' := by
  induction l generalizing s with
  | nil =>
    cases hrun
    exact h
  | cons a l ih =>
    rw [runUntil] at hrun
    split at hrun
    · cases hrun
      exact h
    · next hd =>
      cases hs : step s a with
      | error e => rw [hs] at hrun; cases hrun
      | ok t =>
        rw [hs] at hrun
        exact ih (fun s b hb => hstep s b (List.mem_cons_of_mem a hb))
          (hstep s a List.mem_cons_self t (Bool.not_eq_true _ ▸ hd) h hs) hrun

/-- Two scans whose steps do the same on the inputs are the same. -/
theorem runUntil_eq_of_mem {step' : σ → α → Except ε σ} (h : ∀ s, ∀ a ∈ l, step s a = step' s a)
    (s : σ) :
    runUntil done step s l = runUntil done step' s l := by
  induction l generalizing s with
  | nil => rfl
  | cons a l ih =>
    rw [runUntil, runUntil, h s a List.mem_cons_self]
    simp only [ih fun s b hb => h s b (List.mem_cons_of_mem a hb)]

/-- If every step can be taken where an invariant holds and keeps it, the scan succeeds. -/
theorem runUntil_ok {I : σ → Prop}
    (hstep : ∀ s a, done s = false → I s → ∃ s', step s a = .ok s' ∧ I s') (h : I s) (l : List α) :
    ∃ s', runUntil done step s l = .ok s' ∧ I s' := by
  induction l generalizing s with
  | nil => exact ⟨s, rfl, h⟩
  | cons a l ih =>
    rw [runUntil]
    split
    · exact ⟨s, rfl, h⟩
    · next hd =>
      obtain ⟨t, ht, hI⟩ := hstep s a (Bool.not_eq_true _ ▸ hd) h
      rw [ht]
      exact ih hI

theorem foldlM_eq_runUntil (step : σ → α → Except ε σ) (s : σ) (l : List α) :
    l.foldlM step s = runUntil (fun _ => false) step s l := by
  induction l generalizing s with
  | nil => rfl
  | cons a l ih =>
    rw [List.foldlM_cons, runUntil, if_neg Bool.false_ne_true]
    cases step s a with
    | error e => rfl
    | ok t => exact ih t

/-- A scan that succeeds takes a step at each input it reaches before it is done. -/
theorem runUntil_step {s s' t : σ} {before after : List α} {a : α}
    (h : runUntil done step s (before ++ a :: after) = .ok s')
    (hbefore : runUntil done step s before = .ok t) (hdone : done t = false) :
    ∃ t', step t a = .ok t' := by
  rw [runUntil_append, hbefore] at h
  dsimp only [Except.bind] at h
  rw [runUntil, if_neg (by rw [hdone]; exact Bool.false_ne_true)] at h
  cases ht : step t a with
  | error e => rw [ht] at h; cases h
  | ok t' => exact ⟨t', rfl⟩

/-- A measure that no step decreases is within a bound at the end if and only if no step that is taken
within the bound leaves it. -/
theorem runUntil_le_iff {f : σ → ℕ} (hmono : ∀ s a s', step s a = .ok s' → f s ≤ f s') {n : ℕ}
    {s s' : σ} (h : runUntil done step s l = .ok s') (hs : f s ≤ n) :
    f s' ≤ n ↔ ∀ before a after t t', l = before ++ a :: after →
      runUntil done step s before = .ok t → done t = false → f t ≤ n → step t a = .ok t' →
        f t' ≤ n := by
  constructor
  · rintro hle before a after t t' rfl hbefore hdone - hstep
    rw [runUntil_append, hbefore] at h
    dsimp only [Except.bind] at h
    rw [runUntil, if_neg (by rw [hdone]; exact Bool.false_ne_true), hstep] at h
    refine Nat.le_trans ?_ hle
    exact runUntil_induction (I := fun s => f t' ≤ f s)
      (fun s a _ s' _ hI hstep => Nat.le_trans hI (hmono s a s' hstep)) (Nat.le_refl _) h
  · intro hsteps
    induction l generalizing s with
    | nil =>
      cases h
      exact hs
    | cons a l ih =>
      rw [runUntil] at h
      split at h
      · cases h
        exact hs
      next hd =>
        have hd := Bool.not_eq_true _ ▸ hd
        cases ht : step s a with
        | error e => rw [ht] at h; cases h
        | ok t =>
          rw [ht] at h
          refine ih h (hsteps [] a l s t rfl rfl hd hs ht) ?_
          intro before b after u u' hsplit hbefore
          refine hsteps (a :: before) b after u u' (by rw [hsplit]; rfl) ?_
          rw [runUntil, hd, if_neg Bool.false_ne_true, ht]
          exact hbefore

/-- Two computations that both fail, or both return with related values. -/
inductive Agree {σ τ ε : Type*} (R : σ → τ → Prop) : Except ε σ → Except ε τ → Prop
  | error (e e' : ε) : Agree R (.error e) (.error e')
  | ok {s : σ} {t : τ} (h : R s t) : Agree R (.ok s) (.ok t)

/-- Two scans whose steps agree on related states agree, where the second reads the image of the
input. -/
theorem runUntil_agree {σ' β : Type u} {R : σ → σ' → Prop} {done' : σ' → Bool}
    {step' : σ' → β → Except ε σ'} (f : α → β) (hdone : ∀ s t, R s t → done' t = done s)
    (hstep : ∀ s t a, R s t → Agree R (step s a) (step' t (f a))) {t : σ'} (h : R s t)
    (l : List α) : Agree R (runUntil done step s l) (runUntil done' step' t (l.map f)) := by
  induction l generalizing s t with
  | nil => exact .ok h
  | cons a l ih =>
    rw [List.map_cons, runUntil, runUntil, hdone s t h]
    split
    · exact .ok h
    · have hs := hstep s t a h
      revert hs
      cases step s a <;> cases step' t (f a) <;> intro hs <;> cases hs
      · exact .error _ _
      · next hs => exact ih hs

theorem bind_ok {b : σ} (h : x >>= f = .ok b) :
    ∃ a, x = .ok a ∧ f a = .ok b := by
  cases x with
  | error s => cases h
  | ok a => exact ⟨a, rfl, h⟩

theorem map_ok {f : α → σ} {b : σ} (h : x.map f = .ok b) :
    ∃ a, x = .ok a ∧ f a = b := by
  cases x with
  | error s => cases h
  | ok a => exact ⟨a, rfl, Except.ok.inj h⟩

/-- What each step of a traversal keeps of its element, the traversal keeps of the list. -/
theorem map_eq_of_mapM {key : α → τ} {key' : σ → τ} (hkey : ∀ a b, f a = .ok b → key' b = key a)
    {l' : List σ} (h : l.mapM f = .ok l') : l'.map key' = l.map key := by
  induction l generalizing l' with
  | nil =>
    cases h
    rfl
  | cons a l ih =>
    rw [List.mapM_cons] at h
    obtain ⟨b, ha, h⟩ := bind_ok h
    obtain ⟨bs, hl, h⟩ := bind_ok h
    cases h
    rw [List.map_cons, List.map_cons, hkey a b ha, ih hl]

theorem exists_ok_of_mapM {l' : List σ} (h : l.mapM f = .ok l') :
    ∀ a ∈ l, ∃ b, f a = .ok b := by
  induction l generalizing l' with
  | nil => simp
  | cons a l ih =>
    rw [List.mapM_cons] at h
    obtain ⟨b, ha, h⟩ := bind_ok h
    obtain ⟨bs, hl, -⟩ := bind_ok h
    exact List.forall_mem_cons.2 ⟨⟨b, ha⟩, ih hl⟩

/-- A traversal depends only on what its steps do on the elements. -/
theorem mapM_eq_of_mem {f g : α → Except ε σ} (h : ∀ a ∈ l, f a = g a) :
    l.mapM f = l.mapM g := by
  induction l with
  | nil => rfl
  | cons a l ih =>
    rw [List.mapM_cons, List.mapM_cons, h a List.mem_cons_self,
      ih fun b hb => h b (List.mem_cons_of_mem a hb)]

theorem mapM_ok {g : α → σ} (h : ∀ a ∈ l, f a = .ok (g a)) :
    l.mapM f = .ok (l.map g) := by
  induction l with
  | nil => rfl
  | cons a l ih =>
    rw [List.mapM_cons, h a List.mem_cons_self, ih fun b hb => h b (List.mem_cons_of_mem a hb)]
    rfl

theorem forM_ok_iff {ε α : Type*} {f : α → Except ε Unit} {l : List α} :
    l.forM f = .ok () ↔ ∀ a ∈ l, f a = .ok () := by
  rw [List.forM_eq_forM]
  induction l with
  | nil => exact ⟨fun _ a ha => absurd ha List.not_mem_nil, fun _ => rfl⟩
  | cons a l ih =>
    rw [List.forM_cons, List.forall_mem_cons]
    cases f a with
    | error e => exact iff_of_false (fun h => by cases h) (fun h => by cases h.1)
    | ok u => exact ih.trans ⟨fun h => ⟨rfl, h⟩, fun h => h.2⟩

/-- What each step of a fold achieves for its element holds at the end, if later steps keep it. -/
theorem foldlM_achieves {step : σ → α → Except ε σ} {R : σ → σ → Prop} {P : σ → α → Prop}
    (hrefl : ∀ s, R s s) (htrans : ∀ s t u, R s t → R t u → R s u)
    (hkeep : ∀ s t a, R s t → P s a → P t a) (hstep : ∀ s a t, step s a = .ok t → R s t ∧ P t a)
    {s t : σ} (h : l.foldlM step s = .ok t) : R s t ∧ ∀ a ∈ l, P t a := by
  induction l generalizing s with
  | nil =>
    cases h
    exact ⟨hrefl _, fun a ha => absurd ha List.not_mem_nil⟩
  | cons a l ih =>
    rw [List.foldlM_cons] at h
    obtain ⟨u, hs, h⟩ := bind_ok h
    obtain ⟨hR, hP⟩ := hstep s a u hs
    obtain ⟨hR', hP'⟩ := ih h
    exact ⟨htrans s u t hR hR', List.forall_mem_cons.2 ⟨hkeep u t a hR' hP, hP'⟩⟩

theorem foldlM_keeps {step : σ → α → Except ε σ} {Q : σ → Prop}
    (hstep : ∀ a ∈ l, ∀ s, Q s → ∃ t, step s a = .ok t ∧ Q t) (h : Q s) :
    ∃ t, l.foldlM step s = .ok t ∧ Q t := by
  induction l generalizing s with
  | nil => exact ⟨s, rfl, h⟩
  | cons a l ih =>
    obtain ⟨u, hu, hQ⟩ := hstep a List.mem_cons_self s h
    obtain ⟨t, ht, hQ'⟩ := ih (fun b hb => hstep b (List.mem_cons_of_mem a hb)) hQ
    refine ⟨t, ?_, hQ'⟩
    rw [List.foldlM_cons, hu]
    exact ht

theorem exists_ok_of_any {p : α → Bool} (h : x.toOption.any p = true) :
    ∃ a, x = .ok a ∧ p a = true := by
  cases x with
  | error e => cases h
  | ok a => exact ⟨a, rfl, h⟩

end Scan
