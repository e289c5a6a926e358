import Mathlib.Data.List.Nodup
import Mathlib.Tactic.Common

/-!
# A fair lock of a cooperative event loop

A task that finds the lock taken, or others waiting for it, puts a waiter at the end of a queue and
is suspended. A release wakes the first waiter; the task takes the lock when it is resumed, not when
it is woken. A waiter that is cancelled stays in the queue until its task is resumed, which then
passes the turn on. The operations are atomic.
-/

namespace AsyncLock

inductive Waiter where
  | pending
  | woken
  | cancelled
  deriving DecidableEq

/-- A lock, with the tasks that wait for it in the order in which they came. -/
structure Lock (τ : Type*) where
  locked : Bool := false
  waiters : List (τ × Waiter) := []

namespace Lock

variable {τ : Type*}

section Operations

variable (l : Lock τ)

/-- Whether a task can take the lock without a suspension: cancelled waiters do not count. -/
def free : Bool := !l.locked && l.waiters.all fun w => decide (w.2 = .cancelled)

/-- Wake the first waiter, unless its future is done. -/
def wakeFirst : List (τ × Waiter) → List (τ × Waiter)
  | (t, .pending) :: ws => (t, .woken) :: ws
  | ws => ws

def take : Lock τ := { l with locked := true }

/-- Wait at the end of the queue; the future of a task with a pending cancellation is cancelled. -/
def enqueue (t : τ) (cancelled : Bool) : Lock τ :=
  { l with waiters := l.waiters ++ [(t, if cancelled then .cancelled else .pending)] }

def release : Lock τ := ⟨false, wakeFirst l.waiters⟩

variable [DecidableEq τ]

/-- Cancel the future of a task that waits; a future that is done stays as it is. -/
def cancel (t : τ) : Lock τ :=
  { l with waiters := l.waiters.map fun w => if w = (t, .pending) then (t, .cancelled) else w }

def others (t : τ) : List (τ × Waiter) := l.waiters.filter fun w => decide (w.1 ≠ t)

/-- A woken task is resumed and takes the lock. -/
def resume (t : τ) : Lock τ := ⟨true, l.others t⟩

/-- A cancelled task is resumed; when the lock is not taken, it passes the turn on. -/
def giveUp (t : τ) : Lock τ := ⟨l.locked, if l.locked then l.others t else wakeFirst (l.others t)⟩

/-- Whether the future of a waiting task has been set by a release. -/
def isWoken (t : τ) : Bool := decide ((t, .woken) ∈ l.waiters)

end Operations

section Locked

variable {l : Lock τ}

@[simp] theorem locked_release : l.release.locked = false := rfl

theorem locked_of_free (h : l.free = true) : l.locked = false := by
  simpa using (Bool.and_eq_true_iff.1 h).1

end Locked

section Ok

/-- The waiters of which none, or only the first, is woken. -/
structure Quiet (ws : List (τ × Waiter)) : Prop where
  tail : ∀ w ∈ ws.tail, w.2 ≠ .woken

/-- Only the first waiter can be woken, and only while the lock is not taken. -/
structure Ok (l : Lock τ) : Prop where
  quiet : Quiet l.waiters
  asleep : l.locked = true → ∀ w ∈ l.waiters, w.2 ≠ .woken

variable {l : Lock τ} {t : τ}

theorem Quiet.of_forall {ws : List (τ × Waiter)} (h : ∀ w ∈ ws, w.2 ≠ .woken) : Quiet ws :=
  ⟨fun w hw => h w (List.mem_of_mem_tail hw)⟩

theorem Quiet.wakeFirst {ws : List (τ × Waiter)} (h : Quiet ws) : Quiet (wakeFirst ws) := by
  unfold Lock.wakeFirst
  split
  · exact ⟨h.tail⟩
  · exact h

theorem Quiet.sublist {ws vs : List (τ × Waiter)} (h : Quiet ws) (hs : vs.Sublist ws) : Quiet vs := by
  refine ⟨fun w hw => ?_⟩
  cases ws with
  | nil =>
    obtain rfl := List.sublist_nil.1 hs
    cases hw
  | cons x ws =>
    exact h.tail w (hs.tail.subset hw)

theorem Ok.take (h : l.Ok) (hfree : l.free = true) : l.take.Ok := by
  have hall := List.all_eq_true.1 (Bool.and_eq_true_iff.1 hfree).2
  refine ⟨h.quiet, fun _ w hw => ?_⟩
  have hcancelled : w.2 = .cancelled := of_decide_eq_true (hall w hw)
  rw [hcancelled]
  decide

theorem Ok.enqueue (h : l.Ok) (t : τ) (cancelled : Bool) : (l.enqueue t cancelled).Ok := by
  have hnew : ∀ w ∈ [(t, if cancelled then Waiter.cancelled else .pending)], w.2 ≠ .woken := by
    intro w hw
    obtain rfl := List.mem_singleton.1 hw
    cases cancelled <;> simp
  constructor
  · refine ⟨fun w hw => ?_⟩
    unfold Lock.enqueue at hw
    cases hwaiters : l.waiters with
    | nil =>
      rw [hwaiters] at hw
      cases hw
    | cons x ws =>
      have hquiet := h.quiet.tail
      rw [hwaiters] at hw hquiet
      rcases List.mem_append.1 hw with hw | hw
      · exact hquiet w hw
      · exact hnew w hw
  · intro hlocked w hw
    rcases List.mem_append.1 hw with hw | hw
    · exact h.asleep hlocked w hw
    · exact hnew w hw

theorem Ok.release (h : l.Ok) : l.release.Ok :=
  ⟨h.quiet.wakeFirst, fun hlocked => by cases hlocked⟩

variable [DecidableEq τ]

theorem Quiet.others (h : Quiet l.waiters) : Quiet (l.others t) := h.sublist List.filter_sublist

theorem Ok.not_woken_others (h : l.Ok) (hwoken : (t, .woken) ∈ l.waiters) :
    ∀ w ∈ l.others t, w.2 ≠ .woken := by
  intro w hw hbad
  obtain ⟨hmem, hne⟩ := List.mem_filter.1 hw
  have hne : w.1 ≠ t := of_decide_eq_true hne
  have hquiet := h.quiet.tail
  cases hwaiters : l.waiters with
  | nil =>
    rw [hwaiters] at hmem
    cases hmem
  | cons x ws =>
    rw [hwaiters] at hmem hwoken hquiet
    rcases List.mem_cons.1 hmem with rfl | hmem
    · rcases List.mem_cons.1 hwoken with heq | hwoken
      · exact hne (congrArg Prod.fst heq).symm
      · exact hquiet _ hwoken rfl
    · exact hquiet w hmem hbad

theorem Ok.cancel (h : l.Ok) (t : τ) : (l.cancel t).Ok := by
  have hstep : ∀ w : τ × Waiter, w.2 ≠ .woken →
      (if w = (t, .pending) then (t, Waiter.cancelled) else w).2 ≠ .woken := by
    intro w hw
    split
    · simp
    · exact hw
  constructor
  · refine ⟨fun w hw => ?_⟩
    unfold Lock.cancel at hw
    rw [← List.map_tail] at hw
    obtain ⟨v, hv, rfl⟩ := List.mem_map.1 hw
    exact hstep v (h.quiet.tail v hv)
  · intro hlocked w hw
    obtain ⟨v, hv, rfl⟩ := List.mem_map.1 hw
    exact hstep v (h.asleep hlocked v hv)

theorem Ok.resume (h : l.Ok) (hwoken : l.isWoken t = true) :
    (l.resume t).Ok := by
  have hasleep := h.not_woken_others (of_decide_eq_true hwoken)
  exact ⟨.of_forall hasleep, fun _ => hasleep⟩

theorem Ok.giveUp (h : l.Ok) (t : τ) : (l.giveUp t).Ok := by
  unfold Lock.giveUp
  cases hlocked : l.locked with
  | true =>
    have hasleep : ∀ w ∈ l.others t, w.2 ≠ .woken := fun w hw =>
      h.asleep hlocked w (List.mem_of_mem_filter hw)
    exact ⟨.of_forall hasleep, fun _ => hasleep⟩
  | false => exact ⟨h.quiet.others.wakeFirst, fun hlocked => by cases hlocked⟩

theorem Ok.not_locked (h : l.Ok) (hwoken : l.isWoken t = true) : l.locked = false := by
  cases hlocked : l.locked with
  | false => rfl
  | true => exact absurd rfl (h.asleep hlocked _ (of_decide_eq_true hwoken))

end Ok

end Lock

end AsyncLock
