import CandleCraft.Kernel.AsyncLock
import CandleCraft.Runtime.Worker

/-!
# `LifecycleWorker`

A call takes the admission lock, queues its operation and waits for the receipt, also when it is
cancelled. Only then is the admission released. `aclose` starts one task that takes the admission,
puts the sentinel and joins the thread.

A step is what a task does between two suspensions, or a step of the thread; one that is not
possible changes nothing. Metrics, the profile and the check of the event loop are left out.
-/

namespace CandleCraft.Runtime.LifecycleWorker

open AsyncLock

variable {κ α ε θ : Type*}

/-- Who takes the admission lock. -/
inductive Party (κ : Type*) where
  | call (call : κ)
  | shutdown
  deriving DecidableEq

/-- How a call ends. -/
inductive Outcome (ρ : Type*) where
  /-- `LifecycleWorkerClosed`. -/
  | closed
  /-- `LifecycleWorkerSaturated`. -/
  | saturated
  /-- The `TypeError` for an argument that holds a connection. -/
  | forbidden
  | cancelled
  /-- `queue.Full`. -/
  | full
  | received (receipt : ρ)
  deriving DecidableEq

inductive Phase (ρ : Type*) where
  | idle
  | acquiring (waiting : Bool)
  | awaiting (cancelled : Bool)
  | done (outcome : Outcome ρ)
  deriving DecidableEq

/-- A call, and whether a cancellation of its task is pending. -/
structure Call (ρ : Type*) where
  phase : Phase ρ := .idle
  cancelRequested : Bool := false

/-- Where `_shutdown` is. -/
inductive Closing where
  | none
  | created
  | acquiring
  | joining
  | finished
  | failed
  deriving DecidableEq

/-- A call of `aclose`. -/
structure Closer where
  waiting : Bool := false
  returned : Bool := false
  cancelRequested : Bool := false

/-- The worker, with the calls and the calls of `aclose`. -/
structure State (κ α ε θ : Type*) where
  lock : Lock (Party κ) := {}
  waiters : ℕ := 0
  closed : Bool := false
  closing : Closing := .none
  thread : Thread κ (Except ε α) := {}
  calls : κ → Call (Except ε α) := fun _ => {}
  closers : θ → Closer := fun _ => {}

inductive Action (κ α ε θ : Type*) where
  /-- `call()` begins; `cancelling` is `task.cancelling()`, and `forbidden` says whether an argument
  holds a connection. -/
  | enter (call : κ) (cancelling forbidden : Bool)
  | cancel (call : κ)
  | resume (call : κ)
  /-- The thread makes a step; `result` is what the operation that runs returns or raises. -/
  | work (result : Except ε α)
  | aclose (closer : θ)
  | cancelClose (closer : θ)
  | resumeClose (closer : θ)
  | resumeShutdown

section Steps

variable [DecidableEq κ] [DecidableEq θ]

namespace State

variable (s : State κ α ε θ)

/-- A call ends without the admission. -/
def refuse (c : κ) (outcome : Outcome (Except ε α)) : State κ α ε θ :=
  { s with calls := Function.update s.calls c { phase := .done outcome } }

def finish (lock : Lock (Party κ)) (c : κ) (outcome : Outcome (Except ε α)) : State κ α ε θ :=
  { s with
    lock := lock.release
    thread := s.thread.note (.released c)
    calls := Function.update s.calls c { phase := .done outcome } }

/-- What a call does with the admission: `lock` is the lock that it has taken. -/
def admitCall (lock : Lock (Party κ)) (c : κ) : State κ α ε θ :=
  if s.closed then s.finish lock c .closed
  else if s.thread.isFull then
    finish { s with thread := s.thread.note (.full c) } lock c .full
  else
    { s with
      lock := lock
      thread := s.thread.put c
      calls := Function.update s.calls c { s.calls c with phase := .awaiting false } }

/-- `call()`, up to its first suspension. -/
def begin (c : κ) (cancelling forbidden : Bool) : State κ α ε θ :=
  if s.closed then s.refuse c .closed
  else if forbidden then s.refuse c .forbidden
  else if cancelling || (s.calls c).cancelRequested then s.refuse c .cancelled
  else if s.lock.locked && decide (1 ≤ s.waiters) then s.refuse c .saturated
  else if s.lock.free then s.admitCall s.lock.take c
  else
    { s with
      lock := s.lock.enqueue (.call c) false
      waiters := s.waiters + if s.lock.locked then 1 else 0
      calls := Function.update s.calls c { phase := .acquiring s.lock.locked } }

def enter (c : κ) (cancelling forbidden : Bool) : State κ α ε θ :=
  match (s.calls c).phase with
  | .idle => s.begin c cancelling forbidden
  | _ => s

/-- What a caller gets of a receipt: an error is raised even after a cancellation. -/
def outcome (receipt : Except ε α) (cancelled : Bool) : Outcome (Except ε α) :=
  match receipt with
  | .error _ => .received receipt
  | .ok _ => if cancelled then .cancelled else .received receipt

def settle (c : κ) (receipt : Except ε α) (cancelled : Bool) : State κ α ε θ :=
  match outcome receipt cancelled with
  | .received r =>
    let released := s.finish s.lock c (.received r)
    { released with thread := released.thread.note (.received c r) }
  | other => s.finish s.lock c other

def resumeAcquiring (c : κ) (waiting : Bool) : State κ α ε θ :=
  let s' := { s with waiters := s.waiters - if waiting then 1 else 0 }
  if (s.calls c).cancelRequested then
    { s'.refuse c .cancelled with lock := s.lock.giveUp (.call c) }
  else if s.lock.isWoken (.call c) then s'.admitCall (s.lock.resume (.call c)) c
  else s

/-- One turn of `_fenced_wait`. -/
def resumeAwaiting (c : κ) (cancelled : Bool) : State κ α ε θ :=
  if (s.calls c).cancelRequested then
    { s with calls := Function.update s.calls c { phase := .awaiting true } }
  else
    match s.thread.future c with
    | none => s
    | some receipt => s.settle c receipt cancelled

/-- `call()`, from one suspension to the next. -/
def resume (c : κ) : State κ α ε θ :=
  match (s.calls c).phase with
  | .acquiring waiting => s.resumeAcquiring c waiting
  | .awaiting cancelled => s.resumeAwaiting c cancelled
  | _ => s

/-- `task.cancel()` of the task of a call. -/
def cancel (c : κ) : State κ α ε θ :=
  { s with
    lock := s.lock.cancel (.call c)
    calls := Function.update s.calls c { s.calls c with cancelRequested := true } }

/-- `aclose()`, up to its first suspension. -/
def aclose (t : θ) : State κ α ε θ :=
  if (s.closers t).waiting || (s.closers t).returned then s
  else
    { s with
      closed := true
      closing := if s.closing = .none then .created else s.closing
      closers := Function.update s.closers t { s.closers t with waiting := true } }

/-- One turn of `_fenced_wait` in `aclose()`. -/
def resumeClose (t : θ) : State κ α ε θ :=
  if (s.closers t).waiting then
    if (s.closers t).cancelRequested then
      { s with closers := Function.update s.closers t { waiting := true } }
    else
      match s.closing with
      | .finished =>
        { s with
          thread := s.thread.note .closed
          closers := Function.update s.closers t { returned := true } }
      | .failed => { s with closers := Function.update s.closers t { returned := true } }
      | _ => s
  else s

/-- `_shutdown` with the lock that it has taken. -/
def startJoin (lock : Lock (Party κ)) : State κ α ε θ :=
  if s.thread.isFull then { s with lock := lock.release, closing := .failed }
  else { s with lock := lock, thread := s.thread.putStop, closing := .joining }

/-- `_shutdown`, from one suspension to the next. -/
def resumeShutdown : State κ α ε θ :=
  match s.closing with
  | .created =>
    if s.lock.free then s.startJoin s.lock.take
    else { s with lock := s.lock.enqueue .shutdown false, closing := .acquiring }
  | .acquiring =>
    if s.lock.isWoken .shutdown then s.startJoin (s.lock.resume .shutdown) else s
  | .joining =>
    if s.thread.position = .exited then { s with lock := s.lock.release, closing := .finished }
    else s
  | _ => s

def step : Action κ α ε θ → State κ α ε θ
  | .enter c cancelling forbidden => s.enter c cancelling forbidden
  | .cancel c => s.cancel c
  | .resume c => s.resume c
  | .work r => { s with thread := s.thread.work r }
  | .aclose t => s.aclose t
  | .cancelClose t =>
    { s with
      closers := Function.update s.closers t { s.closers t with cancelRequested := true } }
  | .resumeClose t => s.resumeClose t
  | .resumeShutdown => s.resumeShutdown

end State

end Steps

section Invariant

def holder : Option (Party κ) → Option κ
  | some (.call c) => some c
  | _ => none

/-- What holds of the worker while a party holds the admission, or none. -/
structure Inv (s : State κ α ε θ) (owner : Option (Party κ)) : Prop where
  lockOk : s.lock.Ok
  locked : s.lock.locked = owner.isSome
  thread : s.thread.Inv (holder owner)
  awaiting : ∀ c b, (s.calls c).phase = .awaiting b → owner = some (.call c)
  fresh : ∀ c, ((s.calls c).phase = .idle ∨ ∃ b, (s.calls c).phase = .acquiring b) →
    .admitted c ∉ s.thread.log
  joining : s.closing = .joining → owner = some .shutdown
  stopped : s.thread.Stopped → s.closed = true ∧ (s.closing = .joining ∨ s.closing = .finished)
  finished : s.closing = .finished → s.thread.position = .exited
  closed : s.closing ≠ .none → s.closed = true

theorem inv_start : Inv ({} : State κ α ε θ) none where
  lockOk := ⟨⟨by simp⟩, by simp⟩
  locked := rfl
  thread := Thread.inv_start
  awaiting := by simp
  fresh := by simp
  joining := by simp
  stopped := by simp [Thread.Stopped]
  finished := by simp
  closed := by simp

namespace Inv

variable {s : State κ α ε θ} {owner : Option (Party κ)}

theorem owner_eq_none (h : Inv s owner) (hlocked : s.lock.locked = false) : owner = none := by
  rw [h.locked] at hlocked
  cases owner with
  | none => rfl
  | some p => cases hlocked

variable {lock : Lock (Party κ)}

theorem setLock (h : Inv s owner) (hok : lock.Ok)
    (hlocked : lock.locked = s.lock.locked) : Inv { s with lock := lock } owner :=
  { h with
    lockOk := hok
    locked := hlocked.trans h.locked }

theorem startJoin (h : Inv s none) (hok : lock.Ok) (hlocked : lock.locked = true)
    (hclosing : s.closing = .created ∨ s.closing = .acquiring) :
    Inv (s.startJoin lock) (some .shutdown) := by
  have hstopped : ¬ s.thread.Stopped := by
    intro hs
    rcases (h.stopped hs).2 with h' | h' <;> rcases hclosing with hc | hc <;> rw [hc] at h' <;>
      cases h'
  have hclosed : s.closed = true := h.closed (by rcases hclosing with hc | hc <;> simp [hc])
  unfold State.startJoin
  rw [if_neg (by rw [h.thread.not_full hstopped]; decide)]
  exact {
    lockOk := hok
    locked := hlocked
    thread := h.thread.putStop hstopped
    awaiting := by
      intro d b hd
      cases h.awaiting d b hd
    fresh := h.fresh
    joining := fun _ => rfl
    stopped := fun _ => ⟨hclosed, .inl rfl⟩
    finished := by simp
    closed := fun _ => hclosed }

section Closers

variable [DecidableEq θ]

theorem aclose (h : Inv s owner) (t : θ) : Inv (s.aclose t) owner := by
  unfold State.aclose
  split
  · exact h
  · exact { h with
      joining := by
        intro hjoining
        split at hjoining
        · cases hjoining
        · exact h.joining hjoining
      stopped := by
        intro hs
        refine ⟨rfl, ?_⟩
        have hclosing := (h.stopped hs).2
        rw [if_neg (by rcases hclosing with hc | hc <;> simp [hc])]
        exact hclosing
      finished := by
        intro hfinished
        split at hfinished
        · cases hfinished
        · exact h.finished hfinished
      closed := fun _ => rfl }

theorem resumeClose (h : Inv s owner) (t : θ) : Inv (s.resumeClose t) owner := by
  unfold State.resumeClose
  split
  · split
    · exact { h with }
    · split
      next hclosing =>
        exact { h with
          thread := h.thread.close (h.finished hclosing)
          fresh := fun d hd => by simpa [Thread.note] using h.fresh d hd }
      next => exact { h with }
      next => exact h
  · exact h

end Closers

variable [DecidableEq κ]

theorem setCall (h : Inv s owner) (c : κ) (call : Call (Except ε α))
    (hawaiting : ∀ b, call.phase = .awaiting b → owner = some (.call c))
    (hfresh : (call.phase = .idle ∨ ∃ b, call.phase = .acquiring b) →
      .admitted c ∉ s.thread.log) :
    Inv { s with calls := Function.update s.calls c call } owner :=
  { h with
    awaiting := (Function.forall_update_iff s.calls fun d call =>
      ∀ b, call.phase = .awaiting b → owner = some (.call d)).2 ⟨hawaiting, fun d _ => h.awaiting d⟩
    fresh := (Function.forall_update_iff s.calls fun d call =>
      (call.phase = .idle ∨ ∃ b, call.phase = .acquiring b) → .admitted d ∉ s.thread.log).2
        ⟨hfresh, fun d _ => h.fresh d⟩ }

theorem refuse (h : Inv s owner) (c : κ) (outcome : Outcome (Except ε α)) :
    Inv (s.refuse c outcome) owner :=
  h.setCall c _ (by simp) (by simp)

theorem finish (h : Inv s owner) (hok : lock.Ok) {c : κ}
    (hother : ∀ p, owner = some p → p = .call c) (outcome : Outcome (Except ε α))
    (hthread : (s.thread.note (.released c)).Inv none) : Inv (s.finish lock c outcome) none where
  lockOk := hok.release
  locked := rfl
  thread := hthread
  awaiting := by
    refine (Function.forall_update_iff s.calls fun d call =>
      ∀ b, call.phase = .awaiting b → none = some (Party.call d)).2 ⟨by simp, fun d hdc b hd => ?_⟩
    exact absurd (Party.call.inj (hother _ (h.awaiting d b hd))) hdc
  fresh := by
    refine (Function.forall_update_iff s.calls fun d call =>
      (call.phase = .idle ∨ ∃ b, call.phase = .acquiring b) →
        .admitted d ∉ (s.thread.note (.released c)).log).2 ⟨?_, fun d _ hd => ?_⟩
    · simp
    · simpa [Thread.note] using h.fresh d hd
  joining := by
    intro hjoining
    cases hother _ (h.joining hjoining)
  stopped := h.stopped
  finished := h.finished
  closed := h.closed

theorem admitCall (h : Inv s none) (hok : lock.Ok)
    (hlocked : lock.locked = true) {c : κ} (hc : .admitted c ∉ s.thread.log) :
    ∃ owner, Inv (s.admitCall lock c) owner := by
  unfold State.admitCall
  split
  · exact ⟨none, h.finish hok (by simp) .closed (h.thread.release_refused hc)⟩
  next hclosed =>
    have hstopped : ¬ s.thread.Stopped := fun hs => hclosed (h.stopped hs).1
    rw [if_neg (by rw [h.thread.not_full hstopped]; decide)]
    refine ⟨some (.call c), ?_⟩
    exact {
      lockOk := hok
      locked := hlocked
      thread := h.thread.put hstopped hc
      awaiting := (Function.forall_update_iff s.calls fun d call =>
        ∀ b, call.phase = .awaiting b → some (Party.call c) = some (.call d)).2
          ⟨fun _ _ => rfl, fun d _ b hd => by cases h.awaiting d b hd⟩
      fresh := by
        refine (Function.forall_update_iff s.calls fun d call =>
          (call.phase = .idle ∨ ∃ b, call.phase = .acquiring b) →
            .admitted d ∉ (s.thread.put c).log).2 ⟨?_, fun d hdc hd => ?_⟩
        · simp
        · simpa [Thread.put, hdc] using h.fresh d hd
      joining := by
        intro hjoining
        cases h.joining hjoining
      stopped := fun hs => absurd (Thread.stopped_of_put hs) hstopped
      finished := h.finished
      closed := h.closed }

theorem begin (h : Inv s owner) {c : κ} (hc : .admitted c ∉ s.thread.log)
    (cancelling forbidden : Bool) : ∃ owner, Inv (s.begin c cancelling forbidden) owner := by
  unfold State.begin
  split
  · exact ⟨owner, h.refuse c .closed⟩
  · split
    · exact ⟨owner, h.refuse c .forbidden⟩
    · split
      · exact ⟨owner, h.refuse c .cancelled⟩
      · split
        · exact ⟨owner, h.refuse c .saturated⟩
        · split
          next hfree =>
            obtain rfl := h.owner_eq_none (Lock.locked_of_free hfree)
            exact h.admitCall (h.lockOk.take hfree) rfl hc
          next =>
            have hset := (h.setLock (h.lockOk.enqueue (.call c) false) rfl).setCall c
              { phase := .acquiring s.lock.locked } (by simp) (fun _ => hc)
            exact ⟨owner, { hset with }⟩

theorem settle {c : κ} (h : Inv s (some (.call c))) {receipt : Except ε α}
    (hreceipt : s.thread.future c = some receipt) (cancelled : Bool) :
    Inv (s.settle c receipt cancelled) none := by
  have hfuture : s.thread.future c ≠ none := by simp [hreceipt]
  have hrelease : ∀ outcome, Inv (s.finish s.lock c outcome) none := fun outcome =>
    h.finish h.lockOk (fun p hp => (Option.some.inj hp).symm) outcome (h.thread.release hfuture)
  unfold State.settle
  split
  next r houtcome =>
    have hr : receipt = r := by
      unfold State.outcome at houtcome
      split at houtcome
      · exact Outcome.received.inj houtcome
      · split at houtcome
        · cases houtcome
        · exact Outcome.received.inj houtcome
    subst hr
    have hfinish := hrelease (.received receipt)
    exact { hfinish with
      thread := hfinish.thread.receive hreceipt
      fresh := fun d hd => by simpa [Thread.note] using hfinish.fresh d hd }
  next => exact hrelease _

theorem resume (h : Inv s owner) (c : κ) : ∃ owner, Inv (s.resume c) owner := by
  unfold State.resume
  split
  next waiting hphase =>
    have hc := h.fresh c (.inr ⟨waiting, hphase⟩)
    unfold State.resumeAcquiring
    dsimp only
    split
    · have hset := (h.setLock (h.lockOk.giveUp (.call c)) rfl).refuse c .cancelled
      exact ⟨owner, { hset with }⟩
    · split
      next hwoken =>
        obtain rfl := h.owner_eq_none (h.lockOk.not_locked hwoken)
        have hset : Inv { s with waiters := s.waiters - if waiting then 1 else 0 } none := { h with }
        exact hset.admitCall (h.lockOk.resume hwoken) rfl hc
      next => exact ⟨owner, h⟩
  next cancelled hphase =>
    have howner := h.awaiting c cancelled hphase
    unfold State.resumeAwaiting
    split
    · exact ⟨owner, h.setCall c _ (fun _ _ => howner) (by simp)⟩
    · split
      · exact ⟨owner, h⟩
      next receipt hreceipt =>
        subst howner
        exact ⟨none, h.settle hreceipt cancelled⟩
  next => exact ⟨owner, h⟩

theorem cancel (h : Inv s owner) (c : κ) : Inv (s.cancel c) owner :=
  (h.setLock (h.lockOk.cancel (.call c)) rfl).setCall c _ (h.awaiting c) (h.fresh c)

theorem resumeShutdown (h : Inv s owner) : ∃ owner, Inv s.resumeShutdown owner := by
  unfold State.resumeShutdown
  split
  next hclosing =>
    split
    next hfree =>
      obtain rfl := h.owner_eq_none (Lock.locked_of_free hfree)
      exact ⟨_, h.startJoin (h.lockOk.take hfree) rfl (.inl hclosing)⟩
    next =>
      have hset := h.setLock (h.lockOk.enqueue .shutdown false) rfl
      refine ⟨owner, { hset with
        joining := by simp
        stopped := ?_
        finished := by simp
        closed := fun _ => h.closed (by simp [hclosing]) }⟩
      intro hs
      rcases (h.stopped hs).2 with h' | h' <;> rw [hclosing] at h' <;> cases h'
  next hclosing =>
    split
    next hwoken =>
      obtain rfl := h.owner_eq_none (h.lockOk.not_locked hwoken)
      exact ⟨_, h.startJoin (h.lockOk.resume hwoken) rfl (.inr hclosing)⟩
    next => exact ⟨owner, h⟩
  next hclosing =>
    obtain rfl := h.joining hclosing
    split
    next hexited =>
      exact ⟨none, { h with
        lockOk := h.lockOk.release
        locked := rfl
        awaiting := fun d b hd => by cases h.awaiting d b hd
        joining := by simp
        stopped := fun _ => ⟨h.closed (by simp [hclosing]), .inr rfl⟩
        finished := fun _ => hexited
        closed := fun _ => h.closed (by simp [hclosing]) }⟩
    next => exact ⟨_, h⟩
  next => exact ⟨owner, h⟩

variable [DecidableEq θ]

theorem step (h : Inv s owner) (a : Action κ α ε θ) : ∃ owner, Inv (s.step a) owner := by
  cases a with
  | enter c cancelling forbidden =>
    unfold State.step State.enter
    dsimp only
    split
    next hphase => exact h.begin (h.fresh c (.inl hphase)) cancelling forbidden
    next => exact ⟨owner, h⟩
  | cancel c => exact ⟨owner, h.cancel c⟩
  | resume c => exact h.resume c
  | work r =>
    refine ⟨owner, { h with
      thread := h.thread.work r
      fresh := ?_
      stopped := fun hs => h.stopped (Thread.stopped_of_work hs)
      finished := fun hclosing => ?_ }⟩
    · intro d hd hmem
      exact h.fresh d hd (Thread.admitted_of_work hmem)
    · exact Thread.exited_work (h.finished hclosing)
  | aclose t => exact ⟨owner, h.aclose t⟩
  | cancelClose t => exact ⟨owner, { h with }⟩
  | resumeClose t => exact ⟨owner, h.resumeClose t⟩
  | resumeShutdown => exact h.resumeShutdown

end Inv

end Invariant

section Exclusion

def Action.isWork : Action κ α ε θ → Bool
  | .work _ => true
  | _ => false

namespace State

/-- What the closers do: the calls and the counter are as they were, and the thread is kept. -/
structure Untouched (s s' : State κ α ε θ) : Prop where
  thread : s.thread.Kept s'.thread
  calls : s'.calls = s.calls
  waiters : s'.waiters = s.waiters

variable (s : State κ α ε θ)

section Closers

variable [DecidableEq θ] (t : θ)

theorem untouched_aclose : s.Untouched (s.aclose t) := by
  unfold aclose
  split <;> exact ⟨.refl _, rfl, rfl⟩

theorem untouched_resumeClose : s.Untouched (s.resumeClose t) := by
  unfold resumeClose
  repeat' split
  all_goals first
    | exact ⟨.refl _, rfl, rfl⟩
    | exact ⟨s.thread.kept_note .closed, rfl, rfl⟩

end Closers

variable [DecidableEq κ]

theorem untouched_resumeShutdown : s.Untouched s.resumeShutdown := by
  unfold resumeShutdown startJoin
  repeat' split
  all_goals first
    | exact ⟨.refl _, rfl, rfl⟩
    | exact ⟨s.thread.kept_putStop, rfl, rfl⟩

theorem kept_finish (lock : Lock (Party κ)) (c : κ) (outcome : Outcome (Except ε α)) :
    s.thread.Kept (s.finish lock c outcome).thread := s.thread.kept_note _

theorem kept_admitCall (lock : Lock (Party κ)) (c : κ) : s.thread.Kept (s.admitCall lock c).thread := by
  unfold admitCall
  split
  · exact s.kept_finish lock c .closed
  · split
    · exact (s.thread.kept_note (.full c)).trans (Thread.kept_note _ (.released c))
    · exact s.thread.kept_put c

theorem kept_enter (c : κ) (cancelling forbidden : Bool) :
    s.thread.Kept (s.enter c cancelling forbidden).thread := by
  unfold enter
  split
  · unfold begin
    repeat' split
    all_goals first
      | exact .refl _
      | exact s.kept_admitCall _ c
  · exact .refl _

theorem kept_resume (c : κ) : s.thread.Kept (s.resume c).thread := by
  unfold resume
  split
  next waiting _ =>
    unfold resumeAcquiring
    dsimp only
    split
    · exact .refl _
    · split
      · exact kept_admitCall { s with waiters := s.waiters - if waiting then 1 else 0 } _ c
      · exact .refl _
  next =>
    unfold resumeAwaiting
    split
    · exact .refl _
    · split
      · exact .refl _
      · unfold settle
        split
        · exact (s.kept_finish s.lock c _).trans (Thread.kept_note _ _)
        · exact s.kept_finish s.lock c _
  next => exact .refl _

variable [DecidableEq θ]

theorem kept_step (a : Action κ α ε θ) (ha : a.isWork = false) :
    s.thread.Kept (s.step a).thread := by
  cases a with
  | enter c cancelling forbidden => exact s.kept_enter c cancelling forbidden
  | cancel c => exact .refl _
  | resume c => exact s.kept_resume c
  | work r => cases ha
  | aclose t => exact (s.untouched_aclose t).thread
  | cancelClose t => exact .refl _
  | resumeClose t => exact (s.untouched_resumeClose t).thread
  | resumeShutdown => exact s.untouched_resumeShutdown.thread

end State

theorem excludes [DecidableEq κ] [DecidableEq θ] :
    Excludes (State.step : State κ α ε θ → Action κ α ε θ → State κ α ε θ) (·.thread)
      (·.lock.locked) Action.isWork {} := by
  refine Excludes.of_invariant (I := fun s => ∃ owner, Inv s owner) ⟨none, inv_start⟩ ?_ ?_ ?_ ?_
  · rintro s ⟨owner, h⟩
    refine ⟨holder owner, h.thread, fun hholder => ?_⟩
    rw [h.locked]
    cases owner with
    | none => exact absurd rfl hholder
    | some p => rfl
  · rintro s a ⟨owner, h⟩
    exact h.step a
  · intro s a ha
    cases a with
    | work r => exact ⟨r, rfl⟩
    | _ => cases ha
  · exact fun s a ha => s.kept_step a ha

-- A cancelled caller holds the admission until its operation is finished; a second caller waits.
example :
    (Transition.run (fun (s : State ℕ ℕ Unit ℕ) a => s.step a) {}
      [.enter 0 false false, .enter 1 false false, .cancel 0, .resume 0, .work (.ok 7),
        .work (.ok 7), .resume 0, .resume 1]).thread.log =
      [.admitted 1, .released 0, .finished 0 (.ok 7), .started 0, .admitted 0] := by
  decide

end Exclusion

end CandleCraft.Runtime.LifecycleWorker
