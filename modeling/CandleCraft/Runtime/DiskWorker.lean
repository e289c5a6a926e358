import CandleCraft.Runtime.LifecycleWorker

/-!
# `SerializedDiskWorker`

A call takes the admission lock, queues its operation and waits for its future. A cancelled caller
leaves a fence behind and goes without releasing the admission; the thread schedules `release_once`
after each operation, and the token of a call lets the first of caller and callback release.
`settle` waits for the last fence and for the admission; `aclose` settles, puts the sentinel and
joins the thread.

Metrics are left out, and so is the end of the event loop, where `release_once` runs in the thread.
-/

namespace CandleCraft.Runtime.DiskWorker

open AsyncLock

variable {κ α ε θ : Type*}

/-- Who takes the admission lock. -/
inductive Party (κ θ : Type*) where
  | call (call : κ)
  | settler (task : θ)
  deriving DecidableEq

/-- How a call ends. -/
inductive Outcome (ρ : Type*) where
  /-- `DiskWorkerClosed`. -/
  | closed
  /-- `DiskWorkerSaturated`. -/
  | saturated
  /-- The `RuntimeError` for an open connection. -/
  | refused
  | cancelled
  /-- `queue.Full`. -/
  | full
  | received (result : ρ)
  deriving DecidableEq

inductive Phase (ρ : Type*) where
  | idle
  | acquiring (waiting : Bool)
  | awaiting
  | done (outcome : Outcome ρ)
  deriving DecidableEq

/-- A call, and whether a cancellation of its task is pending. -/
structure Call (ρ : Type*) where
  phase : Phase ρ := .idle
  cancelRequested : Bool := false

inductive SettlerPhase (κ : Type*) where
  | idle
  | fencing (call : κ)
  | acquiring
  | joining
  | returned
  /-- It was cancelled, or raised. -/
  | raised
  deriving DecidableEq

/-- A call of `settle` or `aclose`. -/
structure Settler (κ : Type*) where
  phase : SettlerPhase κ := .idle
  cancelRequested : Bool := false

structure State (κ α ε θ : Type*) where
  lock : Lock (Party κ θ) := {}
  waiters : ℕ := 0
  closed : Bool := false
  /-- The task whose `aclose` was the first. -/
  closer : Option θ := none
  thread : Thread κ (Except ε α) := {}
  calls : κ → Call (Except ε α) := fun _ => {}
  /-- The tokens of `release_once`. -/
  released : κ → Bool := fun _ => false
  /-- The callbacks of the event loop that run `release_once`. -/
  callbacks : List κ := []
  /-- The call that the last fence is for. -/
  fence : Option κ := none
  fenceDone : κ → Bool := fun _ => false
  settlers : θ → Settler κ := fun _ => {}

inductive Action (κ α ε θ : Type*) where
  /-- `call()` begins; `refused` says whether an argument is an open connection. -/
  | enter (call : κ) (refused : Bool)
  | cancel (call : κ)
  | resume (call : κ)
  /-- The thread makes a step; `result` is what the operation that runs returns or raises. -/
  | work (result : Except ε α)
  /-- A callback of the event loop runs. -/
  | callback (call : κ)
  /-- The fence of a call runs. -/
  | resumeFence (call : κ)
  | settle (task : θ)
  | aclose (task : θ)
  | cancelSettle (task : θ)
  | resumeSettle (task : θ)

section Steps

variable [DecidableEq κ] [DecidableEq θ]

namespace State

variable (s : State κ α ε θ)

def finish (c : κ) (outcome : Outcome (Except ε α)) : State κ α ε θ :=
  { s with calls := Function.update s.calls c { phase := .done outcome } }

def releaseOnce (c : κ) : State κ α ε θ :=
  if s.released c then s
  else if s.lock.locked then
    { s with
      released := Function.update s.released c true
      lock := s.lock.release
      thread := s.thread.note (.released c) }
  else { s with released := Function.update s.released c true }

/-- What a call does with the admission: `lock` is the lock that it has taken. -/
def admitCall (lock : Lock (Party κ θ)) (c : κ) : State κ α ε θ :=
  if s.closed then (releaseOnce { s with lock := lock } c).finish c .closed
  else if s.thread.isFull then
    (releaseOnce { s with lock := lock, thread := s.thread.note (.full c) } c).finish c .full
  else
    { s with
      lock := lock
      thread := s.thread.put c
      calls := Function.update s.calls c { s.calls c with phase := .awaiting } }

/-- `call()`, up to its first suspension. -/
def begin (c : κ) (refused : Bool) : State κ α ε θ :=
  if s.closed then s.finish c .closed
  else if refused then s.finish c .refused
  else if s.lock.locked && decide (1 ≤ s.waiters) then s.finish c .saturated
  else if s.lock.free then s.admitCall s.lock.take c
  else
    { s with
      lock := s.lock.enqueue (.call c) (s.calls c).cancelRequested
      waiters := s.waiters + if s.lock.locked then 1 else 0
      calls := Function.update s.calls c { s.calls c with phase := .acquiring s.lock.locked } }

def enter (c : κ) (refused : Bool) : State κ α ε θ :=
  match (s.calls c).phase with
  | .idle => s.begin c refused
  | _ => s

def resumeAcquiring (c : κ) (waiting : Bool) : State κ α ε θ :=
  let s' := { s with waiters := s.waiters - if waiting then 1 else 0 }
  if (s.calls c).cancelRequested then
    { s'.finish c .cancelled with lock := s.lock.giveUp (.call c) }
  else if s.lock.isWoken (.call c) then s'.admitCall (s.lock.resume (.call c)) c
  else s

/-- The result of a call is there. -/
def receive (c : κ) (r : Except ε α) : State κ α ε θ :=
  { s.finish c (.received r) with thread := s.thread.note (.received c r) }

/-- The error of an operation that the event loop turns into a cancellation. -/
def isCancellation (converts : ε → Bool) : Except ε α → Bool
  | .error e => converts e
  | .ok _ => false

/-- The wait for the future ends. A cancelled caller leaves a fence behind, and so does one whose
operation raised what looks like a cancellation. -/
def resumeAwaiting (converts : ε → Bool) (c : κ) : State κ α ε θ :=
  if (s.calls c).cancelRequested then
    { s.finish c .cancelled with
      fence := some c
      fenceDone := Function.update s.fenceDone c false }
  else
    match s.thread.future c with
    | none => s
    | some r =>
      if isCancellation converts r then
        { s.receive c r with
          fence := some c
          fenceDone := Function.update s.fenceDone c false }
      else (s.releaseOnce c).receive c r

/-- `call()`, from one suspension to the next. -/
def resume (converts : ε → Bool) (c : κ) : State κ α ε θ :=
  match (s.calls c).phase with
  | .acquiring waiting => s.resumeAcquiring c waiting
  | .awaiting => s.resumeAwaiting converts c
  | _ => s

/-- `task.cancel()` of the task of a call. -/
def cancel (c : κ) : State κ α ε θ :=
  { s with
    lock := s.lock.cancel (.call c)
    calls := Function.update s.calls c { s.calls c with cancelRequested := true } }

/-- A step of the thread. On its way back to the queue it schedules `release_once`. -/
def work (r : Except ε α) : State κ α ε θ :=
  { s with
    thread := s.thread.work r
    callbacks := match s.thread.position with
      | .returning c => s.callbacks ++ [c]
      | _ => s.callbacks }

def callback (c : κ) : State κ α ε θ :=
  if c ∈ s.callbacks then releaseOnce { s with callbacks := s.callbacks.erase c } c else s

/-- `_finish_fenced`. -/
def resumeFence (c : κ) : State κ α ε θ :=
  if (s.thread.future c).isSome then
    { s with fenceDone := Function.update s.fenceDone c true }
  else s

/-- A call of `settle` or `aclose` goes on. -/
def setSettler (t : θ) (phase : SettlerPhase κ) : State κ α ε θ :=
  { s with settlers := Function.update s.settlers t { s.settlers t with phase := phase } }

/-- What comes after the settlement: the first `aclose` puts the sentinel. -/
def settled (t : θ) : State κ α ε θ :=
  if s.closer = some t then
    if s.thread.isFull then s.setSettler t .raised
    else setSettler { s with thread := s.thread.putStop } t .joining
  else s.setSettler t .returned

/-- `await lock.acquire(); lock.release()`. -/
def settleLock (t : θ) : State κ α ε θ :=
  if s.lock.free then settled { s with lock := s.lock.take.release } t
  else
    setSettler { s with lock := s.lock.enqueue (.settler t) (s.settlers t).cancelRequested } t
      .acquiring

/-- `settle()`, up to its first suspension. -/
def beginSettle (t : θ) : State κ α ε θ :=
  match s.fence with
  | some c => if s.fenceDone c then s.settleLock t else s.setSettler t (.fencing c)
  | none => s.settleLock t

def settle (t : θ) : State κ α ε θ :=
  match (s.settlers t).phase with
  | .idle => s.beginSettle t
  | _ => s

/-- `aclose()`, up to its first suspension. Pending cancellations of its task are cleared. -/
def aclose (t : θ) : State κ α ε θ :=
  match (s.settlers t).phase with
  | .idle =>
    if s.closed then s.setSettler t .returned
    else
      beginSettle
        { s with
          closed := true
          closer := some t
          settlers := Function.update s.settlers t { phase := .acquiring } } t
  | _ => s

/-- `settle()` and `aclose()`, from one suspension to the next. -/
def resumeSettle (converts : ε → Bool) (t : θ) : State κ α ε θ :=
  match (s.settlers t).phase with
  | .fencing c =>
    if (s.settlers t).cancelRequested then s.setSettler t .raised
    else if s.fenceDone c then
      if (s.thread.future c).any (isCancellation converts) then s.setSettler t .raised
      else s.settleLock t
    else s
  | .acquiring =>
    if (s.settlers t).cancelRequested then
      setSettler { s with lock := s.lock.giveUp (.settler t) } t .raised
    else if s.lock.isWoken (.settler t) then
      settled { s with lock := (s.lock.resume (.settler t)).release } t
    else s
  | .joining =>
    if (s.settlers t).cancelRequested then s.setSettler t .raised
    else if s.thread.position = .exited then
      setSettler { s with thread := s.thread.note .closed } t .returned
    else s
  | _ => s

def step (converts : ε → Bool) : Action κ α ε θ → State κ α ε θ
  | .enter c refused => s.enter c refused
  | .cancel c => s.cancel c
  | .resume c => s.resume converts c
  | .work r => s.work r
  | .callback c => s.callback c
  | .resumeFence c => s.resumeFence c
  | .settle t => s.settle t
  | .aclose t => s.aclose t
  | .cancelSettle t =>
    { s with
      lock := s.lock.cancel (.settler t)
      settlers := Function.update s.settlers t { s.settlers t with cancelRequested := true } }
  | .resumeSettle t => s.resumeSettle converts t

end State

end Steps

theorem State.future_releaseOnce [DecidableEq κ] (s : State κ α ε θ) (c : κ) :
    (s.releaseOnce c).thread.future = s.thread.future := by
  unfold State.releaseOnce
  split
  · rfl
  · split <;> rfl

section Invariant

/-- A call of `settle` or `aclose` that has not settled yet. -/
def SettlerPhase.Unsettled (phase : SettlerPhase κ) : Prop :=
  phase = .idle ∨ (∃ c, phase = .fencing c) ∨ phase = .acquiring

/-- What holds of the worker while a call holds the admission, or none. -/
structure Inv (s : State κ α ε θ) (holder : Option κ) : Prop where
  lockOk : s.lock.Ok
  locked : s.lock.locked = holder.isSome
  thread : s.thread.Inv holder
  /-- Only the holder has a token that it can still use. -/
  token : ∀ c, .admitted c ∈ s.thread.log → s.released c = false → holder = some c
  unreleased : ∀ c, holder = some c → s.released c = false
  callbacks : ∀ c ∈ s.callbacks, .admitted c ∈ s.thread.log ∧ s.thread.future c ≠ none
  awaiting : ∀ c, (s.calls c).phase = .awaiting → .admitted c ∈ s.thread.log
  fresh : ∀ c, ((s.calls c).phase = .idle ∨ ∃ b, (s.calls c).phase = .acquiring b) →
    .admitted c ∉ s.thread.log ∧ s.released c = false
  stopped : s.thread.Stopped → s.closed = true ∧
    ∀ t, s.closer = some t → ¬ (s.settlers t).phase.Unsettled
  closer : ∀ t, s.closer = some t → (s.settlers t).phase ≠ .idle
  closed : ∀ t, s.closer = some t → s.closed = true

theorem inv_start : Inv ({} : State κ α ε θ) none where
  lockOk := ⟨⟨by simp⟩, by simp⟩
  locked := rfl
  thread := Thread.inv_start
  token := by simp
  unreleased := by simp
  callbacks := by simp
  awaiting := by simp
  fresh := by simp
  stopped := by simp [Thread.Stopped]
  closer := by simp
  closed := by simp

namespace Inv

variable {s : State κ α ε θ} {holder : Option κ}

theorem holder_eq_none (h : Inv s holder) (hlocked : s.lock.locked = false) : holder = none := by
  rw [h.locked] at hlocked
  cases holder with
  | none => rfl
  | some p => cases hlocked

theorem setLock (h : Inv s holder) {lock : Lock (Party κ θ)} (hok : lock.Ok)
    (hlocked : lock.locked = s.lock.locked) : Inv { s with lock := lock } holder :=
  { h with
    lockOk := hok
    locked := hlocked.trans h.locked }

theorem note (h : Inv s holder) {e : Event κ (Except ε α)} (hthread : (s.thread.note e).Inv holder)
    (he : ∀ c, e ≠ .admitted c) : Inv { s with thread := s.thread.note e } holder := by
  have hmem : ∀ c, .admitted c ∈ (s.thread.note e).log ↔ .admitted c ∈ s.thread.log := by
    intro c
    exact ⟨fun hc => (List.mem_cons.1 hc).resolve_left fun heq => he c heq.symm,
      List.mem_cons_of_mem e⟩
  exact { h with
    thread := hthread
    token := fun c hc => h.token c ((hmem c).1 hc)
    callbacks := fun c hc => ⟨(hmem c).2 (h.callbacks c hc).1, (h.callbacks c hc).2⟩
    awaiting := fun c hc => (hmem c).2 (h.awaiting c hc)
    fresh := fun c hc => ⟨fun hmem' => (h.fresh c hc).1 ((hmem c).1 hmem'), (h.fresh c hc).2⟩ }

theorem not_stopped (h : Inv s holder) {t : θ} (hcloser : s.closer = some t)
    (hphase : (s.settlers t).phase.Unsettled) : ¬ s.thread.Stopped :=
  fun hs => (h.stopped hs).2 t hcloser hphase

section Calls

variable [DecidableEq κ]
variable {c : κ}

theorem setCall (h : Inv s holder) (c : κ) (call : Call (Except ε α))
    (hawaiting : call.phase = .awaiting → .admitted c ∈ s.thread.log)
    (hfresh : (call.phase = .idle ∨ ∃ b, call.phase = .acquiring b) →
      .admitted c ∉ s.thread.log ∧ s.released c = false) :
    Inv { s with calls := Function.update s.calls c call } holder :=
  { h with
    awaiting := (Function.forall_update_iff s.calls fun d call =>
      call.phase = .awaiting → .admitted d ∈ s.thread.log).2 ⟨hawaiting, fun d _ => h.awaiting d⟩
    fresh := (Function.forall_update_iff s.calls fun d call =>
      (call.phase = .idle ∨ ∃ b, call.phase = .acquiring b) →
        .admitted d ∉ s.thread.log ∧ s.released d = false).2 ⟨hfresh, fun d _ => h.fresh d⟩ }

theorem finish (h : Inv s holder) (c : κ) (outcome : Outcome (Except ε α)) :
    Inv (s.finish c outcome) holder :=
  h.setCall c _ (by simp) (by simp)

theorem releaseOnce (h : Inv s holder) (hc : .admitted c ∈ s.thread.log)
    (hfuture : s.thread.future c ≠ none) : ∃ holder, Inv (s.releaseOnce c) holder := by
  unfold State.releaseOnce
  split
  · exact ⟨holder, h⟩
  next hreleased =>
    obtain rfl := h.token c hc (Bool.eq_false_iff.2 hreleased)
    rw [if_pos (by rw [h.locked]; rfl)]
    have hnote : Inv { s with thread := s.thread.note (.released c) } (some c) := by
      obtain ⟨r, hr⟩ := Option.ne_none_iff_exists'.1 hfuture
      exact h.note (h.thread.note (e := .released c) (fun _ => ⟨r, (h.thread.future_iff c r).1 hr⟩)
        (by simp) (by simp) (by simp) (by simp)) (by simp)
    refine ⟨none, { hnote with
      lockOk := h.lockOk.release
      locked := rfl
      thread := h.thread.release hfuture
      token := ?_
      unreleased := by simp
      fresh := ?_ }⟩
    · refine (Function.forall_update_iff s.released fun d released =>
        .admitted d ∈ (s.thread.note (.released c)).log → released = false → none = some d).2
        ⟨?_, fun d hdc hd hfalse => ?_⟩
      · simp
      · exact absurd (Option.some.inj (hnote.token d hd hfalse)).symm hdc
    · intro d hd
      have hdc : d ≠ c := by
        rintro rfl
        exact (h.fresh d hd).1 hc
      dsimp only
      rw [Function.update_of_ne hdc]
      exact hnote.fresh d hd

theorem releaseClosed (h : Inv s none) {lock : Lock (Party κ θ)} (hok : lock.Ok)
    (hlocked : lock.locked = true) (hc : .admitted c ∉ s.thread.log)
    (hreleased : s.released c = false) (outcome : Outcome (Except ε α)) :
    Inv ((State.releaseOnce { s with lock := lock } c).finish c outcome) none := by
  unfold State.releaseOnce
  rw [if_neg (by simp [hreleased]), if_pos hlocked]
  have hnote := (h.note (h.thread.release_refused hc) (by simp)).finish c outcome
  refine { hnote with
    lockOk := hok.release
    locked := rfl
    token := ?_
    unreleased := by simp
    fresh := ?_ }
  · intro d hd hfalse
    by_cases hdc : d = c
    · rw [hdc] at hd
      rcases List.mem_cons.1 hd with heq | hd
      · cases heq
      · exact absurd hd hc
    · exact hnote.token d hd (by
        simpa [State.finish, Function.update_of_ne hdc] using hfalse)
  · intro d hd
    have hdc : d ≠ c := by
      rintro rfl
      simp [State.finish] at hd
    have hfresh := hnote.fresh d hd
    refine ⟨hfresh.1, ?_⟩
    simpa [State.finish, Function.update_of_ne hdc] using hfresh.2

theorem admitCall (h : Inv s none) {lock : Lock (Party κ θ)} (hok : lock.Ok)
    (hlocked : lock.locked = true)
    (hc : .admitted c ∉ s.thread.log ∧ s.released c = false) :
    ∃ holder, Inv (s.admitCall lock c) holder := by
  unfold State.admitCall
  split
  · exact ⟨none, h.releaseClosed hok hlocked hc.1 hc.2 .closed⟩
  next hclosed =>
    have hstopped : ¬ s.thread.Stopped := fun hs => hclosed (h.stopped hs).1
    rw [if_neg (by rw [h.thread.not_full hstopped]; decide)]
    have hmem : ∀ d, .admitted d ∈ (s.thread.put c).log → d = c ∨ .admitted d ∈ s.thread.log :=
      fun d hd => (List.mem_cons.1 hd).imp_left Event.admitted.inj
    refine ⟨some c, ?_⟩
    exact {
      lockOk := hok
      locked := hlocked
      thread := h.thread.put hstopped hc.1
      token := by
        intro d hd hfalse
        rcases hmem d hd with rfl | hd
        · rfl
        · cases h.token d hd hfalse
      unreleased := by
        intro d hd
        obtain rfl := Option.some.inj hd
        exact hc.2
      callbacks := fun d hd =>
        ⟨List.mem_cons_of_mem _ (h.callbacks d hd).1, (h.callbacks d hd).2⟩
      awaiting := (Function.forall_update_iff s.calls fun d call =>
        call.phase = .awaiting → .admitted d ∈ (s.thread.put c).log).2
          ⟨fun _ => List.mem_cons_self, fun d _ hd => List.mem_cons_of_mem _ (h.awaiting d hd)⟩
      fresh := by
        refine (Function.forall_update_iff s.calls fun d call =>
          (call.phase = .idle ∨ ∃ b, call.phase = .acquiring b) →
            .admitted d ∉ (s.thread.put c).log ∧ s.released d = false).2
          ⟨?_, fun d hdc hd => ⟨fun hmem' => ?_, (h.fresh d hd).2⟩⟩
        · simp
        · exact (hmem d hmem').elim hdc (h.fresh d hd).1
      stopped := fun hs => absurd (Thread.stopped_of_put hs) hstopped
      closer := h.closer
      closed := h.closed }

theorem begin (h : Inv s holder) (hc : .admitted c ∉ s.thread.log ∧ s.released c = false)
    (refused : Bool) : ∃ holder, Inv (s.begin c refused) holder := by
  unfold State.begin
  split
  · exact ⟨holder, h.finish c .closed⟩
  · split
    · exact ⟨holder, h.finish c .refused⟩
    · split
      · exact ⟨holder, h.finish c .saturated⟩
      · split
        next hfree =>
          obtain rfl := h.holder_eq_none (Lock.locked_of_free hfree)
          exact h.admitCall (h.lockOk.take hfree) rfl hc
        next =>
          have hset := (h.setLock (h.lockOk.enqueue (.call c) (s.calls c).cancelRequested) rfl).setCall
            c { s.calls c with phase := .acquiring s.lock.locked } (by simp) (fun _ => hc)
          exact ⟨holder, { hset with }⟩

theorem receive (h : Inv s holder) {r : Except ε α} (hr : s.thread.future c = some r) :
    Inv (s.receive c r) holder :=
  (h.note (h.thread.receive hr) (by simp)).finish c (.received r)

theorem work (h : Inv s holder) (r : Except ε α) : Inv (s.work r) holder := by
  have hkeep : ∀ c, .admitted c ∈ s.thread.log ∧ s.thread.future c ≠ none →
      .admitted c ∈ (s.thread.work r).log ∧ (s.thread.work r).future c ≠ none :=
    fun c hc => ⟨Thread.mem_log_work hc.1, Thread.future_work hc.2⟩
  exact { h with
    thread := h.thread.work r
    token := fun c hc => h.token c (Thread.admitted_of_work hc)
    callbacks := by
      intro c hc
      dsimp only [State.work] at hc
      split at hc
      next d hposition =>
        rcases List.mem_append.1 hc with hc | hc
        · exact hkeep c (h.callbacks c hc)
        · obtain rfl := List.mem_singleton.1 hc
          have hfuture := h.thread.returning c hposition
          obtain ⟨r', hr'⟩ := Option.ne_none_iff_exists'.1 hfuture
          exact hkeep c ⟨h.thread.admitted_of_started c
            (h.thread.exclusive.started_of_finished ((h.thread.future_iff c r').1 hr')), hfuture⟩
      next => exact hkeep c (h.callbacks c hc)
    awaiting := fun c hc => Thread.mem_log_work (h.awaiting c hc)
    fresh := fun c hc =>
      ⟨fun hmem => (h.fresh c hc).1 (Thread.admitted_of_work hmem), (h.fresh c hc).2⟩
    stopped := fun hs => h.stopped (Thread.stopped_of_work hs) }

theorem callback (h : Inv s holder) (c : κ) : ∃ holder, Inv (s.callback c) holder := by
  unfold State.callback
  split
  next hc =>
    obtain ⟨hadmitted, hfuture⟩ := h.callbacks c hc
    have hset : Inv { s with callbacks := s.callbacks.erase c } holder :=
      { h with callbacks := fun d hd => h.callbacks d (List.mem_of_mem_erase hd) }
    exact hset.releaseOnce hadmitted hfuture
  next => exact ⟨holder, h⟩

variable [DecidableEq θ]

theorem resume (converts : ε → Bool) (h : Inv s holder) (c : κ) :
    ∃ holder, Inv (s.resume converts c) holder := by
  unfold State.resume
  split
  next waiting hphase =>
    have hc := h.fresh c (.inr ⟨waiting, hphase⟩)
    unfold State.resumeAcquiring
    dsimp only
    split
    · have hset := (h.setLock (h.lockOk.giveUp (.call c)) rfl).finish c .cancelled
      exact ⟨holder, { hset with }⟩
    · split
      next hwoken =>
        obtain rfl := h.holder_eq_none (h.lockOk.not_locked hwoken)
        have hset : Inv { s with waiters := s.waiters - if waiting then 1 else 0 } none := { h with }
        exact hset.admitCall (h.lockOk.resume hwoken) rfl hc
      next => exact ⟨holder, h⟩
  next hphase =>
    unfold State.resumeAwaiting
    split
    · exact ⟨holder, { h.finish c .cancelled with }⟩
    · split
      · exact ⟨holder, h⟩
      next r hr =>
        split
        · exact ⟨holder, { h.receive hr with }⟩
        · obtain ⟨holder', h'⟩ := h.releaseOnce (h.awaiting c hphase) (by simp [hr])
          refine ⟨holder', h'.receive ?_⟩
          rw [← hr, s.future_releaseOnce c]
  next => exact ⟨holder, h⟩

theorem cancel (h : Inv s holder) (c : κ) : Inv (s.cancel c) holder :=
  (h.setLock (h.lockOk.cancel (.call c)) rfl).setCall c _ (h.awaiting c) (h.fresh c)

end Calls

section Settlers

variable [DecidableEq θ]

theorem updateSettler (h : Inv s holder) (t : θ) (settler : Settler κ)
    (hphase : s.closer = some t → settler.phase ≠ .idle)
    (hstopped : s.thread.Stopped → s.closer = some t → ¬ settler.phase.Unsettled) :
    Inv { s with settlers := Function.update s.settlers t settler } holder :=
  { h with
    stopped := fun hs => ⟨(h.stopped hs).1, (Function.forall_update_iff s.settlers fun u settler =>
      s.closer = some u → ¬ settler.phase.Unsettled).2
        ⟨hstopped hs, fun u _ => (h.stopped hs).2 u⟩⟩
    closer := (Function.forall_update_iff s.settlers fun u settler =>
      s.closer = some u → settler.phase ≠ .idle).2 ⟨hphase, fun u _ => h.closer u⟩ }

/-- A call of `settle` or `aclose` goes on; when it was the first `aclose` and the sentinel is put,
it has settled. -/
theorem setSettler (h : Inv s holder) (t : θ) {phase : SettlerPhase κ} (hphase : phase ≠ .idle)
    (hstopped : s.thread.Stopped → s.closer = some t → ¬ phase.Unsettled) :
    Inv (s.setSettler t phase) holder :=
  h.updateSettler t _ (fun _ => hphase) hstopped

theorem settled (h : Inv s none) {t : θ} (hphase : s.closer = some t → ¬ s.thread.Stopped)
    (hclosed : s.closer = some t → s.closed = true) : Inv (s.settled t) none := by
  unfold State.settled
  split
  next hcloser =>
    have hstopped := hphase hcloser
    rw [if_neg (by rw [h.thread.not_full hstopped]; decide)]
    exact { h with
      thread := h.thread.putStop hstopped
      stopped := fun _ =>
        ⟨hclosed hcloser, by simp [State.setSettler, hcloser, SettlerPhase.Unsettled]⟩
      closer := by simp [State.setSettler, hcloser] }
  next hcloser =>
    exact h.setSettler t (by simp) fun _ hc => absurd hc hcloser

theorem settleLock (h : Inv s holder) {t : θ} (hphase : s.closer = some t → ¬ s.thread.Stopped)
    (hclosed : s.closer = some t → s.closed = true) : ∃ holder, Inv (s.settleLock t) holder := by
  unfold State.settleLock
  split
  next hfree =>
    obtain rfl := h.holder_eq_none (Lock.locked_of_free hfree)
    have hset := h.setLock ((h.lockOk.take hfree).release)
      (by rw [Lock.locked_release, Lock.locked_of_free hfree])
    exact ⟨none, hset.settled hphase hclosed⟩
  next =>
    have hset := h.setLock (h.lockOk.enqueue (.settler t) (s.settlers t).cancelRequested) rfl
    exact ⟨holder, hset.setSettler t (by simp) fun hs hc => absurd hs (hphase hc)⟩

theorem beginSettle (h : Inv s holder) {t : θ} (hphase : s.closer = some t → ¬ s.thread.Stopped)
    (hclosed : s.closer = some t → s.closed = true) : ∃ holder, Inv (s.beginSettle t) holder := by
  unfold State.beginSettle
  split
  next c _ =>
    split
    · exact h.settleLock hphase hclosed
    · exact ⟨holder, h.setSettler t (by simp) fun hs hc => absurd hs (hphase hc)⟩
  next => exact h.settleLock hphase hclosed

theorem settle (h : Inv s holder) (t : θ) : ∃ holder, Inv (s.settle t) holder := by
  unfold State.settle
  split
  next hphase =>
    -- A task that has not begun is not the one that closes.
    have hcloser : s.closer ≠ some t := fun hc => h.closer t hc hphase
    exact h.beginSettle (fun hc => absurd hc hcloser) fun hc => absurd hc hcloser
  next => exact ⟨holder, h⟩

theorem aclose (h : Inv s holder) (t : θ) : ∃ holder, Inv (s.aclose t) holder := by
  unfold State.aclose
  split
  next hphase =>
    have hcloser : s.closer ≠ some t := fun hc => h.closer t hc hphase
    split
    · exact ⟨holder, h.setSettler t (by simp) fun _ hc => absurd hc hcloser⟩
    next hclosed =>
      have hstopped : ¬ s.thread.Stopped := fun hs => hclosed (h.stopped hs).1
      have hset : Inv { s with
          closed := true
          closer := some t
          settlers := Function.update s.settlers t { phase := .acquiring } } holder :=
        { h with
          stopped := fun hs => absurd hs hstopped
          closer := by simp
          closed := fun _ _ => rfl }
      exact hset.beginSettle (fun _ => hstopped) fun _ => rfl
  next => exact ⟨holder, h⟩

variable [DecidableEq κ]

theorem resumeSettle (converts : ε → Bool) (h : Inv s holder) (t : θ) :
    ∃ holder, Inv (s.resumeSettle converts t) holder := by
  unfold State.resumeSettle
  split
  next c hphase =>
    have hunsettled : (s.settlers t).phase.Unsettled := .inr (.inl ⟨c, hphase⟩)
    have hraised : Inv (s.setSettler t .raised) holder := h.setSettler t (by simp) fun hs hc =>
      absurd hs (h.not_stopped hc hunsettled)
    split
    · exact ⟨holder, hraised⟩
    · split
      · split
        · exact ⟨holder, hraised⟩
        · exact h.settleLock (fun hc => h.not_stopped hc hunsettled) (h.closed t)
      · exact ⟨holder, h⟩
  next hphase =>
    have hunsettled : (s.settlers t).phase.Unsettled := .inr (.inr hphase)
    split
    · have hset := h.setLock (h.lockOk.giveUp (.settler t)) rfl
      exact ⟨holder, hset.setSettler t (by simp) fun hs hc => absurd hs (h.not_stopped hc hunsettled)⟩
    · split
      next hwoken =>
        have hunlocked := h.lockOk.not_locked hwoken
        obtain rfl := h.holder_eq_none hunlocked
        have hset := h.setLock ((h.lockOk.resume hwoken).release)
          (by rw [Lock.locked_release, hunlocked])
        exact ⟨none, hset.settled (fun hc => h.not_stopped hc hunsettled) (h.closed t)⟩
      next => exact ⟨holder, h⟩
  next hphase =>
    split
    · exact ⟨holder, h.setSettler t (by simp) (by simp [SettlerPhase.Unsettled])⟩
    · split
      next hexited =>
        have hset := h.note (h.thread.close hexited) (by simp)
        exact ⟨holder, hset.setSettler t (by simp) (by simp [SettlerPhase.Unsettled])⟩
      next => exact ⟨holder, h⟩
  next => exact ⟨holder, h⟩

theorem step (converts : ε → Bool) (h : Inv s holder) (a : Action κ α ε θ) :
    ∃ holder, Inv (s.step converts a) holder := by
  cases a with
  | enter c refused =>
    unfold State.step State.enter
    dsimp only
    split
    next hphase => exact h.begin (h.fresh c (.inl hphase)) refused
    next => exact ⟨holder, h⟩
  | cancel c => exact ⟨holder, h.cancel c⟩
  | resume c => exact h.resume converts c
  | work r => exact ⟨holder, h.work r⟩
  | callback c => exact h.callback c
  | resumeFence c =>
    unfold State.step State.resumeFence
    dsimp only
    split
    · exact ⟨holder, { h with }⟩
    · exact ⟨holder, h⟩
  | settle t => exact h.settle t
  | aclose t => exact h.aclose t
  | cancelSettle t =>
    have hset := h.setLock (h.lockOk.cancel (.settler t)) rfl
    exact ⟨holder, hset.updateSettler t _ (h.closer t) fun hs => (h.stopped hs).2 t⟩
  | resumeSettle t => exact h.resumeSettle converts t

end Settlers

end Inv

end Invariant

section Exclusion

def Action.isWork : Action κ α ε θ → Bool
  | .work _ => true
  | _ => false

namespace State

/-- What the settlers do: the calls and the counter are as they were, and the thread is kept. -/
structure Untouched (s s' : State κ α ε θ) : Prop where
  thread : s.thread.Kept s'.thread
  calls : s'.calls = s.calls
  waiters : s'.waiters = s.waiters

variable (s : State κ α ε θ)

section Settlers

variable [DecidableEq θ] (t : θ)

theorem untouched_settled : s.Untouched (s.settled t) := by
  unfold settled
  repeat' split
  all_goals first
    | exact ⟨.refl _, rfl, rfl⟩
    | exact ⟨s.thread.kept_putStop, rfl, rfl⟩

theorem untouched_settleLock : s.Untouched (s.settleLock t) := by
  unfold settleLock
  split
  · exact { untouched_settled { s with lock := s.lock.take.release } t with }
  · exact ⟨.refl _, rfl, rfl⟩

theorem untouched_beginSettle : s.Untouched (s.beginSettle t) := by
  unfold beginSettle
  repeat' split
  all_goals first
    | exact s.untouched_settleLock t
    | exact ⟨.refl _, rfl, rfl⟩

theorem untouched_settle : s.Untouched (s.settle t) := by
  unfold settle
  split
  · exact s.untouched_beginSettle t
  · exact ⟨.refl _, rfl, rfl⟩

theorem untouched_aclose : s.Untouched (s.aclose t) := by
  unfold aclose
  split
  · split
    · exact ⟨.refl _, rfl, rfl⟩
    · exact { untouched_beginSettle { s with
        closed := true
        closer := some t
        settlers := Function.update s.settlers t { phase := .acquiring } } t with }
  · exact ⟨.refl _, rfl, rfl⟩

variable [DecidableEq κ]

theorem untouched_resumeSettle (converts : ε → Bool) : s.Untouched (s.resumeSettle converts t) := by
  unfold resumeSettle
  repeat' split
  all_goals first
    | exact ⟨.refl _, rfl, rfl⟩
    | exact s.untouched_settleLock t
    | exact { untouched_settled { s with lock := (s.lock.resume (.settler t)).release } t with }
    | exact ⟨s.thread.kept_note .closed, rfl, rfl⟩

end Settlers

variable [DecidableEq κ]

theorem untouched_releaseOnce (c : κ) : s.Untouched (s.releaseOnce c) := by
  unfold releaseOnce
  repeat' split
  all_goals first
    | exact ⟨.refl _, rfl, rfl⟩
    | exact ⟨s.thread.kept_note _, rfl, rfl⟩

theorem kept_admitCall (lock : Lock (Party κ θ)) (c : κ) : s.thread.Kept (s.admitCall lock c).thread := by
  unfold admitCall
  split
  · exact (untouched_releaseOnce { s with lock := lock } c).thread
  · split
    · exact (s.thread.kept_note (.full c)).trans
        (untouched_releaseOnce { s with lock := lock, thread := s.thread.note (.full c) } c).thread
    · exact s.thread.kept_put c

theorem kept_enter (c : κ) (refused : Bool) : s.thread.Kept (s.enter c refused).thread := by
  unfold enter
  split
  · unfold begin
    repeat' split
    all_goals first
      | exact .refl _
      | exact s.kept_admitCall _ c
  · exact .refl _

variable [DecidableEq θ]

theorem kept_resume (converts : ε → Bool) (c : κ) :
    s.thread.Kept (s.resume converts c).thread := by
  unfold resume
  split
  next waiting _ =>
    unfold resumeAcquiring
    dsimp only
    split
    · exact .refl _
    · split
      · exact kept_admitCall { s with waiters := s.waiters - if waiting then 1 else 0 } _ c
      · exact .refl _
  next =>
    unfold resumeAwaiting
    split
    · exact .refl _
    · split
      · exact .refl _
      · split
        · exact s.thread.kept_note _
        · exact (s.untouched_releaseOnce c).thread.trans (Thread.kept_note _ _)
  next => exact .refl _

theorem kept_step (converts : ε → Bool) (a : Action κ α ε θ) (ha : a.isWork = false) :
    s.thread.Kept (s.step converts a).thread := by
  cases a with
  | enter c refused => exact s.kept_enter c refused
  | cancel c => exact .refl _
  | resume c => exact s.kept_resume converts c
  | work r => cases ha
  | callback c =>
    unfold step callback
    dsimp only
    split
    · exact (untouched_releaseOnce { s with callbacks := s.callbacks.erase c } c).thread
    · exact .refl _
  | resumeFence c =>
    unfold step resumeFence
    dsimp only
    split <;> exact .refl _
  | settle t => exact (s.untouched_settle t).thread
  | aclose t => exact (s.untouched_aclose t).thread
  | cancelSettle t => exact .refl _
  | resumeSettle t => exact (s.untouched_resumeSettle t converts).thread

end State

theorem excludes [DecidableEq κ] [DecidableEq θ] (converts : ε → Bool) :
    Excludes (fun (s : State κ α ε θ) a => s.step converts a) (·.thread) (·.lock.locked)
      Action.isWork {} := by
  refine Excludes.of_invariant (I := fun s => ∃ holder, Inv s holder) ⟨none, inv_start⟩ ?_ ?_ ?_ ?_
  · rintro s ⟨holder, h⟩
    refine ⟨holder, h.thread, fun hholder => ?_⟩
    rw [h.locked]
    exact Option.isSome_iff_ne_none.2 hholder
  · rintro s a ⟨holder, h⟩
    exact h.step converts a
  · intro s a ha
    cases a with
    | work r => exact ⟨r, rfl⟩
    | _ => cases ha
  · exact fun s a ha => s.kept_step converts a ha

-- A cancelled caller goes; the callback of the thread releases the admission.
example :
    (Transition.run (fun (s : State ℕ ℕ Unit ℕ) a => s.step (fun _ => false) a) {}
      [.enter 0 false, .enter 1 false, .cancel 0, .resume 0, .work (.ok 7), .work (.ok 7),
        .work (.ok 7), .callback 0, .resume 1]).thread.log =
      [.admitted 1, .released 0, .finished 0 (.ok 7), .started 0, .admitted 0] := by
  decide

end Exclusion

end CandleCraft.Runtime.DiskWorker

namespace CandleCraft.Runtime

/-- Both workers exclude, for every interleaving of calls, cancellations, operations that return or
raise, and `aclose()`. -/
theorem workers_exclude {κ α ε θ : Type*} [DecidableEq κ] [DecidableEq θ] (converts : ε → Bool) :
    Excludes (fun (s : LifecycleWorker.State κ α ε θ) a => s.step a) (·.thread) (·.lock.locked)
        LifecycleWorker.Action.isWork {} ∧
      Excludes (fun (s : DiskWorker.State κ α ε θ) a => s.step converts a) (·.thread)
        (·.lock.locked) DiskWorker.Action.isWork {} :=
  ⟨LifecycleWorker.excludes, DiskWorker.excludes converts⟩

end CandleCraft.Runtime
