import CandleCraft.Runtime.DiskWorker

/-!
# The callers that wait for the admission

Both workers count a caller as waiting if it finds the admission lock taken, and refuse a caller
that finds it taken while another is counted. A caller that comes between a release and the turn of
the first waiter finds the lock not taken: it is not counted and not refused, and waits behind the
first.
-/

namespace CandleCraft.Runtime

open AsyncLock

section Single

variable {κ : Type*} {waiters : ℕ} {queued : κ → Option Bool}

/-- No caller waits, or one that is counted; `queued` says whether a caller waits, and if so whether
it is counted. -/
def Single (waiters : ℕ) (queued : κ → Option Bool) : Prop :=
  (waiters = 0 ∧ ∀ c, queued c = none) ∨
    waiters = 1 ∧ ∃ c, queued c = some true ∧ ∀ d, d ≠ c → queued d = none

theorem Single.counted (h : Single waiters queued) {c : κ} {b : Bool} (hc : queued c = some b) :
    waiters = 1 ∧ b = true ∧ ∀ d, d ≠ c → queued d = none := by
  rcases h with ⟨-, hnone⟩ | ⟨hone, e, he, hothers⟩
  · rw [hnone c] at hc
    cases hc
  · by_cases hce : c = e
    · subst hce
      rw [he] at hc
      exact ⟨hone, (Option.some.inj hc).symm, hothers⟩
    · rw [hothers c hce] at hc
      cases hc

theorem Single.unique (h : Single waiters queued) {c d : κ} (hc : queued c ≠ none)
    (hd : queued d ≠ none) : c = d := by
  obtain ⟨b, hb⟩ := Option.ne_none_iff_exists'.1 hc
  by_contra hne
  exact hd ((h.counted hb).2.2 d fun heq => hne heq.symm)

variable {γ : Type*} {queued : γ → Option Bool} {calls calls' : κ → γ} {waiters' : ℕ}
variable [DecidableEq κ]

/-- What a step does to the calls of a worker: one of them goes on and waits as before, one joins and
is counted while none is, or one leaves. -/
inductive QueueStep (queued : γ → Option Bool) (waiters : ℕ) (calls : κ → γ) : ℕ → (κ → γ) → Prop
  | same : QueueStep queued waiters calls waiters calls
  | pass {c : κ} {call : γ} (hcall : queued call = queued (calls c)) :
    QueueStep queued waiters calls waiters (Function.update calls c call)
  | join {c : κ} {call : γ} (hcall : queued call = some true) (hzero : waiters = 0) :
    QueueStep queued waiters calls (waiters + 1) (Function.update calls c call)
  | leave {c : κ} {call : γ} {b : Bool} (hcall : queued call = none) (hc : queued (calls c) = some b) :
    QueueStep queued waiters calls (waiters - if b then 1 else 0) (Function.update calls c call)

/-- The counting of both workers. -/
theorem Single.step (h : Single waiters fun c => queued (calls c))
    (hstep : QueueStep queued waiters calls waiters' calls') :
    Single waiters' fun c => queued (calls' c) := by
  have hupdate (c : κ) (call : γ) : (fun d => queued (Function.update calls c call d)) =
      Function.update (fun d => queued (calls d)) c (queued call) :=
    Function.comp_update queued calls c call
  cases hstep with
  | same => exact h
  | @pass c call hcall =>
    rw [hupdate, hcall]
    exact (Function.update_eq_self c fun d => queued (calls d)).symm ▸ h
  | @join c call hcall hzero =>
    rw [hupdate, hcall]
    refine .inr ⟨by omega, c, Function.update_self .., fun d hd => ?_⟩
    rw [Function.update_of_ne hd]
    rcases h with ⟨-, hnone⟩ | ⟨hone, -⟩
    · exact hnone d
    · omega
  | @leave c call b hcall hc =>
    obtain ⟨hone, hcounted, hothers⟩ := h.counted hc
    rw [hupdate, hcall]
    refine .inl ⟨by rw [if_pos hcounted]; omega, fun d => ?_⟩
    by_cases hd : d = c
    · rw [hd, Function.update_self]
    · rw [Function.update_of_ne hd]
      exact hothers d hd

end Single

namespace LifecycleWorker

variable {κ α ε θ : Type*}

/-- Whether a call waits for the admission, and if so whether it is counted. -/
def Call.queued {ρ : Type*} (call : Call ρ) : Option Bool :=
  match call.phase with
  | .acquiring waiting => some waiting
  | _ => none

namespace State

def queued (s : State κ α ε θ) (c : κ) : Option Bool := (s.calls c).queued

/-- A caller does not come between a release and the turn of the task that it woke. -/
def Prompt (s : State κ α ε θ) : Action κ α ε θ → Prop
  | .enter _ _ _ => s.lock.locked = true ∨ s.lock.free = true
  | _ => True

instance (s : State κ α ε θ) : DecidablePred s.Prompt
  | .enter _ _ _ => inferInstanceAs (Decidable (_ ∨ _))
  | .cancel _ | .resume _ | .work _ | .aclose _ | .cancelClose _ | .resumeClose _
  | .resumeShutdown => inferInstanceAs (Decidable True)

variable [DecidableEq κ] {s : State κ α ε θ}

theorem Untouched.queueStep {s' : State κ α ε θ} (h : s.Untouched s') :
    QueueStep Call.queued s.waiters s.calls s'.waiters s'.calls := by
  rw [h.calls, h.waiters]
  exact .same

theorem admitCall_calls (s : State κ α ε θ) (lock : Lock (Party κ)) (c : κ) :
    ∃ call, (s.admitCall lock c).calls = Function.update s.calls c call ∧ call.queued = none ∧
      (s.admitCall lock c).waiters = s.waiters := by
  unfold admitCall
  repeat' split
  all_goals exact ⟨_, rfl, rfl, rfl⟩

theorem queueStep_enter (c : κ) (cancelling forbidden : Bool)
    (hprompt : s.lock.locked = true ∨ s.lock.free = true) :
    QueueStep Call.queued s.waiters s.calls (s.enter c cancelling forbidden).waiters
      (s.enter c cancelling forbidden).calls := by
  unfold enter
  split
  next hidle =>
    have hnone : (s.calls c).queued = none := by rw [Call.queued, hidle]
    unfold begin
    iterate 3
      split
      · exact .pass hnone.symm
    split
    · exact .pass hnone.symm
    next hroom =>
      split
      next =>
        obtain ⟨call, hcalls, hcall, hwaiters⟩ := s.admitCall_calls s.lock.take c
        rw [hcalls, hwaiters]
        exact .pass (hcall.trans hnone.symm)
      next hbusy =>
        -- the lock is taken, and no caller is counted
        have hlocked := hprompt.resolve_right hbusy
        have hzero : s.waiters = 0 := by
          rw [hlocked, Bool.true_and, decide_eq_true_eq] at hroom
          omega
        rw [hlocked]
        exact .join rfl hzero
  next => exact .same

theorem queueStep_resume (c : κ) :
    QueueStep Call.queued s.waiters s.calls (s.resume c).waiters (s.resume c).calls := by
  unfold resume
  split
  next waiting hphase =>
    have hwaits : (s.calls c).queued = some waiting := by rw [Call.queued, hphase]
    unfold resumeAcquiring
    dsimp only
    split
    · exact .leave rfl hwaits
    · split
      · obtain ⟨call, hcalls, hcall, hwaiters⟩ := admitCall_calls
          { s with waiters := s.waiters - if waiting then 1 else 0 } (s.lock.resume (.call c)) c
        rw [hcalls, hwaiters]
        exact .leave hcall hwaits
      · exact .same
  next cancelled hphase =>
    have hnone : (s.calls c).queued = none := by rw [Call.queued, hphase]
    unfold resumeAwaiting settle
    repeat' split
    all_goals first
      | exact .same
      | exact .pass hnone.symm
  next => exact .same

theorem single_step [DecidableEq θ] (s : State κ α ε θ) (a : Action κ α ε θ) (hprompt : s.Prompt a)
    (h : Single s.waiters s.queued) : Single (s.step a).waiters (s.step a).queued := by
  change Single s.waiters fun c => (s.calls c).queued at h
  refine h.step ?_
  cases a with
  | enter c cancelling forbidden => exact queueStep_enter c cancelling forbidden hprompt
  | cancel c => exact .pass rfl
  | resume c => exact queueStep_resume c
  | work r => exact .same
  | aclose t => exact (s.untouched_aclose t).queueStep
  | cancelClose t => exact .same
  | resumeClose t => exact (s.untouched_resumeClose t).queueStep
  | resumeShutdown => exact s.untouched_resumeShutdown.queueStep

theorem enter_saturated (h : Single s.waiters s.queued) {c d : κ} (hopen : s.closed = false)
    (hlocked : s.lock.locked = true) (hwaits : s.queued d ≠ none)
    (hidle : (s.calls c).phase = .idle) (hcalm : (s.calls c).cancelRequested = false) :
    ((s.enter c false false).calls c).phase = .done .saturated := by
  obtain ⟨b, hb⟩ := Option.ne_none_iff_exists'.1 hwaits
  have hone := (h.counted hb).1
  simp [enter, hidle, begin, hopen, hcalm, hlocked, hone, refuse]

end State

end LifecycleWorker

namespace DiskWorker

variable {κ α ε θ : Type*}

/-- Whether a call waits for the admission, and if so whether it is counted. -/
def Call.queued {ρ : Type*} (call : Call ρ) : Option Bool :=
  match call.phase with
  | .acquiring waiting => some waiting
  | _ => none

namespace State

def queued (s : State κ α ε θ) (c : κ) : Option Bool := (s.calls c).queued

/-- A caller does not come between a release and the turn of the task that it woke. -/
def Prompt (s : State κ α ε θ) : Action κ α ε θ → Prop
  | .enter _ _ => s.lock.locked = true ∨ s.lock.free = true
  | _ => True

instance (s : State κ α ε θ) : DecidablePred s.Prompt
  | .enter _ _ => inferInstanceAs (Decidable (_ ∨ _))
  | .cancel _ | .resume _ | .work _ | .callback _ | .resumeFence _ | .settle _ | .aclose _
  | .cancelSettle _ | .resumeSettle _ => inferInstanceAs (Decidable True)

variable [DecidableEq κ] {s : State κ α ε θ}

theorem Untouched.queueStep {s' : State κ α ε θ} (h : s.Untouched s') :
    QueueStep Call.queued s.waiters s.calls s'.waiters s'.calls := by
  rw [h.calls, h.waiters]
  exact .same

theorem finish_calls {s' : State κ α ε θ} (hcalls : s'.calls = s.calls)
    (hwaiters : s'.waiters = s.waiters) (c : κ) (outcome : Outcome (Except ε α)) :
    ∃ call, (s'.finish c outcome).calls = Function.update s.calls c call ∧ call.queued = none ∧
      (s'.finish c outcome).waiters = s.waiters := by
  refine ⟨{ phase := .done outcome }, ?_, rfl, hwaiters⟩
  rw [← hcalls]
  rfl

theorem admitCall_calls (s : State κ α ε θ) (lock : Lock (Party κ θ)) (c : κ) :
    ∃ call, (s.admitCall lock c).calls = Function.update s.calls c call ∧ call.queued = none ∧
      (s.admitCall lock c).waiters = s.waiters := by
  unfold admitCall
  split
  · obtain ⟨-, hcalls, hwaiters⟩ := untouched_releaseOnce { s with lock := lock } c
    exact finish_calls hcalls hwaiters c _
  · split
    · obtain ⟨-, hcalls, hwaiters⟩ :=
        untouched_releaseOnce { s with lock := lock, thread := s.thread.note (.full c) } c
      exact finish_calls hcalls hwaiters c _
    · exact ⟨_, rfl, rfl, rfl⟩

theorem queueStep_enter (c : κ) (refused : Bool)
    (hprompt : s.lock.locked = true ∨ s.lock.free = true) :
    QueueStep Call.queued s.waiters s.calls (s.enter c refused).waiters (s.enter c refused).calls := by
  unfold enter
  split
  next hidle =>
    have hnone : (s.calls c).queued = none := by rw [Call.queued, hidle]
    unfold begin
    iterate 2
      split
      · exact .pass hnone.symm
    split
    · exact .pass hnone.symm
    next hroom =>
      split
      next =>
        obtain ⟨call, hcalls, hcall, hwaiters⟩ := s.admitCall_calls s.lock.take c
        rw [hcalls, hwaiters]
        exact .pass (hcall.trans hnone.symm)
      next hbusy =>
        have hlocked := hprompt.resolve_right hbusy
        have hzero : s.waiters = 0 := by
          rw [hlocked, Bool.true_and, decide_eq_true_eq] at hroom
          omega
        rw [hlocked]
        exact .join rfl hzero
  next => exact .same

theorem queueStep_resume [DecidableEq θ] (converts : ε → Bool) (c : κ) :
    QueueStep Call.queued s.waiters s.calls (s.resume converts c).waiters
      (s.resume converts c).calls := by
  unfold resume
  split
  next waiting hphase =>
    have hwaits : (s.calls c).queued = some waiting := by rw [Call.queued, hphase]
    unfold resumeAcquiring
    dsimp only
    split
    · exact .leave rfl hwaits
    · split
      · obtain ⟨call, hcalls, hcall, hwaiters⟩ := admitCall_calls
          { s with waiters := s.waiters - if waiting then 1 else 0 } (s.lock.resume (.call c)) c
        rw [hcalls, hwaiters]
        exact .leave hcall hwaits
      · exact .same
  next hphase =>
    have hnone : (s.calls c).queued = none := by rw [Call.queued, hphase]
    unfold resumeAwaiting
    split
    · exact .pass hnone.symm
    · split
      · exact .same
      · split
        · exact .pass hnone.symm
        · obtain ⟨-, hcalls, hwaiters⟩ := s.untouched_releaseOnce c
          rw [← hcalls] at hnone ⊢
          rw [← hwaiters]
          exact .pass hnone.symm
  next => exact .same

theorem single_step [DecidableEq θ] (converts : ε → Bool) (s : State κ α ε θ) (a : Action κ α ε θ)
    (hprompt : s.Prompt a) (h : Single s.waiters s.queued) :
    Single (s.step converts a).waiters (s.step converts a).queued := by
  change Single s.waiters fun c => (s.calls c).queued at h
  refine h.step ?_
  cases a with
  | enter c refused => exact queueStep_enter c refused hprompt
  | cancel c => exact .pass rfl
  | resume c => exact queueStep_resume converts c
  | work r => exact .same
  | callback c =>
    unfold step callback
    dsimp only
    split
    · exact (untouched_releaseOnce { s with callbacks := s.callbacks.erase c } c).queueStep
    · exact .same
  | resumeFence c =>
    unfold step resumeFence
    dsimp only
    split <;> exact .same
  | settle t => exact (s.untouched_settle t).queueStep
  | aclose t => exact (s.untouched_aclose t).queueStep
  | cancelSettle t => exact .same
  | resumeSettle t => exact (s.untouched_resumeSettle t converts).queueStep

theorem enter_saturated (h : Single s.waiters s.queued) {c d : κ} (hopen : s.closed = false)
    (hlocked : s.lock.locked = true) (hwaits : s.queued d ≠ none)
    (hidle : (s.calls c).phase = .idle) :
    ((s.enter c false).calls c).phase = .done .saturated := by
  obtain ⟨b, hb⟩ := Option.ne_none_iff_exists'.1 hwaits
  have hone := (h.counted hb).1
  simp [enter, hidle, begin, hopen, hlocked, hone, finish]

end State

end DiskWorker

section Callers

/-- At most one caller waits in each worker when every caller is prompt, and a caller that finds the
admission taken and another waiting is refused. -/
theorem prompt_callers_wait_alone {κ α ε θ : Type*} [DecidableEq κ] [DecidableEq θ]
    (converts : ε → Bool) :
    (∀ acts, Transition.Disciplined (fun (s : LifecycleWorker.State κ α ε θ) a => s.step a)
        (fun s a => s.Prompt a) {} acts →
      ∀ s : LifecycleWorker.State κ α ε θ,
        s = Transition.run (fun (s : LifecycleWorker.State κ α ε θ) a => s.step a) {} acts →
        (∀ c d, s.queued c ≠ none → s.queued d ≠ none → c = d) ∧
        ∀ c d, s.closed = false → s.lock.locked = true → s.queued d ≠ none →
          (s.calls c).phase = .idle → (s.calls c).cancelRequested = false →
          ((s.enter c false false).calls c).phase = .done .saturated) ∧
    ∀ acts, Transition.Disciplined (fun (s : DiskWorker.State κ α ε θ) a => s.step converts a)
        (fun s a => s.Prompt a) {} acts →
      ∀ s : DiskWorker.State κ α ε θ,
        s = Transition.run (fun (s : DiskWorker.State κ α ε θ) a => s.step converts a) {} acts →
        (∀ c d, s.queued c ≠ none → s.queued d ≠ none → c = d) ∧
        ∀ c d, s.closed = false → s.lock.locked = true → s.queued d ≠ none →
          (s.calls c).phase = .idle → ((s.enter c false).calls c).phase = .done .saturated := by
  constructor
  · rintro acts hprompt s rfl
    have hsingle := hprompt.invariant (I := fun s => Single s.waiters s.queued)
      LifecycleWorker.State.single_step (.inl ⟨rfl, fun _ => rfl⟩)
    exact ⟨fun c d => hsingle.unique, fun c d hopen hlocked hwaits hidle hcalm =>
      LifecycleWorker.State.enter_saturated hsingle hopen hlocked hwaits hidle hcalm⟩
  · rintro acts hprompt s rfl
    have hsingle := hprompt.invariant (I := fun s => Single s.waiters s.queued)
      (DiskWorker.State.single_step converts) (.inl ⟨rfl, fun _ => rfl⟩)
    exact ⟨fun c d => hsingle.unique, fun c d hopen hlocked hwaits hidle =>
      DiskWorker.State.enter_saturated hsingle hopen hlocked hwaits hidle⟩

/-- A run of the lifecycle worker with a caller that is admitted and one that waits. -/
def busyCallers : List (LifecycleWorker.Action ℕ ℕ Unit ℕ) :=
  [.enter 0 false false, .enter 1 false false]

def busyDiskCallers : List (DiskWorker.Action ℕ ℕ Unit ℕ) := [.enter 0 false, .enter 1 false]

/-- A third caller is refused by both workers. -/
theorem third_caller_is_refused :
    ((Transition.run (fun (s : LifecycleWorker.State ℕ ℕ Unit ℕ) a => s.step a) {}
      (busyCallers ++ [.enter 2 false false])).calls 2).phase = .done .saturated ∧
    ((Transition.run (fun (s : DiskWorker.State ℕ ℕ Unit ℕ) a => s.step (fun _ => false) a) {}
      (busyDiskCallers ++ [.enter 2 false])).calls 2).phase = .done .saturated := by
  obtain ⟨hlifecycle, hdisk⟩ := @prompt_callers_wait_alone ℕ ℕ Unit ℕ _ _ fun _ => false
  have hrefused := (hlifecycle busyCallers (by decide) _ rfl).2 2 1
  have hdiskRefused := (hdisk busyDiskCallers (by decide) _ rfl).2 2 1
  rw [Transition.run_append, Transition.run_append]
  exact ⟨hrefused (by decide) (by decide) (by decide) (by decide) (by decide),
    hdiskRefused (by decide) (by decide) (by decide) (by decide)⟩

/-- Two more callers come after the first has released the admission and before the second has
taken it: none of them is refused, and all three wait. -/
theorem callers_pile_up :
    [0, 1, 2, 3].map (Transition.run (fun (s : LifecycleWorker.State ℕ ℕ Unit ℕ) a => s.step a) {}
      (busyCallers ++ [.work (.ok 7), .work (.ok 7), .resume 0, .enter 2 false false,
        .enter 3 false false])).queued = [none, some true, some false, some false] ∧
    [0, 1, 2, 3].map (Transition.run
      (fun (s : DiskWorker.State ℕ ℕ Unit ℕ) a => s.step (fun _ => false) a) {}
      (busyDiskCallers ++ [.work (.ok 7), .work (.ok 7), .resume 0, .enter 2 false,
        .enter 3 false])).queued = [none, some true, some false, some false] := by
  decide

end Callers

end CandleCraft.Runtime
