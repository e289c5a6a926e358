import CandleCraft.Kernel.Transition

/-!
# The thread of an isolation worker

Both workers own one thread that takes items from a queue of size one, runs the operation of an item
and puts what it returned or raised into the future of the item. A call is identified by a value of
`κ`, its operation ends with a value of `ρ`. The history of a worker is a list of events, the latest
first.
-/

namespace CandleCraft.Runtime

inductive Event (κ ρ : Type*) where
  /-- The operation of a call was put into the queue. -/
  | admitted (call : κ)
  /-- `put_nowait` found the queue full. -/
  | full (call : κ)
  | started (call : κ)
  | finished (call : κ) (result : ρ)
  /-- The admission of a call was released. -/
  | released (call : κ)
  /-- A caller was given a result. -/
  | received (call : κ) (result : ρ)
  /-- The first `aclose()` returned. -/
  | closed
  deriving DecidableEq

namespace Event

variable {κ ρ : Type*}

/-- What must have happened before an event. -/
def Legal : Event κ ρ → List (Event κ ρ) → Prop
  | admitted c, past => .admitted c ∉ past
  | full _, _ => False
  | started c, past => .admitted c ∈ past ∧ .started c ∉ past ∧
      (∀ d, .started d ∈ past → ∃ r, .finished d r ∈ past) ∧ .closed ∉ past
  | finished c _, past => .started c ∈ past ∧ ∀ r, .finished c r ∉ past
  | released c, past => .admitted c ∈ past → ∃ r, .finished c r ∈ past
  | received c r, past => .finished c r ∈ past
  | closed, _ => True

/-- Every event is legal after the events before it: an operation is started after it was admitted,
once, while no other runs and not after the close; it finishes once; its admission is released
after it has finished; a caller receives what its own operation returned or raised; and the queue
is never full. -/
def Exclusive : List (Event κ ρ) → Prop
  | [] => True
  | e :: past => e.Legal past ∧ Exclusive past

theorem Exclusive.started_of_finished {log : List (Event κ ρ)} (h : Exclusive log) {c : κ} {r : ρ}
    (hmem : .finished c r ∈ log) : .started c ∈ log := by
  induction log with
  | nil => cases hmem
  | cons e past ih =>
    rcases List.mem_cons.1 hmem with rfl | hmem
    · exact List.mem_cons_of_mem _ h.1.1
    · exact List.mem_cons_of_mem _ (ih h.2 hmem)

end Event

/-- What stands in the queue. -/
inductive Item (κ : Type*) where
  | operation (call : κ)
  | stop
  deriving DecidableEq

inductive Position (κ : Type*) where
  | waiting
  | running (call : κ)
  /-- The future of the call is set, and the thread is on its way back to the queue. -/
  | returning (call : κ)
  | exited
  deriving DecidableEq

/-- The queue, the thread, the futures of the calls and the history. -/
structure Thread (κ ρ : Type*) where
  queue : List (Item κ) := []
  position : Position κ := .waiting
  future : κ → Option ρ := fun _ => none
  log : List (Event κ ρ) := []

namespace Thread

variable {κ ρ : Type*}

section Operations

variable (w : Thread κ ρ)
variable {r : ρ}

/-- `queue.Queue(maxsize=1)` is full. -/
def isFull : Bool := decide (1 ≤ w.queue.length)

def note (e : Event κ ρ) : Thread κ ρ := { w with log := e :: w.log }

/-- `put_nowait` of an operation, into a queue that is not full. -/
def put (c : κ) : Thread κ ρ :=
  { w with queue := w.queue ++ [.operation c], log := .admitted c :: w.log }

/-- `put_nowait` of the sentinel. -/
def putStop : Thread κ ρ := { w with queue := w.queue ++ [.stop] }

/-- One step of `_run`; `r` is what the operation that runs returns or raises. -/
def work [DecidableEq κ] (r : ρ) : Thread κ ρ :=
  match w.position, w.queue with
  | .waiting, [] => w
  | .waiting, .stop :: rest => { w with queue := rest, position := .exited }
  | .waiting, .operation c :: rest =>
    { w with queue := rest, position := .running c, log := .started c :: w.log }
  | .running c, _ =>
    { w with
      position := .returning c
      future := Function.update w.future c (some r)
      log := .finished c r :: w.log }
  | .returning _, _ => { w with position := .waiting }
  | .exited, _ => w

/-- The sentinel was put. -/
def Stopped : Prop := .stop ∈ w.queue ∨ w.position = .exited

variable {w}

theorem stopped_of_put {c : κ} (h : (w.put c).Stopped) : w.Stopped := by
  refine h.imp (fun hmem => ?_) id
  rcases List.mem_append.1 hmem with hmem | hmem
  · exact hmem
  · cases List.mem_singleton.1 hmem

theorem stopped_of_work [DecidableEq κ] (h : (w.work r).Stopped) : w.Stopped := by
  unfold work at h
  split at h
  next => exact h
  next rest hposition hqueue => exact .inl (by rw [hqueue]; exact List.mem_cons_self)
  next c rest hposition hqueue =>
    refine h.imp (fun hmem => ?_) fun hexited => by cases hexited
    rw [hqueue]
    exact List.mem_cons_of_mem _ hmem
  next => exact h.imp id fun hexited => by cases hexited
  next => exact h.imp id fun hexited => by cases hexited
  next => exact h

theorem admitted_of_work [DecidableEq κ] {c : κ} (h : .admitted c ∈ (w.work r).log) :
    .admitted c ∈ w.log := by
  unfold work at h
  split at h
  all_goals first
    | exact h
    | exact (List.mem_cons.1 h).resolve_left (by simp)

theorem exited_work [DecidableEq κ] (h : w.position = .exited) : (w.work r).position = .exited := by
  unfold work
  rw [h]
  exact h

theorem future_work [DecidableEq κ] {c : κ} (h : w.future c ≠ none) :
    (w.work r).future c ≠ none := by
  unfold work
  split
  all_goals try exact h
  next d _ =>
    dsimp only
    by_cases hd : c = d
    · rw [hd, Function.update_self]
      simp
    · rw [Function.update_of_ne hd]
      exact h

theorem mem_log_work [DecidableEq κ] {e : Event κ ρ} (h : e ∈ w.log) : e ∈ (w.work r).log := by
  unfold work
  split
  all_goals first
    | exact h
    | exact List.mem_cons_of_mem _ h

end Operations

section Invariant

/-- What holds of the thread while the admission is held by a call, or by none. -/
structure Inv (w : Thread κ ρ) (holder : Option κ) : Prop where
  exclusive : Event.Exclusive w.log
  future_iff : ∀ c r, w.future c = some r ↔ .finished c r ∈ w.log
  admitted_of_started : ∀ c, .started c ∈ w.log → .admitted c ∈ w.log
  running_of_started : ∀ c, .started c ∈ w.log → w.future c = none → w.position = .running c
  held : ∀ c, .admitted c ∈ w.log → w.future c = none → holder = some c
  admitted : ∀ c, holder = some c → .admitted c ∈ w.log
  /-- The queue is empty, or has the operation of the holder that has not been started, or the
  sentinel. -/
  queue : w.queue = [] ∨ (w.queue = [.stop] ∧ holder = none) ∨
    ∃ c, w.queue = [.operation c] ∧ holder = some c ∧ .started c ∉ w.log ∧ w.future c = none
  running : ∀ c, w.position = .running c → w.queue = [] ∧ holder = some c ∧
    .started c ∈ w.log ∧ w.future c = none
  /-- An operation that waits is in the queue, and one that has been started runs. -/
  pending : ∀ c, holder = some c → w.future c = none →
    w.queue = [.operation c] ∨ w.position = .running c
  returning : ∀ c, w.position = .returning c → w.future c ≠ none
  exited : w.position = .exited → w.queue = [] ∧ holder = none
  closed : .closed ∈ w.log → w.position = .exited

variable {w : Thread κ ρ} {holder : Option κ}

theorem inv_start : ({} : Thread κ ρ).Inv none where
  exclusive := trivial
  future_iff := by simp
  admitted_of_started := by simp
  running_of_started := by simp
  held := by simp
  admitted := by simp
  queue := .inl rfl
  running := by simp
  pending := by simp
  returning := by simp
  exited := by simp
  closed := by simp

namespace Inv

theorem queue_nil (h : w.Inv none) (hstopped : ¬ w.Stopped) : w.queue = [] := by
  rcases h.queue with hqueue | ⟨hqueue, -⟩ | ⟨c, -, hc, -⟩
  · exact hqueue
  · exact absurd (.inl (by rw [hqueue]; exact List.mem_singleton_self _)) hstopped
  · cases hc

theorem not_full (h : w.Inv none) (hstopped : ¬ w.Stopped) : w.isFull = false := by
  rw [isFull, h.queue_nil hstopped]
  rfl

theorem not_closed (h : w.Inv holder) (hposition : w.position ≠ .exited) : .closed ∉ w.log :=
  mt h.closed hposition

theorem future_of_started (h : w.Inv holder) (hposition : ∀ d, w.position ≠ .running d) :
    ∀ d, .started d ∈ w.log → w.future d ≠ none :=
  fun d hd hfuture => hposition d (h.running_of_started d hd hfuture)

theorem note (h : w.Inv holder) {e : Event κ ρ} (hlegal : e.Legal w.log)
    (hadmitted : ∀ c, e ≠ .admitted c) (hstarted : ∀ c, e ≠ .started c)
    (hfinished : ∀ c r, e ≠ .finished c r) (hclosed : e = .closed → w.position = .exited) :
    (w.note e).Inv holder where
  exclusive := ⟨hlegal, h.exclusive⟩
  future_iff := by
    intro c r
    rw [show (w.note e).log = e :: w.log from rfl, List.mem_cons, ← h.future_iff c r]
    exact ⟨.inr, fun hor => hor.resolve_left fun heq => hfinished c r heq.symm⟩
  admitted_of_started := fun c hc => List.mem_cons_of_mem _
    (h.admitted_of_started c (List.mem_of_ne_of_mem (hstarted c).symm hc))
  running_of_started := fun c hc =>
    h.running_of_started c (List.mem_of_ne_of_mem (hstarted c).symm hc)
  held := fun c hc => h.held c (List.mem_of_ne_of_mem (hadmitted c).symm hc)
  admitted := fun c hc => List.mem_cons_of_mem _ (h.admitted c hc)
  queue := by
    rcases h.queue with hqueue | hqueue | ⟨c, hqueue, hholder, hnew, hfuture⟩
    · exact .inl hqueue
    · exact .inr (.inl hqueue)
    · exact .inr (.inr ⟨c, hqueue, hholder,
        List.not_mem_cons_of_ne_of_not_mem (hstarted c).symm hnew, hfuture⟩)
  running := by
    intro c hc
    obtain ⟨hqueue, hholder, hstarted', hfuture⟩ := h.running c hc
    exact ⟨hqueue, hholder, List.mem_cons_of_mem _ hstarted', hfuture⟩
  pending := h.pending
  returning := h.returning
  exited := h.exited
  closed := by
    intro hc
    rcases List.mem_cons.1 hc with heq | hc
    · exact hclosed heq.symm
    · exact h.closed hc

variable {c : κ}

theorem future_eq_none (h : w.Inv holder) (hc : .admitted c ∉ w.log) : w.future c = none := by
  cases hfuture : w.future c with
  | none => rfl
  | some r =>
    exact absurd (h.admitted_of_started c
      (h.exclusive.started_of_finished ((h.future_iff c r).1 hfuture))) hc

theorem put (h : w.Inv none) (hstopped : ¬ w.Stopped) (hc : .admitted c ∉ w.log) :
    (w.put c).Inv (some c) where
  exclusive := ⟨hc, h.exclusive⟩
  future_iff := by
    intro d r
    rw [show (w.put c).log = .admitted c :: w.log from rfl, List.mem_cons, ← h.future_iff d r]
    exact ⟨.inr, fun hor => hor.resolve_left (by simp)⟩
  admitted_of_started := fun d hd => List.mem_cons_of_mem _
    (h.admitted_of_started d (List.mem_of_ne_of_mem (by simp) hd))
  running_of_started := fun d hd => h.running_of_started d (List.mem_of_ne_of_mem (by simp) hd)
  held := by
    intro d hd hfuture
    rcases List.mem_cons.1 hd with heq | hd
    · rw [Event.admitted.inj heq]
    · cases h.held d hd hfuture
  admitted := by
    intro d hd
    obtain rfl := Option.some.inj hd
    exact List.mem_cons_self
  queue := by
    refine .inr (.inr ⟨c, ?_, rfl, fun hmem => ?_, h.future_eq_none hc⟩)
    · exact congrArg (· ++ [Item.operation c]) (h.queue_nil hstopped)
    · exact hc (h.admitted_of_started c (List.mem_of_ne_of_mem (by simp) hmem))
  running := by
    intro d hd
    cases (h.running d hd).2.1
  pending := by
    intro d hd _
    obtain rfl := Option.some.inj hd
    exact .inl (congrArg (· ++ [Item.operation c]) (h.queue_nil hstopped))
  returning := h.returning
  exited := fun hexited => absurd (.inr hexited) hstopped
  closed := fun hclosed => h.closed (List.mem_of_ne_of_mem (by simp) hclosed)

theorem putStop (h : w.Inv none) (hstopped : ¬ w.Stopped) : w.putStop.Inv none :=
  { h with
    queue := .inr (.inl ⟨congrArg (· ++ [Item.stop]) (h.queue_nil hstopped), rfl⟩)
    running := by
      intro d hd
      cases (h.running d hd).2.1
    pending := nofun
    exited := fun hexited => absurd (.inr hexited) hstopped }

theorem drop (h : w.Inv (some c)) (hfuture : w.future c ≠ none) : w.Inv none :=
  { h with
    held := by
      intro d hd hnone
      obtain rfl := Option.some.inj (h.held d hd hnone)
      exact absurd hnone hfuture
    admitted := nofun
    queue := by
      rcases h.queue with hqueue | ⟨-, hholder⟩ | ⟨d, -, hholder, -, hnone⟩
      · exact .inl hqueue
      · cases hholder
      · obtain rfl := Option.some.inj hholder
        exact absurd hnone hfuture
    running := by
      intro d hd
      obtain ⟨-, hholder, -, hnone⟩ := h.running d hd
      obtain rfl := Option.some.inj hholder
      exact absurd hnone hfuture
    pending := nofun
    exited := fun hexited => by cases (h.exited hexited).2 }

theorem release (h : w.Inv (some c)) (hfuture : w.future c ≠ none) :
    (w.note (.released c)).Inv none := by
  obtain ⟨r, hr⟩ := Option.ne_none_iff_exists'.1 hfuture
  exact ((h.drop hfuture).note (e := .released c) (fun _ => ⟨r, (h.future_iff c r).1 hr⟩)
    (by simp) (by simp) (by simp) (by simp))

theorem release_refused (h : w.Inv holder) (hc : .admitted c ∉ w.log) :
    (w.note (.released c)).Inv holder :=
  h.note (e := .released c) (fun hadmitted => absurd hadmitted hc) (by simp) (by simp) (by simp)
    (by simp)

theorem receive {r : ρ} (h : w.Inv holder) (hr : w.future c = some r) :
    (w.note (.received c r)).Inv holder :=
  h.note (e := .received c r) ((h.future_iff c r).1 hr) (by simp) (by simp) (by simp) (by simp)

theorem close (h : w.Inv holder) (hexited : w.position = .exited) :
    (w.note .closed).Inv holder :=
  h.note (e := .closed) trivial (by simp) (by simp) (by simp) fun _ => hexited

theorem start {rest : List (Item κ)} (h : w.Inv holder) (hposition : w.position = .waiting)
    (hqueue : w.queue = .operation c :: rest) :
    ({ w with queue := rest, position := .running c, log := .started c :: w.log } :
      Thread κ ρ).Inv holder := by
  obtain ⟨rfl, hholder, hnew, hfuture⟩ : rest = [] ∧ holder = some c ∧ .started c ∉ w.log ∧
      -- the queue holds the operation of the holder and nothing else
      w.future c = none := by
    rcases h.queue with hnil | ⟨hstop, -⟩ | ⟨d, hop, hholder, hnew, hfuture⟩
    · rw [hnil] at hqueue
      cases hqueue
    · rw [hstop] at hqueue
      cases hqueue
    · rw [hop] at hqueue
      cases hqueue
      exact ⟨rfl, hholder, hnew, hfuture⟩
  -- whatever was started before has finished: otherwise the thread would still run it
  have hset := h.future_of_started (by simp [hposition])
  have hdone : ∀ d, .started d ∈ w.log → ∃ r, .finished d r ∈ w.log := by
    intro d hd
    obtain ⟨r, hr⟩ := Option.ne_none_iff_exists'.1 (hset d hd)
    exact ⟨r, (h.future_iff d r).1 hr⟩
  have hopen := h.not_closed (by simp [hposition])
  exact {
    exclusive := ⟨⟨h.admitted c hholder, hnew, hdone, hopen⟩, h.exclusive⟩
    future_iff := by
      intro d r
      rw [List.mem_cons, ← h.future_iff d r]
      exact ⟨.inr, fun hor => hor.resolve_left (by simp)⟩
    admitted_of_started := by
      intro d hd
      rcases List.mem_cons.1 hd with heq | hd
      · rw [Event.started.inj heq]
        exact List.mem_cons_of_mem _ (h.admitted c hholder)
      · exact List.mem_cons_of_mem _ (h.admitted_of_started d hd)
    running_of_started := by
      intro d hd hf
      rcases List.mem_cons.1 hd with heq | hd
      · rw [Event.started.inj heq]
      · exact absurd hf (hset d hd)
    held := fun d hd => h.held d (List.mem_of_ne_of_mem (by simp) hd)
    admitted := fun d hd => List.mem_cons_of_mem _ (h.admitted d hd)
    queue := .inl rfl
    running := by
      intro d hd
      obtain rfl := Position.running.inj hd
      exact ⟨rfl, hholder, List.mem_cons_self, hfuture⟩
    pending := by
      intro d hd _
      rw [hholder] at hd
      obtain rfl := Option.some.inj hd
      exact .inr rfl
    returning := nofun
    exited := nofun
    closed := fun hclosed => absurd (List.mem_of_ne_of_mem (by simp) hclosed) hopen }

variable [DecidableEq κ]

theorem finish (r : ρ) (h : w.Inv holder) (hposition : w.position = .running c) : ({ w with
      position := .returning c
      future := Function.update w.future c (some r)
      log := .finished c r :: w.log } : Thread κ ρ).Inv holder := by
  obtain ⟨hqueue, hholder, hstarted, hfuture⟩ := h.running c hposition
  have hnone : ∀ d, Function.update w.future c (some r) d = none → d ≠ c ∧ w.future d = none := by
    intro d hd
    by_cases hdc : d = c
    · rw [hdc, Function.update_self] at hd
      cases hd
    · rw [Function.update_of_ne hdc] at hd
      exact ⟨hdc, hd⟩
  -- the operation has no result yet, so it has not finished before
  have hnew : ∀ r', .finished c r' ∉ w.log := by
    intro r' hmem
    have hsome := (h.future_iff c r').2 hmem
    rw [hfuture] at hsome
    cases hsome
  exact {
    exclusive := ⟨⟨hstarted, hnew⟩, h.exclusive⟩
    future_iff := by
      intro d r'
      dsimp only
      rw [List.mem_cons]
      by_cases hdc : d = c
      · rw [hdc, Function.update_self, Option.some.injEq]
        exact ⟨fun heq => .inl (by rw [heq]), fun hor =>
          hor.elim (fun heq => (Event.finished.inj heq).2.symm) fun hmem => absurd hmem (hnew r')⟩
      · rw [Function.update_of_ne hdc, h.future_iff d r']
        exact ⟨.inr, fun hor => hor.resolve_left fun heq => hdc (Event.finished.inj heq).1⟩
    admitted_of_started := fun d hd => List.mem_cons_of_mem _
      (h.admitted_of_started d (List.mem_of_ne_of_mem (by simp) hd))
    running_of_started := by
      intro d hd hf
      have hrunning :=
        h.running_of_started d (List.mem_of_ne_of_mem (by simp) hd) (hnone d hf).2
      rw [hposition] at hrunning
      exact absurd (Position.running.inj hrunning).symm (hnone d hf).1
    held := fun d hd hf => h.held d (List.mem_of_ne_of_mem (by simp) hd) (hnone d hf).2
    admitted := fun d hd => List.mem_cons_of_mem _ (h.admitted d hd)
    queue := .inl hqueue
    running := nofun
    pending := by
      intro d hd hf
      rw [hholder] at hd
      exact absurd (Option.some.inj hd).symm (hnone d hf).1
    returning := by
      intro d hd
      obtain rfl := Position.returning.inj hd
      simp
    exited := nofun
    closed := fun hclosed =>
      absurd (List.mem_of_ne_of_mem (by simp) hclosed) (h.not_closed (by simp [hposition])) }

theorem work (r : ρ) (h : w.Inv holder) : (w.work r).Inv holder := by
  unfold Thread.work
  split
  next => exact h
  next rest hposition hqueue =>
    -- The sentinel is alone in the queue.
    obtain ⟨rfl, hholder⟩ : rest = [] ∧ holder = none := by
      rcases h.queue with hnil | ⟨hstop, hholder⟩ | ⟨d, hop, -⟩
      · rw [hnil] at hqueue
        cases hqueue
      · rw [hstop] at hqueue
        cases hqueue
        exact ⟨rfl, hholder⟩
      · rw [hop] at hqueue
        cases hqueue
    exact { h with
      running_of_started := fun d hd hf =>
        absurd hf (h.future_of_started (by simp [hposition]) d hd)
      queue := .inl rfl
      running := nofun
      pending := by simp [hholder]
      returning := nofun
      exited := fun _ => ⟨rfl, hholder⟩
      closed := fun _ => rfl }
  next c rest hposition hqueue => exact h.start hposition hqueue
  next c hposition => exact h.finish r hposition
  next c hposition =>
    exact { h with
      running_of_started := fun d hd hf =>
        absurd hf (h.future_of_started (by simp [hposition]) d hd)
      running := nofun
      pending := by
        intro d hd hf
        refine (h.pending d hd hf).imp_right fun hrunning => ?_
        rw [hposition] at hrunning
        cases hrunning
      returning := nofun
      exited := nofun
      closed := fun hclosed => absurd hclosed (h.not_closed (by simp [hposition])) }
  next => exact h

end Inv

section Kept

structure Kept (w w' : Thread κ ρ) : Prop where
  position : w'.position = w.position
  future : w'.future = w.future
  log : w.log <:+ w'.log

theorem Kept.refl (w : Thread κ ρ) : w.Kept w := ⟨rfl, rfl, List.suffix_rfl⟩

theorem Kept.trans {w₁ w₂ w₃ : Thread κ ρ} (h : w₁.Kept w₂) (h' : w₂.Kept w₃) : w₁.Kept w₃ :=
  ⟨h'.position.trans h.position, h'.future.trans h.future, h.log.trans h'.log⟩

theorem kept_note (w : Thread κ ρ) (e : Event κ ρ) : w.Kept (w.note e) :=
  ⟨rfl, rfl, List.suffix_cons e w.log⟩

theorem kept_put (w : Thread κ ρ) (c : κ) : w.Kept (w.put c) :=
  ⟨rfl, rfl, List.suffix_cons _ w.log⟩

theorem kept_putStop (w : Thread κ ρ) : w.Kept w.putStop := ⟨rfl, rfl, List.suffix_rfl⟩

end Kept

section Progress

/-- How many steps the thread needs until the operation of a call is finished. -/
def remaining (w : Thread κ ρ) (c : κ) : ℕ :=
  if (w.future c).isSome then 0
  else
    match w.position with
    | .running _ => 1
    | .returning _ => 3
    | _ => 2

theorem remaining_le (w : Thread κ ρ) (c : κ) : w.remaining c ≤ 3 := by
  unfold remaining
  split
  · exact Nat.zero_le 3
  · split <;> decide

theorem remaining_pos {c : κ} (h : w.future c = none) : 0 < w.remaining c := by
  rw [remaining, if_neg (by simp [h])]
  split <;> decide

theorem Kept.remaining {w' : Thread κ ρ} (h : w.Kept w') (c : κ) :
    w'.remaining c = w.remaining c := by
  rw [Thread.remaining, Thread.remaining, h.future, h.position]

variable [DecidableEq κ]

/-- A step of the thread brings an admitted operation closer to its end. -/
theorem remaining_work (r : ρ) (h : w.Inv holder) {c : κ} (hc : .admitted c ∈ w.log) :
    (w.work r).remaining c ≤ w.remaining c - 1 := by
  cases hfuture : w.future c with
  | some r' =>
    have hsome : ((w.work r).future c).isSome = true :=
      Option.isSome_iff_ne_none.2 (future_work (by simp [hfuture]))
    rw [remaining, if_pos hsome]
    exact Nat.zero_le _
  | none =>
    have hcurrent := h.pending c (h.held c hc hfuture) hfuture
    unfold work
    split
    next hposition hqueue =>
      rw [hposition, hqueue] at hcurrent
      simp at hcurrent
    next rest hposition hqueue =>
      rw [hposition, hqueue] at hcurrent
      simp at hcurrent
    next d rest hposition hqueue =>
      simp [remaining, hfuture, hposition]
    next d hposition =>
      rcases hcurrent with hqueue | hrunning
      · have hempty := (h.running d hposition).1
        rw [hqueue] at hempty
        cases hempty
      · rw [hposition] at hrunning
        obtain rfl := Position.running.inj hrunning
        simp [remaining]
    next d hposition => simp [remaining, hfuture, hposition]
    next hposition =>
      have hempty := (h.exited hposition).2
      rw [h.held c hc hfuture] at hempty
      cases hempty

end Progress

end Invariant

end Thread

/-- A worker excludes: its history is exclusive after every run, whatever the order in which its
parties act; the admission is locked while an admitted operation is not finished; and an admitted
operation has been executed once the thread has made three more steps. -/
structure Excludes {κ ρ σ α : Type*} (step : σ → α → σ) (thread : σ → Thread κ ρ)
    (locked : σ → Bool) (isWork : α → Bool) (start : σ) : Prop where
  exclusive : ∀ acts, Event.Exclusive (thread (Transition.run step start acts)).log
  held : ∀ acts c, .admitted c ∈ (thread (Transition.run step start acts)).log →
    (∀ r, .finished c r ∉ (thread (Transition.run step start acts)).log) →
    locked (Transition.run step start acts) = true
  executed : ∀ acts more c, .admitted c ∈ (thread (Transition.run step start acts)).log →
    3 ≤ more.countP isWork →
    ∃ r, .finished c r ∈ (thread (Transition.run step start (acts ++ more))).log

/-- The rule for `Excludes`: an invariant of the worker that gives the invariant of the thread, and
the thread moves in its own steps only. -/
theorem Excludes.of_invariant {κ ρ σ α : Type*} [DecidableEq κ] {step : σ → α → σ}
    {thread : σ → Thread κ ρ} {locked : σ → Bool} {isWork : α → Bool} {start : σ} {I : σ → Prop}
    (hstart : I start)
    (hthread : ∀ s, I s → ∃ holder, (thread s).Inv holder ∧ (holder ≠ none → locked s = true))
    (hstep : ∀ s a, I s → I (step s a))
    (hwork : ∀ s a, isWork a = true → ∃ r, thread (step s a) = (thread s).work r)
    (hkept : ∀ s a, isWork a = false → (thread s).Kept (thread (step s a))) :
    Excludes step thread locked isWork start where
  exclusive := by
    intro acts
    obtain ⟨holder, hinv, -⟩ := hthread _ (Transition.run_invariant step hstep hstart acts)
    exact hinv.exclusive
  held := by
    intro acts c hc hunfinished
    obtain ⟨holder, hinv, hlocked⟩ := hthread _ (Transition.run_invariant step hstep hstart acts)
    refine hlocked ?_
    cases hfuture : (thread (Transition.run step start acts)).future c with
    | none => simp [hinv.held c hc hfuture]
    | some r => exact absurd ((hinv.future_iff c r).1 hfuture) (hunfinished r)
  executed := by
    intro acts more c hc hcount
    have hadmitted : ∀ s a, .admitted c ∈ (thread s).log →
        .admitted c ∈ (thread (step s a)).log := by
      intro s a hmem
      cases ha : isWork a with
      | true =>
        obtain ⟨r, hr⟩ := hwork s a ha
        rw [hr]
        exact Thread.mem_log_work hmem
      | false => exact (hkept s a ha).log.subset hmem
    have hremaining : ∀ s a, I s → .admitted c ∈ (thread s).log →
        (thread (step s a)).remaining c ≤
          (thread s).remaining c - if isWork a = true then 1 else 0 := by
      intro s a hs hmem
      cases ha : isWork a with
      | true =>
        obtain ⟨r, hr⟩ := hwork s a ha
        obtain ⟨holder, hinv, -⟩ := hthread s hs
        rw [hr]
        exact Thread.remaining_work r hinv hmem
      | false => exact Nat.le_of_eq ((hkept s a ha).remaining c)
    -- Along the rest of the run the remaining steps are at most three less the steps made.
    have hrun : ∀ (l : List α) (s : σ), I s → .admitted c ∈ (thread s).log →
        (thread (Transition.run step s l)).remaining c ≤ (thread s).remaining c - l.countP isWork := by
      intro l
      induction l with
      | nil => exact fun s _ _ => Nat.le_of_eq (Nat.sub_zero _).symm
      | cons a l ih =>
        intro s hs hmem
        have hnext := ih (step s a) (hstep s a hs) (hadmitted s a hmem)
        have hone := hremaining s a hs hmem
        rw [Transition.run_cons, List.countP_cons]
        omega
    have hI := Transition.run_invariant step hstep hstart acts
    have hle := hrun more _ hI hc
    have hmax := Thread.remaining_le (thread (Transition.run step start acts)) c
    rw [← Transition.run_append] at hle
    obtain ⟨holder, hinv, -⟩ :=
      hthread _ (Transition.run_invariant step hstep hstart (acts ++ more))
    obtain ⟨r, hr⟩ : ∃ r, (thread (Transition.run step start (acts ++ more))).future c = some r := by
      cases hfuture : (thread (Transition.run step start (acts ++ more))).future c with
      | some r => exact ⟨r, rfl⟩
      | none =>
        have hpos := Thread.remaining_pos hfuture
        omega
    exact ⟨r, (hinv.future_iff c r).1 hr⟩

end CandleCraft.Runtime
