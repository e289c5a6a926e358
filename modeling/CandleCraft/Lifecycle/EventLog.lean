import CandleCraft.Lifecycle.Managed

/-!
# The event log of a lifecycle

Every write of a record's state is accompanied by an event, by two functions and in two tables. The
log is a second account of the state: its events, in the order in which they were inserted, lead
to the state that the record has. An event either creates the lifecycle, or starts in the state in
which the event before it ended and stays there or makes an allowed transition.
-/

namespace CandleCraft.Lifecycle

open Candles Relational SetupLifecycleState

section Log

/-- How an event continues a lifecycle: it creates it, reports a milestone in the state it has, or
makes an allowed transition. -/
inductive Continues (before : Option SetupLifecycleState) (e : SetupLifecycleEvent) : Prop where
  | created (hfrom : e.fromState = none)
  | stayed (hbefore : before = some e.toState) (hfrom : e.fromState = before)
  | moved {state} (hbefore : before = some state) (hfrom : e.fromState = before)
      (hallowed : e.toState ∈ state.allowedTransitions)

/-- The events of a lifecycle lead to a state; `none` if there are no events of it. -/
inductive LeadsTo (lifecycleId : String) :
    List SetupLifecycleEvent → Option SetupLifecycleState → Prop where
  | nil : LeadsTo lifecycleId [] none
  | other {log state e} (h : LeadsTo lifecycleId log state) (hid : e.lifecycleId ≠ lifecycleId) :
      LeadsTo lifecycleId (log ++ [e]) state
  | next {log before e} (h : LeadsTo lifecycleId log before) (hid : e.lifecycleId = lifecycleId)
      (hnext : Continues before e) : LeadsTo lifecycleId (log ++ [e]) (some e.toState)

def Logged (log : List SetupLifecycleEvent) (states : String → Option SetupLifecycleState) : Prop :=
  ∀ lifecycleId, LeadsTo lifecycleId log (states lifecycleId)

/-- A result leaves a lifecycle in its state, or has an event for the state it is in then. -/
structure Reported (lifecycleId : String) (before : Option SetupLifecycleState)
    (t : SetupTransitionResult) : Prop where
  lifecycleId_eq : t.record.lifecycleId = lifecycleId
  silent : t.event = none → before = some t.record.currentState
  event : ∀ e, t.event = some e →
    e.lifecycleId = lifecycleId ∧ e.toState = t.record.currentState ∧ Continues before e

variable {log : List SetupLifecycleEvent} {states : String → Option SetupLifecycleState}
variable {lifecycleId : String} {before : Option SetupLifecycleState} {t : SetupTransitionResult}
variable {e : SetupLifecycleEvent}

theorem Reported.of_silent (hid : t.record.lifecycleId = lifecycleId) (hevent : t.event = none)
    (hstate : before = some t.record.currentState) : Reported lifecycleId before t :=
  ⟨hid, fun _ => hstate, fun _ he => nomatch hevent.symm.trans he⟩

theorem Reported.of_event (hid : t.record.lifecycleId = lifecycleId) (hevent : t.event = some e)
    (heid : e.lifecycleId = lifecycleId) (hto : e.toState = t.record.currentState)
    (hnext : Continues before e) : Reported lifecycleId before t :=
  ⟨hid, fun hnone => (nomatch hevent.symm.trans hnone),
    fun _ he => Option.some.inj (hevent.symm.trans he) ▸ ⟨heid, hto, hnext⟩⟩

theorem Logged.append (h : Logged log states) (he : Continues (states e.lifecycleId) e) :
    Logged (log ++ [e]) (Function.update states e.lifecycleId (some e.toState)) := by
  intro lifecycleId
  by_cases hid : lifecycleId = e.lifecycleId
  · rw [hid, Function.update_self]
    exact .next (h _) rfl he
  · rw [Function.update_of_ne hid]
    exact .other (h lifecycleId) (Ne.symm hid)

theorem Logged.stayed (h : Logged log states) (hstate : states e.lifecycleId = some e.toState)
    (hfrom : e.fromState = some e.toState) : Logged (log ++ [e]) states := by
  have happend := h.append (.stayed hstate (hfrom.trans hstate.symm))
  rw [← hstate, Function.update_eq_self] at happend
  exact happend

theorem Logged.report (h : Logged log states) (ht : Reported lifecycleId (states lifecycleId) t) :
    Logged (log ++ t.event.toList)
      (Function.update states t.record.lifecycleId (some t.record.currentState)) := by
  rw [ht.lifecycleId_eq]
  cases hevent : t.event with
  | none =>
    rw [Option.toList_none, List.append_nil, ← ht.silent hevent, Function.update_eq_self]
    exact h
  | some e =>
    obtain ⟨rfl, hto, hnext⟩ := ht.event e hevent
    rw [← hto]
    exact h.append hnext

theorem reported_transitionRecord (record : SetupLifecycleRecord) (toState : SetupLifecycleState)
    (request : TransitionRequest) (clock : Clock) :
    Reported record.lifecycleId (some record.currentState)
      (transitionRecord record toState request clock) := by
  unfold transitionRecord
  split
  · exact .of_silent rfl rfl rfl
  · split
    · exact .of_silent rfl rfl rfl
    next hallowed =>
      rw [not_not, transitionAllowed, decide_eq_true_eq] at hallowed
      split
      · exact .of_silent rfl rfl rfl
      · exact .of_event rfl rfl rfl rfl (.moved rfl rfl hallowed)

theorem Reported.withEconomicIdentities (h : Reported lifecycleId before t)
    (o : LifecycleObservation) (sha256 : String → String) (previous : Option SetupLifecycleRecord) :
    Reported lifecycleId before (withEconomicIdentities o sha256 previous t) :=
  { h with }

theorem reported_createdResult (sha256 : String → String) (o : LifecycleObservation)
    (call : LifecycleCall) : Reported call.lifecycleId before (createdResult sha256 o call) := by
  refine Reported.withEconomicIdentities ?_ o sha256 none
  have hid : (gateNewRecord (newRecord o call)).lifecycleId = call.lifecycleId :=
    gateNewRecord_lifecycleId _
  generalize gateNewRecord (newRecord o call) = record at hid ⊢
  exact .of_event hid rfl rfl rfl (.created rfl)

theorem reported_observedResult (sha256 : String → String) (record : SetupLifecycleRecord)
    (o : LifecycleObservation) (call : LifecycleCall) :
    Reported record.lifecycleId (some record.currentState) (observedResult record o call sha256) := by
  refine Reported.withEconomicIdentities ?_ o sha256 _
  rw [observeRecord]
  rcases disposition_cases record o call with ⟨failure, -, -, hcase⟩ | ⟨-, -, -, hcase⟩ |
    ⟨-, -, hcase⟩ | ⟨-, -, hcase⟩ <;> rw [hcase]
  · exact .of_silent rfl rfl rfl
  · exact reported_transitionRecord _ _ _ _
  · exact .of_silent rfl rfl rfl
  · -- the proposal is about the refreshed record, which is in the state of the record
    have hid : (proposal record (effectiveObservation record o) call).record.lifecycleId =
        record.lifecycleId :=
      (lifecycleId_of_settled (proposal_settled record _ call)).trans
        (congrArg RecordIdentity.lifecycleId (recordWithObservation_toRecordIdentity record _ call))
    have hstate := proposal_currentState record (effectiveObservation record o) call
    rw [← hid, ← hstate]
    exact reported_transitionRecord _ _ _ _

end Log

namespace Pass

variable {states : String → Option SetupLifecycleState} {s s' : Pass} {g : StoredPlanGeometry}
  {clock : Clock} {bar : Bar}

/-- The log of the loop leads to the state of its record; the other lifecycles are as they were. -/
def Logged (states : String → Option SetupLifecycleState) (s : Pass) : Prop :=
  Lifecycle.Logged s.events
    (Function.update states s.record.lifecycleId (some s.record.currentState))

theorem Logged.insertMilestoneEvent (h : s.Logged states) (reason : SetupTransitionReason)
    (eventType : String) (level : Level) (evidence : Option EntryEvidence) :
    (s.insertMilestoneEvent clock bar reason eventType level evidence).Logged states := by
  exact Lifecycle.Logged.stayed h (Function.update_self ..) rfl

theorem Logged.adopt {t : SetupTransitionResult} (h : s.Logged states)
    (ht : Reported s.record.lifecycleId (some s.record.currentState) t) :
    (s.adopt t).Logged states := by
  rw [← Function.update_self s.record.lifecycleId (some s.record.currentState) states] at ht
  have hreport := Lifecycle.Logged.report h ht
  rw [ht.lifecycleId_eq, Function.update_idem, ← ht.lifecycleId_eq] at hreport
  exact hreport

theorem Logged.advanceToManaging (h : s.Logged states) (n : ℕ) :
    (advanceToManaging clock bar n s).Logged states := by
  induction n generalizing s with
  | zero => exact h
  | succ n ih =>
    unfold Pass.advanceToManaging
    split
    · exact h
    · dsimp only
      generalize ({ reason := _, notes := _ } : TransitionRequest) = request
      split_ifs
      · exact h
      · exact h.adopt (reported_transitionRecord ..)
      · exact ih (h.adopt (reported_transitionRecord ..))

theorem Logged.activateEntry (h : s.Logged states) :
    (s.activateEntry g clock bar).Logged states := by
  have hwith : (s.withEntryEvidence bar (s.entryEvidence g bar)).Logged states := h
  exact (hwith.insertMilestoneEvent _ _ _ _).advanceToManaging 4

theorem Logged.recordTerminalTransition {toState : SetupLifecycleState}
    {reason : SetupTransitionReason} {eventType policyReason : String} {level : Level}
    (h : s.Logged states)
    (hs : s.recordTerminalTransition clock bar toState reason eventType policyReason level = .ok s') :
    s'.Logged states := by
  unfold Pass.recordTerminalTransition at hs
  dsimp only at hs
  split at hs
  · cases hs
  · cases hs
    exact h.adopt (reported_transitionRecord ..)

theorem Logged.recordStop {ambiguityReason : String} {breakeven : Bool} (h : s.Logged states)
    (hs : s.recordStop g clock bar ambiguityReason breakeven = .ok s') : s'.Logged states := by
  unfold Pass.recordStop at hs
  dsimp only at hs
  split at hs
  · cases hs
  next stopped hstopped =>
    cases hs
    exact (h.recordTerminalTransition hstopped : stopped.Logged states)

theorem Logged.creditTargets (h : s.Logged states) (touched : List (ℕ × ℚ)) :
    (touched.foldl (fun s target => s.creditTarget clock bar target) s).Logged states := by
  induction touched generalizing s with
  | nil => exact h
  | cons target touched ih =>
    have hcredited : (s.creditTarget clock bar target).Logged states :=
      Logged.insertMilestoneEvent (s := { s with progress := s.progress.creditTarget target.1 _ })
        h _ _ _ _
    exact ih hcredited

theorem Logged.processTargets {touched : List (ℕ × ℚ)} (h : s.Logged states)
    (hs : s.processTargets clock bar touched = .ok s') : s'.Logged states := by
  have hcredited : (touched.foldl (fun s t => s.creditTarget clock bar t) s).Logged states :=
    h.creditTargets touched
  unfold Pass.processTargets at hs
  dsimp only at hs
  split at hs
  · split at hs
    · cases hs
    next ended hended =>
      cases hs
      exact (hcredited.recordTerminalTransition hended : ended.Logged states)
  · cases hs
    exact hcredited

theorem Logged.processUnfilled (h : s.Logged states)
    (hs : s.processUnfilled g clock bar = .ok s') : s'.Logged states := by
  have hentered : (s.activateEntry g clock bar).Logged states := h.activateEntry
  unfold Pass.processUnfilled at hs
  dsimp only at hs
  split_ifs at hs
  · cases hs
    exact hentered
  · split at hs
    · cases hs
    next stopped hstopped =>
      cases hs
      exact (hentered.recordStop hstopped : stopped.Logged states)
  · cases hs
    exact hentered
  · cases hs
    exact h

theorem Logged.processFilled (h : s.Logged states) (hs : s.processFilled g clock bar = .ok s') :
    s'.Logged states := by
  unfold Pass.processFilled at hs
  split at hs
  · cases hs
  next breakeven _ =>
    by_cases hstop : (if breakeven then referenceStopTouched bar g else stopTouched bar g) = true
    · rw [if_pos hstop] at hs
      split at hs
      · cases hs
      next stopped hstopped =>
        cases hs
        exact (h.recordStop hstopped : stopped.Logged states)
    · rw [if_neg hstop] at hs
      exact h.processTargets hs

theorem Logged.processPlan (h : s.Logged states) (hs : s.processPlan g clock bar = .ok s') :
    s'.Logged states := by
  unfold Pass.processPlan at hs
  split at hs
  · exact h.processUnfilled hs
  · exact h.processFilled hs

theorem Logged.scan {bars : List Bar} (h : s.Logged states) (hs : s.scan g clock bars = .ok s') :
    s'.Logged states := by
  refine Scan.runUntil_induction (I := Logged states) ?_ h hs
  intro s bar _ s' _ h hs
  obtain ⟨t, ht, rfl⟩ := Scan.map_ok hs
  exact (h.processPlan ht : t.Logged states)

end Pass

section Service

variable {sha256 : String → String} {repo : Repository}

/-- The state that the records have. -/
def Repository.states (repo : Repository) (lifecycleId : String) : Option SetupLifecycleState :=
  (repo.records.fetch lifecycleId).map fun record => record.currentState

theorem Repository.states_put {repo' : Repository} {record : SetupLifecycleRecord}
    (h : repo'.records = repo.records.put record) :
    repo'.states = Function.update repo.states record.lifecycleId (some record.currentState) := by
  funext lifecycleId
  rw [states, h, Table.fetch_put, Function.update_apply]
  by_cases hid : lifecycleId = record.lifecycleId
  · rw [if_pos hid.symm, if_pos hid]
    rfl
  · rw [if_neg (Ne.symm hid), if_neg hid]
    rfl

theorem Repository.logged_evaluate {repo' : Repository} {record : SetupLifecycleRecord} {call : Call}
    {candles : List RawCandle} {evaluation : LifecycleOutcomeEvaluation}
    (h : Logged repo.events repo.states)
    (hrecord : repo.states record.lifecycleId = some record.currentState)
    (hok : evaluateClosedCandleOutcomes sha256 record call repo candles = .ok (evaluation, repo')) :
    Logged repo'.events repo'.states := by
  rcases evaluateWithIdentities_comes record call repo (compatiblePlanIdentities sha256 record)
    candles with ⟨r, hr, heq⟩ | ⟨g, started, bars, pending, -, heq⟩
  · cases hok.symm.trans heq
    cases hr <;> exact h
  · obtain ⟨s, hs, hfinish⟩ := Scan.map_ok (heq.symm.trans hok)
    cases hfinish
    have hstart : (startPass record repo started).Logged repo.states := by
      show Logged repo.events
        (Function.update repo.states record.lifecycleId (some record.currentState))
      rw [← hrecord, Function.update_eq_self]
      exact h
    rw [states_put rfl]
    exact hstart.scan hs

theorem Repository.logged_serve (h : Logged repo.events repo.states) (a : ServiceAction) :
    Logged (repo.serve sha256 a).events (repo.serve sha256 a).states := by
  have hstored {lifecycleId : String} {record : SetupLifecycleRecord}
      (hrecord : repo.records.fetch lifecycleId = some record) :
      repo.states record.lifecycleId = some record.currentState := by
    rw [repo.lifecycleId_of_fetch hrecord, states, hrecord]
    rfl
  have hserved : Served sha256 repo a (repo.serve sha256 a) := repo.serve_cases a
  generalize repo.serve sha256 a = repo' at hserved ⊢
  cases hserved with
  | idle => exact h
  | @created o call hsymbol =>
    rw [states_put rfl]
    exact h.report (reported_createdResult sha256 o call)
  | @observed o call record hrecord | @held o call record hrecord =>
    rw [states_put rfl]
    exact h.report (hstored hrecord ▸ reported_observedResult sha256 record o call)
  | evaluated hrecord hok => exact logged_evaluate h (hstored hrecord) hok
  | noted | authorized => exact h

/-- In every run of the service that starts with empty tables, the events of each lifecycle lead, by
creations, milestones and allowed transitions, to the state that its record has. -/
theorem event_log_leads_to_state (sha256 : String → String) (authority : Outbox.Authority)
    (actions : List ServiceAction) (lifecycleId : String) :
    let repo := Transition.run (Repository.serve sha256) ⟨authority, .empty, .empty, []⟩ actions
    LeadsTo lifecycleId repo.events
      ((repo.records.fetch lifecycleId).map fun record => record.currentState) :=
  Transition.run_invariant (Repository.serve sha256) (I := fun repo => Logged repo.events repo.states)
    (fun _ a h => Repository.logged_serve h a) (fun _ => .nil) actions lifecycleId

end Service

end CandleCraft.Lifecycle
