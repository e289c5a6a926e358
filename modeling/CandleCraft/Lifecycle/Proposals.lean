import CandleCraft.Lifecycle.StateMachine

/-!
# What an observation can do to a record

`disposition_cases` lists the four ways an observation ends. The rest follows a proposal
through the geometry gate, the decay and `transition_record`: which columns it leaves alone,
and which states it can reach.
-/

namespace CandleCraft.Lifecycle

open Candles SetupLifecycleState

section Cases

variable {record : SetupLifecycleRecord} {o : LifecycleObservation} {call : LifecycleCall}

def PlanAccepted (record : SetupLifecycleRecord) : Prop :=
  record.currentState ∈ activeMonitoring → storedPlanGeometryFailure record = none

/-- The four ways an observation of a record ends. -/
theorem disposition_cases (record : SetupLifecycleRecord) (o : LifecycleObservation)
    (call : LifecycleCall) :
    (∃ failure, record.currentState ∈ activeMonitoring ∧
      storedPlanGeometryFailure record = some failure ∧
      disposition record o call = .blocked failure) ∨
    (PlanAccepted record ∧ o.closedCandleOutcomesManaged = true ∧
      record.currentState ∈ [tpHit, slHit, breakeven] ∧
      disposition record o call =
        .submitted record record.currentState (keepTerminalRequest record)) ∨
    (PlanAccepted record ∧ holdsOwner record (effectiveObservation record o) ∧
      disposition record o call = .held) ∨
    (PlanAccepted record ∧ ¬ holdsOwner record (effectiveObservation record o) ∧
      disposition record o call = submission record (effectiveObservation record o) call) := by
  by_cases hblocked : record.currentState ∈ activeMonitoring ∧
      (storedPlanGeometryFailure record).isSome
  · obtain ⟨hactive, hfailure⟩ := hblocked
    obtain ⟨failure, hfailure⟩ := Option.isSome_iff_exists.1 hfailure
    refine .inl ⟨failure, hactive, hfailure, ?_⟩
    unfold disposition
    rw [hfailure]
    exact if_pos hactive
  · have haccepted : PlanAccepted record := by
      intro hactive
      cases hfailure : storedPlanGeometryFailure record with
      | none => rfl
      | some failure => exact absurd ⟨hactive, by rw [hfailure]; rfl⟩ hblocked
    have hopen : disposition record o call = openDisposition record o call := by
      unfold disposition
      split
      next failure hfailure =>
        rw [if_neg]
        intro hactive
        rw [haccepted hactive] at hfailure
        cases hfailure
      next => rfl
    rw [hopen]
    unfold openDisposition
    split_ifs with hmanaged hholds
    · exact .inr (.inl ⟨haccepted, hmanaged.1, hmanaged.2, rfl⟩)
    · exact .inr (.inr (.inl ⟨haccepted, hholds, rfl⟩))
    · exact .inr (.inr (.inr ⟨haccepted, hholds, rfl⟩))

theorem effectiveObservation_of_not_touched
    (h : storedMonitoringEntryZoneTouched record o = false) : effectiveObservation record o = o := by
  rw [effectiveObservation, if_neg]
  rw [h]
  exact fun hbad => Bool.false_ne_true hbad.2

theorem effectiveObservation_of_terminal (h : o.terminal = true) :
    effectiveObservation record o = o := by
  apply effectiveObservation_of_not_touched
  simp only [storedMonitoringEntryZoneTouched, h, Bool.not_true, Bool.and_false, Bool.false_and]

theorem effectiveObservation_of_not_monitor (h : record.currentState ∉ entryTouchMonitor) :
    effectiveObservation record o = o := by
  apply effectiveObservation_of_not_touched
  simp only [storedMonitoringEntryZoneTouched, h, decide_false, Bool.false_and]

end Cases

section Frame

variable (record : SetupLifecycleRecord) (o : LifecycleObservation) (call : LifecycleCall)
variable {r₁ r₂ : SetupLifecycleRecord}

theorem recordWithObservation_toRecordIdentity :
    (recordWithObservation record o call).toRecordIdentity = record.toRecordIdentity := by
  rw [recordWithObservation]

theorem recordWithObservation_toInvalidationTexts :
    (recordWithObservation record o call).toInvalidationTexts =
      { invalidationReason := observedInvalidation record o record.invalidationReason
          o.invalidationOrGate
        invalidationLogic := observedInvalidation record o record.invalidationLogic
          o.invalidationReason } := by
  rw [recordWithObservation]

theorem recordWithObservation_currentState :
    (recordWithObservation record o call).currentState = record.currentState := by
  rw [recordWithObservation, observedStage]

theorem recordWithObservation_toConfirmation :
    (recordWithObservation record o call).toConfirmation =
      observedConfirmation record o call (setupConsistent record o call.setupTolerancePct) := by
  rw [recordWithObservation]

/-- The columns an observation settles when it refreshes the record: the geometry gate, the
decay and the transition leave them alone. -/
structure Settled where
  identity : RecordIdentity
  plan : PlanFields StoredText
  lineage : Lineage
  confirmationCount : ℕ
  requiredConfirmationCycles : ℕ
  qualityGradeConfirmed : String
  confirmedAt : Option Stamp

def SetupLifecycleRecord.settled : Settled where
  identity := record.toRecordIdentity
  plan := record.toPlanFields
  lineage := record.toLineage
  confirmationCount := record.confirmationCount
  requiredConfirmationCycles := record.requiredConfirmationCycles
  qualityGradeConfirmed := record.qualityGradeConfirmed
  confirmedAt := record.confirmedAt

theorem lifecycleId_of_settled (h : r₁.settled = r₂.settled) : r₁.lifecycleId = r₂.lifecycleId :=
  congrArg (fun s : Settled => s.identity.lifecycleId) h

theorem confirmationCount_of_settled (h : r₁.settled = r₂.settled) :
    r₁.confirmationCount = r₂.confirmationCount :=
  congrArg Settled.confirmationCount h

theorem confirmedAt_of_settled (h : r₁.settled = r₂.settled) : r₁.confirmedAt = r₂.confirmedAt :=
  congrArg Settled.confirmedAt h

theorem qualityGradeConfirmed_of_settled
    (h : r₁.settled = r₂.settled) : r₁.qualityGradeConfirmed = r₂.qualityGradeConfirmed :=
  congrArg Settled.qualityGradeConfirmed h

/-- The state an observation points to, from the record that it has refreshed. -/
def freshState : SetupLifecycleState :=
  nextStateForObservation (recordWithObservation record o call) o call.evaluatedAt

def gatedProposal (record : SetupLifecycleRecord) (o : LifecycleObservation) (call : LifecycleCall) :
    Proposal :=
  gateGeometry ⟨recordWithObservation record o call,
    nextStateForObservation (recordWithObservation record o call) o call.evaluatedAt, none, false⟩

/-- The geometry gate writes the failed gate and nothing else of the record. -/
theorem gateGeometry_frame (p : Proposal) :
    (gateGeometry p).record.settled = p.record.settled ∧
      (gateGeometry p).record.currentState = p.record.currentState ∧
      (gateGeometry p).record.toInvalidationTexts = p.record.toInvalidationTexts ∧
      (gateGeometry p).record.toConfirmation = p.record.toConfirmation ∧
      (gateGeometry p).record.toLineage = p.record.toLineage := by
  unfold gateGeometry
  split
  · exact ⟨rfl, rfl, rfl, rfl, rfl⟩
  · split_ifs <;> exact ⟨rfl, rfl, rfl, rfl, rfl⟩

theorem gatedProposal_currentState :
    (gatedProposal record o call).record.currentState = record.currentState := by
  rw [gatedProposal, (gateGeometry_frame _).2.1, recordWithObservation_currentState]

theorem decay_settled (p : Proposal) : (decay p).record.settled = p.record.settled := by
  unfold decay
  split
  · rfl
  · rfl
  · split_ifs <;> rfl

theorem decay_currentState (p : Proposal) :
    (decay p).record.currentState = p.record.currentState := by
  unfold decay
  split
  · rfl
  · rfl
  · split_ifs <;> rfl

/-- A decay either leaves the proposed state and the invalidation texts alone, or expires
the record. -/
theorem decay_nextState (p : Proposal) :
    ((decay p).nextState = p.nextState ∧
      (decay p).record.toInvalidationTexts = p.record.toInvalidationTexts) ∨
    (decay p).nextState = .expired := by
  unfold decay
  split
  · exact .inl ⟨rfl, rfl⟩
  · exact .inl ⟨rfl, rfl⟩
  · split_ifs
    · exact .inl ⟨rfl, rfl⟩
    · exact .inr rfl

theorem proposal_eq :
    proposal record o call = applyDecayIfNeeded record o (gatedProposal record o call) := rfl

/-- What passed the geometry gate is proposed, or decays where the record stays. -/
theorem proposal_cases :
    proposal record o call = gatedProposal record o call ∨
    ((gatedProposal record o call).nextState = record.currentState ∧
      record.currentState ∈ decayable ∧
      proposal record o call = decay (gatedProposal record o call)) := by
  rw [proposal_eq]
  generalize gatedProposal record o call = p
  unfold applyDecayIfNeeded
  split_ifs with hstay
  · exact .inl rfl
  · exact .inl rfl
  · exact .inl rfl
  · exact .inl rfl
  · push Not at hstay
    exact .inr ⟨hstay.1, by rw [← hstay.1]; exact hstay.2, rfl⟩

theorem proposal_settled :
    (proposal record o call).record.settled = (recordWithObservation record o call).settled := by
  rcases proposal_cases record o call with h | ⟨-, -, h⟩
  · rw [h, gatedProposal, (gateGeometry_frame _).1]
  · rw [h, decay_settled, gatedProposal, (gateGeometry_frame _).1]

theorem proposal_currentState :
    (proposal record o call).record.currentState = record.currentState := by
  rcases proposal_cases record o call with h | ⟨-, -, h⟩
  · rw [h, gatedProposal_currentState]
  · rw [h, decay_currentState, gatedProposal_currentState]

theorem transitionRecord_settled (r : SetupLifecycleRecord) (toState : SetupLifecycleState)
    (request : TransitionRequest) (clock : Clock) :
    (transitionRecord r toState request clock).record.settled = r.settled := by
  unfold transitionRecord
  split_ifs <;> rfl

theorem transitionRecord_texts (r : SetupLifecycleRecord) (toState : SetupLifecycleState)
    (request : TransitionRequest) (clock : Clock) :
    (transitionRecord r toState request clock).record.toInvalidationTexts =
      r.toInvalidationTexts := by
  unfold transitionRecord
  split_ifs <;> rfl

theorem transitionRecord_currentState (r : SetupLifecycleRecord) (toState : SetupLifecycleState)
    (request : TransitionRequest) (clock : Clock) :
    (transitionRecord r toState request clock).record.currentState = toState ∨
    (transitionRecord r toState request clock).record.currentState = r.currentState := by
  unfold transitionRecord
  split_ifs
  · exact .inr rfl
  · exact .inr rfl
  · exact .inl rfl
  · exact .inr rfl

theorem holdOwner_settled : (holdOwner record call).record.settled = record.settled := by
  simp only [holdOwner, SetupLifecycleRecord.settled]

theorem holdOwner_currentState : (holdOwner record call).record.currentState = record.currentState := by
  rw [holdOwner]

theorem holdOwner_texts :
    (holdOwner record call).record.toInvalidationTexts = record.toInvalidationTexts := by
  rw [holdOwner]

theorem submission_settled :
    ((submission record o call).result record call).record.settled =
      (recordWithObservation record o call).settled := by
  show (transitionRecord _ _ _ _).record.settled = _
  rw [transitionRecord_settled, proposal_settled]

end Frame

section Evaluation

variable (sha256 : String → String) (record : SetupLifecycleRecord) (o : LifecycleObservation)
  (call : LifecycleCall)

theorem evaluateLifecycleTransition_some :
    evaluateLifecycleTransition sha256 (some record) o call =
      .ok (observedResult record o call sha256) :=
  rfl

section

variable (previous : Option SetupLifecycleRecord) (t : SetupTransitionResult)

theorem withEconomicIdentities_allowed :
    (withEconomicIdentities o sha256 previous t).allowed = t.allowed := rfl

theorem withEconomicIdentities_settled :
    (withEconomicIdentities o sha256 previous t).record.settled = t.record.settled := rfl

theorem withEconomicIdentities_currentState :
    (withEconomicIdentities o sha256 previous t).record.currentState = t.record.currentState := rfl

theorem withEconomicIdentities_texts :
    (withEconomicIdentities o sha256 previous t).record.toInvalidationTexts =
      t.record.toInvalidationTexts := rfl

end

theorem observedResult_allowed :
    (observedResult record o call sha256).allowed = (observeRecord record o call).allowed :=
  withEconomicIdentities_allowed _ _ _ _

theorem observedResult_settled :
    (observedResult record o call sha256).record.settled =
      (observeRecord record o call).record.settled :=
  withEconomicIdentities_settled _ _ _ _

theorem observedResult_currentState :
    (observedResult record o call sha256).record.currentState =
      (observeRecord record o call).record.currentState :=
  withEconomicIdentities_currentState _ _ _ _

theorem observedResult_texts :
    (observedResult record o call sha256).record.toInvalidationTexts =
      (observeRecord record o call).record.toInvalidationTexts :=
  withEconomicIdentities_texts _ _ _ _

end Evaluation

section Legality

variable (record : SetupLifecycleRecord) (o : LifecycleObservation) (call : LifecycleCall)
variable {request : TransitionRequest} {toState : SetupLifecycleState}

/-- A target `transition_record` accepts: the state the record is in, or an allowed
successor with a reason it accepts. -/
def LegalTarget (current target : SetupLifecycleState) (reason : SetupTransitionReason) : Prop :=
  target = current ∨
    (transitionAllowed current target = true ∧ requiresTouchReason current target reason = false)

variable {r : SetupLifecycleRecord} {current next : SetupLifecycleState}

theorem transitionRecord_allowed_iff (clock : Clock) :
    (transitionRecord r toState request clock).allowed = true ↔
      LegalTarget r.currentState toState request.reason := by
  unfold transitionRecord LegalTarget
  split_ifs with hsame hallowed htouch
  · exact iff_of_true rfl (.inl hsame.symm)
  · refine iff_of_false (by simp [refusedTransition]) ?_
    rintro (heq | hlegal)
    · exact hsame heq.symm
    · simp [htouch] at hlegal
  · exact iff_of_true rfl (.inr ⟨hallowed, by simpa using htouch⟩)
  · refine iff_of_false (by simp [refusedTransition]) ?_
    rintro (heq | hlegal)
    · exact hsame heq.symm
    · exact hallowed hlegal.1

theorem transitionRecord_currentState_of_legal (clock : Clock)
    (h : LegalTarget r.currentState toState request.reason) :
    (transitionRecord r toState request clock).record.currentState = toState := by
  unfold transitionRecord
  by_cases hsame : r.currentState = toState
  · rw [if_pos hsame]
    exact hsame
  · obtain ⟨hallowed, htouch⟩ := h.resolve_left fun heq => hsame heq.symm
    rw [if_neg hsame, if_neg (by simpa using hallowed), if_neg (by simp [htouch])]
    rfl

theorem transitionRecord_currentState_of_refused (clock : Clock)
    (h : transitionAllowed r.currentState toState = false) :
    (transitionRecord r toState request clock).record.currentState = r.currentState := by
  unfold transitionRecord
  split_ifs with hsame hallowed
  · rfl
  · rfl
  · rw [h] at hallowed
    cases hallowed
  · rfl

/-- The branch of TRIGGERED that proposes the target of a valid idea as it is. -/
def ProposesUnfiltered (now : SetupLifecycleRecord) : Prop :=
  now.currentState = .triggered ∧ o.invalidated = false ∧
    (o.pullbackAndRrValid = true ∨ o.validTradeIdea = true) ∧
    gatedTarget now o ∈ [tpHit, slHit, watchlisted, discovered]

theorem observedState_mem : o.observedState ∈ [tpHit, slHit, rejected, invalidated, expired,
    confirmed, actionableAGrade, aGradeWatch, triggered, stalking, watchlisted, discovered] := by
  unfold LifecycleObservation.observedState
  repeat' apply iteInduction <;> intro
  all_goals decide

theorem preConfirmationState_mem :
    o.preConfirmationState ∈ [triggered, stalking, watchlisted, discovered] := by
  unfold LifecycleObservation.preConfirmationState
  split_ifs <;> decide

theorem gatedTarget_mem : gatedTarget record o ∈ [tpHit, slHit, rejected, invalidated, expired,
    confirmed, actionableAGrade, aGradeWatch, triggered, stalking, watchlisted, discovered] := by
  unfold gatedTarget confirmationGatedTarget
  split_ifs
  · exact observedState_mem o
  · exact List.mem_of_mem_drop (i := 8) (preConfirmationState_mem o)
  · exact observedState_mem o

/-- The confirmation gate neither makes nor unmakes an end. -/
theorem gatedTarget_eq_iff {state : SetupLifecycleState}
    (h : state ∈ [tpHit, slHit, rejected, invalidated, expired]) :
    gatedTarget record o = state ↔ o.observedState = state := by
  unfold gatedTarget confirmationGatedTarget
  split_ifs with hgated hready
  · exact Iff.rfl
  · have hpre := preConfirmationState_mem o
    refine iff_of_false (fun heq => ?_) fun heq => ?_
    · rw [heq] at hpre
      revert h hpre
      cases state <;> decide
    · rw [heq] at hgated
      revert h hgated
      cases state <;> decide
  · exact Iff.rfl

theorem nextFromTriggered_legal (h : ¬ ProposesUnfiltered o record)
    (hstate : record.currentState = .triggered) :
    nextFromTriggered o (gatedTarget record o) = .triggered ∨
      transitionAllowed .triggered (nextFromTriggered o (gatedTarget record o)) = true := by
  unfold nextFromTriggered
  split_ifs with hinvalid hactionable hwatch hvalid hsweep
  · exact .inr (by decide)
  · exact .inr (by decide)
  · exact .inr (by decide)
  · -- the target itself: what is left of the possible targets is allowed
    have hmem := gatedTarget_mem record o
    have hrest : gatedTarget record o ∉ [tpHit, slHit, watchlisted, discovered] := by
      intro hmem'
      exact h ⟨hstate, by simpa using fun h => hinvalid (.inl h), hvalid, hmem'⟩
    have hrejected : gatedTarget record o ≠ .rejected := fun heq => hinvalid (.inr heq)
    revert hmem hrest hrejected hactionable hwatch
    generalize gatedTarget record o = target
    cases target <;> decide
  · exact .inr (by decide)
  · exact .inl rfl

def LegalMove (current next : SetupLifecycleState) : Prop :=
  next = current ∨
    (transitionAllowed current next = true ∧
      (next = .triggered → current ∈ entryTouchReasonRequired → o.entryFilled = true))

variable {o} in
theorem LegalMove.of_ne_triggered (h : transitionAllowed current next = true)
    (hne : next ≠ .triggered) :
    LegalMove o current next :=
  .inr ⟨h, fun heq => absurd heq hne⟩

theorem nextFromConfirmed_legal (target : SetupLifecycleState) :
    LegalMove o .confirmed (nextFromConfirmed o target) := by
  unfold nextFromConfirmed
  repeat' apply iteInduction <;> intro
  all_goals first
    | exact .inl rfl
    | exact .of_ne_triggered (by decide) (by decide)

/-- What `next_state_for_observation` proposes is legal, the unfiltered branch apart. -/
theorem nextStateForObservation_legal (now : Instant) (h : ¬ ProposesUnfiltered o record) :
    LegalMove o record.currentState (nextStateForObservation record o now) := by
  unfold nextStateForObservation
  split
  case h_10 heq =>
    rw [heq]
    exact nextFromConfirmed_legal o _
  case h_17 heq =>
    rw [heq]
    rcases nextFromTriggered_legal record o h heq with hsame | hallowed
    · exact .inl hsame
    · exact .inr ⟨hallowed, fun _ hmem => absurd hmem (by decide)⟩
  case h_18 => exact .inl rfl
  -- the other states propose fixed states; TRIGGERED is proposed on a filled entry only
  all_goals
    rename_i heq
    rw [heq]
    repeat' apply iteInduction <;> intro
  all_goals first
    | exact .inl rfl
    | exact .of_ne_triggered (by decide) (by decide)
    | exact .inr ⟨by decide, fun _ hmem => absurd hmem (by decide)⟩
    | exact .inr ⟨by decide, fun _ _ => by assumption⟩
    | exact .inr ⟨by decide, fun _ _ => by simp_all [entryTouchProposed]⟩

/-- The geometry gate keeps a proposal whose plan is accepted if it is active, rejects it where
that is allowed, or keeps the record where it is. -/
theorem gatedProposal_cases :
    ((gatedProposal record o call).nextState = freshState record o call ∧
      (freshState record o call ∈ activeMonitoring →
        storedPlanGeometryFailure (recordWithObservation record o call) = none)) ∨
    ((gatedProposal record o call).nextState = .rejected ∧
      transitionAllowed record.currentState .rejected = true) ∨
    ((gatedProposal record o call).nextState = record.currentState ∧
      freshState record o call ∈ activeMonitoring) := by
  unfold gatedProposal gateGeometry
  rw [← freshState]
  split
  next hnone => exact .inl ⟨rfl, fun _ => hnone⟩
  · dsimp only
    rw [recordWithObservation_currentState]
    split_ifs with hactive hallowed
    · exact .inr (.inl ⟨rfl, hallowed⟩)
    · exact .inr (.inr ⟨rfl, hactive⟩)
    · exact .inl ⟨rfl, fun h => absurd h hactive⟩

theorem gateGeometry_of_accepted {p : Proposal}
    (h : p.nextState ∈ activeMonitoring → storedPlanGeometryFailure p.record = none) :
    gateGeometry p = p := by
  unfold gateGeometry
  split
  · rfl
  next failure hfailure =>
    refine if_neg fun hactive => ?_
    rw [h hactive] at hfailure
    cases hfailure

theorem transitionAllowed_expired {current : SetupLifecycleState} (h : current ∈ decayable) :
    transitionAllowed current .expired = true := by
  revert h
  cases current <;> decide

/-- The state an observation proposes past the geometry gate and the decay: the fresh one, with
an accepted plan if it is active, the state the record is in in place of an active one or where
it stays, or a rejection or an expiry that the table allows. -/
theorem proposal_nextState_cases :
    ((proposal record o call).nextState = freshState record o call ∧
      (freshState record o call ∈ activeMonitoring →
        storedPlanGeometryFailure (recordWithObservation record o call) = none)) ∨
    ((proposal record o call).nextState = record.currentState ∧
      freshState record o call ∈ activeMonitoring) ∨
    ((proposal record o call).nextState ∈ [rejected, expired] ∧
      transitionAllowed record.currentState (proposal record o call).nextState = true) := by
  have hgated : ((proposal record o call).nextState = (gatedProposal record o call).nextState) ∨
      record.currentState ∈ decayable ∧ (proposal record o call).nextState = .expired := by
    rcases proposal_cases record o call with h | ⟨-, hmem, h⟩
    · exact .inl (by rw [h])
    · rw [h]
      exact (decay_nextState _).imp And.left fun hexpired => ⟨hmem, hexpired⟩
  rcases hgated with hsame | ⟨hmem, hexpired⟩
  · rw [hsame]
    rcases gatedProposal_cases record o call with hgate | ⟨hrejected, hallowed⟩ | hcurrent
    · exact .inl hgate
    · rw [hrejected]
      exact .inr (.inr ⟨by decide, hallowed⟩)
    · exact .inr (.inl hcurrent)
  · rw [hexpired]
    exact .inr (.inr ⟨by decide, transitionAllowed_expired hmem⟩)

/-- A move that the geometry gate lets pass is proposed as it is. -/
theorem proposal_of_moves
    (hplan : freshState record o call ∈ activeMonitoring →
      storedPlanGeometryFailure (recordWithObservation record o call) = none)
    (hmoves : freshState record o call ≠ record.currentState) :
    proposal record o call =
      { record := recordWithObservation record o call, nextState := freshState record o call } := by
  unfold proposal
  dsimp only
  rw [← freshState, gateGeometry_of_accepted hplan, applyDecayIfNeeded, if_pos (.inl hmoves)]

theorem LegalMove.legalTarget {p : Proposal} (previous : SetupLifecycleRecord)
    (hdecayed : p.decayed = false) (hgeometry : p.geometryFailure = none)
    (h : LegalMove o p.record.currentState p.nextState) :
    LegalTarget p.record.currentState p.nextState (proposalReason previous o p) := by
  rcases h with hsame | ⟨hallowed, htouch⟩
  · exact .inl hsame
  · refine .inr ⟨hallowed, ?_⟩
    rw [requiresTouchReason, Bool.and_eq_false_iff, Bool.and_eq_false_iff]
    by_cases hmem : p.record.currentState ∈ entryTouchReasonRequired
    · by_cases hnext : p.nextState = .triggered
      · -- the reason for a filled entry is the touch
        have hfilled := htouch hnext hmem
        have hreason : proposalReason previous o p = .entryZoneTouched := by
          simp [proposalReason, hdecayed, hgeometry, hnext, reasonForState, hfilled]
        exact .inr (by simp [hreason])
      · exact .inl (.inr (by simp [hnext]))
    · exact .inl (.inl (by simp [hmem]))

theorem proposalRequest_reason (previous : SetupLifecycleRecord) (p : Proposal) :
    (proposalRequest previous o p).reason = proposalReason previous o p :=
  rfl

theorem legalTarget_of_ended (h : next ∈ [rejected, expired])
    (hallowed : transitionAllowed current next = true) (reason : SetupTransitionReason) :
    LegalTarget current next reason := by
  have hne : next ≠ .triggered := by
    rintro rfl
    exact absurd h (by decide)
  exact .inr ⟨hallowed, by simp [requiresTouchReason, hne]⟩

/-- What is submitted for a record is legal, the unfiltered branch apart. -/
theorem proposal_legal (h : ¬ ProposesUnfiltered o (recordWithObservation record o call)) :
    LegalTarget record.currentState (proposal record o call).nextState
      (proposalReason record o (proposal record o call)) := by
  have hfresh := nextStateForObservation_legal (recordWithObservation record o call) o
    call.evaluatedAt h
  by_cases hstays : (proposal record o call).nextState = record.currentState
  · exact .inl hstays
  rcases proposal_nextState_cases record o call with ⟨hnext, hplan⟩ | ⟨hsame, -⟩ |
    ⟨hended, hallowed⟩
  · rw [hnext] at hstays
    rw [proposal_of_moves record o call hplan hstays,
      ← recordWithObservation_currentState record o call]
    exact LegalMove.legalTarget o record rfl rfl hfresh
  · exact absurd hsame hstays
  · exact legalTarget_of_ended hended hallowed _

/-- An observation keeps the state and the settled columns of a record, which is blocked by its
plan, owns a terminal outcome or is held, or refreshes the record and moves it to the proposed
state, the unfiltered branch for TRIGGERED apart. -/
theorem observeRecord_cases :
    ((observeRecord record o call).record.currentState = record.currentState ∧
      (observeRecord record o call).record.settled = record.settled ∧
      (observeRecord record o call).record.toInvalidationTexts = record.toInvalidationTexts ∧
      (¬ PlanAccepted record ∨ record.currentState ∈ [tpHit, slHit, breakeven] ∨
        holdsOwner record (effectiveObservation record o))) ∨
    (PlanAccepted record ∧
      observeRecord record o call =
        (submission record (effectiveObservation record o) call).result record call ∧
      (observeRecord record o call).record.settled =
        (recordWithObservation record (effectiveObservation record o) call).settled ∧
      ((observeRecord record o call).record.currentState =
          (proposal record (effectiveObservation record o) call).nextState ∨
        ((observeRecord record o call).record.currentState = .triggered ∧
          record.currentState = .triggered))) := by
  rcases disposition_cases record o call with ⟨failure, hactive, hfailure, hcase⟩ |
    ⟨-, -, hterminal, hcase⟩ | ⟨-, hholds, hcase⟩ | ⟨haccepted, -, hcase⟩
  · rw [observeRecord, hcase, Disposition.result, blockedByGeometry]
    refine .inl ⟨rfl, rfl, rfl, .inl fun haccepted => ?_⟩
    rw [haccepted hactive] at hfailure
    cases hfailure
  · rw [observeRecord, hcase, Disposition.result]
    refine .inl ⟨?_, transitionRecord_settled _ _ _ _, transitionRecord_texts _ _ _ _,
      .inr (.inl hterminal)⟩
    exact transitionRecord_currentState_of_legal _ (.inl rfl)
  · rw [observeRecord, hcase, Disposition.result]
    exact .inl ⟨holdOwner_currentState record call, holdOwner_settled record call,
      holdOwner_texts record call, .inr (.inr hholds)⟩
  · have hobserve : observeRecord record o call =
        (submission record (effectiveObservation record o) call).result record call := by
      rw [observeRecord, hcase]
    refine .inr ⟨haccepted, hobserve, ?_, ?_⟩
    · rw [hobserve, submission_settled]
    · rw [hobserve, submission, Disposition.result]
      -- only TRIGGERED has a branch whose target is not checked against the table
      by_cases htriggered : record.currentState = .triggered
      · refine (transitionRecord_currentState _ _ _ _).imp_right fun hsame => ?_
        rw [hsame, proposal_currentState]
        exact ⟨htriggered, htriggered⟩
      · refine .inl (transitionRecord_currentState_of_legal _ ?_)
        rw [proposal_currentState, proposalRequest_reason]
        apply proposal_legal
        rintro ⟨hstate, -⟩
        rw [recordWithObservation_currentState] at hstate
        exact htriggered hstate

end Legality

section Samples

def samplePlan : PlanFields String where
  entryLow := "100"
  entryHigh := "102"
  stopLoss := "95"
  tp1 := "110"
  tp2 := "120"
  tp3 := "130"
  rr := "3.5"

def sampleObservation : LifecycleObservation :=
  { samplePlan with
    symbol := "BTCUSDT"
    mode := "swing"
    direction := "long"
    readinessScore := 60
    qualityGrade := "A"
    invalidationReason := "close below 95"
    technicalScore := "70"
    opportunityScore := "85"
    structuralAnchor := "sweep-1" }

/-- The arguments of an evaluation at a time. -/
def sampleCall (now : Instant) : LifecycleCall :=
  { evaluatedAt := now, scanRunId := none, lifecycleId := "lifecycle-1" }

def sampleWatchlisted : SetupLifecycleRecord :=
  gateNewRecord (newRecord sampleObservation (sampleCall 0))

def sampleTriggered : SetupLifecycleRecord :=
  gateNewRecord (newRecord { sampleObservation with
    sweepDetected := true
    structureShiftDetected := true
    rrValid := true } (sampleCall 0))

end Samples

end CandleCraft.Lifecycle
