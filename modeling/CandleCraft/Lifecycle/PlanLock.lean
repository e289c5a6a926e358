import CandleCraft.Lifecycle.Proposals
import CandleCraft.Lifecycle.StoredGeometry

/-!
# The plan of a record under observations

In the plan lock states an observation keeps every level that is set, so a plan that
`stored_plan_geometry` accepts stays accepted. In the other states the observed levels
replace the stored ones and the geometry gate decides. TRIGGERED is active, not locked, and
cannot be rejected: it loses its plan to an observation with a refused one that does not end it.
-/

namespace CandleCraft.Lifecycle

open SetupLifecycleState

section Lock

def planColumns : List (PlanFields StoredText → StoredText) :=
  [(·.entryLow), (·.entryHigh), (·.stopLoss), (·.tp1), (·.tp2), (·.tp3), (·.rr)]

/-- The levels that are set and the setup identity are the same. -/
structure PlanKept (before after : SetupLifecycleRecord) : Prop where
  columns : ∀ column ∈ planColumns, (column before.toPlanFields : String) ≠ NA →
    column after.toPlanFields = column before.toPlanFields
  setupIdentity : after.setupIdentity = before.setupIdentity

theorem PlanKept.trans {r₁ r₂ r₃ : SetupLifecycleRecord} (h₁₂ : PlanKept r₁ r₂)
    (h₂₃ : PlanKept r₂ r₃) : PlanKept r₁ r₃ where
  columns column hmem hset := by
    have hstep := h₁₂.columns column hmem hset
    rw [h₂₃.columns column hmem (by rw [hstep]; exact hset), hstep]
  setupIdentity := h₂₃.setupIdentity.trans h₁₂.setupIdentity

theorem planKept_of_settled {before after : SetupLifecycleRecord}
    (h : after.settled = before.settled) : PlanKept before after where
  columns column _ _ := by
    have hplan : after.toPlanFields = before.toPlanFields := congrArg Settled.plan h
    rw [hplan]
  setupIdentity := congrArg (fun s => s.lineage.setupIdentity) h

variable {record : SetupLifecycleRecord} (o : LifecycleObservation) (call : LifecycleCall)

theorem planOrObservedValue_of_lock (hlock : record.currentState ∈ planLock) {stored : StoredText}
    (hset : (stored : String) ≠ NA) (observed : String) :
    planOrObservedValue record stored observed = stored := by
  have hcond : record.currentState ∈ planLock ∧ fieldText stored ≠ NA :=
    ⟨hlock, by rwa [StoredText.fieldText_coe]⟩
  rw [planOrObservedValue, if_pos hcond, StoredText.of_coe]

theorem recordWithObservation_planKept (hlock : record.currentState ∈ planLock) :
    PlanKept record (recordWithObservation record o call) where
  columns column hmem hset := by
    simp only [planColumns, List.mem_cons, List.not_mem_nil, or_false] at hmem
    rcases hmem with rfl | rfl | rfl | rfl | rfl | rfl | rfl
    all_goals exact planOrObservedValue_of_lock hlock hset _
  setupIdentity := if_pos hlock

theorem observeRecord_planKept (hlock : record.currentState ∈ planLock) :
    PlanKept record (observeRecord record o call).record := by
  rcases observeRecord_cases record o call with ⟨-, hsettled, -⟩ | ⟨-, -, hsettled, -⟩
  · exact planKept_of_settled hsettled
  · exact (recordWithObservation_planKept _ call hlock).trans (planKept_of_settled hsettled)

def LockedStep (before after : SetupLifecycleRecord) : Prop :=
  before.currentState ∈ planLock ∧ after.currentState ∈ planLock ∧
    ∃ sha256 o call t, evaluateLifecycleTransition sha256 (some before) o call = .ok t ∧
      t.record = after

/-- Along a run inside the plan lock states, whatever is observed, no level that is set and
no setup identity changes. -/
theorem locked_run_keeps_plan {first last : SetupLifecycleRecord}
    (run : Relation.ReflTransGen LockedStep first last) :
    (∀ column ∈ planColumns, (column first.toPlanFields : String) ≠ NA →
      column last.toPlanFields = column first.toPlanFields) ∧
    last.setupIdentity = first.setupIdentity := by
  have hkept : PlanKept first last := by
    induction run with
    | refl => exact planKept_of_settled rfl
    | tail _ step ih =>
      obtain ⟨hlock, -, sha256, o, call, t, ht, rfl⟩ := step
      rw [evaluateLifecycleTransition_some, Except.ok.injEq] at ht
      rw [← ht]
      refine (ih.trans (observeRecord_planKept o call hlock)).trans (planKept_of_settled ?_)
      exact observedResult_settled sha256 _ o call
  exact ⟨hkept.columns, hkept.setupIdentity⟩

/-- An observation with other levels leaves the stop of a WATCHLISTED record alone. -/
theorem locked_run_keeps_plan_watchlisted :
    (observedResult sampleWatchlisted { sampleObservation with stopLoss := "90", tp1 := "N/A" }
      (sampleCall 60000000) id).record.stopLoss = sampleWatchlisted.stopLoss :=
  (locked_run_keeps_plan (.single ⟨by decide +kernel, by decide +kernel, id,
    { sampleObservation with stopLoss := "90", tp1 := "N/A" }, sampleCall 60000000, _, rfl,
    rfl⟩)).1 (·.stopLoss) (by simp [planColumns]) (by decide +kernel)

end Lock

section Acceptance

variable {record record' : SetupLifecycleRecord}

/-- The levels `stored_plan_geometry` reads. -/
def priceColumns : List (PlanFields StoredText → StoredText) := planColumns.take 6

theorem requiredDecimal_NA (name : String) :
    requiredDecimal (.ofText NA) name = .error ("missing_" ++ name) := rfl

theorem ne_NA_of_requiredDecimal {text : StoredText} {name : String} {q : ℚ}
    (h : requiredDecimal (.ofText text) name = .ok q) : (text : String) ≠ NA := by
  intro hNA
  rw [hNA, requiredDecimal_NA] at h
  cases h

theorem planLevels_columns {side : Plan.TradeDirection} {plan : PlanFields StoredText}
    {g : StoredPlanGeometry} (h : planLevels side plan = .ok g) :
    ∀ column ∈ priceColumns, (column plan : String) ≠ NA := by
  simp only [planLevels, bind, Except.bind] at h
  split at h
  · cases h
  next hentryLow =>
  split at h
  · cases h
  next hentryHigh =>
  split at h
  · cases h
  next hstopLoss =>
  split at h
  · cases h
  next htp1 =>
  split at h
  · cases h
  next htp2 =>
  split at h
  · cases h
  next htp3 =>
  intro column hmem
  simp only [priceColumns, planColumns, List.take_succ_cons, List.take_zero, List.mem_cons,
    List.not_mem_nil, or_false] at hmem
  rcases hmem with rfl | rfl | rfl | rfl | rfl | rfl
  · exact ne_NA_of_requiredDecimal hentryLow
  · exact ne_NA_of_requiredDecimal hentryHigh
  · exact ne_NA_of_requiredDecimal hstopLoss
  · exact ne_NA_of_requiredDecimal htp1
  · exact ne_NA_of_requiredDecimal htp2
  · exact ne_NA_of_requiredDecimal htp3

theorem storedInvalidation_ne_NA {texts : InvalidationTexts} :
    storedInvalidation texts ≠ NA ↔
      fieldText texts.invalidationLogic ≠ NA ∨ fieldText texts.invalidationReason ≠ NA := by
  unfold storedInvalidation
  by_cases h : fieldText texts.invalidationLogic = NA
  · rw [if_pos h]
    exact ⟨.inr, fun hor => hor.resolve_left (absurd h)⟩
  · rw [if_neg h]
    exact ⟨.inl, fun _ => h⟩

theorem planLevels_congr (side : Plan.TradeDirection) {plan plan' : PlanFields StoredText}
    (h : ∀ column ∈ priceColumns, column plan' = column plan) :
    planLevels side plan' = planLevels side plan := by
  simp only [priceColumns, planColumns, List.take_succ_cons, List.take_zero, List.forall_mem_cons,
    List.not_mem_nil, false_implies, implies_true, and_true] at h
  obtain ⟨hentryLow, hentryHigh, hstopLoss, htp1, htp2, htp3⟩ := h
  simp only [planLevels, hentryLow, hentryHigh, hstopLoss, htp1, htp2, htp3]

theorem planGeometry_isOk_iff {direction : String} {plan : PlanFields StoredText}
    {texts : InvalidationTexts} :
    (planGeometry direction plan texts).isOk = true ↔
      ∃ side g, Plan.TradeDirection.ofText (PyText.lower (fieldText direction)) = some side ∧
        planLevels side plan = .ok g ∧ storedInvalidation texts ≠ NA ∧ g.Ordered := by
  cases hgeometry : planGeometry direction plan texts with
  | error failure =>
    refine iff_of_false Bool.false_ne_true ?_
    rintro ⟨side, g, hg⟩
    rw [planGeometry_eq_ok_iff.2 ⟨side, hg⟩] at hgeometry
    cases hgeometry
  | ok g =>
    obtain ⟨side, hg⟩ := planGeometry_eq_ok_iff.1 hgeometry
    exact iff_of_true rfl ⟨side, g, hg⟩

theorem storedPlanGeometryFailure_eq_none {record : SetupLifecycleRecord} :
    storedPlanGeometryFailure record = none ↔
      ∃ side g, Plan.TradeDirection.ofText (PyText.lower (fieldText record.direction)) =
          some side ∧
        planLevels side record.toPlanFields = .ok g ∧
        storedInvalidation record.toInvalidationTexts ≠ NA ∧ g.Ordered := by
  rw [← planGeometry_isOk_iff, ← storedPlanGeometry, storedPlanGeometryFailure]
  cases storedPlanGeometry record with
  | error failure => exact iff_of_false (by simp) Bool.false_ne_true
  | ok g => exact iff_of_true rfl rfl

/-- A plan stays accepted when its side and its levels are kept and an invalidation is
there. -/
theorem accepted_of_kept (hdirection : record'.direction = record.direction)
    (hcolumns : ∀ column ∈ priceColumns, column record'.toPlanFields = column record.toPlanFields)
    (hinvalidation : storedInvalidation record'.toInvalidationTexts ≠ NA)
    (h : storedPlanGeometryFailure record = none) : storedPlanGeometryFailure record' = none := by
  rw [storedPlanGeometryFailure_eq_none] at h ⊢
  obtain ⟨side, g, hside, hlevels, -, hordered⟩ := h
  refine ⟨side, g, ?_, ?_, hinvalidation, hordered⟩
  · rw [hdirection, hside]
  · rw [planLevels_congr side hcolumns, hlevels]

theorem storedPlanGeometryFailure_congr (hsettled : record'.settled = record.settled)
    (htexts : record'.toInvalidationTexts = record.toInvalidationTexts) :
    storedPlanGeometryFailure record' = storedPlanGeometryFailure record := by
  have hdirection : record'.direction = record.direction :=
    congrArg (fun s => s.identity.direction) hsettled
  have hplan : record'.toPlanFields = record.toPlanFields := congrArg Settled.plan hsettled
  simp only [storedPlanGeometryFailure, storedPlanGeometry, hdirection, hplan, htexts]

end Acceptance

section Observation

variable {record : SetupLifecycleRecord} (o : LifecycleObservation) (call : LifecycleCall)

theorem invalidationReason_of_validConfirmed (h : o.validConfirmed = true) :
    fieldText o.invalidationReason ≠ NA := by
  intro hNA
  have hready : o.confirmationBlockers = [] := by
    have hand := (Bool.and_eq_true _ _).mp h
    exact List.isEmpty_iff.1 hand.1
  simp [LifecycleObservation.confirmationBlockers, LifecycleObservation.planBlockers,
    LifecycleObservation.blockerIf, hNA] at hready

theorem observedInvalidation_ne_NA (hlock : record.currentState ∈ planLock) {stored : String}
    (hset : fieldText stored ≠ NA) (observed : String) :
    fieldText (observedInvalidation record o stored observed) ≠ NA := by
  unfold observedInvalidation
  split_ifs with hstale hkept
  · rw [fieldText_fieldText]
    exact invalidationReason_of_validConfirmed o ((Bool.and_eq_true _ _).mp hstale).1
  · rw [fieldText_fieldText]
    exact hset
  · exact absurd ⟨hlock, hset⟩ hkept

theorem recordWithObservation_invalidation (hlock : record.currentState ∈ planLock)
    (hset : storedInvalidation record.toInvalidationTexts ≠ NA) :
    storedInvalidation (recordWithObservation record o call).toInvalidationTexts ≠ NA := by
  rw [storedInvalidation_ne_NA] at hset ⊢
  rw [recordWithObservation_toInvalidationTexts]
  dsimp only
  rcases hset with hlogic | hreason
  · exact .inl (observedInvalidation_ne_NA o hlock hlogic _)
  · exact .inr (observedInvalidation_ne_NA o hlock hreason _)

theorem recordWithObservation_accepted (hlock : record.currentState ∈ planLock)
    (h : storedPlanGeometryFailure record = none) :
    storedPlanGeometryFailure (recordWithObservation record o call) = none := by
  obtain ⟨side, g, -, hlevels, hset, -⟩ := storedPlanGeometryFailure_eq_none.1 h
  have hdirection : (recordWithObservation record o call).direction = record.direction := by
    rw [recordWithObservation_toRecordIdentity]
  refine accepted_of_kept hdirection ?_ (recordWithObservation_invalidation o call hlock hset) h
  intro column hmem
  exact (recordWithObservation_planKept o call hlock).columns column
    (List.mem_of_mem_take hmem) (planLevels_columns hlevels column hmem)

/-- A state proposed past the geometry gate is inactive, the state the record is in, or
comes with an accepted plan. -/
theorem proposal_active (hactive : (proposal record o call).nextState ∈ activeMonitoring) :
    (proposal record o call).nextState = record.currentState ∨
      storedPlanGeometryFailure (recordWithObservation record o call) = none := by
  rcases proposal_nextState_cases record o call with ⟨hfresh, haccepted⟩ | ⟨hsame, -⟩ | ⟨hended, -⟩
  · exact .inr (haccepted (by rwa [← hfresh]))
  · exact .inl hsame
  · have hinactive : ∀ state ∈ [rejected, expired], state ∉ activeMonitoring := by decide
    exact absurd hactive (hinactive _ hended)

theorem proposal_texts :
    (proposal record o call).record.toInvalidationTexts =
        (recordWithObservation record o call).toInvalidationTexts ∨
      ((proposal record o call).nextState = .expired ∧ record.currentState ∈ decayable) := by
  have hgated : (gatedProposal record o call).record.toInvalidationTexts =
      (recordWithObservation record o call).toInvalidationTexts := by
    rw [gatedProposal, (gateGeometry_frame _).2.2.1]
  rcases proposal_cases record o call with hproposal | ⟨-, hmem, hdecay⟩
  · rw [hproposal]
    exact .inl hgated
  · rw [hdecay, ← hgated]
    exact (decay_nextState _).imp And.right fun hexpired => ⟨hexpired, hmem⟩

theorem mem_activeMonitoring_iff (state : SetupLifecycleState) :
    state ∈ activeMonitoring ↔ state ∈ planLock ∨ state = .triggered := by
  cases state <;> decide

/-- An active record that is submitted has the plan it was refreshed with. -/
theorem submission_geometry
    (hactive : ((submission record o call).result record call).record.currentState ∈
      activeMonitoring) :
    storedPlanGeometryFailure ((submission record o call).result record call).record =
      storedPlanGeometryFailure (recordWithObservation record o call) := by
  have hsettled := submission_settled record o call
  rw [submission, Disposition.result] at hactive hsettled ⊢
  rcases proposal_texts o call with htexts | ⟨hexpired, hmem⟩
  · exact storedPlanGeometryFailure_congr hsettled ((transitionRecord_texts _ _ _ _).trans htexts)
  · -- the decay has expired the record
    rw [transitionRecord_currentState_of_legal, hexpired] at hactive
    · exact absurd hactive (by decide)
    · rw [hexpired, proposal_currentState]
      exact .inr ⟨transitionAllowed_expired hmem, by simp [requiresTouchReason]⟩

/-- The plan of a record that is submitted is accepted when its state is active. -/
theorem submission_planAccepted (h : PlanAccepted record)
    (htriggered : record.currentState = .triggered →
      storedPlanGeometryFailure (recordWithObservation record o call) = none) :
    PlanAccepted ((submission record o call).result record call).record := by
  intro hactive
  rw [submission_geometry o call hactive]
  by_cases hstate : record.currentState ∈ activeMonitoring
  · rcases (mem_activeMonitoring_iff _).1 hstate with hlock | htrigger
    · exact recordWithObservation_accepted o call hlock (h hstate)
    · exact htriggered htrigger
  · -- an inactive record has moved to the proposed state
    rw [submission, Disposition.result] at hactive
    rcases transitionRecord_currentState (proposal record o call).record
      (proposal record o call).nextState (proposalRequest record o (proposal record o call))
      call.toClock with htarget | hsame
    · rw [htarget] at hactive
      refine (proposal_active o call hactive).resolve_left fun hsame => ?_
      rw [hsame] at hactive
      exact hstate hactive
    · rw [hsame, proposal_currentState] at hactive
      exact absurd hactive hstate

theorem PlanAccepted.congr {record' : SetupLifecycleRecord} (h : PlanAccepted record)
    (hstate : record'.currentState = record.currentState)
    (hsettled : record'.settled = record.settled)
    (htexts : record'.toInvalidationTexts = record.toInvalidationTexts) : PlanAccepted record' := by
  intro hactive
  rw [storedPlanGeometryFailure_congr hsettled htexts]
  exact h (hstate ▸ hactive)

end Observation

section Triggered

variable (record : SetupLifecycleRecord) (o : LifecycleObservation) (call : LifecycleCall)

/-- The plan of an observation is accepted for a side: its levels, and its invalidation text or
failed gate. -/
def LifecycleObservation.PlanAccepted (direction : String) : Prop :=
  (planGeometry direction
    { entryLow := .of o.entryLow
      entryHigh := .of o.entryHigh
      stopLoss := .of o.stopLoss
      tp1 := .of o.tp1
      tp2 := .of o.tp2
      tp3 := .of o.tp3
      rr := .of o.rr }
    { invalidationReason := o.invalidationOrGate
      invalidationLogic := o.invalidationReason }).isOk

/-- An observation that ends a TRIGGERED record or, for its freshness, does not touch it. -/
def EndsTriggered : Prop :=
  o.invalidated = true ∨ o.observedState = .rejected ∨
    ((o.pullbackAndRrValid = true ∨ o.validTradeIdea = true) ∧
      o.observedState ∈ [invalidated, expired])

/-- The grade of a record that stays where it is decays past its end: nothing was filled, the
setup and the count are those of the record, and the grade is the last one. -/
def DecaysOut : Prop :=
  nextConfirmationCount record o call (setupConsistent record o call.setupTolerancePct) ≤
      record.confirmationCount ∧
    o.setupIdentity = record.setupIdentity ∧ o.entryFilled = false ∧ o.terminal = false ∧
    decayedGrade (currentQualityGrade record o) = some none

/-- A TRIGGERED record stays where it is and decays past its end. -/
def ExpiresTriggered : Prop :=
  DecaysOut record o call ∧
    ¬ ((o.pullbackAndRrValid = true ∨ o.validTradeIdea = true) ∧
      gatedTarget (recordWithObservation record o call) o = .discovered)

/-- What a TRIGGERED record needs of an observation to have an accepted plan after it. -/
def TriggeredPlanKept : Prop :=
  o.PlanAccepted record.direction ∨ EndsTriggered o ∨ ExpiresTriggered record o call

instance : Decidable (o.PlanAccepted record.direction) := inferInstanceAs (Decidable (_ = _))

instance : Decidable (EndsTriggered o) := inferInstanceAs (Decidable (_ ∨ _))

instance : Decidable (DecaysOut record o call) := inferInstanceAs (Decidable (_ ∧ _))

instance : Decidable (ExpiresTriggered record o call) := inferInstanceAs (Decidable (_ ∧ _))

instance : Decidable (TriggeredPlanKept record o call) := inferInstanceAs (Decidable (_ ∨ _))

variable {record}

/-- A TRIGGERED record is not locked: it is refreshed with the plan of the observation. -/
theorem refreshed_accepted_iff (hstate : record.currentState = .triggered) :
    storedPlanGeometryFailure (recordWithObservation record o call) = none ↔
      o.PlanAccepted record.direction := by
  have hlock : record.currentState ∉ planLock := by
    rw [hstate]
    decide
  have hplan : (recordWithObservation record o call).toPlanFields =
      { entryLow := .of o.entryLow
        entryHigh := .of o.entryHigh
        stopLoss := .of o.stopLoss
        tp1 := .of o.tp1
        tp2 := .of o.tp2
        tp3 := .of o.tp3
        rr := .of o.rr } := by
    simp [recordWithObservation, observedPlan, planOrObservedValue, hlock]
  have hdirection : (recordWithObservation record o call).direction = record.direction := by
    rw [recordWithObservation_toRecordIdentity]
  have htexts : storedInvalidation (recordWithObservation record o call).toInvalidationTexts ≠ NA ↔
      storedInvalidation
        { invalidationReason := o.invalidationOrGate, invalidationLogic := o.invalidationReason } ≠
        NA := by
    rw [storedInvalidation_ne_NA, storedInvalidation_ne_NA, recordWithObservation_toInvalidationTexts]
    dsimp only
    by_cases hset : fieldText o.invalidationReason = NA
    · have hconfirmed : o.validConfirmed = false := by
        simpa using fun h => invalidationReason_of_validConfirmed o h hset
      simp [observedInvalidation, hconfirmed, hlock, fieldText_fieldText]
    · refine iff_of_true (.inl ?_) (.inl hset)
      have hkept : ¬ (record.currentState ∈ planLock ∧ fieldText record.invalidationLogic ≠ NA) :=
        fun h => hlock h.1
      rw [observedInvalidation, if_neg hkept, ite_self, fieldText_fieldText]
      exact hset
  rw [storedPlanGeometryFailure_eq_none, hplan, hdirection, htexts, ← planGeometry_isOk_iff,
    LifecycleObservation.PlanAccepted]

/-- What is proposed for a TRIGGERED record: an active state, an end, or the target of a valid
idea, which TRIGGERED cannot move to. -/
theorem nextFromTriggered_cases (now : SetupLifecycleRecord) :
    (nextFromTriggered o (gatedTarget now o) ∈ activeMonitoring ∧ ¬ EndsTriggered o ∧
      ¬ ((o.pullbackAndRrValid = true ∨ o.validTradeIdea = true) ∧
        gatedTarget now o = .discovered)) ∨
    (nextFromTriggered o (gatedTarget now o) ∈ [invalidated, expired] ∧ EndsTriggered o) ∨
    (nextFromTriggered o (gatedTarget now o) = gatedTarget now o ∧
      (o.pullbackAndRrValid = true ∨ o.validTradeIdea = true) ∧
      gatedTarget now o ∈ [tpHit, slHit, discovered] ∧ ¬ EndsTriggered o) := by
  have hmem := gatedTarget_mem now o
  have hends : EndsTriggered o ↔ o.invalidated = true ∨ gatedTarget now o = .rejected ∨
      ((o.pullbackAndRrValid = true ∨ o.validTradeIdea = true) ∧
        gatedTarget now o ∈ [invalidated, expired]) := by
    simp only [EndsTriggered, List.mem_cons, List.not_mem_nil, or_false]
    rw [gatedTarget_eq_iff now o (by decide), gatedTarget_eq_iff now o (by decide),
      gatedTarget_eq_iff now o (by decide)]
  rw [hends]
  generalize gatedTarget now o = target at hmem
  unfold nextFromTriggered
  split_ifs with hinvalid hactionable hwatch hvalid hsweep
  · exact .inr (.inl ⟨by decide, hinvalid.imp_right .inl⟩)
  · subst hactionable
    exact .inl ⟨by decide, by simp_all, by simp⟩
  · subst hwatch
    exact .inl ⟨by decide, by simp_all, by simp⟩
  · simp only [hvalid, true_and, not_or] at hinvalid ⊢
    revert hmem
    cases target <;> simp_all [activeMonitoring]
  · exact .inl ⟨by decide, by simp_all, fun h => hvalid h.1⟩
  · exact .inl ⟨by decide, by simp_all, fun h => hvalid h.1⟩

theorem observedState_of_not_terminal (h : o.terminal = false) :
    o.observedState ∉ [tpHit, slHit] := by
  simp only [LifecycleObservation.terminal, Bool.or_eq_false_iff] at h
  rw [LifecycleObservation.observedState, h.1.1.1, h.1.1.2, if_neg Bool.false_ne_true,
    if_neg Bool.false_ne_true]
  repeat' apply iteInduction (motive := fun state => state ∉ [tpHit, slHit]) <;> intro
  all_goals decide

/-- The geometry gate cannot reject a TRIGGERED record: it stays, and may decay. -/
theorem proposal_of_refused (hstate : record.currentState = .triggered)
    (hrefused : storedPlanGeometryFailure (recordWithObservation record o call) ≠ none)
    (hactive : freshState record o call ∈ activeMonitoring) :
    (proposal record o call).nextState =
      if DecaysOut record o call then .expired else .triggered := by
  obtain ⟨failure, hfailure⟩ := Option.isSome_iff_exists.1 (Option.isSome_iff_ne_none.2 hrefused)
  have hcurrent : (recordWithObservation record o call).currentState = .triggered := by
    rw [recordWithObservation_currentState, hstate]
  have hcount : (recordWithObservation record o call).confirmationCount =
      nextConfirmationCount record o call (setupConsistent record o call.setupTolerancePct) :=
    congrArg Confirmation.confirmationCount (recordWithObservation_toConfirmation record o call)
  have hgrade : (recordWithObservation record o call).qualityGradeCurrent =
      currentQualityGrade record o :=
    congrArg Confirmation.qualityGradeCurrent (recordWithObservation_toConfirmation record o call)
  have hidentity : (recordWithObservation record o call).setupIdentity = o.setupIdentity :=
    if_neg (by rw [hstate]; decide)
  unfold freshState at hactive
  unfold proposal
  dsimp only
  generalize recordWithObservation record o call = refreshed at *
  have hgate : gateGeometry ⟨refreshed, nextStateForObservation refreshed o call.evaluatedAt,
      none, false⟩ =
      { record := { refreshed with failedGate := geometryDiagnostic failure }
        nextState := .triggered
        geometryFailure := some failure } := by
    simp only [gateGeometry, hfailure, if_pos hactive, hcurrent]
    rfl
  have hstay : ¬ (triggered ≠ triggered ∨ triggered ∉ decayable) := by decide
  rw [hgate, applyDecayIfNeeded, decay, hstate, if_neg hstay]
  rw [hcount, hgrade, hidentity]
  by_cases hout : DecaysOut record o call
  · obtain ⟨hle, hsame, hfilled, hterminal, hlast⟩ := id hout
    rw [if_pos hout, if_neg (not_lt.2 hle), if_neg (not_not.2 hsame),
      if_neg (by simp [hfilled, hterminal]), hlast]
    rfl
  · rw [if_neg hout]
    split_ifs with hcounted hother hended hconfirmed
    · rfl
    · rfl
    · rfl
    · exact hconfirmed.elim
    · rw [not_or, Bool.not_eq_true, Bool.not_eq_true] at hended
      split
      · rfl
      · rfl
      next hlast => exact absurd ⟨not_lt.1 hcounted, not_not.1 hother, hended.1, hended.2, hlast⟩ hout

/-- A TRIGGERED record that gets a refused plan stays active unless the observation ends it or its
grade decays past its end. -/
theorem refused_active_iff (hstate : record.currentState = .triggered)
    (hrefused : storedPlanGeometryFailure (recordWithObservation record o call) ≠ none) :
    ((submission record o call).result record call).record.currentState ∈ activeMonitoring ↔
      ¬ (EndsTriggered o ∨ ExpiresTriggered record o call) := by
  have hnext : freshState record o call =
      nextFromTriggered o (gatedTarget (recordWithObservation record o call) o) := by
    rw [freshState, nextStateForObservation, recordWithObservation_currentState, hstate]
  have hcases := nextFromTriggered_cases o (recordWithObservation record o call)
  rw [← hnext] at hcases
  rw [submission, Disposition.result]
  have hpasses (hinactive : freshState record o call ∉ activeMonitoring) :
      (proposal record o call).nextState = freshState record o call := by
    rw [proposal_of_moves record o call fun hactive => absurd hactive hinactive]
    rintro hsame
    rw [hsame, hstate] at hinactive
    exact hinactive (by decide)
  rcases hcases with ⟨hactive, hends, hvalid⟩ | ⟨hmem, hends⟩ | ⟨htarget, hvalid, hmem, hends⟩
  · have hlegal : LegalTarget (proposal record o call).record.currentState
        (proposal record o call).nextState
        (proposalRequest record o (proposal record o call)).reason := by
      rw [proposal_currentState, hstate, proposal_of_refused o call hstate hrefused hactive]
      split_ifs
      · exact .inr ⟨by decide, by simp [requiresTouchReason]⟩
      · exact .inl rfl
    rw [transitionRecord_currentState_of_legal _ hlegal,
      proposal_of_refused o call hstate hrefused hactive]
    split_ifs with hout
    · exact iff_of_false (by decide) fun h => h (.inr ⟨hout, hvalid⟩)
    · refine iff_of_true (by decide) ?_
      rintro (h | h)
      · exact hends h
      · exact hout h.1
  · have hinactive : freshState record o call ∉ activeMonitoring ∧
        transitionAllowed .triggered (freshState record o call) = true ∧
        freshState record o call ≠ .triggered := by
      revert hmem
      generalize freshState record o call = next
      cases next <;> decide
    refine iff_of_false ?_ fun h => h (.inl hends)
    rw [transitionRecord_currentState_of_legal, hpasses hinactive.1]
    · exact hinactive.1
    · rw [proposal_currentState, hstate, hpasses hinactive.1]
      exact .inr ⟨hinactive.2.1, by simp [requiresTouchReason, hinactive.2.2]⟩
  · have hrefused : transitionAllowed .triggered
        (gatedTarget (recordWithObservation record o call) o) = false ∧
        gatedTarget (recordWithObservation record o call) o ∉ activeMonitoring := by
      revert hmem
      generalize gatedTarget _ _ = target
      cases target <;> decide
    refine iff_of_true ?_ ?_
    · rw [transitionRecord_currentState_of_refused, proposal_currentState, hstate]
      · decide
      · rw [proposal_currentState, hstate, hpasses (htarget ▸ hrefused.2), htarget]
        exact hrefused.1
    · rintro (h | ⟨hout, hopen⟩)
      · exact hends h
      · have hopened := observedState_of_not_terminal o hout.2.2.2.1
        simp only [List.mem_cons, List.not_mem_nil, or_false, not_or] at hmem hopened
        rw [gatedTarget_eq_iff _ o (by decide), gatedTarget_eq_iff _ o (by decide)] at hmem
        rcases hmem with htp | hsl | hdiscovered
        · exact hopened.1 htp
        · exact hopened.2 hsl
        · exact hopen ⟨hvalid, hdiscovered⟩

theorem endsTriggered_of_holdsOwner (h : holdsOwner record o) : EndsTriggered o := by
  obtain ⟨-, hpreserved, htp, hsl⟩ := h
  have hfresh : o.hasEssentialFreshnessFailure = true := ((Bool.and_eq_true _ _).mp hpreserved).1
  exact .inr (.inl (by simp [LifecycleObservation.observedState, htp, hsl, hfresh]))

/-- An observation keeps the plan of an active record accepted, unless the record is
TRIGGERED, gets a plan that is refused, and is neither ended nor expired by its decay. -/
theorem observeRecord_planAccepted_iff (h : PlanAccepted record) :
    PlanAccepted (observeRecord record o call).record ↔
      (record.currentState = .triggered → TriggeredPlanKept record o call) := by
  by_cases hstate : record.currentState = .triggered
  · have heffective : effectiveObservation record o = o :=
      effectiveObservation_of_not_monitor (by rw [hstate]; decide)
    simp only [hstate, true_implies]
    rcases observeRecord_cases record o call with ⟨hsame, hsettled, htexts, hcase⟩ | ⟨-, hcase, -⟩
    · refine iff_of_true (h.congr hsame hsettled htexts) (.inr (.inl ?_))
      rw [hstate, heffective] at hcase
      rcases hcase with hblocked | hterminal | hholds
      · exact absurd h hblocked
      · exact absurd hterminal (by decide)
      · exact endsTriggered_of_holdsOwner o hholds
    · rw [hcase, heffective]
      by_cases hplan : storedPlanGeometryFailure (recordWithObservation record o call) = none
      · exact iff_of_true (submission_planAccepted o call h fun _ => hplan)
          (.inl ((refreshed_accepted_iff o call hstate).1 hplan))
      · have hactive := refused_active_iff o call hstate hplan
        rw [TriggeredPlanKept, ← refreshed_accepted_iff o call hstate, or_iff_right hplan]
        refine ⟨fun haccepted => not_not.1 fun hkept => ?_, fun hkept hbad => ?_⟩
        · have hmem := hactive.2 hkept
          rw [← submission_geometry o call hmem] at hplan
          exact hplan (haccepted hmem)
        · exact absurd hkept (hactive.1 hbad)
  · refine iff_of_true ?_ fun htriggered => absurd htriggered hstate
    rcases observeRecord_cases record o call with ⟨hsame, hsettled, htexts, -⟩ | ⟨-, hcase, -⟩
    · exact h.congr hsame hsettled htexts
    · rw [hcase]
      exact submission_planAccepted _ call h fun htriggered => absurd htriggered hstate

end Triggered

end CandleCraft.Lifecycle
