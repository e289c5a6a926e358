import CandleCraft.Lifecycle.Observation

/-!
# The observation-driven state machine

`evaluate_lifecycle_transition`. A first observation creates the record. A later one refreshes its
columns, proposes a state, passes the geometry gate and the confidence decay, and is submitted to
`transition_record`, unless the stored plan is invalid, the closed-candle evaluation owns a terminal
outcome, or the record is held for freshness.
-/

namespace CandleCraft.Lifecycle

open Candles PyText SetupLifecycleState

/-- The arguments of `evaluate_lifecycle_transition` besides the record and the
observation. -/
structure LifecycleCall extends Clock where
  lifecycleId : String
  requiredConfirmationCycles : ℤ := 2
  setupTolerancePct : ℚ := 1 / 2
  symbolHealthPenaltyCycles : ℤ := 0

/-- `_required_confirmation_cycles`. -/
def LifecycleCall.requiredCycles (call : LifecycleCall) : ℕ :=
  (max 1 call.requiredConfirmationCycles + max 0 call.symbolHealthPenaltyCycles).toNat

/-- `_reason_for_state`, for a record that exists. -/
def reasonForState (state : SetupLifecycleState) (o : LifecycleObservation) :
    SetupTransitionReason :=
  match state with
  | .discovered => .discovered
  | .rejected => .rejected
  | .watchlisted => .readinessImproved
  | .stalking => .sweepAppeared
  | .triggered => if o.entryFilled then .entryZoneTouched else .structureShiftConfirmed
  | .confirmed => .pullbackRrValid
  | .actionableAGrade => .actionableAGrade
  | .aGradeWatch => .aGradeWatch
  | .executing => if o.entryFilled then .entryZoneTouched else .validTradeIdea
  | .managing => .entryFillSimulated
  | .tpHit => .takeProfitHit
  | .breakeven => .breakevenStopHit
  | .slHit => .stopLossHit
  | .invalidated => .setupInvalidated
  | .expired => .setupExpired
  | .cooldown => .cooldownStarted
  | .archived => .cooldownExpired
  | _ => .noChange

def transitionNotes (reason : SetupTransitionReason) (o : LifecycleObservation) : String :=
  if reason = .structureShiftConfirmed ∧ fieldText o.confirmationTimeframe ≠ NA then
    fieldText o.confirmationTimeframe ++ " BOS/CHoCH confirmed after sweep."
  else reason.value

/-- The diagnostic of a plan that `stored_plan_geometry` refuses. -/
def geometryDiagnostic (failure : String) : String :=
  "invalid_stored_plan_geometry:" ++ failure

section Creation

variable (o : LifecycleObservation) (call : LifecycleCall)

def initialConfirmationCount : ℕ :=
  if o.confirmationCountable then 1 else 0

/-- The state a first observation proposes, before the geometry gate. -/
def proposedInitialState : SetupLifecycleState :=
  if o.initialState ∈ confirmationGated ∧ initialConfirmationCount o < call.requiredCycles then
    o.initialPreConfirmationState
  else o.initialState

/-- The time of a confirmation on the first observation. -/
def initialConfirmedAt : Option Stamp :=
  if proposedInitialState o call ∈ confirmationGated ∧
      call.requiredCycles ≤ initialConfirmationCount o then
    some (.instant call.evaluatedAt)
  else none

def initialSnapshotValid : Bool :=
  (initialConfirmedAt o call).isSome && o.validConfirmed

/-- A mode or a direction as a new record stores it. -/
def normalizedName (value : String) : String :=
  if fieldText value = NA then NA else lower (fieldText value)

/-- The record of a first observation, before the geometry gate. -/
def newRecord : SetupLifecycleRecord where
  lifecycleId := call.lifecycleId
  symbol := upper (strip o.symbol)
  mode := normalizedName o.mode
  direction := normalizedName o.direction
  entryLow := .of o.entryLow
  entryHigh := .of o.entryHigh
  stopLoss := .of o.stopLoss
  tp1 := .of o.tp1
  tp2 := .of o.tp2
  tp3 := .of o.tp3
  rr := .of o.rr
  invalidationReason :=
    if initialSnapshotValid o call then fieldText o.invalidationReason else o.invalidationOrGate
  invalidationLogic := fieldText o.invalidationReason
  currentState := proposedInitialState o call
  previousState := none
  readinessScore := boundedScore (some o.readinessScore) 0
  qualityScore := boundedScore (some o.qualityScore) 0
  failedGate := if initialSnapshotValid o call then NA else fieldText o.failedGate
  confirmationCount := initialConfirmationCount o
  requiredConfirmationCycles := call.requiredCycles
  qualityGradeCurrent := o.qualityGradeOrScore
  qualityGradeConfirmed := if initialSnapshotValid o call then o.qualityGradeOrScore else NA
  confirmedAt := initialConfirmedAt o call
  decayCount := 0
  setupIdentity := o.setupIdentity
  structuralAnchor := fieldText o.structuralAnchor
  setupId := none
  planVersionId := none
  economicIdentityReason := none
  lastSeenAt := call.evaluatedAt
  lastTransitionAt := call.evaluatedAt
  cooldownUntil := none
  archivedAt := if proposedInitialState o call = .archived then some call.evaluatedAt else none

def gateNewRecord (record : SetupLifecycleRecord) : SetupLifecycleRecord :=
  match storedPlanGeometryFailure record with
  | none => record
  | some failure =>
    if record.currentState ∈ activeMonitoring then
      { record with
        currentState := .rejected
        failedGate := geometryDiagnostic failure
        confirmedAt := none
        qualityGradeConfirmed := NA }
    else record

def creationEvent (record : SetupLifecycleRecord) : SetupLifecycleEvent where
  lifecycleId := call.lifecycleId
  symbol := record.symbol
  fromState := none
  toState := record.currentState
  reason := .initialized
  readinessScore := record.readinessScore
  qualityScore := record.qualityScore
  failedGate := record.failedGate
  notes := .text (transitionNotes .initialized o)
  timestamp := call.evaluatedAt
  scanRunId := call.scanRunId

def creationResult (record : SetupLifecycleRecord) : SetupTransitionResult where
  fromState := none
  toState := record.currentState
  reason := .initialized
  transitioned := true
  allowed := true
  notes := .text (transitionNotes .initialized o)
  event := some (creationEvent o call record)
  record := record

def createLifecycle : Except String SetupTransitionResult :=
  if strip o.symbol = "" then .error "symbol must not be blank"
  else .ok (creationResult o call (gateNewRecord (newRecord o call)))

end Creation

section Refresh

variable (record : SetupLifecycleRecord) (o : LifecycleObservation) (call : LifecycleCall)

def nextConfirmationCount (consistent : Bool) : ℕ :=
  if o.terminal then 0
  else if o.hasEssentialFreshnessFailure then
    if record.currentState ∈ freshnessOwnerHold then record.confirmationCount else 0
  else if ¬ o.confirmationCountable then
    if o.setupObservable ∧ consistent then record.confirmationCount else 0
  else if consistent then min (record.confirmationCount + 1) (max 1 call.requiredCycles)
  else 1

def currentQualityGrade : String :=
  if 0 < record.decayCount ∧ fieldText record.qualityGradeCurrent ≠ NA then
    record.qualityGradeCurrent
  else o.qualityGradeOrScore

def stampsConfirmation (count : ℕ) : Bool :=
  decide (call.requiredCycles ≤ count) &&
    decide (record.confirmationCount < call.requiredCycles) && o.validConfirmed

def observedConfirmation (consistent : Bool) : Confirmation :=
  let count := nextConfirmationCount record o call consistent
  { confirmationCount := count
    requiredConfirmationCycles := call.requiredCycles
    qualityGradeCurrent := currentQualityGrade record o
    qualityGradeConfirmed :=
      if stampsConfirmation record o call count then currentQualityGrade record o
      else record.qualityGradeConfirmed
    confirmedAt :=
      if stampsConfirmation record o call count then some (.instant call.evaluatedAt)
      else record.confirmedAt
    decayCount := record.decayCount }

def planOrObservedValue (stored : StoredText) (observed : String) : StoredText :=
  if record.currentState ∈ planLock ∧ fieldText stored ≠ NA then .of stored else .of observed

def observedPlan : PlanFields StoredText where
  entryLow := planOrObservedValue record record.entryLow o.entryLow
  entryHigh := planOrObservedValue record record.entryHigh o.entryHigh
  stopLoss := planOrObservedValue record record.stopLoss o.stopLoss
  tp1 := planOrObservedValue record record.tp1 o.tp1
  tp2 := planOrObservedValue record record.tp2 o.tp2
  tp3 := planOrObservedValue record record.tp3 o.tp3
  rr := planOrObservedValue record record.rr o.rr

/-- The fragments of `_stale_rejection_text`. -/
def staleRejectionFragments : List String :=
  ["technical score", "opportunity score", "scanner minimum", "below scanner", "below minimum",
    "rr below", "risk/reward below", "missing required", "missing field", "no valid setup",
    "no setup", "near miss", "rejected setup", "setup rejected", "failed gate", "gate failed",
    "hard rejection"]

def staleRejectionText (value failedGate : String) : Bool :=
  decide (fieldText value ≠ NA) &&
    ((decide (fieldText failedGate ≠ NA) &&
        decide (statusKey (fieldText value) = statusKey (fieldText failedGate))) ||
      staleRejectionFragments.any fun fragment => isIn fragment (lower (fieldText value)))

/-- An invalidation text after an observation: `_confirmed_invalidation_value` and
`_confirmed_invalidation_logic`, which differ in the stored and the observed text. -/
def observedInvalidation (stored observed : String) : String :=
  if o.validConfirmed && staleRejectionText stored record.failedGate then
    fieldText o.invalidationReason
  else if record.currentState ∈ planLock ∧ fieldText stored ≠ NA then fieldText stored
  else fieldText observed

def observedStage : Stage :=
  { record.toStage with
    readinessScore := boundedScore (some o.readinessScore) record.readinessScore
    qualityScore := boundedScore (some o.qualityScore) record.qualityScore
    failedGate := fieldText o.failedGate }

def recordWithObservation : SetupLifecycleRecord :=
  { record with
    toPlanFields := observedPlan record o
    invalidationReason := observedInvalidation record o record.invalidationReason
      o.invalidationOrGate
    invalidationLogic := observedInvalidation record o record.invalidationLogic
      o.invalidationReason
    toStage := observedStage record o
    toConfirmation := observedConfirmation record o call
      (setupConsistent record o call.setupTolerancePct)
    setupIdentity :=
      if record.currentState ∈ planLock then record.setupIdentity else o.setupIdentity
    structuralAnchor :=
      if fieldText record.structuralAnchor ≠ NA then record.structuralAnchor
      else fieldText o.structuralAnchor
    lastSeenAt := call.evaluatedAt }

end Refresh

section Proposal

def cooldownExpired (cooldownUntil : Option Stamp) (now : Instant) : Bool :=
  match cooldownUntil with
  | none => true
  | some (.instant expiry) => decide (expiry ≤ now)
  | some _ => false

variable (record : SetupLifecycleRecord) (o : LifecycleObservation)

def confirmationGatedTarget (target : SetupLifecycleState) : SetupLifecycleState :=
  if target ∉ confirmationGated then target
  else if record.requiredConfirmationCycles ≤ record.confirmationCount ∧ o.confirmedReady then
    target
  else o.preConfirmationState

def gatedTarget : SetupLifecycleState :=
  confirmationGatedTarget record o o.observedState

def wakes (target : SetupLifecycleState) : Prop :=
  target ∈ watchPriority ∨ target ∈ validStates

instance (target : SetupLifecycleState) : Decidable (wakes target) :=
  inferInstanceAs (Decidable (_ ∨ _))

/-- A stage that waits for its entry zone to be touched, as WATCHLISTED and STALKING do. -/
def entryTouchProposed (target : SetupLifecycleState) : Prop :=
  o.entryFilled ∧ ¬ o.invalidated ∧ ¬ o.expired ∧ target ≠ .rejected

instance (target : SetupLifecycleState) : Decidable (entryTouchProposed o target) :=
  inferInstanceAs (Decidable (_ ∧ _))

def nextFromConfirmed (target : SetupLifecycleState) : SetupLifecycleState :=
  if o.invalidated ∨ target = .rejected ∨ o.invalidatesActiveSignal then .invalidated
  else if o.expired then .expired
  else if o.actionableAGradeCandidate ∧ ¬ o.entryFilled then
    if o.confirmedReady then .confirmed else .actionableAGrade
  else if o.aGradeWatchCandidate ∧ ¬ o.entryFilled then
    if o.confirmedReady then .confirmed else .aGradeWatch
  else if o.entryFilled then .executing
  else if o.validTradeIdea ∧ ¬ o.limitFillRequired then .executing
  else .confirmed

def nextFromTriggered (target : SetupLifecycleState) : SetupLifecycleState :=
  if o.invalidated ∨ target = .rejected then .invalidated
  else if target = .actionableAGrade then .actionableAGrade
  else if target = .aGradeWatch then .aGradeWatch
  else if o.pullbackAndRrValid ∨ o.validTradeIdea then target
  else if o.sweepDetected ∧ ¬ o.structureShiftDetected then .stalking
  else .triggered

def nextStateForObservation (now : Instant) : SetupLifecycleState :=
  let target := gatedTarget record o
  match record.currentState with
  | .cooldown =>
    if cooldownExpired record.cooldownUntil now then
      if wakes target then .watchlisted else .archived
    else .cooldown
  | .archived => if wakes target then .watchlisted else .archived
  | .tpHit | .slHit | .breakeven | .invalidated | .expired => .cooldown
  | .managing =>
    if o.tpHit then .tpHit
    else if o.slHit then .slHit
    else if o.invalidated then .invalidated
    else if o.expired then .expired
    else .managing
  | .executing =>
    if o.invalidated then .invalidated
    else if o.expired then .expired
    else if o.entryFilled then .managing
    else .executing
  | .confirmed => nextFromConfirmed o target
  | .aGradeWatch =>
    if o.invalidated ∨ target = .rejected then .invalidated
    else if o.expired then .expired
    else if target = .actionableAGrade then .actionableAGrade
    else if o.entryFilled then .triggered
    else if target = .confirmed then .confirmed
    else .aGradeWatch
  | .actionableAGrade =>
    if o.invalidated ∨ target = .rejected then .invalidated
    else if o.expired then .expired
    else if o.entryFilled then .triggered
    else if target = .confirmed then .confirmed
    else .actionableAGrade
  | .rejected =>
    if target = .actionableAGrade then .actionableAGrade
    else if target = .aGradeWatch then .aGradeWatch
    else if wakes target ∧ (record.readinessScore : ℤ) < o.readinessScore then .watchlisted
    else .rejected
  | .discovered =>
    if target = .rejected then .rejected
    else if target = .actionableAGrade then .actionableAGrade
    else if target = .aGradeWatch then .aGradeWatch
    else if wakes target then .watchlisted
    else .discovered
  | .watchlisted =>
    if entryTouchProposed o target then .triggered
    else if target = .rejected then .rejected
    else if target = .actionableAGrade then .actionableAGrade
    else if target = .aGradeWatch then .aGradeWatch
    else if o.sweepDetected then .stalking
    else .watchlisted
  | .stalking =>
    if entryTouchProposed o target then .triggered
    else if target = .rejected then .rejected
    else if target = .actionableAGrade then .actionableAGrade
    else if target = .aGradeWatch then .aGradeWatch
    else if o.sweepDetected ∧ o.structureShiftDetected then .triggered
    else if ¬ o.sweepDetected ∧ target = .watchlisted then .watchlisted
    else .stalking
  | .triggered => nextFromTriggered o target
  | current => current

end Proposal

section Adjustment

/-- A proposal on its way to `transition_record`: the refreshed record, the proposed state,
the diagnostic of the geometry gate and whether confidence has decayed. -/
structure Proposal where
  record : SetupLifecycleRecord
  nextState : SetupLifecycleState
  geometryFailure : Option String := none
  decayed : Bool := false

/-- The geometry gate: an active state needs a plan that `stored_plan_geometry` accepts. -/
def gateGeometry (p : Proposal) : Proposal :=
  match storedPlanGeometryFailure p.record with
  | none => p
  | some failure =>
    if p.nextState ∈ activeMonitoring then
      { p with
        record := { p.record with failedGate := geometryDiagnostic failure }
        nextState :=
          if transitionAllowed p.record.currentState .rejected then .rejected
          else p.record.currentState
        geometryFailure := some failure }
    else p

/-- `_decayed_grade`: none when the grade is not on the decay path, `some none` past its
end. -/
def decayedGrade (value : String) : Option (Option String) :=
  let key := gradeKey value
  if key = "a+" then some (some "A")
  else if key = "a" then some (some "A-")
  else if key = "a-" then some (some "B+")
  else if key = "b+" then some none
  else none

def decay (p : Proposal) : Proposal :=
  match decayedGrade p.record.qualityGradeCurrent with
  | none => p
  | some (some grade) =>
    { p with
      record := { p.record with
        decayCount := p.record.decayCount + 1
        qualityGradeCurrent := grade }
      decayed := true }
  | some none =>
    if p.nextState = .confirmed then
      { p with
        record := { p.record with decayCount := p.record.decayCount + 1 }
        decayed := true }
    else
      { p with
        record := { p.record with
          decayCount := p.record.decayCount + 1
          qualityGradeCurrent := "Expired"
          failedGate := "confidence_decay"
          invalidationReason := "no price reaction or lifecycle progress" }
        nextState := .expired
        decayed := true }

def applyDecayIfNeeded (previous : SetupLifecycleRecord) (o : LifecycleObservation)
    (p : Proposal) : Proposal :=
  if p.nextState ≠ previous.currentState ∨ p.nextState ∉ decayable then p
  else if previous.confirmationCount < p.record.confirmationCount then p
  else if p.record.setupIdentity ≠ previous.setupIdentity then p
  else if o.entryFilled ∨ o.terminal then p
  else decay p

def proposalReason (previous : SetupLifecycleRecord) (o : LifecycleObservation) (p : Proposal) :
    SetupTransitionReason :=
  if p.decayed then if p.nextState = .expired then .setupExpired else .setupDecayed
  else if p.record.requiredConfirmationCycles ≤ p.record.confirmationCount ∧
      previous.confirmationCount < p.record.requiredConfirmationCycles ∧
      p.nextState = .confirmed then .multiScanConfirmed
  else if p.geometryFailure.isSome ∧ p.nextState = p.record.currentState then .invalidTransition
  else reasonForState p.nextState o

def proposalRequest (previous : SetupLifecycleRecord) (o : LifecycleObservation) (p : Proposal) :
    TransitionRequest where
  reason := proposalReason previous o p
  readinessScore := some o.readinessScore
  qualityScore := some o.qualityScore
  failedGate :=
    match p.geometryFailure with
    | some failure => geometryDiagnostic failure
    | none => if p.decayed then p.record.failedGate else o.failedGate
  notes := .text
    (match p.geometryFailure with
    | some failure => geometryDiagnostic failure
    | none =>
      if p.nextState ≠ p.record.currentState then transitionNotes (proposalReason previous o p) o
      else SetupTransitionReason.noChange.value)

end Adjustment

section Evaluation

variable (record : SetupLifecycleRecord) (o : LifecycleObservation) (call : LifecycleCall)

def proposal : Proposal :=
  let refreshed := recordWithObservation record o call
  applyDecayIfNeeded record o (gateGeometry
    { record := refreshed
      nextState := nextStateForObservation refreshed o call.evaluatedAt })

/-- The result for a record in an active state whose stored plan is refused. -/
def blockedByGeometry (failure : String) : SetupTransitionResult where
  fromState := some record.currentState
  toState := record.currentState
  reason := .invalidTransition
  transitioned := false
  allowed := false
  notes := .text (geometryDiagnostic failure)
  event := none
  record := record

/-- The request for a terminal outcome that the closed-candle evaluation owns. -/
def keepTerminalRequest : TransitionRequest where
  reason := .noChange
  readinessScore := some record.readinessScore
  qualityScore := some record.qualityScore
  failedGate := record.failedGate
  notes := .text "Canonical terminal lifecycle state is immutable."

def holdOwner : SetupTransitionResult where
  fromState := some record.currentState
  toState := record.currentState
  reason := .noChange
  transitioned := false
  allowed := true
  notes := .text "essential_candle_freshness_discovery_hold"
  event := none
  record := { record with lastSeenAt := call.evaluatedAt }

/-- The observation with the stored plan, when it shows that the stored entry zone was
touched and the closed-candle evaluation does not manage the outcomes. -/
def effectiveObservation : LifecycleObservation :=
  if ¬ o.closedCandleOutcomesManaged ∧ storedMonitoringEntryZoneTouched record o then
    observationWithStoredPlan o record true
  else o

def holdsOwner (o : LifecycleObservation) : Prop :=
  record.currentState ∈ freshnessOwnerHold ∧ o.freshnessFailurePreservesOwner ∧ ¬ o.tpHit ∧ ¬ o.slHit

instance (o : LifecycleObservation) : Decidable (holdsOwner record o) :=
  inferInstanceAs (Decidable (_ ∧ _))

/-- How an observation of a record ends: blocked by a stored plan that is refused, held, or
submitted to `transition_record`. -/
inductive Disposition where
  | blocked (failure : String)
  | held
  | submitted (record : SetupLifecycleRecord) (target : SetupLifecycleState)
      (request : TransitionRequest)
  deriving DecidableEq

def submission : Disposition :=
  let p := proposal record o call
  .submitted p.record p.nextState (proposalRequest record o p)

/-- The disposition of a record whose plan is accepted or not active. -/
def openDisposition : Disposition :=
  if o.closedCandleOutcomesManaged ∧ record.currentState ∈ [.tpHit, .slHit, .breakeven] then
    .submitted record record.currentState (keepTerminalRequest record)
  else if holdsOwner record (effectiveObservation record o) then .held
  else submission record (effectiveObservation record o) call

def disposition : Disposition :=
  match storedPlanGeometryFailure record with
  | some failure =>
    if record.currentState ∈ activeMonitoring then .blocked failure
    else openDisposition record o call
  | none => openDisposition record o call

def Disposition.result : Disposition → SetupTransitionResult
  | .blocked failure => blockedByGeometry record failure
  | .held => holdOwner record call
  | .submitted refreshed target request =>
    transitionRecord refreshed target request call.toClock

def observeRecord : SetupTransitionResult :=
  (disposition record o call).result record call

def withEconomicIdentities (sha256 : String → String) (previous : Option SetupLifecycleRecord)
    (t : SetupTransitionResult) : SetupTransitionResult :=
  { t with
    record := latchEconomicIdentities sha256 t.record o.instrumentVenue
      (decide (t.record.currentState ∈ planLock)) previous }

def observedResult (sha256 : String → String) : SetupTransitionResult :=
  withEconomicIdentities o sha256 (some record) (observeRecord record o call)

end Evaluation

def evaluateLifecycleTransition (sha256 : String → String) (record : Option SetupLifecycleRecord)
    (o : LifecycleObservation) (call : LifecycleCall) : Except String SetupTransitionResult :=
  match record with
  | none => (createLifecycle o call).map (withEconomicIdentities o sha256 none)
  | some record => .ok (observedResult record o call sha256)

end CandleCraft.Lifecycle
