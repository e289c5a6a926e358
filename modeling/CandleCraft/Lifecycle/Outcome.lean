import CandleCraft.Kernel.Scan
import CandleCraft.Lifecycle.Progress
import CandleCraft.Outbox.Ownership

/-!
# Closed-candle outcome evaluation

`evaluate_closed_candle_outcomes`: from a record, its stored progress and a window of execution
candles, the milestones that the closed candles prove, the transitions of the record and the events.
One candle is one step of a scan that stops when the plan has ended. A `ValueError` that escapes is
an error here; the caller rolls back then.
-/

namespace CandleCraft.Lifecycle

open Candles PyText Relational

section Repository

/-- The tables of `SQLiteSetupLifecycleRepository`. -/
structure Repository where
  authority : Outbox.Authority
  records : Table SetupLifecycleRecord fun r => r.lifecycleId
  progress : Table OutcomeProgress fun p => (p.lifecycleId, p.planIdentity)
  events : List SetupLifecycleEvent

namespace Repository

variable (repo : Repository)

/-- Whether `require_current_epoch_lifecycle_id` passes. -/
def ownsCurrentEpoch (lifecycleId : String) : Bool :=
  match repo.authority.activeEpochId with
  | none => false
  | some epoch =>
    match Outbox.Ownership.requireCurrentEpochLifecycleId repo.authority lifecycleId epoch with
    | .error _ => false
    | .ok _ => true

def listEvents (lifecycleId : String) : List SetupLifecycleEvent :=
  (repo.events.filter fun e => decide (e.lifecycleId = lifecycleId)).insertionSort
    fun a b => a.timestamp ≤ b.timestamp

/-- `upsert_outcome_progress`. -/
def putProgress (p : OutcomeProgress) : Repository :=
  { repo with progress := repo.progress.put p }

end Repository

/-- The progress row of a plan: the first one stored under one of its identities. -/
def Repository.findProgress (repo : Repository) (lifecycleId : String) (identities : List String) :
    Option OutcomeProgress :=
  identities.findSome? fun identity => repo.progress.fetch (lifecycleId, identity)

def Repository.historicalPlans (repo : Repository) (lifecycleId : String)
    (identities : List String) : List OutcomeProgress :=
  repo.progress.rows.filter fun p =>
    decide (p.lifecycleId = lifecycleId) && decide (p.planIdentity ∉ identities)

end Repository

section Pass

/-- A candle the loop has completed, with the progress row before and after it. -/
structure Round where
  before : OutcomeProgress
  bar : Bar
  after : OutcomeProgress
  deriving DecidableEq

/-- The variables of the candle loop; `rounds` is the list of the completed candles that
the prefix evidence keeps. -/
structure Pass where
  record : SetupLifecycleRecord
  progress : OutcomeProgress
  events : List SetupLifecycleEvent
  transitions : List SetupTransitionResult
  processed : ℕ
  rounds : List Round
  aborted : Bool

namespace Pass

variable (s : Pass) (g : StoredPlanGeometry) (clock : Clock) (bar : Bar)

/-- The loop ends after a terminal outcome, and when the entry could not be followed by the
record. -/
def done : Bool :=
  s.progress.terminalOutcome.isSome || s.aborted

/-- `_event_notes`. -/
def outcomeNotes (eventType policyReason : String) (level : Level)
    (evidence : Option EntryEvidence) : EventNotes :=
  .outcome eventType bar.openTimestamp bar.closeTimestamp level s.progress.planIdentity
    policyReason evidence

def insertMilestoneEvent (reason : SetupTransitionReason) (eventType : String) (level : Level)
    (evidence : Option EntryEvidence) : Pass :=
  { s with events := s.events ++ [
    { lifecycleId := s.record.lifecycleId
      symbol := s.record.symbol
      fromState := some s.record.currentState
      toState := s.record.currentState
      reason := reason
      readinessScore := s.record.readinessScore
      qualityScore := s.record.qualityScore
      failedGate := NA
      notes := s.outcomeNotes bar eventType NA level evidence
      timestamp := clock.evaluatedAt
      scanRunId := clock.scanRunId }] }

def adopt (t : SetupTransitionResult) : Pass :=
  { s with
    record := t.record
    events := s.events ++ t.event.toList
    transitions := s.transitions ++ [t] }

/-- The `next_state` table of `advance_to_managing`. -/
def nextState : SetupLifecycleState → Option SetupLifecycleState
  | .watchlisted => some .triggered
  | .stalking => some .triggered
  | .actionableAGrade => some .triggered
  | .aGradeWatch => some .triggered
  | .triggered => some .confirmed
  | .confirmed => some .executing
  | .executing => some .managing
  | _ => none

/-- `advance_to_managing`, with the number of rounds left. -/
def advanceToManaging : ℕ → Pass → Pass
  | 0, s => s
  | n + 1, s =>
    match nextState s.record.currentState with
    | none => s
    | some target =>
      let t := transitionRecord s.record target
        { reason := if target = .triggered then .entryZoneTouched else .entryFillSimulated
          notes := s.outcomeNotes bar "entry_state_progression"
            "simulated_price_contact; no exchange fill or user execution is verified" .na none }
        clock
      if ¬ t.allowed ∨ ¬ t.transitioned then s
      else if (s.adopt t).record.currentState = .managing then s.adopt t
      else advanceToManaging n (s.adopt t)

def recordTerminalTransition (toState : SetupLifecycleState) (reason : SetupTransitionReason)
    (eventType policyReason : String) (level : Level) : Except String Pass :=
  let t := transitionRecord s.record toState
    { reason := reason, notes := s.outcomeNotes bar eventType policyReason level none } clock
  if ¬ t.allowed ∨ ¬ t.transitioned then
    .error ("outcome_transition_rejected:" ++ s.record.currentState.value ++ "->" ++
      toState.value)
  else .ok (s.adopt t)

def conclude (outcome : SetupLifecycleState) : Pass :=
  { s with progress := { s.progress with
    outcomeAt := some (.instant bar.closeTimestamp)
    terminalOutcome := some outcome } }

def stopAtClose : Pass :=
  { s with progress := { s.progress with stopAt := some (.instant bar.closeTimestamp) } }

def recordStop (ambiguityReason : String) (breakeven : Bool) : Except String Pass :=
  let outcome : SetupLifecycleState := if breakeven then .breakeven else .slHit
  let reason : SetupTransitionReason := if breakeven then .breakevenStopHit else .stopLossHit
  let eventType := if breakeven then "terminal_breakeven" else "terminal_sl_hit"
  let level := if breakeven then referencePrice g else g.stopLoss
  match s.recordTerminalTransition clock bar outcome reason eventType ambiguityReason
      (.price level) with
  | .error e => .error e
  | .ok s' => .ok ((s'.stopAtClose bar).conclude bar outcome)

/-- The end of a candle: `_with_cursor`. -/
def complete : Pass :=
  { s with progress := s.progress.withCursor bar clock }

def entryEvidence : EntryEvidence where
  lifecycleId := s.record.lifecycleId
  symbol := s.record.symbol
  direction := s.record.direction
  entryLow := g.entryLow
  entryHigh := g.entryHigh
  trackingBoundaryTimestamp := s.progress.metadataOrEmpty.trackingBoundaryTimestamp
  trackingBoundarySource := s.progress.metadataOrEmpty.trackingBoundarySource
  causalCandleOpen := bar.openTimestamp
  causalCandleClose := bar.closeTimestamp
  candleHigh := bar.high
  candleLow := bar.low
  economicPlanVersionId := s.record.planVersionId.getD NA
  entryAt := bar.closeTimestamp

def withEntryEvidence (evidence : EntryEvidence) : Pass :=
  { s with progress := { s.progress with
    entryAt := some (.instant bar.closeTimestamp)
    metadata := .ok { s.progress.metadataOrEmpty with entryEvidence := some evidence } } }

def activateEntry : Pass :=
  let evidence := s.entryEvidence g bar
  advanceToManaging clock bar 4
    ((s.withEntryEvidence bar evidence).insertMilestoneEvent clock bar .entryActivated
      "entry_activated" (.zone g.entryLow g.entryHigh) (some evidence))

/-- A candle of a plan that is not filled. The entry candle can prove the fill and a
same-candle stop; targets begin with the next candle. -/
def processUnfilled : Except String Pass :=
  if entryTouched bar g then
    let s' := s.activateEntry g clock bar
    if s'.record.currentState ≠ .managing then
      .ok { s' with
        progress := s'.progress.integrityFailure .failed
          (.entryStateProgressionFailed s'.record.currentState) clock
        aborted := true }
    else if stopTouched bar g then
      match s'.recordStop g clock bar "entry_and_stop_same_candle_stop_wins" false with
      | .error e => .error e
      | .ok s'' => .ok (s''.complete clock bar)
    else .ok (s'.complete clock bar)
  else .ok (s.complete clock bar)

def targetReason : ℕ → SetupTransitionReason
  | 1 => .tp1Milestone
  | 2 => .tp2Milestone
  | _ => .tp3Milestone

def creditTarget (target : ℕ × ℚ) : Pass :=
  { s with progress := s.progress.creditTarget target.1 (.instant bar.closeTimestamp) }
    |>.insertMilestoneEvent clock bar (targetReason target.1)
      ("tp" ++ toString target.1 ++ "_hit") (.price target.2) none

/-- The targets of a candle that does not reach the stop. -/
def processTargets (touched : List (ℕ × ℚ)) : Except String Pass :=
  let s' := touched.foldl (fun s target => s.creditTarget clock bar target) s
  if s'.progress.tp3At.isSome then
    match s'.recordTerminalTransition clock bar .tpHit .takeProfitHit "terminal_tp_hit" NA .na with
    | .error e => .error e
    | .ok s'' => .ok ((s''.conclude bar .tpHit).complete clock bar)
  else .ok (s'.complete clock bar)

def processFilled : Except String Pass :=
  match protectionActive s.progress bar.openTimestamp with
  | .error e => .error e
  | .ok breakeven =>
    let touched := newlyTouchedTargets bar g s.progress
    if (if breakeven then referenceStopTouched bar g else stopTouched bar g) then
      match s.recordStop g clock bar
          (if touched = [] then NA else "post_entry_stop_and_target_same_candle_stop_wins")
          breakeven with
      | .error e => .error e
      | .ok s' => .ok (s'.complete clock bar)
    else s.processTargets clock bar touched

def processPlan : Except String Pass :=
  if s.progress.entryAt.isNone then s.processUnfilled g clock bar
  else s.processFilled g clock bar

/-- Count a candle, and keep it as completed unless the loop was aborted on it. -/
def logRound (s' : Pass) : Pass :=
  { s' with
    processed := s.processed + 1
    rounds := if s'.aborted then s.rounds else s.rounds ++ [⟨s.progress, bar, s'.progress⟩] }

def processCandle : Except String Pass :=
  (s.processPlan g clock bar).map (s.logRound bar)

def scan (bars : List Bar) : Except String Pass :=
  Scan.runUntil done (fun s bar => s.processCandle g clock bar) s bars

end Pass

end Pass

section Tracking

variable (record : SetupLifecycleRecord) (p : OutcomeProgress) (clock : Clock) (repo : Repository)
  (identities : List String) (δ : ℤ)

def confirmationValue : Except Diagnostic (Stamp × String) :=
  match record.confirmedAt with
  | some (.instant t) => .ok (.instant t, "lifecycle_confirmed_at")
  | some (.invalid problem) => .ok (.invalid problem, "lifecycle_confirmed_at")
  | _ =>
    match (repo.listEvents record.lifecycleId).find? fun e => decide (e.toState = .confirmed) with
    | none => .error .missingConfirmationBoundary
    | some event => .ok (.instant event.timestamp, "lifecycle_confirmed_event")

/-- `progress.first_evaluated_at or evaluated_at`. -/
def materialPlanValue : Stamp :=
  if p.firstEvaluatedAt = .empty then .instant clock.evaluatedAt else p.firstEvaluatedAt

def entryTrackingBoundary : Except Diagnostic (Instant × String) :=
  match confirmationValue record repo with
  | .error d => .error d
  | .ok (value, source) =>
    match normalizeUtcTimestamp value "entry_tracking_confirmation_boundary" with
    | .error problem => .error (.invalidConfirmationBoundary problem)
    | .ok confirmation =>
      if repo.historicalPlans record.lifecycleId identities = [] then .ok (confirmation, source)
      else
        match normalizeUtcTimestamp (materialPlanValue p clock)
            "material_plan_first_evaluated_at" with
        | .error problem => .error (.invalidMaterialPlanBoundary problem)
        | .ok materialPlan =>
          if confirmation < materialPlan then
            .ok (materialPlan, "material_plan_first_evaluated_at_after_confirmation")
          else .ok (confirmation, source)

def firstAlignedOpenAtOrAfter (boundary anchor : Instant) : Instant :=
  Grid.ceil δ anchor boundary

def firstFullyPostBoundaryOpen (boundary earliestOpen : Instant) : Instant :=
  if boundary ≤ earliestOpen then earliestOpen else Grid.ceil δ earliestOpen boundary

def OutcomeProgress.withTrackingStart (trackingStart : Instant) (boundary : Stamp)
    (source eligibility : String) (diagnostic : Diagnostic) : OutcomeProgress :=
  { p with
    trackingStartAt := some (.instant trackingStart)
    metadata := .ok { p.metadataOrEmpty with
      trackingBoundarySource := some source
      trackingBoundaryTimestamp := some boundary
      boundaryEligibility := some eligibility
      boundaryDiagnostic := some diagnostic
      entryCausalityContract := some entryCausalityContract } }

/-- Whether the first candle after the boundary opens exactly on it. -/
def boundaryEligibility (boundary firstOpen : Instant) : String × Diagnostic :=
  if firstOpen = boundary then ("boundary_exactly_at_candle_open", .na)
  else ("partially_overlapping_boundary", .partialBoundaryCandle)

/-- The first open after the boundary and the start of tracking, for an unfilled row of an
earlier contract. -/
def prospectiveStart (boundary earliestOpen : Instant) : Except Diagnostic (Instant × Instant) :=
  match p.evaluationCursorOpenAt with
  | none =>
    if boundary < earliestOpen then .error (.boundaryBeforeHistory boundary earliestOpen)
    else
      .ok (firstFullyPostBoundaryOpen δ boundary earliestOpen,
        firstFullyPostBoundaryOpen δ boundary earliestOpen)
  | some stored =>
    match normalizeUtcTimestamp stored "evaluation_cursor_open_at" with
    | .error problem => .error (.invalidTimestamp problem)
    | .ok cursorOpen =>
      .ok (firstAlignedOpenAtOrAfter δ boundary cursorOpen,
        max (cursorOpen + δ) (firstAlignedOpenAtOrAfter δ boundary cursorOpen))

/-- The migration of an unfilled row that does not carry the entry causality contract. -/
def adoptProspectively (earliestOpen : Instant) : Except Diagnostic OutcomeProgress :=
  match entryTrackingBoundary record p clock repo identities with
  | .error d => .error d
  | .ok (boundary, source) =>
    match prospectiveStart p δ boundary earliestOpen with
    | .error d => .error d
    | .ok (firstOpen, trackingStart) =>
      let started := p.withTrackingStart trackingStart (.instant boundary) source
        (boundaryEligibility boundary firstOpen).1 (boundaryEligibility boundary firstOpen).2
      .ok { started with metadata := .ok { started.metadataOrEmpty with
        prospectiveStartAt := some trackingStart } }

/-- The eligibility texts of `_tracking_start_boundary`. -/
def startEligibility (boundary trackingStart earliestOpen : Instant) : String × Diagnostic :=
  if earliestOpen ≤ boundary ∧ boundary < trackingStart then
    ("partially_overlapping_boundary", .partialBoundaryCandle)
  else if trackingStart = boundary then ("boundary_exactly_at_candle_open", .na)
  else ("fully_post_boundary_history_start", .na)

/-- `_tracking_start_boundary`, and the start it gives a row without a cursor. -/
def startTracking (earliestOpen : Instant) : Except Diagnostic OutcomeProgress :=
  match entryTrackingBoundary record p clock repo identities with
  | .error d => .error d
  | .ok (boundary, source) =>
    if boundary < earliestOpen then .error (.boundaryBeforeHistory boundary earliestOpen)
    else
      let trackingStart := firstFullyPostBoundaryOpen δ boundary earliestOpen
      .ok (p.withTrackingStart trackingStart (.instant boundary) source
        (startEligibility boundary trackingStart earliestOpen).1
        (startEligibility boundary trackingStart earliestOpen).2)

def backfillTracking (cursor : Stamp) : Except Diagnostic OutcomeProgress :=
  match normalizeUtcTimestamp cursor "evaluation_cursor_open_at" with
  | .error problem => .error (.invalidPersistedCursor problem)
  | .ok cursorOpen =>
    .ok (p.withTrackingStart cursorOpen cursor "existing_cursor_v19_backfill"
      "legacy_entry_already_persisted" .na)

/-- The tracking start of a row before its candles are selected. -/
def establishTracking (earliestOpen : Instant) :
    Except (IntegrityStatus × Diagnostic) OutcomeProgress :=
  if p.entryAt.isNone ∧
      p.metadataOrEmpty.entryCausalityContract ≠ some entryCausalityContract then
    (adoptProspectively record p clock repo identities δ earliestOpen).mapError fun d => (.unverified, d)
  else if p.trackingStartAt.isNone then
    match p.evaluationCursorOpenAt with
    | none =>
      (startTracking record p clock repo identities δ earliestOpen).mapError fun d =>
        (.unverified, d)
    | some cursor => (backfillTracking p cursor).mapError fun d => (.failed, d)
  else .ok p

/-- What the window offers a row: a reason to stop, nothing to do, or candles. -/
inductive Selection where
  | blocked (status : IntegrityStatus) (diagnostic : Diagnostic)
  | idle (diagnostic : Diagnostic)
  | pending (bars : List Bar)

def selectFrom (expectedOpen : Instant) (bars : List Bar) (otherwise : Selection) : Selection :=
  match bars.filter fun bar => decide (expectedOpen ≤ bar.openTimestamp) with
  | [] => otherwise
  | bar :: rest =>
    if bar.openTimestamp ≠ expectedOpen then
      .blocked .unverified (.missingExpectedOpen expectedOpen bar.openTimestamp)
    else .pending (bar :: rest)

/-- The reading of a tracking start that is not set. -/
def unsetStamp : Stamp := .invalid "must be an epoch-millisecond or datetime value"

/-- The pending candles of a row with an established start. -/
def selectPending (bars : List Bar) (latestOpen : Instant) : Selection :=
  match normalizeUtcTimestamp (p.trackingStartAt.getD unsetStamp) "tracking_start_at" with
  | .error problem => .blocked .failed (.invalidPersistedTrackingStart problem)
  | .ok trackingStart =>
    match p.evaluationCursorOpenAt with
    | none =>
      selectFrom trackingStart bars
        (if latestOpen < trackingStart then
          .idle (p.metadataOrEmpty.boundaryDiagnostic.getD .awaitingFirstFullyPostBoundary)
        else .blocked .unverified (.missingSinceTrackingStart trackingStart latestOpen))
    | some stored =>
      match normalizeUtcTimestamp stored "evaluation_cursor_open_at" with
      | .error problem => .blocked .failed (.invalidPersistedCursor problem)
      | .ok cursorOpen =>
        if latestOpen < cursorOpen then .blocked .unverified (.staleHistory latestOpen cursorOpen)
        else selectFrom (max (cursorOpen + δ) trackingStart) bars (.idle .na)

end Tracking

section Evaluation

/-- `LifecycleOutcomeEvaluation`; `last_transition` is the last of the transitions. The
completed candles of the prefix evidence are returned with it. -/
structure LifecycleOutcomeEvaluation where
  record : SetupLifecycleRecord
  progress : Option OutcomeProgress
  transitions : List SetupTransitionResult := []
  processedCandles : ℕ := 0
  rounds : List Round := []
  deriving DecidableEq

/-- The arguments of an evaluation that are not the candles. -/
structure Call extends Clock where
  executionTimeframe : String
  decisionTimestamp : Instant

def Call.timeframe (call : Call) : String :=
  lower (fieldText call.executionTimeframe)

def newProgress (record : SetupLifecycleRecord) (planIdentity executionTimeframe : String)
    (clock : Clock) : OutcomeProgress where
  lifecycleId := record.lifecycleId
  planIdentity := planIdentity
  executionTimeframe := lower (fieldText executionTimeframe)
  firstEvaluatedAt := .instant clock.evaluatedAt
  metadata := .ok { entryCausalityContract := some entryCausalityContract }
  integrityStatus := .na
  diagnostic := .na
  lastEvaluatedAt := .instant clock.evaluatedAt
  lastEligibilityDecisionAt := none

def terminalProgressForRecord (record : SetupLifecycleRecord) (p : OutcomeProgress)
    (clock : Clock) : OutcomeProgress :=
  { p with
    terminalOutcome := some record.currentState
    outcomeAt := p.outcomeAt <|> some (.instant record.lastTransitionAt)
    invalidatedAt :=
      if record.currentState = .invalidated then
        p.invalidatedAt <|> some (.instant record.lastTransitionAt)
      else p.invalidatedAt
    integrityStatus := if p.integrityStatus = .na then .unverified else p.integrityStatus
    diagnostic := if p.integrityStatus = .na then .terminalStatePrecededCursor else p.diagnostic
    lastEvaluatedAt := .instant clock.evaluatedAt }

def windowBars (candles : List RawCandle) (timeframe : String) (decision : Instant) :
    Except Diagnostic (List Bar) :=
  match closedCandlesAsOf candles timeframe decision 0 true with
  | .error e => .error (.candleIntegrity e)
  | .ok window =>
    match window.timeline.mapM candleBar with
    | .error e => .error (.candleRange e)
    | .ok bars => .ok bars

/-- The cutoff is recorded as soon as the candles are filtered, before their ranges are
read. -/
def applyCutoff (candles : List RawCandle) (timeframe : String) (decision : Instant)
    (p : OutcomeProgress) : OutcomeProgress :=
  match closedCandlesAsOf candles timeframe decision 0 true with
  | .error _ => p
  | .ok _ => p.withAppliedEligibilityCutoff decision

variable (record : SetupLifecycleRecord) (call : Call) (repo : Repository)
  (identities : List String)

def leaveAll (stored : Option OutcomeProgress) : LifecycleOutcomeEvaluation × Repository :=
  ({ record := record, progress := stored }, repo)

/-- Write a row and return it with the record as it was. -/
def leaveRecord (p : OutcomeProgress) : LifecycleOutcomeEvaluation × Repository :=
  ({ record := record, progress := some p }, repo.putProgress p)

def block (p : OutcomeProgress) (status : IntegrityStatus) (diagnostic : Diagnostic) :
    LifecycleOutcomeEvaluation × Repository :=
  leaveRecord record repo (p.integrityFailure status diagnostic call.toClock)

/-- The variables of the candle loop before the first candle. -/
def startPass (p : OutcomeProgress) : Pass where
  record := record
  progress := p
  events := repo.events
  transitions := []
  processed := 0
  rounds := []
  aborted := false

/-- Write the result of the candle loop. -/
def finishPass (s : Pass) : LifecycleOutcomeEvaluation × Repository :=
  ({ record := s.record
     progress := some s.progress
     transitions := s.transitions
     processedCandles := s.processed
     rounds := s.rounds },
    { repo with
      records := repo.records.put s.record
      progress := repo.progress.put s.progress
      events := s.events })

def evaluateTracked (g : StoredPlanGeometry) (p : OutcomeProgress) (bars : List Bar)
    (latestOpen : Instant) (δ : ℤ) : Except String (LifecycleOutcomeEvaluation × Repository) :=
  match selectPending p δ bars latestOpen with
  | .blocked status d => .ok (block record call repo p status d)
  | .idle d =>
    .ok (leaveRecord record repo { p with
      integrityStatus := .verified
      diagnostic := d
      lastEvaluatedAt := .instant call.evaluatedAt })
  | .pending pending => ((startPass record repo p).scan g call.toClock pending).map (finishPass repo)

def evaluateBars (g : StoredPlanGeometry) (p : OutcomeProgress) (δ : ℤ) :
    List Bar → Except String (LifecycleOutcomeEvaluation × Repository)
  | [] => .ok (block record call repo p .unverified .noClosedExecutionCandles)
  | first :: rest =>
    match establishTracking record p call.toClock repo identities δ first.openTimestamp with
    | .error (status, d) => .ok (block record call repo p status d)
    | .ok started =>
      evaluateTracked record call repo g started (first :: rest)
        ((first :: rest).getLast (List.cons_ne_nil first rest)).openTimestamp δ

/-- An evaluation of a row that is bound to the stop policy. -/
def evaluateBound (g : StoredPlanGeometry) (p : OutcomeProgress) (candles : List RawCandle) :
    Except String (LifecycleOutcomeEvaluation × Repository) :=
  if candles = [] then .ok (block record call repo p .unverified .missingExecutionCandleHistory)
  else
    let filtered := applyCutoff candles call.timeframe call.decisionTimestamp p
    match windowBars candles call.timeframe call.decisionTimestamp with
    | .error d => .ok (block record call repo filtered .unverified d)
    | .ok bars =>
      evaluateBars record call repo identities g filtered
        ((timeframeDuration call.timeframe).getD 0) bars

def evaluateEligible (g : StoredPlanGeometry) (p : OutcomeProgress) (candles : List RawCandle) :
    Except String (LifecycleOutcomeEvaluation × Repository) :=
  if call.timeframe = lower NA then
    .ok (block record call repo p .unverified .missingExecutionTimeframe)
  else if p.executionTimeframe ≠ call.timeframe then
    .ok (block record call repo p .failed
      (.executionTimeframeChanged p.executionTimeframe call.timeframe))
  else
    match bindStopPolicy p g call.decisionTimestamp call.toClock with
    | .error problem => .ok (block record call repo p .failed (.stopManagementPolicyInvalid problem))
    | .ok bound => evaluateBound record call repo identities g bound candles

def rowOrNew (stored : Option OutcomeProgress) (executionTimeframe : String) (clock : Clock) :
    OutcomeProgress :=
  stored.getD (newProgress record (identities.headD "") executionTimeframe clock)

def storedRow : Option OutcomeProgress := repo.findProgress record.lifecycleId identities

def workingRow : OutcomeProgress :=
  rowOrNew record identities (storedRow record repo identities) call.executionTimeframe call.toClock

/-- `evaluate_closed_candle_outcomes`, with the compatible identities of the plan. -/
def evaluateWithIdentities (candles : List RawCandle) :
    Except String (LifecycleOutcomeEvaluation × Repository) :=
  if ¬ repo.ownsCurrentEpoch record.lifecycleId then
    .ok (leaveAll record repo (storedRow record repo identities))
  else
    match storedPlanGeometry record with
    | .error _ => .ok (leaveAll record repo (storedRow record repo identities))
    | .ok g =>
      if (storedRow record repo identities).any (fun p => p.terminalOutcome.isSome) then
        .ok (leaveAll record repo (storedRow record repo identities))
      else if record.currentState ∈ SetupLifecycleState.terminalOutcome then
        .ok (leaveRecord record repo (terminalProgressForRecord record
          (workingRow record call repo identities) call.toClock))
      else if record.currentState ∉ SetupLifecycleState.outcomeEligible then
        .ok (leaveAll record repo (storedRow record repo identities))
      else
        evaluateEligible record call repo identities g (workingRow record call repo identities)
          candles

end Evaluation

def evaluateClosedCandleOutcomes (sha256 : String → String) (record : SetupLifecycleRecord)
    (call : Call) (repo : Repository) (candles : List RawCandle) :
    Except String (LifecycleOutcomeEvaluation × Repository) :=
  evaluateWithIdentities record call repo (compatiblePlanIdentities sha256 record) candles

/-- The row `record_closed_candle_evidence_gap` writes: the failure is noted and the cursor
is put back. -/
def OutcomeProgress.withEvidenceGap (p : OutcomeProgress) (diagnostic : String) (clock : Clock) :
    OutcomeProgress :=
  { p.integrityFailure .unverified (.evidenceGap diagnostic) clock with toCursor := p.toCursor }

def recordClosedCandleEvidenceGap (sha256 : String → String) (record : SetupLifecycleRecord)
    (diagnostic executionTimeframe : String) (clock : Clock) (repo : Repository) :
    LifecycleOutcomeEvaluation × Repository :=
  let identities := compatiblePlanIdentities sha256 record
  let stored := repo.findProgress record.lifecycleId identities
  if ¬ repo.ownsCurrentEpoch record.lifecycleId then leaveAll record repo none
  else if stored.any (fun p => p.terminalOutcome.isSome) then leaveAll record repo stored
  else if record.currentState ∈ SetupLifecycleState.terminalOutcome then leaveAll record repo stored
  else if (storedPlanGeometryFailure record).isSome then leaveAll record repo stored
  else if record.currentState ∉ SetupLifecycleState.outcomeEligible then leaveAll record repo stored
  else
    leaveRecord record repo
      ((rowOrNew record identities stored executionTimeframe clock).withEvidenceGap diagnostic clock)

end CandleCraft.Lifecycle
