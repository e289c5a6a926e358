import CandleCraft.Candles.Integrity
import CandleCraft.Plan.TradePlan

/-!
# Lifecycle records and their transitions

The states of a setup, the table of allowed transitions and `transition_record`, with the
event it emits. A record is split into the columns that are written together; a transition
writes the stage and the times.
-/

namespace CandleCraft.Lifecycle

open Candles PyText

inductive SetupLifecycleState where
  | discovered
  | rejected
  | watchlisted
  | stalking
  | triggered
  | confirmed
  | actionableAGrade
  | aGradeWatch
  | executing
  | managing
  | tpHit
  | slHit
  | breakeven
  | invalidated
  | expired
  | cooldown
  | cooledDown
  | noLongerTracking
  | removed
  | cancelled
  | canceled
  | archived
  deriving DecidableEq

namespace SetupLifecycleState

def value : SetupLifecycleState → String
  | discovered => "DISCOVERED"
  | rejected => "REJECTED"
  | watchlisted => "WATCHLISTED"
  | stalking => "STALKING"
  | triggered => "TRIGGERED"
  | confirmed => "CONFIRMED"
  | actionableAGrade => "ACTIONABLE_A_GRADE"
  | aGradeWatch => "A_GRADE_WATCH"
  | executing => "EXECUTING"
  | managing => "MANAGING"
  | tpHit => "TP_HIT"
  | slHit => "SL_HIT"
  | breakeven => "BREAKEVEN"
  | invalidated => "INVALIDATED"
  | expired => "EXPIRED"
  | cooldown => "COOLDOWN"
  | cooledDown => "COOLED_DOWN"
  | noLongerTracking => "NO_LONGER_TRACKING"
  | removed => "REMOVED"
  | cancelled => "CANCELLED"
  | canceled => "CANCELED"
  | archived => "ARCHIVED"

def allowedTransitions : SetupLifecycleState → List SetupLifecycleState
  | discovered => [watchlisted, actionableAGrade, aGradeWatch, rejected]
  | rejected => [watchlisted, actionableAGrade, aGradeWatch, archived]
  | watchlisted =>
    [stalking, triggered, confirmed, actionableAGrade, aGradeWatch, rejected, expired]
  | stalking =>
    [triggered, confirmed, watchlisted, actionableAGrade, aGradeWatch, rejected, expired]
  | triggered => [confirmed, actionableAGrade, aGradeWatch, stalking, invalidated, expired]
  | confirmed => [actionableAGrade, aGradeWatch, executing, invalidated, expired]
  | aGradeWatch => [actionableAGrade, triggered, confirmed, invalidated, expired, cooldown]
  | actionableAGrade => [triggered, confirmed, invalidated, expired, cooldown]
  | executing => [managing, invalidated, expired]
  | managing => [tpHit, slHit, breakeven, invalidated, expired]
  | tpHit => [cooldown]
  | slHit => [cooldown]
  | breakeven => [cooldown]
  | invalidated => [cooldown]
  | expired => [cooldown]
  | cooldown => [archived, watchlisted]
  | archived => [watchlisted]
  | _ => []

def transitionAllowed (fromState toState : SetupLifecycleState) : Bool :=
  toState ∈ fromState.allowedTransitions

/-- `ENTRY_TOUCH_REASON_REQUIRED_STATES`. -/
def entryTouchReasonRequired : List SetupLifecycleState :=
  [watchlisted, actionableAGrade, aGradeWatch]

/-- `ACTIVE_LIFECYCLE_MONITORING_STATES`. -/
def activeMonitoring : List SetupLifecycleState :=
  [executing, managing, actionableAGrade, aGradeWatch, stalking, triggered, confirmed,
    watchlisted]

/-- `WATCH_PRIORITY_STATES`. -/
def watchPriority : List SetupLifecycleState := activeMonitoring.drop 2

def validStates : List SetupLifecycleState :=
  [confirmed, actionableAGrade, aGradeWatch, executing, managing, tpHit, slHit, breakeven]

/-- `CONFIRMATION_GATED_STATES`. -/
def confirmationGated : List SetupLifecycleState := [confirmed, executing, managing]

/-- `DECAYABLE_STATES`. -/
def decayable : List SetupLifecycleState :=
  [watchlisted, stalking, triggered, confirmed, actionableAGrade, aGradeWatch]

/-- `ENTRY_TOUCH_MONITOR_STATES`. -/
def entryTouchMonitor : List SetupLifecycleState :=
  [watchlisted, stalking, actionableAGrade, aGradeWatch]

/-- `PLAN_LOCK_STATES`. -/
def planLock : List SetupLifecycleState :=
  [watchlisted, stalking, confirmed, actionableAGrade, aGradeWatch, executing, managing]

/-- `_FRESHNESS_OWNER_HOLD_STATES`. -/
def freshnessOwnerHold : List SetupLifecycleState := triggered :: planLock

/-- `OUTCOME_ELIGIBLE_STATES`. -/
def outcomeEligible : List SetupLifecycleState :=
  [watchlisted, stalking, triggered, confirmed, actionableAGrade, aGradeWatch, executing,
    managing]

/-- `TERMINAL_OUTCOME_STATES`. -/
def terminalOutcome : List SetupLifecycleState :=
  [tpHit, slHit, breakeven, invalidated, expired]

end SetupLifecycleState

inductive SetupTransitionReason where
  | initialized
  | discovered
  | rejected
  | confirmationPending
  | multiScanConfirmed
  | readinessImproved
  | sweepAppeared
  | structureShiftConfirmed
  | pullbackRrValid
  | actionableAGrade
  | aGradeWatch
  | validTradeIdea
  | entryZoneTouched
  | entryActivated
  | entryFillSimulated
  | setupDecayed
  | takeProfitHit
  | tp1Milestone
  | tp2Milestone
  | tp3Milestone
  | stopLossHit
  | breakevenStopHit
  | setupInvalidated
  | setupExpired
  | cooldownStarted
  | cooldownExpired
  | reactivated
  | legacyInvalidStoredPlanGeometry
  | noChange
  | invalidTransition
  deriving DecidableEq

def SetupTransitionReason.value : SetupTransitionReason → String
  | initialized => "Lifecycle initialized from current scan snapshot."
  | discovered => "Setup discovered and awaiting stronger structure."
  | rejected => "Setup rejected by current deterministic gates."
  | confirmationPending => "Setup is waiting for another consistent scan confirmation."
  | multiScanConfirmed => "Setup passed required consecutive scan confirmations."
  | readinessImproved => "Readiness improved enough for watchlist."
  | sweepAppeared => "Execution sweep appeared."
  | structureShiftConfirmed => "5m BOS/CHoCH confirmed after sweep."
  | pullbackRrValid => "Pullback zone and RR became valid."
  | actionableAGrade => "Clean A-grade setup map is actionable but not fully confirmed."
  | aGradeWatch => "A-grade setup mapped and waiting for limit zone."
  | validTradeIdea => "Valid trade idea exists."
  | entryZoneTouched => "Entry zone touched by latest price range."
  | entryActivated => "Entry activation recorded from a closed execution candle."
  | entryFillSimulated => "Entry fill simulated or confirmed."
  | setupDecayed => "Setup confidence decayed after no lifecycle progress."
  | takeProfitHit => "Take-profit outcome recorded."
  | tp1Milestone => "TP1 milestone recorded internally."
  | tp2Milestone => "TP2 milestone recorded internally."
  | tp3Milestone => "TP3 milestone recorded internally."
  | stopLossHit => "Stop-loss outcome recorded."
  | breakevenStopHit => "Reference breakeven stop reached after TP1."
  | setupInvalidated => "Setup invalidated by current structure or failed gate."
  | setupExpired => "Setup expired before completion."
  | cooldownStarted => "Lifecycle moved into cooldown."
  | cooldownExpired => "Cooldown expired."
  | reactivated => "New structure reactivated archived setup."
  | legacyInvalidStoredPlanGeometry => "legacy_invalid_stored_plan_geometry"
  | noChange => "No lifecycle transition."
  | invalidTransition => "Invalid lifecycle transition rejected."

/-- `_text`; a value that is `None` is the empty text. -/
def fieldText (value : String) : String :=
  if strip value = "" then NA else strip value

/-- `_text_or`. -/
def fieldTextOr (value default : String) : String :=
  if fieldText value = NA then default else fieldText value

theorem fieldText_fieldText (value : String) : fieldText (fieldText value) = fieldText value := by
  have hstrip : strip (strip value) = strip value := stripBy_stripBy isSpace value
  have hNA : fieldText NA = NA := by decide +kernel
  by_cases h : strip value = ""
  · have hvalue : fieldText value = NA := if_pos h
    rw [hvalue, hNA]
  · have hvalue : fieldText value = strip value := if_neg h
    rw [hvalue, fieldText, hstrip, if_neg h]

/-- A text as the record model stores it: its validator `_normalize_text` has stripped it
and put the missing marker for a blank one. -/
def StoredText : Type := { text : String // fieldText text = text }

namespace StoredText

instance : DecidableEq StoredText := inferInstanceAs (DecidableEq (Subtype _))

instance : CoeOut StoredText String := ⟨Subtype.val⟩

/-- `_normalize_text`. -/
def of (value : String) : StoredText := ⟨fieldText value, fieldText_fieldText value⟩

@[simp] theorem of_coe (stored : StoredText) : of (stored : String) = stored :=
  Subtype.ext stored.2

@[simp] theorem fieldText_coe (stored : StoredText) : fieldText (stored : String) = stored :=
  stored.2

end StoredText

/-- Who a setup is. -/
structure RecordIdentity where
  lifecycleId : String
  symbol : String
  mode : String
  direction : String
  deriving DecidableEq

/-- The prices of a plan, as texts: raw ones in an observation, stored ones in a record. -/
structure PlanFields (Text : Type) where
  entryLow : Text
  entryHigh : Text
  stopLoss : Text
  tp1 : Text
  tp2 : Text
  tp3 : Text
  rr : Text
  deriving DecidableEq

structure InvalidationTexts where
  invalidationReason : String
  invalidationLogic : String
  deriving DecidableEq

structure Stage where
  currentState : SetupLifecycleState
  previousState : Option SetupLifecycleState
  readinessScore : ℕ
  qualityScore : ℕ
  failedGate : String
  deriving DecidableEq

/-- How far a setup is confirmed, and how far its confidence has decayed. -/
structure Confirmation where
  confirmationCount : ℕ
  requiredConfirmationCycles : ℕ
  qualityGradeCurrent : String
  qualityGradeConfirmed : String
  confirmedAt : Option Stamp
  decayCount : ℕ
  deriving DecidableEq

structure Lineage where
  setupIdentity : String
  structuralAnchor : String
  deriving DecidableEq

structure EconomicIdentity where
  setupId : Option String
  planVersionId : Option String
  economicIdentityReason : Option String
  deriving DecidableEq

structure RecordTimes where
  lastSeenAt : Instant
  lastTransitionAt : Instant
  cooldownUntil : Option Stamp
  archivedAt : Option Instant
  deriving DecidableEq

/-- `SetupLifecycleRecord`, as far as a transition or an evaluation reads it. -/
structure SetupLifecycleRecord extends RecordIdentity, PlanFields StoredText, InvalidationTexts,
    Stage, Confirmation, Lineage, EconomicIdentity, RecordTimes
  deriving DecidableEq

/-- A price or an entry zone that an event reports. -/
inductive Level where
  | na
  | price (p : ℚ)
  | zone (low high : ℚ)
  deriving DecidableEq

/-- `_entry_evidence`. The constant entries are left out; `evaluated_at` is the timestamp
of the event that carries the evidence. -/
structure EntryEvidence where
  lifecycleId : String
  symbol : String
  direction : String
  entryLow : ℚ
  entryHigh : ℚ
  trackingBoundaryTimestamp : Option Stamp
  trackingBoundarySource : Option String
  causalCandleOpen : Instant
  causalCandleClose : Instant
  candleHigh : ℚ
  candleLow : ℚ
  economicPlanVersionId : String
  entryAt : Instant
  deriving DecidableEq

inductive EventNotes where
  | text (notes : String)
  | outcome (eventType : String) (candleOpenAt candleCloseAt : Instant) (level : Level)
      (planIdentity policyReason : String) (evidence : Option EntryEvidence)
  deriving DecidableEq

/-- What an event reports, apart from when and by which scan it was recorded. -/
structure EventContent where
  lifecycleId : String
  symbol : String
  fromState : Option SetupLifecycleState
  toState : SetupLifecycleState
  reason : SetupTransitionReason
  readinessScore : ℕ
  qualityScore : ℕ
  failedGate : String
  notes : EventNotes
  deriving DecidableEq

structure SetupLifecycleEvent extends EventContent where
  timestamp : Instant
  scanRunId : Option String
  deriving DecidableEq

structure Clock where
  evaluatedAt : Instant
  scanRunId : Option String
  deriving DecidableEq

def boundedScore (value : Option ℤ) (default : ℕ) : ℕ :=
  match value with
  | none => default
  | some score => (max 0 (min 100 score)).toNat

def transitionFailedGate (record : SetupLifecycleRecord) (toState : SetupLifecycleState)
    (failedGate : String) : String :=
  if toState = .confirmed ∧ fieldText failedGate = NA then NA
  else fieldTextOr failedGate record.failedGate

/-- `DEFAULT_COOLDOWN_HOURS`, in microseconds. -/
def defaultCooldown : ℤ := 24 * 3600000000

/-- `_cooldown_until`; a start is cut to whole seconds. -/
def cooldownUntil (record : SetupLifecycleRecord) (toState : SetupLifecycleState)
    (timestamp : Instant) : Option Stamp :=
  if toState = .cooldown then
    some (.instant ((timestamp + defaultCooldown) / 1000000 * 1000000))
  else if toState = .archived then record.cooldownUntil
  else none

structure SetupTransitionResult where
  fromState : Option SetupLifecycleState
  toState : SetupLifecycleState
  reason : SetupTransitionReason
  transitioned : Bool
  allowed : Bool
  notes : EventNotes
  event : Option SetupLifecycleEvent
  record : SetupLifecycleRecord
  deriving DecidableEq

/-- What a caller passes to `transition_record` besides the target: the scores and the
failed gate are optional. -/
structure TransitionRequest where
  reason : SetupTransitionReason
  readinessScore : Option ℤ := none
  qualityScore : Option ℤ := none
  failedGate : String := ""
  notes : EventNotes
  deriving DecidableEq

section TransitionRecord

variable (record : SetupLifecycleRecord) (toState : SetupLifecycleState)
  (request : TransitionRequest) (clock : Clock)

/-- The stage of a record that moves to `toState`. -/
def movedStage : Stage where
  currentState := toState
  previousState := some record.currentState
  readinessScore := boundedScore request.readinessScore record.readinessScore
  qualityScore := boundedScore request.qualityScore record.qualityScore
  failedGate := transitionFailedGate record toState request.failedGate

def transitionEvent : SetupLifecycleEvent where
  lifecycleId := record.lifecycleId
  symbol := record.symbol
  fromState := some record.currentState
  toState := toState
  reason := request.reason
  readinessScore := boundedScore request.readinessScore record.readinessScore
  qualityScore := boundedScore request.qualityScore record.qualityScore
  failedGate := transitionFailedGate record toState request.failedGate
  notes := request.notes
  timestamp := clock.evaluatedAt
  scanRunId := clock.scanRunId

def transitionedRecord : SetupLifecycleRecord :=
  { record with
    toStage := movedStage record toState request
    lastSeenAt := clock.evaluatedAt
    lastTransitionAt := clock.evaluatedAt
    cooldownUntil := cooldownUntil record toState clock.evaluatedAt
    archivedAt := if toState = .archived then some clock.evaluatedAt else record.archivedAt }

def refreshedRecord : SetupLifecycleRecord :=
  { record with
    lastSeenAt := clock.evaluatedAt
    readinessScore := boundedScore request.readinessScore record.readinessScore
    qualityScore := boundedScore request.qualityScore record.qualityScore
    failedGate := transitionFailedGate record toState request.failedGate }

/-- `_entry_touch_transition_requires_touch_reason`. -/
def requiresTouchReason (fromState toState : SetupLifecycleState)
    (reason : SetupTransitionReason) : Bool :=
  decide (fromState ∈ SetupLifecycleState.entryTouchReasonRequired) &&
    decide (toState = .triggered) && decide (reason ≠ .entryZoneTouched)

def refusedTransition (notes : String) : SetupTransitionResult where
  fromState := some record.currentState
  toState := toState
  reason := .invalidTransition
  transitioned := false
  allowed := false
  notes := .text notes
  event := none
  record := record

def transitionRecord : SetupTransitionResult :=
  if record.currentState = toState then
    { fromState := some record.currentState
      toState := toState
      reason := .noChange
      transitioned := false
      allowed := true
      notes := .text SetupTransitionReason.noChange.value
      event := none
      record := refreshedRecord record toState request clock }
  else if ¬ SetupLifecycleState.transitionAllowed record.currentState toState then
    refusedTransition record toState
      (record.currentState.value ++ " cannot move directly to " ++ toState.value ++ ".")
  else if requiresTouchReason record.currentState toState request.reason then
    refusedTransition record toState (record.currentState.value ++ " can move directly to " ++
      toState.value ++ " only after entry zone touch.")
  else
    { fromState := some record.currentState
      toState := toState
      reason := request.reason
      transitioned := true
      allowed := true
      notes := request.notes
      event := some (transitionEvent record toState request clock)
      record := transitionedRecord record toState request clock }

end TransitionRecord

end CandleCraft.Lifecycle
