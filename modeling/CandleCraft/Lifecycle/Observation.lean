import CandleCraft.Lifecycle.PlanIdentity

/-!
# Lifecycle observations

What a scan reports about a setup, and the questions the state machine asks of it: whether
it is terminal, fresh, watchable, countable and ready for confirmation, which state it
points to, and whether it matches a record.
-/

namespace CandleCraft.Lifecycle

open PyText

/-- `LifecycleObservation`, as far as the state machine reads it. -/
structure LifecycleObservation extends PlanFields String where
  symbol : String
  mode : String := NA
  direction : String := NA
  readinessScore : ℤ := 0
  readinessLabel : String := NA
  qualityScore : ℤ := 0
  qualityGrade : String := NA
  currentPrice : String := NA
  latestHigh : String := NA
  latestLow : String := NA
  failedGate : String := NA
  finalFailedGate : String := NA
  finalBlockReason : String := NA
  confirmationTimeframe : String := NA
  invalidationReason : String := NA
  sweepDetected : Bool := false
  structureShiftDetected : Bool := false
  pullbackValid : Bool := false
  rrValid : Bool := false
  validTradeIdea : Bool := false
  coreStatus : String := NA
  setupQualityState : String := NA
  technicalScore : String := NA
  opportunityScore : String := NA
  minTechnicalScore : String := "50"
  minOpportunityScore : String := "80"
  activeRejectionReason : String := NA
  activeInvalidationReason : String := NA
  dataHealthFailed : Bool := false
  requiredDataMissing : List String := []
  requiredDataUnverified : List String := []
  limitFillRequired : Bool := false
  actionableAGradeCandidate : Bool := false
  aGradeWatchCandidate : Bool := false
  entryFilled : Bool := false
  tpHit : Bool := false
  slHit : Bool := false
  invalidated : Bool := false
  expired : Bool := false
  closedCandleOutcomesManaged : Bool := false
  structuralAnchor : String := NA
  instrumentVenue : String := NA

def statusKey (value : String) : String :=
  if fieldText value = NA then ""
  else
    stripBy (· == '_')
      (squeeze '_' (replaceChar ' ' '_' (replaceChar '-' '_' (strip (lower (fieldText value))))))

def gradeKey (value : String) : String :=
  String.ofList ((lower (fieldText value)).toList.filter fun c => c != ' ')

def qualityAtLeastBPlus (grade : String) (score : ℤ) : Bool :=
  decide (gradeKey grade ∈ ["a+", "a", "a-", "b+"]) ||
    (decide (gradeKey grade = "") && decide (75 ≤ boundedScore (some score) 0))

namespace LifecycleObservation

variable (o : LifecycleObservation)

def pullbackAndRrValid : Bool := o.pullbackValid && o.rrValid

/-- `_terminal_observation`. -/
def terminal : Bool := o.tpHit || o.slHit || o.invalidated || o.expired

section Freshness

def freshnessToken : String := "essential_candle_freshness"

def observationTexts : List String :=
  o.requiredDataMissing ++ o.requiredDataUnverified ++
    [o.failedGate, o.finalFailedGate, o.finalBlockReason]

/-- `observation_has_essential_freshness_failure`. -/
def hasEssentialFreshnessFailure : Bool :=
  o.observationTexts.any fun text => isIn freshnessToken text

def freshnessFailurePreservesOwner : Bool :=
  o.hasEssentialFreshnessFailure &&
    (o.requiredDataMissing ++ o.requiredDataUnverified).all fun item => isIn freshnessToken item

end Freshness

section Confirmation

/-- The blockers of a confirmation, with the values their texts report. -/
inductive ConfirmationBlocker where
  | coreStatusBlocked (status : String)
  | failedConfirmationGate (gate : String)
  | activeRejectionReason
  | activeInvalidation
  | requiredDataMissing (items : List String)
  | requiredDataUnverified (items : List String)
  | dataHealthFailed
  | tradeIdeaMissing
  | missingSide
  | missingEntryZone
  | missingStop
  | missingInvalidation
  | rrMissing
  | rrBelowMin (rr : ℚ)
  | confirmedGradeBelowMin
  | setupQualityNotConfirmed (state : String)
  | watchlistNearMissNotConfirmed
  | technicalScoreMissing
  | technicalScoreBelowMin (score minimum : ℚ)
  | opportunityScoreMissing
  | opportunityScoreBelowMin (score minimum : ℚ)

/-- Whether a blocker is one of the `active_blockers`. -/
def ConfirmationBlocker.isActive : ConfirmationBlocker → Bool
  | .activeRejectionReason | .activeInvalidation | .coreStatusBlocked _
  | .failedConfirmationGate _ | .dataHealthFailed | .requiredDataMissing _
  | .requiredDataUnverified _ => true
  | _ => false

def confirmedRejectedStatusKeys : List String :=
  ["scan_error", "scanned_no_setup", "rejected_by_technical", "rejected_by_derivatives",
    "rejected_by_risk", "rejected_by_scoring", "rejected_by_regime", "failed", "near_miss",
    "no_setup", "rejected"]

def blockerIf (condition : Prop) [Decidable condition] (blocker : ConfirmationBlocker) :
    List ConfirmationBlocker :=
  if condition then [blocker] else []

def statusBlockers : List ConfirmationBlocker :=
  blockerIf (statusKey o.coreStatus ∈ confirmedRejectedStatusKeys)
      (.coreStatusBlocked (statusKey o.coreStatus)) ++
    blockerIf (statusKey o.failedGate ≠ "") (.failedConfirmationGate (statusKey o.failedGate)) ++
    blockerIf (fieldText o.activeRejectionReason ≠ NA) .activeRejectionReason ++
    blockerIf (fieldText o.activeInvalidationReason ≠ NA) .activeInvalidation ++
    blockerIf (o.requiredDataMissing ≠ []) (.requiredDataMissing o.requiredDataMissing) ++
    blockerIf (o.requiredDataUnverified ≠ []) (.requiredDataUnverified o.requiredDataUnverified) ++
    blockerIf (o.dataHealthFailed ∧ o.requiredDataMissing = [] ∧ o.requiredDataUnverified = [])
      .dataHealthFailed

def isSide (direction : String) : Bool :=
  decide (statusKey direction = "long") || decide (statusKey direction = "short")

/-- The blocker of a planned reward to risk. -/
def rrBlockers : List ConfirmationBlocker :=
  match decimalOrNone o.rr with
  | none => [.rrMissing]
  | some rr => blockerIf (rr < 3) (.rrBelowMin rr)

def planBlockers : List ConfirmationBlocker :=
  blockerIf (¬ o.validTradeIdea) .tradeIdeaMissing ++
    blockerIf (¬ isSide o.direction) .missingSide ++
    blockerIf (decimalOrNone o.entryLow = none ∨ decimalOrNone o.entryHigh = none)
      .missingEntryZone ++
    blockerIf (decimalOrNone o.stopLoss = none) .missingStop ++
    blockerIf (fieldText o.invalidationReason = NA) .missingInvalidation ++
    o.rrBlockers

def qualityStateBlockers : List ConfirmationBlocker :=
  let state := statusKey o.setupQualityState
  if state = "" ∨ state = "high_quality_trade" ∨ state = "valid_but_lower_quality" then []
  else
    .setupQualityNotConfirmed state ::
      blockerIf (state = "watchlist_near_miss") .watchlistNearMissNotConfirmed

def minimumScore (stated : String) (default : ℚ) : ℚ :=
  match decimalOrNone stated with
  | none => default
  | some q => if q = 0 then default else q

def scoreBlockers (score : Option ℚ) (minimum : ℚ) (missing : ConfirmationBlocker)
    (below : ℚ → ℚ → ConfirmationBlocker) : List ConfirmationBlocker :=
  match score with
  | none => [missing]
  | some q => blockerIf (q < minimum) (below q minimum)

/-- `_confirmed_observation_blockers`. -/
def confirmationBlockers : List ConfirmationBlocker :=
  o.statusBlockers ++ o.planBlockers ++
    blockerIf (¬ qualityAtLeastBPlus o.qualityGrade o.qualityScore) .confirmedGradeBelowMin ++
    o.qualityStateBlockers ++
    scoreBlockers (decimalOrNone o.technicalScore) (minimumScore o.minTechnicalScore 50)
      .technicalScoreMissing .technicalScoreBelowMin ++
    scoreBlockers (decimalOrNone o.opportunityScore) (minimumScore o.minOpportunityScore 80)
      .opportunityScoreMissing .opportunityScoreBelowMin

/-- `_confirmed_observation_ready`. -/
def confirmedReady : Bool := o.confirmationBlockers.isEmpty

/-- `_confirmed_observation_invalidates_active_signal`. -/
def invalidatesActiveSignal : Bool :=
  o.confirmationBlockers.any ConfirmationBlocker.isActive

/-- `_valid_confirmed_observation`. -/
def validConfirmed : Bool := o.confirmedReady && !o.terminal

def confirmationCountable : Bool :=
  !o.hasEssentialFreshnessFailure &&
    (o.confirmedReady || o.actionableAGradeCandidate || o.aGradeWatchCandidate)

end Confirmation

section ObservedState

def isWatchReady : Bool :=
  decide (upper (fieldText o.readinessLabel) ∈ ["WATCH", "HOT WATCH", "VALID SETUP"]) ||
    decide (50 ≤ o.readinessScore)

def setupObservable : Bool :=
  o.validTradeIdea || o.pullbackAndRrValid || o.actionableAGradeCandidate ||
    o.aGradeWatchCandidate || o.sweepDetected || o.isWatchReady

def observedState : SetupLifecycleState :=
  if o.tpHit then .tpHit
  else if o.slHit then .slHit
  else if o.hasEssentialFreshnessFailure then .rejected
  else if o.invalidated then .invalidated
  else if fieldText o.activeInvalidationReason ≠ NA then .invalidated
  else if o.expired then .expired
  else if o.confirmedReady then .confirmed
  else if o.actionableAGradeCandidate then .actionableAGrade
  else if o.aGradeWatchCandidate then .aGradeWatch
  else if o.sweepDetected && o.structureShiftDetected then .triggered
  else if o.sweepDetected then .stalking
  else if o.isWatchReady then .watchlisted
  else if fieldText o.failedGate ≠ NA then .rejected
  else .discovered

def preConfirmationState : SetupLifecycleState :=
  if o.sweepDetected && o.structureShiftDetected then .triggered
  else if o.sweepDetected then .stalking
  else if o.isWatchReady then .watchlisted
  else .discovered

end ObservedState

section InitialState

def initialPublicWatchlistPendingGates : List String :=
  ["below_min_rr", "challenge_rr_below_3", "clean_trigger_pending", "confirmation_pending",
    "limit_zone_hold_pending", "limit_zone_not_touched", "entry_zone_not_touched",
    "entry_confirmation_missing", "missing_confirmation", "missing_confirmation_structure_shift",
    "pullback_confirmation_pending", "rr_below_minimum", "rr_too_low", "waiting_for_confirmation"]

def initialCompleteTradeMap : Bool :=
  (decimalOrNone o.entryLow).isSome && (decimalOrNone o.entryHigh).isSome &&
    (decimalOrNone o.stopLoss).isSome && (decimalOrNone o.tp1).isSome

def initialRejectQuality : Bool := !qualityAtLeastBPlus o.qualityGrade o.qualityScore

def initialIncompleteOrRejectedPlan : Bool :=
  (decimalOrNone o.rr).isNone || o.initialRejectQuality || !o.initialCompleteTradeMap

def initialPublicWatchlistCandidate : Bool :=
  (decide (statusKey o.failedGate = "") ||
      decide (statusKey o.failedGate ∈ initialPublicWatchlistPendingGates)) &&
    isSide o.direction && o.initialCompleteTradeMap &&
    (decimalOrNone o.rr).any (fun rr => decide (5 / 2 ≤ rr)) &&
    qualityAtLeastBPlus o.qualityGrade o.qualityScore &&
    decide (fieldText o.invalidationReason ≠ NA)

def initialTriggerBlocked : Bool :=
  if o.entryFilled then false
  else if fieldText o.failedGate = NA ∧ o.confirmationCountable then false
  else
    decide (fieldText o.failedGate ≠ NA) || o.initialIncompleteOrRejectedPlan ||
      !(o.rrValid || o.validTradeIdea || o.pullbackAndRrValid)

def initialNonTriggerState : SetupLifecycleState :=
  if o.invalidated then .invalidated
  else if o.expired then .expired
  else if o.initialPublicWatchlistCandidate then
    if o.sweepDetected then .stalking else .watchlisted
  else if fieldText o.failedGate ≠ NA ∨ o.initialIncompleteOrRejectedPlan then .rejected
  else if o.sweepDetected then .stalking
  else if o.isWatchReady then .watchlisted
  else .discovered

/-- `initial_state_for_observation`. -/
def initialState : SetupLifecycleState :=
  if o.hasEssentialFreshnessFailure then .rejected
  else
    match o.observedState with
    | .executing | .managing => .confirmed
    | .triggered => if o.initialTriggerBlocked then o.initialNonTriggerState else .triggered
    | target => target

def initialPreConfirmationState : SetupLifecycleState :=
  if o.preConfirmationState = .triggered ∧ o.initialTriggerBlocked then o.initialNonTriggerState
  else o.preConfirmationState

end InitialState

def qualityGradeOrScore : String :=
  if fieldText o.qualityGrade ≠ NA then fieldText o.qualityGrade
  else
    let score := boundedScore (some o.qualityScore) 0
    if 90 ≤ score then "A+"
    else if 85 ≤ score then "A"
    else if 80 ≤ score then "A-"
    else if 75 ≤ score then "B+"
    else if 65 ≤ score then "B"
    else if 55 ≤ score then "B-"
    else "Reject"

/-- `_invalidation_reason`. -/
def invalidationOrGate : String :=
  if fieldText o.invalidationReason ≠ NA then fieldText o.invalidationReason
  else fieldText o.failedGate

def setupIdentity : String :=
  setupGeometryIdentity o.symbol o.mode o.direction o.toPlanFields o.invalidationReason

end LifecycleObservation

section Consistency

/-- `_identity_text` of the state machine. -/
def recordIdentityText (value : String) : String :=
  if lower (fieldText value) = lower NA then NA else lower (fieldText value)

def priceSimilar (left right : String) (tolerancePct : ℚ) : Bool :=
  match decimalOrNone left, decimalOrNone right with
  | some l, some r =>
    let reference := max (max (decimalContext.fit |l|) (decimalContext.fit |r|)) 1
    let tolerance :=
      decimalContext.fit (decimalContext.fit (reference * max tolerancePct 0) / 100)
    decide (decimalContext.fit |decimalContext.fit (l - r)| ≤ tolerance)
  | _, _ => true

def logicSimilar (left right : String) : Bool :=
  let masked (key : String) := maskNumbers .outside key.toList
  decide (statusKey left = "") || decide (statusKey right = "") ||
    decide (statusKey left = statusKey right) ||
    decide (masked (statusKey left) = masked (statusKey right))

def setupConsistent (record : SetupLifecycleRecord) (o : LifecycleObservation)
    (tolerancePct : ℚ) : Bool :=
  decide (record.symbol = upper o.symbol) &&
    decide (recordIdentityText record.mode = recordIdentityText o.mode) &&
    decide (recordIdentityText record.direction = recordIdentityText o.direction) &&
    priceSimilar record.entryLow o.entryLow tolerancePct &&
    priceSimilar record.entryHigh o.entryHigh tolerancePct &&
    priceSimilar record.stopLoss o.stopLoss tolerancePct &&
    logicSimilar
      (if record.invalidationLogic = "" then record.invalidationReason else record.invalidationLogic)
      o.invalidationReason

end Consistency

section EntryTouch

def entryZoneTouched (latestHigh latestLow entryLow entryHigh : String) : Bool :=
  match decimalOrNone latestHigh, decimalOrNone latestLow, decimalOrNone entryLow,
      decimalOrNone entryHigh with
  | some high, some low, some zoneLow, some zoneHigh =>
    decide (min zoneLow zoneHigh ≤ max high low) && decide (min high low ≤ max zoneLow zoneHigh)
  | _, _, _, _ => false

def priceInZone (price entryLow entryHigh : String) : Bool :=
  match decimalOrNone price, decimalOrNone entryLow, decimalOrNone entryHigh with
  | some current, some zoneLow, some zoneHigh =>
    decide (min zoneLow zoneHigh ≤ current) && decide (current ≤ max zoneLow zoneHigh)
  | _, _, _ => false

def storedMonitoringEntryZoneTouched (record : SetupLifecycleRecord) (o : LifecycleObservation) :
    Bool :=
  decide (record.currentState ∈ SetupLifecycleState.entryTouchMonitor) && !o.terminal &&
    (LifecycleObservation.isSide o.direction || LifecycleObservation.isSide record.direction) &&
    (if (decimalOrNone o.currentPrice).isSome then
      priceInZone o.currentPrice record.entryLow record.entryHigh
    else entryZoneTouched o.latestHigh o.latestLow record.entryLow record.entryHigh)

def observationWithStoredPlan (o : LifecycleObservation) (record : SetupLifecycleRecord)
    (entryFilled : Bool) : LifecycleObservation :=
  { o with
    entryLow := record.entryLow
    entryHigh := record.entryHigh
    stopLoss := record.stopLoss
    tp1 := record.tp1
    tp2 := record.tp2
    tp3 := record.tp3
    rr := record.rr
    invalidationReason := record.invalidationReason
    entryFilled := entryFilled
    limitFillRequired := true }

end EntryTouch

end CandleCraft.Lifecycle
