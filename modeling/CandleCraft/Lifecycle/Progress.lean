import CandleCraft.Lifecycle.PlanIdentity

/-!
# Outcome progress and its policies

The price range of a closed candle, the progress row of a plan, and the stop policy bound
to it. The progress row is split into the key, the
milestones, the cursor, the tracking state and the audit columns; only the audit columns
say when and how an evaluation was made.
-/

namespace CandleCraft.Lifecycle

open Candles PyText

section CandleRange

/-- The complaints of `candle_range`. -/
inductive CandleRangeError where
  | number (message : String)
  | invalidRange (openAt : Instant) (high low : ℚ)
  | blankPrice (openAt : Instant) (field : String)
  | priceOutsideRange (openAt : Instant) (field : String) (price high low : ℚ)
  | blankVolume (openAt : Instant) (field : String)
  | negativeVolume (openAt : Instant) (field : String) (volume : ℚ)
  deriving DecidableEq

/-- A number `candle_range` requires. -/
def rangeDecimal (value : NumericField) (name : String) : Except CandleRangeError ℚ :=
  match requiredDecimal value name with
  | .error message => .error (.number message)
  | .ok q => .ok q

/-- An optional open or close, which must lie inside the range. -/
def checkPrice (openAt : Instant) (field : String) (value : NumericField) (high low : ℚ) :
    Except CandleRangeError Unit :=
  match value with
  | .absent | .na _ => .ok ()
  | .blank _ => .error (.blankPrice openAt field)
  | _ =>
    match rangeDecimal value ("candle_" ++ field) with
    | .error e => .error e
    | .ok price =>
      if price ≤ 0 ∨ ¬ (low ≤ price ∧ price ≤ high) then
        .error (.priceOutsideRange openAt field price high low)
      else .ok ()

def checkVolume (openAt : Instant) (field : String) (value : NumericField) :
    Except CandleRangeError Unit :=
  match value with
  | .absent | .na _ => .ok ()
  | .blank _ => .error (.blankVolume openAt field)
  | _ =>
    match rangeDecimal value ("candle_" ++ field) with
    | .error e => .error e
    | .ok volume =>
      if volume < 0 then .error (.negativeVolume openAt field volume) else .ok ()

def checkRange (openAt : Instant) (high low : ℚ) : Except CandleRangeError Unit :=
  if high ≤ 0 ∨ low ≤ 0 ∨ high < low then .error (.invalidRange openAt high low) else .ok ()

def candleRange (openAt : Instant) (source : RawCandle) : Except CandleRangeError (ℚ × ℚ) := do
  let high ← rangeDecimal source.high "candle_high"
  let low ← rangeDecimal source.low "candle_low"
  checkRange openAt high low
  checkPrice openAt "open" source.openPrice high low
  checkPrice openAt "close" source.closePrice high low
  checkVolume openAt "volume" source.volume
  checkVolume openAt "quote_volume" source.quoteVolume
  checkVolume openAt "turnover" source.turnover
  .ok (high, low)

/-- A closed candle with its range, as the evaluation pairs them. -/
structure Bar where
  openTimestamp : Instant
  closeTimestamp : Instant
  high : ℚ
  low : ℚ
  deriving DecidableEq

def candleBar (c : CausalCandle) : Except CandleRangeError Bar :=
  match candleRange c.openTimestamp c.source with
  | .error e => .error e
  | .ok (high, low) => .ok ⟨c.openTimestamp, c.closeTimestamp, high, low⟩

end CandleRange

section Progress

/-- The diagnostics an evaluation leaves, with the values their texts report. -/
inductive Diagnostic where
  | na
  | terminalStatePrecededCursor
  | missingExecutionTimeframe
  | executionTimeframeChanged (stored received : String)
  | stopManagementPolicyInvalid (problem : String)
  | missingExecutionCandleHistory
  | candleIntegrity (error : CandleIntegrityError)
  | candleRange (error : CandleRangeError)
  | noClosedExecutionCandles
  | missingConfirmationBoundary
  | invalidConfirmationBoundary (problem : String)
  | invalidMaterialPlanBoundary (problem : String)
  | boundaryBeforeHistory (boundary earliestOpen : Instant)
  | invalidTimestamp (problem : String)
  | invalidPersistedCursor (problem : String)
  | invalidPersistedTrackingStart (problem : String)
  | staleHistory (latest cursor : Instant)
  | missingSinceTrackingStart (trackingStart latestOpen : Instant)
  | missingExpectedOpen (expected received : Instant)
  | partialBoundaryCandle
  | awaitingFirstFullyPostBoundary
  | entryStateProgressionFailed (state : SetupLifecycleState)
  | evidenceGap (diagnostic : String)
  deriving DecidableEq

/-- `INTEGRITY_VERIFIED`, `INTEGRITY_UNVERIFIED`, `INTEGRITY_FAILED`, or not set. -/
inductive IntegrityStatus where
  | na
  | verified
  | unverified
  | failed
  deriving DecidableEq

/-- The `stop_management` entry of the metadata. `complete` says that it has exactly the
expected keys, `claimsNoFill` that `actual_fill_or_net_pnl_claim` is `False`. -/
structure StopBinding where
  policy : String
  referencePrice : NumericField
  referenceType : String
  complete : Bool
  adoptedAt : Stamp
  claimsNoFill : Bool
  priorPolicy : String
  effectiveFromCandleOpenAt : Option Stamp
  deriving DecidableEq

/-- The value stored under `stop_management`. -/
inductive StopManagement where
  | notMapping
  | binding (b : StopBinding)
  deriving DecidableEq

/-- The metadata of a progress row, as far as an evaluation reads it back. -/
structure ProgressMetadata where
  entryCausalityContract : Option String := none
  trackingBoundarySource : Option String := none
  trackingBoundaryTimestamp : Option Stamp := none
  boundaryEligibility : Option String := none
  boundaryDiagnostic : Option Diagnostic := none
  prospectiveStartAt : Option Instant := none
  processedCandleCount : ℕ := 0
  entryEvidence : Option EntryEvidence := none
  stopManagement : Option StopManagement := none
  deriving DecidableEq

/-- The columns an evaluation never changes. -/
structure ProgressKey where
  lifecycleId : String
  planIdentity : String
  executionTimeframe : String
  firstEvaluatedAt : Stamp
  deriving DecidableEq

structure Milestones where
  entryAt : Option Stamp := none
  tp1At : Option Stamp := none
  tp2At : Option Stamp := none
  tp3At : Option Stamp := none
  stopAt : Option Stamp := none
  invalidatedAt : Option Stamp := none
  outcomeAt : Option Stamp := none
  terminalOutcome : Option SetupLifecycleState := none
  deriving DecidableEq

/-- The open and close of the last candle processed. -/
structure Cursor where
  evaluationCursorOpenAt : Option Stamp := none
  evaluationCursorCloseAt : Option Stamp := none
  deriving DecidableEq

/-- Where tracking starts, and the metadata. Metadata that is not a mapping is the text of
the error `bind_stop_policy` raises on it. -/
structure Tracking where
  trackingStartAt : Option Stamp := none
  metadata : Except String ProgressMetadata
  deriving DecidableEq

/-- The columns that say how the last evaluation went. -/
structure Audit where
  integrityStatus : IntegrityStatus
  diagnostic : Diagnostic
  lastEvaluatedAt : Stamp
  lastEligibilityDecisionAt : Option Stamp
  deriving DecidableEq

/-- `SetupLifecycleOutcomeProgress`. -/
structure OutcomeProgress extends ProgressKey, Milestones, Cursor, Tracking, Audit
  deriving DecidableEq

namespace OutcomeProgress

/-- `_metadata`. -/
def metadataOrEmpty (p : OutcomeProgress) : ProgressMetadata :=
  match p.metadata with
  | .ok m => m
  | .error _ => {}

def integrityFailure (p : OutcomeProgress) (status : IntegrityStatus) (diagnostic : Diagnostic)
    (clock : Clock) : OutcomeProgress :=
  { p with
    metadata := .ok p.metadataOrEmpty
    integrityStatus := status
    diagnostic := diagnostic
    lastEvaluatedAt := .instant clock.evaluatedAt }

def withCursor (p : OutcomeProgress) (bar : Bar) (clock : Clock) : OutcomeProgress :=
  { p with
    evaluationCursorOpenAt := some (.instant bar.openTimestamp)
    evaluationCursorCloseAt := some (.instant bar.closeTimestamp)
    metadata := .ok { p.metadataOrEmpty with
      processedCandleCount := p.metadataOrEmpty.processedCandleCount + 1 }
    integrityStatus := .verified
    diagnostic := .na
    lastEvaluatedAt := .instant clock.evaluatedAt }

def withAppliedEligibilityCutoff (p : OutcomeProgress) (decision : Instant) : OutcomeProgress :=
  { p with lastEligibilityDecisionAt := some (.instant decision) }

def targetAt (p : OutcomeProgress) : ℕ → Option Stamp
  | 1 => p.tp1At
  | 2 => p.tp2At
  | _ => p.tp3At

/-- Set the row of target `n`. -/
def creditTarget (p : OutcomeProgress) (n : ℕ) (closeAt : Stamp) : OutcomeProgress :=
  match n with
  | 1 => { p with tp1At := some closeAt }
  | 2 => { p with tp2At := some closeAt }
  | _ => { p with tp3At := some closeAt }

end OutcomeProgress

def entryCausalityContract : String := "fully_post_boundary_closed_candle_v1"

end Progress

section Touches

variable (bar : Bar) (g : StoredPlanGeometry)

def entryTouched : Bool :=
  decide (g.entryLow ≤ bar.high) && decide (bar.low ≤ g.entryHigh)

def stopTouched : Bool :=
  match g.direction with
  | .long => decide (bar.low ≤ g.stopLoss)
  | .short => decide (g.stopLoss ≤ bar.high)

def newlyTouchedTargets (p : OutcomeProgress) : List (ℕ × ℚ) :=
  [(1, g.tp1), (2, g.tp2), (3, g.tp3)].filter fun entry =>
    (p.targetAt entry.1).isNone &&
    match g.direction with
    | .long => decide (entry.2 ≤ bar.high)
    | .short => decide (bar.low ≤ entry.2)

def referencePrice : ℚ :=
  decimalContext.fit (decimalContext.fit (g.entryLow + g.entryHigh) / 2)

def referenceStopTouched : Bool :=
  match g.direction with
  | .long => decide (bar.low ≤ referencePrice g)
  | .short => decide (referencePrice g ≤ bar.high)

end Touches

section StopPolicy

def stopPolicy : String := "tp1_entry_zone_midpoint_breakeven_v2"

/-- The checks of `bind_stop_policy` on a binding that is stored. -/
def StopBinding.check (b : StopBinding) (g : StoredPlanGeometry) : Except String Unit :=
  if b.policy ≠ stopPolicy then .error "unsupported_stop_management_policy"
  else
    match b.referencePrice with
    | .number stored =>
      if stored ≠ Lifecycle.referencePrice g then .error "stop_management_reference_changed"
      else if b.referenceType ≠ "entry_zone_midpoint" then
        .error "invalid_stop_management_reference_type"
      else if ¬ b.complete then .error "incomplete_stop_management_binding"
      else
        match normalizeUtcTimestamp b.adoptedAt "stop_policy_adopted_at" with
        | .error problem => .error problem
        | .ok _ =>
          if ¬ b.claimsNoFill then .error "invalid_stop_management_claim"
          else if b.priorPolicy ≠ "fixed_original_stop" then .error "unsupported_prior_stop_policy"
          else
            match b.effectiveFromCandleOpenAt with
            | none => .error "missing_stop_policy_adoption_boundary"
            | some boundary =>
              match normalizeUtcTimestamp boundary "stop_policy_effective_from" with
              | .error problem => .error problem
              | .ok _ => .ok ()
    | .nonFinite => .error "stop_management_reference_changed"
    | _ => .error "invalid_stop_management_reference"

/-- The cutoff of a new binding: the decision, or a later close of the stored cursor. -/
def adoptionCutoff (p : OutcomeProgress) (decision : Instant) : Except String Instant :=
  match p.evaluationCursorCloseAt with
  | none => .ok decision
  | some stored =>
    match normalizeUtcTimestamp stored "stop_policy_prior_cursor" with
    | .error problem => .error problem
    | .ok closeAt => .ok (max decision closeAt)

def newBinding (g : StoredPlanGeometry) (cutoff : Instant) (clock : Clock) : StopBinding where
  policy := stopPolicy
  referencePrice := .number (referencePrice g)
  referenceType := "entry_zone_midpoint"
  complete := true
  adoptedAt := .instant clock.evaluatedAt
  claimsNoFill := true
  priorPolicy := "fixed_original_stop"
  effectiveFromCandleOpenAt := some (.instant cutoff)

def bindStopPolicy (p : OutcomeProgress) (g : StoredPlanGeometry) (decision : Instant)
    (clock : Clock) : Except String OutcomeProgress :=
  match p.metadata with
  | .error problem => .error problem
  | .ok m =>
    match m.stopManagement with
    | some .notMapping => .error "unsupported_stop_management_policy"
    | some (.binding b) =>
      match b.check g with
      | .error problem => .error problem
      | .ok () => .ok p
    | none =>
      match adoptionCutoff p decision with
      | .error problem => .error problem
      | .ok cutoff =>
        .ok { p with metadata := .ok { m with
          stopManagement := some (.binding (newBinding g cutoff clock)) } }

def protectionActive (p : OutcomeProgress) (candleOpen : Instant) : Except String Bool :=
  match p.tp1At with
  | none => .ok false
  | some tp1 =>
    match p.metadata with
    | .error problem => .error problem
    | .ok m =>
      match m.stopManagement with
      | some (.binding b) =>
        if b.policy ≠ stopPolicy then .ok false
        else
          match normalizeUtcTimestamp tp1 "breakeven_tp1_at" with
          | .error problem => .error problem
          | .ok tp1At =>
            if candleOpen < tp1At then .ok false
            else
              match b.effectiveFromCandleOpenAt with
              | none => .ok false
              | some boundary =>
                match normalizeUtcTimestamp boundary "breakeven_effective_from" with
                | .error problem => .error problem
                | .ok effective => .ok (decide (effective ≤ candleOpen))
      | _ => .ok false

end StopPolicy

end CandleCraft.Lifecycle
