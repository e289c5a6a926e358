import CandleCraft.Basic
import CandleCraft.Kernel.Text

/-!
# Trade plan integrity

`validate_trade_plan`: the one check of a plan's levels, and its reward-to-risk. The
prices are exact decimals; a difference or a quotient is rounded to the context. The
signal of an operation that overflows the context is left out.
-/

namespace CandleCraft.Plan

open PyText

inductive TradeDirection where
  | long
  | short
  deriving DecidableEq

def TradeDirection.ofText (text : String) : Option TradeDirection :=
  if text = "long" then some .long
  else if text = "short" then some .short
  else none

inductive TradePlanFailure where
  | unsupportedDirection
  | missingComponent (name : String)
  | malformedNumeric (name : String)
  | nonFiniteNumeric (name : String)
  | negativeExecutionCost
  | nonPositivePrice (name : String)
  | entryZoneInvalid
  | entryReferenceOutsideZone
  | stopInsideEntryZone
  | stopWrongSide
  | targetInsideEntryZone (index : ℕ)
  | targetWrongSide (index : ℕ)
  | duplicateTargets
  | targetOrderInvalid
  | zeroRisk
  | negativeRisk
  | zeroReward
  | negativeReward
  | rrBelowMinimum
  deriving DecidableEq

/-- The arguments of `validate_trade_plan`. -/
structure TradePlanRequest where
  direction : String
  entryLow : NumericField
  entryHigh : NumericField
  entryReference : NumericField
  stopLoss : NumericField
  tp1 : NumericField := .absent
  tp2 : NumericField := .absent
  tp3 : NumericField := .absent
  minimumRr : NumericField := .absent
  requireAllTargets : Bool := true
  executionCost : NumericField := .number 0

/-- The levels of a plan and what the check derives from them. -/
structure TradePlan where
  direction : TradeDirection
  entryLow : ℚ
  entryHigh : ℚ
  entryReference : ℚ
  stopLoss : ℚ
  targets : List (Option ℚ)
  executionCost : ℚ
  riskDistance : ℚ
  rewardDistance : Option ℚ
  rr : Option ℚ

structure TradePlanIntegrityResult where
  failure : Option TradePlanFailure
  plan : Option TradePlan

def TradePlanIntegrityResult.valid (r : TradePlanIntegrityResult) : Bool :=
  r.failure.isNone

def optionalDecimal (value : NumericField) (name : String) (required : Bool) :
    Except TradePlanFailure (Option ℚ) :=
  match value with
  | .number q => .ok (some q)
  | .malformed => .error (.malformedNumeric name)
  | .nonFinite => .error (.nonFiniteNumeric name)
  | _ => if required then .error (.missingComponent name) else .ok none

def requiredDecimal (value : NumericField) (name : String) : Except TradePlanFailure ℚ :=
  match optionalDecimal value name true with
  | .error f => .error f
  | .ok none => .error (.missingComponent name)
  | .ok (some q) => .ok q

/-- The parsed arguments. -/
structure PlanLevels where
  direction : TradeDirection
  entryLow : ℚ
  entryHigh : ℚ
  entryReference : ℚ
  stopLoss : ℚ
  targets : List (Option ℚ)
  minimumRr : Option ℚ
  executionCost : ℚ

/-- The parsing of `validate_trade_plan`. -/
def TradePlanRequest.parse (r : TradePlanRequest) : Except TradePlanFailure PlanLevels :=
  match TradeDirection.ofText (lower (strip r.direction)) with
  | none => .error .unsupportedDirection
  | some direction => do
    let low ← requiredDecimal r.entryLow "entry_low"
    let high ← requiredDecimal r.entryHigh "entry_high"
    let entry ← requiredDecimal r.entryReference "entry_reference"
    let stop ← requiredDecimal r.stopLoss "stop_loss"
    let tp1 ← optionalDecimal r.tp1 "tp1" r.requireAllTargets
    let tp2 ← optionalDecimal r.tp2 "tp2" r.requireAllTargets
    let tp3 ← optionalDecimal r.tp3 "tp3" r.requireAllTargets
    let minimum ← optionalDecimal r.minimumRr "minimum_rr" false
    let cost ← requiredDecimal r.executionCost "execution_cost"
    .ok ⟨direction, low, high, entry, stop, [tp1, tp2, tp3], minimum, cost⟩

namespace PlanLevels

variable (p : PlanLevels)

def presentTargets : List (ℕ × ℚ) :=
  (p.targets.zipIdx 1).filterMap fun entry => entry.1.map fun target => (entry.2, target)

def namedPrices : List (String × ℚ) :=
  [("entry_low", p.entryLow), ("entry_high", p.entryHigh),
    ("entry_reference", p.entryReference), ("stop_loss", p.stopLoss)] ++
  p.presentTargets.map fun entry => ("tp" ++ toString entry.1, entry.2)

def zoneFailure : Option TradePlanFailure :=
  if p.executionCost < 0 then some .negativeExecutionCost
  else
    match p.namedPrices.find? fun entry => decide (entry.2 ≤ 0) with
    | some entry => some (.nonPositivePrice entry.1)
    | none =>
      if p.entryHigh < p.entryLow then some .entryZoneInvalid
      else if ¬ (p.entryLow ≤ p.entryReference ∧ p.entryReference ≤ p.entryHigh) then
        some .entryReferenceOutsideZone
      else none

def signedRisk : ℚ :=
  match p.direction with
  | .long => decimalContext.fit (p.entryReference - p.stopLoss)
  | .short => decimalContext.fit (p.stopLoss - p.entryReference)

def stopFailure : Option TradePlanFailure :=
  let wrongSide : Bool :=
    match p.direction with
    | .long => decide (p.entryHigh ≤ p.stopLoss)
    | .short => decide (p.stopLoss ≤ p.entryLow)
  if p.signedRisk = 0 then some .zeroRisk
  else if p.entryLow ≤ p.stopLoss ∧ p.stopLoss ≤ p.entryHigh then some .stopInsideEntryZone
  else if wrongSide then some .stopWrongSide
  else if p.signedRisk = 0 then some .zeroRisk
  else if p.signedRisk < 0 then some .negativeRisk
  else none

def risk : ℚ :=
  decimalContext.fit (p.signedRisk + p.executionCost)

def reward : Option ℚ :=
  match p.targets[1]? with
  | some (some target) =>
    let gross :=
      match p.direction with
      | .long => decimalContext.fit (target - p.entryReference)
      | .short => decimalContext.fit (p.entryReference - target)
    some (decimalContext.fit (gross - p.executionCost))
  | _ => none

def rewardFailure : Option TradePlanFailure :=
  match p.reward with
  | none => none
  | some reward =>
    if reward = 0 then some .zeroReward
    else if reward < 0 then some .negativeReward
    else none

def targetFailure (entry : ℕ × ℚ) : Option TradePlanFailure :=
  let wrongSide : Bool :=
    match p.direction with
    | .long => decide (entry.2 < p.entryLow)
    | .short => decide (p.entryHigh < entry.2)
  if p.entryLow ≤ entry.2 ∧ entry.2 ≤ p.entryHigh then some (.targetInsideEntryZone entry.1)
  else if wrongSide then some (.targetWrongSide entry.1)
  else none

def targetsFailure : Option TradePlanFailure :=
  let targets := p.presentTargets.map Prod.snd
  let ordered : Bool :=
    (targets.zip targets.tail).all fun pair =>
      match p.direction with
      | .long => decide (pair.1 < pair.2)
      | .short => decide (pair.2 < pair.1)
  match p.presentTargets.findSome? p.targetFailure with
  | some failure => some failure
  | none =>
    if ¬ targets.Nodup then some .duplicateTargets
    else if ¬ ordered then some .targetOrderInvalid
    else none

def rr : Option ℚ :=
  p.reward.map fun reward => decimalContext.fit (reward / p.risk)

/-- The minimum reward-to-risk, when one is asked for. -/
def rrFailure : Option TradePlanFailure :=
  match p.minimumRr, p.rr with
  | none, _ => none
  | some minimum, some rr => if rr < minimum then some .rrBelowMinimum else none
  | some _, none => some (.missingComponent "tp2")

/-- The fields of a result that has passed the geometry checks. -/
def toTradePlan : TradePlan where
  direction := p.direction
  entryLow := p.entryLow
  entryHigh := p.entryHigh
  entryReference := p.entryReference
  stopLoss := p.stopLoss
  targets := p.targets
  executionCost := p.executionCost
  riskDistance := p.risk
  rewardDistance := p.reward
  rr := p.rr

end PlanLevels

def validateTradePlan (request : TradePlanRequest) : TradePlanIntegrityResult :=
  match request.parse with
  | .error failure => ⟨some failure, none⟩
  | .ok p =>
    match p.zoneFailure <|> p.stopFailure <|> p.rewardFailure <|> p.targetsFailure with
    | some failure => ⟨some failure, none⟩
    | none =>
      match p.rrFailure with
      | some .rrBelowMinimum => ⟨some .rrBelowMinimum, some p.toTradePlan⟩
      | some failure => ⟨some failure, none⟩
      | none => ⟨none, some p.toTradePlan⟩

end CandleCraft.Plan
