import CandleCraft.Lifecycle.Record

/-!
# The stored plan and its identities

`stored_plan_geometry`, which reads the levels of a record's plan and checks their order,
and the identities built on the plan: the setup geometry identity, the plan identity of
the outcome rows, and the economic identities that are latched onto a record. The digest
`sha256` is a parameter: nothing below depends on its values.
-/

namespace CandleCraft.Lifecycle

open Plan PyText

def decimalOrNone (value : String) : Option ℚ :=
  match NumericField.ofText value with
  | .number q => some q
  | _ => none

section StoredPlan

structure StoredPlanGeometry where
  direction : TradeDirection
  entryLow : ℚ
  entryHigh : ℚ
  stopLoss : ℚ
  tp1 : ℚ
  tp2 : ℚ
  tp3 : ℚ
  deriving DecidableEq

/-- `_required_decimal` of the outcome policy. -/
def requiredDecimal (value : NumericField) (name : String) : Except String ℚ :=
  match value with
  | .number q => .ok q
  | .nonFinite => .error ("non_finite_" ++ name)
  | .absent | .blank true | .na true => .error ("missing_" ++ name)
  | _ => .error ("invalid_" ++ name)

/-- `_stored_invalidation` of the outcome policy. -/
def storedInvalidation (texts : InvalidationTexts) : String :=
  if fieldText texts.invalidationLogic = NA then fieldText texts.invalidationReason
  else fieldText texts.invalidationLogic

/-- The request `stored_plan_geometry` makes of the plan check: the favourable edge of the
zone is the reference entry. -/
def StoredPlanGeometry.request (g : StoredPlanGeometry) : TradePlanRequest where
  direction := match g.direction with | .long => "long" | .short => "short"
  entryLow := .number g.entryLow
  entryHigh := .number g.entryHigh
  entryReference := .number (match g.direction with | .long => g.entryLow | .short => g.entryHigh)
  stopLoss := .number g.stopLoss
  tp1 := .number g.tp1
  tp2 := .number g.tp2
  tp3 := .number g.tp3

/-- The checks of `stored_plan_geometry` on parsed levels. -/
def StoredPlanGeometry.check (g : StoredPlanGeometry) (invalidation : String) :
    Except String StoredPlanGeometry :=
  if invalidation = NA then .error "missing_invalidation"
  else if g.entryHigh < g.entryLow then .error "entry_low_above_entry_high"
  else if (validateTradePlan g.request).valid then .ok g
  else
    match g.direction with
    | .long => .error "invalid_long_level_order"
    | .short => .error "invalid_short_level_order"

def planLevels (side : TradeDirection) (plan : PlanFields StoredText) :
    Except String StoredPlanGeometry := do
  let entryLow ← requiredDecimal (.ofText plan.entryLow) "entry_low"
  let entryHigh ← requiredDecimal (.ofText plan.entryHigh) "entry_high"
  let stopLoss ← requiredDecimal (.ofText plan.stopLoss) "stop_loss"
  let tp1 ← requiredDecimal (.ofText plan.tp1) "tp1"
  let tp2 ← requiredDecimal (.ofText plan.tp2) "tp2"
  let tp3 ← requiredDecimal (.ofText plan.tp3) "tp3"
  return ⟨side, entryLow, entryHigh, stopLoss, tp1, tp2, tp3⟩

/-- `stored_plan_geometry` on the columns it reads. -/
def planGeometry (direction : String) (plan : PlanFields StoredText) (texts : InvalidationTexts) :
    Except String StoredPlanGeometry :=
  match TradeDirection.ofText (lower (fieldText direction)) with
  | none => .error ("unsupported_direction:" ++ direction)
  | some side =>
    match planLevels side plan with
    | .error failure => .error failure
    | .ok g => g.check (storedInvalidation texts)

def storedPlanGeometry (record : SetupLifecycleRecord) : Except String StoredPlanGeometry :=
  planGeometry record.direction record.toPlanFields record.toInvalidationTexts

def storedPlanGeometryFailure (record : SetupLifecycleRecord) : Option String :=
  match storedPlanGeometry record with
  | .error failure => some failure
  | .ok _ => none

end StoredPlan

section PlanIdentity

def canonicalSeparator : String := "\x1f"

/-- A text of an identity: nothing for a blank text and for the missing marker in any
case. -/
def identityText (value : String) : Option String :=
  if strip value = "" ∨ upper (strip value) = NA then none else some (strip value)

def setupGeometryIdentity (symbol mode direction : String) (plan : PlanFields String)
    (invalidationReason : String) : String :=
  "|".intercalate [((identityText symbol).map upper).getD NA, ((identityText mode).map lower).getD NA,
    ((identityText direction).map lower).getD NA, (identityText plan.entryLow).getD NA,
    (identityText plan.entryHigh).getD NA, (identityText plan.stopLoss).getD NA,
    (identityText invalidationReason).getD NA]

def identityPrice (value : String) : String :=
  match PyDecimal.parse (fieldText value) with
  | .finite q => PyDecimal.formatPlain (decimalContext.fit q)
  | _ => fieldText value

def planIdentity (sha256 : String → String) (record : SetupLifecycleRecord)
    (price : String → String) : String :=
  "plan-" ++ sha256 (canonicalSeparator.intercalate ([record.lifecycleId, record.symbol, record.mode,
    record.direction, price record.entryLow, price record.entryHigh, price record.stopLoss,
    price record.tp1, price record.tp2, price record.tp3,
    storedInvalidation record.toInvalidationTexts].map fieldText))

def compatiblePlanIdentities (sha256 : String → String) (record : SetupLifecycleRecord) :
    List String :=
  [planIdentity sha256 record identityPrice, planIdentity sha256 record fieldText].eraseDups

end PlanIdentity

section EconomicIdentity

def rejectSeparator (name text : String) : Except String String :=
  if isIn canonicalSeparator text then .error ("canonical_separator_in_" ++ name) else .ok text

/-- `_required_identity_text` and `_required_symbol`. -/
def requiredIdentityText (name missing : String) (changeCase : String → String)
    (value : String) : Except String String :=
  match identityText value with
  | none => .error missing
  | some text => rejectSeparator name (changeCase text)

def requiredDirection (value : String) : Except String String :=
  match requiredIdentityText "direction" "missing_direction" lower value with
  | .error reason => .error reason
  | .ok text => if text = "long" ∨ text = "short" then .ok text else .error "invalid_direction"

/-- `_required_price`, without a tick size. -/
def requiredPrice (name value : String) : Except String String :=
  match identityText value with
  | none => .error ("missing_" ++ name)
  | some text =>
    match rejectSeparator name value with
    | .error reason => .error reason
    | .ok _ =>
      match PyDecimal.parse text with
      | .malformed => .error ("malformed_" ++ name)
      | .nonFinite => .error ("non_finite_" ++ name)
      | .finite q => .ok (PyDecimal.formatPlain (decimalContext.fit q))

def mintSetupId (sha256 : String → String) (instrumentVenue : String)
    (record : SetupLifecycleRecord) : Except String String := do
  let venue ← requiredIdentityText "instrument_venue" "missing_instrument_venue" lower
    instrumentVenue
  let symbol ← requiredIdentityText "symbol" "missing_symbol" upper record.symbol
  let direction ← requiredDirection record.direction
  let mode ← requiredIdentityText "mode" "missing_mode" lower record.mode
  let anchor ← requiredIdentityText "structural_anchor" "missing_structural_anchor" id
    record.structuralAnchor
  return "setup-" ++ sha256 (canonicalSeparator.intercalate
    ["cci-setup-id-v1", venue, symbol, direction, mode, anchor])

/-- `_stored_invalidation` of the economic identity. -/
def economicInvalidation (texts : InvalidationTexts) : Option String :=
  identityText texts.invalidationLogic <|> identityText texts.invalidationReason

def mintPlanVersionId (sha256 : String → String) (setupId : String)
    (record : SetupLifecycleRecord) : Except String String := do
  let setup ← requiredIdentityText "setup_id" "setup_id_unavailable" id setupId
  let entryLow ← requiredPrice "entry_low" record.entryLow
  let entryHigh ← requiredPrice "entry_high" record.entryHigh
  let stopLoss ← requiredPrice "stop_loss" record.stopLoss
  let tp1 ← requiredPrice "tp1" record.tp1
  let tp2 ← requiredPrice "tp2" record.tp2
  let tp3 ← requiredPrice "tp3" record.tp3
  let invalidation ← requiredIdentityText "invalidation" "missing_invalidation" id
    ((economicInvalidation record.toInvalidationTexts).getD "")
  return "plan-version-" ++ sha256 (canonicalSeparator.intercalate
    ["cci-plan-version-v1", setup, entryLow, entryHigh, stopLoss, tp1, tp2, tp3, invalidation])

def joinReasons (reasons : List String) : Option String :=
  match (reasons.filter fun reason => decide (reason ≠ "")).eraseDups with
  | [] => none
  | unique => some (";".intercalate unique)

/-- The reason an identity is not available, or the empty text. -/
def mintReason : Except String String → String
  | .error reason => reason
  | .ok _ => ""

/-- The plan version a record gets, and the reason to report with it. -/
def latchedPlan (latched : Option String) (planLocked : Bool) (setupId : Option String)
    (candidate : Except String String) (validGeometry : Bool) : Option String × Option String :=
  match latched with
  | some plan =>
    (some plan,
      if candidate.toOption = some plan then none
      else joinReasons ["plan_version_invariant_violation", mintReason candidate])
  | none =>
    if ¬ planLocked then (none, some "plan_geometry_unlocked")
    else if setupId.isSome ∧ ¬ validGeometry then (none, some "invalid_stored_plan_geometry")
    else (candidate.toOption, joinReasons [mintReason candidate])

/-- `latch_economic_identities`, without a tick size. -/
def latchEconomicIdentities (sha256 : String → String) (record : SetupLifecycleRecord)
    (instrumentVenue : String) (planLocked : Bool) (previous : Option SetupLifecycleRecord) :
    SetupLifecycleRecord :=
  let prior := previous.getD record
  let latchedSetup := prior.setupId.bind identityText <|> record.setupId.bind identityText
  let latchedVersion :=
    prior.planVersionId.bind identityText <|> record.planVersionId.bind identityText
  let setup : Except String String :=
    match latchedSetup with
    | some setupId => .ok setupId
    | none => mintSetupId sha256 instrumentVenue record
  let candidate : Except String String :=
    match setup with
    | .error _ => .error "setup_id_unavailable"
    | .ok setupId => mintPlanVersionId sha256 setupId record
  let plan := latchedPlan latchedVersion planLocked setup.toOption candidate
    (storedPlanGeometryFailure record).isNone
  { record with
    setupId := setup.toOption
    planVersionId := plan.1
    economicIdentityReason := joinReasons [mintReason setup, plan.2.getD ""] }

end EconomicIdentity

end CandleCraft.Lifecycle
