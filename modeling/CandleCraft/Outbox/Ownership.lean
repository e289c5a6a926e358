import CandleCraft.Outbox.Schema

/-!
# Public ownership checks

`app/runtime_epoch/ownership.py` as far as the outbox uses it: who owns a public
event, and whether a reservation, a part or a claim belongs to it. A missing runtime
epoch is a configuration error, which the outbox does not catch; every other refusal is
an ownership error, which it does.
-/

namespace CandleCraft.Outbox

open Relational PyText

/-- The errors of `app/runtime_epoch/errors.py` raised by the checks below. -/
inductive RuntimeEpochError where
  | configuration (message : String)
  | ownership (reason : String)
  | origin (message : String)
  deriving DecidableEq

/-- The text of an error, which a caught error is reported with. -/
def RuntimeEpochError.message : RuntimeEpochError → String
  | configuration m => m
  | ownership m => m
  | origin m => m

namespace Ownership

/-- `_optional_text`: blank text and the missing marker read as `none`. -/
def optionalText (value : Option String) : Option String :=
  match value with
  | none => none
  | some v => if strip v = "" ∨ upper (strip v) = NA then none else some (strip v)

def canonicalOperationalSymbol (value : String) : String :=
  let text := upper (strip value)
  if text = "" ∨ text = NA then "" else text

def canonicalOperationalDirection (value : String) : String :=
  let text := lower (strip value)
  if text = "" ∨ upper text = NA then ""
  else if text = "long" ∨ text = "buy" then "long"
  else if text = "short" ∨ text = "sell" then "short"
  else text

def publicEventEpochId (ev : Event) : Option String :=
  optionalText ev.runtimeEpochId

/-- `lifecycle_row_epoch_id`: unlike an event's epoch, the missing marker is kept. -/
def lifecycleRowEpochId (row : LifecycleRow) : Option String :=
  match strip (row.runtimeEpochId.getD "") with
  | "" => none
  | text => some text

def requireActiveRuntimeEpoch (db : Database) : Except RuntimeEpochError String :=
  match db.authority.activeEpochId with
  | none => .error (.configuration
      "Operational runtime epoch is missing; refusing to initialize a default boundary.")
  | some epoch => .ok epoch

/-- `_require_origin_owns_symbol`; `load_granted_origin` has already filtered on the
granted status. -/
def requireOriginOwnsSymbol (auth : Authority) (originId symbol epoch : String) :
    Except RuntimeEpochError Unit :=
  match auth.origins.fetch (strip originId) with
  | none => .error (.origin "Creation origin is missing or was not granted.")
  | some origin =>
    if strip originId = "" ∨ origin.status ≠ "granted" then
      .error (.origin "Creation origin is missing or was not granted.")
    else if origin.runtimeEpochId ≠ epoch then
      .error (.origin "Creation origin is not bound to the active runtime epoch.")
    else if symbol = "" ∨ canonicalOperationalSymbol origin.symbol ≠ symbol then
      .error (.origin "Creation origin symbol does not match the lifecycle symbol.")
    else if strip origin.runId = "" then
      .error (.origin "Creation origin is missing its operational run.")
    else
      match auth.runs.fetch (strip origin.runId) with
      | none => .error (.origin "Creation origin run is not registered.")
      | some run =>
        if run.runtimeEpochId ≠ epoch then
          .error (.origin "Creation origin run is not bound to the active runtime epoch.")
        else .ok ()

def requireCurrentEpochLifecycleId (auth : Authority) (lifecycleId epoch : String) :
    Except RuntimeEpochError LifecycleRow :=
  if strip lifecycleId = "" ∨ upper (strip lifecycleId) = NA then
    .error (.ownership "Lifecycle ownership lookup requires a lifecycle_id.")
  else
    match auth.lifecycles.fetch (strip lifecycleId) with
    | none => .error (.ownership ("Lifecycle " ++ strip lifecycleId ++ " does not exist."))
    | some row =>
      match lifecycleRowEpochId row with
      | none => .error (.ownership "Legacy or unattributed lifecycle rows are evidence-only.")
      | some rowEpoch =>
        if rowEpoch ≠ epoch then
          .error (.ownership "Lifecycle ownership does not match the active runtime epoch.")
        else if strip (row.creationOriginId.getD "") = "" then
          .error (.origin "Lifecycle is missing a granted creation origin.")
        else
          match requireOriginOwnsSymbol auth (row.creationOriginId.getD "")
              (canonicalOperationalSymbol row.symbol) epoch with
          | .error err => .error err
          | .ok () => .ok row

def requireLifecyclePublicIntent (auth : Authority) (originLifecycleId epoch : String)
    (expectedSymbol expectedDirection : String) : Except RuntimeEpochError LifecycleRow :=
  if strip originLifecycleId = "" ∨ upper (strip originLifecycleId) = NA then
    .error (.ownership "Public intent requires an originating lifecycle id.")
  else if (auth.lifecycles.fetch (strip originLifecycleId)).isNone then
    .error (.ownership "Public intent requires a persisted originating lifecycle.")
  else
    match requireCurrentEpochLifecycleId auth originLifecycleId epoch with
    | .error err => .error err
    | .ok owned =>
      let expected := canonicalOperationalSymbol expectedSymbol
      let actual := canonicalOperationalSymbol owned.symbol
      let expectedDir := canonicalOperationalDirection expectedDirection
      let actualDir := canonicalOperationalDirection owned.direction
      if expected ≠ "" ∧ actual ≠ "" ∧ expected ≠ actual then
        .error (.ownership "Public intent lifecycle symbol does not match the plan symbol.")
      else if expectedDir ≠ "" ∧ actualDir ≠ "" ∧ expectedDir ≠ actualDir then
        .error (.ownership "Public intent lifecycle direction does not match the event side.")
      else .ok owned

def normalizePublicEventType (value : String) : String :=
  let text := stripBy (· == '_')
    (squeeze '_' (replaceChar ' ' '_' (replaceChar '-' '_' (lower (strip value)))))
  if text = "watchlist" then "initial_watchlist"
  else if text = "invalidation" ∨ text = "invalid" then "invalidated"
  else if text = "expiry" ∨ text = "watchlist_expiry" then "expired"
  else text

def publicRootEventTypes : List String := ["initial_watchlist"]

def publicChainStarterEventTypes : List String :=
  ["initial_watchlist", "setup_triggered", "signal_confirmed"]

def publicEventFamilyTypes : List String :=
  publicRootEventTypes ++
    ["setup_triggered", "signal_confirmed", "limit_hit", "tp1_hit", "tp2_hit", "tp3_hit", "sl_hit",
      "breakeven", "invalidated", "expired", "cooldown", "no_longer_tracking"]

def publicRootEventMismatchReason (db : Database) (ev root : Event) (epoch : String) :
    Option String :=
  match publicEventEpochId root with
  | none => some "public_followup_root_legacy_or_unattributed"
  | some rootEpoch =>
    let eventLifecycle := optionalText ev.originLifecycleId
    let rootLifecycle := optionalText root.originLifecycleId
    let rootSymbol := canonicalOperationalSymbol root.symbol
    let rootSide := canonicalOperationalDirection root.side
    if rootEpoch ≠ epoch then some "public_followup_root_epoch_mismatch"
    else if normalizePublicEventType root.eventType ∉ publicChainStarterEventTypes then
      some "public_followup_root_incompatible_family"
    else if eventLifecycle = none ∨ eventLifecycle ≠ rootLifecycle then
      some "public_followup_root_lifecycle_mismatch"
    else if canonicalOperationalSymbol ev.symbol = "" ∨
        canonicalOperationalSymbol ev.symbol ≠ rootSymbol then
      some "public_followup_root_symbol_mismatch"
    else if canonicalOperationalDirection ev.side = "" ∨
        canonicalOperationalDirection ev.side ≠ rootSide then
      some "public_followup_root_side_mismatch"
    else
      match requireLifecyclePublicIntent db.authority (rootLifecycle.getD "") epoch rootSymbol
          rootSide with
      | .error err => some err.message
      | .ok _ => none

def publicRootRelationshipReason (db : Database) (ev : Event) (epoch : String) : Option String :=
  let eventType := normalizePublicEventType ev.eventType
  if eventType ∉ publicEventFamilyTypes then some "public_event_family_unknown"
  else if eventType ∈ publicRootEventTypes then
    if ev.originRootEventId.isSome then some "public_root_event_must_not_have_predecessor" else none
  else
    match ev.originRootEventId with
    | none =>
      if eventType ∈ publicChainStarterEventTypes then none
      else some "public_followup_missing_required_root"
    | some rootId =>
      match db.events.fetch rootId with
      | none => some "public_followup_root_missing"
      | some root => publicRootEventMismatchReason db ev root epoch

def publicOwnershipChainReason (db : Database) (ev : Event) (epoch : String) : Option String :=
  match optionalText ev.originLifecycleId with
  | none => some "public_event_missing_origin_lifecycle"
  | some originLifecycleId =>
    match requireLifecyclePublicIntent db.authority originLifecycleId epoch "" "" with
    | .error err => some err.message
    | .ok lifecycle =>
      let eventSymbol := canonicalOperationalSymbol ev.symbol
      let eventSide := canonicalOperationalDirection ev.side
      let lifecycleDirection := canonicalOperationalDirection lifecycle.direction
      if eventSymbol = "" ∨ eventSymbol ≠ canonicalOperationalSymbol lifecycle.symbol then
        some "public_event_symbol_mismatch"
      else if eventSide = "" ∨ lifecycleDirection = "" ∨ eventSide ≠ lifecycleDirection then
        some "public_event_direction_mismatch"
      else publicRootRelationshipReason db ev epoch

/-- `decide_public_effect` under a loaded epoch: the reason of a refusal, `none`
when the effect is allowed. -/
def decidePublicEffectIn (db : Database) (event : Option Event) (epoch : String) : Option String :=
  match event with
  | none => some "public_event_missing"
  | some ev =>
    match publicEventEpochId ev with
    | none => some "legacy_or_unattributed_public_event"
    | some eventEpoch =>
      if eventEpoch ≠ epoch then some "public_event_epoch_mismatch"
      else publicOwnershipChainReason db ev epoch

def decidePublicEffect (db : Database) (event : Option Event) : Option String :=
  match db.authority.activeEpochId with
  | none => some "runtime_epoch_missing"
  | some epoch => decidePublicEffectIn db event epoch

def requirePublicEventMutation (db : Database) (event : Option Event) :
    Except RuntimeEpochError String :=
  match requireActiveRuntimeEpoch db with
  | .error err => .error err
  | .ok epoch =>
    match decidePublicEffectIn db event epoch with
    | some reason => .error (.ownership reason)
    | none => .ok epoch

def attemptIsAuditOnly (a : Attempt) : Bool :=
  match a.deliveryState.normalize with
  | .pending | .retryable | .inFlight | .uncertain | .sent | .other "RESERVED" => false
  | _ => decide (lower (strip a.telegramStatus.text) ∈ ["skipped", "blocked", "failed"])

/-- `_economic_values_conflict`: two present prices that differ. -/
def economicValuesConflict (left right : StoredPrice) : Bool :=
  left ≠ .na && right ≠ .na && left ≠ right

def firstPriceMismatch (fields : List (String × StoredPrice × StoredPrice)) : Option String :=
  (fields.find? fun field => economicValuesConflict field.2.1 field.2.2).map fun field =>
    "public_reservation_" ++ field.1 ++ "_mismatch"

def reservationEventFamilyMismatchReason (record : Attempt) (ev : Event) : Option String :=
  let eventType := normalizePublicEventType ev.eventType
  let fields := [(record.publicAlertEventType, "public_reservation_event_family"),
    (record.alertType, "public_reservation_alert_type"),
    (record.attemptedAlertType, "public_reservation_attempted_alert_type")]
  let seen := fields.filterMap fun field =>
    (optionalText (some field.1)).map fun text => (normalizePublicEventType text, field.2)
  if eventType ∉ publicEventFamilyTypes then some "public_event_family_unknown"
  else
    match seen.find? fun field => field.1 ≠ eventType with
    | some field =>
      if field.1 ∉ publicEventFamilyTypes then some (field.2 ++ "_unknown")
      else some (field.2 ++ "_mismatch")
    | none => if seen = [] then some "public_reservation_event_family_unknown" else none

/-- `_reservation_economic_mismatch_reason`. A reservation row has no setup or plan
version column, so those two comparisons never refuse. -/
def reservationEconomicMismatchReason (record : Attempt) (ev : Event) (lifecycle : LifecycleRow) :
    Option String :=
  let eventMismatch := firstPriceMismatch
    [("entry_low", record.entryLow, ev.rawEntryLow),
      ("entry_high", record.entryHigh, ev.rawEntryHigh),
      ("stop_loss", record.stopLoss, ev.rawStopLoss),
      ("normalized_entry_zone_low", record.normalizedEntryZoneLow, ev.normalizedZoneLow),
      ("normalized_entry_zone_high", record.normalizedEntryZoneHigh, ev.normalizedZoneHigh)]
  let recordInvalidation := optionalText (some record.normalizedInvalidation)
  let eventInvalidation := optionalText (some ev.normalizedInvalidation)
  let lifecycleMismatch := firstPriceMismatch
    [("entry_low", record.entryLow, lifecycle.entryLow),
      ("entry_high", record.entryHigh, lifecycle.entryHigh),
      ("stop_loss", record.stopLoss, lifecycle.stopLoss),
      ("tp1", record.tp1, lifecycle.tp1),
      ("tp2", record.tp2, lifecycle.tp2),
      ("tp3", record.tp3, lifecycle.tp3),
      ("rr_planned", record.rrPlanned, lifecycle.rr)]
  match eventMismatch with
  | some reason => some reason
  | none =>
    if recordInvalidation ≠ none ∧ eventInvalidation ≠ none ∧
        recordInvalidation ≠ eventInvalidation then
      some "public_reservation_normalized_invalidation_mismatch"
    else lifecycleMismatch

def reservationScanRunMismatchReason (db : Database) (record : Attempt) (epoch : String) :
    Option String :=
  match optionalText record.scanRunId with
  | none => none
  | some runId =>
    match db.authority.runs.fetch runId with
    | none => some "public_reservation_scan_run_unregistered"
    | some run =>
      if run.runtimeEpochId = epoch then none else some "public_reservation_scan_run_unregistered"

def publicReservationRecordMismatchReason (db : Database) (record : Attempt) (ev : Event)
    (epoch : String) : Option String :=
  let eventSymbol := canonicalOperationalSymbol ev.symbol
  let eventSide := canonicalOperationalDirection ev.side
  let recordKey := optionalText (some record.publicWatchlistEventKey)
  let recordSymbol := canonicalOperationalSymbol record.symbol
  let recordDir := canonicalOperationalDirection record.direction
  let eventPlan := optionalText (some ev.canonicalPlanId)
  match publicOwnershipChainReason db ev epoch with
  | some reason => some reason
  | none =>
    if recordKey = none ∨ recordKey ≠ optionalText (some ev.eventKey) then
      some "public_reservation_event_mismatch"
    else if recordSymbol = "" ∨ recordSymbol ≠ eventSymbol then
      some "public_reservation_symbol_mismatch"
    else if recordDir = "" ∨ recordDir ≠ eventSide then
      some "public_reservation_direction_mismatch"
    else if eventPlan = none ∨ optionalText (some record.publicWatchlistPlanId) ≠ eventPlan then
      some "public_reservation_plan_mismatch"
    else
      match reservationEventFamilyMismatchReason record ev with
      | some reason => some reason
      | none =>
        match optionalText ev.originLifecycleId with
        | none => some "public_event_missing_origin_lifecycle"
        | some originLifecycleId =>
          match requireLifecyclePublicIntent db.authority originLifecycleId epoch eventSymbol
              eventSide with
          | .error err => some err.message
          | .ok lifecycle =>
            match reservationEconomicMismatchReason record ev lifecycle with
            | some reason => some reason
            | none => reservationScanRunMismatchReason db record epoch

def requireEventReservationAssociation (db : Database) (eventId reservationId : ℕ) :
    Except RuntimeEpochError (Event × Attempt) :=
  match requirePublicEventMutation db (db.events.fetch eventId) with
  | .error err => .error err
  | .ok epoch =>
    match db.events.fetch eventId, db.attempts.fetch reservationId with
    | none, _ => .error (.ownership "public_event_missing")
    | some _, none => .error (.ownership "public_reservation_missing")
    | some ev, some reservation =>
      let eventKey := optionalText (some ev.eventKey)
      let reservationSymbol := canonicalOperationalSymbol reservation.symbol
      let eventSymbol := canonicalOperationalSymbol ev.symbol
      let reservationDir := canonicalOperationalDirection reservation.direction
      let eventSide := canonicalOperationalDirection ev.side
      if eventKey = none ∨ eventKey ≠ optionalText (some reservation.publicWatchlistEventKey) then
        .error (.ownership "public_reservation_event_mismatch")
      else if reservationSymbol ≠ "" ∧ eventSymbol ≠ "" ∧ reservationSymbol ≠ eventSymbol then
        .error (.ownership "public_reservation_symbol_mismatch")
      else if reservationDir ≠ "" ∧ eventSide ≠ "" ∧ reservationDir ≠ eventSide then
        .error (.ownership "public_reservation_direction_mismatch")
      else if attemptIsAuditOnly reservation then
        .error (.ownership "public_reservation_is_audit_only")
      else if ev.canonicalReservationAttemptId = none then
        .error (.ownership "public_canonical_reservation_missing")
      else if ev.canonicalReservationAttemptId ≠ some reservationId then
        .error (.ownership "public_reservation_not_canonical")
      else
        match publicReservationRecordMismatchReason db reservation ev epoch with
        | some mismatch => .error (.ownership mismatch)
        | none => .ok (ev, reservation)

def requireCanonicalReservationForPublicEffect (db : Database) (eventId : ℕ) :
    Except RuntimeEpochError (Event × Attempt) :=
  match db.events.fetch eventId with
  | none => .error (.ownership "public_event_missing")
  | some ev =>
    match ev.canonicalReservationAttemptId with
    | none => .error (.ownership "public_canonical_reservation_missing")
    | some canonical => requireEventReservationAssociation db eventId canonical

def requireEventPartAssociation (db : Database) (eventId partId : ℕ) :
    Except RuntimeEpochError (Event × Part) :=
  match requirePublicEventMutation db (db.events.fetch eventId) with
  | .error err => .error err
  | .ok _ =>
    match db.events.fetch eventId, db.parts.fetch partId with
    | none, _ => .error (.ownership "public_event_missing")
    | some _, none => .error (.ownership "public_delivery_part_missing")
    | some ev, some part =>
      let partKey := optionalText (some part.eventKey)
      let eventKey := optionalText (some ev.eventKey)
      if part.eventId ≠ eventId then
        .error (.ownership "public_delivery_part_event_mismatch")
      else if partKey ≠ none ∧ eventKey ≠ none ∧ partKey ≠ eventKey then
        .error (.ownership "public_delivery_part_event_key_mismatch")
      else .ok (ev, part)

def requirePublicPartMutation (db : Database) (partId : ℕ) : Except RuntimeEpochError Event :=
  match (db.parts.fetch partId).bind fun part => db.events.fetch part.eventId with
  | none => .error (.ownership "Public delivery part does not exist or is unowned.")
  | some ev =>
    match requirePublicEventMutation db (some ev) with
    | .error err => .error err
    | .ok _ => .ok ev

def requirePartClaimAssociation (db : Database) (partId : ℕ) (attemptId : String) :
    Except RuntimeEpochError Event :=
  match requirePublicPartMutation db partId with
  | .error err => .error err
  | .ok ev =>
    if strip attemptId = "" ∨ optionalText ev.attemptId ≠ some (strip attemptId) then
      .error (.ownership "public_part_claim_mismatch")
    else .ok ev

section Passed

variable {db : Database} {eventId reservationId partId : ℕ} {ev : Event}

theorem requireEventReservationAssociation_ok {reservation : Attempt}
    (h : requireEventReservationAssociation db eventId reservationId = .ok (ev, reservation)) :
    db.events.fetch eventId = some ev ∧ db.attempts.fetch reservationId = some reservation ∧
      ev.canonicalReservationAttemptId = some reservationId := by
  rw [requireEventReservationAssociation] at h
  split at h
  · cases h
  split at h
  · cases h
  · cases h
  · next ev' reservation' hev hres =>
    dsimp only at h
    split_ifs at h with _ _ _ _ _ hcanonical
    split at h
    · cases h
    · cases h
      exact ⟨hev, hres, not_not.1 hcanonical⟩

theorem requireEventPartAssociation_ok {part : Part}
    (h : requireEventPartAssociation db eventId partId = .ok (ev, part)) :
    db.events.fetch eventId = some ev ∧ db.parts.fetch partId = some part ∧
      part.eventId = eventId := by
  rw [requireEventPartAssociation] at h
  split at h
  · cases h
  split at h
  · cases h
  · cases h
  · next ev' part' hev hpart =>
    dsimp only at h
    split_ifs at h with hevent _
    cases h
    exact ⟨hev, hpart, not_not.1 hevent⟩

theorem requirePartClaimAssociation_ok {attemptId : String}
    (h : requirePartClaimAssociation db partId attemptId = .ok ev) :
    (∃ part, db.parts.fetch partId = some part ∧ db.events.fetch part.eventId = some ev) ∧
      optionalText ev.attemptId = some (strip attemptId) := by
  rw [requirePartClaimAssociation] at h
  split at h
  · cases h
  · next ev' hmutation =>
    split_ifs at h with hclaim
    cases h
    refine ⟨?_, not_not.1 fun hne => hclaim (Or.inr hne)⟩
    rw [requirePublicPartMutation] at hmutation
    split at hmutation
    · cases hmutation
    · next row hrow =>
      split at hmutation
      · cases hmutation
      · cases hmutation
        exact Option.bind_eq_some_iff.1 hrow

end Passed

end Ownership

/-- A current epoch with one long lifecycle, whose origin is granted. -/
def Authority.granted (lifecycleId symbol : String) (tp1 : StoredPrice) : Authority where
  activeEpochId := some "e"
  lifecycles := .put .empty
    { lifecycleId := lifecycleId
      symbol := symbol
      direction := "long"
      runtimeEpochId := some "e"
      creationOriginId := some "o"
      entryLow := .na
      entryHigh := .na
      stopLoss := .na
      tp1 := tp1
      tp2 := .na
      tp3 := .na
      rr := .na }
  origins := .put .empty
    { originId := "o", runtimeEpochId := "e", symbol := symbol, runId := "r", status := "granted" }
  runs := .put .empty { runId := "r", runtimeEpochId := "e" }

end CandleCraft.Outbox
