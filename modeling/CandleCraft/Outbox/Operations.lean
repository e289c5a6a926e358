import CandleCraft.Kernel.Transition
import CandleCraft.Outbox.Ownership

/-!
# The transactions of `SQLitePublicTelegramOutbox`

Each transaction is a function of the database it finds, since `BEGIN IMMEDIATE`
serialises writers, and returns what the method returns together with the committed
database. A body that raises is rolled back. Clocks, attempt ids and transport
results are arguments, so nothing is assumed about them.
-/

namespace CandleCraft.Outbox

open Relational PyText Ownership

/-- What a transaction can raise. -/
inductive OutboxError where
  | runtimeEpoch (err : RuntimeEpochError)
  | integrity (message : String)
  | value (message : String)
  deriving DecidableEq

def text (value : Option String) : String :=
  match strip (value.getD "") with
  | "" => NA
  | t => t

/-- `_optional_text` of the outbox, which keeps the missing marker. -/
def optionalText (value : Option String) : Option String :=
  match strip (value.getD "") with
  | "" => none
  | t => some t

/-- SQLite's `datetime()` formats to whole seconds. -/
def sqlDatetime (t : Instant) : ℤ := t / 1000000

/-- `_add_seconds`, with the delay in microseconds. -/
def addDelay (t : Instant) (delay : ℤ) : Instant := t + max 0 delay

def retryDue (nextRetryAt : Option Instant) (now : Instant) : Bool :=
  match nextRetryAt with
  | none => true
  | some t => decide (t ≤ now)

/-- `_backoff_seconds`, in microseconds. -/
def backoff (attemptCount : ℕ) : ℤ :=
  min 300 (5 * 2 ^ (attemptCount - 1)) * 1000000

/-- `due IS NULL OR datetime(due) <= datetime(now)`. -/
def Elapsed (due : Option Instant) (now : Instant) : Prop :=
  ∀ t ∈ due, sqlDatetime t ≤ sqlDatetime now

instance (due : Option Instant) (now : Instant) : Decidable (Elapsed due now) :=
  inferInstanceAs (Decidable (∀ t ∈ due, _))

/-! ## Assignments of the UPDATE statements -/

/-- The event assignments of `_mark_event_locked`. Every caller passes a
normalized state. -/
def EventDelivery.mark (state : DeliveryState) (category detail : String) (now : Instant)
    (nextRetryAt : Option Instant) (d : EventDelivery) : EventDelivery :=
  { d with
    status := if state = .sent then .sent else if state.Terminal then .failed else .reserved
    deliveryState := state
    nextRetryAt := nextRetryAt
    failureReason := if state = .sent then NA else text (some detail)
    lastErrorCategory := if state = .sent then NA else text (some category)
    lastErrorDetail := if state = .sent then NA else text (some detail)
    leaseExpiresAt := none
    uncertainAt := if state = .uncertain then d.uncertainAt.or (some now) else d.uncertainAt
    completedAt :=
      if state = .sent ∨ state = .failedFinal ∨ state = .skippedDryRun ∨ state = .policyDisabled
      then d.completedAt.or (some now) else d.completedAt
    updatedAt := now }

/-- The reservation assignments of `_mark_event_locked`. -/
def AttemptDelivery.mark (state : DeliveryState) (category detail : String) (now : Instant)
    (nextRetryAt : Option Instant) (d : AttemptDelivery) : AttemptDelivery :=
  { d with
    telegramStatus := .delivery state
    deliveryState := state
    deliveryNextRetryAt := nextRetryAt
    deliveryLastErrorCategory := if state = .sent then NA else text (some category)
    blockedReason := if state = .sent then NA else text (some detail)
    errorMessage := if state = .sent then NA else text (some detail)
    lastErrorMessage := if state = .sent then NA else text (some detail)
    lastSeenAt := some now }

def EventDelivery.finalizeSent (sentAt now : Instant) (messageId chatId : Option String)
    (d : EventDelivery) : EventDelivery :=
  { d with
    status := .sent
    deliveryState := .sent
    sentAt := some sentAt
    completedAt := some now
    telegramMessageId := messageId
    telegramChatId := chatId
    failureReason := NA
    lastErrorCategory := NA
    lastErrorDetail := NA
    leaseExpiresAt := none
    nextRetryAt := none
    updatedAt := now }

def AttemptDelivery.finalizeSent (sentAt now : Instant) (messageId chatId : Option String)
    (d : AttemptDelivery) : AttemptDelivery :=
  { d with
    sentAt := some sentAt
    telegramStatus := .delivery .sent
    deliveryState := .sent
    telegramMessageId := messageId
    telegramChatId := chatId
    blockedReason := NA
    errorMessage := NA
    lastErrorMessage := NA
    deliveryLastErrorCategory := NA
    deliveryNextRetryAt := none
    lastSeenAt := some now }

/-- The lease is left in place, so a recovered event still carries it. -/
def EventDelivery.recoverStale (now : Instant) (d : EventDelivery) : EventDelivery :=
  { d with
    deliveryState := .uncertain
    uncertainAt := d.uncertainAt.or (some now)
    lastErrorCategory := "stale_in_flight_acceptance_unknown"
    lastErrorDetail :=
      "A prior Telegram attempt started but did not reach a durable terminal result."
    updatedAt := now }

def PartDelivery.recoverStale (now : Instant) (d : PartDelivery) : PartDelivery :=
  { d with
    deliveryState := .uncertain
    lastErrorCategory := "stale_in_flight_acceptance_unknown"
    lastErrorDetail := "The process ended after the delivery attempt began."
    updatedAt := now }

def AttemptDelivery.recoverStale (d : AttemptDelivery) : AttemptDelivery :=
  { d with
    telegramStatus := .delivery .uncertain
    deliveryState := .uncertain
    deliveryLastErrorCategory := "stale_in_flight_acceptance_unknown"
    errorMessage := "stale_in_flight_acceptance_unknown"
    lastErrorMessage := "stale_in_flight_acceptance_unknown" }

/-- The arguments of `claim`; the caller or `uuid4` supplies the attempt id and
the owner. -/
structure ClaimRequest where
  eventId : ℕ
  reservationId : ℕ
  now : Instant
  owner : String
  leaseSeconds : ℤ
  attemptId : String

def EventDelivery.claimFor (req : ClaimRequest) (d : EventDelivery) : EventDelivery :=
  { d with
    deliveryState := .inFlight
    attemptId := some req.attemptId
    claimOwner := some req.owner
    claimedAt := some req.now
    attemptStartedAt := some req.now
    leaseExpiresAt := some (addDelay req.now (max 1 req.leaseSeconds * 1000000))
    attemptCount := d.attemptCount + 1
    nextRetryAt := none
    lastErrorCategory := NA
    lastErrorDetail := NA
    updatedAt := req.now }

def AttemptDelivery.claimFor (req : ClaimRequest) (d : AttemptDelivery) : AttemptDelivery :=
  { d with
    telegramStatus := .delivery .inFlight
    deliveryState := .inFlight
    deliveryAttemptId := some req.attemptId
    deliveryAttemptCount := d.deliveryAttemptCount + 1
    deliveryNextRetryAt := none
    deliveryLastErrorCategory := NA }

def PartDelivery.markInFlight (attemptId : String) (now : Instant) (d : PartDelivery) :
    PartDelivery :=
  { d with
    deliveryState := .inFlight
    attemptId := some attemptId
    attemptCount := d.attemptCount + 1
    attemptStartedAt := some now
    nextRetryAt := none
    lastErrorCategory := NA
    lastErrorDetail := NA
    updatedAt := now }

/-- The compare-and-set assignment of `mark_terminal_without_send`. -/
def EventDelivery.close (state : DeliveryState) (d : EventDelivery) : EventDelivery :=
  { d with deliveryState := state }

/-- The part assignments of `mark_terminal_without_send`. -/
def PartDelivery.terminate (state : DeliveryState) (reason : String) (now : Instant)
    (d : PartDelivery) : PartDelivery :=
  { d with
    deliveryState := state
    nextRetryAt := none
    lastErrorCategory := reason
    lastErrorDetail := reason
    updatedAt := now }

/-! ## Transport results -/

/-- The mapping passed to `record_part_result`, after the conversions
`_int_or_none` and `_float_or_none`; `retryAfter` is in microseconds. -/
structure PartResult where
  deliveryState : Option String
  status : Option String
  errorCategory : Option String
  error : Option String
  httpStatus : Option ℤ
  retryAfter : Option ℤ
  messageId : Option String
  chatId : Option String
  sentAt : Option Instant

/-- What `record_part_result` writes to the part. -/
structure Settlement where
  state : DeliveryState
  category : String
  detail : String
  httpStatus : Option ℤ
  retryAfter : Option ℤ
  messageId : Option String
  chatId : Option String
  sentAt : Option Instant
  nextRetryAt : Option Instant

def PartResult.reportedState (r : PartResult) : DeliveryState :=
  let reported := if r.deliveryState.getD "" = "" then r.status else r.deliveryState
  match DeliveryState.ofText reported with
  | .sent => .sent
  | .retryable => .retryable
  | .failedFinal => .failedFinal
  | _ => .uncertain

/-- The normalisation before the transaction opens: a success without a message id is uncertain. -/
def PartResult.settle (r : PartResult) (now : Instant) : Settlement :=
  let unproven := r.reportedState = .sent ∧ optionalText r.messageId = none
  let state := if unproven then .uncertain else r.reportedState
  { state := state
    category := if unproven then "confirmed_success_missing_message_id" else text r.errorCategory
    detail := if unproven then "Telegram success could not be proven without a message ID."
      else text r.error
    httpStatus := r.httpStatus
    retryAfter := r.retryAfter.map (max 0)
    messageId := optionalText r.messageId
    chatId := optionalText r.chatId
    sentAt := r.sentAt.or (if state = .sent then some now else none)
    nextRetryAt := none }

/-- The retry limit and the retry time, decided against the claimed event. -/
def Settlement.schedule (s : Settlement) (ev : Event) (now : Instant) : Settlement :=
  if s.state = .retryable then
    if max 1 ev.maxAttempts ≤ ev.attemptCount then
      { s with
        state := .failedFinal
        category := "retry_limit_exhausted"
        detail := "Telegram delivery retry limit exhausted." }
    else
      { s with nextRetryAt := some (addDelay now (s.retryAfter.getD (backoff ev.attemptCount))) }
  else s

/-- The four states a recorded result can have. -/
def ResultState (s : DeliveryState) : Prop :=
  s = .sent ∨ s = .retryable ∨ s = .uncertain ∨ s = .failedFinal

theorem PartResult.resultState_settle (r : PartResult) (now : Instant) :
    ResultState (r.settle now).state := by
  have hreported : ResultState r.reportedState := by
    unfold PartResult.reportedState
    dsimp only
    split <;> simp [ResultState]
  unfold PartResult.settle
  dsimp only
  split
  · simp [ResultState]
  · exact hreported

theorem PartResult.messageId_of_settle_sent {r : PartResult} {now : Instant}
    (h : (r.settle now).state = .sent) : (r.settle now).messageId ≠ none := by
  intro hnone
  unfold PartResult.settle at h hnone
  dsimp only at h hnone
  split at h
  · cases h
  · next hproven => exact hproven ⟨h, hnone⟩

theorem Settlement.resultState_schedule {s : Settlement} (ev : Event) (now : Instant)
    (h : ResultState s.state) : ResultState (s.schedule ev now).state := by
  unfold Settlement.schedule
  split_ifs
  · simp [ResultState]
  · exact h
  · exact h

theorem Settlement.schedule_of_sent {s : Settlement} {ev : Event} {now : Instant}
    (h : (s.schedule ev now).state = .sent) : s.schedule ev now = s := by
  by_cases hretry : s.state = .retryable
  · rw [Settlement.schedule, if_pos hretry] at h
    split at h
    · cases h
    · exact absurd (hretry.symm.trans h) (by decide)
  · rw [Settlement.schedule, if_neg hretry]

/-- The part assignments of `record_part_result`. -/
def PartDelivery.record (s : Settlement) (now : Instant) (d : PartDelivery) : PartDelivery :=
  { d with
    deliveryState := s.state
    sentAt := if s.state = .sent then s.sentAt else none
    telegramMessageId := if s.state = .sent then s.messageId else none
    telegramChatId := if s.state = .sent then s.chatId else none
    httpStatus := s.httpStatus
    retryAfter := s.retryAfter
    nextRetryAt := s.nextRetryAt
    lastErrorCategory := if s.state = .sent then NA else s.category
    lastErrorDetail := if s.state = .sent then NA else s.detail
    updatedAt := now }

/-! ## Locked helpers -/

def Part.fromRow (p : Part) : Part :=
  p.write fun d => { d with deliveryState := d.deliveryState.normalize }

namespace Database

/-- `list_outbox_parts` without a state filter. -/
def listOutboxParts (db : Database) (eventId : ℕ) : List Part :=
  (db.partsOf eventId).map Part.fromRow

/-- `list_outbox_parts` with a state filter. -/
def listOutboxPartsIn (db : Database) (eventId : ℕ) (states : List DeliveryState) : List Part :=
  ((db.partsOf eventId).filter fun p => decide (p.deliveryState ∈ states)).map Part.fromRow

/-- `_state(row["delivery_state"]) if row is not None else FAILED_FINAL`. -/
def eventState (db : Database) (eventId : ℕ) : DeliveryState :=
  match db.events.fetch eventId with
  | none => .failedFinal
  | some ev => ev.deliveryState.normalize

def markEventLocked (db : Database) (eventId reservationId : ℕ) (state : DeliveryState)
    (category detail : String) (now : Instant) (nextRetryAt : Option Instant) : Database :=
  (db.updateEvents (fun ev => ev.id = eventId)
    (EventDelivery.mark state category detail now nextRetryAt)).updateAttempts
    (fun a => a.id = reservationId) (AttemptDelivery.mark state category detail now nextRetryAt)

/-- The message ids of the parts, comma-joined in part order. -/
def messageIdSummary (parts : List Part) : Option String :=
  match (parts.filterMap (·.telegramMessageId)).filter (· ≠ "") with
  | [] => none
  | ids => some (",".intercalate ids)

def finalizeSentLocked (db : Database) (eventId reservationId : ℕ) (now : Instant) :
    Except OutboxError Database :=
  let parts := db.listOutboxParts eventId
  if parts.isEmpty ∨ ∃ p ∈ parts, p.deliveryState ≠ .sent then
    .error (.integrity "Cannot finalize Telegram outbox before every part is SENT.")
  else
    let rows := db.partsOf eventId
    let sentAt := (rows.filterMap (·.sentAt)).max?.getD now
    let messageId := messageIdSummary rows
    let chatId := ((rows.filterMap (·.telegramChatId)).filter (· ≠ "")).head?
    .ok ((db.updateEvents (fun ev => ev.id = eventId)
      (EventDelivery.finalizeSent sentAt now messageId chatId)).updateAttempts
      (fun a => a.id = reservationId) (AttemptDelivery.finalizeSent sentAt now messageId chatId))

end Database

/-- `try: check except RuntimeEpochOwnershipError: refused`. Other errors of the
check leave the transaction. -/
def orRefuse {α β : Type} (check : Except RuntimeEpochError α)
    (refused : String → Except OutboxError β) (body : α → Except OutboxError β) :
    Except OutboxError β :=
  match check with
  | .ok a => body a
  | .error (.ownership reason) => refused reason
  | .error err => .error (.runtimeEpoch err)

/-- `_transaction`: commit what the body wrote, or roll back when it raises. -/
def transaction {α : Type} (body : Database → Except OutboxError (α × Database)) (db : Database) :
    Except OutboxError α × Database :=
  match body db with
  | .ok (result, db') => (.ok result, db')
  | .error err => (.error err, db)

/-- The rows the stale recovery matches. -/
def StaleInFlight (eventId : ℕ) (now : Instant) (ev : Event) : Prop :=
  ev.id = eventId ∧ ev.deliveryState = .inFlight ∧ Elapsed ev.leaseExpiresAt now

instance (eventId : ℕ) (now : Instant) : DecidablePred (StaleInFlight eventId now) := fun _ =>
  inferInstanceAs (Decidable (_ ∧ _))

def Database.recoverStale (db : Database) (eventId canonical : ℕ) (now : Instant) : Database :=
  ((db.updateEvents (StaleInFlight eventId now) (EventDelivery.recoverStale now)).updateParts
    (fun p => p.eventId = eventId ∧ p.deliveryState = .inFlight)
    (PartDelivery.recoverStale now)).updateAttempts (fun a => a.id = canonical)
    AttemptDelivery.recoverStale

def recoverStaleLocked (eventId : ℕ) (now : Instant) (db : Database) :
    Except OutboxError (Bool × Database) :=
  match db.events.fetch eventId with
  | none => .ok (false, db)
  | some ev =>
    orRefuse (requireCanonicalReservationForPublicEffect db eventId) (fun _ => .ok (false, db))
      fun _ =>
        match ev.canonicalReservationAttemptId with
        | none => .ok (false, db)
        | some canonical =>
          if db.events.rowcount (StaleInFlight eventId now) ≠ 1 then .ok (false, db)
          else .ok (true, db.recoverStale eventId canonical now)

/-! ## Transactions -/

def recoverStaleInFlight (eventId : ℕ) (now : Instant) :
    Database → Except OutboxError Bool × Database :=
  transaction fun db =>
    match decidePublicEffect db (db.events.fetch eventId) with
    | some _ => .ok (false, db)
    | none =>
      if ((db.events.fetch eventId).bind (·.canonicalReservationAttemptId)).isNone then
        .ok (false, db)
      else
        orRefuse (requireCanonicalReservationForPublicEffect db eventId) (fun _ => .ok (false, db))
          fun _ => recoverStaleLocked eventId now db

/-- `TelegramOutboxClaim`. -/
structure Claim where
  eventId : ℕ
  reservationId : ℕ
  eventKey : String
  attemptId : String
  attemptCount : ℕ
  parts : List Part

/-- `TelegramOutboxClaimResult`. -/
structure ClaimResult where
  claim : Option Claim
  state : DeliveryState
  reason : String

/-- The rows the atomic claim matches. -/
def ClaimableNow (req : ClaimRequest) (ev : Event) : Prop :=
  ev.id = req.eventId ∧ ev.deliveryState.AutoClaimable ∧
    (ev.deliveryState = .retryable → Elapsed ev.nextRetryAt req.now)

instance (req : ClaimRequest) : DecidablePred (ClaimableNow req) := fun _ =>
  inferInstanceAs (Decidable (_ ∧ _))

def Database.grantClaim (db : Database) (req : ClaimRequest) : Database :=
  (db.updateEvents (ClaimableNow req) (EventDelivery.claimFor req)).updateAttempts
    (fun a => a.id = req.reservationId) (AttemptDelivery.claimFor req)

def EventDelivery.claimLimit (d : EventDelivery) : ℕ :=
  max 1 (if d.maxAttempts = 0 then 3 else d.maxAttempts)

def claimRecovered (req : ClaimRequest) (db : Database) :
    Except OutboxError (ClaimResult × Database) :=
  match db.events.fetch req.eventId with
  | none => .ok (⟨none, .failedFinal, "outbox_intent_missing"⟩, db)
  | some row =>
    let state := row.deliveryState.normalize
    if state = .retryable ∧ ¬ retryDue row.nextRetryAt req.now then
      .ok (⟨none, .retryable, "retry_not_due"⟩, db)
    else if ¬ state.AutoClaimable then
      .ok (⟨none, state, "outbox_not_claimable:" ++ lower state.text⟩, db)
    else if row.claimLimit ≤ row.attemptCount then
      .ok (⟨none, .failedFinal, "retry_limit_exhausted"⟩,
        db.markEventLocked req.eventId req.reservationId .failedFinal "retry_limit_exhausted"
          "Telegram delivery retry limit exhausted." req.now none)
    else if db.events.rowcount (ClaimableNow req) ≠ 1 then
      .ok (⟨none, state, "atomic_claim_lost"⟩, db)
    else
      let granted := db.grantClaim req
      let parts := granted.listOutboxPartsIn req.eventId [.pending, .retryable]
      if parts.isEmpty then
        if (granted.listOutboxPartsIn req.eventId [.sent]).isEmpty then
          .ok (⟨none, .failedFinal, "outbox_parts_missing"⟩,
            granted.markEventLocked req.eventId req.reservationId .failedFinal
              "outbox_parts_missing" "Committed Telegram intent has no delivery parts." req.now
              none)
        else
          match granted.finalizeSentLocked req.eventId req.reservationId req.now with
          | .error err => .error err
          | .ok finalized => .ok (⟨none, .sent, "all_parts_already_sent"⟩, finalized)
      else
        .ok (⟨some ⟨req.eventId, req.reservationId, row.eventKey, req.attemptId,
          row.attemptCount + 1, parts⟩, .inFlight, NA⟩, granted)

def claim (req : ClaimRequest) : Database → Except OutboxError ClaimResult × Database :=
  transaction fun db =>
    orRefuse (requireEventReservationAssociation db req.eventId req.reservationId)
      (fun reason => .ok (⟨none, db.eventState req.eventId, reason⟩, db)) fun _ =>
        match decidePublicEffect db (db.events.fetch req.eventId) with
        | some reason => .ok (⟨none, db.eventState req.eventId, reason⟩, db)
        | none =>
          match recoverStaleLocked req.eventId req.now db with
          | .error err => .error err
          | .ok (_, recovered) => claimRecovered req recovered

/-- The rows `mark_part_in_flight` matches. -/
def Transmittable (partId : ℕ) (p : Part) : Prop :=
  p.id = partId ∧ p.deliveryState.AutoClaimable

instance (partId : ℕ) : DecidablePred (Transmittable partId) := fun _ =>
  inferInstanceAs (Decidable (_ ∧ _))

def markPartInFlight (partId : ℕ) (attemptId : String) (now : Instant) :
    Database → Except OutboxError Bool × Database :=
  transaction fun db =>
    orRefuse (requirePartClaimAssociation db partId attemptId) (fun _ => .ok (false, db)) fun ev =>
      orRefuse (requireEventPartAssociation db ev.id partId) (fun _ => .ok (false, db)) fun _ =>
        orRefuse (requireCanonicalReservationForPublicEffect db ev.id) (fun _ => .ok (false, db))
          fun _ =>
            .ok (decide (db.parts.rowcount (Transmittable partId) = 1),
              db.updateParts (Transmittable partId) (PartDelivery.markInFlight attemptId now))

/-- The rows `record_part_result` matches. -/
def InFlightUnder (partId : ℕ) (attemptId : String) (p : Part) : Prop :=
  p.id = partId ∧ p.deliveryState = .inFlight ∧ p.attemptId = some attemptId

instance (partId : ℕ) (attemptId : String) : DecidablePred (InFlightUnder partId attemptId) :=
  fun _ => inferInstanceAs (Decidable (_ ∧ _))

/-- `record_part_result` once the event is known to be claimed under the attempt. -/
def recordClaimed (eventId reservationId partId : ℕ) (attemptId : String) (s : Settlement)
    (now : Instant) (db : Database) : Except OutboxError (DeliveryState × Database) :=
  let settled := db.updateParts (InFlightUnder partId attemptId) (PartDelivery.record s now)
  if db.parts.rowcount (InFlightUnder partId attemptId) ≠ 1 then
    .ok (.uncertain, settled.markEventLocked eventId reservationId .uncertain
      "part_result_persistence_conflict"
      "Telegram part result could not be matched to the active attempt." now none)
  else if s.state = .sent then
    if settled.parts.rowcount (fun p => p.eventId = eventId ∧ p.deliveryState ≠ .sent) = 0 then
      match settled.finalizeSentLocked eventId reservationId now with
      | .error err => .error err
      | .ok finalized => .ok (.sent, finalized)
    else .ok (.inFlight, settled)
  else
    .ok (s.state,
      settled.markEventLocked eventId reservationId s.state s.category s.detail now s.nextRetryAt)

def recordPartResult (eventId reservationId partId : ℕ) (attemptId : String) (result : PartResult)
    (now : Instant) : Database → Except OutboxError DeliveryState × Database :=
  transaction fun db =>
    orRefuse (requireEventReservationAssociation db eventId reservationId)
      (fun _ => .ok (db.eventState eventId, db)) fun _ =>
        orRefuse (requireEventPartAssociation db eventId partId)
          (fun _ => .ok (db.eventState eventId, db)) fun _ =>
            match decidePublicEffect db (db.events.fetch eventId) with
            | some _ => .ok (db.eventState eventId, db)
            | none =>
              match db.events.fetch eventId with
              | none => .ok (.uncertain, db)
              | some ev =>
                if ev.attemptId ≠ some attemptId then .ok (.uncertain, db)
                else recordClaimed eventId reservationId partId attemptId
                  ((result.settle now).schedule ev now) now db

/-- The arguments of `mark_terminal_without_send`. An absent expected state is any
state that is not claimable. -/
structure NoSendRequest where
  eventId : ℕ
  reservationId : ℕ
  state : String
  reason : String
  now : Instant
  expectedState : DeliveryState
  expectedAttemptId : Option String
  expectedAttemptCount : ℕ

/-- One part of an unchanged snapshot: still pending and never attempted, or
rejected under the expected attempt. -/
def NoSendPartMatches (req : NoSendRequest) (ev : Event) (parts : List Part) (index : ℕ)
    (p : Part) : Prop :=
  p.eventKey = ev.eventKey ∧ p.partIndex = index ∧ p.partCount = parts.length ∧
    p.sentAt = none ∧ p.telegramMessageId = none ∧ p.telegramChatId = none ∧
    (p.deliveryState = .pending ∧ p.attemptId = none ∧ p.attemptStartedAt = none ∧
        p.nextRetryAt = none ∧ p.httpStatus = none ∧ p.attemptCount = 0 ∨
      req.expectedState = .retryable ∧ p.deliveryState = .retryable ∧
        p.attemptId = req.expectedAttemptId ∧ 0 < p.attemptCount ∧
        p.attemptCount ≤ req.expectedAttemptCount)

def NoSendSnapshotMatches (req : NoSendRequest) (ev : Event) (reservation : Attempt)
    (parts : List Part) : Prop :=
  (ev.deliveryState = req.expectedState ∧ reservation.deliveryState = req.expectedState ∧
    ev.attemptId = req.expectedAttemptId ∧ reservation.deliveryAttemptId = req.expectedAttemptId ∧
    ev.attemptCount = req.expectedAttemptCount ∧
    reservation.deliveryAttemptCount = req.expectedAttemptCount ∧ ev.status = .reserved ∧
    ev.leaseExpiresAt = none ∧ ev.uncertainAt = none ∧ ev.completedAt = none ∧
    ev.nextRetryAt = reservation.deliveryNextRetryAt) ∧
  (if req.expectedState = .pending then
    req.expectedAttemptId = none ∧ req.expectedAttemptCount = 0 ∧ ev.claimedAt = none ∧
      ev.claimOwner = none ∧ ev.attemptStartedAt = none
  else
    req.expectedAttemptId.getD "" ≠ "" ∧ 0 < req.expectedAttemptCount) ∧
  (¬ parts.isEmpty ∧ parts.length = ev.partCount ∧
    parts.length = reservation.deliveryPartCount) ∧
  (ev.sentAt = none ∧ ev.telegramMessageId = none ∧ ev.telegramChatId = none) ∧
  (reservation.sentAt = none ∧ reservation.telegramMessageId = none ∧
    reservation.telegramChatId = none) ∧
  ∀ entry ∈ parts.zipIdx 1, NoSendPartMatches req ev parts entry.2 entry.1

instance (req : NoSendRequest) (ev : Event) (parts : List Part) (index : ℕ) (p : Part) :
    Decidable (NoSendPartMatches req ev parts index p) := by
  unfold NoSendPartMatches
  infer_instance

instance (req : NoSendRequest) (ev : Event) (reservation : Attempt) (parts : List Part) :
    Decidable (NoSendSnapshotMatches req ev reservation parts) := by
  unfold NoSendSnapshotMatches
  infer_instance

theorem NoSendSnapshotMatches.claimable {req : NoSendRequest} {ev : Event} {reservation : Attempt}
    {parts : List Part} (h : NoSendSnapshotMatches req ev reservation parts) {p : Part}
    (hp : p ∈ parts) : p.deliveryState.AutoClaimable := by
  rw [← List.zipIdx_map_fst 1 parts] at hp
  obtain ⟨entry, hentry, rfl⟩ := List.mem_map.1 hp
  obtain ⟨-, -, -, -, -, -, hpending | hretryable⟩ := h.2.2.2.2.2 entry hentry
  · exact Or.inl hpending.1
  · exact Or.inr hretryable.2.1

/-- The rows the compare-and-set of `mark_terminal_without_send` matches. -/
def NoSendTarget (req : NoSendRequest) (ev : Event) : Prop :=
  ev.id = req.eventId ∧ ev.canonicalReservationAttemptId = some req.reservationId ∧
    ev.deliveryState = req.expectedState ∧ ev.attemptId = req.expectedAttemptId ∧
    ev.attemptCount = req.expectedAttemptCount

instance (req : NoSendRequest) : DecidablePred (NoSendTarget req) := fun _ =>
  inferInstanceAs (Decidable (_ ∧ _))

def Database.terminate (db : Database) (req : NoSendRequest) (terminal : DeliveryState) :
    Database :=
  ((db.updateEvents (NoSendTarget req) (EventDelivery.close terminal)).updateParts
    (fun p => p.eventId = req.eventId ∧ p.deliveryState.AutoClaimable)
    (PartDelivery.terminate terminal req.reason req.now)).markEventLocked req.eventId
      req.reservationId terminal req.reason req.reason req.now none

/-- The states `mark_terminal_without_send` accepts. -/
def NoSendTerminal (s : DeliveryState) : Prop :=
  s = .skippedDryRun ∨ s = .policyDisabled ∨ s = .failedFinal

instance : DecidablePred NoSendTerminal := fun _ => inferInstanceAs (Decidable (_ ∨ _))

def markTerminalWithoutSend (req : NoSendRequest) :
    Database → Except OutboxError Bool × Database :=
  let terminal := DeliveryState.ofText (some req.state)
  if ¬ NoSendTerminal terminal then
    fun db => (.error (.value ("Unsupported no-send terminal state: " ++ req.state)), db)
  else if ¬ req.expectedState.AutoClaimable then fun db => (.ok false, db)
  else
    transaction fun db =>
      orRefuse (requireEventReservationAssociation db req.eventId req.reservationId)
        (fun _ => .ok (false, db)) fun rows =>
          if ¬ NoSendSnapshotMatches req rows.1 rows.2 (db.partsOf req.eventId) then .ok (false, db)
          else if db.events.rowcount (NoSendTarget req) ≠ 1 then .ok (false, db)
          else .ok (true, db.terminate req terminal)

def markUncertainAfterPersistenceFailure (eventId reservationId : ℕ) (detail : String)
    (now : Instant) : Database → Except OutboxError Unit × Database :=
  transaction fun db =>
    orRefuse (requireEventReservationAssociation db eventId reservationId) (fun _ => .ok ((), db))
      fun _ =>
        match decidePublicEffect db (db.events.fetch eventId) with
        | some _ => .ok ((), db)
        | none => .ok ((), db.markEventLocked eventId reservationId .uncertain
            "sent_persistence_failed" detail now none)

/-! ## Interleavings -/

/-- One transaction of some worker. A worker that crashes issues no further
transaction, and a transaction it leaves open is rolled back. -/
inductive Operation where
  | recoverStaleInFlight (eventId : ℕ) (now : Instant)
  | claim (req : ClaimRequest)
  | markPartInFlight (partId : ℕ) (attemptId : String) (now : Instant)
  | recordPartResult (eventId reservationId partId : ℕ) (attemptId : String) (result : PartResult)
      (now : Instant)
  | markTerminalWithoutSend (req : NoSendRequest)
  | markUncertainAfterPersistenceFailure (eventId reservationId : ℕ) (detail : String)
      (now : Instant)

/-- The database a transaction leaves behind. -/
def Database.step (db : Database) : Operation → Database
  | .recoverStaleInFlight eventId now => (recoverStaleInFlight eventId now db).2
  | .claim req => (claim req db).2
  | .markPartInFlight partId attemptId now => (markPartInFlight partId attemptId now db).2
  | .recordPartResult eventId reservationId partId attemptId result now =>
    (recordPartResult eventId reservationId partId attemptId result now db).2
  | .markTerminalWithoutSend req => (markTerminalWithoutSend req db).2
  | .markUncertainAfterPersistenceFailure eventId reservationId detail now =>
    (markUncertainAfterPersistenceFailure eventId reservationId detail now db).2

/-- The database after any interleaving of the workers' transactions. -/
abbrev Database.run (db : Database) (ops : List Operation) : Database :=
  Transition.run Database.step db ops

end CandleCraft.Outbox
