import CandleCraft.Outbox.MessageParts
import CandleCraft.Outbox.Simulation

/-!
# The intent transaction

`persist_intent_parts` writes the payload and every part of a public alert, and
`_deliver_committed_public_alert_intent` commits it together with the reservation,
before anything is sent. `FreshIntent` is the database that transaction leaves for
an event that was just reserved: the start of every run of the outbox.
-/

namespace CandleCraft.Outbox

open Relational PyText Ownership

def telegramMaxMessageLength : ℤ := 4096

/-- The arguments of `persist_intent_parts` and of the reservation update committed
with it. -/
structure Intent where
  eventId : ℕ
  reservationId : ℕ
  eventKey : String
  messageText : String
  messageHash : String
  destinationChatId : Option String
  destinationKind : Option String
  maxAttempts : ℕ
  maxMessageLength : ℤ := telegramMaxMessageLength

/-- The delivery columns of a part as `persist_intent_parts` inserts it. -/
def PartDelivery.pending (now : Instant) : PartDelivery where
  deliveryState := .pending
  attemptId := none
  attemptCount := 0
  attemptStartedAt := none
  sentAt := none
  telegramMessageId := none
  telegramChatId := none
  httpStatus := none
  retryAfter := none
  nextRetryAt := none
  lastErrorCategory := NA
  lastErrorDetail := NA
  updatedAt := now

/-- The identity of the part with a chunk of the message. -/
def Intent.part (digest : String → String) (intent : Intent) (partCount index : ℕ)
    (chunk : String) : PartIdentity where
  eventId := intent.eventId
  eventKey := intent.eventKey
  partIndex := index
  partCount := partCount
  payloadText := chunk
  payloadHash := digest chunk

def insertIntentParts (digest : String → String) (intent : Intent) (now : Instant)
    (partCount : ℕ) : ℕ → List String → Database → Database
  | _, [], db => db
  | index, chunk :: chunks, db =>
    insertIntentParts digest intent now partCount (index + 1) chunks
      (db.insertPart (intent.part digest partCount index chunk) (PartDelivery.pending now))

/-- The event assignments of `persist_intent_parts`. -/
def EventDelivery.intend (intent : Intent) (partCount : ℕ) (now : Instant) (d : EventDelivery) :
    EventDelivery :=
  { d with
    deliveryState := .pending
    payloadText := intent.messageText
    messageHash := intent.messageHash
    destinationChatId := text intent.destinationChatId
    destinationKind := text intent.destinationKind
    partCount := partCount
    maxAttempts := max 1 intent.maxAttempts
    updatedAt := now }

/-- The reservation assignments committed with the intent. -/
def AttemptDelivery.intend (partCount : ℕ) (d : AttemptDelivery) : AttemptDelivery :=
  { d with
    telegramStatus := .delivery .pending
    deliveryState := .pending
    deliveryPartCount := partCount
    dedupeStatus := "pending"
    blockedReason := NA
    errorMessage := NA
    lastErrorMessage := NA }

/-- What the intent transaction raises. -/
inductive IntentError where
  | split (err : SplitError)
  | epoch (err : RuntimeEpochError)

/-- The hash of a part is a parameter. -/
def persistIntentParts (digest : String → String) (intent : Intent) (now : Instant)
    (db : Database) : Except IntentError Database :=
  match splitMessage intent.messageText intent.maxMessageLength with
  | .error err => .error (.split err)
  | .ok chunks =>
    match requirePublicEventMutation db (db.events.fetch intent.eventId) with
    | .error err => .error (.epoch err)
    | .ok _ =>
      let supplied := strip intent.eventKey
      let actual := match db.events.fetch intent.eventId with
        | none => ""
        | some ev => strip ev.eventKey
      if supplied = "" ∨ actual = "" ∨ supplied ≠ actual then
        .error (.epoch (.ownership "public_intent_event_key_mismatch"))
      else
        .ok (insertIntentParts digest intent now chunks.length 1 chunks
          (db.updateEvents (fun ev => ev.id = intent.eventId)
            (EventDelivery.intend intent chunks.length now)))

/-- The intent transaction of `_deliver_committed_public_alert_intent`: an event
that already has parts is left as it is. -/
def commitIntent (digest : String → String) (intent : Intent) (now : Instant) (db : Database) :
    Except IntentError Database :=
  if (db.partsOf intent.eventId).isEmpty then
    match persistIntentParts digest intent now db with
    | .error err => .error err
    | .ok persisted =>
      .ok (persisted.updateAttempts (fun a => a.id = intent.reservationId)
        (AttemptDelivery.intend (persisted.partsOf intent.eventId).length))
  else .ok db

/-- The delivery columns of an event as its reservation inserts it: the defaults of
the schema. -/
def EventDelivery.reserved (now : Instant) : EventDelivery where
  status := .reserved
  deliveryState := .pending
  payloadText := NA
  messageHash := NA
  destinationChatId := NA
  destinationKind := NA
  attemptId := none
  claimOwner := none
  claimedAt := none
  attemptStartedAt := none
  leaseExpiresAt := none
  attemptCount := 0
  maxAttempts := 3
  nextRetryAt := none
  failureReason := NA
  lastErrorCategory := NA
  lastErrorDetail := NA
  sentAt := none
  telegramMessageId := none
  telegramChatId := none
  partCount := 1
  completedAt := none
  uncertainAt := none
  updatedAt := now

def Reserved (intent : Intent) (db : Database) : Prop :=
  ∃ ev reservedAt reservation, db.events.fetch intent.eventId = some ev ∧
    ev.toEventDelivery = EventDelivery.reserved reservedAt ∧
    ev.canonicalReservationAttemptId = some intent.reservationId ∧
    db.attempts.fetch intent.reservationId = some reservation ∧
    reservation.deliveryAttemptId = none ∧ reservation.deliveryAttemptCount = 0 ∧
    db.partsOf intent.eventId = []

/-- The database the intent transaction commits for a newly reserved event. -/
def CommittedIntent (digest : String → String) (intent : Intent) (db : Database) : Prop :=
  ∃ now reserved, Reserved intent reserved ∧ commitIntent digest intent now reserved = .ok db

/-- The same with any hash. -/
def FreshIntent (intent : Intent) (db : Database) : Prop :=
  ∃ digest, CommittedIntent digest intent db

section Insert

variable (digest : String → String) (intent : Intent) (now : Instant) (partCount : ℕ)

theorem events_insertPart (db : Database) (identity : PartIdentity) (delivery : PartDelivery) :
    (db.insertPart identity delivery).events = db.events ∧
      (db.insertPart identity delivery).attempts = db.attempts := by
  unfold Database.insertPart
  split <;> exact ⟨rfl, rfl⟩

theorem mem_insertPart {db : Database} {identity : PartIdentity} {delivery : PartDelivery}
    {p : Part} (h : p ∈ (db.insertPart identity delivery).parts.rows) :
    p ∈ db.parts.rows ∨ p.toPartDelivery = delivery := by
  unfold Database.insertPart at h
  split at h
  · exact Or.inl h
  · rcases List.mem_append.1 h with h | h
    · exact Or.inl h
    · rw [List.mem_singleton] at h
      exact Or.inr (h ▸ rfl)

theorem events_insertIntentParts (index : ℕ) (chunks : List String) (db : Database) :
    (insertIntentParts digest intent now partCount index chunks db).events = db.events ∧
      (insertIntentParts digest intent now partCount index chunks db).attempts = db.attempts := by
  induction chunks generalizing index db with
  | nil => exact ⟨rfl, rfl⟩
  | cons chunk chunks ih =>
    rw [insertIntentParts, (ih _ _).1, (ih _ _).2]
    exact events_insertPart _ _ _

theorem mem_insertIntentParts {index : ℕ} {chunks : List String} {db : Database} {p : Part}
    (h : p ∈ (insertIntentParts digest intent now partCount index chunks db).parts.rows) :
    p ∈ db.parts.rows ∨ p.toPartDelivery = PartDelivery.pending now := by
  induction chunks generalizing index db with
  | nil => exact Or.inl h
  | cons chunk chunks ih =>
    rcases ih h with h | h
    · exact mem_insertPart h
    · exact Or.inr h

end Insert

/-- What the transaction leaves: the parts of the split message, after the event was written. -/
theorem CommittedIntent.inserted {digest : String → String} {intent : Intent} {db : Database}
    (h : CommittedIntent digest intent db) :
    ∃ chunks now before partCount,
      splitMessage intent.messageText intent.maxMessageLength = .ok chunks ∧
      Reserved intent before ∧
      db = (insertIntentParts digest intent now chunks.length 1 chunks
        (before.updateEvents (fun ev => ev.id = intent.eventId)
          (EventDelivery.intend intent chunks.length now))).updateAttempts
            (fun a => a.id = intent.reservationId) (AttemptDelivery.intend partCount) := by
  obtain ⟨now, before, hreserved, hcommit⟩ := h
  obtain ⟨ev, -, -, hev, -, -, -, -, -, hparts⟩ := id hreserved
  unfold commitIntent at hcommit
  rw [hparts, if_pos (by rfl)] at hcommit
  split at hcommit
  · cases hcommit
  next persisted hpersist =>
  cases hcommit
  unfold persistIntentParts at hpersist
  rw [hev] at hpersist
  split at hpersist
  · cases hpersist
  next chunks hchunks =>
  split at hpersist
  · cases hpersist
  dsimp only at hpersist
  split at hpersist
  · cases hpersist
  cases hpersist
  exact ⟨chunks, now, before, _, hchunks, hreserved, rfl⟩

/-- The ledger of a fresh intent: pending, never claimed, and every part pending. -/
structure Ledger.Fresh (maxAttempts : ℕ) (ℓ : Ledger) : Prop where
  state : ℓ.event.deliveryState = .pending
  attemptId : ℓ.event.attemptId = none
  attemptCount : ℓ.event.attemptCount = 0
  lease : ℓ.event.leaseExpiresAt = none
  limit : ℓ.event.maxAttempts = max 1 maxAttempts
  reservation : ∃ a, ℓ.reservation = some a ∧ a.deliveryState = .pending ∧
    a.deliveryAttemptCount = 0
  parts : ∀ p ∈ ℓ.parts, ∃ now, p.toPartDelivery = PartDelivery.pending now

theorem FreshIntent.ledger {intent : Intent} {db : Database} (h : FreshIntent intent db) :
    ∃ ℓ, db.ledger intent.eventId = some ℓ ∧ ℓ.Fresh intent.maxAttempts := by
  obtain ⟨digest, hcommitted⟩ := h
  obtain ⟨chunks, now, before, partCount, -, hreserved, rfl⟩ := hcommitted.inserted
  obtain ⟨ev, reservedAt, a, hev, hdelivery, hr, ha, -, hcount, hparts⟩ := hreserved
  obtain ⟨hevents, hattempts⟩ := events_insertIntentParts digest intent now chunks.length 1 chunks
    (before.updateEvents (fun ev => ev.id = intent.eventId)
      (EventDelivery.intend intent chunks.length now))
  have hnew := @mem_insertIntentParts digest intent now chunks.length 1 chunks
    (before.updateEvents (fun ev => ev.id = intent.eventId)
      (EventDelivery.intend intent chunks.length now))
  -- from here on only what the insertion leaves matters, not how the parts are numbered
  generalize insertIntentParts digest intent now chunks.length 1 chunks
    (before.updateEvents (fun ev => ev.id = intent.eventId)
      (EventDelivery.intend intent chunks.length now)) = inserted at hevents hattempts hnew ⊢
  have hid : ev.id = intent.eventId := Table.key_of_fetch hev
  have haid : a.id = intent.reservationId := Table.key_of_fetch ha
  refine ⟨_, Database.ledger_eq_some_iff.2
    ⟨ev.write (EventDelivery.intend intent chunks.length now), ?_, rfl⟩, ?_⟩
  · rw [Database.updateAttempts_events, hevents, Database.fetch_updateEvents, hev]
    simp [hid]
  · refine ⟨rfl, ?_, ?_, ?_, rfl, ⟨a.write (AttemptDelivery.intend partCount), ?_, rfl, hcount⟩, ?_⟩
    · simp [EventDelivery.intend, hdelivery, EventDelivery.reserved]
    · simp [EventDelivery.intend, hdelivery, EventDelivery.reserved]
    · simp [EventDelivery.intend, hdelivery, EventDelivery.reserved]
    · simp [hr, hattempts, ha, haid]
    · intro p hp
      obtain ⟨hrow, hpe⟩ := Database.mem_partsOf.1 hp
      rcases hnew hrow with hold | hpending
      · have hexisting : p ∈ before.partsOf intent.eventId := Database.mem_partsOf.2 ⟨hold, hpe⟩
        rw [hparts] at hexisting
        exact absurd hexisting List.not_mem_nil
      · exact ⟨now, hpending⟩

/-! ## A sample intent -/

namespace Sample

def authority : Authority := .granted "l" "S" (.number 1)

def eventIdentity : EventIdentity where
  canonicalPlanId := "p"
  eventType := "initial_watchlist"
  eventKey := "k"
  symbol := "S"
  side := "long"
  normalizedZoneLow := .na
  normalizedZoneHigh := .na
  normalizedInvalidation := NA
  rawEntryLow := .na
  rawEntryHigh := .na
  rawStopLoss := .na
  runtimeEpochId := some "e"
  originLifecycleId := some "l"
  originRootEventId := none
  canonicalReservationAttemptId := some 1

def reservation : Attempt where
  symbol := "S"
  direction := "long"
  publicWatchlistPlanId := "p"
  publicWatchlistEventKey := "k"
  publicAlertEventType := "initial_watchlist"
  alertType := NA
  attemptedAlertType := NA
  entryLow := .na
  entryHigh := .na
  stopLoss := .na
  tp1 := .number 1
  tp2 := .na
  tp3 := .na
  rrPlanned := .na
  normalizedEntryZoneLow := .na
  normalizedEntryZoneHigh := .na
  normalizedInvalidation := NA
  scanRunId := none
  telegramStatus := .other "reserved"
  deliveryState := .other NA
  deliveryAttemptId := none
  deliveryAttemptCount := 0
  deliveryNextRetryAt := none
  deliveryLastErrorCategory := NA
  deliveryPartCount := 1
  blockedReason := NA
  errorMessage := NA
  lastErrorMessage := NA
  dedupeStatus := NA
  lastSeenAt := none
  sentAt := none
  telegramMessageId := none
  telegramChatId := none
  id := 1

def reserved : Database where
  authority := authority
  events := ⟨[{ toEventIdentity := eventIdentity
                toEventDelivery := EventDelivery.reserved 0
                id := 1 }], by simp⟩
  parts := ⟨[], by simp⟩
  attempts := ⟨[reservation], by simp⟩
  canonicalUnique := by simp
  partIndexUnique := by simp
  partEvent := by simp

/-- A message that is cut after every character. -/
def intent (message : String) : Intent where
  eventId := 1
  reservationId := 1
  eventKey := "k"
  messageText := message
  messageHash := "h"
  destinationChatId := none
  destinationKind := none
  maxAttempts := 3
  maxMessageLength := 1

def committed (message : String) : Database :=
  match commitIntent id (intent message) 0 reserved with
  | .ok db => db
  | .error _ => reserved

theorem reserved_intent (message : String) : Reserved (intent message) reserved :=
  ⟨_, 0, reservation, rfl, rfl, rfl, rfl, rfl, rfl, rfl⟩

theorem committedIntent (message : String)
    (h : (commitIntent id (intent message) 0 reserved).isOk = true) :
    CommittedIntent id (intent message) (committed message) := by
  refine ⟨0, reserved, reserved_intent message, ?_⟩
  unfold committed
  cases hcommit : commitIntent id (intent message) 0 reserved with
  | error err =>
    rw [hcommit] at h
    cases h
  | ok db => rfl

theorem fresh (message : String) (h : (commitIntent id (intent message) 0 reserved).isOk = true) :
    FreshIntent (intent message) (committed message) :=
  ⟨id, committedIntent message h⟩

def claimAt (now : Instant) (attemptId : String) : Operation :=
  .claim ⟨1, 1, now, "w", 300, attemptId⟩

def rejected : PartResult := ⟨some "RETRYABLE", none, none, none, none, some 0, none, none, none⟩

def accepted (messageId : String) : PartResult :=
  ⟨some "SENT", none, none, none, none, none, some messageId, none, none⟩

def sendBoth : List Operation :=
  [claimAt 0 "x", .markPartInFlight 1 "x" 0, .recordPartResult 1 1 1 "x" (accepted "7") 0,
    .markPartInFlight 2 "x" 0, .recordPartResult 1 1 2 "x" (accepted "8") 0]

end Sample

end CandleCraft.Outbox
