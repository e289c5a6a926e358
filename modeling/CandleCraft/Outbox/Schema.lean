import CandleCraft.Basic
import CandleCraft.Kernel.Table
import CandleCraft.Kernel.Text
import Mathlib.Data.Rat.Defs

/-!
# The public alert ledger

The rows of `public_alert_events`, `public_alert_delivery_parts` and `telegram_alert_attempts`, and
the tables the ownership checks read. Every row is split into its identity columns, which the outbox
only reads, and its delivery columns, which are all it writes.

`Database` carries the primary keys, `UNIQUE(public_alert_event_id, part_index)`, the index
`ux_public_alert_events_canonical_reservation`, and the foreign key of a part.
-/

namespace CandleCraft.Outbox

open Relational

/-- A `delivery_state` column. `other` is any text that is not one of the outbox
states, such as the `N/A` default of a reservation. -/
inductive DeliveryState where
  | pending
  | inFlight
  | sent
  | retryable
  | uncertain
  | failedFinal
  | skippedDryRun
  | policyDisabled
  | other (text : String)
  deriving DecidableEq

namespace DeliveryState

def text : DeliveryState → String
  | pending => "PENDING"
  | inFlight => "IN_FLIGHT"
  | sent => "SENT"
  | retryable => "RETRYABLE"
  | uncertain => "UNCERTAIN"
  | failedFinal => "FAILED_FINAL"
  | skippedDryRun => "SKIPPED_DRY_RUN"
  | policyDisabled => "POLICY_DISABLED"
  | other t => t

/-- `_state`: an unset or blank text reads as `FAILED_FINAL`. -/
def ofText (value : Option String) : DeliveryState :=
  match PyText.upper (PyText.strip (value.getD "")) with
  | "" => failedFinal
  | "PENDING" => pending
  | "IN_FLIGHT" => inFlight
  | "SENT" => sent
  | "RETRYABLE" => retryable
  | "UNCERTAIN" => uncertain
  | "FAILED_FINAL" => failedFinal
  | "SKIPPED_DRY_RUN" => skippedDryRun
  | "POLICY_DISABLED" => policyDisabled
  | t => other t

/-- `_state` of a stored column. -/
def normalize : DeliveryState → DeliveryState
  | other t => ofText (some t)
  | s => s

/-- `AUTO_CLAIMABLE_STATES`. -/
def AutoClaimable (s : DeliveryState) : Prop :=
  s = pending ∨ s = retryable

/-- `TERMINAL_STATES`. -/
def Terminal (s : DeliveryState) : Prop :=
  s = sent ∨ s = uncertain ∨ s = failedFinal ∨ s = skippedDryRun ∨ s = policyDisabled

instance : DecidablePred AutoClaimable := fun _ => inferInstanceAs (Decidable (_ ∨ _))

variable {s : DeliveryState}

theorem mem_claimable : s ∈ [pending, retryable] ↔ s.AutoClaimable := by
  simp [AutoClaimable]

instance : DecidablePred Terminal := fun _ => inferInstanceAs (Decidable (_ ∨ _))

theorem Terminal.not_claimable (h : s.Terminal) : ¬ s.AutoClaimable := by
  rcases h with rfl | rfl | rfl | rfl | rfl <;> decide

theorem Terminal.ne_inFlight (h : s.Terminal) : s ≠ inFlight := by
  rcases h with rfl | rfl | rfl | rfl | rfl <;> decide

theorem Terminal.normalize_eq (h : s.Terminal) : s.normalize = s := by
  rcases h with rfl | rfl | rfl | rfl | rfl <;> rfl

end DeliveryState

inductive EventStatus where
  | reserved
  | sent
  | failed
  | blocked
  deriving DecidableEq

/-- The `telegram_status` column of a reservation; `delivery s` is the lower-case
text of an outbox state. -/
inductive TelegramStatus where
  | delivery (state : DeliveryState)
  | skipped
  | blocked
  | failed
  | other (text : String)
  deriving DecidableEq

def TelegramStatus.text : TelegramStatus → String
  | delivery s => PyText.lower s.text
  | skipped => "skipped"
  | blocked => "blocked"
  | failed => "failed"
  | other t => t

/-- A stored price as `canonical_stored_price` reads it: missing, a finite
decimal, or any other text. -/
inductive StoredPrice where
  | na
  | number (value : ℚ)
  | text (value : String)
  deriving DecidableEq

/-- The columns of an event that the ownership checks read. -/
structure EventIdentity where
  canonicalPlanId : String
  eventType : String
  eventKey : String
  symbol : String
  side : String
  normalizedZoneLow : StoredPrice
  normalizedZoneHigh : StoredPrice
  normalizedInvalidation : String
  rawEntryLow : StoredPrice
  rawEntryHigh : StoredPrice
  rawStopLoss : StoredPrice
  runtimeEpochId : Option String
  originLifecycleId : Option String
  originRootEventId : Option ℕ
  canonicalReservationAttemptId : Option ℕ

/-- The columns of an event that the outbox writes. -/
structure EventDelivery where
  status : EventStatus
  deliveryState : DeliveryState
  payloadText : String
  messageHash : String
  destinationChatId : String
  destinationKind : String
  attemptId : Option String
  claimOwner : Option String
  claimedAt : Option Instant
  attemptStartedAt : Option Instant
  leaseExpiresAt : Option Instant
  attemptCount : ℕ
  maxAttempts : ℕ
  nextRetryAt : Option Instant
  failureReason : String
  lastErrorCategory : String
  lastErrorDetail : String
  sentAt : Option Instant
  telegramMessageId : Option String
  telegramChatId : Option String
  partCount : ℕ
  completedAt : Option Instant
  uncertainAt : Option Instant
  updatedAt : Instant

/-- A row of `public_alert_events`. -/
structure Event extends EventIdentity, EventDelivery where
  id : ℕ

/-- The columns of a delivery part fixed when the intent is persisted. -/
structure PartIdentity where
  eventId : ℕ
  eventKey : String
  partIndex : ℕ
  partCount : ℕ
  payloadText : String
  payloadHash : String

/-- The columns of a delivery part that the outbox writes. -/
structure PartDelivery where
  deliveryState : DeliveryState
  attemptId : Option String
  attemptCount : ℕ
  attemptStartedAt : Option Instant
  sentAt : Option Instant
  telegramMessageId : Option String
  telegramChatId : Option String
  httpStatus : Option ℤ
  retryAfter : Option ℤ
  nextRetryAt : Option Instant
  lastErrorCategory : String
  lastErrorDetail : String
  updatedAt : Instant

/-- A row of `public_alert_delivery_parts`. -/
structure Part extends PartIdentity, PartDelivery where
  id : ℕ

/-- The columns of a reservation that the ownership checks read. -/
structure AttemptIdentity where
  symbol : String
  direction : String
  publicWatchlistPlanId : String
  publicWatchlistEventKey : String
  publicAlertEventType : String
  alertType : String
  attemptedAlertType : String
  entryLow : StoredPrice
  entryHigh : StoredPrice
  stopLoss : StoredPrice
  tp1 : StoredPrice
  tp2 : StoredPrice
  tp3 : StoredPrice
  rrPlanned : StoredPrice
  normalizedEntryZoneLow : StoredPrice
  normalizedEntryZoneHigh : StoredPrice
  normalizedInvalidation : String
  scanRunId : Option String

/-- The columns of a reservation that the outbox writes. -/
structure AttemptDelivery where
  telegramStatus : TelegramStatus
  deliveryState : DeliveryState
  deliveryAttemptId : Option String
  deliveryAttemptCount : ℕ
  deliveryNextRetryAt : Option Instant
  deliveryLastErrorCategory : String
  deliveryPartCount : ℕ
  blockedReason : String
  errorMessage : String
  lastErrorMessage : String
  dedupeStatus : String
  lastSeenAt : Option Instant
  sentAt : Option Instant
  telegramMessageId : Option String
  telegramChatId : Option String

/-- A row of `telegram_alert_attempts`. -/
structure Attempt extends AttemptIdentity, AttemptDelivery where
  id : ℕ

/-- A row of `setup_lifecycle_records`, as far as public ownership reads it. -/
structure LifecycleRow where
  lifecycleId : String
  symbol : String
  direction : String
  runtimeEpochId : Option String
  creationOriginId : Option String
  entryLow : StoredPrice
  entryHigh : StoredPrice
  stopLoss : StoredPrice
  tp1 : StoredPrice
  tp2 : StoredPrice
  tp3 : StoredPrice
  rr : StoredPrice

/-- A row of `runtime_operational_origins`. -/
structure OriginRow where
  originId : String
  runtimeEpochId : String
  symbol : String
  runId : String
  status : String

/-- A row of `runtime_operational_runs`. -/
structure RunRow where
  runId : String
  runtimeEpochId : String

structure Authority where
  activeEpochId : Option String
  lifecycles : Table LifecycleRow LifecycleRow.lifecycleId
  origins : Table OriginRow OriginRow.originId
  runs : Table RunRow RunRow.runId

/-- The tables the outbox transactions read and write. -/
structure Database where
  authority : Authority
  events : Table Event Event.id
  parts : Table Part Part.id
  attempts : Table Attempt Attempt.id
  canonicalUnique : ∀ ev ∈ events.rows, ∀ ev' ∈ events.rows,
    ev.canonicalReservationAttemptId = ev'.canonicalReservationAttemptId →
      ev.canonicalReservationAttemptId ≠ none → ev.id = ev'.id
  partIndexUnique : ∀ p ∈ parts.rows, ∀ p' ∈ parts.rows,
    p.eventId = p'.eventId → p.partIndex = p'.partIndex → p.id = p'.id
  partEvent : ∀ p ∈ parts.rows, p.eventId ∈ events.rows.map Event.id

@[simps id toEventIdentity toEventDelivery]
def Event.write (f : EventDelivery → EventDelivery) (ev : Event) : Event :=
  { ev with toEventDelivery := f ev.toEventDelivery }

@[simps id toPartIdentity toPartDelivery]
def Part.write (f : PartDelivery → PartDelivery) (p : Part) : Part :=
  { p with toPartDelivery := f p.toPartDelivery }

/-- Replace the delivery columns of a reservation. -/
@[simps id toAttemptDelivery]
def Attempt.write (f : AttemptDelivery → AttemptDelivery) (a : Attempt) : Attempt :=
  { a with toAttemptDelivery := f a.toAttemptDelivery }

namespace Database

/-- `UPDATE public_alert_events SET … WHERE c`. -/
@[simps parts attempts]
def updateEvents (db : Database) (c : Event → Prop) [DecidablePred c]
    (f : EventDelivery → EventDelivery) : Database where
  authority := db.authority
  events := db.events.update c (Event.write f) (Event.write_id f)
  parts := db.parts
  attempts := db.attempts
  canonicalUnique := by
    intro ev hev ev' hev' hcanonical hsome
    obtain ⟨row, hrow, rfl⟩ := Table.mem_rows_update.1 hev
    obtain ⟨row', hrow', rfl⟩ := Table.mem_rows_update.1 hev'
    have hkeep : ∀ r : Event, (if c r then r.write f else r).toEventIdentity = r.toEventIdentity := by
      intro r
      split <;> rfl
    have hid : ∀ r : Event, (if c r then r.write f else r).id = r.id := by
      intro r
      split <;> rfl
    rw [hkeep, hkeep] at hcanonical
    rw [hkeep] at hsome
    rw [hid, hid]
    exact db.canonicalUnique row hrow row' hrow' hcanonical hsome
  partIndexUnique := db.partIndexUnique
  partEvent := by
    intro p hp
    rw [Table.map_key_update]
    exact db.partEvent p hp

/-- `UPDATE public_alert_delivery_parts SET … WHERE c`. -/
@[simps events attempts]
def updateParts (db : Database) (c : Part → Prop) [DecidablePred c]
    (f : PartDelivery → PartDelivery) : Database where
  authority := db.authority
  events := db.events
  parts := db.parts.update c (Part.write f) (Part.write_id f)
  attempts := db.attempts
  canonicalUnique := db.canonicalUnique
  partIndexUnique := by
    intro p hp p' hp' hevent hindex
    obtain ⟨row, hrow, rfl⟩ := Table.mem_rows_update.1 hp
    obtain ⟨row', hrow', rfl⟩ := Table.mem_rows_update.1 hp'
    have hkeep : ∀ r : Part, (if c r then r.write f else r).toPartIdentity = r.toPartIdentity := by
      intro r
      split <;> rfl
    have hid : ∀ r : Part, (if c r then r.write f else r).id = r.id := by
      intro r
      split <;> rfl
    rw [hkeep, hkeep] at hevent hindex
    rw [hid, hid]
    exact db.partIndexUnique row hrow row' hrow' hevent hindex
  partEvent := by
    intro p hp
    obtain ⟨row, hrow, rfl⟩ := Table.mem_rows_update.1 hp
    have hkeep : (if c row then row.write f else row).eventId = row.eventId := by
      split <;> rfl
    rw [hkeep]
    exact db.partEvent row hrow

/-- `UPDATE telegram_alert_attempts SET … WHERE c`. -/
@[simps events parts]
def updateAttempts (db : Database) (c : Attempt → Prop) [DecidablePred c]
    (f : AttemptDelivery → AttemptDelivery) : Database :=
  { db with attempts := db.attempts.update c (Attempt.write f) (Attempt.write_id f) }

def partsOf (db : Database) (eventId : ℕ) : List Part :=
  db.parts.select (fun p => p.eventId = eventId) fun p q => p.partIndex ≤ q.partIndex

theorem mem_partsOf {db : Database} {eventId : ℕ} {p : Part} :
    p ∈ db.partsOf eventId ↔ p ∈ db.parts.rows ∧ p.eventId = eventId :=
  Table.mem_select

section Reads

variable (db : Database) (c : Event → Prop) [DecidablePred c] (f : EventDelivery → EventDelivery)
  (d : Part → Prop) [DecidablePred d] (g : PartDelivery → PartDelivery)
  (e : Attempt → Prop) [DecidablePred e] (h : AttemptDelivery → AttemptDelivery) (k : ℕ)

@[simp] theorem partsOf_updateEvents : (db.updateEvents c f).partsOf k = db.partsOf k := rfl
@[simp] theorem partsOf_updateAttempts : (db.updateAttempts e h).partsOf k = db.partsOf k := rfl

@[simp]
theorem fetch_updateEvents : (db.updateEvents c f).events.fetch k =
    (db.events.fetch k).map fun ev => if c ev then ev.write f else ev :=
  Table.fetch_update db.events c (Event.write f) (Event.write_id f) k

@[simp]
theorem fetch_updateParts : (db.updateParts d g).parts.fetch k =
    (db.parts.fetch k).map fun p => if d p then p.write g else p :=
  Table.fetch_update db.parts d (Part.write g) (Part.write_id g) k

@[simp]
theorem fetch_updateAttempts : (db.updateAttempts e h).attempts.fetch k =
    (db.attempts.fetch k).map fun a => if e a then a.write h else a :=
  Table.fetch_update db.attempts e (Attempt.write h) (Attempt.write_id h) k

@[simp]
theorem partsOf_updateParts : (db.updateParts d g).partsOf k =
    (db.partsOf k).map fun p => if d p then p.write g else p :=
  Table.select_update (Part.write_id g) _ _ (fun _ => Iff.rfl) (fun _ _ => Iff.rfl)
    (fun _ _ => Iff.rfl)

end Reads

/-- `INSERT OR IGNORE INTO public_alert_delivery_parts`: a row with the same event
and index is left as it is. The event exists when the outbox inserts parts. -/
def insertPart (db : Database) (identity : PartIdentity) (delivery : PartDelivery) : Database :=
  if h : (∃ p ∈ db.parts.rows, p.eventId = identity.eventId ∧
      p.partIndex = identity.partIndex) ∨ identity.eventId ∉ db.events.rows.map Event.id then
    db
  else
    { db with
      parts := db.parts.insert
        { toPartIdentity := identity, toPartDelivery := delivery, id := db.parts.nextKey }
        db.parts.nextKey_notMem
      partIndexUnique := by
        intro p hp p' hp' hevent hindex
        rcases List.mem_append.1 hp with hp | hp <;> rcases List.mem_append.1 hp' with hp' | hp'
        · exact db.partIndexUnique p hp p' hp' hevent hindex
        · rw [List.mem_singleton] at hp'
          subst hp'
          exact absurd (Or.inl ⟨p, hp, hevent, hindex⟩) h
        · rw [List.mem_singleton] at hp
          subst hp
          exact absurd (Or.inl ⟨p', hp', hevent.symm, hindex.symm⟩) h
        · rw [List.mem_singleton] at hp hp'
          rw [hp, hp']
      partEvent := by
        intro p hp
        rcases List.mem_append.1 hp with hp | hp
        · exact db.partEvent p hp
        · rw [List.mem_singleton] at hp
          subst hp
          exact not_not.1 fun hevent => h (Or.inr hevent) }

end Database

end CandleCraft.Outbox
