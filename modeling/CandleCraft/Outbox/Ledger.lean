import CandleCraft.Outbox.Operations

/-!
# The delivery ledger of one event

The outbox is a state machine per public event: the event row, its canonical reservation and its
parts. `Database.ledger` cuts that slice out of the database, and `Ledger.Step` says everything a
transaction can do to it, guards included. `Simulation.lean` proves that every transaction takes
such a step on every event.
-/

namespace CandleCraft.Outbox

open Relational PyText

structure Ledger where
  event : Event
  reservation : Option Attempt
  parts : List Part

def Database.ledger (db : Database) (eventId : ℕ) : Option Ledger :=
  (db.events.fetch eventId).map fun ev =>
    ⟨ev, ev.canonicalReservationAttemptId.bind db.attempts.fetch, db.partsOf eventId⟩

namespace Ledger

@[simps]
def writeEvent (f : EventDelivery → EventDelivery) (ℓ : Ledger) : Ledger :=
  { ℓ with event := ℓ.event.write f }

@[simps]
def writeReservation (f : AttemptDelivery → AttemptDelivery) (ℓ : Ledger) : Ledger :=
  { ℓ with reservation := ℓ.reservation.map (Attempt.write f) }

@[simps]
def writeParts (c : Part → Prop) [DecidablePred c] (f : PartDelivery → PartDelivery)
    (ℓ : Ledger) : Ledger :=
  { ℓ with parts := ℓ.parts.map fun p => if c p then p.write f else p }

/-- `_mark_event_locked` on the ledger. -/
def mark (state : DeliveryState) (category detail : String) (now : Instant)
    (nextRetryAt : Option Instant) (ℓ : Ledger) : Ledger :=
  (ℓ.writeEvent (EventDelivery.mark state category detail now nextRetryAt)).writeReservation
    (AttemptDelivery.mark state category detail now nextRetryAt)

def recover (now : Instant) (ℓ : Ledger) : Ledger :=
  ((ℓ.writeEvent (EventDelivery.recoverStale now)).writeParts
    (fun p => p.deliveryState = .inFlight) (PartDelivery.recoverStale now)).writeReservation
    AttemptDelivery.recoverStale

def grant (req : ClaimRequest) (ℓ : Ledger) : Ledger :=
  (ℓ.writeEvent (EventDelivery.claimFor req)).writeReservation (AttemptDelivery.claimFor req)

def hand (partId : ℕ) (attemptId : String) (now : Instant) (ℓ : Ledger) : Ledger :=
  ℓ.writeParts (Transmittable partId) (PartDelivery.markInFlight attemptId now)

def settle (partId : ℕ) (attemptId : String) (s : Settlement) (now : Instant) (ℓ : Ledger) :
    Ledger :=
  ℓ.writeParts (InFlightUnder partId attemptId) (PartDelivery.record s now)

/-- `_finalize_sent_locked` on the ledger. -/
def finalize (now : Instant) (ℓ : Ledger) : Ledger :=
  let sentAt := (ℓ.parts.filterMap (·.sentAt)).max?.getD now
  let messageId := Database.messageIdSummary ℓ.parts
  let chatId := ((ℓ.parts.filterMap (·.telegramChatId)).filter (· ≠ "")).head?
  (ℓ.writeEvent (EventDelivery.finalizeSent sentAt now messageId chatId)).writeReservation
    (AttemptDelivery.finalizeSent sentAt now messageId chatId)

def terminate (req : NoSendRequest) (terminal : DeliveryState) (ℓ : Ledger) : Ledger :=
  ((ℓ.writeEvent (EventDelivery.close terminal)).writeParts
    (fun p => p.deliveryState.AutoClaimable)
    (PartDelivery.terminate terminal req.reason req.now)).mark terminal req.reason req.reason
    req.now none

section Assignments

variable (ℓ : Ledger) (state : DeliveryState) (category detail : String) (now : Instant)
  (nextRetryAt : Option Instant) (req : ClaimRequest) (partId : ℕ) (attemptId : String)
  (s : Settlement)

@[simp] theorem mark_parts : (ℓ.mark state category detail now nextRetryAt).parts = ℓ.parts := rfl
@[simp] theorem mark_event : (ℓ.mark state category detail now nextRetryAt).event =
    ℓ.event.write (EventDelivery.mark state category detail now nextRetryAt) := rfl
@[simp] theorem grant_parts : (ℓ.grant req).parts = ℓ.parts := rfl
@[simp] theorem grant_event :
    (ℓ.grant req).event = ℓ.event.write (EventDelivery.claimFor req) := rfl
@[simp] theorem recover_event :
    (ℓ.recover now).event = ℓ.event.write (EventDelivery.recoverStale now) := rfl
@[simp] theorem hand_event : (ℓ.hand partId attemptId now).event = ℓ.event := rfl
@[simp] theorem settle_event : (ℓ.settle partId attemptId s now).event = ℓ.event := rfl
@[simp] theorem finalize_parts : (ℓ.finalize now).parts = ℓ.parts := rfl
@[simp] theorem terminate_parts (req : NoSendRequest) : (ℓ.terminate req state).parts =
    ℓ.parts.map fun p => if p.deliveryState.AutoClaimable then
      p.write (PartDelivery.terminate state req.reason req.now) else p := rfl
@[simp] theorem terminate_event (req : NoSendRequest) : (ℓ.terminate req state).event =
    (ℓ.event.write (EventDelivery.close state)).write
      (EventDelivery.mark state req.reason req.reason req.now none) := rfl

end Assignments

/-- What one transaction does to the ledger of event `eventId`. -/
inductive Step (eventId : ℕ) (ℓ : Ledger) : Operation → Ledger → Prop
  /-- The transaction was refused, raised, or is about another event. -/
  | idle (op : Operation) : Step eventId ℓ op ℓ
  | recover {now : Instant} (hstate : ℓ.event.deliveryState = .inFlight)
      (hlease : Elapsed ℓ.event.leaseExpiresAt now) :
      Step eventId ℓ (.recoverStaleInFlight eventId now) (ℓ.recover now)
  /-- A claim that finds a stale attempt recovers it and grants nothing. -/
  | claimRecover {req : ClaimRequest} (hid : req.eventId = eventId)
      (hstate : ℓ.event.deliveryState = .inFlight)
      (hlease : Elapsed ℓ.event.leaseExpiresAt req.now) :
      Step eventId ℓ (.claim req) (ℓ.recover req.now)
  | exhaust {req : ClaimRequest} (hid : req.eventId = eventId)
      (hstate : ℓ.event.deliveryState.normalize.AutoClaimable)
      (hlimit : ℓ.event.claimLimit ≤ ℓ.event.attemptCount) :
      Step eventId ℓ (.claim req) (ℓ.mark .failedFinal "retry_limit_exhausted"
        "Telegram delivery retry limit exhausted." req.now none)
  | grant {req : ClaimRequest} (hclaim : ClaimableNow req ℓ.event) (hid : req.eventId = eventId)
      (hlimit : ℓ.event.attemptCount < ℓ.event.claimLimit)
      (hparts : ∃ p ∈ ℓ.parts, p.deliveryState.AutoClaimable) :
      Step eventId ℓ (.claim req) (ℓ.grant req)
  /-- A claim that finds every part already sent completes the event. -/
  | grantSent {req : ClaimRequest} (hclaim : ClaimableNow req ℓ.event)
      (hid : req.eventId = eventId) (hlimit : ℓ.event.attemptCount < ℓ.event.claimLimit)
      (hparts : ℓ.parts ≠ []) (hsent : ∀ p ∈ ℓ.parts, p.deliveryState.normalize = .sent) :
      Step eventId ℓ (.claim req) ((ℓ.grant req).finalize req.now)
  | grantEmpty {req : ClaimRequest} (hclaim : ClaimableNow req ℓ.event)
      (hid : req.eventId = eventId) (hlimit : ℓ.event.attemptCount < ℓ.event.claimLimit)
      (hparts : ∀ p ∈ ℓ.parts, ¬ p.deliveryState.AutoClaimable) :
      Step eventId ℓ (.claim req) ((ℓ.grant req).mark .failedFinal "outbox_parts_missing"
        "Committed Telegram intent has no delivery parts." req.now none)
  /-- No condition on the event's own state: only its attempt id is compared. -/
  | hand {partId attemptId now}
      (hclaim : Ownership.optionalText ℓ.event.attemptId = some (strip attemptId))
      (hpart : ∃ p ∈ ℓ.parts, Transmittable partId p) :
      Step eventId ℓ (.markPartInFlight partId attemptId now) (ℓ.hand partId attemptId now)
  /-- A result for a part that is not in flight under the attempt. -/
  | conflict {reservationId partId attemptId result now} (hclaim : ℓ.event.attemptId = some attemptId)
      (hpart : ∀ p ∈ ℓ.parts, ¬ InFlightUnder partId attemptId p) :
      Step eventId ℓ (.recordPartResult eventId reservationId partId attemptId result now)
        (ℓ.mark .uncertain "part_result_persistence_conflict"
          "Telegram part result could not be matched to the active attempt." now none)
  /-- A result other than a success closes the attempt. -/
  | settle {reservationId partId attemptId result now s} (hs : s = (result.settle now).schedule ℓ.event now)
      (hclaim : ℓ.event.attemptId = some attemptId)
      (hpart : ∃ p ∈ ℓ.parts, InFlightUnder partId attemptId p) (hstate : s.state ≠ .sent) :
      Step eventId ℓ (.recordPartResult eventId reservationId partId attemptId result now)
        ((ℓ.settle partId attemptId s now).mark s.state s.category s.detail now s.nextRetryAt)
  /-- A success with parts still to send leaves the event as it is. -/
  | settleSent {reservationId partId attemptId result now s} (hs : s = (result.settle now).schedule ℓ.event now)
      (hclaim : ℓ.event.attemptId = some attemptId)
      (hpart : ∃ p ∈ ℓ.parts, InFlightUnder partId attemptId p) (hstate : s.state = .sent)
      (hrest : ∃ p ∈ (ℓ.settle partId attemptId s now).parts, p.deliveryState ≠ .sent) :
      Step eventId ℓ (.recordPartResult eventId reservationId partId attemptId result now)
        (ℓ.settle partId attemptId s now)
  /-- The success of the last part completes the event. -/
  | finalize {reservationId partId attemptId result now s} (hs : s = (result.settle now).schedule ℓ.event now)
      (hclaim : ℓ.event.attemptId = some attemptId)
      (hpart : ∃ p ∈ ℓ.parts, InFlightUnder partId attemptId p) (hstate : s.state = .sent)
      (hall : ∀ p ∈ (ℓ.settle partId attemptId s now).parts, p.deliveryState = .sent) :
      Step eventId ℓ (.recordPartResult eventId reservationId partId attemptId result now)
        ((ℓ.settle partId attemptId s now).finalize now)
  | terminate {req : NoSendRequest} {reservation : Attempt} (hid : req.eventId = eventId)
      (hterminal : NoSendTerminal (DeliveryState.ofText (some req.state)))
      (hexpected : req.expectedState.AutoClaimable) (hres : ℓ.reservation = some reservation)
      (hsnapshot : NoSendSnapshotMatches req ℓ.event reservation ℓ.parts) :
      Step eventId ℓ (.markTerminalWithoutSend req)
        (ℓ.terminate req (DeliveryState.ofText (some req.state)))
  /-- The fallback after a failed write is not guarded by the event's state. -/
  | fallback {reservationId : ℕ} {detail : String} {now : Instant} :
      Step eventId ℓ (.markUncertainAfterPersistenceFailure eventId reservationId detail now)
        (ℓ.mark .uncertain "sent_persistence_failed" detail now none)

inductive TerminalStep (eventId : ℕ) (ℓ : Ledger) : Operation → Ledger → Prop
  | same {op : Operation} : TerminalStep eventId ℓ op ℓ
  | hand {partId attemptId now}
      (hclaim : Ownership.optionalText ℓ.event.attemptId = some (strip attemptId))
      (hpart : ∃ p ∈ ℓ.parts, Transmittable partId p) :
      TerminalStep eventId ℓ (.markPartInFlight partId attemptId now)
        (ℓ.hand partId attemptId now)
  /-- A late result of a part that is still in flight. -/
  | late {reservationId partId attemptId result now ℓ'} (hclaim : ℓ.event.attemptId = some attemptId)
      (hpart : ∃ p ∈ ℓ.parts, InFlightUnder partId attemptId p) :
      TerminalStep eventId ℓ (.recordPartResult eventId reservationId partId attemptId result now)
        ℓ'
  | conflict {reservationId partId attemptId result now category detail}
      (hclaim : ℓ.event.attemptId = some attemptId) :
      TerminalStep eventId ℓ (.recordPartResult eventId reservationId partId attemptId result now)
        (ℓ.mark .uncertain category detail now none)
  | fallback {reservationId : ℕ} {category detail : String} {now : Instant} :
      TerminalStep eventId ℓ
        (.markUncertainAfterPersistenceFailure eventId reservationId detail now)
        (ℓ.mark .uncertain category detail now none)

variable {op : Operation}

theorem Step.of_terminal {eventId : ℕ} {ℓ ℓ' : Ledger}
    (h : Step eventId ℓ op ℓ') (hterminal : ℓ.event.deliveryState.Terminal) :
    TerminalStep eventId ℓ op ℓ' := by
  have hclaimable := hterminal.not_claimable
  cases h with
  | idle => exact .same
  | recover hstate | claimRecover hid hstate => exact absurd hstate hterminal.ne_inFlight
  | exhaust hid hstate => exact absurd (hterminal.normalize_eq ▸ hstate) hclaimable
  | grant hclaim | grantSent hclaim | grantEmpty hclaim => exact absurd hclaim.2.1 hclaimable
  | hand hclaim hpart => exact .hand hclaim hpart
  | conflict hclaim => exact .conflict hclaim
  | settle hs hclaim hpart | settleSent hs hclaim hpart | finalize hs hclaim hpart =>
    exact .late hclaim hpart
  | terminate hid hno hexpected hres hsnapshot =>
    exact absurd (hsnapshot.1.1 ▸ hexpected) hclaimable
  | fallback => exact .fallback

inductive PartStep (ev : Event) (op : Operation) (p : Part) : Part → Prop
  | same : PartStep ev op p p
  | recover {now : Instant} (hstate : p.deliveryState = .inFlight) :
      PartStep ev op p (p.write (PartDelivery.recoverStale now))
  | hand {attemptId : String} {now : Instant}
      (hop : op = .markPartInFlight p.id attemptId now) (hstate : p.deliveryState.AutoClaimable) :
      PartStep ev op p (p.write (PartDelivery.markInFlight attemptId now))
  | record {eventId reservationId : ℕ} {attemptId : String} {result : PartResult} {now : Instant}
      {s : Settlement}
      (hop : op = .recordPartResult eventId reservationId p.id attemptId result now)
      (hs : s = (result.settle now).schedule ev now) (hstate : p.deliveryState = .inFlight) :
      PartStep ev op p (p.write (PartDelivery.record s now))
  | terminate {terminal : DeliveryState} {reason : String} {now : Instant}
      (hterminal : NoSendTerminal terminal) (hstate : p.deliveryState.AutoClaimable) :
      PartStep ev op p (p.write (PartDelivery.terminate terminal reason now))

/-- A ledger step acts on the parts one by one. -/
theorem Step.partStep {eventId : ℕ} {ℓ ℓ' : Ledger} (h : Step eventId ℓ op ℓ') :
    ∃ f : Part → Part, ℓ'.parts = ℓ.parts.map f ∧ ∀ p ∈ ℓ.parts, PartStep ℓ.event op p (f p) := by
  have hidle : ∃ f : Part → Part, ℓ.parts = ℓ.parts.map f ∧
      ∀ p ∈ ℓ.parts, PartStep ℓ.event op p (f p) :=
    ⟨id, (List.map_id _).symm, fun p _ => .same⟩
  have hrecover : ∀ now : Instant, ∃ f : Part → Part, (ℓ.recover now).parts = ℓ.parts.map f ∧
      ∀ p ∈ ℓ.parts, PartStep ℓ.event op p (f p) := by
    intro now
    refine ⟨_, rfl, fun p _ => ?_⟩
    split
    · next hstate => exact .recover hstate
    · exact .same
  have hsettle : ∀ {e r partId : ℕ} {attemptId : String} {result : PartResult} {now : Instant}
      {s : Settlement}, op = .recordPartResult e r partId attemptId result now →
      s = (result.settle now).schedule ℓ.event now →
      ∃ f : Part → Part, (ℓ.settle partId attemptId s now).parts = ℓ.parts.map f ∧
        ∀ p ∈ ℓ.parts, PartStep ℓ.event op p (f p) := by
    intro e r partId attemptId result now s hop hs
    refine ⟨_, rfl, fun p _ => ?_⟩
    split
    · next hflight =>
      obtain ⟨rfl, hstate, -⟩ := hflight
      exact .record hop hs hstate
    · exact .same
  cases h with
  | idle | exhaust | grant | grantSent | grantEmpty | conflict | fallback =>
    simpa only [mark_parts, grant_parts, finalize_parts] using hidle
  | recover | claimRecover => exact hrecover _
  | hand hclaim hpart =>
    refine ⟨_, rfl, fun p _ => ?_⟩
    split
    · next htrans =>
      obtain ⟨rfl, hstate⟩ := htrans
      exact .hand rfl hstate
    · exact .same
  | settle hs | settleSent hs | finalize hs =>
    simpa only [mark_parts, finalize_parts] using hsettle rfl hs
  | terminate hid hterminal =>
    refine ⟨_, terminate_parts _ _ _, fun p _ => ?_⟩
    split
    · next hstate => exact .terminate hterminal hstate
    · exact .same

variable {ev : Event} {p p' : Part}

@[simp]
theorem PartStep.id_eq (h : PartStep ev op p p') : p'.id = p.id := by
  cases h <;> rfl

theorem PartStep.eventId_eq (h : PartStep ev op p p') : p'.eventId = p.eventId := by
  cases h <;> rfl

theorem PartStep.eq_self (h : PartStep ev op p p')
    (hclaimable : ¬ p.deliveryState.AutoClaimable) (hflight : p.deliveryState ≠ .inFlight) :
    p' = p := by
  cases h with
  | same => rfl
  | recover hstate => exact absurd hstate hflight
  | hand hop hstate => exact absurd hstate hclaimable
  | record hop hs hstate => exact absurd hstate hflight
  | terminate hterminal hstate => exact absurd hstate hclaimable

theorem PartStep.of_claimable (h : PartStep ev op p p') (hbefore : ¬ p.deliveryState.AutoClaimable)
    (hafter : p'.deliveryState.AutoClaimable) :
    (∃ e r a result now, op = .recordPartResult e r p.id a result now) ∧
      p.deliveryState = .inFlight ∧ p'.deliveryState = .retryable := by
  cases h with
  | same => exact absurd hafter hbefore
  | recover => exact absurd hafter (show ¬ DeliveryState.uncertain.AutoClaimable by decide)
  | hand _ hstate | terminate _ hstate => exact absurd hstate hbefore
  | @record e r a result now s hop hs hstate =>
    refine ⟨⟨e, r, a, result, now, hop⟩, hstate, ?_⟩
    have hresult : ResultState s.state :=
      hs ▸ Settlement.resultState_schedule ev now (result.resultState_settle now)
    have hafter' : s.state.AutoClaimable := hafter
    rcases hresult with h | h | h | h
    · exact absurd (h ▸ hafter') (by decide)
    · exact h
    · exact absurd (h ▸ hafter') (by decide)
    · exact absurd (h ▸ hafter') (by decide)

end Ledger

end CandleCraft.Outbox
