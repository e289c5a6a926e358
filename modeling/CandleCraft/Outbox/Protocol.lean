import CandleCraft.Outbox.Intent

/-!
# Persisting a transport outcome

`stage_3_outbox_persistence` writes the outcome of one transmitted part and reads the rows back
before it issues a durable receipt. Other writers may commit between any two of its statements: a
`Schedule` says what they do at each point and which statements fail.

`record_part_result` declines silently when the event is no longer owned. On an `IN_FLIGHT` event
this looks like the success of one part of several, and the verification accepts it.
-/

namespace CandleCraft.Outbox

open Relational PyText Ownership

/-! ## Transport outcomes -/

/-- `TelegramTransportOutcome`; `retryAfter` is in microseconds. -/
structure TransportOutcome where
  deliveryState : String
  httpStatus : Option ℤ := none
  telegramMessageId : Option String := none
  telegramChatId : Option String := none
  sentAt : Option Instant := none
  errorCategory : Option String := none
  error : Option String := none
  rateLimited : Bool := false
  retryAfter : Option ℤ := none

inductive RawOutcome where
  | malformed (typeName : String)
  | outcome (o : TransportOutcome)

/-- The `SENT` branch of `normalize_transport_outcome`: an acknowledgment counts only
with a message id, status 200 and no contradicting evidence. -/
def TransportOutcome.normalizeSent (o : TransportOutcome) : TransportOutcome :=
  let msgId := strip (o.telegramMessageId.getD "")
  let uncertain (messageId : Option String) (category error : String) : TransportOutcome :=
    { deliveryState := "UNCERTAIN"
      httpStatus := o.httpStatus
      telegramMessageId := messageId
      telegramChatId := o.telegramChatId
      sentAt := o.sentAt
      errorCategory := some category
      error := some error }
  if msgId = "" ∨ msgId = NA ∨ msgId = "None" ∨ msgId = "0" then
    uncertain none "confirmed_success_missing_message_id"
      "Telegram success response omitted a valid message ID; acceptance is uncertain."
  else
    match o.httpStatus with
    | none => uncertain (some msgId) "missing_success_http_status"
        "Telegram success response omitted HTTP status; acceptance is uncertain."
    | some status =>
      if status ≠ 200 then
        uncertain (some msgId) "contradictory_success_http_status"
          ("Transport claimed SENT with non-200 HTTP status: " ++ toString status)
      else if ¬ (o.error.getD "" = "" ∨ o.error = some NA) then
        uncertain (some msgId) "contradictory_success_error"
          ("Transport claimed SENT but reported error: " ++ o.error.getD "")
      else if o.rateLimited then
        uncertain (some msgId) "contradictory_success_rate_limited"
          "Transport claimed SENT while marked rate_limited"
      else o

/-- The `RETRYABLE` branch: a gateway error may hide an accepted message. -/
def TransportOutcome.normalizeRetryable (o : TransportOutcome) : TransportOutcome :=
  match o.httpStatus with
  | none => o
  | some status =>
    if 500 ≤ status ∧ status ≤ 599 then
      { deliveryState := "UNCERTAIN"
        httpStatus := some status
        telegramChatId := o.telegramChatId
        sentAt := o.sentAt
        errorCategory := some "http_5xx_uncertain_acceptance"
        error := some (if o.error.getD "" = "" then
          "Telegram gateway returned HTTP " ++ toString status ++ "; acceptance is uncertain"
          else o.error.getD "")
        retryAfter := o.retryAfter }
    else o

def normalizeTransportOutcome : RawOutcome → TransportOutcome
  | .malformed typeName =>
    { deliveryState := "UNCERTAIN"
      errorCategory := some "malformed_transport_outcome"
      error := some ("Transport returned unexpected type: " ++ typeName) }
  | .outcome o =>
    match upper (strip o.deliveryState) with
    | "SENT" => o.normalizeSent
    | "RETRYABLE" => o.normalizeRetryable
    | "UNCERTAIN" => o
    | "FAILED_FINAL" => o
    | _ =>
      { deliveryState := "UNCERTAIN"
        errorCategory := some "unknown_delivery_state"
        error := some ("Unrecognized transport state: " ++ o.deliveryState) }

/-- The mapping stage 3 passes to `record_part_result`. -/
def TransportOutcome.payload (o : TransportOutcome) (now : Instant) : PartResult where
  deliveryState := some o.deliveryState
  status := none
  errorCategory := o.errorCategory
  error := o.error
  httpStatus := o.httpStatus
  retryAfter := o.retryAfter
  messageId := o.telegramMessageId
  chatId := o.telegramChatId
  sentAt := o.sentAt.or (some now)

/-- The part state an outcome implies for an event: the state it reports, unless the
event has no attempt left to retry. -/
def TransportOutcome.impliedState (o : TransportOutcome) (ev : Event) (now : Instant) :
    DeliveryState :=
  (((o.payload now).settle now).schedule ev now).state

/-! ## Stage 3 -/

/-- The fields of `CommittedPartReservationReceipt` that stage 3 reads. -/
structure Receipt where
  eventId : ℕ
  reservationId : ℕ
  partId : ℕ
  attemptId : String

/-- `DurableDeliveryReceipt`. -/
structure DurableReceipt where
  eventId : ℕ
  reservationId : ℕ
  partId : ℕ
  attemptId : String
  deliveryState : DeliveryState
  telegramMessageId : Option String
  persistedAt : Instant
  allPartsSent : Bool
  deriving DecidableEq

structure SqliteError where
  typeName : String
  text : String
  deriving DecidableEq

inductive ProtocolError where
  | runtimeEpoch (err : RuntimeEpochError)
  | superseded (message : String)
  | commitFailure (message : String)
  | outbox (err : OutboxError)
  | sqlite (err : SqliteError)
  deriving DecidableEq

inductive Point where
  | opening
  | reservation
  | canonical
  | part
  | eventRow
  | partRow
  | record
  | fallback
  | check
  | update
  | verifyEvent
  | verifyPart
  | verifyParts
  | returning
  deriving DecidableEq

/-- What other writers commit right before each statement, and the statements that
raise an `sqlite3.Error`. The fallback reads the clock itself. -/
structure Schedule where
  writers : Point → Database → Database
  fails : Point → Option SqliteError
  fallbackNow : Instant

/-- `str(row["delivery_state"] or "").strip().upper()`. -/
def DeliveryState.reread : DeliveryState → DeliveryState
  | other t => if strip t = "" then other "" else ofText (some t)
  | s => s

/-- The result of stage 3 and the database at its return. -/
abbrev Persisted := Except ProtocolError DurableReceipt × Database

section Stage

variable (s : Schedule) (receipt : Receipt)

def Schedule.statement {α : Type} (p : Point) (f : Database → Except ProtocolError α)
    (next : α → Database → Persisted) (before : Database) : Persisted :=
  let db := s.writers p before
  match s.fails p with
  | some err => (.error (.sqlite err), db)
  | none =>
    match f db with
    | .error err => (.error err, db)
    | .ok a => next a db

/-- An ownership check outside of a transaction. -/
def orRaise {α : Type} : Except RuntimeEpochError α → Except ProtocolError α
  | .error err => .error (.runtimeEpoch err)
  | .ok a => .ok a

def Receipt.checkEventRow (db : Database) : Except ProtocolError Unit :=
  match db.events.fetch receipt.eventId with
  | none => .error (.superseded "event_not_found_at_persistence")
  | some ev =>
    if ev.attemptId.getD "" ≠ receipt.attemptId then
      .error (.superseded ("claim_superseded: event_attempt=" ++ ev.attemptId.getD "None" ++
        " != receipt=" ++ receipt.attemptId))
    else .ok ()

def Receipt.checkPartRow (db : Database) : Except ProtocolError Unit :=
  match db.parts.fetch receipt.partId with
  | none => .error (.superseded "part_not_found_at_persistence")
  | some p =>
    if p.attemptId.getD "" ≠ receipt.attemptId then
      .error (.superseded ("part_claim_superseded: part_attempt=" ++ p.attemptId.getD "None" ++
        " != receipt=" ++ receipt.attemptId))
    else .ok ()

/-- The rows of the part the fallback overwrites, whatever their state. -/
def Receipt.OwnPart (p : Part) : Prop :=
  p.id = receipt.partId ∧ p.attemptId = some receipt.attemptId

instance : DecidablePred receipt.OwnPart := fun _ => inferInstanceAs (Decidable (_ ∧ _))

def PartDelivery.giveUp (now : Instant) (d : PartDelivery) : PartDelivery :=
  { d with deliveryState := .uncertain, updatedAt := now }

def fallbackFailure (typeName : String) : ProtocolError :=
  .commitFailure
    ("Failed to record transport result or uncertainty fallback: " ++ typeName)

/-- The handler of an `sqlite3.Error` while the result is recorded. -/
def Schedule.fallback (now : Instant) (err : SqliteError)
    (next : DeliveryState → Database → Persisted) (before : Database) : Persisted :=
  let db := s.writers .fallback before
  -- the fallback transaction swallows its own `sqlite3.Error`
  let marked := if (s.fails .fallback).isSome then (.ok (), db)
    else markUncertainAfterPersistenceFailure receipt.eventId receipt.reservationId
      ("Persistence error: " ++ err.typeName ++ ": " ++ err.text) s.fallbackNow db
  match marked.1 with
  | .error _ => (.error (fallbackFailure "RuntimeEpochConfigurationError"), marked.2)
  | .ok () =>
    let checked := s.writers .check marked.2
    match s.fails .check with
    | some err => (.error (fallbackFailure err.typeName), checked)
    | none =>
      let uncertain := (checked.events.fetch receipt.eventId).map (·.deliveryState.reread) =
        some .uncertain
      let db := s.writers .update checked
      match s.fails .update with
      | some err => (.error (fallbackFailure err.typeName), db)
      | none =>
        next .uncertain
          (if uncertain then db.updateParts receipt.OwnPart (PartDelivery.giveUp now) else db)

def Schedule.record (outcome : TransportOutcome) (now : Instant)
    (next : DeliveryState → Database → Persisted) (before : Database) : Persisted :=
  let db := s.writers .record before
  match s.fails .record with
  | some err => s.fallback receipt now err next db
  | none =>
    match recordPartResult receipt.eventId receipt.reservationId receipt.partId receipt.attemptId
      (outcome.payload now) now db with
    | (.ok state, recorded) => next state recorded
    | (.error (.integrity message), db) =>
      s.fallback receipt now ⟨"IntegrityError", message⟩ next db
    | (.error err, db) => (.error (.outbox err), db)

def Receipt.verifyEvent (db : Database) : Except ProtocolError DeliveryState :=
  match db.events.fetch receipt.eventId with
  | none => .error (.commitFailure
      ("Event " ++ toString receipt.eventId ++ " missing after persistence commit"))
  | some ev =>
    if ev.canonicalReservationAttemptId ≠ some receipt.reservationId then
      .error (.commitFailure "Reservation ID mismatch after persistence commit")
    else .ok ev.deliveryState.reread

def Receipt.verifyPart (db : Database) : Except ProtocolError DeliveryState :=
  match db.parts.fetch receipt.partId with
  | none => .error (.commitFailure
      ("Part " ++ toString receipt.partId ++ " missing after persistence commit"))
  | some p =>
    if p.eventId ≠ receipt.eventId then
      .error (.commitFailure "Part event association mismatch after persistence commit")
    else if p.attemptId.getD "" ≠ receipt.attemptId then
      .error (.commitFailure "Part attempt ID mismatch after persistence commit")
    else .ok p.deliveryState.reread

/-- The committed-state proof: the returned state against the rows read back. -/
def Receipt.proveCommitted (state actualEvent actualPart : DeliveryState) (allSent : Bool) :
    Except ProtocolError Unit :=
  let mismatch : Except ProtocolError Unit :=
    if state = .sent then
      if actualPart ≠ .sent then
        .error (.commitFailure ("Part " ++ toString receipt.partId ++ " delivery_state=" ++
          actualPart.text ++ " does not match expected SENT"))
      else if allSent ∧ actualEvent ≠ .sent then
        .error (.commitFailure ("All parts sent but event " ++ toString receipt.eventId ++
          " delivery_state=" ++ actualEvent.text ++ " != SENT"))
      else if ¬ allSent ∧ actualEvent ≠ .inFlight then
        .error (.commitFailure ("Multipart partial send: event " ++ toString receipt.eventId ++
          " delivery_state=" ++ actualEvent.text ++ " != IN_FLIGHT"))
      else .ok ()
    else if state = .uncertain then
      if actualEvent ≠ .uncertain ∨ actualPart ≠ .uncertain then
        .error (.commitFailure ("Event " ++ toString receipt.eventId ++ " remained in state " ++
          actualEvent.text ++ " (part state=" ++ actualPart.text ++
          ") after fallback to UNCERTAIN"))
      else .ok ()
    else if state = .retryable ∨ state = .failedFinal then
      if ¬ (actualPart = .retryable ∨ actualPart = .failedFinal) then
        .error (.commitFailure ("Part " ++ toString receipt.partId ++ " state " ++
          actualPart.text ++ " does not match outcome " ++ state.text))
      else .ok ()
    else .ok ()
  match mismatch with
  | .error err => .error err
  | .ok () =>
    if actualPart = .inFlight ∧ state ≠ .inFlight then
      .error (.commitFailure ("Part " ++ toString receipt.partId ++
        " remained IN_FLIGHT after attempted persistence to " ++ state.text))
    else .ok ()

/-- From the recorded state to the receipt: read the rows back and compare. -/
def Schedule.verify (outcome : TransportOutcome) (now : Instant) (state : DeliveryState) :
    Database → Persisted :=
  s.statement .verifyEvent receipt.verifyEvent fun actualEvent =>
    s.statement .verifyPart receipt.verifyPart fun actualPart =>
      s.statement .verifyParts (fun db => .ok (db.listOutboxParts receipt.eventId)) fun parts db =>
        let allSent := ¬ parts.isEmpty ∧ ∀ p ∈ parts, p.deliveryState = .sent
        match receipt.proveCommitted state actualEvent actualPart (decide allSent) with
        | .error err => (.error err, s.writers .returning db)
        | .ok () =>
          (.ok
            { eventId := receipt.eventId
              reservationId := receipt.reservationId
              partId := receipt.partId
              attemptId := receipt.attemptId
              deliveryState := state
              telegramMessageId := outcome.telegramMessageId
              persistedAt := now
              allPartsSent := decide allSent }, s.writers .returning db)

def stage3OutboxPersistence (outcome : TransportOutcome) (now : Instant) : Database → Persisted :=
  s.statement .opening (fun db => orRaise (requireActiveRuntimeEpoch db)) fun _ =>
    s.statement .reservation (fun db => orRaise
        (requireEventReservationAssociation db receipt.eventId receipt.reservationId)) fun _ =>
      s.statement .canonical (fun db => orRaise
          (requireCanonicalReservationForPublicEffect db receipt.eventId)) fun _ =>
        s.statement .part (fun db => orRaise
            (requireEventPartAssociation db receipt.eventId receipt.partId)) fun _ =>
          s.statement .eventRow receipt.checkEventRow fun _ =>
            s.statement .partRow receipt.checkPartRow fun _ =>
              s.record receipt outcome now (s.verify receipt outcome now)

end Stage

/-- The fields of `TelegramDeliveryProtocolResult` that depend on stage 3. -/
structure ProtocolResult where
  status : String
  durableReceipt : Option DurableReceipt
  detail : String

/-- What `deliver_single_reserved_part` reports of stage 3: an error of any kind is
unresolved persistence. -/
def reportPersistence : Except ProtocolError DurableReceipt → ProtocolResult
  | .ok r => ⟨lower r.deliveryState.text, some r,
      "Telegram outbox protocol completed in state " ++ r.deliveryState.text⟩
  | .error (.commitFailure _) => ⟨"unresolved_persistence", none,
      "Database commit failed after HTTP transmission; durable receipt could not be confirmed"⟩
  | .error _ => ⟨"unresolved_persistence", none,
      "Persistence worker failure after HTTP transmission"⟩

/-- The end of `deliver_single_reserved_part`: normalize what the transport returned,
persist it, report. -/
def deliverOutcome (s : Schedule) (receipt : Receipt) (raw : RawOutcome) (now : Instant)
    (db : Database) : ProtocolResult × Database :=
  let persisted := stage3OutboxPersistence s receipt (normalizeTransportOutcome raw) now db
  (reportPersistence persisted.1, persisted.2)

/-! ## What a receipt is worth -/

/-- The checks `record_part_result` makes before it writes. -/
def Owned (receipt : Receipt) (db : Database) : Prop :=
  (requireEventReservationAssociation db receipt.eventId receipt.reservationId).isOk ∧
    (requireEventPartAssociation db receipt.eventId receipt.partId).isOk ∧
    decidePublicEffect db (db.events.fetch receipt.eventId) = none

instance (receipt : Receipt) : DecidablePred (Owned receipt) := fun _ =>
  inferInstanceAs (Decidable (_ ∧ _))

def Schedule.beforeRecord (s : Schedule) (db : Database) : Database :=
  s.writers .record (s.writers .partRow (s.writers .eventRow (s.writers .part
    (s.writers .canonical (s.writers .reservation (s.writers .opening db))))))

/-- No other writer touches the part from the record transaction to the return. -/
def Schedule.Spares (s : Schedule) (partId : ℕ) : Prop :=
  ∀ p, p = .verifyEvent ∨ p = .verifyPart ∨ p = .verifyParts ∨ p = .returning →
    ∀ db, (s.writers p db).parts.fetch partId = db.parts.fetch partId

section Receipts

variable {s : Schedule} {receipt : Receipt} {r : DurableReceipt} {db final : Database}
variable {now : Instant} {outcome : TransportOutcome} {state : DeliveryState} {db' : Database}

theorem Schedule.statement_ok {α : Type} {p : Point} {f : Database → Except ProtocolError α}
    {next : α → Database → Persisted} (h : s.statement p f next db = (.ok r, final)) :
    ∃ a, f (s.writers p db) = .ok a ∧ next a (s.writers p db) = (.ok r, final) := by
  unfold Schedule.statement at h
  dsimp only at h
  split at h
  · cases h
  split at h
  · cases h
  next a ha => exact ⟨a, ha, h⟩

/-- The verification reads the part the receipt is about, and a receipt for an
uncertain result is issued only when the part reads uncertain. -/
theorem Schedule.verify_ok (hspares : s.Spares receipt.partId)
    (h : s.verify receipt outcome now state db = (.ok r, final)) :
    r.deliveryState = state ∧ final.parts.fetch receipt.partId = db.parts.fetch receipt.partId ∧
      (state = .uncertain → ∃ p, db.parts.fetch receipt.partId = some p ∧
        p.deliveryState.reread = .uncertain) := by
  obtain ⟨actualEvent, -, h⟩ := Schedule.statement_ok h
  obtain ⟨actualPart, hpart, h⟩ := Schedule.statement_ok h
  obtain ⟨parts, -, h⟩ := Schedule.statement_ok h
  dsimp only at h
  split at h
  · cases h
  next hproved =>
  cases h
  refine ⟨rfl, ?_, ?_⟩
  · rw [hspares .returning (by simp), hspares .verifyParts (by simp),
      hspares .verifyPart (by simp), hspares .verifyEvent (by simp)]
  · rintro rfl
    unfold Receipt.verifyPart at hpart
    rw [hspares .verifyPart (by simp), hspares .verifyEvent (by simp)] at hpart
    split at hpart
    · cases hpart
    next p hp =>
    split at hpart
    · cases hpart
    split at hpart
    · cases hpart
    cases hpart
    refine ⟨p, hp, ?_⟩
    by_contra hne
    rw [Receipt.proveCommitted] at hproved
    simp [hne] at hproved

theorem fetch_part_of_finalize {e res partId : ℕ} (h : db.finalizeSentLocked e res now = .ok db') :
    db'.parts.fetch partId = db.parts.fetch partId := by
  unfold Database.finalizeSentLocked at h
  dsimp only at h
  split at h
  · cases h
  · cases h
    rfl

/-- A recorded result is uncertain, or the part holds the settled state. -/
theorem recordClaimed_part {e res partId : ℕ} {attemptId : String} {t : Settlement}
    (h : recordClaimed e res partId attemptId t now db = .ok (state, db')) :
    state = .uncertain ∨ ∃ p, db'.parts.fetch partId = some p ∧ p.deliveryState = t.state := by
  unfold recordClaimed at h
  dsimp only at h
  split at h
  · cases h
    exact Or.inl rfl
  next hcount =>
  obtain ⟨p, hp, hunder⟩ :=
    (Table.rowcount_eq_one_iff fun _ hc => hc.1).1 (not_not.1 hcount)
  have hsettled : (db.updateParts (InFlightUnder partId attemptId)
      (PartDelivery.record t now)).parts.fetch partId =
      some (p.write (PartDelivery.record t now)) := by
    simp [hp, hunder]
  split at h
  · split at h
    · split at h
      · cases h
      next finalized hfinal =>
      cases h
      exact Or.inr ⟨_, (fetch_part_of_finalize hfinal).trans hsettled, rfl⟩
    · cases h
      exact Or.inr ⟨_, hsettled, rfl⟩
  · cases h
    exact Or.inr ⟨_, hsettled, rfl⟩

theorem orRefuse_of_isOk {α β : Type} {check : Except RuntimeEpochError α}
    {refused : String → Except OutboxError β} {body : α → Except OutboxError β} {x : β}
    (hcheck : check.isOk) (h : orRefuse check refused body = .ok x) : ∃ a, body a = .ok x := by
  cases check with
  | error err => cases hcheck
  | ok a => exact ⟨a, h⟩

/-- On an owned event `record_part_result` does not decline: what it returns is
uncertain, or the part holds the state the result implies. -/
theorem recordPartResult_of_owned {result : PartResult} (howned : Owned receipt db)
    (h : recordPartResult receipt.eventId receipt.reservationId receipt.partId receipt.attemptId
      result now db = (.ok state, db')) :
    state = .uncertain ∨ ∃ ev p, db.events.fetch receipt.eventId = some ev ∧
      db'.parts.fetch receipt.partId = some p ∧
      p.deliveryState = ((result.settle now).schedule ev now).state := by
  obtain ⟨hreservation, hpart, heffect⟩ := howned
  unfold recordPartResult transaction at h
  split at h
  swap
  · cases h
  next result' db'' hbody =>
  cases h
  obtain ⟨_, hbody⟩ := orRefuse_of_isOk hreservation hbody
  obtain ⟨_, hbody⟩ := orRefuse_of_isOk hpart hbody
  rw [heffect] at hbody
  dsimp only at hbody
  split at hbody
  · cases hbody
    exact Or.inl rfl
  next ev hev =>
  split at hbody
  · cases hbody
    exact Or.inl rfl
  · rcases recordClaimed_part hbody with huncertain | ⟨p, hp, hstate⟩
    · exact Or.inl huncertain
    · exact Or.inr ⟨ev, p, hev, hp, hstate⟩

theorem Schedule.fallback_ok {err : SqliteError} (hspares : s.Spares receipt.partId)
    (h : s.fallback receipt now err (s.verify receipt outcome now) db = (.ok r, final)) :
    r.deliveryState = .uncertain ∧ ∃ p, final.parts.fetch receipt.partId = some p ∧
      p.deliveryState.reread = .uncertain := by
  unfold Schedule.fallback at h
  dsimp only at h
  split at h
  · cases h
  split at h
  · cases h
  split at h
  · cases h
  obtain ⟨hstate, hfetch, hread⟩ := Schedule.verify_ok hspares h
  obtain ⟨p, hp, hp'⟩ := hread rfl
  exact ⟨hstate, p, hfetch.trans hp, hp'⟩

theorem ResultState.ne_inFlight {t : DeliveryState} (h : ResultState t) : t ≠ .inFlight := by
  rcases h with rfl | rfl | rfl | rfl <;> decide

/-- What a receipt should mean for its part: out of `IN_FLIGHT`, and in the state the
outcome implies for the event of `recorded`, or uncertain as the receipt says. -/
def Justified (receipt : Receipt) (outcome : TransportOutcome) (now : Instant)
    (recorded final : Database) (r : DurableReceipt) : Prop :=
  ∃ p, final.parts.fetch receipt.partId = some p ∧ p.deliveryState ≠ .inFlight ∧
    ((∃ ev, recorded.events.fetch receipt.eventId = some ev ∧
        p.deliveryState = outcome.impliedState ev now) ∨
      r.deliveryState = .uncertain ∧ p.deliveryState.reread = .uncertain)

theorem Justified.of_uncertain {recorded : Database}
    (h : r.deliveryState = .uncertain ∧ ∃ p, final.parts.fetch receipt.partId = some p ∧
      p.deliveryState.reread = .uncertain) : Justified receipt outcome now recorded final r := by
  obtain ⟨hr, p, hp, hread⟩ := h
  refine ⟨p, hp, fun hflight => ?_, Or.inr ⟨hr, hread⟩⟩
  rw [hflight] at hread
  cases hread

theorem Schedule.record_ok
    (howned : Owned receipt (s.writers .record db)) (hspares : s.Spares receipt.partId)
    (h : s.record receipt outcome now (s.verify receipt outcome now) db = (.ok r, final)) :
    Justified receipt outcome now (s.writers .record db) final r := by
  unfold Schedule.record at h
  dsimp only at h
  split at h
  · exact .of_uncertain (Schedule.fallback_ok hspares h)
  split at h
  · next state recorded hrecord =>
    obtain ⟨hstate, hfetch, hread⟩ := Schedule.verify_ok hspares h
    rcases recordPartResult_of_owned howned hrecord with rfl | ⟨ev, p, hev, hp, himplied⟩
    · obtain ⟨p, hp, hp'⟩ := hread rfl
      exact .of_uncertain ⟨hstate, p, hfetch.trans hp, hp'⟩
    · refine ⟨p, hfetch.trans hp, ?_, Or.inl ⟨ev, hev, himplied⟩⟩
      rw [himplied]
      exact (Settlement.resultState_schedule ev now
        ((outcome.payload now).resultState_settle now)).ne_inFlight
  · exact .of_uncertain (Schedule.fallback_ok hspares h)
  · cases h

/-- **No false receipt.** If the event is still owned when the record transaction runs
and no other writer touches the part from there to the return, a durable receipt means
that the part has left `IN_FLIGHT` and holds the state the normalized outcome implies,
or `UNCERTAIN` as the receipt says. Without a receipt the persistence is reported
unresolved. -/
theorem durable_receipt_of_undisturbed (s : Schedule) (receipt : Receipt) (raw : RawOutcome)
    (now : Instant) (db : Database) (howned : Owned receipt (s.beforeRecord db))
    (hspares : s.Spares receipt.partId) :
    (∀ r, (deliverOutcome s receipt raw now db).1.durableReceipt = some r →
      ∃ p, (deliverOutcome s receipt raw now db).2.parts.fetch receipt.partId = some p ∧
        p.deliveryState ≠ .inFlight ∧
        ((∃ ev, (s.beforeRecord db).events.fetch receipt.eventId = some ev ∧
            p.deliveryState = (normalizeTransportOutcome raw).impliedState ev now) ∨
          r.deliveryState = .uncertain ∧ p.deliveryState.reread = .uncertain)) ∧
    ((deliverOutcome s receipt raw now db).1.durableReceipt = none →
      (deliverOutcome s receipt raw now db).1.status = "unresolved_persistence") := by
  unfold deliverOutcome
  generalize normalizeTransportOutcome raw = outcome
  rcases hresult : stage3OutboxPersistence s receipt outcome now db with ⟨result, final⟩
  cases result with
  | error err =>
    refine ⟨fun r hr => ?_, fun _ => ?_⟩
    · cases err <;> cases hr
    · cases err <;> rfl
  | ok receipt' =>
    refine ⟨fun r hr => ?_, fun hnone => by cases hnone⟩
    cases hr
    obtain ⟨-, -, hresult⟩ := Schedule.statement_ok hresult
    obtain ⟨-, -, hresult⟩ := Schedule.statement_ok hresult
    obtain ⟨-, -, hresult⟩ := Schedule.statement_ok hresult
    obtain ⟨-, -, hresult⟩ := Schedule.statement_ok hresult
    obtain ⟨-, -, hresult⟩ := Schedule.statement_ok hresult
    obtain ⟨-, -, hresult⟩ := Schedule.statement_ok hresult
    exact Schedule.record_ok howned hspares hresult

end Receipts

namespace Sample

/-- The sample part on its way to Telegram. -/
def transmitted : Database :=
  (committed "a").run [claimAt 0 "x", .markPartInFlight 1 "x" 0]

def receipt : Receipt := ⟨1, 1, 1, "x"⟩

def acknowledged : RawOutcome :=
  .outcome { deliveryState := "SENT", httpStatus := some 200, telegramMessageId := some "7" }

/-- No other writer and no failing statement. -/
def alone : Schedule := ⟨fun _ db => db, fun _ => none, 0⟩

/-- The lifecycle of the sample with another first target, as a new scan writes it. -/
def revised : Authority := .granted "l" "S" (.number 2)

/-- A scan revises the plan between the checks of stage 3 and its record transaction. -/
def revising : Schedule :=
  { alone with writers := fun p db => if p = .record then { db with authority := revised } else db }

end Sample

/-- Undisturbed, the sample part is sent when its receipt is issued. -/
theorem durable_receipt_of_undisturbed_sample :
    ∃ r, (deliverOutcome Sample.alone Sample.receipt Sample.acknowledged 0
        Sample.transmitted).1.durableReceipt = some r ∧
      ∃ p, (deliverOutcome Sample.alone Sample.receipt Sample.acknowledged 0
        Sample.transmitted).2.parts.fetch 1 = some p ∧ p.deliveryState ≠ .inFlight := by
  obtain ⟨r, hr⟩ := Option.isSome_iff_exists.1 (show
    (deliverOutcome Sample.alone Sample.receipt Sample.acknowledged 0
      Sample.transmitted).1.durableReceipt.isSome = true by decide +kernel)
  obtain ⟨p, hp, hflight, -⟩ := (durable_receipt_of_undisturbed Sample.alone Sample.receipt
    Sample.acknowledged 0 Sample.transmitted (by decide +kernel) (fun _ _ _ => rfl)).1 r hr
  exact ⟨r, hr, p, hp, hflight⟩

/-- The plan is revised in between: the record declines, a durable receipt is issued,
and the part is still `IN_FLIGHT`. -/
theorem receipt_for_part_in_flight :
    (deliverOutcome Sample.revising Sample.receipt Sample.acknowledged 0
        Sample.transmitted).1.durableReceipt =
      some ⟨1, 1, 1, "x", .inFlight, some "7", 0, false⟩ ∧
    ((deliverOutcome Sample.revising Sample.receipt Sample.acknowledged 0
        Sample.transmitted).2.parts.fetch 1).map (·.deliveryState) = some .inFlight ∧
    ((Sample.transmitted.events.fetch 1).map fun ev =>
      (normalizeTransportOutcome Sample.acknowledged).impliedState ev 0) = some .sent := by
  refine ⟨?_, ?_, ?_⟩
  · decide +kernel
  · decide +kernel
  · decide +kernel

end CandleCraft.Outbox
