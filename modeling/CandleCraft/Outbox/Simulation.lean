import CandleCraft.Outbox.Ledger

/-!
# Every transaction takes a ledger step

The main result is `Database.step_ledger`: whatever a transaction does to the
database, its effect on the ledger of each event is a `Ledger.Step`. The unique
index on the canonical reservation is what keeps a transaction on one event from
touching the reservation of another.
-/

namespace CandleCraft.Outbox

open Relational PyText Ownership

variable {db : Database} {k : ℕ} {ℓ : Ledger}

namespace Database

/-! ## Reading the ledger through a statement -/

theorem ledger_eq_some_iff : db.ledger k = some ℓ ↔ ∃ ev, db.events.fetch k = some ev ∧
    ℓ = ⟨ev, ev.canonicalReservationAttemptId.bind db.attempts.fetch, db.partsOf k⟩ := by
  rw [ledger, Option.map_eq_some_iff]
  exact exists_congr fun ev => and_congr_right fun _ => eq_comm

theorem fetch_of_ledger (h : db.ledger k = some ℓ) : db.events.fetch k = some ℓ.event := by
  obtain ⟨ev, hev, rfl⟩ := ledger_eq_some_iff.1 h
  exact hev

theorem event_of_ledger {e : ℕ} {ev : Event} (h : db.ledger k = some ℓ)
    (hev : db.events.fetch e = some ev) (hk : k = e) : ℓ.event = ev := by
  rw [← hk, fetch_of_ledger h] at hev
  exact Option.some.inj hev

theorem reservation_of_ledger (h : db.ledger k = some ℓ) :
    ℓ.reservation = ℓ.event.canonicalReservationAttemptId.bind db.attempts.fetch := by
  obtain ⟨ev, hev, rfl⟩ := ledger_eq_some_iff.1 h
  rfl

theorem partsOf_of_ledger (h : db.ledger k = some ℓ) : db.partsOf k = ℓ.parts := by
  obtain ⟨ev, hev, rfl⟩ := ledger_eq_some_iff.1 h
  rfl

theorem event_id_of_ledger (h : db.ledger k = some ℓ) : ℓ.event.id = k :=
  Table.key_of_fetch (fetch_of_ledger h)

theorem mem_rows_of_ledger (h : db.ledger k = some ℓ) {p : Part} (hp : p ∈ ℓ.parts) :
    p ∈ db.parts.rows ∧ p.eventId = k := by
  rw [← partsOf_of_ledger h] at hp
  exact mem_partsOf.1 hp

theorem mem_ledger_parts (h : db.ledger k = some ℓ) {partId : ℕ} {p : Part}
    (hp : db.parts.fetch partId = some p) (hk : p.eventId = k) : p ∈ ℓ.parts := by
  rw [← partsOf_of_ledger h]
  exact mem_partsOf.2 ⟨Table.mem_of_fetch hp, hk⟩

theorem ledger_updateEvents (c : Event → Prop) [DecidablePred c]
    (f : EventDelivery → EventDelivery) (h : db.ledger k = some ℓ) :
    (db.updateEvents c f).ledger k = some (if c ℓ.event then ℓ.writeEvent f else ℓ) := by
  obtain ⟨ev, hev, rfl⟩ := ledger_eq_some_iff.1 h
  refine ledger_eq_some_iff.2 ⟨if c ev then ev.write f else ev, by rw [fetch_updateEvents, hev]; rfl, ?_⟩
  split <;> rfl

theorem ledger_updateParts (c : Part → Prop) [DecidablePred c] (f : PartDelivery → PartDelivery)
    (h : db.ledger k = some ℓ) :
    (db.updateParts c f).ledger k = some (ℓ.writeParts c f) := by
  obtain ⟨ev, hev, rfl⟩ := ledger_eq_some_iff.1 h
  exact ledger_eq_some_iff.2 ⟨ev, hev, by rw [partsOf_updateParts]; rfl⟩

theorem ledger_updateAttempts (r : ℕ) (f : AttemptDelivery → AttemptDelivery)
    (h : db.ledger k = some ℓ) :
    (db.updateAttempts (fun a => a.id = r) f).ledger k =
      some (if ℓ.event.canonicalReservationAttemptId = some r then ℓ.writeReservation f
        else ℓ) := by
  obtain ⟨ev, hev, rfl⟩ := ledger_eq_some_iff.1 h
  refine ledger_eq_some_iff.2 ⟨ev, hev, ?_⟩
  rw [partsOf_updateAttempts]
  cases hr : ev.canonicalReservationAttemptId with
  | none =>
    rw [if_neg (by simp)]
    rfl
  | some r' =>
    have hread : (db.updateAttempts (fun a => a.id = r) f).attempts.fetch r' =
        if r' = r then (db.attempts.fetch r').map (Attempt.write f)
        else db.attempts.fetch r' := by
      rw [fetch_updateAttempts]
      cases ha : db.attempts.fetch r' with
      | none => simp
      | some a =>
        have hid : a.id = r' := Table.key_of_fetch ha
        by_cases hrr : r' = r <;> simp [hid, hrr]
    by_cases hrr : r' = r
    · rw [if_pos (by simp [hrr])]
      simp only [Option.bind_some, hread, if_pos hrr, Ledger.writeReservation]
    · rw [if_neg (by simp [hrr])]
      simp only [Option.bind_some, hread, if_neg hrr]

theorem canonical_iff {e r : ℕ} {ev : Event} (h : db.ledger k = some ℓ)
    (hev : db.events.fetch e = some ev) (hr : ev.canonicalReservationAttemptId = some r) :
    ℓ.event.canonicalReservationAttemptId = some r ↔ k = e := by
  have hk := fetch_of_ledger h
  constructor
  · intro hcanonical
    have hid := db.canonicalUnique _ (Table.mem_of_fetch hk) _ (Table.mem_of_fetch hev)
      (hcanonical.trans hr.symm) (by simp [hcanonical])
    rw [← Table.key_of_fetch hk, hid, Table.key_of_fetch hev]
  · rintro rfl
    rw [hk] at hev
    cases hev
    exact hr

variable {f : PartDelivery → PartDelivery}

theorem writeParts_eq_self {c : Part → Prop} [DecidablePred c]
    (hc : ∀ p ∈ ℓ.parts, ¬ c p) : ℓ.writeParts c f = ℓ := by
  rw [Ledger.writeParts, Table.map_update_eq_self hc]

theorem writeParts_congr {c d : Part → Prop} [DecidablePred c] [DecidablePred d]
    (hcd : ∀ p ∈ ℓ.parts, (c p ↔ d p)) :
    ℓ.writeParts c f = ℓ.writeParts d f := by
  rw [Ledger.writeParts, Ledger.writeParts]
  congr 1
  exact List.map_congr_left fun p hp => if_congr (hcd p hp) rfl rfl

/-! ## The locked helpers -/

section Locked

variable {e r : ℕ}

theorem ledger_markEventLocked (h : db.ledger k = some ℓ)
    (hlink : ℓ.event.canonicalReservationAttemptId = some r ↔ k = e) (state : DeliveryState)
    (category detail : String) (now : Instant) (nextRetryAt : Option Instant) :
    (db.markEventLocked e r state category detail now nextRetryAt).ledger k =
      some (if k = e then ℓ.mark state category detail now nextRetryAt else ℓ) := by
  have hid := event_id_of_ledger h
  have hevent := ledger_updateEvents (fun ev => ev.id = e)
    (EventDelivery.mark state category detail now nextRetryAt) h
  rw [markEventLocked, ledger_updateAttempts r _ hevent]
  by_cases hk : k = e
  · simp [hid, hk, hlink.2 hk, Ledger.mark]
  · simp [hid, hk, hlink]

theorem ledger_recoverStale {now : Instant} (h : db.ledger k = some ℓ)
    (hlink : ℓ.event.canonicalReservationAttemptId = some r ↔ k = e)
    (hstale : k = e → StaleInFlight e now ℓ.event) :
    (db.recoverStale e r now).ledger k = some (if k = e then ℓ.recover now else ℓ) := by
  have hid := event_id_of_ledger h
  have hevent := ledger_updateEvents (StaleInFlight e now) (EventDelivery.recoverStale now) h
  have hparts := ledger_updateParts (fun p => p.eventId = e ∧ p.deliveryState = .inFlight)
    (PartDelivery.recoverStale now) hevent
  rw [recoverStale, ledger_updateAttempts r _ hparts]
  by_cases hk : k = e
  · rw [if_pos (hstale hk), if_pos (by simpa using hlink.2 hk), if_pos hk, Ledger.recover]
    congr 2
    refine writeParts_congr fun p hp => ?_
    simp [(mem_rows_of_ledger h hp).2, hk]
  · have hforeign : ¬ StaleInFlight e now ℓ.event := fun hs => hk (hid ▸ hs.1)
    rw [if_neg hforeign, if_neg (by simpa using fun hc => hk (hlink.1 hc)), if_neg hk,
      writeParts_eq_self]
    intro p hp hpe
    exact hk ((mem_rows_of_ledger h hp).2 ▸ hpe.1)

theorem ledger_grantClaim {req : ClaimRequest} (h : db.ledger k = some ℓ)
    (hlink : ℓ.event.canonicalReservationAttemptId = some req.reservationId ↔ k = req.eventId)
    (hclaim : k = req.eventId → ClaimableNow req ℓ.event) :
    (db.grantClaim req).ledger k = some (if k = req.eventId then ℓ.grant req else ℓ) := by
  have hid := event_id_of_ledger h
  have hevent := ledger_updateEvents (ClaimableNow req) (EventDelivery.claimFor req) h
  rw [grantClaim, ledger_updateAttempts _ _ hevent]
  by_cases hk : k = req.eventId
  · rw [if_pos (hclaim hk), if_pos (by simpa using hlink.2 hk), if_pos hk, Ledger.grant]
  · have hforeign : ¬ ClaimableNow req ℓ.event := fun hc => hk (hid ▸ hc.1)
    rw [if_neg hforeign, if_neg (fun hc => hk (hlink.1 hc)), if_neg hk]

theorem ledger_finalizeSentLocked {now : Instant} {db' : Database} (h : db.ledger k = some ℓ)
    (hlink : ℓ.event.canonicalReservationAttemptId = some r ↔ k = e)
    (hfinal : db.finalizeSentLocked e r now = .ok db') :
    db'.ledger k = some (if k = e then ℓ.finalize now else ℓ) ∧
      (k = e → ℓ.parts ≠ [] ∧ ∀ p ∈ ℓ.parts, p.deliveryState.normalize = .sent) := by
  have hid := event_id_of_ledger h
  rw [finalizeSentLocked] at hfinal
  split at hfinal
  · cases hfinal
  next hsent =>
  cases hfinal
  rw [not_or] at hsent
  constructor
  · have hevent := ledger_updateEvents (fun ev => ev.id = e) (EventDelivery.finalizeSent
      (((db.partsOf e).filterMap (·.sentAt)).max?.getD now) now (messageIdSummary (db.partsOf e))
      (((db.partsOf e).filterMap (·.telegramChatId)).filter (· ≠ "")).head?) h
    rw [ledger_updateAttempts r _ hevent]
    by_cases hk : k = e
    · subst hk
      rw [if_pos hid, if_pos (by simpa using hlink.2 rfl), if_pos rfl, partsOf_of_ledger h]
      rfl
    · simp [hid, hk, hlink]
  · rintro rfl
    rw [listOutboxParts, partsOf_of_ledger h] at hsent
    refine ⟨fun hnil => hsent.1 (by simp [hnil]), fun p hp => ?_⟩
    by_contra hne
    exact hsent.2 ⟨p.fromRow, List.mem_map_of_mem hp, hne⟩

end Locked

end Database

/-! ## The transactions -/

/-- What is refused is returned without a write. -/
theorem orRefuse_ok {α β : Type} {check : Except RuntimeEpochError α} {refused : String → β}
    {body : α → Except OutboxError (β × Database)} {x : β} {db' : Database}
    (h : orRefuse check (fun reason => .ok (refused reason, db)) body = .ok (x, db')) :
    (∃ reason, x = refused reason ∧ db' = db) ∨ ∃ a, check = .ok a ∧ body a = .ok (x, db') := by
  unfold orRefuse at h
  split at h
  · next a => exact Or.inr ⟨a, rfl, h⟩
  · next reason =>
    cases h
    exact Or.inl ⟨reason, rfl, rfl⟩
  · cases h

variable {result : ClaimResult} {partId : ℕ} {req : ClaimRequest} {op : Operation}
  {attemptId : String}

/-- A write on event `e` is a step of its ledger and of no other. -/
theorem Ledger.Step.ite {e : ℕ} {ℓ' : Ledger} (h : k = e → Ledger.Step k ℓ op ℓ') :
    Ledger.Step k ℓ op (if k = e then ℓ' else ℓ) := by
  split
  · next hk => exact h hk
  · exact .idle op

def Simulates (k : ℕ) (op : Operation) (db db' : Database) : Prop :=
  ∀ ℓ, db.ledger k = some ℓ → ∃ ℓ', db'.ledger k = some ℓ' ∧ Ledger.Step k ℓ op ℓ'

theorem Simulates.refl (k : ℕ) (op : Operation) (db : Database) : Simulates k op db db :=
  fun ℓ h => ⟨ℓ, h, .idle op⟩

theorem Simulates.transaction {α : Type} {body : Database → Except OutboxError (α × Database)}
    (h : ∀ result db', body db = .ok (result, db') → Simulates k op db db') :
    Simulates k op db (Outbox.transaction body db).2 := by
  unfold Outbox.transaction
  split
  · next result db' hbody => exact h result db' hbody
  · exact .refl k op db

variable {db' : Database} {now : Instant}

/-- A stale attempt of an owned event is recovered. -/
structure Recovers (e : ℕ) (now : Instant) (db db' : Database) (ev : Event) (r : ℕ) : Prop where
  event : db.events.fetch e = some ev
  canonical : ev.canonicalReservationAttemptId = some r
  stale : StaleInFlight e now ev
  reserved : (requireCanonicalReservationForPublicEffect db e).isOk
  eq : db' = db.recoverStale e r now

theorem recoverStaleLocked_ok {e : ℕ} {b : Bool} (h : recoverStaleLocked e now db = .ok (b, db')) :
    db' = db ∨ ∃ ev r, Recovers e now db db' ev r := by
  rw [recoverStaleLocked] at h
  split at h
  · cases h
    exact Or.inl rfl
  next ev hev =>
  rcases orRefuse_ok h with ⟨_, -, rfl⟩ | ⟨_, hcheck, hbody⟩
  · exact Or.inl rfl
  split at hbody
  · cases hbody
    exact Or.inl rfl
  next r hr =>
  split_ifs at hbody with hcount
  · cases hbody
    exact Or.inl rfl
  · cases hbody
    have hstale := Table.of_rowcount_eq_one (fun _ hs => hs.1) hev (not_not.1 hcount)
    exact Or.inr ⟨ev, r, hev, hr, hstale, by rw [hcheck]; rfl, rfl⟩

variable {ev : Event}

theorem Recovers.simulates {e r : ℕ} (h : Recovers e now db db' ev r)
    (hstep : ∀ ℓ : Ledger, StaleInFlight e now ℓ.event → Ledger.Step e ℓ op (ℓ.recover now)) :
    Simulates k op db db' := by
  intro ℓ hℓ
  have hown (hk : k = e) : StaleInFlight e now ℓ.event :=
    Database.event_of_ledger hℓ h.event hk ▸ h.stale
  rw [h.eq]
  refine ⟨_, Database.ledger_recoverStale hℓ (Database.canonical_iff hℓ h.event h.canonical) hown,
    .ite fun hk => ?_⟩
  subst hk
  exact hstep ℓ (hown rfl)

theorem recoverStaleInFlight_simulates (k e : ℕ) (now : Instant) (db : Database) :
    Simulates k (.recoverStaleInFlight e now) db (recoverStaleInFlight e now db).2 := by
  refine .transaction fun result db' hbody => ?_
  split at hbody
  · cases hbody
    exact .refl _ _ _
  split_ifs at hbody
  · cases hbody
    exact .refl _ _ _
  rcases orRefuse_ok hbody with ⟨_, -, rfl⟩ | ⟨_, _, hlocked⟩
  · exact .refl _ _ _
  rcases recoverStaleLocked_ok hlocked with rfl | ⟨ev, r, hrecovers⟩
  · exact .refl _ _ _
  · exact hrecovers.simulates fun ℓ hstale => .recover hstale.2.1 hstale.2.2

theorem listOutboxPartsIn_isEmpty {e : ℕ} {states : List DeliveryState} :
    (db.listOutboxPartsIn e states).isEmpty ↔ ∀ p ∈ db.partsOf e, p.deliveryState ∉ states := by
  simp [Database.listOutboxPartsIn, List.isEmpty_iff, List.filter_eq_nil_iff]

theorem claimRecovered_of_not_claimable (hev : db.events.fetch req.eventId = some ev)
    (hstate : ¬ ev.deliveryState.normalize.AutoClaimable)
    (h : claimRecovered req db = .ok (result, db')) : db' = db ∧ result.claim = none := by
  unfold claimRecovered at h
  rw [hev] at h
  dsimp only at h
  rw [if_pos hstate] at h
  split at h <;> cases h <;> exact ⟨rfl, rfl⟩

theorem claimRecovered_simulates (hev : db.events.fetch req.eventId = some ev)
    (hr : ev.canonicalReservationAttemptId = some req.reservationId)
    (h : claimRecovered req db = .ok (result, db')) : Simulates k (.claim req) db db' := by
  intro ℓ hℓ
  have hlink := Database.canonical_iff hℓ hev hr
  have hown := Database.event_of_ledger hℓ hev
  unfold claimRecovered at h
  rw [hev] at h
  dsimp only at h
  split at h
  · cases h
    exact ⟨ℓ, hℓ, .idle _⟩
  split at h
  · cases h
    exact ⟨ℓ, hℓ, .idle _⟩
  next hclaim =>
  split at h
  · next hlimit =>
    -- the retry limit is reached: the event is closed and nothing is claimed
    cases h
    refine ⟨_, Database.ledger_markEventLocked hℓ hlink _ _ _ _ _, .ite fun hk => ?_⟩
    rw [← hown hk] at hclaim hlimit
    exact .exhaust hk.symm (not_not.1 hclaim) hlimit
  next hlimit =>
  split at h
  · cases h
    exact ⟨ℓ, hℓ, .idle _⟩
  next hcount =>
  -- the conditional update has matched the event, so it was claimable when it ran
  have hnow := Table.of_rowcount_eq_one (fun _ hc => hc.1) hev (not_not.1 hcount)
  have hnow' : k = req.eventId → ClaimableNow req ℓ.event := fun hk => hown hk ▸ hnow
  have hlimit' : k = req.eventId → ℓ.event.attemptCount < ℓ.event.claimLimit :=
    fun hk => hown hk ▸ not_le.1 hlimit
  have hgrant := Database.ledger_grantClaim hℓ hlink hnow'
  have hlink' : (if k = req.eventId then ℓ.grant req else ℓ).event.canonicalReservationAttemptId =
      some req.reservationId ↔ k = req.eventId := by
    split <;> exact hlink
  have hparts : k = req.eventId → (db.grantClaim req).partsOf req.eventId = ℓ.parts := by
    rintro rfl
    rw [Database.partsOf_of_ledger hgrant, if_pos rfl]
    rfl
  split at h
  · next hnone =>
    rw [listOutboxPartsIn_isEmpty] at hnone
    -- the lease is granted, but no part is left to hand: the event fails, or some part was sent
    split at h
    · cases h
      refine ⟨_, Database.ledger_markEventLocked hgrant hlink' _ _ _ _ _, ?_⟩
      split
      · next hk =>
        rw [hparts hk] at hnone
        exact .grantEmpty (hnow' hk) hk.symm (hlimit' hk) fun p hp hclaimable =>
          hnone p hp (DeliveryState.mem_claimable.2 hclaimable)
      · exact .idle _
    · split at h
      · cases h
      next finalized hfinal =>
      cases h
      obtain ⟨hledger, hsent⟩ := Database.ledger_finalizeSentLocked hgrant hlink' hfinal
      refine ⟨_, hledger, ?_⟩
      split
      · next hk =>
        rw [if_pos hk] at hsent
        exact .grantSent (hnow' hk) hk.symm (hlimit' hk) (hsent hk).1 (hsent hk).2
      · exact .idle _
  · next hsome =>
    cases h
    refine ⟨_, hgrant, .ite fun hk => ?_⟩
    rw [listOutboxPartsIn_isEmpty, hparts hk] at hsome
    simp only [DeliveryState.mem_claimable, not_forall, not_not] at hsome
    obtain ⟨p, hp, hclaimable⟩ := hsome
    exact .grant (hnow' hk) hk.symm (hlimit' hk) ⟨p, hp, hclaimable⟩

/-- A claim that returns grants nothing and leaves the database or recovers a stale attempt, or does
what `claimRecovered` does. -/
theorem claim_cases (h : claim req db = (.ok result, db')) :
    (result.claim = none ∧ (db' = db ∨ decidePublicEffect db (db.events.fetch req.eventId) = none ∧
      ∃ ev r, Recovers req.eventId req.now db db' ev r)) ∨
    ∃ ev, db.events.fetch req.eventId = some ev ∧
      ev.canonicalReservationAttemptId = some req.reservationId ∧
      claimRecovered req db = .ok (result, db') := by
  unfold claim transaction at h
  split at h
  swap
  · cases h
  next hbody =>
  cases h
  rcases orRefuse_ok hbody with ⟨_, rfl, rfl⟩ | ⟨⟨ev, reservation⟩, hassoc, howned⟩
  · exact .inl ⟨rfl, .inl rfl⟩
  obtain ⟨hev, -, hr⟩ := requireEventReservationAssociation_ok hassoc
  split at howned
  · cases howned
    exact .inl ⟨rfl, .inl rfl⟩
  next hallowed =>
  split at howned
  · cases howned
  next recovered hlocked =>
  rcases recoverStaleLocked_ok hlocked with rfl | ⟨ev', r, hrecovers⟩
  · exact .inr ⟨ev, hev, hr, howned⟩
  · -- the recovered event is uncertain, so nothing is granted
    have hread : recovered.events.fetch req.eventId =
        some (ev'.write (EventDelivery.recoverStale req.now)) := by
      simp [hrecovers.eq, Database.recoverStale, hrecovers.event, hrecovers.stale]
    have huncertain : ¬ DeliveryState.uncertain.AutoClaimable := by decide
    obtain ⟨rfl, hnone⟩ := claimRecovered_of_not_claimable hread huncertain howned
    exact .inl ⟨hnone, .inr ⟨hallowed, ev', r, hrecovers⟩⟩

theorem transaction_of_error {α : Type} {body : Database → Except OutboxError (α × Database)}
    {err : OutboxError} (h : transaction body db = (.error err, db')) : db' = db := by
  unfold transaction at h
  split at h
  · cases h
  · cases h
    rfl

theorem claim_simulates (k : ℕ) (req : ClaimRequest) (db : Database) :
    Simulates k (.claim req) db (claim req db).2 := by
  rcases hclaim : claim req db with ⟨err | result, db'⟩
  · obtain rfl := transaction_of_error hclaim
    exact .refl _ _ _
  rcases claim_cases hclaim with ⟨-, rfl | ⟨-, ev, r, hrecovers⟩⟩ | ⟨ev, hev, hr, hrecovered⟩
  · exact .refl _ _ _
  · exact hrecovers.simulates fun ℓ hstale => .claimRecover rfl hstale.2.1 hstale.2.2
  · exact claimRecovered_simulates hev hr hrecovered

theorem Database.part_eq {part p : Part} (h : db.ledger k = some ℓ)
    (hpart : db.parts.fetch partId = some part) (hp : p ∈ ℓ.parts) (hid : p.id = partId) :
    p = part := by
  have hrow := Table.fetch_of_mem (mem_rows_of_ledger h hp).1
  rw [hid, hpart] at hrow
  exact (Option.some.inj hrow).symm

/-- A part is not handed, or is handed under the claim of its event. -/
theorem markPartInFlight_cases {result : Bool}
    (h : markPartInFlight partId attemptId now db = (.ok result, db')) :
    (result = false ∧ db' = db) ∨ ∃ ev, requirePartClaimAssociation db partId attemptId = .ok ev ∧
      result = decide (db.parts.rowcount (Transmittable partId) = 1) ∧
      db' = db.updateParts (Transmittable partId) (PartDelivery.markInFlight attemptId now) := by
  unfold markPartInFlight transaction at h
  split at h
  swap
  · cases h
  next hbody =>
  cases h
  rcases orRefuse_ok hbody with ⟨_, hrefused⟩ | ⟨ev, hclaim, hbody⟩
  · exact .inl hrefused
  rcases orRefuse_ok hbody with ⟨_, hrefused⟩ | ⟨_, _, hbody⟩
  · exact .inl hrefused
  rcases orRefuse_ok hbody with ⟨_, hrefused⟩ | ⟨_, _, hwrite⟩
  · exact .inl hrefused
  cases hwrite
  exact .inr ⟨ev, hclaim, rfl, rfl⟩

theorem markPartInFlight_simulates (k partId : ℕ) (attemptId : String) (now : Instant)
    (db : Database) : Simulates k (.markPartInFlight partId attemptId now) db
      (markPartInFlight partId attemptId now db).2 := by
  rcases hmark : markPartInFlight partId attemptId now db with ⟨err | result, db'⟩
  · obtain rfl := transaction_of_error hmark
    exact .refl _ _ _
  rcases markPartInFlight_cases hmark with ⟨-, rfl⟩ | ⟨ev, hclaim, -, rfl⟩
  · exact .refl _ _ _
  obtain ⟨⟨part, hpart, hev⟩, hattempt⟩ := requirePartClaimAssociation_ok hclaim
  intro ℓ hℓ
  refine ⟨_, Database.ledger_updateParts _ _ hℓ, ?_⟩
  by_cases hsome : ∃ p ∈ ℓ.parts, Transmittable partId p
  · obtain ⟨p, hp, htrans⟩ := hsome
    have hpp := Database.part_eq hℓ hpart hp htrans.1
    rw [← hpp, (Database.mem_rows_of_ledger hℓ hp).2, Database.fetch_of_ledger hℓ] at hev
    cases hev
    exact .hand hattempt ⟨p, hp, htrans⟩
  · rw [Database.writeParts_eq_self fun p hp htrans => hsome ⟨p, hp, htrans⟩]
    exact .idle _

theorem recordClaimed_simulates {e r partId : ℕ} {result : PartResult} {s : Settlement}
    {part : Part} {state : DeliveryState} (hev : db.events.fetch e = some ev)
    (hr : ev.canonicalReservationAttemptId = some r) (hpart : db.parts.fetch partId = some part)
    (hpe : part.eventId = e) (hclaim : ev.attemptId = some attemptId)
    (hs : s = (result.settle now).schedule ev now)
    (h : recordClaimed e r partId attemptId s now db = .ok (state, db')) :
    Simulates k (.recordPartResult e r partId attemptId result now) db db' := by
  intro ℓ hℓ
  have hlink := Database.canonical_iff hℓ hev hr
  have hown := Database.event_of_ledger hℓ hev
  have hmem : ∀ p ∈ ℓ.parts, InFlightUnder partId attemptId p → p = part ∧ k = e := by
    intro p hp hflight
    have hpp := Database.part_eq hℓ hpart hp hflight.1
    exact ⟨hpp, by rw [← hpe, ← hpp, (Database.mem_rows_of_ledger hℓ hp).2]⟩
  have hsettled := Database.ledger_updateParts (InFlightUnder partId attemptId)
    (PartDelivery.record s now) hℓ
  have hforeign : k ≠ e → ℓ.writeParts (InFlightUnder partId attemptId)
      (PartDelivery.record s now) = ℓ := fun hk =>
    Database.writeParts_eq_self fun p hp hflight => hk (hmem p hp hflight).2
  unfold recordClaimed at h
  dsimp only at h
  split at h
  · next hcount =>
    -- no row is in flight under the attempt: the part is left and the event frozen
    cases h
    refine ⟨_, Database.ledger_markEventLocked hsettled hlink _ _ _ _ _, ?_⟩
    have hnone : ∀ p ∈ ℓ.parts, ¬ InFlightUnder partId attemptId p := by
      intro p hp hflight
      rw [Ne, Table.rowcount_eq_one_iff fun _ hf => hf.1] at hcount
      exact hcount ⟨part, hpart, (hmem p hp hflight).1 ▸ hflight⟩
    rw [Database.writeParts_eq_self hnone]
    refine .ite fun hk => ?_
    subst hk
    exact .conflict (hown rfl ▸ hclaim) hnone
  next hcount =>
  have hflight := Table.of_rowcount_eq_one (fun _ hf => hf.1) hpart (not_not.1 hcount)
  have hsome : k = e → ∃ p ∈ ℓ.parts, InFlightUnder partId attemptId p := by
    rintro rfl
    exact ⟨part, Database.mem_ledger_parts hℓ hpart hpe, hflight⟩
  split at h
  · next hsent =>
    split at h
    · next hremaining =>
      split at h
      · cases h
      next finalized hfinal =>
      cases h
      obtain ⟨hledger, -⟩ := Database.ledger_finalizeSentLocked hsettled hlink hfinal
      refine ⟨_, hledger, ?_⟩
      split
      · next hk =>
        subst hk
        refine .finalize (hown rfl ▸ hs) (hown rfl ▸ hclaim) (hsome rfl) hsent fun p hp => ?_
        obtain ⟨hrow, hid⟩ := Database.mem_rows_of_ledger hsettled hp
        by_contra hne
        exact Table.rowcount_eq_zero_iff.1 hremaining p hrow ⟨hid, hne⟩
      · next hk =>
        rw [hforeign hk]
        exact .idle _
    · next hremaining =>
      cases h
      refine ⟨_, hsettled, ?_⟩
      by_cases hk : k = e
      · subst hk
        refine .settleSent (hown rfl ▸ hs) (hown rfl ▸ hclaim) (hsome rfl) hsent ?_
        rw [Table.rowcount_eq_zero_iff] at hremaining
        push Not at hremaining
        obtain ⟨p, hp, hid, hne⟩ := hremaining
        refine ⟨p, ?_, hne⟩
        have hparts := Database.partsOf_of_ledger hsettled
        exact hparts ▸ Database.mem_partsOf.2 ⟨hp, hid⟩
      · rw [hforeign hk]
        exact .idle _
  · next hunsent =>
    cases h
    refine ⟨_, Database.ledger_markEventLocked hsettled hlink _ _ _ _ _, ?_⟩
    split
    · next hk =>
      subst hk
      exact .settle (hown rfl ▸ hs) (hown rfl ▸ hclaim) (hsome rfl) hunsent
    · next hk =>
      rw [hforeign hk]
      exact .idle _

theorem recordPartResult_simulates (k e r partId : ℕ) (attemptId : String) (result : PartResult)
    (now : Instant) (db : Database) :
    Simulates k (.recordPartResult e r partId attemptId result now) db
      (recordPartResult e r partId attemptId result now db).2 := by
  refine .transaction fun state db' hbody => ?_
  rcases orRefuse_ok hbody with ⟨_, -, rfl⟩ | ⟨⟨ev, reservation⟩, hassoc, hbody⟩
  · exact .refl _ _ _
  rcases orRefuse_ok hbody with ⟨_, -, rfl⟩ | ⟨⟨ev', part⟩, hassoc', howned⟩
  · exact .refl _ _ _
  obtain ⟨hev, -, hr⟩ := requireEventReservationAssociation_ok hassoc
  obtain ⟨-, hpart, hpe⟩ := requireEventPartAssociation_ok hassoc'
  split at howned
  · cases howned
    exact .refl _ _ _
  rw [hev] at howned
  dsimp only at howned
  split_ifs at howned with hclaim
  · cases howned
    exact .refl _ _ _
  · exact recordClaimed_simulates hev hr hpart hpe (not_not.1 hclaim) rfl howned

theorem Database.ledger_terminate {req : NoSendRequest} (terminal : DeliveryState)
    (h : db.ledger k = some ℓ)
    (hlink : ℓ.event.canonicalReservationAttemptId = some req.reservationId ↔ k = req.eventId)
    (htarget : k = req.eventId → NoSendTarget req ℓ.event) :
    (db.terminate req terminal).ledger k =
      some (if k = req.eventId then ℓ.terminate req terminal else ℓ) := by
  have hevent := ledger_updateEvents (NoSendTarget req) (EventDelivery.close terminal) h
  have hparts := ledger_updateParts
    (fun p => p.eventId = req.eventId ∧ p.deliveryState.AutoClaimable)
    (PartDelivery.terminate terminal req.reason req.now) hevent
  by_cases hk : k = req.eventId
  · rw [if_pos (htarget hk)] at hparts
    rw [terminate, ledger_markEventLocked hparts hlink, if_pos hk, if_pos hk, Ledger.terminate]
    congr 2
    exact writeParts_congr fun p hp =>
      and_iff_right ((mem_rows_of_ledger h hp).2.trans hk)
  · have hforeign : ¬ NoSendTarget req ℓ.event := fun ht =>
      hk (event_id_of_ledger h ▸ ht.1)
    rw [if_neg hforeign] at hparts
    rw [terminate, ledger_markEventLocked hparts hlink, if_neg hk, if_neg hk, writeParts_eq_self]
    intro p hp hpe
    exact hk ((mem_rows_of_ledger h hp).2 ▸ hpe.1)

theorem terminate_simulates {req : NoSendRequest} {reservation : Attempt}
    (hterminal : NoSendTerminal (DeliveryState.ofText (some req.state)))
    (hexpected : req.expectedState.AutoClaimable)
    (hev : db.events.fetch req.eventId = some ev)
    (hres : db.attempts.fetch req.reservationId = some reservation)
    (hr : ev.canonicalReservationAttemptId = some req.reservationId)
    (hsnapshot : NoSendSnapshotMatches req ev reservation (db.partsOf req.eventId))
    (htarget : NoSendTarget req ev) :
    Simulates k (.markTerminalWithoutSend req) db
      (db.terminate req (DeliveryState.ofText (some req.state))) := by
  intro ℓ hℓ
  have hown := Database.event_of_ledger hℓ hev
  refine ⟨_, Database.ledger_terminate _ hℓ (Database.canonical_iff hℓ hev hr) fun hk =>
    hown hk ▸ htarget, .ite fun hk => ?_⟩
  subst hk
  have hreservation : ℓ.reservation = some reservation := by
    rw [Database.reservation_of_ledger hℓ, hown rfl, hr]
    exact hres
  rw [← hown rfl, Database.partsOf_of_ledger hℓ] at hsnapshot
  exact .terminate rfl hterminal hexpected hreservation hsnapshot

/-- A no-send terminalization is refused without a trace, or found the snapshot it
expected and closed it. -/
theorem markTerminalWithoutSend_cases (req : NoSendRequest) (db : Database) :
    ((markTerminalWithoutSend req db).1 ≠ .ok true ∧ (markTerminalWithoutSend req db).2 = db) ∨
    ∃ ev reservation, NoSendTerminal (DeliveryState.ofText (some req.state)) ∧
      req.expectedState.AutoClaimable ∧ db.events.fetch req.eventId = some ev ∧
      db.attempts.fetch req.reservationId = some reservation ∧
      ev.canonicalReservationAttemptId = some req.reservationId ∧
      NoSendSnapshotMatches req ev reservation (db.partsOf req.eventId) ∧ NoSendTarget req ev ∧
      markTerminalWithoutSend req db =
        (.ok true, db.terminate req (DeliveryState.ofText (some req.state))) := by
  unfold markTerminalWithoutSend
  split
  · exact Or.inl ⟨by simp, rfl⟩
  next hterminal =>
  split
  · exact Or.inl ⟨by simp, rfl⟩
  next hexpected =>
  unfold transaction
  split
  swap
  · exact Or.inl ⟨by simp, rfl⟩
  next result db' hbody =>
  rcases orRefuse_ok hbody with ⟨_, rfl, rfl⟩ | ⟨⟨ev, reservation⟩, hassoc, hbody⟩
  · exact Or.inl ⟨by simp, rfl⟩
  split at hbody
  · cases hbody
    exact Or.inl ⟨by simp, rfl⟩
  next hsnapshot =>
  split at hbody
  · cases hbody
    exact Or.inl ⟨by simp, rfl⟩
  next hcount =>
  cases hbody
  obtain ⟨hev, hres, hr⟩ := requireEventReservationAssociation_ok hassoc
  -- every refusal came before the first write; the update has matched the event it fetched
  have htarget := Table.of_rowcount_eq_one (fun _ ht => ht.1) hev (not_not.1 hcount)
  exact Or.inr ⟨ev, reservation, not_not.1 hterminal, not_not.1 hexpected, hev, hres, hr,
    not_not.1 hsnapshot, htarget, rfl⟩

theorem markTerminalWithoutSend_simulates (k : ℕ) (req : NoSendRequest) (db : Database) :
    Simulates k (.markTerminalWithoutSend req) db (markTerminalWithoutSend req db).2 := by
  rcases markTerminalWithoutSend_cases req db with
    ⟨-, hsame⟩ | ⟨ev, reservation, hterminal, hexpected, hev, hres, hr, hsnapshot, htarget, hdone⟩
  · rw [hsame]
    exact .refl _ _ _
  · rw [hdone]
    exact terminate_simulates hterminal hexpected hev hres hr hsnapshot htarget

theorem markUncertainAfterPersistenceFailure_simulates (k e r : ℕ) (detail : String)
    (now : Instant) (db : Database) :
    Simulates k (.markUncertainAfterPersistenceFailure e r detail now) db
      (markUncertainAfterPersistenceFailure e r detail now db).2 := by
  refine .transaction fun state db' hbody => ?_
  rcases orRefuse_ok hbody with ⟨_, -, rfl⟩ | ⟨⟨ev, reservation⟩, hassoc, hbody⟩
  · exact .refl _ _ _
  split at hbody
  · cases hbody
    exact .refl _ _ _
  cases hbody
  obtain ⟨hev, -, hr⟩ := requireEventReservationAssociation_ok hassoc
  intro ℓ hℓ
  refine ⟨_, Database.ledger_markEventLocked hℓ (Database.canonical_iff hℓ hev hr) _ _ _ _ _,
    .ite fun hk => ?_⟩
  subst hk
  exact .fallback

/-- **Simulation.** Every transaction takes a step of the ledger of every event. -/
theorem Database.step_ledger (op : Operation) (h : db.ledger k = some ℓ) :
    ∃ ℓ', (db.step op).ledger k = some ℓ' ∧ Ledger.Step k ℓ op ℓ' := by
  cases op with
  | recoverStaleInFlight e now => exact recoverStaleInFlight_simulates k e now db ℓ h
  | claim req => exact claim_simulates k req db ℓ h
  | markPartInFlight partId attemptId now =>
    exact markPartInFlight_simulates k partId attemptId now db ℓ h
  | recordPartResult e r partId attemptId result now =>
    exact recordPartResult_simulates k e r partId attemptId result now db ℓ h
  | markTerminalWithoutSend req => exact markTerminalWithoutSend_simulates k req db ℓ h
  | markUncertainAfterPersistenceFailure e r detail now =>
    exact markUncertainAfterPersistenceFailure_simulates k e r detail now db ℓ h

theorem Database.exists_ledger {p : Part} (h : db.parts.fetch partId = some p) :
    ∃ ℓ, db.ledger p.eventId = some ℓ ∧ p ∈ ℓ.parts := by
  obtain ⟨ev, hev, hid⟩ := List.mem_map.1 (db.partEvent p (Table.mem_of_fetch h))
  have hfetch : db.events.fetch p.eventId = some ev := hid ▸ Table.fetch_of_mem hev
  have hledger := ledger_eq_some_iff.2 ⟨ev, hfetch, rfl⟩
  exact ⟨_, hledger, mem_ledger_parts hledger h rfl⟩

theorem Database.step_part (op : Operation) {p : Part} (h : db.parts.fetch partId = some p) :
    ∃ ev p', db.events.fetch p.eventId = some ev ∧
      (db.step op).parts.fetch partId = some p' ∧ Ledger.PartStep ev op p p' := by
  obtain ⟨ℓ, hℓ, hp⟩ := exists_ledger h
  obtain ⟨ℓ', hℓ', hstep⟩ := step_ledger op hℓ
  obtain ⟨f, hparts, hf⟩ := hstep.partStep
  have hfp : f p ∈ ℓ'.parts := hparts ▸ List.mem_map_of_mem hp
  have hid : (f p).id = partId := (hf p hp).id_eq.trans (Table.key_of_fetch h)
  exact ⟨ℓ.event, f p, fetch_of_ledger hℓ, hid ▸ Table.fetch_of_mem (mem_rows_of_ledger hℓ' hfp).1,
    hf p hp⟩

/-- The ledger of event `eventId` satisfies `I`. -/
def Database.Holds (eventId : ℕ) (I : Ledger → Prop) (db : Database) : Prop :=
  ∃ ℓ, db.ledger eventId = some ℓ ∧ I ℓ

/-- What every ledger step preserves holds in every state of every run. -/
theorem Database.Holds.run {I : Ledger → Prop}
    (hstep : ∀ ℓ op ℓ', I ℓ → Ledger.Step k ℓ op ℓ' → I ℓ') (h : db.Holds k I)
    (ops : List Operation) : (db.run ops).Holds k I := by
  refine Transition.run_invariant Database.step (I := Database.Holds k I) ?_ h ops
  rintro s op ⟨ℓ, hℓ, hI⟩
  obtain ⟨ℓ', hℓ', hs⟩ := s.step_ledger op hℓ
  exact ⟨ℓ', hℓ', hstep ℓ op ℓ' hI hs⟩

end CandleCraft.Outbox
