import CandleCraft.Outbox.Terminal

/-!
# The lease fence

`mark_part_in_flight` compares attempt ids, which no closing transaction clears, and never reads the
event's state. A worker that stalls after its claim can hand a part to the transport although its
lease was recovered, or transmit it again and again under one claim. In `Fenced` runs every mark is
made before the event's lease has run out, and clocks do not go back. They keep a part from being
handed outside a claim; that a terminal event is not claimed again takes a quiet run.
-/

namespace CandleCraft.Outbox

open Relational PyText

/-- The clock a transaction is run with. -/
def Operation.now : Operation → Instant
  | recoverStaleInFlight _ now => now
  | claim req => req.now
  | markPartInFlight _ _ now => now
  | recordPartResult _ _ _ _ _ now => now
  | markTerminalWithoutSend req => req.now
  | markUncertainAfterPersistenceFailure _ _ _ now => now

def Fenced (eventId : ℕ) (db : Database) : Operation → Prop
  | .markPartInFlight partId _ now => ∀ p ∈ db.parts.fetch partId, p.eventId = eventId →
      ∀ ev ∈ db.events.fetch eventId, ¬ Elapsed ev.leaseExpiresAt now
  | _ => True

instance (eventId : ℕ) (db : Database) : DecidablePred (Fenced eventId db)
  | .markPartInFlight partId _ _ => inferInstanceAs (Decidable
      (∀ p ∈ db.parts.fetch partId, _ → ∀ ev ∈ db.events.fetch eventId, ¬ _))
  | .recoverStaleInFlight .. | .claim .. | .recordPartResult .. | .markTerminalWithoutSend ..
  | .markUncertainAfterPersistenceFailure .. => inferInstanceAs (Decidable True)

/-- The database together with the clock of the last transaction. -/
structure Clocked where
  clock : Instant
  db : Database

def Clocked.step (s : Clocked) (op : Operation) : Clocked :=
  ⟨op.now, s.db.step op⟩

/-- Clocks do not go back, and every mark is made under a live lease. -/
def FencedRun (eventId : ℕ) (start : Instant) (db : Database) (ops : List Operation) : Prop :=
  Transition.Disciplined Clocked.step (fun s op => s.clock ≤ op.now ∧ Fenced eventId s.db op)
    ⟨start, db⟩ ops

instance (eventId : ℕ) (start : Instant) (db : Database) (ops : List Operation) :
    Decidable (FencedRun eventId start db ops) :=
  inferInstanceAs (Decidable (Transition.Disciplined Clocked.step _ ⟨start, db⟩ ops))

@[simp]
theorem Clocked.run_db (s : Clocked) (ops : List Operation) :
    (Transition.run Clocked.step s ops).db = s.db.run ops := by
  induction ops generalizing s with
  | nil => rfl
  | cons op ops ih => exact ih (s.step op)

/-! ## Pacing: attempts of a part against attempts of its event -/

theorem Elapsed.mono {due : Option Instant} {now now' : Instant} (h : Elapsed due now)
    (hle : now ≤ now') : Elapsed due now' := fun t ht =>
  le_trans (h t ht) (Int.ediv_le_ediv (by decide) hle)

namespace Ledger

structure Bounded (limit : ℕ) (ℓ : Ledger) : Prop where
  stored : ℓ.event.maxAttempts = limit
  attempts : ℓ.event.attemptCount ≤ limit
  parts : ∀ p ∈ ℓ.parts, p.attemptCount ≤ ℓ.event.attemptCount

/-- An unexpired lease belongs to a claim in flight, and a claimable part of a claim
in flight has not been handed under it. -/
structure Paced (limit : ℕ) (clock : Instant) (ℓ : Ledger) : Prop extends Bounded limit ℓ where
  lease : Elapsed ℓ.event.leaseExpiresAt clock ∨ ℓ.event.deliveryState = .inFlight
  unspent : ∀ p ∈ ℓ.parts, ℓ.event.deliveryState = .inFlight → p.deliveryState.AutoClaimable →
    p.attemptCount < ℓ.event.attemptCount

variable {limit : ℕ} {clock now : Instant} {ℓ ℓ' : Ledger}

theorem elapsed_none (now : Instant) : Elapsed none now := fun _ h => by cases h

theorem Paced.fresh {maxAttempts : ℕ} (h : ℓ.Fresh maxAttempts) (clock : Instant) :
    ℓ.Paced (max 1 maxAttempts) clock where
  stored := h.limit
  attempts := by rw [h.attemptCount]; exact Nat.zero_le _
  parts := by
    intro p hp
    obtain ⟨at_, hpending⟩ := h.parts p hp
    rw [hpending, h.attemptCount]
    exact le_refl 0
  lease := Or.inl (h.lease ▸ elapsed_none clock)
  unspent := by
    intro p hp hflight
    rw [h.state] at hflight
    cases hflight

theorem Bounded.mark (h : ℓ.Bounded limit) {state : DeliveryState} (hstate : state ≠ .inFlight)
    (category detail : String) (now : Instant) (nextRetryAt : Option Instant) (clock : Instant) :
    (ℓ.mark state category detail now nextRetryAt).Paced limit clock where
  stored := h.stored
  attempts := h.attempts
  parts := h.parts
  lease := Or.inl (elapsed_none clock)
  unspent := fun _ _ hflight => absurd hflight hstate

theorem Bounded.finalize (h : ℓ.Bounded limit) (now clock : Instant) :
    (ℓ.finalize now).Paced limit clock where
  stored := h.stored
  attempts := h.attempts
  parts := h.parts
  lease := Or.inl (elapsed_none clock)
  unspent := fun _ _ hflight => by cases hflight

theorem Bounded.grant (h : ℓ.Bounded limit) {req : ClaimRequest}
    (hlimit : ℓ.event.attemptCount < limit) (clock : Instant) :
    (ℓ.grant req).Paced limit clock where
  stored := h.stored
  attempts := hlimit
  parts := fun p hp => Nat.le_succ_of_le (h.parts p hp)
  lease := Or.inr rfl
  unspent := fun p hp _ _ => Nat.lt_succ_of_le (h.parts p hp)

theorem Bounded.writeParts (h : ℓ.Bounded limit) {c : Part → Prop} [DecidablePred c]
    {f : PartDelivery → PartDelivery} (hf : ∀ d, (f d).attemptCount = d.attemptCount) :
    (ℓ.writeParts c f).Bounded limit where
  stored := h.stored
  attempts := h.attempts
  parts := by
    intro p hp
    obtain ⟨q, hq, rfl⟩ := List.mem_map.1 hp
    split
    · exact (hf _).trans_le (h.parts q hq)
    · exact h.parts q hq

theorem Bounded.settle (h : ℓ.Bounded limit) (partId : ℕ) (attemptId : String) (s : Settlement)
    (now : Instant) : (ℓ.settle partId attemptId s now).Bounded limit :=
  h.writeParts fun _ => rfl

theorem Bounded.recover (h : ℓ.Bounded limit) (hlease : Elapsed ℓ.event.leaseExpiresAt now) :
    (ℓ.recover now).Paced limit now where
  toBounded :=
    { h.writeParts (c := fun p => p.deliveryState = .inFlight) (f := PartDelivery.recoverStale now)
        fun _ => rfl with }
  lease := Or.inl hlease
  unspent := fun _ _ hflight => by cases hflight

theorem Bounded.terminate (h : ℓ.Bounded limit) (req : NoSendRequest) {terminal : DeliveryState}
    (hterminal : NoSendTerminal terminal) (clock : Instant) :
    (ℓ.terminate req terminal).Paced limit clock := by
  have hstate : terminal ≠ .inFlight := by
    rcases hterminal with h | h | h <;> rw [h] <;> decide
  have hevent : (ℓ.writeEvent (EventDelivery.close terminal)).Bounded limit :=
    { h with }
  exact (hevent.writeParts (f := PartDelivery.terminate terminal req.reason req.now)
    fun _ => rfl).mark hstate _ _ _ _ _

theorem Bounded.claimLimit_eq (h : ℓ.Bounded limit) (hpos : 1 ≤ limit) :
    ℓ.event.claimLimit = limit := by
  have hlimit := h.stored
  unfold EventDelivery.claimLimit
  split_ifs <;> omega

theorem Paced.step {eventId : ℕ} {op : Operation} (h : ℓ.Paced limit clock) (hpos : 1 ≤ limit)
    (hstep : Step eventId ℓ op ℓ') (hclock : clock ≤ op.now)
    (hfence : ∀ partId attemptId now, op = .markPartInFlight partId attemptId now →
      (∃ p ∈ ℓ.parts, p.id = partId) → ¬ Elapsed ℓ.event.leaseExpiresAt now) :
    ℓ'.Paced limit op.now := by
  have hb := h.toBounded
  have hlimit := hb.claimLimit_eq hpos
  have hlease : Elapsed ℓ.event.leaseExpiresAt op.now ∨ ℓ.event.deliveryState = .inFlight :=
    h.lease.imp_left fun he => he.mono hclock
  cases hstep with
  | idle => exact ⟨hb, hlease, h.unspent⟩
  | recover _ helapsed | claimRecover _ _ helapsed => exact hb.recover helapsed
  | exhaust => exact hb.mark (by decide) _ _ _ _ _
  | grant hclaim hid hcount => exact hb.grant (hlimit ▸ hcount) _
  | grantSent hclaim hid hcount =>
    exact (hb.grant (hlimit ▸ hcount) clock).toBounded.finalize _ _
  | grantEmpty hclaim hid hcount =>
    exact (hb.grant (hlimit ▸ hcount) clock).toBounded.mark (by decide) _ _ _ _ _
  | @hand partId attemptId now hclaim hpart =>
    obtain ⟨p, hp, htrans⟩ := hpart
    -- the live lease says that the claim is still in flight
    have hflight : ℓ.event.deliveryState = .inFlight :=
      hlease.resolve_left (hfence partId attemptId now rfl ⟨p, hp, htrans.1⟩)
    refine ⟨⟨hb.stored, hb.attempts, ?_⟩, Or.inr hflight, ?_⟩
    · intro p' hp'
      obtain ⟨q, hq, rfl⟩ := List.mem_map.1 hp'
      split
      · next hq' => exact h.unspent q hq hflight hq'.2
      · exact hb.parts q hq
    · intro p' hp' _ hclaimable
      obtain ⟨q, hq, rfl⟩ := List.mem_map.1 hp'
      split at hclaimable
      · exact absurd hclaimable (show ¬ DeliveryState.inFlight.AutoClaimable by decide)
      · next hq' =>
        rw [if_neg hq']
        exact h.unspent q hq hflight hclaimable
  | conflict => exact hb.mark (by decide) _ _ _ _ _
  | @settle _ partId attemptId result now s hs hclaim hpart hstate =>
    have hresult : ResultState s.state :=
      hs ▸ Settlement.resultState_schedule _ now (result.resultState_settle now)
    refine (hb.settle partId attemptId s now).mark ?_ _ _ _ _ _
    rcases hresult with h | h | h | h <;> rw [h] <;> decide
  | @settleSent _ partId attemptId result now s hs hclaim hpart hstate =>
    refine ⟨hb.settle partId attemptId s now, hlease, ?_⟩
    intro p hp hflight hclaimable
    obtain ⟨q, hq, rfl⟩ := List.mem_map.1 hp
    split at hclaimable
    · exact absurd (hstate ▸ hclaimable : DeliveryState.sent.AutoClaimable) (by decide)
    · next hq' =>
      rw [if_neg hq']
      exact h.unspent q hq hflight hclaimable
  | finalize => exact (hb.settle _ _ _ _).finalize _ _
  | terminate hid hterminal => exact hb.terminate _ hterminal _
  | fallback => exact hb.mark (by decide) _ _ _ _ _

/-- Only a claim brings an event in flight. -/
theorem Step.claim_of_inFlight {eventId : ℕ} {op : Operation} (h : Step eventId ℓ op ℓ')
    (hbefore : ℓ.event.deliveryState ≠ .inFlight) (hafter : ℓ'.event.deliveryState = .inFlight) :
    ∃ req, op = .claim req ∧ req.eventId = eventId := by
  cases h with
  | idle | hand | settleSent => exact absurd hafter hbefore
  | grant hclaim hid => exact ⟨_, rfl, hid⟩
  | recover | claimRecover | exhaust | grantSent | grantEmpty | conflict | finalize | fallback =>
    cases hafter
  | @settle _ _ _ result now s hs =>
    have hresult : ResultState s.state :=
      hs ▸ Settlement.resultState_schedule _ now (result.resultState_settle now)
    have hstate : s.state = .inFlight := hafter
    rw [hstate] at hresult
    rcases hresult with h | h | h | h <;> cases h
  | @terminate req _ _ hterminal =>
    generalize DeliveryState.ofText (some req.state) = terminal at hterminal hafter
    rcases hterminal with rfl | rfl | rfl <;> cases hafter

end Ledger

/-! ## Fenced runs -/

variable {eventId limit : ℕ}

def Clocked.Paced (eventId limit : ℕ) (s : Clocked) : Prop :=
  s.db.Holds eventId (Ledger.Paced limit s.clock)

variable {db : Database} {op : Operation}

variable {partId : ℕ} {ops : List Operation} {attemptId : String}

theorem Fenced.mark {ℓ : Ledger} (h : Fenced eventId db op) (hℓ : db.ledger eventId = some ℓ)
    {now : Instant} (hop : op = .markPartInFlight partId attemptId now)
    (hpart : ∃ p ∈ ℓ.parts, p.id = partId) :
    ¬ Elapsed ℓ.event.leaseExpiresAt now := by
  obtain ⟨p, hp, rfl⟩ := hpart
  obtain ⟨hrow, hk⟩ := Database.mem_rows_of_ledger hℓ hp
  rw [hop] at h
  exact h p (Table.fetch_of_mem hrow) hk ℓ.event (Database.fetch_of_ledger hℓ)

theorem Clocked.Paced.step {s : Clocked} (hpos : 1 ≤ limit)
    (hok : s.clock ≤ op.now ∧ Fenced eventId s.db op) (h : s.Paced eventId limit) :
    (s.step op).Paced eventId limit := by
  obtain ⟨ℓ, hℓ, hpaced⟩ := h
  obtain ⟨ℓ', hℓ', hstep⟩ := s.db.step_ledger op hℓ
  exact ⟨ℓ', hℓ', hpaced.step hpos hstep hok.1 fun _ _ _ hop => hok.2.mark hℓ hop⟩

theorem FencedRun.paced {intent : Intent} {start : Instant} (h : FreshIntent intent db)
    (hrun : FencedRun intent.eventId start db ops) :
    (Transition.run Clocked.step ⟨start, db⟩ ops).Paced intent.eventId
      (max 1 intent.maxAttempts) := by
  obtain ⟨ℓ, hℓ, hfresh⟩ := h.ledger
  exact Transition.Disciplined.invariant
    (I := Clocked.Paced intent.eventId (max 1 intent.maxAttempts))
    (fun _ _ hok => Clocked.Paced.step (le_max_left _ _) hok) hrun
    ⟨ℓ, hℓ, Ledger.Paced.fresh hfresh start⟩

theorem Clocked.Paced.inFlight {s : Clocked} {now : Instant} {p : Part}
    (h : s.Paced eventId limit)
    (hok : s.clock ≤ now ∧ Fenced eventId s.db (.markPartInFlight partId attemptId now))
    (hp : s.db.parts.fetch partId = some p) (hk : p.eventId = eventId) :
    ∃ ev, s.db.events.fetch eventId = some ev ∧ ev.deliveryState = .inFlight := by
  obtain ⟨ℓ, hℓ, hpaced⟩ := h
  have hlive : ¬ Elapsed ℓ.event.leaseExpiresAt now :=
    hok.2.mark hℓ rfl ⟨p, Database.mem_ledger_parts hℓ hp hk, Table.key_of_fetch hp⟩
  exact ⟨ℓ.event, Database.fetch_of_ledger hℓ,
    hpaced.lease.resolve_left fun he => hlive (he.mono hok.1)⟩

def LeaseRecovered (eventId : ℕ) (db : Database) (op : Operation) : Prop :=
  ((∃ now, op = .recoverStaleInFlight eventId now) ∨ ∃ req, op = .claim req) ∧
    (∃ ev, db.events.fetch eventId = some ev ∧ ev.deliveryState = .inFlight) ∧
    ∃ ev, (db.step op).events.fetch eventId = some ev ∧ ev.deliveryState = .uncertain

/-- An event that comes back in flight was claimed. -/
theorem exists_claim_of_inFlight {s : DeliveryState} (hbefore : db.storedState eventId = some s)
    (hs : s ≠ .inFlight) (hafter : (db.run ops).storedState eventId = some .inFlight) :
    ∃ l req r, ops = l ++ .claim req :: r ∧ req.eventId = eventId := by
  induction ops generalizing db s with
  | nil => exact absurd (Option.some.inj (hbefore.symm.trans hafter)) hs
  | cons op ops ih =>
    obtain ⟨ℓ, hℓ, rfl⟩ := Database.exists_ledger_of_storedState hbefore
    obtain ⟨ℓ', hℓ', hstep⟩ := db.step_ledger op hℓ
    by_cases hflight : ℓ'.event.deliveryState = .inFlight
    · obtain ⟨req, rfl, hid⟩ := hstep.claim_of_inFlight hs hflight
      exact ⟨[], req, ops, rfl, hid⟩
    · obtain ⟨l, req, r, rfl, hid⟩ := ih (Database.storedState_of_ledger hℓ') hflight hafter
      exact ⟨op :: l, req, r, rfl, hid⟩

def Transmits (partId : ℕ) (db : Database) : Operation → Prop
  | .markPartInFlight id attemptId now => id = partId ∧ Handed db id attemptId now
  | _ => False

instance (partId : ℕ) (db : Database) : DecidablePred (Transmits partId db)
  | .markPartInFlight .. => inferInstanceAs (Decidable (_ ∧ _))
  | .recoverStaleInFlight .. | .claim .. | .recordPartResult .. | .markTerminalWithoutSend ..
  | .markUncertainAfterPersistenceFailure .. => inferInstanceAs (Decidable False)

/-- The number of times a run hands the part to the transport. -/
def transmissions (partId : ℕ) (db : Database) (ops : List Operation) : ℕ :=
  Transition.tally Database.step (Transmits partId) db ops

def Database.partAttempts (db : Database) (partId : ℕ) : ℕ :=
  ((db.parts.fetch partId).map (·.attemptCount)).getD 0

theorem partAttempts_step (db : Database) (op : Operation) (partId : ℕ) :
    db.partAttempts partId ≤ (db.step op).partAttempts partId := by
  unfold Database.partAttempts
  cases hp : db.parts.fetch partId with
  | none => exact Nat.zero_le _
  | some p =>
    obtain ⟨ev, p', -, hp', hstep⟩ := db.step_part op hp
    rw [hp']
    cases hstep with
    | same | recover | record | terminate => exact le_refl _
    | hand => exact Nat.le_succ _

theorem partAttempts_of_transmits (h : Transmits partId db op) :
    db.partAttempts partId + 1 ≤ (db.step op).partAttempts partId := by
  cases op with
  | markPartInFlight id attemptId now =>
    obtain ⟨rfl, hhanded⟩ := h
    obtain ⟨p, ev, hp, hclaimable, -, -, hstep⟩ := hhanded.spec
    have htrans : Transmittable id p := ⟨Table.key_of_fetch hp, hclaimable⟩
    rw [hstep, Database.partAttempts, Database.partAttempts, Database.fetch_updateParts, hp]
    simp [htrans, PartDelivery.markInFlight]
  | recoverStaleInFlight | claim | recordPartResult | markTerminalWithoutSend
  | markUncertainAfterPersistenceFailure => exact h.elim

/-- The stored attempt count bounds the transmissions of a part, in every run. -/
theorem transmissions_le (partId : ℕ) (db : Database) (ops : List Operation) :
    transmissions partId db ops ≤ (db.run ops).partAttempts partId :=
  le_trans (Nat.le_add_left _ _)
    (Transition.tally_le (φ := fun db => db.partAttempts partId)
      (fun s op => partAttempts_step s op partId) (fun _ _ => partAttempts_of_transmits) db ops)

/-- **Terminal fence.** In every quiet run from a committed intent whose marks are made under
a live lease, a part is handed to the transport only while its event is `IN_FLIGHT`: never after the
event became terminal or its lease was recovered, after it became `RETRYABLE` only when it was
claimed again, and each part at most `max_attempts` times. -/
theorem handed_only_in_flight_of_fenced (intent : Intent) (db : Database) (start : Instant)
    (ops : List Operation) (h : FreshIntent intent db)
    (hrun : FencedRun intent.eventId start db ops) (hquiet : QuietRun intent.eventId db ops) :
    (∀ before partId attemptId now after p,
      ops = before ++ .markPartInFlight partId attemptId now :: after →
      Handed (db.run before) partId attemptId now →
      (db.run before).parts.fetch partId = some p → p.eventId = intent.eventId →
      (db.run before).storedState intent.eventId = some .inFlight ∧
      (∀ l r s, before = l ++ r → (db.run l).storedState intent.eventId = some s →
        ¬ s.Terminal ∧
        (s = .retryable → ∃ r₁ req r₂, r = r₁ ++ .claim req :: r₂ ∧
          req.eventId = intent.eventId)) ∧
      ∀ l op r, before = l ++ op :: r → ¬ LeaseRecovered intent.eventId (db.run l) op) ∧
    ∀ p ∈ db.partsOf intent.eventId, transmissions p.id db ops ≤ max 1 intent.maxAttempts := by
  constructor
  · rintro before partId attemptId now after p rfl hhanded hp hk
    obtain ⟨hbefore, hok, -⟩ := hrun.of_append
    obtain ⟨ev, hev, hstate⟩ := (FencedRun.paced h hbefore).inFlight (p := p) hok
      (by rwa [Clocked.run_db]) hk
    rw [Clocked.run_db] at hev
    have hflight : (db.run before).storedState intent.eventId = some .inFlight := by
      rw [Database.storedState, hev, Option.map_some, hstate]
    -- a terminal state would still be there
    have hopen : ∀ l r s, before = l ++ r → (db.run l).storedState intent.eventId = some s →
        ¬ s.Terminal := by
      rintro l r s rfl hs hterminal
      rw [List.append_assoc] at hquiet
      have hkept := Transition.Disciplined.invariant
        (I := fun db => db.storedState intent.eventId = some s)
        (fun _ _ hq => hq.storedState_step hterminal) hquiet.of_append.2.of_append.1 hs
      rw [Database.run, Transition.run_append] at hflight
      rw [← Option.some.inj (hflight.symm.trans hkept)] at hterminal
      exact absurd hterminal (by decide)
    refine ⟨hflight, fun l r s hsplit hs => ⟨hopen l r s hsplit hs, ?_⟩, ?_⟩
    · rintro rfl
      subst hsplit
      rw [Database.run, Transition.run_append] at hflight
      exact exists_claim_of_inFlight hs (by decide) hflight
    · rintro l op r hsplit ⟨-, -, ev', hev', huncertain⟩
      refine hopen (l ++ [op]) r .uncertain (by rw [hsplit]; simp) ?_ (by decide)
      rw [Database.run, Transition.run_append]
      exact (congrArg (Option.map _) hev').trans (congrArg some huncertain)
  · intro p hp
    obtain ⟨hrow, hk⟩ := Database.mem_partsOf.1 hp
    obtain ⟨p', hp', hk'⟩ := exists_part_run (Table.fetch_of_mem hrow) ops
    obtain ⟨ℓ, hℓ, hpaced⟩ := FencedRun.paced h hrun
    rw [Clocked.run_db] at hℓ
    have hmem := Database.mem_ledger_parts hℓ hp' (hk'.trans hk)
    calc transmissions p.id db ops
        ≤ (db.run ops).partAttempts p.id := transmissions_le p.id db ops
      _ = p'.attemptCount := by rw [Database.partAttempts, hp']; rfl
      _ ≤ ℓ.event.attemptCount := hpaced.parts p' hmem
      _ ≤ max 1 intent.maxAttempts := hpaced.attempts

/-- The sample part is handed under a live lease. -/
theorem handed_only_in_flight_of_fenced_sample :
    ∃ p ∈ (Sample.committed "a").partsOf 1, transmissions p.id (Sample.committed "a")
      [Sample.claimAt 0 "x", .markPartInFlight 1 "x" 1000000] ≤ 3 :=
  have hparts : (Sample.committed "a").partsOf 1 ≠ [] := by
    rw [← List.isEmpty_eq_false_iff]
    decide +kernel
  ⟨_, List.head_mem hparts, (handed_only_in_flight_of_fenced (Sample.intent "a")
    (Sample.committed "a") 0 [Sample.claimAt 0 "x", .markPartInFlight 1 "x" 1000000]
    (Sample.fresh "a" (by decide +kernel)) (by decide +kernel) (by decide +kernel)).2 _
    (List.head_mem hparts)⟩

/-- Without the fence: a worker that resumes after its lease was recovered hands the
part of an `UNCERTAIN` event, and a worker that goes on under one claim transmits it
four times where three attempts are allowed. -/
theorem handed_after_recovery :
    FreshIntent (Sample.intent "a") (Sample.committed "a") ∧
      ((Sample.committed "a").run
        [Sample.claimAt 0 "x", .recoverStaleInFlight 1 300000000]).eventState 1 = .uncertain ∧
      Handed ((Sample.committed "a").run
        [Sample.claimAt 0 "x", .recoverStaleInFlight 1 300000000]) 1 "x" 400000000 ∧
      transmissions 1 (Sample.committed "a")
        [Sample.claimAt 0 "x",
          .markPartInFlight 1 "x" 0, .recordPartResult 1 1 1 "x" Sample.rejected 0,
          .markPartInFlight 1 "x" 0, .recordPartResult 1 1 1 "x" Sample.rejected 0,
          .markPartInFlight 1 "x" 0, .recordPartResult 1 1 1 "x" Sample.rejected 0,
          .markPartInFlight 1 "x" 0] = 4 :=
  ⟨Sample.fresh "a" (by decide +kernel), by decide +kernel, by decide +kernel, by decide +kernel⟩

end CandleCraft.Outbox
