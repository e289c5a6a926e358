import CandleCraft.Outbox.Delivery

/-!
# Terminal states

An event in a terminal state is out of reach of claims, recoveries and no-send closings. Two
transactions still write it: `record_part_result` compares only the attempt id, and the persistence
fallback compares nothing. `Quiet` runs leave those out.
-/

namespace CandleCraft.Outbox

open Relational PyText Ownership

def Database.storedState (db : Database) (eventId : ℕ) : Option DeliveryState :=
  (db.events.fetch eventId).map (·.deliveryState)

variable {db : Database} {eventId : ℕ}

theorem Database.storedState_of_ledger {ℓ : Ledger}
    (h : db.ledger eventId = some ℓ) : db.storedState eventId = some ℓ.event.deliveryState := by
  rw [storedState, fetch_of_ledger h]
  rfl

variable {s : DeliveryState}

theorem Database.exists_ledger_of_storedState (h : db.storedState eventId = some s) :
    ∃ ℓ, db.ledger eventId = some ℓ ∧ ℓ.event.deliveryState = s := by
  obtain ⟨ev, hev, rfl⟩ := Option.map_eq_some_iff.1 h
  exact ⟨_, ledger_eq_some_iff.2 ⟨ev, hev, rfl⟩, rfl⟩

/-! ## Absorption -/

/-- On a terminal event: no fallback unless the event is `UNCERTAIN` already, and no
result under its attempt id unless the event is `UNCERTAIN` and the part is not in
flight under that attempt. -/
def Quiet (eventId : ℕ) (db : Database) : Operation → Prop
  | .recordPartResult e _ partId attemptId _ _ => e = eventId →
      ∀ ev ∈ db.events.fetch eventId, ev.deliveryState.Terminal → ev.attemptId = some attemptId →
        ev.deliveryState = .uncertain ∧
          ∀ p ∈ db.parts.fetch partId, ¬ InFlightUnder partId attemptId p
  | .markUncertainAfterPersistenceFailure e _ _ _ => e = eventId →
      ∀ ev ∈ db.events.fetch eventId, ev.deliveryState.Terminal → ev.deliveryState = .uncertain
  | _ => True

instance (eventId : ℕ) (db : Database) : DecidablePred (Quiet eventId db)
  | .recordPartResult .. =>
    inferInstanceAs (Decidable (_ → ∀ ev ∈ db.events.fetch eventId, _ → _ → _ ∧ ∀ p ∈ _, _))
  | .markUncertainAfterPersistenceFailure .. =>
    inferInstanceAs (Decidable (_ → ∀ ev ∈ db.events.fetch eventId, _ → _))
  | .recoverStaleInFlight .. | .claim .. | .markPartInFlight .. | .markTerminalWithoutSend .. =>
    inferInstanceAs (Decidable True)

def QuietRun (eventId : ℕ) (db : Database) (ops : List Operation) : Prop :=
  Transition.Disciplined Database.step (Quiet eventId) db ops

instance (eventId : ℕ) (db : Database) (ops : List Operation) :
    Decidable (QuietRun eventId db ops) :=
  inferInstanceAs (Decidable (Transition.Disciplined Database.step (Quiet eventId) db ops))

theorem Quiet.storedState_step {op : Operation}
    (hquiet : Quiet eventId db op) (hterminal : s.Terminal)
    (h : db.storedState eventId = some s) : (db.step op).storedState eventId = some s := by
  obtain ⟨ℓ, hℓ, rfl⟩ := Database.exists_ledger_of_storedState h
  obtain ⟨ℓ', hℓ', hstep⟩ := db.step_ledger op hℓ
  have hev := Database.fetch_of_ledger hℓ
  rw [Database.storedState_of_ledger hℓ']
  cases hstep.of_terminal hterminal with
  | same | hand => rfl
  | late hclaim hpart =>
    obtain ⟨p, hp, hunder⟩ := hpart
    have hfetch := Table.fetch_of_mem (Database.mem_rows_of_ledger hℓ hp).1
    exact absurd hunder ((hquiet rfl _ hev hterminal hclaim).2 p (hunder.1 ▸ hfetch))
  | conflict hclaim => rw [(hquiet rfl _ hev hterminal hclaim).1]; rfl
  | fallback => rw [hquiet rfl _ hev hterminal]; rfl

/-- **Terminal states are absorbing** in every run that is quiet on the event. -/
theorem terminal_absorbing_of_quiet (db : Database) (eventId : ℕ) (s : DeliveryState)
    (ops : List Operation) (hterminal : s.Terminal) (h : db.storedState eventId = some s)
    (hquiet : QuietRun eventId db ops) : (db.run ops).storedState eventId = some s :=
  Transition.Disciplined.invariant (I := fun db => db.storedState eventId = some s)
    (fun _ _ hq => hq.storedState_step hterminal) hquiet h

/-- A run that hands both parts of the sample and records an unclear outcome of the
first. -/
def Sample.loseFirst : List Operation :=
  [claimAt 0 "x", .markPartInFlight 1 "x" 0, .markPartInFlight 2 "x" 0,
    .recordPartResult 1 1 1 "x"
      ⟨some "UNCERTAIN", none, none, none, none, none, none, none, none⟩ 0]

/-- A sent event stays sent through a claim, a recovery and a result under another
attempt id. -/
theorem terminal_absorbing_of_quiet_sample :
    (((Sample.committed "a b").run Sample.sendBoth).run
      [Sample.claimAt 1000000 "y", .recoverStaleInFlight 1 400000000,
        .recordPartResult 1 1 1 "w" Sample.rejected 400000000]).storedState 1 = some .sent :=
  terminal_absorbing_of_quiet _ 1 .sent _ (by decide) (by decide +kernel) (by decide +kernel)

/-- Without the condition: a repeated result or the fallback turns a `SENT` event
`UNCERTAIN`, and the late result of a sibling part turns an `UNCERTAIN` event
`RETRYABLE`. -/
theorem terminal_state_overwritten :
    FreshIntent (Sample.intent "a b") (Sample.committed "a b") ∧
    (((Sample.committed "a b").run Sample.sendBoth).storedState 1 = some .sent ∧
      ((Sample.committed "a b").run (Sample.sendBoth ++
        [.recordPartResult 1 1 1 "x" (Sample.accepted "7") 0])).storedState 1 =
          some .uncertain ∧
      ((Sample.committed "a b").run (Sample.sendBoth ++
        [.markUncertainAfterPersistenceFailure 1 1 "d" 0])).storedState 1 = some .uncertain) ∧
    ((Sample.committed "a b").run Sample.loseFirst).storedState 1 = some .uncertain ∧
      ((Sample.committed "a b").run (Sample.loseFirst ++
        [.recordPartResult 1 1 2 "x" Sample.rejected 0])).storedState 1 = some .retryable := by
  refine ⟨Sample.fresh "a b" (by decide +kernel), ?_, ?_⟩
  · decide +kernel
  · decide +kernel

/-! ## No-send terminalization -/

structure Ledger.Closed (ℓ : Ledger) : Prop where
  event : ℓ.event.deliveryState.Terminal
  parts : ∀ p ∈ ℓ.parts, p.deliveryState.Terminal

/-- A closed ledger stays closed: nothing is left to hand or to settle. -/
theorem Ledger.Closed.step {ℓ ℓ' : Ledger} {op : Operation} (h : ℓ.Closed)
    (hstep : Ledger.Step eventId ℓ op ℓ') : ℓ'.Closed := by
  cases hstep.of_terminal h.event with
  | same => exact h
  | hand hclaim hpart =>
    obtain ⟨p, hp, htrans⟩ := hpart
    exact absurd htrans.2 (h.parts p hp).not_claimable
  | late hclaim hpart =>
    obtain ⟨p, hp, hunder⟩ := hpart
    exact absurd hunder.2.1 (h.parts p hp).ne_inFlight
  | conflict | fallback => exact ⟨Or.inr (Or.inl rfl), h.parts⟩

theorem claim_none_of_terminal {req : ClaimRequest}
    {result : ClaimResult} (h : db.storedState req.eventId = some s) (hterminal : s.Terminal)
    (hclaim : (claim req db).1 = .ok result) : result.claim = none := by
  obtain ⟨ev, hev, rfl⟩ := Option.map_eq_some_iff.1 h
  have hclaimable : ¬ ev.deliveryState.normalize.AutoClaimable :=
    hterminal.normalize_eq.symm ▸ hterminal.not_claimable
  rcases claim_cases (Prod.ext hclaim rfl) with ⟨hnone, -⟩ | ⟨-, -, -, hrecovered⟩
  · exact hnone
  · exact (claimRecovered_of_not_claimable hev hclaimable hrecovered).2

theorem Ledger.Closed.not_handed {eventId partId : ℕ} {attemptId : String}
    {now : Instant} {p : Part} (h : db.Holds eventId Ledger.Closed)
    (hp : db.parts.fetch partId = some p) (hk : p.eventId = eventId) :
    ¬ Handed db partId attemptId now := by
  intro hhanded
  obtain ⟨ℓ, hℓ, hclosed⟩ := h
  obtain ⟨q, ev, hq, hclaimable, -⟩ := hhanded.spec
  rw [hp] at hq
  cases hq
  exact (hclosed.parts p (Database.mem_ledger_parts hℓ hp hk)).not_claimable hclaimable

theorem NoSendTerminal.terminal (h : NoSendTerminal s) : s.Terminal := by
  rcases h with rfl | rfl | rfl <;> decide

/-- A no-send closing writes its state to the event, the reservation and every
claimable part. -/
theorem Ledger.terminate_states {ℓ : Ledger} {reservation : Attempt} (req : NoSendRequest)
    (terminal : DeliveryState) (hres : ℓ.reservation = some reservation)
    (hparts : ∀ p ∈ ℓ.parts, p.deliveryState.AutoClaimable) :
    (ℓ.terminate req terminal).event.deliveryState = terminal ∧
      (∃ a, (ℓ.terminate req terminal).reservation = some a ∧ a.deliveryState = terminal) ∧
      ∀ p ∈ (ℓ.terminate req terminal).parts, p.deliveryState = terminal := by
  refine ⟨rfl, ⟨reservation.write (AttemptDelivery.mark terminal req.reason req.reason req.now
    none), congrArg (Option.map _) hres, rfl⟩, ?_⟩
  intro p hp
  rw [Ledger.terminate_parts] at hp
  obtain ⟨q, hq, rfl⟩ := List.mem_map.1 hp
  rw [if_pos (hparts q hq)]
  rfl

/-- **No-send terminalization is fenced.** When `mark_terminal_without_send` returns
`True`, every part was `PENDING` or `RETRYABLE`, the event, its reservation and all of
its parts are then in the requested state, and whatever runs afterwards, no claim and
no mark on the event succeeds. Otherwise no row changes. -/
theorem no_send_terminalization_fenced (req : NoSendRequest) (db : Database) :
    ((markTerminalWithoutSend req db).1 = .ok true →
      (∀ p ∈ db.partsOf req.eventId, p.deliveryState = .pending ∨ p.deliveryState = .retryable) ∧
      (∃ ev reservation,
        (db.step (.markTerminalWithoutSend req)).events.fetch req.eventId = some ev ∧
        ev.canonicalReservationAttemptId = some req.reservationId ∧
        (db.step (.markTerminalWithoutSend req)).attempts.fetch req.reservationId =
          some reservation ∧
        ev.deliveryState = DeliveryState.ofText (some req.state) ∧
        reservation.deliveryState = DeliveryState.ofText (some req.state) ∧
        ∀ p ∈ (db.step (.markTerminalWithoutSend req)).partsOf req.eventId,
          p.deliveryState = DeliveryState.ofText (some req.state)) ∧
      ∀ ops,
        (∀ creq result, creq.eventId = req.eventId →
          (claim creq (db.run (.markTerminalWithoutSend req :: ops))).1 = .ok result →
          result.claim = none) ∧
        ∀ partId p attemptId now,
          (db.run (.markTerminalWithoutSend req :: ops)).parts.fetch partId = some p →
          p.eventId = req.eventId →
          ¬ Handed (db.run (.markTerminalWithoutSend req :: ops)) partId attemptId now) ∧
    ((markTerminalWithoutSend req db).1 ≠ .ok true →
      db.step (.markTerminalWithoutSend req) = db) := by
  rcases markTerminalWithoutSend_cases req db with
    ⟨hrefused, hsame⟩ |
    ⟨ev, reservation, hterminal, hexpected, hev, hres, hr, hsnapshot, htarget, hdone⟩
  · exact ⟨fun h => absurd h hrefused, fun _ => hsame⟩
  refine ⟨fun _ => ⟨fun p hp => hsnapshot.claimable hp, ?_⟩, fun h => ?_⟩
  swap
  · rw [hdone] at h
    exact absurd rfl h
  have hstep : db.step (.markTerminalWithoutSend req) =
      db.terminate req (DeliveryState.ofText (some req.state)) := congrArg Prod.snd hdone
  simp only [Database.run, Transition.run_cons, hstep]
  generalize DeliveryState.ofText (some req.state) = terminal at hterminal
  have hℓ := Database.ledger_eq_some_iff.2 ⟨ev, hev, rfl⟩
  -- what is written is read off the ledger of the event, which is then closed for good
  have hclosed := Database.ledger_terminate terminal hℓ (Database.canonical_iff hℓ hev hr)
    fun _ => htarget
  rw [if_pos rfl] at hclosed
  obtain ⟨hevent, ⟨a, ha, hastate⟩, hparts⟩ := Ledger.terminate_states req terminal
    (by rw [Database.reservation_of_ledger hℓ]; exact (congrArg (Option.bind · _) hr).trans hres)
    (fun p hp => hsnapshot.claimable hp)
  have hrun : ∀ ops, ((db.terminate req terminal).run ops).Holds req.eventId Ledger.Closed :=
    Database.Holds.run (fun _ _ _ h => h.step)
      ⟨_, hclosed, hevent ▸ hterminal.terminal, fun p hp => hparts p hp ▸ hterminal.terminal⟩
  refine ⟨⟨_, a, Database.fetch_of_ledger hclosed, hr, ?_, hevent, hastate, ?_⟩, fun ops => ⟨?_, ?_⟩⟩
  · rw [Database.reservation_of_ledger hclosed] at ha
    exact (congrArg (Option.bind · _) hr).symm.trans ha
  · rw [Database.partsOf_of_ledger hclosed]
    exact hparts
  · intro creq result hid hclaim
    obtain ⟨ℓ, hℓ, h⟩ := hrun ops
    rw [← hid] at hℓ
    exact claim_none_of_terminal (Database.storedState_of_ledger hℓ) h.event hclaim
  · intro partId p attemptId now hp hk
    exact Ledger.Closed.not_handed (hrun ops) hp hk

def Sample.dryRun : NoSendRequest :=
  ⟨1, 1, "SKIPPED_DRY_RUN", "dry_run", 0, .pending, none, 0⟩

/-- The sample is closed by its dry run, and no later run sends its part. -/
theorem no_send_terminalization_fenced_sample :
    (∃ ev, ((Sample.committed "a").step (.markTerminalWithoutSend Sample.dryRun)).events.fetch 1 =
        some ev ∧ ev.deliveryState = DeliveryState.ofText (some "SKIPPED_DRY_RUN")) ∧
      ∀ ops p, ((Sample.committed "a").run
          (.markTerminalWithoutSend Sample.dryRun :: ops)).parts.fetch 1 = some p →
        p.eventId = 1 → ¬ Handed ((Sample.committed "a").run
          (.markTerminalWithoutSend Sample.dryRun :: ops)) 1 "x" 0 := by
  obtain ⟨-, ⟨ev, -, hev, -, -, hstate, -⟩, hafter⟩ :=
    (no_send_terminalization_fenced Sample.dryRun (Sample.committed "a")).1 (by decide +kernel)
  exact ⟨⟨ev, hev, hstate⟩, fun ops p => (hafter ops).2 1 p "x" 0⟩

end CandleCraft.Outbox
