import CandleCraft.Outbox.Intent

/-!
# The reservation as a projection of its event

Every transaction that writes the delivery state or the attempt count of an event
writes its canonical reservation in the same commit, and an event is `SENT` only by
`_finalize_sent_locked`, after all of its parts. `Ledger.Projected` is the invariant
behind the two: it also says that a sent part carries a message id.
-/

namespace CandleCraft.Outbox

open Relational PyText Ownership

/-- A part as the outbox writes it: its state is a text of the outbox, and a sent
part carries a message id. -/
structure Part.Proven (p : Part) : Prop where
  known : p.deliveryState.normalize = p.deliveryState
  messageId : p.deliveryState = .sent → ∃ id, p.telegramMessageId = some id ∧ id ≠ ""

theorem optionalText_ne {value : Option String} {t : String} (h : optionalText value = some t) :
    t ≠ "" := by
  unfold optionalText at h
  split at h
  · cases h
  · next hne =>
    cases h
    exact hne

theorem ResultState.normalize_eq {s : DeliveryState} (h : ResultState s) : s.normalize = s := by
  rcases h with rfl | rfl | rfl | rfl <;> rfl

theorem Part.Proven.record (p : Part) {result : PartResult} {ev : Event} {now : Instant}
    {s : Settlement} (hs : s = (result.settle now).schedule ev now) :
    (p.write (PartDelivery.record s now)).Proven where
  known := by
    have hresult : ResultState s.state :=
      hs ▸ Settlement.resultState_schedule ev now (result.resultState_settle now)
    exact hresult.normalize_eq
  messageId := by
    intro hsent
    have hstate : s.state = .sent := hsent
    have hsame : s = result.settle now := hs.trans (Settlement.schedule_of_sent (hs ▸ hstate))
    obtain ⟨id, hid⟩ := Option.ne_none_iff_exists'.1
      (PartResult.messageId_of_settle_sent (hsame ▸ hstate))
    have htext : optionalText result.messageId = some id := hid
    refine ⟨id, ?_, optionalText_ne htext⟩
    change (if s.state = .sent then s.messageId else none) = some id
    rw [if_pos hstate, hsame, hid]

theorem Part.Proven.step {ev : Event} {op : Operation} {p p' : Part} (h : p.Proven)
    (hstep : Ledger.PartStep ev op p p') : p'.Proven := by
  cases hstep with
  | same => exact h
  | recover | hand => exact ⟨rfl, nofun⟩
  | record hop hs => exact .record p hs
  | @terminate terminal reason now hterminal =>
    refine ⟨?_, fun hsent => ?_⟩
    · change terminal.normalize = terminal
      rcases hterminal with rfl | rfl | rfl <;> rfl
    · have hsent' : terminal = .sent := hsent
      rcases hterminal with h | h | h <;> rw [h] at hsent' <;> cases hsent'

namespace Ledger

def joinedMessageIds (ℓ : Ledger) : String :=
  ",".intercalate (ℓ.parts.map fun p => p.telegramMessageId.getD "")

structure Complete (ℓ : Ledger) : Prop where
  nonempty : ℓ.parts ≠ []
  sent : ∀ p ∈ ℓ.parts, p.deliveryState = .sent
  messageId : ℓ.event.telegramMessageId = some ℓ.joinedMessageIds

structure Accounted (ℓ : Ledger) : Prop where
  reservation : ∃ a, ℓ.reservation = some a ∧ a.deliveryAttemptCount = ℓ.event.attemptCount
  parts : ∀ p ∈ ℓ.parts, p.Proven

structure Projected (ℓ : Ledger) : Prop extends Accounted ℓ where
  mirrored : ∀ a ∈ ℓ.reservation, a.deliveryState = ℓ.event.deliveryState
  complete : ℓ.event.deliveryState = .sent → ℓ.Complete

variable {ℓ ℓ' : Ledger}

theorem Projected.fresh {maxAttempts : ℕ} (h : ℓ.Fresh maxAttempts) : ℓ.Projected := by
  obtain ⟨a, ha, hstate, hcount⟩ := h.reservation
  refine ⟨⟨⟨a, ha, hcount.trans h.attemptCount.symm⟩, ?_⟩, ?_, ?_⟩
  · intro p hp
    obtain ⟨now, hpending⟩ := h.parts p hp
    refine ⟨?_, ?_⟩
    · rw [hpending]
      rfl
    · rw [hpending]
      exact nofun
  · intro b hb
    rw [ha] at hb
    cases hb
    rw [hstate, h.state]
  · intro hsent
    rw [h.state] at hsent
    cases hsent

theorem messageIdSummary_of_sent {parts : List Part} (hne : parts ≠ [])
    (hproven : ∀ p ∈ parts, p.Proven) (hsent : ∀ p ∈ parts, p.deliveryState = .sent) :
    Database.messageIdSummary parts =
      some (",".intercalate (parts.map fun p => p.telegramMessageId.getD "")) := by
  have hids : (parts.filterMap (·.telegramMessageId)).filter (· ≠ "") =
      parts.map fun p => p.telegramMessageId.getD "" := by
    clear hne
    induction parts with
    | nil => rfl
    | cons p parts ih =>
      obtain ⟨id, hid, hne⟩ :=
        (hproven p List.mem_cons_self).messageId (hsent p List.mem_cons_self)
      have hrest := ih (fun q hq => hproven q (List.mem_cons_of_mem p hq))
        (fun q hq => hsent q (List.mem_cons_of_mem p hq))
      rw [List.map_cons, ← hrest]
      simp [hid, hne]
  unfold Database.messageIdSummary
  rw [hids]
  split
  · next hnil => exact absurd (List.map_eq_nil_iff.1 hnil) hne
  · rfl

theorem mirrored_of_map {f : AttemptDelivery → AttemptDelivery} {state : DeliveryState}
    (hf : ∀ d, (f d).deliveryState = state) :
    ∀ a ∈ ℓ.reservation.map (Attempt.write f), a.deliveryState = state := by
  intro a ha
  obtain ⟨b, -, rfl⟩ := Option.map_eq_some_iff.1 ha
  exact hf _

theorem Accounted.mark (h : ℓ.Accounted) {state : DeliveryState} (hstate : state ≠ .sent)
    (category detail : String) (now : Instant) (nextRetryAt : Option Instant) :
    (ℓ.mark state category detail now nextRetryAt).Projected := by
  obtain ⟨a, ha, hcount⟩ := h.reservation
  exact ⟨⟨⟨_, congrArg (Option.map _) ha, hcount⟩, h.parts⟩, mirrored_of_map fun _ => rfl,
    fun hsent => absurd hsent hstate⟩

theorem Accounted.terminate {req : NoSendRequest} {terminal : DeliveryState} (h : ℓ.Accounted)
    (hparts : ∀ p ∈ (ℓ.terminate req terminal).parts, p.Proven) (hstate : terminal ≠ .sent) :
    (ℓ.terminate req terminal).Projected := by
  have hclosed : ((ℓ.writeEvent (EventDelivery.close terminal)).writeParts
      (fun p => p.deliveryState.AutoClaimable)
      (PartDelivery.terminate terminal req.reason req.now)).Accounted :=
    ⟨h.reservation, hparts⟩
  exact hclosed.mark hstate _ _ _ _

theorem Accounted.finalize (h : ℓ.Accounted) (hne : ℓ.parts ≠ [])
    (hsent : ∀ p ∈ ℓ.parts, p.deliveryState = .sent) (now : Instant) :
    (ℓ.finalize now).Projected := by
  obtain ⟨a, ha, hcount⟩ := h.reservation
  exact ⟨⟨⟨_, congrArg (Option.map _) ha, hcount⟩, h.parts⟩, mirrored_of_map fun _ => rfl,
    fun _ => ⟨hne, hsent, messageIdSummary_of_sent hne h.parts hsent⟩⟩

theorem Accounted.grant (h : ℓ.Accounted) (req : ClaimRequest) : (ℓ.grant req).Projected := by
  obtain ⟨a, ha, hcount⟩ := h.reservation
  exact ⟨⟨⟨_, congrArg (Option.map _) ha, congrArg (· + 1) hcount⟩, h.parts⟩,
    mirrored_of_map fun _ => rfl, nofun⟩

theorem Accounted.recover (h : ℓ.Accounted) {now : Instant}
    (hparts : ∀ p ∈ (ℓ.recover now).parts, p.Proven) : (ℓ.recover now).Projected := by
  obtain ⟨a, ha, hcount⟩ := h.reservation
  exact ⟨⟨⟨_, congrArg (Option.map _) ha, hcount⟩, hparts⟩, mirrored_of_map fun _ => rfl, nofun⟩

theorem Step.proven {eventId : ℕ} {op : Operation} (h : ∀ p ∈ ℓ.parts, p.Proven)
    (hstep : Step eventId ℓ op ℓ') : ∀ p ∈ ℓ'.parts, p.Proven := by
  obtain ⟨f, hf, hpart⟩ := hstep.partStep
  intro p hp
  rw [hf] at hp
  obtain ⟨q, hq, rfl⟩ := List.mem_map.1 hp
  exact (h q hq).step (hpart q hq)

theorem Projected.step {eventId : ℕ} {op : Operation} (h : ℓ.Projected)
    (hstep : Step eventId ℓ op ℓ') : ℓ'.Projected := by
  have hacc := h.toAccounted
  have hparts' := hstep.proven h.parts
  cases hstep with
  | idle => exact h
  | recover | claimRecover => exact hacc.recover hparts'
  | exhaust | conflict | fallback => exact hacc.mark (by decide) _ _ _ _
  | @grant req => exact hacc.grant req
  | @grantSent req hclaim hid hlimit hne hsent =>
    exact (hacc.grant req).finalize hne (fun p hp => (h.parts p hp).known ▸ hsent p hp) _
  | @grantEmpty req => exact (hacc.grant req).mark (by decide) _ _ _ _
  | hand hclaim hpart =>
    refine ⟨⟨hacc.reservation, hparts'⟩, h.mirrored, fun hsent => ?_⟩
    -- a sent event has no part left to hand
    obtain ⟨p, hp, htrans⟩ := hpart
    have hclaimable := htrans.2
    rw [(h.complete hsent).sent p hp] at hclaimable
    exact absurd hclaimable (by decide)
  | @settle _ partId attemptId _ now s hs hclaim hpart hstate =>
    have hsettled : (ℓ.settle partId attemptId s now).Accounted := ⟨hacc.reservation, hparts'⟩
    exact hsettled.mark hstate _ _ _ _
  | settleSent hs hclaim hpart =>
    refine ⟨⟨hacc.reservation, hparts'⟩, h.mirrored, fun hsent => ?_⟩
    -- nor one in flight
    obtain ⟨p, hp, hunder⟩ := hpart
    have hflight := hunder.2.1
    rw [(h.complete hsent).sent p hp] at hflight
    cases hflight
  | @finalize _ partId attemptId _ now s hs hclaim hpart hstate hall =>
    obtain ⟨p, hp, -⟩ := hpart
    have hsettled : (ℓ.settle partId attemptId s now).Accounted := ⟨hacc.reservation, hparts'⟩
    exact hsettled.finalize (List.map_eq_nil_iff.not.2 (List.ne_nil_of_mem hp)) hall _
  | @terminate req reservation hid hterminal =>
    generalize DeliveryState.ofText (some req.state) = terminal at hterminal hparts' ⊢
    refine hacc.terminate hparts' ?_
    rcases hterminal with rfl | rfl | rfl <;> decide

end Ledger

/-- **Projection agreement.** In every state reached from a committed intent, the event
and its canonical reservation carry the same delivery state and attempt count, and a
`SENT` event has parts, all of them `SENT` with a message id, and their ids joined in
part order as its own. -/
theorem projection_agreement (intent : Intent) (db : Database) (ops : List Operation)
    (h : FreshIntent intent db) :
    ∃ ev r reservation, (db.run ops).events.fetch intent.eventId = some ev ∧
      ev.canonicalReservationAttemptId = some r ∧
      (db.run ops).attempts.fetch r = some reservation ∧
      reservation.deliveryState = ev.deliveryState ∧
      reservation.deliveryAttemptCount = ev.attemptCount ∧
      (ev.deliveryState = .sent →
        (db.run ops).partsOf intent.eventId ≠ [] ∧
        (∀ p ∈ (db.run ops).partsOf intent.eventId, p.deliveryState = .sent ∧
          ∃ id, p.telegramMessageId = some id ∧ id ≠ "") ∧
        ev.telegramMessageId = some (",".intercalate
          (((db.run ops).partsOf intent.eventId).map fun p => p.telegramMessageId.getD ""))) := by
  obtain ⟨ℓ₀, hℓ₀, hfresh⟩ := h.ledger
  obtain ⟨ℓ, hℓ, hproj⟩ := Database.Holds.run (fun _ _ _ h => h.step)
    ⟨ℓ₀, hℓ₀, Ledger.Projected.fresh hfresh⟩ ops
  obtain ⟨a, ha, hcount⟩ := hproj.reservation
  have hbind := (Database.reservation_of_ledger hℓ).symm.trans ha
  obtain ⟨r, hr, hfetch⟩ := Option.bind_eq_some_iff.1 hbind
  refine ⟨ℓ.event, r, a, Database.fetch_of_ledger hℓ, hr, hfetch, hproj.mirrored a ha, hcount, ?_⟩
  intro hsent
  obtain ⟨hne, hall, hid⟩ := hproj.complete hsent
  rw [Database.partsOf_of_ledger hℓ]
  exact ⟨hne, fun p hp => ⟨hall p hp, (hproj.parts p hp).messageId (hall p hp)⟩, hid⟩

/-- The sample, sent: its event carries the message ids of its two parts. -/
theorem projection_agreement_sample :
    ∃ ev, ((Sample.committed "a b").run Sample.sendBoth).events.fetch 1 = some ev ∧
      ev.deliveryState = .sent ∧ ev.telegramMessageId = some "7,8" := by
  obtain ⟨ev, r, reservation, hev, -, -, -, -, hcomplete⟩ := projection_agreement
    (Sample.intent "a b") (Sample.committed "a b") Sample.sendBoth
    (Sample.fresh "a b" (by decide +kernel))
  change ((Sample.committed "a b").run Sample.sendBoth).events.fetch 1 = some ev at hev
  have hsent : (((Sample.committed "a b").run Sample.sendBoth).events.fetch 1).map
      (·.deliveryState) = some .sent := by decide +kernel
  rw [hev] at hsent
  have hstate : ev.deliveryState = .sent := Option.some.inj hsent
  have hids : ",".intercalate ((((Sample.committed "a b").run Sample.sendBoth).partsOf 1).map
      fun p => p.telegramMessageId.getD "") = "7,8" := by decide +kernel
  exact ⟨ev, hev, hstate, hids ▸ (hcomplete hstate).2.2⟩

end CandleCraft.Outbox
