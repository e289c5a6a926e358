import CandleCraft.Outbox.Intent

/-!
# At most one transmission per rearmed part

A part is handed to the transport when `mark_part_in_flight` returns `True`. The
transaction takes the part out of the claimable states, and the only transaction
that puts a part back into them is the record of a retryable result, so two
transmissions of a part are separated by such a record.
-/

namespace CandleCraft.Outbox

open Relational PyText Ownership

/-- `mark_part_in_flight` returns `True`: the part goes to the transport. -/
def Handed (db : Database) (partId : ℕ) (attemptId : String) (now : Instant) : Prop :=
  (markPartInFlight partId attemptId now db).1 = .ok true

instance (db : Database) (partId : ℕ) (attemptId : String) (now : Instant) :
    Decidable (Handed db partId attemptId now) :=
  inferInstanceAs (Decidable (_ = _))

def Database.partState (db : Database) (partId : ℕ) : Option DeliveryState :=
  (db.parts.fetch partId).map (·.deliveryState)

/-- A `record_part_result` for the part that moves it from `IN_FLIGHT` to `RETRYABLE`. -/
def Rearms (db : Database) (op : Operation) (partId : ℕ) : Prop :=
  (∃ e r a result now, op = .recordPartResult e r partId a result now) ∧
    db.partState partId = some .inFlight ∧ (db.step op).partState partId = some .retryable

variable {attemptId : String} {db : Database} {now : Instant} {partId : ℕ}

theorem Handed.spec (h : Handed db partId attemptId now) :
    ∃ p ev, db.parts.fetch partId = some p ∧ p.deliveryState.AutoClaimable ∧
      db.events.fetch p.eventId = some ev ∧
      Ownership.optionalText ev.attemptId = some (strip attemptId) ∧
      db.step (.markPartInFlight partId attemptId now) =
        db.updateParts (Transmittable partId) (PartDelivery.markInFlight attemptId now) := by
  rcases markPartInFlight_cases (Prod.ext h rfl) with ⟨hfalse, -⟩ | ⟨ev, hclaim, hcount, hstep⟩
  · cases hfalse
  obtain ⟨⟨p, hp, hev⟩, hattempt⟩ := requirePartClaimAssociation_ok hclaim
  have htrans := Table.of_rowcount_eq_one (fun _ ht => ht.1) hp (of_decide_eq_true hcount.symm)
  exact ⟨p, ev, hp, htrans.2, hev, hattempt, hstep⟩

theorem Handed.partState_step (h : Handed db partId attemptId now) :
    (db.step (.markPartInFlight partId attemptId now)).partState partId = some .inFlight := by
  obtain ⟨p, ev, hp, hclaimable, -, -, hstep⟩ := h.spec
  have htrans : Transmittable partId p := ⟨Table.key_of_fetch hp, hclaimable⟩
  rw [hstep, Database.partState, Database.fetch_updateParts, hp]
  simp [htrans, PartDelivery.markInFlight]

def Database.Armed (db : Database) (partId : ℕ) : Prop :=
  ∃ s, db.partState partId = some s ∧ s.AutoClaimable

theorem Handed.armed (h : Handed db partId attemptId now) : db.Armed partId := by
  obtain ⟨p, ev, hp, hclaimable, -⟩ := h.spec
  exact ⟨p.deliveryState, by rw [Database.partState, hp]; rfl, hclaimable⟩

variable {p : Part}

theorem rearms_of_armed {op : Operation}
    (hp : db.parts.fetch partId = some p) (hbefore : ¬ db.Armed partId)
    (hafter : (db.step op).Armed partId) : Rearms db op partId := by
  obtain ⟨ev, p', -, hp', hstep⟩ := db.step_part op hp
  have hid : p.id = partId := Table.key_of_fetch hp
  have hstate : db.partState partId = some p.deliveryState := by rw [Database.partState, hp]; rfl
  have hstate' : (db.step op).partState partId = some p'.deliveryState := by
    rw [Database.partState, hp']
    rfl
  obtain ⟨s, hs, hclaimable⟩ := hafter
  rw [hstate'] at hs
  cases hs
  obtain ⟨hop, hflight, hretry⟩ :=
    hstep.of_claimable (fun hc => hbefore ⟨_, hstate, hc⟩) hclaimable
  rw [hid] at hop
  exact ⟨hop, by rw [hstate, hflight], by rw [hstate', hretry]⟩

theorem exists_part_run (hp : db.parts.fetch partId = some p) (ops : List Operation) :
    ∃ p', (db.run ops).parts.fetch partId = some p' ∧ p'.eventId = p.eventId := by
  refine Transition.run_invariant Database.step
    (I := fun s => ∃ p', s.parts.fetch partId = some p' ∧ p'.eventId = p.eventId) ?_
    ⟨p, hp, rfl⟩ ops
  rintro s op ⟨q, hq, hk⟩
  obtain ⟨ev, q', -, hq', hstep⟩ := s.step_part op hq
  exact ⟨q', hq', hstep.eventId_eq.trans hk⟩

theorem exists_rearms {ops : List Operation} (hp : db.parts.fetch partId = some p)
    (hbefore : ¬ p.deliveryState.AutoClaimable) (h : Handed (db.run ops) partId attemptId now) :
    ∃ before op after, ops = before ++ op :: after ∧ Rearms (db.run before) op partId := by
  have hunarmed : ¬ db.Armed partId := by
    rintro ⟨s, hs, hclaimable⟩
    rw [Database.partState, hp] at hs
    cases hs
    exact hbefore hclaimable
  obtain ⟨before, op, after, rfl, hb, ha⟩ :=
    Transition.exists_crossing Database.step (P := fun db => db.Armed partId) hunarmed h.armed
  obtain ⟨q, hq, -⟩ := exists_part_run hp before
  exact ⟨before, op, after, rfl, rearms_of_armed hq hb ha⟩

theorem fetch_part_run
    (hp : db.parts.fetch partId = some p) (hclaimable : ¬ p.deliveryState.AutoClaimable)
    (hflight : p.deliveryState ≠ .inFlight) (ops : List Operation) :
    (db.run ops).parts.fetch partId = some p := by
  refine Transition.run_invariant Database.step
    (I := fun db => db.parts.fetch partId = some p) ?_ hp ops
  intro s op hs
  obtain ⟨ev, p', -, hp', hstep⟩ := s.step_part op hs
  rw [hp', hstep.eq_self hclaimable hflight]

/-- **At most one transmission.** From every database and through every interleaving:
between two successful `mark_part_in_flight` calls for a part lies a
`record_part_result` that moved it from `IN_FLIGHT` to `RETRYABLE`. A part found
`IN_FLIGHT` is handed again only after such a record, and a part found `SENT`,
`UNCERTAIN` or `FAILED_FINAL` never. -/
theorem handed_again_only_after_rearm (db : Database) (before later : List Operation) (partId : ℕ)
    (attemptId attemptId' : String) (now now' : Instant) :
    (Handed (db.run before) partId attemptId now →
      Handed (db.run (before ++ .markPartInFlight partId attemptId now :: later)) partId attemptId'
        now' →
      ∃ l op r, later = l ++ op :: r ∧
        Rearms (db.run (before ++ .markPartInFlight partId attemptId now :: l)) op partId) ∧
    ((db.run before).partState partId = some .inFlight →
      Handed (db.run (before ++ later)) partId attemptId' now' →
      ∃ l op r, later = l ++ op :: r ∧ Rearms (db.run (before ++ l)) op partId) ∧
    ∀ s, s = .sent ∨ s = .uncertain ∨ s = .failedFinal →
      (db.run before).partState partId = some s →
      ¬ Handed (db.run (before ++ later)) partId attemptId' now' := by
  simp only [Database.run, Transition.run_append, Transition.run_cons]
  generalize Transition.run Database.step db before = mid
  refine ⟨fun hfirst hsecond => ?_, fun hflight hsecond => ?_, fun s hs hstate hsecond => ?_⟩
  · obtain ⟨p, hp, hstate⟩ := Option.map_eq_some_iff.1 hfirst.partState_step
    exact exists_rearms hp (by rw [hstate]; decide) hsecond
  · obtain ⟨p, hp, hstate⟩ := Option.map_eq_some_iff.1 hflight
    exact exists_rearms hp (by rw [hstate]; decide) hsecond
  · obtain ⟨p, hp, rfl⟩ := Option.map_eq_some_iff.1 hstate
    have hclaimable : ¬ p.deliveryState.AutoClaimable := by
      rcases hs with h | h | h <;> rw [h] <;> decide
    have hflight : p.deliveryState ≠ .inFlight := by
      rcases hs with h | h | h <;> rw [h] <;> decide
    obtain ⟨t, ht, htc⟩ := hsecond.armed
    rw [Database.partState, fetch_part_run hp hclaimable hflight] at ht
    cases ht
    exact hclaimable htc

/-- The sample part is transmitted, rejected, and transmitted once more. -/
theorem handed_again_only_after_rearm_sample :
    ∃ l op r, [.recordPartResult 1 1 1 "x" Sample.rejected 0, Sample.claimAt 1000000 "y"] =
        l ++ op :: r ∧
      Rearms ((Sample.committed "a").run
        ([Sample.claimAt 0 "x"] ++ .markPartInFlight 1 "x" 0 :: l)) op 1 :=
  (handed_again_only_after_rearm (Sample.committed "a") [Sample.claimAt 0 "x"]
    [.recordPartResult 1 1 1 "x" Sample.rejected 0, Sample.claimAt 1000000 "y"] 1 "x" "y" 0
    1000000).1 (by decide +kernel) (by decide +kernel)

end CandleCraft.Outbox
