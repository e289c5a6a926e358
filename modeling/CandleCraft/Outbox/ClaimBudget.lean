import CandleCraft.Outbox.Delivery
import CandleCraft.Outbox.Projection

/-!
# How often an event is delivered

A lease that has passed does not stop its worker, but the attempt count bounds the workers: it grows
with every claim that is granted and never past the limit of the event. Nothing is transmitted for
an event that was sent, whatever its state becomes.
-/

namespace CandleCraft.Outbox

open Relational

section Claims

variable {db db' : Database} {eventId : ℕ} {req : ClaimRequest} {result : ClaimResult}

/-- `claim` returns a claim. -/
def granted (req : ClaimRequest) (db : Database) : Bool :=
  match (claim req db).1 with
  | .ok result => result.claim.isSome
  | .error _ => false

def Claims (eventId : ℕ) (db : Database) : Operation → Prop
  | .claim req => req.eventId = eventId ∧ granted req db = true
  | _ => False

instance (eventId : ℕ) (db : Database) : DecidablePred (Claims eventId db)
  | .claim _ => inferInstanceAs (Decidable (_ ∧ _))
  | .recoverStaleInFlight .. | .markPartInFlight .. | .recordPartResult ..
  | .markTerminalWithoutSend .. | .markUncertainAfterPersistenceFailure .. =>
    inferInstanceAs (Decidable False)

/-- The number of claims on the event that a run grants. -/
def claims (eventId : ℕ) (db : Database) (ops : List Operation) : ℕ :=
  Transition.tally Database.step (Claims eventId) db ops

def Database.eventAttempts (db : Database) (eventId : ℕ) : ℕ :=
  ((db.events.fetch eventId).map (·.attemptCount)).getD 0

theorem claimRecovered_granted (h : claimRecovered req db = .ok (result, db'))
    (hgranted : result.claim.isSome) :
    ∃ ev, db.events.fetch req.eventId = some ev ∧ ClaimableNow req ev ∧ db' = db.grantClaim req := by
  unfold claimRecovered at h
  split at h
  · cases h
    cases hgranted
  next ev hev =>
  dsimp only at h
  split at h
  · cases h
    cases hgranted
  split at h
  · cases h
    cases hgranted
  split at h
  · cases h
    cases hgranted
  split at h
  · cases h
    cases hgranted
  next hcount =>
  split at h
  · split at h
    · cases h
      cases hgranted
    · split at h
      · cases h
      · cases h
        cases hgranted
  · cases h
    rw [not_not, Table.rowcount_eq_one_iff fun _ hc => hc.1] at hcount
    obtain ⟨row, hrow, hnow⟩ := hcount
    exact ⟨row, hrow, hnow, rfl⟩

theorem granted_spec (h : granted req db = true) :
    ∃ ev, db.events.fetch req.eventId = some ev ∧ ClaimableNow req ev ∧
      db.step (.claim req) = db.grantClaim req := by
  unfold granted at h
  split at h
  swap
  · cases h
  next result hclaim =>
  rcases claim_cases (Prod.ext hclaim rfl) with ⟨hnone, -⟩ | ⟨-, -, -, hrecovered⟩
  · rw [hnone] at h
    cases h
  · exact claimRecovered_granted hrecovered h

/-- A ledger step leaves the attempt count, or raises it by one below the limit. -/
theorem Ledger.Step.attemptCount_cases {ℓ ℓ' : Ledger} {op : Operation}
    (h : Ledger.Step eventId ℓ op ℓ') :
    ℓ'.event.maxAttempts = ℓ.event.maxAttempts ∧
      (ℓ'.event.attemptCount = ℓ.event.attemptCount ∨
        ℓ'.event.attemptCount = ℓ.event.attemptCount + 1 ∧
          ℓ.event.attemptCount < ℓ.event.claimLimit) := by
  cases h with
  | idle | recover | claimRecover | exhaust | hand | conflict | settle | settleSent | finalize
  | fallback => exact ⟨rfl, .inl rfl⟩
  | @terminate req =>
    generalize DeliveryState.ofText (some req.state) = terminal
    exact ⟨rfl, .inl rfl⟩
  | grant _ _ hlimit | grantSent _ _ hlimit | grantEmpty _ _ hlimit =>
    exact ⟨rfl, .inr ⟨rfl, hlimit⟩⟩

/-- The attempt count is within the stored limit. -/
def Ledger.Within (limit : ℕ) (ℓ : Ledger) : Prop :=
  ℓ.event.maxAttempts = limit ∧ ℓ.event.attemptCount ≤ limit

theorem Ledger.Within.fresh {ℓ : Ledger} {maxAttempts : ℕ} (h : ℓ.Fresh maxAttempts) :
    ℓ.Within (max 1 maxAttempts) :=
  ⟨h.limit, h.attemptCount.trans_le (Nat.zero_le _)⟩

theorem Ledger.Within.step {ℓ ℓ' : Ledger} {op : Operation} {limit : ℕ} (h : ℓ.Within limit)
    (hpos : 1 ≤ limit) (hstep : Ledger.Step eventId ℓ op ℓ') : ℓ'.Within limit := by
  obtain ⟨hstored, hle⟩ := h
  obtain ⟨hlimit, hcount⟩ := hstep.attemptCount_cases
  have hclaim : ℓ.event.claimLimit = limit := by
    unfold EventDelivery.claimLimit
    split_ifs <;> omega
  exact ⟨hlimit.trans hstored, by omega⟩

theorem Database.eventAttempts_step (db : Database) (op : Operation) (eventId : ℕ) :
    db.eventAttempts eventId ≤ (db.step op).eventAttempts eventId := by
  unfold eventAttempts
  cases hev : db.events.fetch eventId with
  | none => exact Nat.zero_le _
  | some ev =>
    obtain ⟨ℓ', hℓ', hstep⟩ := db.step_ledger op (ledger_eq_some_iff.2 ⟨ev, hev, rfl⟩)
    rw [fetch_of_ledger hℓ']
    rcases hstep.attemptCount_cases.2 with hsame | ⟨hraised, -⟩
    · exact hsame.ge
    · exact (Nat.le_succ _).trans hraised.ge

theorem Claims.eventAttempts_step {op : Operation} (h : Claims eventId db op) :
    db.eventAttempts eventId + 1 ≤ (db.step op).eventAttempts eventId := by
  cases op with
  | claim req =>
    obtain ⟨rfl, hgranted⟩ := h
    obtain ⟨ev, hev, hnow, hstep⟩ := granted_spec hgranted
    rw [hstep, Database.eventAttempts, Database.eventAttempts, hev]
    simp [Database.grantClaim, hev, hnow, EventDelivery.claimFor]
  | recoverStaleInFlight | markPartInFlight | recordPartResult | markTerminalWithoutSend
  | markUncertainAfterPersistenceFailure => exact h.elim

/-- In every run from a committed intent, by any workers in any order, the event is claimed no more
often than its attempt limit allows. -/
theorem claims_within_limit (intent : Intent) (db : Database) (ops : List Operation)
    (h : FreshIntent intent db) : claims intent.eventId db ops ≤ max 1 intent.maxAttempts := by
  obtain ⟨ℓ₀, hℓ₀, hfresh⟩ := h.ledger
  obtain ⟨ℓ, hℓ, -, hle⟩ := Database.Holds.run (fun _ _ _ h => h.step (Nat.le_max_left ..))
    ⟨ℓ₀, hℓ₀, Ledger.Within.fresh hfresh⟩ ops
  calc claims intent.eventId db ops
      ≤ db.eventAttempts intent.eventId + claims intent.eventId db ops := Nat.le_add_left ..
    _ ≤ (db.run ops).eventAttempts intent.eventId :=
        Transition.tally_le (fun s op => s.eventAttempts_step op intent.eventId)
          (fun _ _ => Claims.eventAttempts_step) db ops
    _ = ℓ.event.attemptCount := by
        rw [Database.eventAttempts, Database.fetch_of_ledger hℓ]
        rfl
    _ ≤ max 1 intent.maxAttempts := hle

/-- The sample is claimed, rejected and claimed again. -/
theorem claims_within_limit_sample :
    claims 1 (Sample.committed "a") [Sample.claimAt 0 "x", .markPartInFlight 1 "x" 0,
        .recordPartResult 1 1 1 "x" Sample.rejected 0, Sample.claimAt 1000000 "y"] = 2 ∧
      claims 1 (Sample.committed "a") [Sample.claimAt 0 "x", .markPartInFlight 1 "x" 0,
        .recordPartResult 1 1 1 "x" Sample.rejected 0, Sample.claimAt 1000000 "y"] ≤ 3 :=
  ⟨by decide +kernel, claims_within_limit (Sample.intent "a") _ _ (Sample.fresh "a" (by decide +kernel))⟩

end Claims

/-- Once an event was sent, its parts are left as they are and none of them is handed to the
transport again, in every continuation, even if the state of the event is overwritten. -/
theorem sent_event_is_not_retransmitted (intent : Intent) (db : Database)
    (before later : List Operation) (h : FreshIntent intent db)
    (hsent : ((db.run before).events.fetch intent.eventId).map (·.deliveryState) = some .sent) :
    ∀ p ∈ (db.run before).partsOf intent.eventId,
      (db.run (before ++ later)).parts.fetch p.id = some p ∧
      ∀ attemptId now, ¬ Handed (db.run (before ++ later)) p.id attemptId now := by
  obtain ⟨ℓ₀, hℓ₀, hfresh⟩ := h.ledger
  obtain ⟨ℓ, hℓ, hproj⟩ := Database.Holds.run (fun _ _ _ h => h.step)
    ⟨ℓ₀, hℓ₀, Ledger.Projected.fresh hfresh⟩ before
  rw [Database.fetch_of_ledger hℓ] at hsent
  intro p hp
  rw [Database.partsOf_of_ledger hℓ] at hp
  have hstate : p.deliveryState = .sent := (hproj.complete (Option.some.inj hsent)).sent p hp
  have hclaimable : ¬ p.deliveryState.AutoClaimable := by rw [hstate]; decide
  have hkept : (db.run (before ++ later)).parts.fetch p.id = some p := by
    rw [Database.run, Transition.run_append]
    exact fetch_part_run (Table.fetch_of_mem (Database.mem_rows_of_ledger hℓ hp).1) hclaimable
      (by rw [hstate]; decide) later
  refine ⟨hkept, fun attemptId now hhanded => ?_⟩
  obtain ⟨q, ev, hq, hclaimable', -⟩ := hhanded.spec
  rw [hkept] at hq
  cases hq
  exact hclaimable hclaimable'

def Sample.sendOne : List Operation :=
  [Sample.claimAt 0 "x", .markPartInFlight 1 "x" 0,
    .recordPartResult 1 1 1 "x" (Sample.accepted "7") 0]

/-- The sample is sent, and a late failure to store the result overwrites its state. -/
theorem sent_event_is_not_retransmitted_sample :
    (((Sample.committed "a").run Sample.sendOne).partsOf 1).length = 1 ∧
    ∀ p ∈ ((Sample.committed "a").run Sample.sendOne).partsOf 1,
      ((Sample.committed "a").run (Sample.sendOne ++
        [.markUncertainAfterPersistenceFailure 1 1 "late" 0])).parts.fetch p.id = some p ∧
      ∀ attemptId now, ¬ Handed ((Sample.committed "a").run (Sample.sendOne ++
        [.markUncertainAfterPersistenceFailure 1 1 "late" 0])) p.id attemptId now :=
  ⟨by decide +kernel, sent_event_is_not_retransmitted (Sample.intent "a") (Sample.committed "a")
    Sample.sendOne _ (Sample.fresh "a" (by decide +kernel)) (by decide +kernel)⟩

end CandleCraft.Outbox
