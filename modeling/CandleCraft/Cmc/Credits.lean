import Mathlib.Algebra.BigOperators.Group.List.Basic
import Mathlib.Algebra.Order.Ring.Int
import Mathlib.Tactic.Push
import CandleCraft.Kernel.Transition

/-!
# Credit accounting

Requests reserve an estimate of their credits and correct it when the provider reports a cost. Both
are single transactions on a day and a month bucket. A request that crashes leaves its estimate
charged; a correction goes to the buckets of the reservation.

A successful reservation also removes the buckets of days more than 400 days and of months more than
730 days back, so the charges add up for the buckets that no reservation has removed.
-/

namespace CandleCraft.Cmc

section Model

/-- The rows of the two tables are keyed by a day or a month. -/
inductive Bucket where
  | day (number : ℤ)
  | month (number : ℤ)
  deriving DecidableEq

/-- The UTC day of an instant in microseconds. -/
def dayOf (time : ℤ) : ℤ := time / 86400000000

/-- The month of a day, counted from year zero in the Gregorian calendar. -/
def monthOf (day : ℤ) : ℤ :=
  let z := day + 719468
  let era := z / 146097
  let dayOfEra := z - era * 146097
  let yearOfEra := (dayOfEra - dayOfEra / 1460 + dayOfEra / 36524 - dayOfEra / 146096) / 365
  let dayOfYear := dayOfEra - (365 * yearOfEra + yearOfEra / 4 - yearOfEra / 100)
  let march := (5 * dayOfYear + 2) / 153
  (yearOfEra + era * 400) * 12 + march + 2

def bucketsAt (time : ℤ) : List Bucket := [.day (dayOf time), .month (monthOf (dayOf time))]

structure Usage where
  credits : ℤ
  requests : ℤ
  deriving DecidableEq

structure CreditAudit where
  reserved : ℤ := 0
  reported : ℤ := 0
  failed : ℤ := 0
  unknown : ℤ := 0
  deriving DecidableEq

structure Sidecar where
  usage : Bucket → Option Usage := fun _ => none
  audit : Bucket → Option CreditAudit := fun _ => none

def Sidecar.credits (db : Sidecar) (bucket : Bucket) : ℤ := ((db.usage bucket).map Usage.credits).getD 0

/-- The rows that a reservation at an instant removes. -/
def Removed (time : ℤ) : Bucket → Prop
  | .day number => number < dayOf time - 400
  | .month number => number < monthOf (dayOf time - 730)

instance (time : ℤ) : DecidablePred (Removed time)
  | .day _ | .month _ => inferInstanceAs (Decidable (_ < _))

def Sidecar.charge (time credits : ℤ) (recordRequest : Bool) (db : Sidecar) : Sidecar where
  usage bucket :=
    if bucket ∈ bucketsAt time then
      match db.usage bucket with
      | none => some ⟨credits, recordRequest.toNat⟩
      | some row => some ⟨row.credits + credits, row.requests + recordRequest.toNat⟩
    else db.usage bucket
  audit bucket :=
    if bucket ∈ bucketsAt time ∧ recordRequest = true then
      match db.audit bucket with
      | none => some { reserved := credits, failed := credits }
      | some row =>
        some { row with reserved := row.reserved + credits, failed := row.failed + credits }
    else db.audit bucket

/-- The deletes of a reservation. -/
def Sidecar.retain (time : ℤ) (db : Sidecar) : Sidecar where
  usage bucket := if Removed time bucket then none else db.usage bucket
  audit bucket := if Removed time bucket ∨ db.usage bucket = none then none else db.audit bucket

/-- `reserve`: the outcome and the tables after the transaction. -/
def reserve (time credits daily monthly : ℤ) (recordRequest : Bool) (db : Sidecar) :
    Except String (Bool × Sidecar) :=
  if credits < 0 ∨ daily < 0 ∨ monthly < 0 then .error "negative credit budget"
  else if daily < db.credits (.day (dayOf time)) + credits ∨
      monthly < db.credits (.month (monthOf (dayOf time))) + credits then .ok (false, db)
  else .ok (true, (db.charge time credits recordRequest).retain time)

def reconcile (reservedAt estimate : ℤ) (reported : Option ℤ) (db : Sidecar) :
    Except String Sidecar :=
  if estimate < 0 ∨ ∃ cost ∈ reported, cost < 0 then .error "negative credit receipt"
  else if ∃ bucket ∈ bucketsAt reservedAt, db.audit bucket = none then
    .error "missing credit reservation"
  else
    let change := (reported.map (· - estimate)).getD 0
    .ok {
      usage := fun bucket =>
        if bucket ∈ bucketsAt reservedAt then
          (db.usage bucket).map fun row => { row with credits := row.credits + change }
        else db.usage bucket
      audit := fun bucket =>
        if bucket ∈ bucketsAt reservedAt then
          (db.audit bucket).map fun row =>
            { row with
              reported := row.reported + reported.getD 0
              failed := row.failed - estimate
              unknown := row.unknown + if reported.isNone then estimate else 0 }
        else db.audit bucket }

structure Reservation where
  reservedAt : ℤ
  estimate : ℤ
  reconciled : Bool := false
  reported : Option ℤ := none

def Reservation.cost (r : Reservation) : ℤ := r.reported.getD r.estimate

structure Accounts where
  db : Sidecar := {}
  reservations : List Reservation := []

/-- A transaction of one of the requests. An attempt reconciles its own reservation, once. -/
inductive Action where
  | reserve (time credits daily monthly : ℤ) (recordRequest : Bool)
  | reconcile (index : ℕ) (reported : Option ℤ)

/-- Transactions exclude each other. One that raises changes nothing, and a request that crashes takes
no further one. -/
def step (s : Accounts) : Action → Accounts
  | .reserve time credits daily monthly recordRequest =>
    match Cmc.reserve time credits daily monthly recordRequest s.db with
    | .ok (true, db) => ⟨db, s.reservations ++ [⟨time, credits, false, none⟩]⟩
    | _ => s
  | .reconcile index reported =>
    match s.reservations[index]? with
    | none => s
    | some r =>
      if r.reconciled then s
      else match Cmc.reconcile r.reservedAt r.estimate reported s.db with
        | .ok db => ⟨db, s.reservations.set index { r with reconciled := true, reported := reported }⟩
        | .error _ => s

def charged (reservations : List Reservation) (bucket : Bucket) : ℤ :=
  (reservations.map fun r => if bucket ∈ bucketsAt r.reservedAt then r.cost else 0).sum

end Model

section Transactions

variable {time credits daily monthly : ℤ} {recordRequest : Bool} {db db' : Sidecar} {bucket : Bucket}

theorem credits_charge (db : Sidecar) (bucket : Bucket) :
    (db.charge time credits recordRequest).credits bucket =
      db.credits bucket + if bucket ∈ bucketsAt time then credits else 0 := by
  unfold Sidecar.credits Sidecar.charge
  by_cases hbucket : bucket ∈ bucketsAt time
  · cases husage : db.usage bucket <;> simp [hbucket, husage]
  · simp [hbucket]

theorem credits_retain_of_kept (h : ¬ Removed time bucket) :
    (db.retain time).credits bucket = db.credits bucket := by
  simp [Sidecar.credits, Sidecar.retain, h]

theorem credits_retain_of_removed (h : Removed time bucket) :
    (db.retain time).credits bucket = 0 := by
  simp [Sidecar.credits, Sidecar.retain, h]

def Sidecar.Linked (db : Sidecar) : Prop := ∀ bucket, db.usage bucket = none → db.audit bucket = none

theorem linked_retain (db : Sidecar) (time : ℤ) : (db.retain time).Linked := by
  intro bucket hnone
  by_cases hremoved : Removed time bucket
  · simp [Sidecar.retain, hremoved]
  · simp only [Sidecar.retain, if_neg hremoved] at hnone
    simp [Sidecar.retain, hnone]

theorem reserve_within_caps
    (h : reserve time credits daily monthly recordRequest db = .ok (true, db')) :
    db' = (db.charge time credits recordRequest).retain time ∧
      db'.credits (.day (dayOf time)) ≤ daily ∧
      db'.credits (.month (monthOf (dayOf time))) ≤ monthly := by
  unfold reserve at h
  split at h
  · cases h
  next hnonneg =>
  split at h
  · cases h
  next hcaps =>
  cases h
  simp only [not_or, Int.not_lt] at hnonneg hcaps
  have hcap : ∀ bucket ∈ bucketsAt time, ∀ cap, 0 ≤ cap → db.credits bucket + credits ≤ cap →
      ((db.charge time credits recordRequest).retain time).credits bucket ≤ cap := by
    intro bucket hbucket cap hcap hle
    by_cases hremoved : Removed time bucket
    · rwa [credits_retain_of_removed hremoved]
    · rwa [credits_retain_of_kept hremoved, credits_charge, if_pos hbucket]
  exact ⟨rfl, hcap _ (by simp [bucketsAt]) daily hnonneg.2.1 hcaps.1,
    hcap _ (by simp [bucketsAt]) monthly hnonneg.2.2 hcaps.2⟩

/-- A correction moves the charge of the buckets of its reservation from the estimate to the reported
cost. -/
theorem reconcile_spec {reservedAt estimate : ℤ} {reported : Option ℤ} (hlinked : db.Linked)
    (h : reconcile reservedAt estimate reported db = .ok db') :
    db'.Linked ∧ ∀ bucket, db'.credits bucket = db.credits bucket +
      if bucket ∈ bucketsAt reservedAt then reported.getD estimate - estimate else 0 := by
  unfold reconcile at h
  split at h
  · cases h
  split at h
  · cases h
  next haudit =>
  cases h
  push Not at haudit
  constructor
  · intro bucket hnone
    by_cases hbucket : bucket ∈ bucketsAt reservedAt
    · simp only [if_pos hbucket, Option.map_eq_none_iff] at hnone ⊢
      exact hlinked bucket hnone
    · simp only [if_neg hbucket] at hnone ⊢
      exact hlinked bucket hnone
  · intro bucket
    unfold Sidecar.credits
    by_cases hbucket : bucket ∈ bucketsAt reservedAt
    · -- the audited bucket has a row, so that the correction is not lost
      obtain ⟨row, hrow⟩ : ∃ row, db.usage bucket = some row :=
        Option.ne_none_iff_exists'.1 fun hnone => haudit bucket hbucket (hlinked bucket hnone)
      cases reported <;> simp [hbucket, hrow]
    · simp [hbucket]

end Transactions

section Runs

theorem charged_append (reservations : List Reservation) (r : Reservation) (bucket : Bucket) :
    charged (reservations ++ [r]) bucket =
      charged reservations bucket + if bucket ∈ bucketsAt r.reservedAt then r.cost else 0 := by
  simp [charged]

theorem charged_set {reservations : List Reservation} {index : ℕ} {r : Reservation}
    (h : reservations[index]? = some r) (r' : Reservation) (htime : r'.reservedAt = r.reservedAt)
    (bucket : Bucket) :
    charged (reservations.set index r') bucket = charged reservations bucket +
      if bucket ∈ bucketsAt r.reservedAt then r'.cost - r.cost else 0 := by
  unfold charged
  induction reservations generalizing index with
  | nil => simp at h
  | cons first rest ih =>
    cases index with
    | zero =>
      obtain rfl : first = r := by simpa using h
      by_cases hbucket : bucket ∈ bucketsAt first.reservedAt
      · simp only [List.set_cons_zero, List.map_cons, List.sum_cons, htime, if_pos hbucket]
        omega
      · simp [htime, hbucket]
    | succ index =>
      rw [List.set_cons_succ, List.map_cons, List.sum_cons, List.map_cons, List.sum_cons,
        ih (by simpa using h)]
      omega

def Kept (reservations : List Reservation) (bucket : Bucket) : Prop :=
  ∀ r ∈ reservations, ¬ Removed r.reservedAt bucket

/-- What every transaction preserves. -/
structure Balanced (s : Accounts) : Prop where
  linked : s.db.Linked
  reported : ∀ r ∈ s.reservations, r.reconciled = false → r.reported = none
  credits : ∀ bucket, Kept s.reservations bucket →
    s.db.credits bucket = charged s.reservations bucket

theorem balanced_reserve {s : Accounts} {time credits daily monthly : ℤ} {recordRequest : Bool}
    (h : Balanced s) : Balanced (step s (.reserve time credits daily monthly recordRequest)) := by
  unfold step
  dsimp only
  split
  swap
  · exact h
  next db hreserve =>
  obtain ⟨rfl, -⟩ := reserve_within_caps hreserve
  refine ⟨linked_retain _ _, ?_, fun bucket hkept => ?_⟩
  · simpa [or_imp, forall_and] using h.reported
  · have hnew : ¬ Removed time bucket := hkept ⟨time, credits, false, none⟩ (by simp)
    have hold : Kept s.reservations bucket := fun r hr => hkept r (by simp [hr])
    rw [credits_retain_of_kept hnew, credits_charge, charged_append, h.credits bucket hold]
    rfl

theorem balanced_reconcile {s : Accounts} {index : ℕ} {reported : Option ℤ} (h : Balanced s) :
    Balanced (step s (.reconcile index reported)) := by
  unfold step
  dsimp only
  split
  · exact h
  next r hr =>
  split
  · exact h
  next hopen =>
  split
  swap
  · exact h
  next db hreconcile =>
  have hmem : r ∈ s.reservations := List.mem_of_getElem? hr
  obtain ⟨hlinked, hcredits⟩ := reconcile_spec h.linked hreconcile
  refine ⟨hlinked, fun r' hr' => ?_, fun bucket hkept => ?_⟩
  · rcases List.mem_or_eq_of_mem_set hr' with hr' | rfl
    · exact h.reported r' hr'
    · simp
  · -- the corrected reservation has the time it had before
    have hold : Kept s.reservations bucket := by
      intro r' hr'
      obtain ⟨i, hi⟩ := List.getElem?_of_mem hr'
      by_cases hindex : index = i
      · subst hindex
        rw [hr] at hi
        cases hi
        exact hkept { r with reconciled := true, reported := reported }
          (List.mem_of_getElem? (List.getElem?_set_self (List.getElem?_eq_some_iff.1 hr).1))
      · exact hkept r' (List.mem_of_getElem? (by rw [List.getElem?_set_ne hindex]; exact hi))
    have hcost : r.cost = r.estimate := by
      rw [Reservation.cost, h.reported r hmem (by simpa using hopen), Option.getD_none]
    have hcharged := charged_set hr { r with reconciled := true, reported := reported } rfl bucket
    rw [hcost] at hcharged
    exact (hcredits bucket).trans (h.credits bucket hold ▸ hcharged.symm)

/-- For every interleaving of transactions: the credits charged to a bucket that no reservation has
removed are the sum, over its reservations, of the reported cost where one was reconciled and of the
estimate otherwise. A reservation only succeeds if its buckets are within both caps after it. -/
theorem charges_add_up :
    (∀ (actions : List Action) (bucket : Bucket),
      Kept (Transition.run step {} actions).reservations bucket →
      (Transition.run step {} actions).db.credits bucket =
        charged (Transition.run step {} actions).reservations bucket) ∧
    ∀ (time credits daily monthly : ℤ) (recordRequest : Bool) (db db' : Sidecar),
      reserve time credits daily monthly recordRequest db = .ok (true, db') →
      db'.credits (.day (dayOf time)) ≤ daily ∧
        db'.credits (.month (monthOf (dayOf time))) ≤ monthly := by
  refine ⟨fun actions => ?_, fun _ _ _ _ _ _ _ h => (reserve_within_caps h).2⟩
  have hstart : Balanced {} := ⟨fun _ _ => rfl, by simp, fun _ _ => rfl⟩
  have hstep : ∀ s a, Balanced s → Balanced (step s a) := by
    intro s a h
    cases a with
    | reserve time credits daily monthly recordRequest => exact balanced_reserve h
    | reconcile index reported => exact balanced_reconcile h
  exact (Transition.run_invariant step hstep hstart actions).credits

/-- Two requests of a day; the provider reports a cost for the first one only. -/
def sampleActions : List Action :=
  [.reserve 0 5 100 1000 true, .reserve 1000 2 100 1000 true, .reconcile 0 (some 7)]

theorem sample_charges_add_up :
    (Transition.run step {} sampleActions).db.credits (.day 0) =
      charged (Transition.run step {} sampleActions).reservations (.day 0) ∧
    charged (Transition.run step {} sampleActions).reservations (.day 0) = 9 :=
  ⟨charges_add_up.1 sampleActions (.day 0) (by unfold Kept; decide +kernel), by decide +kernel⟩

/-- A reservation 401 days later removes the bucket of the first day, whose five credits are no longer
charged. -/
theorem removed_bucket_is_empty :
    let s := Transition.run step {}
      [.reserve 0 5 100 1000 true, .reserve (401 * 86400000000) 5 100 1000 true]
    s.db.credits (.day 0) = 0 ∧ charged s.reservations (.day 0) = 5 := by
  decide +kernel

end Runs

end CandleCraft.Cmc
