import CandleCraft.Outbox.Terminal

/-!
# Lease expiry and retry times

Python compares instants to the microsecond. The statements of the outbox compare what `datetime()`
makes of them, which is whole seconds. The two comparisons differ for a clock that lies before a
stored instant and within the same second.
-/

namespace CandleCraft.Outbox

open Relational Ownership

/-- A clock before the stored instant is in an earlier second. -/
def ToldApart (stored now : Instant) : Prop := now < stored → sqlDatetime now ≠ sqlDatetime stored

instance (stored now : Instant) : Decidable (ToldApart stored now) :=
  inferInstanceAs (Decidable (_ → _))

theorem sqlDatetime_mono {t t' : Instant} (h : t ≤ t') : sqlDatetime t ≤ sqlDatetime t' :=
  Int.ediv_le_ediv (by norm_num) h

theorem elapsed_some_iff (stored now : Instant) :
    (Elapsed (some stored) now ↔ stored ≤ now) ↔ ToldApart stored now := by
  have hsql : Elapsed (some stored) now ↔ sqlDatetime stored ≤ sqlDatetime now := by
    simp [Elapsed]
  rw [hsql]
  constructor
  · intro h hbefore hsame
    exact hbefore.not_ge (h.1 hsame.ge)
  · refine fun h => ⟨fun hle => ?_, sqlDatetime_mono⟩
    by_contra hlt
    have hbefore := not_le.1 hlt
    exact h hbefore (le_antisymm (sqlDatetime_mono hbefore.le) hle)

theorem retryDue_iff_elapsed (stored : Option Instant) (now : Instant) :
    (retryDue stored now = true ↔ Elapsed stored now) ↔ ∀ t ∈ stored, ToldApart t now := by
  cases stored with
  | none => simp [retryDue, Elapsed]
  | some t =>
    rw [retryDue, decide_eq_true_iff, iff_comm (a := t ≤ now), elapsed_some_iff]
    simp

section Live

variable {db : Database} {e : ℕ} {ev : Event} {now lease : Instant}

/-- An event that passes the checks of ownership, so that its lease is looked at. -/
structure Recoverable (db : Database) (e : ℕ) (ev : Event) : Prop where
  allowed : decidePublicEffect db (some ev) = none
  reserved : (requireCanonicalReservationForPublicEffect db e).isOk
  canonical : ev.canonicalReservationAttemptId.isSome

theorem not_recovers (hev : db.events.fetch e = some ev)
    (hallowed : decidePublicEffect db (db.events.fetch e) = none)
    (hlive : Recoverable db e ev → ¬ Elapsed ev.leaseExpiresAt now) {db' : Database} {row : Event}
    {r : ℕ} : ¬ Recovers e now db db' row r := by
  rintro ⟨hrow, hr, hstale, hreserved, -⟩
  rw [hev] at hrow hallowed
  cases hrow
  exact hlive ⟨hallowed, hreserved, by rw [hr]; rfl⟩ hstale.2.2

theorem recoverStaleInFlight_of_live (hev : db.events.fetch e = some ev)
    (hlive : Recoverable db e ev → ¬ Elapsed ev.leaseExpiresAt now) :
    (recoverStaleInFlight e now db).2 = db := by
  unfold recoverStaleInFlight transaction
  split
  swap
  · rfl
  next hbody =>
  beta_reduce at hbody
  split at hbody
  · cases hbody
    rfl
  next hallowed =>
  split_ifs at hbody
  · cases hbody
    rfl
  rcases orRefuse_ok hbody with ⟨_, -, rfl⟩ | ⟨_, _, hlocked⟩
  · rfl
  rcases recoverStaleLocked_ok hlocked with rfl | ⟨row, r, hrecovers⟩
  · rfl
  · exact absurd hrecovers (not_recovers hev hallowed hlive)

theorem claim_of_live {req : ClaimRequest} (hev : db.events.fetch req.eventId = some ev)
    (hstate : ev.deliveryState = .inFlight)
    (hlive : Recoverable db req.eventId ev → ¬ Elapsed ev.leaseExpiresAt req.now) :
    (claim req db).2 = db := by
  rcases hclaim : claim req db with ⟨err | result, db'⟩
  · exact transaction_of_error hclaim
  rcases claim_cases hclaim with ⟨-, hsame | ⟨hallowed, row, r, hrecovers⟩⟩ | ⟨-, -, -, hrecovered⟩
  · exact hsame
  · exact absurd hrecovers (not_recovers hev hallowed hlive)
  · exact (claimRecovered_of_not_claimable hev (by rw [hstate]; decide) hrecovered).1

theorem recoverStaleInFlight_of_elapsed (hev : db.events.fetch e = some ev)
    (hstate : ev.deliveryState = .inFlight) (h : Recoverable db e ev)
    (helapsed : Elapsed ev.leaseExpiresAt now) :
    (recoverStaleInFlight e now db).2.eventState e = .uncertain := by
  obtain ⟨r, hr⟩ := Option.isSome_iff_exists.1 h.canonical
  have hstale : StaleInFlight e now ev := ⟨Table.key_of_fetch hev, hstate, helapsed⟩
  have hcount : db.events.rowcount (StaleInFlight e now) = 1 :=
    (Table.rowcount_eq_one_iff fun _ hs => hs.1).2 ⟨ev, hev, hstale⟩
  have hrefuse {β : Type} (refused : String → Except OutboxError β)
      (body : Except OutboxError β) : orRefuse
        (requireCanonicalReservationForPublicEffect db e) refused (fun _ => body) = body := by
    have hok := h.reserved
    revert hok
    cases requireCanonicalReservationForPublicEffect db e with
    | error err => exact fun hok => by cases hok
    | ok a => exact fun _ => rfl
  have hlocked : recoverStaleLocked e now db = .ok (true, db.recoverStale e r now) := by
    unfold recoverStaleLocked
    rw [hev]
    dsimp only
    rw [hrefuse, hr]
    exact if_neg (not_not.2 hcount)
  have hrun : (recoverStaleInFlight e now db).2 = db.recoverStale e r now := by
    unfold recoverStaleInFlight transaction
    dsimp only
    rw [hev, h.allowed]
    rw [Option.bind_some, hr, if_neg (by simp), hrefuse, hlocked]
  rw [hrun, Database.eventState]
  simp [Database.recoverStale, hev, hstale, EventDelivery.recoverStale, DeliveryState.normalize]

end Live

/-- Before its lease expires an event in flight is not marked as uncertain by the recovery, and not
by a claim, if and only if it fails the checks of ownership or the clock is not in the second of the
expiry; and the Python test and the SQL gate of `claim` agree if and only if the clock is not in the
second of a later retry time. -/
theorem live_lease_is_kept (db : Database) (now : Instant) :
    (∀ e ev lease, db.events.fetch e = some ev → ev.deliveryState = .inFlight →
      ev.leaseExpiresAt = some lease → now < lease →
      (((recoverStaleInFlight e now db).2.eventState e ≠ .uncertain ∧
        ∀ req : ClaimRequest, req.eventId = e → req.now = now →
          (claim req db).2.eventState e ≠ .uncertain) ↔
        (Recoverable db e ev → ToldApart lease now))) ∧
    ∀ nextRetryAt, (retryDue nextRetryAt now = true ↔ Elapsed nextRetryAt now) ↔
      ∀ t ∈ nextRetryAt, ToldApart t now := by
  refine ⟨fun e ev lease hev hstate hlease hbefore => ?_, fun _ => retryDue_iff_elapsed _ _⟩
  constructor
  · intro hkept hrecoverable hlt hsame
    refine hkept.1 (recoverStaleInFlight_of_elapsed hev hstate hrecoverable ?_)
    rw [hlease]
    simp [Elapsed, hsame]
  · intro happart
    have hlive (h : Recoverable db e ev) : ¬ Elapsed ev.leaseExpiresAt now := by
      rw [hlease, (elapsed_some_iff lease now).2 (happart h)]
      exact hbefore.not_ge
    have hflight : db.eventState e ≠ .uncertain := by
      rw [Database.eventState, hev]
      simp [hstate, DeliveryState.normalize]
    constructor
    · rwa [recoverStaleInFlight_of_live hev hlive]
    · rintro req rfl rfl
      rwa [claim_of_live hev hstate hlive]

namespace Sample

/-- The sample event, claimed nine tenths into the first second. -/
def leased : Database := (committed "a").run [claimAt 900000 "x"]

end Sample

/-- A second before its lease expires the sample event is left alone. -/
theorem sample_lease_is_kept :
    (recoverStaleInFlight 1 299900000 Sample.leased).2.eventState 1 ≠ .uncertain ∧
    (retryDue (some 10900000) 9100000 = true ↔ Elapsed (some 10900000) 9100000) := by
  have hsome : (Sample.leased.events.fetch 1).isSome = true := by decide +kernel
  have hflight : ∀ ev ∈ Sample.leased.events.fetch 1, ev.deliveryState = .inFlight ∧
      ev.leaseExpiresAt = some 300900000 := by decide +kernel
  obtain ⟨ev, hev⟩ := Option.isSome_iff_exists.1 hsome
  obtain ⟨hstate, hlease⟩ := hflight ev hev
  refine ⟨(((live_lease_is_kept Sample.leased 299900000).1 1 ev 300900000 hev hstate hlease
      (by decide)).2 fun _ => by decide).1, ?_⟩
  exact ((live_lease_is_kept Sample.leased 9100000).2 (some 10900000)).2 fun t ht => by
    cases ht
    decide

/-- The lease expires nine tenths into a second. Eight tenths earlier the recovery takes it for
expired, and so does a claim. In the same way the SQL gate admits a retry that the Python test still
refuses. -/
theorem lease_recovered_early :
    (∀ ev ∈ Sample.leased.events.fetch 1, ev.deliveryState = .inFlight ∧
      ev.leaseExpiresAt = some 300900000) ∧ Sample.leased.eventState 1 = .inFlight ∧
    (recoverStaleInFlight 1 300100000 Sample.leased).2.eventState 1 = .uncertain ∧
    (Sample.leased.step (Sample.claimAt 300100000 "y")).eventState 1 = .uncertain ∧
    retryDue (some 10900000) 10100000 = false ∧ Elapsed (some 10900000) 10100000 :=
  ⟨by decide +kernel, by decide +kernel, by decide +kernel, by decide +kernel, by decide,
    by decide⟩

end CandleCraft.Outbox
