import CandleCraft.Lifecycle.PlanRun

/-!
# What an evaluation leaves as it is

A row that is bound to the stop policy of its plan stays bound through the rounds of the candle loop
and through the start of its tracking, and the record of an evaluation is the one it was called with,
moved at most.
-/

namespace CandleCraft.Lifecycle

open Candles Relational SetupLifecycleState

def OutcomeProgress.BoundTo (p : OutcomeProgress) (g : StoredPlanGeometry) : Prop :=
  ∃ m b, p.metadata = .ok m ∧ m.stopManagement = some (.binding b) ∧ b.check g = .ok ()

section Rows

variable {record : SetupLifecycleRecord} {clock : Clock} {repo : Repository}
  {identities : List String} {g : StoredPlanGeometry} {p q : OutcomeProgress} {δ : ℤ} {r : Round}

theorem Round.Sound.boundTo (h : r.Sound g) {g' : StoredPlanGeometry} (hb : r.before.BoundTo g') :
    r.after.BoundTo g' := by
  obtain ⟨m, b, hm, hb, hcheck⟩ := hb
  obtain ⟨evidence, hevidence⟩ := h.metadata
  rw [OutcomeProgress.metadataOrEmpty, hm] at hevidence
  exact ⟨_, b, hevidence, hb, hcheck⟩

theorem OutcomeProgress.BoundTo.withTrackingStart (hb : p.BoundTo g) (trackingStart : Instant)
    (boundary : Stamp) (source eligibility : String) (diagnostic : Diagnostic) :
    (p.withTrackingStart trackingStart boundary source eligibility diagnostic).BoundTo g := by
  obtain ⟨m, b, hm, hb, hcheck⟩ := hb
  have hempty : p.metadataOrEmpty = m := by rw [OutcomeProgress.metadataOrEmpty, hm]
  exact ⟨_, b, rfl, by rw [hempty]; exact hb, hcheck⟩

theorem adoptProspectively_boundTo {earliestOpen : Instant} (hb : p.BoundTo g)
    (h : adoptProspectively record p clock repo identities δ earliestOpen = .ok q) :
    q.BoundTo g := by
  unfold adoptProspectively at h
  split at h
  · cases h
  · split at h
    · cases h
    next boundary source _ _ firstOpen trackingStart _ =>
      cases h
      obtain ⟨m, b, hm, hb, hcheck⟩ := hb.withTrackingStart trackingStart (.instant boundary) source
        (boundaryEligibility boundary firstOpen).1 (boundaryEligibility boundary firstOpen).2
      refine ⟨_, b, rfl, ?_, hcheck⟩
      rw [OutcomeProgress.metadataOrEmpty, hm]
      exact hb

theorem establishTracking_boundTo {earliestOpen : Instant} (hb : p.BoundTo g)
    (h : establishTracking record p clock repo identities δ earliestOpen = .ok q) :
    q.BoundTo g := by
  unfold establishTracking at h
  split_ifs at h
  · cases hadopt : adoptProspectively record p clock repo identities δ earliestOpen with
    | error d => rw [hadopt] at h; cases h
    | ok started =>
      rw [hadopt] at h
      cases h
      exact adoptProspectively_boundTo hb hadopt
  · split at h
    · unfold startTracking at h
      split at h
      · cases h
      · split_ifs at h
        · cases h
        · cases h
          exact hb.withTrackingStart ..
    · unfold backfillTracking at h
      split at h
      · cases h
      · cases h
        exact hb.withTrackingStart ..
  · cases h
    exact hb

end Rows

section Results

variable {record : SetupLifecycleRecord} {call : Call} {repo repo' : Repository}
variable {r r' : SetupLifecycleRecord}
  {identities : List String} {candles : List RawCandle} {ev : LifecycleOutcomeEvaluation}

theorem Pending.boundTo {g : StoredPlanGeometry} {started : OutcomeProgress} {bars pending : List Bar}
    (h : Pending record call repo identities candles g started bars pending) :
    started.BoundTo g := by
  obtain ⟨b, first, rest, -, hbind, hstart⟩ := h.starts
  obtain ⟨-, -, m, binding, -, hmetadata, hcheck⟩ := bindStopPolicy_spec hbind
  have hbound : (b.withAppliedEligibilityCutoff call.decisionTimestamp).BoundTo g :=
    ⟨_, binding, hmetadata, rfl, hcheck⟩
  exact establishTracking_boundTo hbound hstart

/-- An evaluation moves the record, at most, and keeps the authority. -/
theorem evaluate_restaged
    (h : evaluateWithIdentities record call repo identities candles = .ok (ev, repo')) :
    record.Restaged ev.record ∧ repo'.authority = repo.authority := by
  rcases evaluateWithIdentities_cases h with hunprocessed | ⟨g, started, bars, pending, s, rounds,
    hpending, hscanned, heq⟩
  · cases hunprocessed <;> exact ⟨.refl record, rfl⟩
  · cases heq
    exact ⟨hscanned.record, rfl⟩

theorem SetupLifecycleRecord.Restaged.lifecycleId
    (h : r.Restaged r') : r'.lifecycleId = r.lifecycleId := by
  rw [← h]

theorem SetupLifecycleRecord.Restaged.geometry
    (h : r.Restaged r') : storedPlanGeometry r' = storedPlanGeometry r := by
  rw [← h]
  rfl

theorem SetupLifecycleRecord.Restaged.planIdentities
    (h : r.Restaged r') (sha256 : String → String) :
    compatiblePlanIdentities sha256 r' = compatiblePlanIdentities sha256 r := by
  rw [← h]
  rfl

end Results

end CandleCraft.Lifecycle
