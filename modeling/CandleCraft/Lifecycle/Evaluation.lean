import CandleCraft.Lifecycle.CandleStep

/-!
# The cases of an outcome evaluation

What an evaluation does, said once: it leaves everything alone, it closes the row of a record
that has ended, it notes why no candle can be processed, or it runs the candle loop. Before the
loop the row is bound to the stop policy, gets the cutoff of the decision and is given a tracking
start; none of this touches its milestones or its cursor.
-/

namespace CandleCraft.Lifecycle

open Candles Relational SetupLifecycleState

section Rows

/-- Two rows of a plan with the same milestones and the same cursor. -/
structure OutcomeProgress.SameOutcome (p q : OutcomeProgress) : Prop where
  key : q.toProgressKey = p.toProgressKey
  milestones : q.toMilestones = p.toMilestones
  cursor : q.toCursor = p.toCursor

/-- Two rows that differ in their audit columns only. -/
structure OutcomeProgress.SameRow (p q : OutcomeProgress) : Prop extends p.SameOutcome q where
  trackingStart : q.trackingStartAt = p.trackingStartAt
  metadata : q.metadataOrEmpty = p.metadataOrEmpty

variable {p q r : OutcomeProgress}

theorem OutcomeProgress.SameOutcome.refl (p : OutcomeProgress) : p.SameOutcome p := ⟨rfl, rfl, rfl⟩

theorem OutcomeProgress.SameOutcome.trans (h : p.SameOutcome q) (h' : q.SameOutcome r) :
    p.SameOutcome r :=
  ⟨h'.key.trans h.key, h'.milestones.trans h.milestones, h'.cursor.trans h.cursor⟩

theorem OutcomeProgress.integrityFailure_sameRow (p : OutcomeProgress) (status : IntegrityStatus)
    (d : Diagnostic) (clock : Clock) : p.SameRow (p.integrityFailure status d clock) :=
  ⟨⟨rfl, rfl, rfl⟩, rfl, rfl⟩

theorem OutcomeProgress.withAppliedEligibilityCutoff_sameRow (p : OutcomeProgress)
    (decision : Instant) : p.SameRow (p.withAppliedEligibilityCutoff decision) :=
  ⟨⟨rfl, rfl, rfl⟩, rfl, rfl⟩

/-- The binding of the stop policy changes the metadata only, and of these the binding. -/
theorem bindStopPolicy_spec {p b : OutcomeProgress} {g : StoredPlanGeometry} {decision : Instant}
    {clock : Clock} (h : bindStopPolicy p g decision clock = .ok b) :
    p.SameOutcome b ∧ b.trackingStartAt = p.trackingStartAt ∧
    ∃ m binding, p.metadata = .ok m ∧
      b.metadata = .ok { m with stopManagement := some (.binding binding) } ∧
      binding.check g = .ok () := by
  unfold bindStopPolicy at h
  split at h
  · cases h
  next m hm =>
    split at h
    · cases h
    next binding hbinding =>
      split at h
      · cases h
      next hcheck =>
        cases h
        refine ⟨.refl _, rfl, m, binding, hm, ?_, hcheck⟩
        rw [hm, ← hbinding]
    next hnone =>
      split at h
      · cases h
      next cutoff hcutoff =>
        cases h
        exact ⟨⟨rfl, rfl, rfl⟩, rfl, m, newBinding g cutoff clock, hm, rfl, by
          simp [newBinding, StopBinding.check, normalizeUtcTimestamp]⟩

theorem establishTracking_sameOutcome {record : SetupLifecycleRecord} {clock : Clock}
    {repo : Repository} {identities : List String} {δ : ℤ} {earliestOpen : Instant}
    (h : establishTracking record p clock repo identities δ earliestOpen = .ok q) :
    p.SameOutcome q := by
  unfold establishTracking at h
  split_ifs at h
  · unfold adoptProspectively at h
    split at h
    · cases h
    · split at h
      · cases h
      · cases h
        exact ⟨rfl, rfl, rfl⟩
  · split at h
    · unfold startTracking at h
      split at h
      · cases h
      · split_ifs at h
        · cases h
        · cases h
          exact ⟨rfl, rfl, rfl⟩
    · unfold backfillTracking at h
      split at h
      · cases h
      · cases h
        exact ⟨rfl, rfl, rfl⟩
  · cases h
    exact .refl _

end Rows

section Cases

variable (record : SetupLifecycleRecord) (call : Call) (repo : Repository)
variable {r : LifecycleOutcomeEvaluation × Repository} {started : OutcomeProgress}
  (identities : List String) (candles : List RawCandle)

def Call.step : ℤ := (timeframeDuration call.timeframe).getD 0

/-- The rows an evaluation passes through before it processes candles. -/
inductive Reaches (g : StoredPlanGeometry) : OutcomeProgress → Prop where
  | row : Reaches g (workingRow record call repo identities)
  | bound {b}
      (h : bindStopPolicy (workingRow record call repo identities) g call.decisionTimestamp
        call.toClock = .ok b) : Reaches g b
  | filtered {b}
      (h : bindStopPolicy (workingRow record call repo identities) g call.decisionTimestamp
        call.toClock = .ok b) : Reaches g (b.withAppliedEligibilityCutoff call.decisionTimestamp)
  | started {b first started rest}
      (h : bindStopPolicy (workingRow record call repo identities) g call.decisionTimestamp
        call.toClock = .ok b)
      (hbars : windowBars candles call.timeframe call.decisionTimestamp = .ok (first :: rest))
      (hstart : establishTracking record (b.withAppliedEligibilityCutoff call.decisionTimestamp)
        call.toClock repo identities call.step first.openTimestamp = .ok started) :
      Reaches g started

structure Live (g : StoredPlanGeometry) : Prop where
  geometry : storedPlanGeometry record = .ok g
  unended : ∀ p ∈ storedRow record repo identities, p.terminalOutcome = none
  eligible : record.currentState ∈ outcomeEligible

/-- The circumstances in which the candle loop runs: the bound row, the closed candles of the
window, the row with its tracking start, and the candles from the expected open on. -/
structure Pending (g : StoredPlanGeometry) (started : OutcomeProgress) (bars pending : List Bar) :
    Prop extends Live record repo identities g where
  timeframe : (workingRow record call repo identities).executionTimeframe = call.timeframe
  window : windowBars candles call.timeframe call.decisionTimestamp = .ok bars
  starts : ∃ b first rest, bars = first :: rest ∧
    bindStopPolicy (workingRow record call repo identities) g call.decisionTimestamp
      call.toClock = .ok b ∧
    establishTracking record (b.withAppliedEligibilityCutoff call.decisionTimestamp)
      call.toClock repo identities call.step first.openTimestamp = .ok started
  selects : ∃ latestOpen, selectPending started call.step bars latestOpen = .pending pending

/-- The results of an evaluation that does not run the candle loop. -/
inductive Unprocessed : LifecycleOutcomeEvaluation × Repository → Prop where
  | kept : Unprocessed (leaveAll record repo (storedRow record repo identities))
  | ended (hunended : ∀ p ∈ storedRow record repo identities, p.terminalOutcome = none)
      (hstate : record.currentState ∈ terminalOutcome) :
      Unprocessed (leaveRecord record repo
        (terminalProgressForRecord record (workingRow record call repo identities) call.toClock))
  | noted {g q p} (live : Live record repo identities g)
      (hq : Reaches record call repo identities candles g q) (hp : q.SameRow p) :
      Unprocessed (leaveRecord record repo p)

variable {record call repo identities candles}

def Comes (record : SetupLifecycleRecord) (call : Call) (repo : Repository)
    (identities : List String) (candles : List RawCandle)
    (result : Except String (LifecycleOutcomeEvaluation × Repository)) : Prop :=
  (∃ r, Unprocessed record call repo identities candles r ∧ result = .ok r) ∨
  ∃ g started bars pending, Pending record call repo identities candles g started bars pending ∧
    result = ((startPass record repo started).scan g call.toClock pending).map (finishPass repo)

theorem comes_of_unprocessed (h : Unprocessed record call repo identities candles r) :
    Comes record call repo identities candles (.ok r) :=
  .inl ⟨r, h, rfl⟩

theorem comes_of_block {g : StoredPlanGeometry} {q : OutcomeProgress}
    (live : Live record repo identities g)
    (hq : Reaches record call repo identities candles g q) (status : IntegrityStatus)
    (d : Diagnostic) :
    Comes record call repo identities candles (.ok (block record call repo q status d)) :=
  comes_of_unprocessed (.noted live hq (q.integrityFailure_sameRow status d call.toClock))

variable {g : StoredPlanGeometry} {b : OutcomeProgress}

theorem Pending.reaches {bars pending : List Bar}
    (h : Pending record call repo identities candles g started bars pending) :
    Reaches record call repo identities candles g started := by
  obtain ⟨b, first, rest, rfl, hbound, hstart⟩ := h.starts
  exact .started hbound h.window hstart

theorem evaluateTracked_comes {first : Bar} {rest : List Bar}
    {latestOpen : Instant} (live : Live record repo identities g)
    (htimeframe : (workingRow record call repo identities).executionTimeframe = call.timeframe)
    (hbound : bindStopPolicy (workingRow record call repo identities) g call.decisionTimestamp
      call.toClock = .ok b)
    (hwindow : windowBars candles call.timeframe call.decisionTimestamp = .ok (first :: rest))
    (hstart : establishTracking record (b.withAppliedEligibilityCutoff call.decisionTimestamp)
      call.toClock repo identities call.step first.openTimestamp = .ok started) :
    Comes record call repo identities candles
      (evaluateTracked record call repo g started (first :: rest) latestOpen call.step) := by
  have hreaches := Reaches.started hbound hwindow hstart
  unfold evaluateTracked
  split
  next status d _ => exact comes_of_block live hreaches status d
  next d _ =>
    exact comes_of_unprocessed (.noted live hreaches ⟨⟨rfl, rfl, rfl⟩, rfl, rfl⟩)
  next pending hpending =>
    exact .inr ⟨g, started, first :: rest, pending,
      ⟨live, htimeframe, hwindow, ⟨b, first, rest, rfl, hbound, hstart⟩, latestOpen, hpending⟩, rfl⟩

theorem applyCutoff_of_window {timeframe : String} {decision : Instant} {bars : List Bar}
    (h : windowBars candles timeframe decision = .ok bars) (p : OutcomeProgress) :
    applyCutoff candles timeframe decision p = p.withAppliedEligibilityCutoff decision := by
  unfold windowBars at h
  unfold applyCutoff
  split at h
  · cases h
  · rfl

theorem evaluateBound_comes (live : Live record repo identities g)
    (htimeframe : (workingRow record call repo identities).executionTimeframe = call.timeframe)
    (hbound : bindStopPolicy (workingRow record call repo identities) g call.decisionTimestamp
      call.toClock = .ok b) :
    Comes record call repo identities candles
      (evaluateBound record call repo identities g b candles) := by
  unfold evaluateBound
  split_ifs
  · exact comes_of_block live (.bound hbound) _ _
  · dsimp only
    split
    next d hd =>
      have hq : Reaches record call repo identities candles g
          (applyCutoff candles call.timeframe call.decisionTimestamp b) := by
        unfold applyCutoff
        split
        · exact .bound hbound
        · exact .filtered hbound
      exact comes_of_block live hq _ _
    next bars hbars =>
      rw [applyCutoff_of_window hbars]
      cases bars with
      | nil => exact comes_of_block live (.filtered hbound) _ _
      | cons first rest =>
        rw [evaluateBars]
        split
        next status d hstart => exact comes_of_block live (.filtered hbound) status d
        next started hstart =>
          exact evaluateTracked_comes live htimeframe hbound hbars hstart

theorem evaluateEligible_comes (live : Live record repo identities g) :
    Comes record call repo identities candles
      (evaluateEligible record call repo identities g (workingRow record call repo identities)
        candles) := by
  unfold evaluateEligible
  split_ifs with hmissing htimeframe
  · exact comes_of_block live .row _ _
  · exact comes_of_block live .row _ _
  · split
    · exact comes_of_block live .row _ _
    next bound hbound => exact evaluateBound_comes live (not_not.1 htimeframe) hbound

theorem unended_of_not_any {stored : Option OutcomeProgress}
    (h : ¬ stored.any (fun p => p.terminalOutcome.isSome) = true) :
    ∀ p ∈ stored, p.terminalOutcome = none := by
  rintro p ⟨⟩
  exact Option.isNone_iff_eq_none.1 (by simpa using h)

/-- Every evaluation leaves its candles alone, for one of the three reasons, or runs the candle
loop over the pending candles. -/
theorem evaluateWithIdentities_comes (record : SetupLifecycleRecord) (call : Call)
    (repo : Repository) (identities : List String) (candles : List RawCandle) :
    Comes record call repo identities candles
      (evaluateWithIdentities record call repo identities candles) := by
  rw [evaluateWithIdentities]
  cases repo.ownsCurrentEpoch record.lifecycleId with
  | false => exact comes_of_unprocessed .kept
  | true =>
    rw [if_neg (by decide)]
    cases hg : storedPlanGeometry record with
    | error failure => exact comes_of_unprocessed .kept
    | ok g =>
      split_ifs with hended hterminal heligible
      · exact comes_of_unprocessed .kept
      · exact comes_of_unprocessed (.ended (unended_of_not_any hended) hterminal)
      · exact evaluateEligible_comes ⟨hg, unended_of_not_any hended, heligible⟩
      · exact comes_of_unprocessed .kept

/-- An evaluation that returns has left its candles alone or has run the loop to its end. -/
theorem evaluateWithIdentities_cases
    (h : evaluateWithIdentities record call repo identities candles = .ok r) :
    Unprocessed record call repo identities candles r ∨
    ∃ g started bars pending s rounds,
      Pending record call repo identities candles g started bars pending ∧
      Scanned g pending (startPass record repo started) s rounds ∧ r = finishPass repo s := by
  rcases evaluateWithIdentities_comes record call repo identities candles with
    ⟨r', hr', heq⟩ | ⟨g, started, bars, pending, hpending, heq⟩
  · obtain rfl : r' = r := Except.ok.inj (heq.symm.trans h)
    exact .inl hr'
  · rw [heq] at h
    obtain ⟨s, hs, rfl⟩ := Scan.map_ok h
    obtain ⟨rounds, hscanned⟩ := Pass.scan_spec (fun _ => hpending.eligible) rfl hs
    exact .inr ⟨g, started, bars, pending, s, rounds, hpending, hscanned, rfl⟩

theorem Scanned.startPass_rounds {pending : List Bar} {s : Pass}
    {rounds : List Round} (h : Scanned g pending (startPass record repo started) s rounds) :
    s.rounds = rounds :=
  h.rounds_eq

theorem Reaches.sameOutcome {q : OutcomeProgress}
    (h : Reaches record call repo identities candles g q) :
    (workingRow record call repo identities).SameOutcome q := by
  cases h with
  | row => exact .refl _
  | bound h => exact (bindStopPolicy_spec h).1
  | @filtered b h =>
    exact (bindStopPolicy_spec h).1.trans
      (b.withAppliedEligibilityCutoff_sameRow call.decisionTimestamp).toSameOutcome
  | @started b _ _ _ h _ hstart =>
    exact ((bindStopPolicy_spec h).1.trans
      (b.withAppliedEligibilityCutoff_sameRow call.decisionTimestamp).toSameOutcome).trans
      (establishTracking_sameOutcome hstart)

end Cases

end CandleCraft.Lifecycle
