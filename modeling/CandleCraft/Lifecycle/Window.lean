import CandleCraft.Lifecycle.Evaluation

/-!
# The candles an evaluation sees

The closed candles of a window that passes its checks form a contiguous piece of the
timeframe's grid, and an evaluation depends on these candles only. The candles it processes are
the ones from the expected open on.
-/

namespace CandleCraft.Lifecycle

open Candles Relational SetupLifecycleState

section Bars

variable {candles : List RawCandle} {timeframe : String} {decision : Instant} {δ : ℤ}
variable {timeline timeline' : List CausalCandle}

/-- A candle of the timeline without its index. -/
def CausalCandle.entry (c : CausalCandle) : RawCandle × Instant × Instant :=
  (c.source, c.openTimestamp, c.closeTimestamp)

def entryBar (e : RawCandle × Instant × Instant) : Except CandleRangeError Bar :=
  match candleRange e.2.1 e.1 with
  | .error problem => .error problem
  | .ok (high, low) => .ok ⟨e.2.1, e.2.2, high, low⟩

def closedEntries (timeline : List CausalCandle) (decision : Instant) :
    List (RawCandle × Instant × Instant) :=
  (timeline.filter fun c => decide (c.closeTimestamp ≤ decision)).map CausalCandle.entry

theorem windowBars_eq {timeline : List CausalCandle}
    (h : validateCandleSequence candles timeframe true = .ok timeline) (decision : Instant) :
    windowBars candles timeframe decision =
      match (closedEntries timeline decision).mapM entryBar with
      | .error e => .error (.candleRange e)
      | .ok bars => .ok bars := by
  unfold windowBars closedCandlesAsOf
  rw [h]
  dsimp only
  rw [if_neg (Nat.not_lt_zero _), closedEntries, List.mapM_map]
  rfl

theorem closedEntries_spec {timeline : List CausalCandle}
    (h : validateCandleSequence candles timeframe true = .ok timeline) (decision : Instant) :
    ∃ δ, timeframeDuration timeframe = some δ ∧
      Grid.Contiguous (fun e => e.2.1) δ (closedEntries timeline decision) ∧
      ∀ e, e ∈ closedEntries timeline decision ↔
        e.1 ∈ candles ∧ e.1.boundaries δ = .ok e.2 ∧ e.2.2 ≤ decision := by
  obtain ⟨δ, hδ, hpos, hsource, hbounds, hcontiguous⟩ := validated_entries h
  refine ⟨δ, hδ, ?_, fun e => ?_⟩
  · have hclosed : Grid.Contiguous CausalCandle.openTimestamp δ
        (timeline.filter fun c => decide (c.closeTimestamp ≤ decision)) := by
      apply hcontiguous.filter_of_pairwise
      refine (closes_pairwise (minute_le_timeframeDuration hδ) hbounds hcontiguous).imp ?_
      intro a b hab hb
      exact decide_eq_true (hab.trans (of_decide_eq_true hb))
    exact Grid.Contiguous.map_iff.2 hclosed
  · rw [closedEntries, List.mem_map]
    constructor
    · rintro ⟨c, hc, rfl⟩
      obtain ⟨hmem, hclosed⟩ := List.mem_filter.1 hc
      refine ⟨?_, hbounds c hmem, of_decide_eq_true hclosed⟩
      rw [← hsource]
      exact List.mem_map_of_mem hmem
    · rintro ⟨hmem, hboundaries, hclosed⟩
      rw [← hsource, List.mem_map] at hmem
      obtain ⟨c, hc, hce⟩ := hmem
      have hc' := hbounds c hc
      rw [hce, hboundaries] at hc'
      have htimes : e.2 = (c.openTimestamp, c.closeTimestamp) := Except.ok.inj hc'
      rw [htimes] at hclosed
      refine ⟨c, List.mem_filter.2 ⟨hc, decide_eq_true hclosed⟩, ?_⟩
      rw [CausalCandle.entry, hce, ← htimes]

theorem entryBar_times (e : RawCandle × Instant × Instant) (bar : Bar) (h : entryBar e = .ok bar) :
    (bar.openTimestamp, bar.closeTimestamp) = e.2 := by
  unfold entryBar at h
  split at h
  · cases h
  · cases h
    rfl

structure Bars (timeframe : String) (decision : Instant) (δ : ℤ) (bars : List Bar) : Prop where
  duration : timeframeDuration timeframe = some δ
  contiguous : Grid.Contiguous Bar.openTimestamp δ bars
  close_ge : ∀ bar ∈ bars, bar.openTimestamp + δ - 1000 ≤ bar.closeTimestamp
  close_le : ∀ bar ∈ bars, bar.closeTimestamp ≤ bar.openTimestamp + δ
  closed : ∀ bar ∈ bars, bar.closeTimestamp ≤ decision

theorem Bars.step_ge {bars : List Bar} (h : Bars timeframe decision δ bars) : 60000000 ≤ δ :=
  minute_le_timeframeDuration h.duration

theorem windowBars_spec {bars : List Bar} (h : windowBars candles timeframe decision = .ok bars) :
    ∃ δ, Bars timeframe decision δ bars := by
  cases hvalid : validateCandleSequence candles timeframe true with
  | error e =>
    unfold windowBars closedCandlesAsOf at h
    rw [hvalid] at h
    cases h
  | ok timeline =>
    rw [windowBars_eq hvalid] at h
    obtain ⟨δ, hδ, hcontiguous, hmem⟩ := closedEntries_spec hvalid decision
    split at h
    · cases h
    next bars' hbars =>
      cases h
      have htimes := Scan.map_eq_of_mapM entryBar_times hbars
      have hbounds : ∀ bar ∈ bars, bar.openTimestamp + δ - 1000 ≤ bar.closeTimestamp ∧
          bar.closeTimestamp ≤ bar.openTimestamp + δ ∧ bar.closeTimestamp ≤ decision := by
        intro bar hbar
        have htime := List.mem_map_of_mem (f := fun b => (b.openTimestamp, b.closeTimestamp)) hbar
        rw [htimes, List.mem_map] at htime
        obtain ⟨e, he, hebar⟩ := htime
        obtain ⟨-, hboundaries, hclosed⟩ := (hmem e).1 he
        rw [hebar] at hboundaries hclosed
        obtain ⟨hge, hle⟩ := RawCandle.boundaries_bounds hboundaries
        exact ⟨hge, hle, hclosed⟩
      refine ⟨δ, hδ, ?_, fun bar hbar => (hbounds bar hbar).1, fun bar hbar => (hbounds bar hbar).2.1,
        fun bar hbar => (hbounds bar hbar).2.2⟩
      have hgrid : Grid.Contiguous (fun times : Instant × Instant => times.1) δ
          ((closedEntries timeline decision).map fun e => e.2) := Grid.Contiguous.map_iff.2 hcontiguous
      rw [← htimes, Grid.Contiguous.map_iff] at hgrid
      exact hgrid

def ClosedBy (timeframe : String) (decision : Instant) (c : RawCandle) : Prop :=
  ∃ δ openAt closeAt, timeframeDuration timeframe = some δ ∧
    c.boundaries δ = .ok (openAt, closeAt) ∧ closeAt ≤ decision

/-- Windows that pass the sequence checks and have the same closed candles have the same
bars. -/
theorem windowBars_congr {candles' : List RawCandle}
    (h : validateCandleSequence candles timeframe true = .ok timeline)
    (h' : validateCandleSequence candles' timeframe true = .ok timeline')
    (hsame : ∀ c, ClosedBy timeframe decision c → (c ∈ candles ↔ c ∈ candles')) :
    windowBars candles timeframe decision = windowBars candles' timeframe decision := by
  obtain ⟨δ, hδ, hcontiguous, hmem⟩ := closedEntries_spec h decision
  obtain ⟨δ', hδ', hcontiguous', hmem'⟩ := closedEntries_spec h' decision
  obtain rfl : δ = δ' := Option.some.inj (hδ.symm.trans hδ')
  have hpos : 0 < δ := lt_of_lt_of_le (by decide) (minute_le_timeframeDuration hδ)
  have hentries : closedEntries timeline decision = closedEntries timeline' decision := by
    apply hcontiguous.ext hpos hcontiguous'
    intro e
    rw [hmem e, hmem' e]
    refine and_congr_left fun hclosed => ?_
    exact hsame e.1 ⟨δ, e.2.1, e.2.2, hδ, hclosed.1, hclosed.2⟩
  rw [windowBars_eq h, windowBars_eq h', hentries]

theorem applyCutoff_congr {candles' : List RawCandle}
    (h : validateCandleSequence candles timeframe true = .ok timeline)
    (h' : validateCandleSequence candles' timeframe true = .ok timeline') (p : OutcomeProgress) :
    applyCutoff candles timeframe decision p = applyCutoff candles' timeframe decision p := by
  have hcutoff {candles timeline} (h : validateCandleSequence candles timeframe true = .ok timeline) :
      applyCutoff candles timeframe decision p = p.withAppliedEligibilityCutoff decision := by
    unfold applyCutoff closedCandlesAsOf
    rw [h]
    dsimp only
    rw [if_neg (Nat.not_lt_zero _)]
  rw [hcutoff h, hcutoff h']

end Bars

section Selection

variable {p : OutcomeProgress} {δ : ℤ} {bars pending : List Bar} {latestOpen : Instant}

theorem normalizeUtcTimestamp_ok {stamp : Stamp} {field : String} {t : Instant}
    (h : normalizeUtcTimestamp stamp field = .ok t) : stamp = .instant t := by
  cases stamp with
  | instant t' => exact congrArg Stamp.instant (Except.ok.inj h)
  | _ => cases h

/-- The candles that are selected are those from the expected open on, and the first of them
opens there. -/
theorem selectFrom_pending {expected : Instant} {otherwise : Selection}
    (hotherwise : ∀ bars, otherwise ≠ .pending bars)
    (h : selectFrom expected bars otherwise = .pending pending) :
    pending = (bars.filter fun bar => decide (expected ≤ bar.openTimestamp)) ∧
    ∃ first ∈ pending.head?, first.openTimestamp = expected := by
  unfold selectFrom at h
  split at h
  · exact absurd h (hotherwise pending)
  next first rest hfilter =>
    split_ifs at h with hexpected
    cases h
    exact ⟨hfilter.symm, first, rfl, not_not.1 hexpected⟩

/-- The open an established row waits for. -/
structure Expects (δ : ℤ) (p : OutcomeProgress) (start expected : Instant) : Prop where
  trackingStart : p.trackingStartAt = some (.instant start)
  expected :
    (p.evaluationCursorOpenAt = none ∧ expected = start) ∨
    ∃ cursorOpen, p.evaluationCursorOpenAt = some (.instant cursorOpen) ∧
      expected = max (cursorOpen + δ) start

theorem selectPending_spec (h : selectPending p δ bars latestOpen = .pending pending) :
    ∃ start expected, Expects δ p start expected ∧
      pending = (bars.filter fun bar => decide (expected ≤ bar.openTimestamp)) ∧
      ∃ first ∈ pending.head?, first.openTimestamp = expected := by
  unfold selectPending at h
  split at h
  · cases h
  next start hstart =>
    have hset : p.trackingStartAt = some (.instant start) := by
      have hstamp := normalizeUtcTimestamp_ok hstart
      cases hp : p.trackingStartAt with
      | none => rw [hp] at hstamp; cases hstamp
      | some stamp => rw [hp] at hstamp; exact congrArg some hstamp
    split at h
    next hcursor =>
      have hselected := selectFrom_pending (by intro bars; split_ifs <;> simp) h
      exact ⟨start, start, ⟨hset, .inl ⟨hcursor, rfl⟩⟩, hselected⟩
    next stored hcursor =>
      split at h
      · cases h
      next cursorOpen hopen =>
        split_ifs at h
        have hselected := selectFrom_pending (by simp) h
        refine ⟨start, _, ⟨hset, .inr ⟨cursorOpen, ?_, rfl⟩⟩, hselected⟩
        rw [hcursor, normalizeUtcTimestamp_ok hopen]

theorem Expects.start_le {start expected : Instant} (h : Expects δ p start expected) :
    start ≤ expected := by
  rcases h.expected with ⟨-, rfl⟩ | ⟨cursorOpen, -, rfl⟩
  · exact le_rfl
  · exact le_max_right _ _

end Selection

section LookAhead

variable (sha256 : String → String) {record : SetupLifecycleRecord} {call : Call}
  {repo : Repository} {identities : List String} {candles candles' : List RawCandle}

theorem evaluateWithIdentities_congr (record : SetupLifecycleRecord) (repo : Repository)
    (identities : List String) (hne : candles ≠ []) (hne' : candles' ≠ [])
    {timeline timeline' : List CausalCandle}
    (h : validateCandleSequence candles call.timeframe true = .ok timeline)
    (h' : validateCandleSequence candles' call.timeframe true = .ok timeline')
    (hsame : ∀ c, ClosedBy call.timeframe call.decisionTimestamp c → (c ∈ candles ↔ c ∈ candles')) :
    evaluateWithIdentities record call repo identities candles =
      evaluateWithIdentities record call repo identities candles' := by
  have hbound (g : StoredPlanGeometry) (p : OutcomeProgress) :
      evaluateBound record call repo identities g p candles =
        evaluateBound record call repo identities g p candles' := by
    unfold evaluateBound
    rw [if_neg hne, if_neg hne', windowBars_congr h h' hsame, applyCutoff_congr h h']
  unfold evaluateWithIdentities evaluateEligible
  simp only [hbound]

/-- A row for which the evaluation works out the tracking boundary itself. -/
def OutcomeProgress.StartsTracking (p : OutcomeProgress) : Prop :=
  (p.entryAt = none ∧ p.metadataOrEmpty.entryCausalityContract ≠ some entryCausalityContract) ∨
  (p.trackingStartAt = none ∧ p.evaluationCursorOpenAt = none)

theorem firstFullyPostBoundaryOpen_ge {δ : ℤ} (hδ : 0 < δ) (boundary earliestOpen : Instant) :
    boundary ≤ firstFullyPostBoundaryOpen δ boundary earliestOpen := by
  unfold firstFullyPostBoundaryOpen
  split_ifs with h
  · exact h
  · exact (Grid.ceil_spec hδ earliestOpen boundary).1

theorem prospectiveStart_ge {p : OutcomeProgress} {δ : ℤ} {boundary earliestOpen : Instant}
    {opens : Instant × Instant} (hδ : 0 < δ)
    (h : prospectiveStart p δ boundary earliestOpen = .ok opens) : boundary ≤ opens.2 := by
  unfold prospectiveStart at h
  split at h
  · split_ifs at h
    cases h
    exact firstFullyPostBoundaryOpen_ge hδ boundary earliestOpen
  · split at h
    · cases h
    next cursorOpen _ =>
      cases h
      exact le_max_of_le_right (Grid.ceil_spec hδ cursorOpen boundary).1

theorem establishTracking_boundary {p q : OutcomeProgress} {clock : Clock} {δ : ℤ}
    {earliestOpen boundary start : Instant} {source : String} (hδ : 0 < δ)
    (hstarts : p.StartsTracking)
    (hboundary : entryTrackingBoundary record p clock repo identities = .ok (boundary, source))
    (h : establishTracking record p clock repo identities δ earliestOpen = .ok q)
    (hstart : q.trackingStartAt = some (.instant start)) : boundary ≤ start := by
  unfold establishTracking at h
  split_ifs at h with hadopts hset
  · unfold adoptProspectively at h
    rw [hboundary] at h
    dsimp only at h
    split at h
    · cases h
    next firstOpen trackingStart hopens =>
      cases h
      cases hstart
      exact prospectiveStart_ge hδ hopens
  · split at h
    · unfold startTracking at h
      rw [hboundary] at h
      dsimp only at h
      split_ifs at h
      · cases h
      · cases h
        cases hstart
        exact firstFullyPostBoundaryOpen_ge hδ boundary earliestOpen
    next cursor hcursor =>
      rcases hstarts with ⟨hentry, hcontract⟩ | ⟨-, hnone⟩
      · exact absurd ⟨Option.isNone_iff_eq_none.2 hentry, hcontract⟩ hadopts
      · rw [hnone] at hcursor
        cases hcursor
  · rcases hstarts with ⟨hentry, hcontract⟩ | ⟨hnone, -⟩
    · exact absurd ⟨Option.isNone_iff_eq_none.2 hentry, hcontract⟩ hadopts
    · exact absurd (Option.isNone_iff_eq_none.2 hnone) hset

variable (record repo identities) in
theorem entryTrackingBoundary_congr {p q : OutcomeProgress} (h : q.toProgressKey = p.toProgressKey)
    (clock : Clock) :
    entryTrackingBoundary record q clock repo identities =
      entryTrackingBoundary record p clock repo identities := by
  have hfirst : materialPlanValue q clock = materialPlanValue p clock := by
    unfold materialPlanValue
    rw [show q.firstEvaluatedAt = p.firstEvaluatedAt from congrArg ProgressKey.firstEvaluatedAt h]
  unfold entryTrackingBoundary
  rw [hfirst]

theorem OutcomeProgress.StartsTracking.bound {p b : OutcomeProgress} {g : StoredPlanGeometry}
    {decision : Instant} {clock : Clock} (h : p.StartsTracking)
    (hbound : bindStopPolicy p g decision clock = .ok b) :
    (b.withAppliedEligibilityCutoff decision).StartsTracking := by
  obtain ⟨hsame, htracking, m, binding, hm, hb, -⟩ := bindStopPolicy_spec hbound
  have hcontract : b.metadataOrEmpty.entryCausalityContract =
      p.metadataOrEmpty.entryCausalityContract := by
    rw [metadataOrEmpty, metadataOrEmpty, hb, hm]
  have hentry : b.entryAt = p.entryAt := congrArg Milestones.entryAt hsame.milestones
  have hcursor : b.evaluationCursorOpenAt = p.evaluationCursorOpenAt :=
    congrArg Cursor.evaluationCursorOpenAt hsame.cursor
  refine h.imp (fun hadopts => ?_) fun hstarts => ?_
  · exact ⟨hentry.trans hadopts.1, fun heq => hadopts.2 (hcontract.symm.trans heq)⟩
  · exact ⟨htracking.trans hstarts.1, hcursor.trans hstarts.2⟩

/-- The candles the loop is given lie at or after the tracking start, and the boundary if this
evaluation works it out, and are closed by the decision. -/
theorem Pending.bounds {g : StoredPlanGeometry} {started : OutcomeProgress} {bars pending : List Bar}
    (h : Pending record call repo identities candles g started bars pending) :
    ∃ start, started.trackingStartAt = some (.instant start) ∧
      (∀ boundary source, (workingRow record call repo identities).StartsTracking →
        entryTrackingBoundary record (workingRow record call repo identities) call.toClock repo
          identities = .ok (boundary, source) → boundary ≤ start) ∧
      ∀ bar ∈ pending, start ≤ bar.openTimestamp ∧ bar.closeTimestamp ≤ call.decisionTimestamp := by
  obtain ⟨δ, hbars⟩ := windowBars_spec h.window
  obtain ⟨latestOpen, hselects⟩ := h.selects
  obtain ⟨start, expected, hexpects, rfl, -⟩ := selectPending_spec hselects
  refine ⟨start, hexpects.trackingStart, fun boundary source hstarts hboundary => ?_, fun bar hbar => ?_⟩
  · obtain ⟨b, first, rest, -, hbound, hstart⟩ := h.starts
    have hstep : 0 < call.step := by
      rw [Call.step, hbars.duration]
      exact lt_of_lt_of_le (by decide) hbars.step_ge
    have hsame := entryTrackingBoundary_congr record repo identities
      (bindStopPolicy_spec hbound).1.key call.toClock
    exact establishTracking_boundary hstep (hstarts.bound hbound) (hsame.trans hboundary) hstart
      hexpects.trackingStart
  · obtain ⟨hmem, hfrom⟩ := List.mem_filter.1 hbar
    exact ⟨hexpects.start_le.trans (of_decide_eq_true hfrom), hbars.closed bar hmem⟩

/-- Two windows that pass the sequence checks and have the same candles closed by the decision
are evaluated alike, whatever else they contain. Every candle an evaluation processes is closed
by the decision and opens at or after the tracking start, and at or after the boundary that the
evaluation itself works out. -/
theorem evaluation_has_no_look_ahead (record : SetupLifecycleRecord) (repo : Repository)
    (hne : candles ≠ []) (hne' : candles' ≠ []) {timeline timeline' : List CausalCandle}
    (h : validateCandleSequence candles call.timeframe true = .ok timeline)
    (h' : validateCandleSequence candles' call.timeframe true = .ok timeline')
    (hsame : ∀ c, ClosedBy call.timeframe call.decisionTimestamp c → (c ∈ candles ↔ c ∈ candles')) :
    evaluateClosedCandleOutcomes sha256 record call repo candles =
      evaluateClosedCandleOutcomes sha256 record call repo candles' ∧
    ∀ ev repo', evaluateClosedCandleOutcomes sha256 record call repo candles = .ok (ev, repo') →
      ∀ r ∈ ev.rounds, r.bar.closeTimestamp ≤ call.decisionTimestamp ∧
        ∃ p start, ev.progress = some p ∧ p.trackingStartAt = some (.instant start) ∧
          start ≤ r.bar.openTimestamp ∧
          ∀ boundary source,
            (workingRow record call repo (compatiblePlanIdentities sha256 record)).StartsTracking →
            entryTrackingBoundary record
              (workingRow record call repo (compatiblePlanIdentities sha256 record)) call.toClock repo
              (compatiblePlanIdentities sha256 record) = .ok (boundary, source) →
            boundary ≤ r.bar.openTimestamp := by
  refine ⟨evaluateWithIdentities_congr record repo _ hne hne' h h' hsame, ?_⟩
  intro ev repo' hev r hr
  rcases evaluateWithIdentities_cases hev with hnone | ⟨g, started, bars, pending, s, rounds,
    hpending, hscanned, heq⟩
  · cases hnone <;> cases hr
  · cases heq
    have hr : r ∈ rounds := hscanned.startPass_rounds ▸ hr
    obtain ⟨start, hstart, hboundary, hbounds⟩ := hpending.bounds
    have hbar : r.bar ∈ pending := hscanned.bars_initial.subset (List.mem_map_of_mem hr)
    refine ⟨(hbounds r.bar hbar).2, s.progress, start, rfl, ?_, (hbounds r.bar hbar).1, ?_⟩
    · rw [hscanned.linked.kept (f := fun p => p.trackingStartAt)
        fun r hr => (hscanned.sound r hr).trackingStart]
      exact hstart
    · intro boundary source hstarts hb
      exact (hboundary boundary source hstarts hb).trans (hbounds r.bar hbar).1

end LookAhead

section Samples

def sampleAuthority : Outbox.Authority := .granted "lifecycle-1" "BTCUSDT" .na

def sampleRepository : Repository where
  authority := sampleAuthority
  records := .empty
  progress := .empty
  events := []

/-- The quarter of an hour with the given number. -/
def quarter (n : ℤ) : Instant := 900000000 * n

def sampleCandle (n : ℤ) (high low : ℚ) : RawCandle where
  openTimestamp := some (.instant (quarter n))
  closeTimestamp := none
  high := .number high
  low := .number low
  openPrice := .absent
  closePrice := .absent
  volume := .absent
  quoteVolume := .absent
  turnover := .absent

/-- An evaluation of quarters of an hour at the end of the one with the given number. -/
def sampleEvaluation (n : ℤ) : Call where
  evaluatedAt := quarter n
  scanRunId := none
  executionTimeframe := "15m"
  decisionTimestamp := quarter n

def sampleConfirmed : SetupLifecycleRecord :=
  { sampleWatchlisted with currentState := .confirmed, confirmedAt := some (.instant 0) }

theorem not_closedBy_sampleCandle (n : ℤ) (high low : ℚ) :
    ¬ ClosedBy "15m" (quarter n) (sampleCandle n high low) := by
  rintro ⟨δ, openAt, closeAt, hδ, hboundaries, hclosed⟩
  have hδ' : δ = 900000000 := Option.some.inj (hδ.symm.trans (by decide))
  have hclose : closeAt = quarter n + δ :=
    (congrArg Prod.snd (Except.ok.inj hboundaries)).symm
  rw [hclose, hδ'] at hclosed
  linarith

/-- Neither no candle at all nor a single forming one has anything closed, yet the diagnostics
differ. -/
theorem empty_window_is_told_apart :
    validateCandleSequence [] "15m" true = .ok [] ∧
    (validateCandleSequence [sampleCandle 1 105 103] "15m" true).toOption.isSome = true ∧
    (∀ c, ClosedBy "15m" (quarter 1) c → (c ∈ [] ↔ c ∈ [sampleCandle 1 105 103])) ∧
    (evaluateClosedCandleOutcomes id sampleConfirmed (sampleEvaluation 1) sampleRepository []).map
        (fun r => r.1.progress.map (·.diagnostic)) =
      .ok (some .missingExecutionCandleHistory) ∧
    (evaluateClosedCandleOutcomes id sampleConfirmed (sampleEvaluation 1) sampleRepository
        [sampleCandle 1 105 103]).map (fun r => r.1.progress.map (·.diagnostic)) =
      .ok (some .noClosedExecutionCandles) := by
  refine ⟨rfl, by decide +kernel, fun c hclosed => ?_, by decide +kernel, by decide +kernel⟩
  refine iff_of_false List.not_mem_nil fun hmem => ?_
  rw [List.mem_singleton.1 hmem] at hclosed
  exact not_closedBy_sampleCandle 1 105 103 hclosed

/-- A forming candle changes nothing. -/
theorem forming_candle_is_ignored :
    evaluateClosedCandleOutcomes id sampleConfirmed (sampleEvaluation 1) sampleRepository
        [sampleCandle 0 105 103] =
      evaluateClosedCandleOutcomes id sampleConfirmed (sampleEvaluation 1) sampleRepository
        [sampleCandle 0 105 103, sampleCandle 1 101 90] := by
  have htimeframe : (sampleEvaluation 1).timeframe = "15m" := by decide +kernel
  have hone : validateCandleSequence [sampleCandle 0 105 103] (sampleEvaluation 1).timeframe true =
      .ok [⟨sampleCandle 0 105 103, quarter 0, quarter 1, 0⟩] := by
    rw [htimeframe]
    decide +kernel
  have htwo : validateCandleSequence [sampleCandle 0 105 103, sampleCandle 1 101 90]
      (sampleEvaluation 1).timeframe true =
        .ok [⟨sampleCandle 0 105 103, quarter 0, quarter 1, 0⟩,
          ⟨sampleCandle 1 101 90, quarter 1, quarter 2, 1⟩] := by
    rw [htimeframe]
    decide +kernel
  refine (evaluation_has_no_look_ahead id sampleConfirmed sampleRepository
    (List.cons_ne_nil _ _) (List.cons_ne_nil _ _) hone htwo fun c hclosed => ?_).1
  rw [htimeframe] at hclosed
  rw [List.mem_cons, List.mem_cons, List.mem_singleton]
  refine or_congr_right (iff_of_false List.not_mem_nil fun hc => ?_)
  rw [hc] at hclosed
  exact not_closedBy_sampleCandle 1 101 90 hclosed

end Samples

end CandleCraft.Lifecycle
