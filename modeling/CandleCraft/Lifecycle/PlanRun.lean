import CandleCraft.Lifecycle.Window

/-!
# The runs of a plan

The calls on one plan, seen through the progress row that is stored for it. What happens to
other rows, to the record and to the events between the calls is left open: a call of a run may
be made on any repository that holds the row the call before it left.
-/

namespace CandleCraft.Lifecycle

open Candles Relational SetupLifecycleState

section Storage

variable {repo repo' : Repository} {id : String} {identities : List String} {p q : OutcomeProgress}

/-- A row that is written over the row of a plan is found for the plan. -/
theorem findProgress_of_stored (hput : repo'.progress = repo.progress.put q)
    (hp : repo.findProgress id identities = some p) (hkey : q.toProgressKey = p.toProgressKey) :
    repo'.findProgress id identities = some q := by
  have hid : q.lifecycleId = p.lifecycleId := congrArg ProgressKey.lifecycleId hkey
  have hplan : q.planIdentity = p.planIdentity := congrArg ProgressKey.planIdentity hkey
  unfold Repository.findProgress at hp ⊢
  rw [hput]
  have hstored : repo.progress.fetch (p.lifecycleId, p.planIdentity) = some p := by
    obtain ⟨identity, -, hfetch⟩ := List.exists_of_findSome?_eq_some hp
    exact Table.fetch_of_mem (Table.mem_of_fetch hfetch)
  induction identities with
  | nil => cases hp
  | cons identity rest ih =>
    rw [List.findSome?_cons] at hp ⊢
    rw [Table.fetch_put, hid, hplan]
    split_ifs with hfirst
    · rfl
    · cases hfetch : repo.progress.fetch (id, identity) with
      | some r =>
        rw [hfetch] at hp
        cases hp
        exact absurd (Table.key_of_fetch hfetch) hfirst
      | none =>
        rw [hfetch] at hp
        exact ih hp

theorem findProgress_of_new (hput : repo'.progress = repo.progress.put q) (hne : identities ≠ [])
    (hid : q.lifecycleId = id) (hplan : q.planIdentity = identities.headD "") :
    repo'.findProgress id identities = some q := by
  obtain ⟨identity, rest, rfl⟩ := List.exists_cons_of_ne_nil hne
  rw [Repository.findProgress, List.findSome?_cons, hput, Table.fetch_put, hid, hplan,
    List.headD_cons, if_pos rfl]

theorem findProgress_of_row {record : SetupLifecycleRecord} {executionTimeframe : String}
    {clock : Clock} (hput : repo'.progress = repo.progress.put q) (hne : identities ≠ [])
    (hkey : q.toProgressKey = (rowOrNew record identities (storedRow record repo identities)
      executionTimeframe clock).toProgressKey) :
    repo'.findProgress record.lifecycleId identities = some q := by
  cases hp : storedRow record repo identities with
  | some p =>
    rw [hp] at hkey
    exact findProgress_of_stored hput hp hkey
  | none =>
    rw [hp] at hkey
    exact findProgress_of_new hput hne (congrArg ProgressKey.lifecycleId hkey)
      (congrArg ProgressKey.planIdentity hkey)

theorem compatiblePlanIdentities_ne_nil (sha256 : String → String) (record : SetupLifecycleRecord) :
    compatiblePlanIdentities sha256 record ≠ [] := by
  unfold compatiblePlanIdentities
  rw [List.eraseDups_cons]
  exact List.cons_ne_nil _ _

end Storage

section Rows

variable {w q : OutcomeProgress}
variable {clock : Clock} {identities : List String} {record : SetupLifecycleRecord}
variable {repo : Repository}

def OutcomeProgress.step (p : OutcomeProgress) : ℤ :=
  (timeframeDuration p.executionTimeframe).getD 0

def OutcomeProgress.Contracted (p : OutcomeProgress) : Prop :=
  p.metadataOrEmpty.entryCausalityContract = some entryCausalityContract

/-- A row that is filled or carries the contract, as every row does that this version has
created. -/
def OutcomeProgress.Current (p : OutcomeProgress) : Prop := p.entryAt = none → p.Contracted

/-- A row on which nothing has happened. -/
structure OutcomeProgress.Fresh (w : OutcomeProgress) : Prop where
  milestones : w.toMilestones = {}
  cursor : w.toCursor = {}
  contracted : w.Contracted

/-- The changes an evaluation makes to a row before its candles: the outcome and the contract
stay, and so does a tracking start that is set. -/
structure OutcomeProgress.Prepares (w q : OutcomeProgress) : Prop extends w.SameOutcome q where
  contracted : w.Contracted → q.Contracted
  trackingStart : w.Contracted → w.trackingStartAt.isSome = true →
    q.trackingStartAt = w.trackingStartAt

theorem OutcomeProgress.SameRow.prepares (h : w.SameRow q) : w.Prepares q where
  toSameOutcome := h.toSameOutcome
  contracted hw := by
    rw [Contracted, h.metadata]
    exact hw
  trackingStart _ _ := h.trackingStart

theorem OutcomeProgress.Prepares.trans {r : OutcomeProgress} (h : w.Prepares q)
    (h' : q.Prepares r) : w.Prepares r where
  toSameOutcome := h.toSameOutcome.trans h'.toSameOutcome
  contracted hw := h'.contracted (h.contracted hw)
  trackingStart hw hset := by
    have hq := h.trackingStart hw hset
    rw [h'.trackingStart (h.contracted hw) (hq ▸ hset), hq]

theorem bindStopPolicy_prepares {b : OutcomeProgress} {g : StoredPlanGeometry} {decision : Instant}
    (h : bindStopPolicy w g decision clock = .ok b) : w.Prepares b := by
  obtain ⟨hsame, htracking, m, binding, hm, hb, -⟩ := bindStopPolicy_spec h
  refine ⟨hsame, fun hw => ?_, fun _ _ => htracking⟩
  rw [OutcomeProgress.Contracted, OutcomeProgress.metadataOrEmpty, hm] at hw
  rw [OutcomeProgress.Contracted, OutcomeProgress.metadataOrEmpty, hb]
  exact hw

theorem establishTracking_of_current {δ : ℤ} {earliestOpen : Instant} (hw : w.Current) :
    establishTracking record w clock repo identities δ earliestOpen =
      if w.trackingStartAt.isNone then
        match w.evaluationCursorOpenAt with
        | none =>
          (startTracking record w clock repo identities δ earliestOpen).mapError fun d =>
            (.unverified, d)
        | some cursor => (backfillTracking w cursor).mapError fun d => (.failed, d)
      else .ok w :=
  if_neg fun hadopts => hadopts.2 (hw (Option.isNone_iff_eq_none.1 hadopts.1))

theorem establishTracking_prepares {δ : ℤ} {earliestOpen : Instant}
    (h : establishTracking record w clock repo identities δ earliestOpen = .ok q) :
    w.Prepares q := by
  refine ⟨establishTracking_sameOutcome h, fun hw => ?_, fun hw hset => ?_⟩
  · rw [establishTracking_of_current fun _ => hw] at h
    split_ifs at h
    · split at h
      · unfold startTracking at h
        split at h
        · cases h
        · split_ifs at h
          · cases h
          · cases h
            rfl
      · unfold backfillTracking at h
        split at h
        · cases h
        · cases h
          rfl
    · cases h
      exact hw
  · rw [establishTracking_of_current fun _ => hw, if_neg (by simp [Option.isSome_iff_ne_none.1 hset])] at h
    cases h
    rfl

theorem Reaches.prepares {call : Call} {candles : List RawCandle} {g : StoredPlanGeometry}
    (h : Reaches record call repo identities candles g q) :
    (workingRow record call repo identities).Prepares q := by
  cases h with
  | row => exact ⟨.refl _, id, fun _ _ => rfl⟩
  | bound h => exact bindStopPolicy_prepares h
  | @filtered b h =>
    exact (bindStopPolicy_prepares h).trans
      (b.withAppliedEligibilityCutoff_sameRow call.decisionTimestamp).prepares
  | @started b _ _ _ h _ hstart =>
    exact ((bindStopPolicy_prepares h).trans
      (b.withAppliedEligibilityCutoff_sameRow call.decisionTimestamp).prepares).trans
      (establishTracking_prepares hstart)

end Rows

section Steps

variable {record : SetupLifecycleRecord} {call : Call} {repo : Repository}
  {identities : List String} {candles : List RawCandle}

/-- A run of the candle loop on a row: the closed candles of a window, those from the expected
open on, and the rounds over them. -/
structure Processed (w : OutcomeProgress) (rounds : List Round) (q : OutcomeProgress)
    (g : StoredPlanGeometry) (started : OutcomeProgress) (decision : Instant)
    (bars pending : List Bar) : Prop where
  geometry : ∃ record, storedPlanGeometry record = .ok g
  prepares : w.Prepares started
  window : Bars w.executionTimeframe decision w.step bars
  expects : ∃ start expected, Expects w.step started start expected ∧
    pending = (bars.filter fun bar => decide (expected ≤ bar.openTimestamp)) ∧
    ∃ first ∈ pending.head?, first.openTimestamp = expected
  linked : Linked started rounds q
  sound : ∀ r ∈ rounds, r.Sound g
  bars_initial : rounds.map Round.bar <+: pending
  bars_eq : q.terminalOutcome = none → rounds.map Round.bar = pending

/-- What a call does to the row of an open plan. -/
inductive RowStep (admits : SetupLifecycleRecord → Prop) (w : OutcomeProgress) :
    List Round → OutcomeProgress → Prop where
  | closed {record clock} (hadmits : admits record) (hstate : record.currentState ∈ terminalOutcome) :
      RowStep admits w [] (terminalProgressForRecord record w clock)
  | noted {q} (h : w.Prepares q) : RowStep admits w [] q
  | processed {rounds q g started decision bars pending}
      (h : Processed w rounds q g started decision bars pending) : RowStep admits w rounds q

theorem Pending.processed {g : StoredPlanGeometry} {started : OutcomeProgress}
    {bars pending : List Bar} {s : Pass} {rounds : List Round}
    (h : Pending record call repo identities candles g started bars pending)
    (hscanned : Scanned g pending (startPass record repo started) s rounds) :
    Processed (workingRow record call repo identities) rounds s.progress g started
      call.decisionTimestamp bars pending := by
  obtain ⟨δ, hbars⟩ := windowBars_spec h.window
  obtain ⟨latestOpen, hselects⟩ := h.selects
  have hcall : call.step = δ := by rw [Call.step, hbars.duration, Option.getD_some]
  have hstep : (workingRow record call repo identities).step = δ := by
    rw [OutcomeProgress.step, h.timeframe, ← hcall, Call.step]
  rw [hcall] at hselects
  refine ⟨⟨record, h.geometry⟩, h.reaches.prepares, ?_, ?_, hscanned.linked, hscanned.sound,
    hscanned.bars_initial, hscanned.bars_eq⟩
  · rw [hstep, h.timeframe]
    exact hbars
  · rw [hstep]
    exact selectPending_spec hselects

theorem rowOrNew_cases (record : SetupLifecycleRecord) (identities : List String)
    (stored : Option OutcomeProgress) (executionTimeframe : String) (clock : Clock) :
    stored = some (rowOrNew record identities stored executionTimeframe clock) ∨
    stored = none ∧ (rowOrNew record identities stored executionTimeframe clock).Fresh := by
  cases stored with
  | some p => exact .inl rfl
  | none => exact .inr ⟨rfl, rfl, rfl, rfl⟩

theorem rowOrNew_unended {stored : Option OutcomeProgress} {executionTimeframe : String}
    {clock : Clock} (h : ∀ p ∈ stored, p.terminalOutcome = none) :
    (rowOrNew record identities stored executionTimeframe clock).terminalOutcome = none := by
  cases stored with
  | some p => exact h p rfl
  | none => rfl

theorem withEvidenceGap_sameRow (p : OutcomeProgress) (diagnostic : String) (clock : Clock) :
    p.SameRow (p.withEvidenceGap diagnostic clock) :=
  ⟨⟨rfl, rfl, rfl⟩, rfl, rfl⟩

/-- A note of missing evidence leaves everything alone or is written on the row of an open
plan. -/
theorem recordClosedCandleEvidenceGap_cases (sha256 : String → String)
    (record : SetupLifecycleRecord) (diagnostic executionTimeframe : String) (clock : Clock)
    (repo : Repository) :
    (recordClosedCandleEvidenceGap sha256 record diagnostic executionTimeframe clock repo).2 = repo ∨
    (∀ p ∈ storedRow record repo (compatiblePlanIdentities sha256 record), p.terminalOutcome = none) ∧
    recordClosedCandleEvidenceGap sha256 record diagnostic executionTimeframe clock repo =
      leaveRecord record repo ((rowOrNew record (compatiblePlanIdentities sha256 record)
        (storedRow record repo (compatiblePlanIdentities sha256 record)) executionTimeframe
        clock).withEvidenceGap diagnostic clock) := by
  unfold recordClosedCandleEvidenceGap
  dsimp only
  split_ifs with howner hended
  · exact .inl rfl
  · exact .inl rfl
  · exact .inl rfl
  · exact .inr ⟨unended_of_not_any hended, rfl⟩
  · exact .inl rfl
  · exact .inl rfl

end Steps

section Calls

variable (sha256 : String → String) (admits : SetupLifecycleRecord → Prop) (id : String)
  (identities : List String)

/-- One call on a plan, from the row it finds to the row it leaves, with the candles it
completes; `admits` restricts the records that are evaluated while the row is open. An
evaluation that raises is rolled back and is no step. -/
inductive PlanStep : Option OutcomeProgress → List Round → Option OutcomeProgress → Prop where
  | evaluated {record call repo candles ev repo'} (hid : record.lifecycleId = id)
      (hplan : compatiblePlanIdentities sha256 record = identities)
      (hadmits : (∀ p ∈ repo.findProgress id identities, p.terminalOutcome = none) → admits record)
      (h : evaluateClosedCandleOutcomes sha256 record call repo candles = .ok (ev, repo')) :
      PlanStep (repo.findProgress id identities) ev.rounds (repo'.findProgress id identities)
  | evidenceGap {record repo} (diagnostic executionTimeframe : String) (clock : Clock)
      (hid : record.lifecycleId = id) (hplan : compatiblePlanIdentities sha256 record = identities) :
      PlanStep (repo.findProgress id identities) []
        ((recordClosedCandleEvidenceGap sha256 record diagnostic executionTimeframe clock
          repo).2.findProgress id identities)

/-- The calls on a plan that begins without a row, with all the candles they complete. -/
inductive PlanRun : List Round → Option OutcomeProgress → Prop where
  | start : PlanRun [] none
  | step {rounds row rounds' row'} (h : PlanRun rounds row)
      (hstep : PlanStep sha256 admits id identities row rounds' row') :
      PlanRun (rounds ++ rounds') row'

variable {sha256 admits id identities} {row row' : Option OutcomeProgress} {rounds : List Round}

/-- A call leaves the row of the plan alone or takes a step on an open row, which is a new one
if there is none. -/
theorem PlanStep.cases (h : PlanStep sha256 admits id identities row rounds row') :
    (rounds = [] ∧ row' = row) ∨
    ∃ w q, (row = some w ∨ row = none ∧ w.Fresh) ∧ w.terminalOutcome = none ∧ row' = some q ∧
      RowStep admits w rounds q := by
  cases h with
  | @evaluated record call repo candles ev repo' hid hplan hadmits h =>
    subst hid hplan
    have hne := compatiblePlanIdentities_ne_nil sha256 record
    have hrow := rowOrNew_cases record (compatiblePlanIdentities sha256 record)
      (storedRow record repo (compatiblePlanIdentities sha256 record)) call.executionTimeframe
      call.toClock
    rcases evaluateWithIdentities_cases h with hunprocessed | ⟨g, started, bars, pending, s, rounds,
      hpending, hscanned, heq⟩
    · cases hunprocessed with
      -- the candles were left alone
      | kept => exact .inl ⟨rfl, rfl⟩
      | ended hunended hstate =>
        exact .inr ⟨_, _, hrow, rowOrNew_unended hunended, findProgress_of_row rfl hne rfl,
          .closed (hadmits hunended) hstate⟩
      | noted live hq hp =>
        have hprepares := hq.prepares.trans hp.prepares
        exact .inr ⟨_, _, hrow, rowOrNew_unended live.unended,
          findProgress_of_row rfl hne hprepares.key, .noted hprepares⟩
    · cases heq
      have hprocessed := hpending.processed hscanned
      have hkey : s.progress.toProgressKey = started.toProgressKey :=
        hscanned.linked.kept fun r hr => (hscanned.sound r hr).key
      refine .inr ⟨_, _, hrow, rowOrNew_unended hpending.unended,
        findProgress_of_row rfl hne (hkey.trans hprocessed.prepares.key), ?_⟩
      show RowStep admits _ s.rounds _
      rw [hscanned.startPass_rounds]
      exact .processed hprocessed
  | @evidenceGap record repo diagnostic executionTimeframe clock hid hplan =>
    subst hid hplan
    rcases recordClosedCandleEvidenceGap_cases sha256 record diagnostic executionTimeframe clock repo
      with hsame | ⟨hunended, hgap⟩
    · exact .inl ⟨rfl, by rw [hsame]⟩
    · refine .inr ⟨_, _, rowOrNew_cases record (compatiblePlanIdentities sha256 record) _
        executionTimeframe clock,
        rowOrNew_unended hunended, ?_, .noted (withEvidenceGap_sameRow _ diagnostic clock).prepares⟩
      rw [hgap]
      exact findProgress_of_row rfl (compatiblePlanIdentities_ne_nil sha256 record) rfl

/-- What a new row satisfies and every step on an open row keeps holds along every run. -/
theorem PlanRun.invariant {I : List Round → OutcomeProgress → Prop}
    (hfresh : ∀ w, w.Fresh → I [] w)
    (hstep : ∀ rounds w rounds' q, I rounds w → w.terminalOutcome = none →
      RowStep admits w rounds' q → I (rounds ++ rounds') q)
    (h : PlanRun sha256 admits id identities rounds row) :
    (row = none → rounds = []) ∧ ∀ p ∈ row, I rounds p := by
  induction h with
  | start => exact ⟨fun _ => rfl, fun p hp => by cases hp⟩
  | step h hs ih =>
    rcases hs.cases with ⟨rfl, rfl⟩ | ⟨w, q, hw, hopen, rfl, hrow⟩
    · rw [List.append_nil]
      exact ih
    · refine ⟨(fun h => by cases h), ?_⟩
      rintro p ⟨⟩
      refine hstep _ w _ _ ?_ hopen hrow
      rcases hw with rfl | ⟨rfl, hnew⟩
      · exact ih.2 w rfl
      · rw [ih.1 rfl]
        exact hfresh w hnew

end Calls

section Tracked

variable {rounds rounds' : List Round} {w q started : OutcomeProgress} {g : StoredPlanGeometry}
variable {p : OutcomeProgress} {admits : SetupLifecycleRecord → Prop}
  {decision : Instant} {bars pending : List Bar}

def lastCursor (rounds : List Round) : Cursor :=
  (rounds.getLast?.map fun r => r.bar.cursor).getD {}

/-- A row and the candles it has seen: a piece of the grid that begins at the tracking start and
ends at the cursor. -/
structure Tracked (rounds : List Round) (p : OutcomeProgress) : Prop where
  contracted : p.Contracted
  duration : rounds ≠ [] → timeframeDuration p.executionTimeframe = some p.step
  contiguous : Grid.Contiguous (fun r => r.bar.openTimestamp) p.step rounds
  closes : ∀ r ∈ rounds, r.bar.openTimestamp + p.step - 1000 ≤ r.bar.closeTimestamp ∧
    r.bar.closeTimestamp ≤ r.bar.openTimestamp + p.step
  start : ∀ r ∈ rounds.head?, p.trackingStartAt = some (.instant r.bar.openTimestamp)
  cursor : p.toCursor = lastCursor rounds

theorem step_congr (h : q.toProgressKey = w.toProgressKey) : q.step = w.step := by
  rw [OutcomeProgress.step, show q.executionTimeframe = w.executionTimeframe from
    congrArg ProgressKey.executionTimeframe h, OutcomeProgress.step]

theorem Tracked.fresh (h : w.Fresh) : Tracked [] w where
  contracted := h.contracted
  duration hne := absurd rfl hne
  contiguous := .nil
  closes r hr := by cases hr
  start r hr := by cases hr
  cursor := h.cursor

theorem Tracked.step_ge (h : Tracked rounds w) (hne : rounds ≠ []) : 60000000 ≤ w.step :=
  minute_le_timeframeDuration (h.duration hne)

/-- What keeps the key, the cursor, the contract and the tracking start of a row keeps it
tracked. -/
theorem Tracked.congr (h : Tracked rounds w) (hkey : q.toProgressKey = w.toProgressKey)
    (hcursor : q.toCursor = w.toCursor) (hcontracted : q.Contracted)
    (hstart : w.trackingStartAt.isSome = true → q.trackingStartAt = w.trackingStartAt) :
    Tracked rounds q := by
  have hstep := step_congr hkey
  have htimeframe : q.executionTimeframe = w.executionTimeframe :=
    congrArg ProgressKey.executionTimeframe hkey
  refine ⟨hcontracted, fun hne => ?_, ?_, ?_, fun r hr => ?_, hcursor.trans h.cursor⟩
  · rw [hstep, htimeframe]
    exact h.duration hne
  · rw [hstep]
    exact h.contiguous
  · rw [hstep]
    exact h.closes
  · have hset := h.start r hr
    rw [hstart (by rw [hset]; rfl), hset]

theorem Tracked.prepares (h : Tracked rounds w) (hq : w.Prepares q) : Tracked rounds q :=
  h.congr hq.key hq.cursor (hq.contracted h.contracted) (hq.trackingStart h.contracted)

/-- The candles that are offered to a tracked row begin right after its cursor, or at its
tracking start. -/
theorem Processed.continues (hp : Processed w rounds' q g started decision bars pending)
    (h : Tracked rounds w) :
    ∃ first ∈ pending.head?,
      (∀ last ∈ rounds.getLast?, first.openTimestamp = last.bar.openTimestamp + w.step) ∧
      (rounds = [] → started.trackingStartAt = some (.instant first.openTimestamp)) := by
  have hstarted := h.prepares hp.prepares
  obtain ⟨start, expected, hexpects, -, first, hfirst, hopen⟩ := hp.expects
  refine ⟨first, hfirst, fun last hlast => ?_, fun hnil => ?_⟩
  · have hcursor : started.evaluationCursorOpenAt = some (.instant last.bar.openTimestamp) := by
      have hlastCursor := congrArg Cursor.evaluationCursorOpenAt hstarted.cursor
      rw [lastCursor, hlast] at hlastCursor
      exact hlastCursor
    have hmem : last ∈ rounds := List.mem_of_getLast? hlast
    obtain ⟨head, rest, rfl⟩ := List.exists_cons_of_ne_nil (List.ne_nil_of_mem hmem)
    have hstart : start = head.bar.openTimestamp := by
      have hset := hexpects.trackingStart.symm.trans (hstarted.start head rfl)
      exact Stamp.instant.inj (Option.some.inj hset)
    have hstep := h.step_ge (List.cons_ne_nil _ _)
    have hle : head.bar.openTimestamp ≤ last.bar.openTimestamp :=
      h.contiguous.head_le (by linarith) rfl hmem
    rcases hexpects.expected with ⟨hnone, -⟩ | ⟨cursorOpen, hsome, hexpected⟩
    · rw [hcursor] at hnone
      cases hnone
    · obtain rfl : last.bar.openTimestamp = cursorOpen :=
        Stamp.instant.inj (Option.some.inj (hcursor.symm.trans hsome))
      rw [hopen, hexpected, hstart]
      exact max_eq_left (by linarith)
  · have hcursor : started.evaluationCursorOpenAt = none := by
      have hlastCursor := congrArg Cursor.evaluationCursorOpenAt hstarted.cursor
      rw [hnil] at hlastCursor
      exact hlastCursor
    rcases hexpects.expected with ⟨-, hexpected⟩ | ⟨cursorOpen, hsome, -⟩
    · rw [hopen, hexpected]
      exact hexpects.trackingStart
    · rw [hcursor] at hsome
      cases hsome

theorem Linked.eq_of_nil (h : Linked p rounds q) (hnil : rounds = []) : q = p := by
  cases h with
  | nil => rfl
  | cons => cases hnil

theorem Linked.after_last (h : Linked p rounds q) {r : Round}
    (hr : r ∈ rounds.getLast?) : q = r.after := by
  induction h with
  | nil => cases hr
  | @cons r' rest q h ih =>
    cases rest with
    | nil =>
      cases hr
      exact h.eq_of_nil rfl
    | cons r'' rest =>
      rw [List.getLast?_cons_cons] at hr
      exact ih hr

theorem Linked.lastCursor (h : Linked p rounds' q)
    (hsound : ∀ r ∈ rounds', r.Sound g) (hp : p.toCursor = lastCursor rounds) :
    q.toCursor = Lifecycle.lastCursor (rounds ++ rounds') := by
  rcases List.eq_nil_or_concat rounds' with rfl | ⟨rest, r, rfl⟩
  · rw [List.append_nil, h.eq_of_nil rfl]
    exact hp
  · rw [List.concat_eq_append] at h hsound ⊢
    have hlast : r ∈ (rest ++ [r]).getLast? := by simp
    rw [h.after_last hlast, (hsound r (List.mem_of_getLast? hlast)).cursor, Lifecycle.lastCursor,
      ← List.append_assoc, List.getLast?_concat]
    rfl

theorem Round.Sound.contract {r : Round} (h : r.Sound g) :
    r.after.metadataOrEmpty.entryCausalityContract =
      r.before.metadataOrEmpty.entryCausalityContract := by
  obtain ⟨evidence, hevidence⟩ := h.metadata
  rw [OutcomeProgress.metadataOrEmpty, hevidence]

theorem Tracked.processed (h : Tracked rounds w)
    (hp : Processed w rounds' q g started decision bars pending) : Tracked (rounds ++ rounds') q := by
  have hstarted := h.prepares hp.prepares
  obtain ⟨first, hfirst, hnext, hstart⟩ := hp.continues h
  have hkey : q.toProgressKey = w.toProgressKey :=
    (hp.linked.kept fun r hr => (hp.sound r hr).key).trans hp.prepares.key
  have hstep := step_congr hkey
  have htimeframe : q.executionTimeframe = w.executionTimeframe :=
    congrArg ProgressKey.executionTimeframe hkey
  have htracking : q.trackingStartAt = started.trackingStartAt :=
    hp.linked.kept (f := fun p => p.trackingStartAt) fun r hr => (hp.sound r hr).trackingStart
  -- the new rounds begin with the first pending candle, which continues the rounds before
  have hbar : ∀ r ∈ rounds'.head?, r.bar = first := by
    intro r hr
    obtain ⟨rest, rfl⟩ := List.head?_eq_some_iff.1 hr
    obtain ⟨others, hothers⟩ := hp.bars_initial
    rw [← hothers] at hfirst
    exact Option.some.inj hfirst
  have hcontiguous : Grid.Contiguous (fun r => r.bar.openTimestamp) w.step rounds' := by
    obtain ⟨start, expected, -, hpending, -⟩ := hp.expects
    have hpos : 0 < w.step := lt_of_lt_of_le (by decide) hp.window.step_ge
    have hgrid : Grid.Contiguous Bar.openTimestamp w.step pending := by
      rw [hpending]
      exact hp.window.contiguous.filter_ge hpos expected
    obtain ⟨others, hothers⟩ := hp.bars_initial
    rw [← hothers] at hgrid
    exact Grid.Contiguous.map_iff.1 (List.isChain_append.1 hgrid).1
  refine ⟨?_, fun _ => ?_, ?_, fun r hr => ?_, fun r hr => ?_,
    hp.linked.lastCursor hp.sound hstarted.cursor⟩
  · have hkept := hp.linked.kept (f := fun p => p.metadataOrEmpty.entryCausalityContract)
      fun r hr => (hp.sound r hr).contract
    exact hkept.trans hstarted.contracted
  · rw [htimeframe, hstep]
    exact hp.window.duration
  · rw [hstep]
    refine List.IsChain.append h.contiguous hcontiguous fun last hlast r hr => ?_
    show r.bar.openTimestamp = last.bar.openTimestamp + w.step
    rw [hbar r hr]
    exact hnext last hlast
  · rw [hstep]
    rcases List.mem_append.1 hr with hr | hr
    · exact h.closes r hr
    · have hmem : r.bar ∈ bars := by
        obtain ⟨start, expected, -, hpending, -⟩ := hp.expects
        have hmem := hp.bars_initial.subset (List.mem_map_of_mem hr)
        rw [hpending] at hmem
        exact (List.mem_filter.1 hmem).1
      exact ⟨hp.window.close_ge r.bar hmem, hp.window.close_le r.bar hmem⟩
  · rw [htracking]
    cases rounds with
    | nil =>
      rw [hbar r hr]
      exact hstart rfl
    | cons head rest => exact hstarted.start r hr

theorem RowStep.tracked (hstep : RowStep admits w rounds' q)
    (h : Tracked rounds w) : Tracked (rounds ++ rounds') q := by
  cases hstep with
  | closed =>
    rw [List.append_nil]
    exact h.congr rfl rfl h.contracted fun _ => rfl
  | noted hq =>
    rw [List.append_nil]
    exact h.prepares hq
  | processed hp => exact h.processed hp

theorem PlanRun.tracked {sha256 : String → String}
    {id : String} {identities : List String} {row : Option OutcomeProgress}
    (h : PlanRun sha256 admits id identities rounds row) :
    (row = none → rounds = []) ∧ ∀ p ∈ row, Tracked rounds p :=
  h.invariant (fun _ => Tracked.fresh) fun _ _ _ _ htracked _ hstep => hstep.tracked htracked

end Tracked

section Refusals

variable {sha256 : String → String} {record : SetupLifecycleRecord} {call : Call}
variable {identities : List String}
  {repo repo' : Repository} {candles : List RawCandle} {ev : LifecycleOutcomeEvaluation}

def Repository.outcome (repo : Repository) (id : String) (identities : List String) :
    Milestones × Cursor :=
  ((repo.findProgress id identities).map fun p => (p.toMilestones, p.toCursor)).getD ({}, {})

theorem outcome_of_put {executionTimeframe : String} {clock : Clock}
    {q : OutcomeProgress} (hput : repo'.progress = repo.progress.put q) (hne : identities ≠ [])
    (hkey : q.toProgressKey = (rowOrNew record identities (storedRow record repo identities)
      executionTimeframe clock).toProgressKey) :
    repo'.outcome record.lifecycleId identities = (q.toMilestones, q.toCursor) := by
  rw [Repository.outcome, findProgress_of_row hput hne hkey]
  rfl

theorem outcome_eq_row (record : SetupLifecycleRecord) (repo : Repository) (identities : List String)
    (executionTimeframe : String) (clock : Clock) :
    repo.outcome record.lifecycleId identities =
      ((rowOrNew record identities (storedRow record repo identities) executionTimeframe
          clock).toMilestones,
        (rowOrNew record identities (storedRow record repo identities) executionTimeframe
          clock).toCursor) := by
  rw [Repository.outcome, ← storedRow]
  cases storedRow record repo identities <;> rfl

theorem outcome_of_row {executionTimeframe : String} {clock : Clock}
    {q : OutcomeProgress} (hput : repo'.progress = repo.progress.put q) (hne : identities ≠ [])
    (hq : (rowOrNew record identities (storedRow record repo identities) executionTimeframe
      clock).SameOutcome q) :
    repo'.outcome record.lifecycleId identities = repo.outcome record.lifecycleId identities := by
  rw [outcome_of_put hput hne hq.key, outcome_eq_row record repo identities executionTimeframe clock,
    hq.milestones, hq.cursor]

theorem Processed.verified {w q started : OutcomeProgress} {rounds : List Round}
    {g : StoredPlanGeometry} {decision : Instant} {bars pending : List Bar}
    (h : Processed w rounds q g started decision bars pending) (hopen : w.terminalOutcome = none) :
    q.integrityStatus = .verified := by
  rcases List.eq_nil_or_concat rounds with rfl | ⟨rest, r, rfl⟩
  · have hstarted : started.terminalOutcome = none := by
      rw [← hopen]
      exact congrArg Milestones.terminalOutcome h.prepares.milestones
    have hbars := h.bars_eq (by rw [h.linked.eq_of_nil rfl]; exact hstarted)
    obtain ⟨start, expected, -, -, first, hfirst, -⟩ := h.expects
    rw [← hbars] at hfirst
    cases hfirst
  · have hlast : r ∈ (rest.concat r).getLast? := by simp
    rw [h.linked.after_last hlast]
    exact (h.sound r (List.mem_of_getLast? hlast)).verified

/-- The milestones that only candles prove. -/
def Milestones.proved (m : Milestones) : List (Option Stamp) :=
  [m.entryAt, m.tp1At, m.tp2At, m.tp3At, m.stopAt]

/-- A repository with the outcome of another for a plan. A record that has ended may have closed
the row; the candles have nothing to do with that. -/
structure OutcomeKept (record : SetupLifecycleRecord) (identities : List String)
    (repo repo' : Repository) : Prop where
  cursor : (repo'.outcome record.lifecycleId identities).2 =
    (repo.outcome record.lifecycleId identities).2
  proved : (repo'.outcome record.lifecycleId identities).1.proved =
    (repo.outcome record.lifecycleId identities).1.proved
  milestones : record.currentState ∉ terminalOutcome →
    (repo'.outcome record.lifecycleId identities).1 = (repo.outcome record.lifecycleId identities).1

theorem OutcomeKept.of_eq
    (h : repo'.outcome record.lifecycleId identities = repo.outcome record.lifecycleId identities) :
    OutcomeKept record identities repo repo' := by
  refine ⟨?_, ?_, fun _ => ?_⟩
  all_goals rw [h]

theorem OutcomeKept.ended (hne : identities ≠ []) (hstate : record.currentState ∈ terminalOutcome) :
    OutcomeKept record identities repo (repo.putProgress
      (terminalProgressForRecord record (workingRow record call repo identities) call.toClock)) := by
  have hclosed : (repo.putProgress (terminalProgressForRecord record
      (workingRow record call repo identities) call.toClock)).outcome record.lifecycleId identities =
        _ := outcome_of_put rfl hne rfl
  have hrow := outcome_eq_row record repo identities call.executionTimeframe call.toClock
  refine ⟨?_, ?_, fun hopen => absurd hstate hopen⟩
  all_goals
    rw [hclosed, hrow]
    rfl

/-- An evaluation that ends on a row that is not verified has completed no candle and keeps the
outcome of the plan. -/
theorem evaluation_refused
    (h : evaluateClosedCandleOutcomes sha256 record call repo candles = .ok (ev, repo'))
    (hstatus : ∀ p ∈ ev.progress, p.integrityStatus ≠ .verified) :
    ev.rounds = [] ∧ OutcomeKept record (compatiblePlanIdentities sha256 record) repo repo' := by
  have hne := compatiblePlanIdentities_ne_nil sha256 record
  rcases evaluateWithIdentities_cases h with hunprocessed | ⟨g, started, bars, pending, s, rounds,
    hpending, hscanned, heq⟩
  · cases hunprocessed with
    | kept => exact ⟨rfl, .of_eq rfl⟩
    | ended _ hstate => exact ⟨rfl, .ended hne hstate⟩
    | noted live hq hp =>
      exact ⟨rfl, .of_eq (outcome_of_row rfl hne (hq.prepares.trans hp.prepares).toSameOutcome)⟩
  · cases heq
    exact absurd ((hpending.processed hscanned).verified (rowOrNew_unended hpending.unended))
      (hstatus s.progress rfl)

theorem evidenceGap_outcome (diagnostic executionTimeframe : String) (clock : Clock) :
    (recordClosedCandleEvidenceGap sha256 record diagnostic executionTimeframe clock repo).2.outcome
        record.lifecycleId (compatiblePlanIdentities sha256 record) =
      repo.outcome record.lifecycleId (compatiblePlanIdentities sha256 record) := by
  rcases recordClosedCandleEvidenceGap_cases sha256 record diagnostic executionTimeframe clock repo
    with hsame | ⟨-, hgap⟩
  · rw [hsame]
  · rw [hgap]
    exact outcome_of_row rfl (compatiblePlanIdentities_ne_nil sha256 record)
      (withEvidenceGap_sameRow _ diagnostic clock).toSameOutcome

end Refusals

section Gapless

variable {sha256 : String → String} {admits : SetupLifecycleRecord → Prop} {id : String}
  {identities : List String} {rounds : List Round} {row : Option OutcomeProgress}

/-- The candles a plan has processed, against the row that is stored for it. -/
structure Gapless (rounds : List Round) (p : OutcomeProgress) : Prop where
  duration : rounds ≠ [] → timeframeDuration p.executionTimeframe = some p.step
  contiguous : Grid.Contiguous (fun r => r.bar.openTimestamp) p.step rounds
  once : rounds.Pairwise fun r r' => r.bar.openTimestamp < r'.bar.openTimestamp
  start : ∀ r ∈ rounds.head?, p.trackingStartAt = some (.instant r.bar.openTimestamp)
  cursor : p.toCursor = lastCursor rounds

theorem Tracked.gapless {p : OutcomeProgress} (h : Tracked rounds p) : Gapless rounds p where
  duration := h.duration
  contiguous := h.contiguous
  once := by
    cases rounds with
    | nil => exact .nil
    | cons r rest =>
      exact h.contiguous.pairwise_lt
        (lt_of_lt_of_le (by decide) (h.step_ge (List.cons_ne_nil r rest)))
  start := h.start
  cursor := h.cursor

/-- Over every run of calls on a plan, with any records, windows and decision times, the
processed candles are a piece of the timeframe's grid that begins at the tracking start, each
processed once and in order, and the stored cursor is the last of them. An evaluation that does
not end on a verified row, and a note of missing evidence, process nothing and keep the cursor
and the milestones. -/
theorem candles_are_processed_once_and_gapless
    (h : PlanRun sha256 (fun _ => True) id identities rounds row) :
    (row = none → rounds = []) ∧ (∀ p ∈ row, Gapless rounds p) ∧
    (∀ record call repo candles ev repo',
      evaluateClosedCandleOutcomes sha256 record call repo candles = .ok (ev, repo') →
      (∀ p ∈ ev.progress, p.integrityStatus ≠ .verified) →
      ev.rounds = [] ∧ OutcomeKept record (compatiblePlanIdentities sha256 record) repo repo') ∧
    ∀ record diagnostic executionTimeframe clock repo,
      OutcomeKept record (compatiblePlanIdentities sha256 record) repo
        (recordClosedCandleEvidenceGap sha256 record diagnostic executionTimeframe clock repo).2 := by
  obtain ⟨hnone, htracked⟩ := h.tracked
  refine ⟨hnone, fun p hp => (htracked p hp).gapless, ?_, ?_⟩
  · intro record call repo candles ev repo' hev hstatus
    exact evaluation_refused hev hstatus
  · intro record diagnostic executionTimeframe clock repo
    exact .of_eq (evidenceGap_outcome diagnostic executionTimeframe clock)

end Gapless

section Samples

/-- A sample evaluation over two candles: the second fills the plan. -/
def sampleFilled : Except String (LifecycleOutcomeEvaluation × Repository) :=
  evaluateClosedCandleOutcomes id sampleConfirmed (sampleEvaluation 2) sampleRepository
    [sampleCandle 0 105 103, sampleCandle 1 104 101]

theorem sampleRepository_findProgress (lifecycleId : String) (identities : List String) :
    sampleRepository.findProgress lifecycleId identities = none :=
  List.findSome?_eq_none_iff.2 fun _ _ => rfl

theorem PlanRun.of_sample {admits : SetupLifecycleRecord → Prop} {call : Call}
    {candles : List RawCandle} {record : SetupLifecycleRecord}
    {r : LifecycleOutcomeEvaluation × Repository} (hadmits : admits record)
    (h : evaluateClosedCandleOutcomes id record call sampleRepository candles = .ok r) :
    PlanRun id admits record.lifecycleId (compatiblePlanIdentities id record) r.1.rounds
      (r.2.findProgress record.lifecycleId (compatiblePlanIdentities id record)) := by
  have hstep : PlanStep id admits record.lifecycleId (compatiblePlanIdentities id record)
      (sampleRepository.findProgress record.lifecycleId (compatiblePlanIdentities id record))
      r.1.rounds (r.2.findProgress record.lifecycleId (compatiblePlanIdentities id record)) :=
    .evaluated rfl rfl (fun _ => hadmits) h
  rw [sampleRepository_findProgress] at hstep
  exact PlanRun.start.step hstep

/-- Two candles of the sample plan are processed without a gap. -/
theorem two_candles_are_gapless :
    ∃ ev repo', sampleFilled = .ok (ev, repo') ∧ ev.processedCandles = 2 ∧
      ∀ p ∈ repo'.findProgress sampleConfirmed.lifecycleId (compatiblePlanIdentities id sampleConfirmed),
        Gapless ev.rounds p := by
  have hprocessed : sampleFilled.map (fun r => r.1.processedCandles) = .ok 2 := by decide +kernel
  obtain ⟨r, hrun, hprocessed⟩ := Scan.map_ok hprocessed
  exact ⟨r.1, r.2, hrun, hprocessed,
    (candles_are_processed_once_and_gapless (PlanRun.of_sample trivial hrun)).2.1⟩

end Samples

end CandleCraft.Lifecycle
