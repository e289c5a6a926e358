import CandleCraft.Lifecycle.Service

/-!
# Plans that have been entered

The entry of a plan takes its record to MANAGING, and the candles after the entry end the plan from
there. Observations cannot move the record from MANAGING to a state in which the plan would be
evaluated further, except over COOLDOWN and ARCHIVED, from where a setup is watched again.
-/

namespace CandleCraft.Lifecycle

open Candles Relational SetupLifecycleState

/-- The states of a record whose plan has been entered: it is managed, or the plan is not evaluated
in the state. -/
def followsEntry : List SetupLifecycleState :=
  [managing, tpHit, slHit, breakeven, invalidated, expired, cooldown, archived]

theorem eq_managing_of_followsEntry {state : SetupLifecycleState} (h : state ∈ followsEntry)
    (heligible : state ∈ outcomeEligible) : state = .managing := by
  revert h heligible
  cases state <;> decide

theorem allowedTransitions_followsEntry {state next : SetupLifecycleState}
    (h : state ∈ followsEntry) (hrestart : state ∉ [cooldown, archived])
    (hnext : next ∈ state.allowedTransitions) : next ∈ followsEntry := by
  revert h hrestart hnext
  cases state <;> cases next <;> decide

section Positions

variable {x : Position} {m : Milestones} {bar : Bar} {g : StoredPlanGeometry} {breakeven : Bool}

theorem Position.next_followsEntry (h : x.state ∈ followsEntry) :
    (x.next bar g breakeven).state ∈ followsEntry := by
  unfold Position.next
  split_ifs <;> first | exact h | simp [followsEntry]

theorem Position.next_managing (h : x.milestones.entryAt.isSome = true → x.state = .managing)
    (hentry : (x.next bar g breakeven).milestones.entryAt.isSome = true)
    (hopen : (x.next bar g breakeven).milestones.terminalOutcome = none) :
    (x.next bar g breakeven).state = .managing := by
  revert hentry hopen
  unfold Position.next
  split_ifs with hentry htouched hstop hactive hbreakeven hdone
  · exact fun _ hopen => by cases hopen
  · exact fun _ _ => rfl
  · intro hsome
    rw [Option.isNone_iff_eq_none.1 hentry] at hsome
    cases hsome
  · exact fun _ hopen => by cases hopen
  · exact fun _ hopen => by cases hopen
  · exact fun _ hopen => by cases hopen
  · exact fun hsome _ => h hsome

/-- The first target is dated by an instant. -/
def Milestones.Stamped (m : Milestones) : Prop := ∀ stamp ∈ m.tp1At, ∃ t, stamp = .instant t

theorem Milestones.Stamped.credit (h : m.Stamped) : (m.credit bar g).Stamped := by
  intro stamp hstamp
  rw [Milestones.credit] at hstamp
  dsimp only at hstamp
  split_ifs at hstamp
  · exact ⟨bar.closeTimestamp, (Option.some.inj hstamp).symm⟩
  · exact h stamp hstamp

theorem Milestones.Stamped.next (h : m.Stamped) : (m.next bar g breakeven).Stamped := by
  unfold Milestones.next Position.next
  split_ifs
  all_goals first | exact h | exact h.credit

end Positions

section Passes

variable {s s' : Pass} {g : StoredPlanGeometry} {clock : Clock} {p : OutcomeProgress}

/-- A binding that passes its checks takes effect at an instant. -/
theorem StopBinding.check_effective {b : StopBinding} (h : b.check g = .ok ()) :
    ∃ effective, b.effectiveFromCandleOpenAt = some (.instant effective) := by
  unfold StopBinding.check at h
  split at h
  · cases h
  split at h
  · split at h
    · cases h
    split at h
    · cases h
    split at h
    · cases h
    split at h
    · cases h
    split at h
    · cases h
    split at h
    · cases h
    split at h
    · cases h
    next boundary hboundary =>
      split at h
      · cases h
      next effective heffective =>
        exact ⟨effective, hboundary.trans (congrArg some (normalizeUtcTimestamp_ok heffective))⟩
  · cases h
  · cases h

theorem protectionActive_ok (hbound : p.BoundTo g) (hstamped : p.toMilestones.Stamped)
    (candleOpen : Instant) : ∃ breakeven, protectionActive p candleOpen = .ok breakeven := by
  obtain ⟨m, b, hm, hb, hcheck⟩ := hbound
  unfold protectionActive
  cases htp1 : p.tp1At with
  | none => exact ⟨false, rfl⟩
  | some stamp =>
    obtain ⟨t, rfl⟩ := hstamped stamp htp1
    rw [hm]
    dsimp only
    rw [hb]
    dsimp only
    obtain ⟨effective, heffective⟩ := StopBinding.check_effective hcheck
    rw [show normalizeUtcTimestamp (.instant t) "breakeven_tp1_at" = .ok t from rfl, heffective]
    dsimp only
    split_ifs <;> exact ⟨_, rfl⟩

/-- A pass over the candles of a plan: while the plan is open its record is eligible, and managed
once the plan has been entered. -/
structure Pass.Managed (g : StoredPlanGeometry) (s : Pass) : Prop where
  eligible : s.Eligible
  aborted : s.aborted = false
  managing : s.progress.terminalOutcome = none → s.progress.entryAt.isSome = true →
    s.record.currentState = .managing
  bound : s.progress.BoundTo g
  stamped : s.progress.toMilestones.Stamped

/-- A candle of an open plan is processed, and the pass stays managed. -/
theorem Pass.Managed.step (h : s.Managed g) (hdone : s.done = false) (bar : Bar) :
    ∃ s', s.processCandle g clock bar = .ok s' ∧ s'.Managed g ∧
      (s.record.currentState ∈ followsEntry → s'.record.currentState ∈ followsEntry) := by
  have hopen : s.progress.terminalOutcome = none := by
    rw [Pass.done, Bool.or_eq_false_iff] at hdone
    exact Option.isNone_iff_eq_none.1 (by simpa using hdone.1)
  obtain ⟨s', hs'⟩ : ∃ s', s.processCandle g clock bar = .ok s' :=
    Pass.processCandle_ok h.eligible fun hentry =>
      ⟨h.managing hopen hentry, protectionActive_ok h.bound h.stamped bar.openTimestamp⟩
  have hcompletes := (Pass.processCandle_spec h.eligible h.aborted hs').1
  have hsound := hcompletes.sound hopen
  obtain ⟨breakeven, -, hnext⟩ := hcompletes.position
  refine ⟨s', hs', ⟨hcompletes.eligible h.eligible, hcompletes.aborted.trans h.aborted, ?_,
    hsound.boundTo h.bound, ?_⟩, ?_⟩
  · intro hopen' hentry'
    show s'.position.state = .managing
    rw [hnext]
    exact Position.next_managing (h.managing hopen) (by rw [← hnext]; exact hentry')
      (by rw [← hnext]; exact hopen')
  · obtain ⟨_, -, hmilestones⟩ := hsound.milestones
    rw [show s'.progress.toMilestones = _ from hmilestones]
    exact h.stamped.next
  · intro hstate
    show s'.position.state ∈ followsEntry
    rw [hnext]
    exact Position.next_followsEntry hstate

theorem Pass.Managed.scan (h : s.Managed g) (bars : List Bar) :
    ∃ s', s.scan g clock bars = .ok s' ∧ s'.Managed g ∧
      (s.record.currentState ∈ followsEntry → s'.record.currentState ∈ followsEntry) := by
  refine Scan.runUntil_ok (I := fun u : Pass => u.Managed g ∧
    (s.record.currentState ∈ followsEntry → u.record.currentState ∈ followsEntry))
    (fun u bar hdone hu => ?_) ⟨h, fun hstate => hstate⟩ bars
  obtain ⟨u', hu', hmanaged, hfollows⟩ := hu.1.step hdone bar
  exact ⟨u', hu', hmanaged, fun hstate => hfollows (hu.2 hstate)⟩

end Passes

section Repository

variable {sha256 : String → String} {repo repo' : Repository} {record : SetupLifecycleRecord}
  {identities : List String} {p q : OutcomeProgress} {g : StoredPlanGeometry}

/-- The open plans that have been entered belong to records that are managed, or are in a state in
which they are not evaluated. -/
structure Repository.Managed (repo : Repository) : Prop where
  follows : ∀ p ∈ repo.progress.rows, p.entryAt.isSome = true → p.terminalOutcome = none →
    ∀ record ∈ repo.records.fetch p.lifecycleId, record.currentState ∈ followsEntry
  stamped : ∀ p ∈ repo.progress.rows, p.toMilestones.Stamped

/-- No plan of the lifecycle has been entered and is open. -/
def Repository.PlansClosed (repo : Repository) (lifecycleId : String) : Prop :=
  ∀ p ∈ repo.progress.rows, p.lifecycleId = lifecycleId → p.entryAt.isSome = true →
    p.terminalOutcome.isSome = true

theorem Repository.Managed.putProgress (h : repo.Managed) (hprogress : repo'.progress = repo.progress.put q)
    (hrecords : repo'.records = repo.records) (hstamped : q.toMilestones.Stamped)
    (hq : q.entryAt.isSome = true → q.terminalOutcome = none →
      ∀ record ∈ repo.records.fetch q.lifecycleId, record.currentState ∈ followsEntry) :
    repo'.Managed := by
  constructor
  · intro p hp
    rw [hrecords]
    rw [hprogress] at hp
    rcases Table.mem_put hp with rfl | hp
    · exact hq
    · exact h.follows p hp
  · intro p hp
    rw [hprogress] at hp
    rcases Table.mem_put hp with rfl | hp
    · exact hstamped
    · exact h.stamped p hp

theorem Repository.Managed.putRecord (h : repo.Managed)
    (hrecords : repo'.records = repo.records.put record) (hprogress : repo'.progress = repo.progress)
    (hrecord : ¬ repo.PlansClosed record.lifecycleId → record.currentState ∈ followsEntry) :
    repo'.Managed := by
  constructor
  · intro p hp hentry hopen r hr
    rw [hprogress] at hp
    rw [hrecords, Table.fetch_put] at hr
    split_ifs at hr with hkey
    · cases hr
      refine hrecord fun hclosed => ?_
      have := hclosed p hp hkey.symm hentry
      rw [hopen] at this
      cases this
    · exact h.follows p hp hentry hopen r hr
  · intro p hp
    rw [hprogress] at hp
    exact h.stamped p hp

theorem Repository.Managed.follows_of_open (h : repo.Managed)
    (hrecord : repo.records.fetch record.lifecycleId = some record)
    (hopen : ¬ repo.PlansClosed record.lifecycleId) : record.currentState ∈ followsEntry := by
  rw [Repository.PlansClosed] at hopen
  simp only [not_forall] at hopen
  obtain ⟨p, hp, hid, hentry, hterminal⟩ := hopen
  exact h.follows p hp hentry (by simpa using hterminal) record (by rw [hid]; exact hrecord)

structure OutcomeProgress.FollowedBy (p : OutcomeProgress) (record : SetupLifecycleRecord) : Prop where
  lifecycleId : p.lifecycleId = record.lifecycleId
  stamped : p.toMilestones.Stamped
  follows : p.entryAt.isSome = true → p.terminalOutcome = none → record.currentState ∈ followsEntry

theorem OutcomeProgress.FollowedBy.same (h : p.FollowedBy record) (hq : p.SameOutcome q) :
    q.FollowedBy record where
  lifecycleId := (congrArg ProgressKey.lifecycleId hq.key).trans h.lifecycleId
  stamped := by
    rw [hq.milestones]
    exact h.stamped
  follows := by
    rw [show q.entryAt = p.entryAt from congrArg Milestones.entryAt hq.milestones,
      show q.terminalOutcome = p.terminalOutcome from congrArg Milestones.terminalOutcome hq.milestones]
    exact h.follows

theorem Repository.Managed.row (h : repo.Managed)
    (hrecord : repo.records.fetch record.lifecycleId = some record) (executionTimeframe : String)
    (clock : Clock) :
    (rowOrNew record identities (storedRow record repo identities) executionTimeframe
      clock).FollowedBy record := by
  cases hstored : storedRow record repo identities with
  | none => exact ⟨rfl, nofun, nofun⟩
  | some p =>
    obtain ⟨identity, -, hfetch⟩ := List.exists_of_findSome?_eq_some hstored
    have hid : p.lifecycleId = record.lifecycleId := congrArg Prod.fst (Table.key_of_fetch hfetch)
    have hmem := Table.mem_of_fetch hfetch
    refine ⟨hid, h.stamped p hmem, fun hentry hopen => ?_⟩
    exact h.follows p hmem hentry hopen record (by rw [hid]; exact hrecord)

theorem Repository.Managed.leaveRecord (h : repo.Managed)
    (hrecord : repo.records.fetch record.lifecycleId = some record) (hq : q.FollowedBy record) :
    (leaveRecord record repo q).2.Managed := by
  refine h.putProgress rfl rfl hq.stamped fun hentry hopen r hr => ?_
  rw [hq.lifecycleId, hrecord] at hr
  cases hr
  exact hq.follows hentry hopen

theorem Repository.Managed.startPass (h : repo.Managed)
    (hrecord : repo.records.fetch record.lifecycleId = some record) {call : Call}
    {candles : List RawCandle} {started : OutcomeProgress} {bars pending : List Bar}
    (hpending : Pending record call repo identities candles g started bars pending) :
    (startPass record repo started).Managed g := by
  have hstarted : started.FollowedBy record :=
    (h.row hrecord call.executionTimeframe call.toClock).same hpending.reaches.sameOutcome
  exact ⟨fun _ => hpending.eligible, rfl,
    fun hopen hentry => eq_managing_of_followsEntry (hstarted.follows hentry hopen) hpending.eligible,
    hpending.boundTo, hstarted.stamped⟩

/-- The evaluation of a stored record does not fail, and keeps the open entered plans managed. -/
theorem Repository.Managed.evaluate (h : repo.Managed)
    (hrecord : repo.records.fetch record.lifecycleId = some record) (call : Call)
    (candles : List RawCandle) :
    ∃ r, evaluateWithIdentities record call repo identities candles = .ok r ∧ r.2.Managed := by
  have hrow : (workingRow record call repo identities).FollowedBy record :=
    h.row hrecord call.executionTimeframe call.toClock
  rcases evaluateWithIdentities_comes record call repo identities candles with
    ⟨r, hr, heq⟩ | ⟨g, started, bars, pending, hpending, heq⟩
  · refine ⟨r, heq, ?_⟩
    cases hr with
    | kept => exact h
    | ended => exact h.leaveRecord hrecord ⟨hrow.lifecycleId, hrow.stamped, nofun⟩
    | noted live hq hp =>
      exact h.leaveRecord hrecord ((hrow.same hq.sameOutcome).same hp.toSameOutcome)
  · have hmanaged := h.startPass hrecord hpending
    obtain ⟨s, hs, hs', hfollows⟩ := hmanaged.scan pending
    rw [hs] at heq
    refine ⟨_, heq, ?_⟩
    obtain ⟨rounds, hscanned⟩ := Pass.scan_spec (fun _ => hpending.eligible) rfl hs
    have hid : s.record.lifecycleId = record.lifecycleId := hscanned.record.lifecycleId
    have hrowId : s.progress.lifecycleId = record.lifecycleId :=
      (congrArg ProgressKey.lifecycleId (hscanned.linked.kept fun r hr => (hscanned.sound r hr).key)).trans
        (hrow.same hpending.reaches.sameOutcome).lifecycleId
    -- the record is written first, then the row
    have hwritten : ({ repo with records := repo.records.put s.record } : Repository).Managed := by
      refine h.putRecord rfl rfl fun hopen => hfollows ?_
      rw [hid] at hopen
      exact h.follows_of_open hrecord hopen
    refine hwritten.putProgress rfl rfl hs'.stamped fun hentry hopen r hr => ?_
    rw [Table.fetch_put, if_pos (hid.trans hrowId.symm)] at hr
    cases hr
    rw [hs'.managing hopen hentry]
    decide

end Repository

section Observations

variable (sha256 : String → String) (record : SetupLifecycleRecord) (o : LifecycleObservation)
  (call : LifecycleCall)

theorem transitionRecord_moves (toState : SetupLifecycleState) (request : TransitionRequest)
    (clock : Clock) :
    (transitionRecord record toState request clock).record.currentState = record.currentState ∨
      (transitionRecord record toState request clock).record.currentState ∈
        record.currentState.allowedTransitions := by
  unfold transitionRecord
  split
  · exact .inl rfl
  · split
    · exact .inl rfl
    next hallowed =>
      split
      · exact .inl rfl
      · rw [not_not, transitionAllowed, decide_eq_true_eq] at hallowed
        exact .inr hallowed

theorem observedResult_moves :
    (observedResult record o call sha256).record.currentState = record.currentState ∨
      (observedResult record o call sha256).record.currentState ∈
        record.currentState.allowedTransitions := by
  rw [observedResult_currentState]
  rcases observeRecord_cases record o call with ⟨hsame, -⟩ | ⟨-, hcase, -⟩
  · exact .inl hsame
  · rw [hcase, submission, Disposition.result,
      ← proposal_currentState record (effectiveObservation record o) call]
    exact transitionRecord_moves _ _ _ _

theorem observedResult_lifecycleId :
    (observedResult record o call sha256).record.lifecycleId = record.lifecycleId := by
  rw [lifecycleId_of_settled (observedResult_settled sha256 record o call)]
  rcases observeRecord_cases record o call with ⟨-, hsettled, -⟩ | ⟨-, -, hsettled, -⟩
  · exact lifecycleId_of_settled hsettled
  · refine (lifecycleId_of_settled hsettled).trans ?_
    exact congrArg RecordIdentity.lifecycleId
      (recordWithObservation_toRecordIdentity record (effectiveObservation record o) call)

theorem gateNewRecord_lifecycleId : (gateNewRecord record).lifecycleId = record.lifecycleId := by
  unfold gateNewRecord
  split
  · rfl
  · split_ifs <;> rfl

theorem createdResult_lifecycleId :
    (createdResult sha256 o call).record.lifecycleId = call.lifecycleId := by
  rw [lifecycleId_of_settled (createdResult_settled sha256 o call), gateNewRecord_lifecycleId]
  rfl

end Observations

section Runs

variable {sha256 : String → String} {repo : Repository} {record : SetupLifecycleRecord}

/-- A lifecycle is created, or observed in COOLDOWN or ARCHIVED, only where no plan of it has been
entered and is open. -/
def RestartsClosed (repo : Repository) : ServiceAction → Prop
  | .create _ call => repo.PlansClosed call.lifecycleId
  | .observe _ call | .hold _ call =>
    ∀ record ∈ repo.records.fetch call.lifecycleId,
      record.currentState ∈ [cooldown, archived] → repo.PlansClosed call.lifecycleId
  | _ => True

instance (repo : Repository) (lifecycleId : String) : Decidable (repo.PlansClosed lifecycleId) :=
  inferInstanceAs (Decidable (∀ p ∈ repo.progress.rows, _ → _ → _))

instance (repo : Repository) : ∀ a, Decidable (RestartsClosed repo a)
  | .create _ call => inferInstanceAs (Decidable (repo.PlansClosed call.lifecycleId))
  | .observe _ call | .hold _ call =>
    inferInstanceAs (Decidable (∀ record ∈ repo.records.fetch call.lifecycleId, _ → _))
  | .evaluate .. | .noteGap .. | .setAuthority _ => inferInstanceAs (Decidable True)

theorem Repository.Managed.persist (h : repo.Managed) {o : LifecycleObservation}
    {call : LifecycleCall} (hrecord : repo.records.fetch call.lifecycleId = some record)
    (hrestart : record.currentState ∈ [cooldown, archived] → repo.PlansClosed call.lifecycleId) :
    (repo.persist (observedResult record o call sha256)).Managed := by
  have hid : record.lifecycleId = call.lifecycleId := repo.lifecycleId_of_fetch hrecord
  refine h.putRecord rfl rfl fun hopen => ?_
  rw [observedResult_lifecycleId] at hopen
  have hfollows := h.follows_of_open (hid ▸ hrecord) hopen
  rcases observedResult_moves sha256 record o call with hsame | hmoved
  · rw [hsame]
    exact hfollows
  · refine allowedTransitions_followsEntry hfollows (fun hstate => hopen ?_) hmoved
    rw [hid]
    exact hrestart hstate

theorem Repository.Managed.serve (h : repo.Managed) {a : ServiceAction} (ha : RestartsClosed repo a) :
    (repo.serve sha256 a).Managed := by
  have hserved : Served sha256 repo a (repo.serve sha256 a) := repo.serve_cases a
  generalize repo.serve sha256 a = repo' at hserved ⊢
  cases hserved with
  | idle => exact h
  | created hsymbol =>
    refine h.putRecord rfl rfl fun hopen => absurd ha ?_
    rw [createdResult_lifecycleId] at hopen
    exact hopen
  | observed hrecord | held hrecord => exact h.persist hrecord (ha _ hrecord)
  | @evaluated lifecycleId call candles record ev repo' hrecord hok =>
    obtain rfl := repo.lifecycleId_of_fetch hrecord
    obtain ⟨r, hr, hmanaged⟩ := h.evaluate hrecord call candles
    rw [show r = (ev, repo') from Except.ok.inj (hr.symm.trans hok)] at hmanaged
    exact hmanaged
  | @noted _ diagnostic executionTimeframe clock record hrecord hunended =>
    obtain rfl := repo.lifecycleId_of_fetch hrecord
    exact h.leaveRecord hrecord ((h.row hrecord executionTimeframe clock).same
      (withEvidenceGap_sameRow _ diagnostic clock).toSameOutcome)
  | authorized authority => exact ⟨h.follows, h.stamped⟩

/-- From a repository without progress, along every run in which no lifecycle is started over an
open entered plan: the record of such a plan is managed where it is eligible, and no evaluation of
a record fails. -/
theorem entered_plan_is_managed (sha256 : String → String) {repo : Repository}
    (hrows : repo.progress.rows = []) {actions : List ServiceAction}
    (hactions : Transition.Disciplined (Repository.serve sha256) RestartsClosed repo actions)
    {record : SetupLifecycleRecord}
    (hrecord : record ∈ (Transition.run (Repository.serve sha256) repo actions).records.rows) :
    (∀ p ∈ (Transition.run (Repository.serve sha256) repo actions).findProgress record.lifecycleId
        (compatiblePlanIdentities sha256 record),
      p.entryAt.isSome = true → p.terminalOutcome = none → record.currentState ∈ outcomeEligible →
        record.currentState = .managing) ∧
    ∀ call candles, ∃ r, evaluateClosedCandleOutcomes sha256 record call
      (Transition.run (Repository.serve sha256) repo actions) candles = .ok r := by
  have hnone : ∀ p, p ∉ repo.progress.rows := by
    intro p hp
    rw [hrows] at hp
    cases hp
  have hempty : repo.Managed :=
    ⟨fun p hp => absurd hp (hnone p), fun p hp => absurd hp (hnone p)⟩
  have hmanaged := hactions.invariant (I := Repository.Managed) (fun _ _ ha h => h.serve ha) hempty
  generalize Transition.run (Repository.serve sha256) repo actions = repo' at hrecord hmanaged ⊢
  have hfetch := Table.fetch_of_mem hrecord
  constructor
  · intro p hp hentry hopen heligible
    obtain ⟨identity, -, hrow⟩ := List.exists_of_findSome?_eq_some hp
    have hid : p.lifecycleId = record.lifecycleId := congrArg Prod.fst (Table.key_of_fetch hrow)
    refine eq_managing_of_followsEntry ?_ heligible
    exact hmanaged.follows p (Table.mem_of_fetch hrow) hentry hopen record (by rw [hid]; exact hfetch)
  · intro call candles
    obtain ⟨r, hr, -⟩ := hmanaged.evaluate hfetch call candles
    exact ⟨r, hr⟩

end Runs

section Samples

def hour (n : ℤ) : Instant := 3600000000 * n

/-- A setup that is confirmed, entered, invalidated without its candles, and watched again after
the cooldown. -/
def restartedActions : List ServiceAction :=
  [.create sampleAGrade (sampleCall 0),
    .observe sampleReady (sampleCall 60000000),
    .evaluate "lifecycle-1" (sampleEvaluation 2)
      [sampleCandle 0 105 103, sampleCandle 1 104 101],
    .observe { sampleObservation with invalidated := true } (sampleCall (hour 1)),
    .observe sampleObservation (sampleCall (hour 2)),
    .observe sampleObservation (sampleCall (hour 27))]

/-- The plan is still open and entered when its record is watched again, and the stop that the
next candle reaches cannot be recorded. -/
theorem restarted_lifecycle_rejects_stop :
    let repo := Transition.run (Repository.serve id) sampleRepository restartedActions
    (repo.records.rows.map fun record =>
      (record.currentState,
        (repo.findProgress record.lifecycleId (compatiblePlanIdentities id record)).map
          (fun p => (p.entryAt.isSome, p.terminalOutcome)),
        (evaluateClosedCandleOutcomes id record (sampleEvaluation 3) repo
          [sampleCandle 2 104 90]).map fun r => r.1.processedCandles)) =
      [(.watchlisted, some (true, none),
        .error "outcome_transition_rejected:WATCHLISTED->SL_HIT")] := by
  decide +kernel

/-- The same setup up to its entry: its record is managed, and every further evaluation of it
succeeds. -/
theorem sample_entered_plan_is_managed :
    ∃ record ∈ (Transition.run (Repository.serve id) sampleRepository
        (restartedActions.take 3)).records.rows,
      record.currentState = .managing ∧
      ∀ call candles, ∃ r, evaluateClosedCandleOutcomes id record call
        (Transition.run (Repository.serve id) sampleRepository (restartedActions.take 3))
        candles = .ok r := by
  have hstates : (Transition.run (Repository.serve id) sampleRepository
      (restartedActions.take 3)).records.rows.map (fun record => record.currentState) =
        [managing] := by
    decide +kernel
  obtain ⟨record, hrecord, hstate⟩ := List.mem_map.1 (hstates ▸ List.mem_singleton_self managing)
  exact ⟨record, hrecord, hstate,
    (entered_plan_is_managed id rfl (by decide +kernel) hrecord).2⟩

end Samples

end CandleCraft.Lifecycle
