import CandleCraft.Lifecycle.Managed
import CandleCraft.Lifecycle.MilestoneOrder

/-!
# Break-even outcomes

`validate_breakeven_outcome` re-derives from a finished row that its break-even label is justified:
the stop policy is that of the plan, the first target was reached before the candle that ended the
plan, and the milestones are in order. The candle loop decides the label from the row before the
candle. The two agree for every row of every run of the service.
-/

namespace CandleCraft.Lifecycle

open Candles Relational SetupLifecycleState

section Validator

/-- The check of a stored `stop_management` entry by `bind_stop_policy`. -/
def StopManagement.check (g : StoredPlanGeometry) : StopManagement → Except String Unit
  | .notMapping => .error "unsupported_stop_management_policy"
  | .binding b => b.check g

/-- The part of `validate_breakeven_outcome` that reads the milestones. -/
def validateBreakevenMilestones (p : OutcomeProgress) : Except String Unit :=
  match p.entryAt, p.tp1At, p.stopAt with
  | some entryAt, some tp1At, some stopAt =>
    if p.tp3At.isSome ∨ p.invalidatedAt.isSome then .error "conflicting_breakeven_terminal"
    else
      match p.evaluationCursorOpenAt with
      | none => .error "breakeven_precedes_protection"
      | some cursorOpenAt => do
        let opened ← normalizeUtcTimestamp cursorOpenAt "breakeven_candle_open"
        if ¬ (← protectionActive p opened) then throw "breakeven_precedes_protection"
        let entry ← normalizeUtcTimestamp entryAt "breakeven_entry"
        let tp1 ← normalizeUtcTimestamp tp1At "breakeven_tp1"
        let stop ← normalizeUtcTimestamp stopAt "breakeven_stop"
        if ¬ (entry < tp1 ∧ tp1 < stop) then throw "invalid_breakeven_milestone_order"
        if p.outcomeAt ≠ p.stopAt ∨ p.evaluationCursorCloseAt ≠ p.stopAt then
          throw "breakeven_terminal_cursor_mismatch"
        match p.tp2At with
        | none => pure ()
        | some tp2At =>
          let tp2 ← normalizeUtcTimestamp tp2At "breakeven_tp2"
          if ¬ (tp1 ≤ tp2 ∧ tp2 < stop) then throw "invalid_breakeven_tp2_order"
  | _, _, _ => .error "missing_breakeven_milestones"

/-- `validate_breakeven_outcome`. The binding is there when it is checked, so that
`bind_stop_policy` does not use the times it is called with. -/
def validateBreakevenOutcome (p : OutcomeProgress) (g : StoredPlanGeometry) :
    Except String Unit :=
  match p.metadata with
  | .error problem =>
    .error (if problem = "invalid_stop_policy_metadata" then "missing_stop_management_binding"
      else problem)
  | .ok m =>
    match m.stopManagement with
    | none => .error "missing_stop_management_binding"
    | some management => do
      management.check g
      validateBreakevenMilestones p

variable {p : OutcomeProgress} {g : StoredPlanGeometry}

theorem validateBreakevenOutcome_ok {entry tp1 stop opened : Instant} (hbound : p.BoundTo g)
    (hentry : p.entryAt = some (.instant entry)) (htp1 : p.tp1At = some (.instant tp1))
    (hstop : p.stopAt = some (.instant stop)) (htp3 : p.tp3At = none)
    (hinvalidated : p.invalidatedAt = none)
    (hopened : p.evaluationCursorOpenAt = some (.instant opened))
    (hactive : protectionActive p opened = .ok true) (horder : entry < tp1 ∧ tp1 < stop)
    (houtcome : p.outcomeAt = p.stopAt) (hclose : p.evaluationCursorCloseAt = p.stopAt)
    (htp2 : ∀ stamp ∈ p.tp2At, ∃ tp2, stamp = .instant tp2 ∧ tp1 ≤ tp2 ∧ tp2 < stop) :
    validateBreakevenOutcome p g = .ok () := by
  have hmilestones : validateBreakevenMilestones p = .ok () := by
    unfold validateBreakevenMilestones
    rw [houtcome, hclose, hentry, htp1, hstop, htp3, hinvalidated, hopened]
    simp only [normalizeUtcTimestamp, hactive, horder, bind, Except.bind, pure, Except.pure]
    cases hset : p.tp2At with
    | none => simp
    | some stamp =>
      obtain ⟨tp2, rfl, hle, hlt⟩ := htp2 stamp hset
      simp [hle, hlt]
  obtain ⟨m, b, hm, hb, hcheck⟩ := hbound
  unfold validateBreakevenOutcome
  rw [hm]
  dsimp only
  rw [hb]
  dsimp only [StopManagement.check]
  rw [hcheck]
  exact hmilestones

theorem tp1At_of_protectionActive {opened : Instant} (h : protectionActive p opened = .ok true) :
    ∃ tp1, p.tp1At = some (.instant tp1) ∧ tp1 ≤ opened := by
  unfold protectionActive at h
  split at h
  · cases h
  next stamp hstamp =>
    split at h
    · cases h
    · split at h
      · split at h
        · cases h
        · split at h
          · cases h
          next tp1 htp1 =>
            split at h
            · cases h
            next hle => exact ⟨tp1, by rw [hstamp, normalizeUtcTimestamp_ok htp1], not_lt.1 hle⟩
      · cases h

end Validator

section Candles

variable {p : OutcomeProgress} {g : StoredPlanGeometry} {r : Round}

/-- A row that was stopped by a candle on which the break-even protection was not active. -/
def OutcomeProgress.StoppedUnprotected (p : OutcomeProgress) : Prop :=
  p.evaluationCursorCloseAt = p.stopAt ∧
  ∃ opened, p.evaluationCursorOpenAt = some (.instant opened) ∧ protectionActive p opened = .ok false

/-- The outcome a candle gives a row is the one the row shows. -/
structure OutcomeProgress.Concluded (g : StoredPlanGeometry) (p : OutcomeProgress) : Prop where
  breakeven : p.terminalOutcome = some .breakeven → validateBreakevenOutcome p g = .ok ()
  stopped : p.terminalOutcome = some .slHit → p.StoppedUnprotected

theorem OutcomeProgress.Concluded.of_outcome
    (h : p.terminalOutcome ∉ [some SetupLifecycleState.breakeven, some slHit]) : p.Concluded g where
  breakeven heq := by
    rw [heq] at h
    exact absurd h (by decide)
  stopped heq := by
    rw [heq] at h
    exact absurd h (by decide)

theorem Round.Sound.protectionActive_eq (h : r.Sound g) (hbound : r.before.BoundTo g)
    (htp1 : r.after.tp1At = r.before.tp1At) (opened : Instant) :
    protectionActive r.after opened = protectionActive r.before opened := by
  obtain ⟨m, b, hm, -, -⟩ := hbound
  obtain ⟨evidence, hafter⟩ := h.metadata
  rw [OutcomeProgress.metadataOrEmpty, hm] at hafter
  unfold protectionActive
  rw [htp1, hm, hafter]

/-- A row before a candle. -/
structure OutcomeProgress.Running (g : StoredPlanGeometry) (p : OutcomeProgress) : Prop where
  inOrder : p.InOrder
  bound : p.BoundTo g
  invalidatedAt : p.terminalOutcome = none → p.invalidatedAt = none

theorem Milestones.next_invalidatedAt (m : Milestones) (bar : Bar) (breakevenStop : Bool) :
    (m.next bar g breakevenStop).invalidatedAt = m.invalidatedAt := by
  rw [Milestones.next_eq]
  split_ifs <;> rfl

/-- A candle that stops a filled plan at its break-even reference. -/
theorem Round.Sound.breakeven (h : r.Sound g) (hbefore : r.before.Running g)
    (hlater : Later r.before.evaluationCursorCloseAt r.bar)
    (hclose : r.bar.openTimestamp < r.bar.closeTimestamp)
    (hentry : r.before.entryAt.isSome = true)
    (hactive : protectionActive r.before r.bar.openTimestamp = .ok true)
    (hstop : r.after.toMilestones = r.before.toMilestones.stop r.bar .breakeven) :
    validateBreakevenOutcome r.after g = .ok () := by
  obtain ⟨stamp, hstamp⟩ := Option.isSome_iff_exists.1 hentry
  obtain ⟨tp1, htp1, hle⟩ := tp1At_of_protectionActive hactive
  have hordered := hbefore.inOrder.ordered
  obtain ⟨entry, tp1', hentryAt, htp1At, hlt⟩ := hordered.tp1 _ htp1
  obtain rfl : tp1 = tp1' := Stamp.instant.inj htp1At
  have hafter : ∀ {α : Type} (f : Milestones → α), f r.after.toMilestones =
      f (r.before.toMilestones.stop r.bar .breakeven) := fun f => by rw [hstop]
  refine validateBreakevenOutcome_ok (h.boundTo hbefore.bound) ((hafter (·.entryAt)).trans hentryAt)
    ((hafter (·.tp1At)).trans htp1) (hafter (·.stopAt))
    ((hafter (·.tp3At)).trans (hordered.tp3At_eq_none h.running))
    ((hafter (·.invalidatedAt)).trans (hbefore.invalidatedAt h.running))
    (congrArg Cursor.evaluationCursorOpenAt h.cursor) ?_ ⟨hlt, by linarith⟩
    ((hafter (·.outcomeAt)).trans (hafter (·.stopAt)).symm)
    ((congrArg Cursor.evaluationCursorCloseAt h.cursor).trans (hafter (·.stopAt)).symm) ?_
  · rw [h.protectionActive_eq hbefore.bound (hafter (·.tp1At))]
    exact hactive
  · -- The second target was credited on an earlier candle, so it lies before this close.
    intro stamp hstamp
    rw [hafter (·.tp2At)] at hstamp
    obtain ⟨tp1', tp2, htp1', rfl, hle'⟩ := hordered.tp2 stamp hstamp
    obtain ⟨close, tp2', hcursor, htp2', hdated⟩ := hbefore.inOrder.dated.tp2 _ hstamp
    obtain rfl : tp1 = tp1' := Stamp.instant.inj (Option.some.inj (htp1.symm.trans htp1'))
    obtain rfl : tp2 = tp2' := Stamp.instant.inj htp2'
    exact ⟨tp2, rfl, hle', lt_of_le_of_lt hdated (hlater close hcursor)⟩

theorem Round.Sound.concluded (h : r.Sound g) (hbefore : r.before.Running g)
    (hlater : Later r.before.evaluationCursorCloseAt r.bar)
    (hclose : r.bar.openTimestamp < r.bar.closeTimestamp) : r.after.Concluded g := by
  obtain ⟨breakevenStop, hactive, hmilestones⟩ := h.milestones
  have hcursor := h.cursor
  have hrunning := h.running
  rw [Milestones.next_eq] at hmilestones
  -- A stop leaves the targets alone and is dated by the close of the candle.
  have hunprotected : ∀ m : Milestones, m.tp1At = r.before.tp1At →
      r.after.toMilestones = m.stop r.bar slHit →
      protectionActive r.before r.bar.openTimestamp = .ok false → r.after.StoppedUnprotected := by
    intro m htp1 hm hinactive
    have htp1' : r.after.tp1At = r.before.tp1At := by rw [← htp1, hm]; rfl
    refine ⟨?_, r.bar.openTimestamp, congrArg Cursor.evaluationCursorOpenAt hcursor, ?_⟩
    · rw [hm, show r.after.evaluationCursorCloseAt = r.bar.closeStamp from
        congrArg Cursor.evaluationCursorCloseAt hcursor]
      rfl
    · rw [h.protectionActive_eq hbefore.bound htp1']
      exact hinactive
  split_ifs at hmilestones with hentry htouched hstop hactiveStop hdone
  · have htp1 := (hbefore.inOrder.ordered.targets_eq_none (Option.isNone_iff_eq_none.1 hentry)).1
    refine ⟨fun heq => ?_, fun _ => hunprotected (r.before.toMilestones.enter r.bar) rfl hmilestones ?_⟩
    · rw [hmilestones] at heq
      cases heq
    · unfold protectionActive
      rw [htp1]
  · refine .of_outcome ?_
    rw [hmilestones]
    show r.before.terminalOutcome ∉ _
    rw [hrunning]
    decide
  · refine .of_outcome ?_
    rw [hmilestones, hrunning]
    decide
  · have hset : r.before.entryAt.isSome = true := by
      rw [Option.isSome_iff_ne_none]
      exact fun hnone => hentry (Option.isNone_iff_eq_none.2 hnone)
    cases breakevenStop with
    | true =>
      refine ⟨fun _ => h.breakeven hbefore hlater hclose hset (hactive hset) hmilestones, fun heq => ?_⟩
      rw [hmilestones] at heq
      cases heq
    | false =>
      refine ⟨fun heq => ?_, fun _ => hunprotected r.before.toMilestones rfl hmilestones (hactive hset)⟩
      rw [hmilestones] at heq
      cases heq
  · refine .of_outcome ?_
    rw [hmilestones]
    show some tpHit ∉ _
    decide
  · refine .of_outcome ?_
    rw [hmilestones]
    show r.before.terminalOutcome ∉ _
    rw [hrunning]
    decide

theorem Round.Sound.keepsRunning (h : r.Sound g) (hg : g.TargetsOrdered) (hbefore : r.before.Running g)
    (hlater : Later r.before.evaluationCursorCloseAt r.bar) : r.after.Running g where
  inOrder := h.inOrder hg hlater hbefore.inOrder
  bound := h.boundTo hbefore.bound
  invalidatedAt _ := by
    obtain ⟨breakevenStop, -, hmilestones⟩ := h.milestones
    rw [hmilestones, Milestones.next_invalidatedAt]
    exact hbefore.invalidatedAt h.running

end Candles

section Rows

variable {p q : OutcomeProgress} {g : StoredPlanGeometry} {record : SetupLifecycleRecord}
  {call : Call} {repo repo' : Repository} {identities : List String} {candles : List RawCandle}
  {started : OutcomeProgress} {bars pending : List Bar} {s : Pass} {rounds : List Round}

/-- A row that candles have led to: it is tracked, and while it is open its milestones are in order
and it is not invalidated. -/
structure OutcomeProgress.Regular (p : OutcomeProgress) : Prop where
  tracked : ∃ rounds, Tracked rounds p
  inOrder : p.terminalOutcome = none → p.InOrder
  invalidatedAt : p.terminalOutcome = none → p.invalidatedAt = none

theorem OutcomeProgress.Fresh.regular (h : p.Fresh) : p.Regular where
  tracked := ⟨[], .fresh h⟩
  inOrder _ := ⟨by rw [h.milestones]; exact Milestones.ordered_empty,
    by rw [h.milestones]; exact Milestones.datedBy_empty _⟩
  invalidatedAt _ := by rw [h.milestones]

theorem OutcomeProgress.Regular.prepares (h : p.Regular) (hq : p.Prepares q) : q.Regular := by
  obtain ⟨rounds, htracked⟩ := h.tracked
  have houtcome : q.terminalOutcome = p.terminalOutcome :=
    congrArg Milestones.terminalOutcome hq.milestones
  refine ⟨⟨rounds, htracked.prepares hq⟩, ?_, ?_⟩
  · rw [houtcome]
    exact fun hopen => (h.inOrder hopen).congr hq.toSameOutcome
  · rw [houtcome, show q.invalidatedAt = p.invalidatedAt from
      congrArg Milestones.invalidatedAt hq.milestones]
    exact h.invalidatedAt

/-- The candle loop leaves a regular row with a justified outcome. -/
theorem Pending.concludes (h : Pending record call repo identities candles g started bars pending)
    (hscanned : Scanned g pending (startPass record repo started) s rounds)
    (hrow : (workingRow record call repo identities).Regular) :
    s.progress.Regular ∧ s.progress.Concluded g := by
  have hprocessed := h.processed hscanned
  have hopen : (workingRow record call repo identities).terminalOutcome = none :=
    rowOrNew_unended h.unended
  obtain ⟨before, htracked⟩ := hrow.tracked
  have hafter := htracked.processed hprocessed
  obtain ⟨hcloses, hfirst⟩ := hprocessed.closes htracked
  have hstarted : started.Regular := hrow.prepares hprocessed.prepares
  have hstartedOpen : started.terminalOutcome = none :=
    (congrArg Milestones.terminalOutcome hprocessed.prepares.milestones).trans hopen
  have hgeometry := storedPlanGeometry_targetsOrdered h.geometry
  have hrun : s.progress.Running g ∧ s.progress.Concluded g := by
    refine hprocessed.linked.along (P := fun p => p.Running g ∧ p.Concluded g) hprocessed.sound
      hcloses hfirst (fun r hr hlater hbefore => ?_) ?_
    · have hsound := hprocessed.sound r hr
      have hmem := List.mem_append_right before hr
      have hstep := hafter.step_ge (List.ne_nil_of_mem hmem)
      have hclose := (hafter.closes r hmem).1
      exact ⟨hsound.keepsRunning hgeometry hbefore.1 hlater,
        hsound.concluded hbefore.1 hlater (by linarith)⟩
    · refine ⟨⟨hstarted.inOrder hstartedOpen, h.boundTo, fun _ => hstarted.invalidatedAt hstartedOpen⟩,
        .of_outcome ?_⟩
      rw [hstartedOpen]
      decide
  exact ⟨⟨⟨_, hafter⟩, fun _ => hrun.1.inOrder, hrun.1.invalidatedAt⟩, hrun.2⟩

theorem Position.next_breakeven {x : Position} {bar : Bar} {breakevenStop : Bool}
    (h : x.state = .breakeven → x.milestones.terminalOutcome = some .breakeven)
    (hnext : (x.next bar g breakevenStop).state = .breakeven) :
    (x.next bar g breakevenStop).milestones.terminalOutcome = some .breakeven := by
  revert hnext
  unfold Position.next
  split_ifs
  · exact fun hstate => by cases hstate
  · exact fun hstate => by cases hstate
  · exact h
  · exact fun _ => rfl
  · exact fun hstate => by cases hstate
  · exact fun hstate => by cases hstate
  · exact h

theorem Pass.scan_breakeven {clock : Clock} {s s' : Pass}
    (hmem : s.record.currentState ∈ outcomeEligible) (haborted : s.aborted = false)
    (h : s.scan g clock bars = .ok s') (hstate : s'.record.currentState = .breakeven) :
    s'.progress.terminalOutcome = some .breakeven := by
  have hne : s.record.currentState ≠ .breakeven := by
    intro heq
    rw [heq] at hmem
    exact absurd hmem (by decide)
  have hinvariant := Scan.runUntil_induction
    (I := fun u : Pass => (u.Eligible ∧ u.aborted = false) ∧
      (u.position.state = .breakeven → u.position.milestones.terminalOutcome = some .breakeven))
    (fun u bar _ u' _ hu hu' => ?_) ⟨⟨fun _ => hmem, haborted⟩, fun heq => absurd heq hne⟩ h
  · exact hinvariant.2 hstate
  · have hcompletes := (processCandle_spec hu.1.1 hu.1.2 hu').1
    obtain ⟨breakevenStop, -, hnext⟩ := hcompletes.position
    refine ⟨⟨hcompletes.eligible hu.1.1, hcompletes.aborted.trans hu.1.2⟩, ?_⟩
    rw [hnext]
    exact Position.next_breakeven hu.2

end Rows

section Repository

variable {sha256 : String → String} {repo repo' : Repository} {record : SetupLifecycleRecord}
  {p q : OutcomeProgress}

def OutcomeProgress.OwnedBy (sha256 : String → String) (record : SetupLifecycleRecord)
    (p : OutcomeProgress) : Prop :=
  p.lifecycleId = record.lifecycleId ∧ p.planIdentity ∈ compatiblePlanIdentities sha256 record

/-- A row whose break-even label passes the validator for a plan it belongs to, and whose stop was
not protected. A row that a record with an observed stop has closed has no stop candle. -/
structure OutcomeProgress.Consistent (sha256 : String → String) (p : OutcomeProgress) : Prop where
  breakeven : p.terminalOutcome = some .breakeven → ∃ record g, p.OwnedBy sha256 record ∧
    storedPlanGeometry record = .ok g ∧ validateBreakevenOutcome p g = .ok ()
  stopped : p.terminalOutcome = some .slHit → p.stopAt.isSome = true → p.StoppedUnprotected

def Repository.EndedAtBreakeven (sha256 : String → String) (repo : Repository)
    (record : SetupLifecycleRecord) : Prop :=
  ∃ p g, repo.findProgress record.lifecycleId (compatiblePlanIdentities sha256 record) = some p ∧
    p.terminalOutcome = some .breakeven ∧ storedPlanGeometry record = .ok g ∧
    validateBreakevenOutcome p g = .ok ()

structure Repository.OutcomesSound (sha256 : String → String) (repo : Repository) : Prop where
  rows : ∀ p ∈ repo.progress.rows, p.Regular ∧ p.Consistent sha256
  records : ∀ id, ∀ record ∈ repo.records.fetch id, record.currentState = .breakeven →
    repo.EndedAtBreakeven sha256 record

theorem OutcomeProgress.consistent_of_outcome
    (h : p.terminalOutcome ∉ [some SetupLifecycleState.breakeven, some slHit]) :
    p.Consistent sha256 where
  breakeven heq := by
    rw [heq] at h
    exact absurd h (by decide)
  stopped heq := by
    rw [heq] at h
    exact absurd h (by decide)

theorem rowOrNew_ownedBy (executionTimeframe : String) (clock : Clock) :
    (rowOrNew record (compatiblePlanIdentities sha256 record)
      (storedRow record repo (compatiblePlanIdentities sha256 record)) executionTimeframe
      clock).OwnedBy sha256 record := by
  cases hstored : storedRow record repo (compatiblePlanIdentities sha256 record) with
  | some p =>
    obtain ⟨identity, hmem, hfetch⟩ := List.exists_of_findSome?_eq_some hstored
    have hkey := Table.key_of_fetch hfetch
    refine ⟨congrArg Prod.fst hkey, ?_⟩
    show p.planIdentity ∈ _
    rw [show p.planIdentity = identity from congrArg Prod.snd hkey]
    exact hmem
  | none =>
    refine ⟨rfl, ?_⟩
    show (compatiblePlanIdentities sha256 record).headD "" ∈ compatiblePlanIdentities sha256 record
    cases hidentities : compatiblePlanIdentities sha256 record with
    | nil => exact absurd hidentities (compatiblePlanIdentities_ne_nil sha256 record)
    | cons identity rest => exact List.mem_cons_self

theorem OutcomeProgress.OwnedBy.congr (h : p.OwnedBy sha256 record)
    (hkey : q.toProgressKey = p.toProgressKey) : q.OwnedBy sha256 record := by
  have hid : q.lifecycleId = p.lifecycleId := congrArg ProgressKey.lifecycleId hkey
  have hplan : q.planIdentity = p.planIdentity := congrArg ProgressKey.planIdentity hkey
  exact ⟨hid.trans h.1, by rw [hplan]; exact h.2⟩

theorem findProgress_put_other {id : String} (identities : List String)
    (hput : repo'.progress = repo.progress.put q) (hne : q.lifecycleId ≠ id) :
    repo'.findProgress id identities = repo.findProgress id identities := by
  unfold Repository.findProgress
  congr 1
  funext identity
  rw [hput, Table.fetch_put, if_neg fun heq => hne (congrArg Prod.fst heq)]

theorem Repository.OutcomesSound.putRow (h : repo.OutcomesSound sha256)
    (hprogress : repo'.progress = repo.progress.put q) (hrecords : repo'.records = repo.records)
    (hq : q.Regular ∧ q.Consistent sha256)
    (hstate : ∀ record ∈ repo.records.fetch q.lifecycleId, record.currentState ≠ .breakeven) :
    repo'.OutcomesSound sha256 := by
  constructor
  · intro p hp
    rw [hprogress] at hp
    rcases Table.mem_put hp with rfl | hp
    · exact hq
    · exact h.rows p hp
  · intro id record hrecord hbreakeven
    rw [hrecords] at hrecord
    have hid := repo.lifecycleId_of_fetch hrecord
    have hne : q.lifecycleId ≠ record.lifecycleId := by
      intro heq
      rw [← hid, ← heq] at hrecord
      exact hstate record hrecord hbreakeven
    obtain ⟨p, g, hrow, hended⟩ := h.records id record hrecord hbreakeven
    exact ⟨p, g, (findProgress_put_other _ hprogress hne).trans hrow, hended⟩

theorem Repository.OutcomesSound.row (h : repo.OutcomesSound sha256) (identities : List String)
    (executionTimeframe : String) (clock : Clock) :
    (rowOrNew record identities (storedRow record repo identities) executionTimeframe
      clock).Regular := by
  rcases rowOrNew_cases record identities (storedRow record repo identities) executionTimeframe clock
    with hstored | ⟨-, hfresh⟩
  · obtain ⟨identity, -, hfetch⟩ := List.exists_of_findSome?_eq_some hstored
    exact (h.rows _ (Table.mem_of_fetch hfetch)).1
  · exact hfresh.regular

theorem Repository.OutcomesSound.ne_breakeven (h : repo.OutcomesSound sha256)
    (hrecord : repo.records.fetch record.lifecycleId = some record)
    (hopen : ∀ p ∈ storedRow record repo (compatiblePlanIdentities sha256 record),
      p.terminalOutcome = none) : record.currentState ≠ .breakeven := by
  intro hbreakeven
  obtain ⟨p, g, hrow, hended, -⟩ := h.records _ record hrecord hbreakeven
  rw [hopen p hrow] at hended
  cases hended

theorem Repository.OutcomesSound.leaveRecord (h : repo.OutcomesSound sha256)
    (hrecord : repo.records.fetch record.lifecycleId = some record)
    (hstate : record.currentState ≠ .breakeven) (hid : q.lifecycleId = record.lifecycleId)
    (hq : q.Regular ∧ q.Consistent sha256) :
    (leaveRecord record repo q).2.OutcomesSound sha256 := by
  refine h.putRow rfl rfl hq fun r hr => ?_
  rw [hid, hrecord] at hr
  cases hr
  exact hstate

theorem OutcomeProgress.Regular.noted (h : p.Regular) (hopen : p.terminalOutcome = none)
    (hq : p.Prepares q) : q.Regular ∧ q.Consistent sha256 := by
  refine ⟨h.prepares hq, consistent_of_outcome ?_⟩
  rw [show q.terminalOutcome = none from
    (congrArg Milestones.terminalOutcome hq.milestones).trans hopen]
  decide

theorem OutcomeProgress.Regular.closed (h : p.Regular) (hopen : p.terminalOutcome = none)
    (hstate : record.currentState ≠ .breakeven) (clock : Clock) :
    (terminalProgressForRecord record p clock).Regular ∧
    (terminalProgressForRecord record p clock).Consistent sha256 := by
  obtain ⟨rounds, htracked⟩ := h.tracked
  refine ⟨⟨⟨rounds, htracked.congr rfl rfl htracked.contracted fun _ => rfl⟩, nofun, nofun⟩, ?_, ?_⟩
  · intro heq
    exact absurd (Option.some.inj heq) hstate
  · intro _ hstop
    rw [show (terminalProgressForRecord record p clock).stopAt = none from
      (h.inOrder hopen).ordered.stopAt_eq_none hopen] at hstop
    cases hstop

theorem Repository.OutcomesSound.evaluate (h : repo.OutcomesSound sha256)
    (hrecord : repo.records.fetch record.lifecycleId = some record) {call : Call}
    {candles : List RawCandle} {ev : LifecycleOutcomeEvaluation}
    (hok : evaluateClosedCandleOutcomes sha256 record call repo candles = .ok (ev, repo')) :
    repo'.OutcomesSound sha256 := by
  have hne := compatiblePlanIdentities_ne_nil sha256 record
  have hrow : (workingRow record call repo (compatiblePlanIdentities sha256 record)).Regular :=
    h.row _ call.executionTimeframe call.toClock
  have howned : (workingRow record call repo (compatiblePlanIdentities sha256 record)).OwnedBy sha256
      record := rowOrNew_ownedBy call.executionTimeframe call.toClock
  rcases evaluateWithIdentities_comes record call repo (compatiblePlanIdentities sha256 record)
    candles with ⟨r, hr, heq⟩ | ⟨g, started, bars, pending, hpending, heq⟩
  -- the candles are not looked at: nothing is written, or the row is closed or given a note
  · obtain rfl : r = (ev, repo') := Except.ok.inj (heq.symm.trans hok)
    cases hr with
    | kept => exact h
    | ended hunended =>
      have hstate := h.ne_breakeven hrecord hunended
      exact h.leaveRecord hrecord hstate howned.1
        (hrow.closed (rowOrNew_unended hunended) hstate call.toClock)
    | noted live hq hp =>
      have hprepares := hq.prepares.trans hp.prepares
      exact h.leaveRecord hrecord (h.ne_breakeven hrecord live.unended)
        ((congrArg ProgressKey.lifecycleId hprepares.key).trans howned.1)
        (hrow.noted (rowOrNew_unended live.unended) hprepares)
  · rw [evaluateClosedCandleOutcomes, heq] at hok
    -- the candle loop runs to its end, and its row and its record are written
    obtain ⟨s, hs, hok⟩ := Scan.map_ok hok
    cases hok
    obtain ⟨rounds, hscanned⟩ := Pass.scan_spec (fun _ => hpending.eligible) rfl hs
    obtain ⟨hregular, hconcluded⟩ := hpending.concludes hscanned hrow
    have hkey : s.progress.toProgressKey =
        (workingRow record call repo (compatiblePlanIdentities sha256 record)).toProgressKey :=
      (hscanned.linked.kept fun r hr => (hscanned.sound r hr).key).trans
        hpending.reaches.sameOutcome.key
    have howned' := howned.congr hkey
    have hid : s.record.lifecycleId = record.lifecycleId := hscanned.record.lifecycleId
    constructor
    · intro p hp
      rcases Table.mem_put hp with rfl | hp
      · exact ⟨hregular, fun hended => ⟨record, g, howned', hpending.geometry,
          hconcluded.breakeven hended⟩, fun hended _ => hconcluded.stopped hended⟩
      · exact h.rows p hp
    · intro id r hr hbreakeven
      -- a record at BREAKEVEN is the one that was written, or was there before
      rw [Table.fetch_put] at hr
      split at hr
      · cases hr
        have hended := Pass.scan_breakeven hpending.eligible rfl hs hbreakeven
        refine ⟨s.progress, g, ?_, hended, ?_, hconcluded.breakeven hended⟩
        · rw [hid, hscanned.record.planIdentities]
          exact findProgress_of_row rfl hne hkey
        · rw [hscanned.record.geometry]
          exact hpending.geometry
      · next hother =>
        have hrid : r.lifecycleId = id := repo.lifecycleId_of_fetch hr
        obtain ⟨p, g', hfound, hended⟩ := h.records id r hr hbreakeven
        refine ⟨p, g', (findProgress_put_other _ rfl ?_).trans hfound, hended⟩
        rw [howned'.1, hrid]
        exact fun hsame => hother (hid.trans hsame)

end Repository

section Observations

variable (sha256 : String → String) (record : SetupLifecycleRecord) (o : LifecycleObservation)
  (call : LifecycleCall)

theorem nextStateForObservation_ne_breakeven (now : Instant) :
    nextStateForObservation record o now ≠ .breakeven := by
  have htarget : gatedTarget record o ≠ .breakeven := by
    intro heq
    have hmem := gatedTarget_mem record o
    rw [heq] at hmem
    exact absurd hmem (by decide)
  unfold nextStateForObservation nextFromConfirmed nextFromTriggered
  dsimp only
  split
  -- the last case keeps a state that is none of those before
  case h_18 hne _ _ _ _ _ _ _ _ _ _ _ _ => exact hne
  all_goals (try split_ifs)
  all_goals first | exact htarget | decide

/-- An observation leaves a record at BREAKEVEN only if it finds it there, and then keeps its
plan. -/
theorem observedResult_breakeven
    (h : (observedResult record o call sha256).record.currentState = .breakeven) :
    record.currentState = .breakeven ∧
    (observedResult record o call sha256).record.settled = record.settled ∧
    (observedResult record o call sha256).record.toInvalidationTexts =
      record.toInvalidationTexts := by
  rw [observedResult_currentState] at h
  rw [observedResult_settled, observedResult_texts]
  rcases observeRecord_cases record o call with ⟨hsame, hsettled, htexts, -⟩ | ⟨-, -, -, hmoved⟩
  · exact ⟨hsame.symm.trans h, hsettled, htexts⟩
  · exfalso
    rcases hmoved with hnext | ⟨htriggered, -⟩
    · rw [h] at hnext
      rcases proposal_nextState_cases record (effectiveObservation record o) call with
        ⟨hfresh, -⟩ | ⟨hstay, -⟩ | ⟨hended, -⟩
      · exact nextStateForObservation_ne_breakeven _ _ _ (hfresh.symm.trans hnext.symm)
      · have hrecord : record.currentState = .breakeven := hstay.symm.trans hnext.symm
        have hcooldown := proposal_of_ended (effectiveObservation record o) call
          (by rw [hrecord]; decide)
        rw [← hnext] at hcooldown
        cases hcooldown
      · rw [← hnext] at hended
        exact absurd hended (by decide)
    · rw [h] at htriggered
      cases htriggered

theorem createdResult_ne_breakeven :
    (createdResult sha256 o call).record.currentState ≠ .breakeven := by
  intro heq
  rcases createdResult_currentState sha256 o call with hstate | hstate
  · rw [heq] at hstate
    rcases proposedInitialState_cases o call with ⟨hobserved, -⟩ | hmem
    · have hmem := observedState_mem o
      rw [← hobserved, ← hstate] at hmem
      exact absurd hmem (by decide)
    · rw [← hstate] at hmem
      exact absurd hmem (by decide)
  · rw [heq] at hstate
    cases hstate

variable {record}

theorem plan_of_settled {record' : SetupLifecycleRecord} (h : record'.settled = record.settled)
    (htexts : record'.toInvalidationTexts = record.toInvalidationTexts) :
    compatiblePlanIdentities sha256 record' = compatiblePlanIdentities sha256 record ∧
    storedPlanGeometry record' = storedPlanGeometry record := by
  have hidentity : record'.toRecordIdentity = record.toRecordIdentity :=
    congrArg Settled.identity h
  have hplan : record'.toPlanFields = record.toPlanFields := congrArg Settled.plan h
  constructor
  · unfold compatiblePlanIdentities planIdentity
    rw [hidentity, hplan, htexts]
  · unfold storedPlanGeometry
    rw [hidentity, hplan, htexts]

end Observations

section Runs

variable {sha256 : String → String} {repo repo' : Repository} {record : SetupLifecycleRecord}

theorem Repository.OutcomesSound.putRecord (h : repo.OutcomesSound sha256)
    (hrecords : repo'.records = repo.records.put record) (hprogress : repo'.progress = repo.progress)
    (hrecord : record.currentState = .breakeven → repo.EndedAtBreakeven sha256 record) :
    repo'.OutcomesSound sha256 := by
  have hfind : ∀ id identities, repo'.findProgress id identities = repo.findProgress id identities :=
    fun id identities => by unfold Repository.findProgress; rw [hprogress]
  constructor
  · rw [hprogress]
    exact h.rows
  · intro id r hr hbreakeven
    rw [hrecords, Table.fetch_put] at hr
    unfold Repository.EndedAtBreakeven
    rw [hfind]
    split at hr
    · cases hr
      exact hrecord hbreakeven
    · exact h.records id r hr hbreakeven

theorem Repository.OutcomesSound.persist (h : repo.OutcomesSound sha256) {o : LifecycleObservation}
    {call : LifecycleCall} (hrecord : repo.records.fetch call.lifecycleId = some record) :
    (repo.persist (observedResult record o call sha256)).OutcomesSound sha256 := by
  refine h.putRecord rfl rfl fun hbreakeven => ?_
  obtain ⟨hstate, hsettled, htexts⟩ := observedResult_breakeven sha256 record o call hbreakeven
  obtain ⟨hidentities, hgeometry⟩ := plan_of_settled sha256 hsettled htexts
  obtain ⟨p, g, hrow, hended⟩ := h.records _ record hrecord hstate
  refine ⟨p, g, ?_, ?_⟩
  · rw [observedResult_lifecycleId, hidentities]
    exact hrow
  · rw [hgeometry]
    exact hended

theorem Repository.OutcomesSound.serve (h : repo.OutcomesSound sha256) (a : ServiceAction) :
    (repo.serve sha256 a).OutcomesSound sha256 := by
  have hserved : Served sha256 repo a (repo.serve sha256 a) := repo.serve_cases a
  generalize repo.serve sha256 a = repo' at hserved ⊢
  cases hserved with
  | idle => exact h
  | created hsymbol =>
    exact h.putRecord rfl rfl fun hbreakeven =>
      absurd hbreakeven (createdResult_ne_breakeven sha256 _ _)
  | observed hrecord | held hrecord => exact h.persist hrecord
  | evaluated hrecord hok =>
    obtain rfl := repo.lifecycleId_of_fetch hrecord
    exact h.evaluate hrecord hok
  | @noted _ diagnostic executionTimeframe clock record hrecord hunended =>
    obtain rfl := repo.lifecycleId_of_fetch hrecord
    exact h.leaveRecord hrecord (h.ne_breakeven hrecord hunended)
      (rowOrNew_ownedBy executionTimeframe clock).1
      ((h.row _ executionTimeframe clock).noted (rowOrNew_unended hunended)
        (withEvidenceGap_sameRow _ diagnostic clock).prepares)
  | authorized authority => exact ⟨h.rows, h.records⟩

/-- Along every run of the service from a repository without progress and without a record at
BREAKEVEN: a row that has ended at BREAKEVEN passes the validator for the plan it belongs to, and a
record at BREAKEVEN has such a row; a row that a candle has stopped at SL_HIT was not protected on
that candle. -/
theorem breakeven_outcomes_are_consistent (sha256 : String → String)
    (hrows : repo.progress.rows = [])
    (hstates : ∀ record ∈ repo.records.rows, record.currentState ≠ .breakeven)
    (actions : List ServiceAction) :
    (∀ p ∈ (Transition.run (Repository.serve sha256) repo actions).progress.rows,
      (p.terminalOutcome = some .breakeven → ∃ record g, p.OwnedBy sha256 record ∧
        storedPlanGeometry record = .ok g ∧ validateBreakevenOutcome p g = .ok ()) ∧
      (p.terminalOutcome = some .slHit → p.stopAt.isSome = true →
        p.evaluationCursorCloseAt = p.stopAt ∧
        ∃ opened, p.evaluationCursorOpenAt = some (.instant opened) ∧
          protectionActive p opened = .ok false)) ∧
    ∀ record ∈ (Transition.run (Repository.serve sha256) repo actions).records.rows,
      record.currentState = .breakeven →
      (Transition.run (Repository.serve sha256) repo actions).EndedAtBreakeven sha256 record := by
  have hstart : repo.OutcomesSound sha256 := by
    constructor
    · rw [hrows]
      exact fun p hp => by cases hp
    · intro id record hrecord hbreakeven
      exact absurd hbreakeven (hstates record (Table.mem_of_fetch hrecord))
  have hsound := Transition.run_invariant (Repository.serve sha256)
    (I := fun repo : Repository => repo.OutcomesSound sha256) (fun _ a h => h.serve a) hstart actions
  refine ⟨fun p hp => ?_, fun record hrecord => hsound.records _ record (Table.fetch_of_mem hrecord)⟩
  have hconsistent := (hsound.rows p hp).2
  exact ⟨hconsistent.breakeven, hconsistent.stopped⟩

/-- The sample setup is entered, reaches its first target and falls back to the middle of its
zone. -/
def breakevenActions : List ServiceAction :=
  restartedActions.take 3 ++
    [.evaluate "lifecycle-1" (sampleEvaluation 3) [sampleCandle 2 112 104],
      .evaluate "lifecycle-1" (sampleEvaluation 4) [sampleCandle 3 108 100]]

theorem sample_ends_at_breakeven :
    ∃ record ∈ (Transition.run (Repository.serve id) sampleRepository breakevenActions).records.rows,
      record.currentState = .breakeven ∧
      (Transition.run (Repository.serve id) sampleRepository breakevenActions).EndedAtBreakeven id
        record := by
  have hstates : (Transition.run (Repository.serve id) sampleRepository
      breakevenActions).records.rows.map (fun record => record.currentState) = [breakeven] := by
    decide +kernel
  obtain ⟨record, hrecord, hstate⟩ := List.mem_map.1 (hstates ▸ List.mem_singleton_self breakeven)
  exact ⟨record, hrecord, hstate, (breakeven_outcomes_are_consistent id rfl
    (fun _ hr => by cases hr) breakevenActions).2 record hrecord hstate⟩

end Runs

end CandleCraft.Lifecycle
