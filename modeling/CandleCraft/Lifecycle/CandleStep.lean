import CandleCraft.Lifecycle.Outcome
import CandleCraft.Lifecycle.Proposals

/-!
# One candle of an outcome evaluation

What a closed candle does to a plan, as a function on the milestones and the state of the
record alone, and the proof that one round of the candle loop computes it. The loop is
refused a candle only when the record cannot follow the plan, which an entry and a record
that is managed exclude.
-/

namespace CandleCraft.Lifecycle

open Candles SetupLifecycleState

section Policy

def targetReached (bar : Bar) (g : StoredPlanGeometry) (level : ℚ) : Bool :=
  match g.direction with
  | .long => decide (level ≤ bar.high)
  | .short => decide (bar.low ≤ level)

def activeStopTouched (bar : Bar) (g : StoredPlanGeometry) (breakeven : Bool) : Bool :=
  if breakeven then referenceStopTouched bar g else stopTouched bar g

/-- The close of a candle, as a milestone stores it. -/
def Bar.closeStamp (bar : Bar) : Option Stamp := some (.instant bar.closeTimestamp)

def Bar.cursor (bar : Bar) : Cursor := ⟨some (.instant bar.openTimestamp), bar.closeStamp⟩

namespace Milestones

variable (m : Milestones) (bar : Bar) (g : StoredPlanGeometry)

def credit : Milestones :=
  { m with
    tp1At := if m.tp1At.isNone && targetReached bar g g.tp1 then bar.closeStamp else m.tp1At
    tp2At := if m.tp2At.isNone && targetReached bar g g.tp2 then bar.closeStamp else m.tp2At
    tp3At := if m.tp3At.isNone && targetReached bar g g.tp3 then bar.closeStamp else m.tp3At }

/-- The plan ends at the close of the candle. -/
def conclude (outcome : SetupLifecycleState) : Milestones :=
  { m with outcomeAt := bar.closeStamp, terminalOutcome := some outcome }

/-- The plan is stopped at the close of the candle. -/
def stop (outcome : SetupLifecycleState) : Milestones :=
  { m with stopAt := bar.closeStamp }.conclude bar outcome

/-- The plan is filled at the close of the candle. -/
def enter : Milestones := { m with entryAt := bar.closeStamp }

end Milestones

/-- What the candles decide: the milestones of the plan and the state of its record. -/
structure Position where
  milestones : Milestones
  state : SetupLifecycleState

/-- The effect of one closed candle. An open plan is filled by it, and stopped by it at once
if the stop is touched too. A filled plan is stopped, at the break-even reference once that is
active; otherwise it is credited with its targets and ends with the third. -/
def Position.next (x : Position) (bar : Bar) (g : StoredPlanGeometry) (breakeven : Bool) :
    Position :=
  if x.milestones.entryAt.isNone then
    if entryTouched bar g then
      if stopTouched bar g then ⟨(x.milestones.enter bar).stop bar .slHit, .slHit⟩
      else ⟨x.milestones.enter bar, .managing⟩
    else x
  else if activeStopTouched bar g breakeven then
    let outcome : SetupLifecycleState := if breakeven then .breakeven else .slHit
    ⟨x.milestones.stop bar outcome, outcome⟩
  else if (x.milestones.credit bar g).tp3At.isSome then
    ⟨(x.milestones.credit bar g).conclude bar .tpHit, .tpHit⟩
  else ⟨x.milestones.credit bar g, x.state⟩

end Policy

section Transitions

def SetupLifecycleRecord.Restaged (r r' : SetupLifecycleRecord) : Prop :=
  { r with toStage := r'.toStage, toRecordTimes := r'.toRecordTimes } = r'

theorem SetupLifecycleRecord.Restaged.refl (r : SetupLifecycleRecord) : r.Restaged r := rfl

theorem SetupLifecycleRecord.Restaged.trans {r₁ r₂ r₃ : SetupLifecycleRecord}
    (h₁₂ : r₁.Restaged r₂) (h₂₃ : r₂.Restaged r₃) : r₁.Restaged r₃ := by
  rw [Restaged] at h₁₂ h₂₃ ⊢
  rw [← h₂₃, ← h₁₂]

variable (r : SetupLifecycleRecord) (toState : SetupLifecycleState) (request : TransitionRequest)
  (clock : Clock)

theorem transitionRecord_restaged :
    r.Restaged (transitionRecord r toState request clock).record := by
  unfold transitionRecord
  split_ifs <;> rfl

theorem transitionRecord_of_legal (hne : r.currentState ≠ toState)
    (hallowed : transitionAllowed r.currentState toState = true)
    (htouch : requiresTouchReason r.currentState toState request.reason = false) :
    (transitionRecord r toState request clock).allowed = true ∧
    (transitionRecord r toState request clock).transitioned = true ∧
    (transitionRecord r toState request clock).record.currentState = toState := by
  unfold transitionRecord
  rw [if_neg hne, if_neg (by rw [hallowed]; decide), if_neg (by rw [htouch]; decide)]
  exact ⟨rfl, rfl, rfl⟩

theorem transitionRecord_moved (h : (transitionRecord r toState request clock).transitioned = true) :
    (transitionRecord r toState request clock).record.currentState = toState := by
  revert h
  unfold transitionRecord
  split_ifs
  all_goals
    intro h
    first | rfl | cases h

end Transitions

namespace Pass

section Entry

variable (s : Pass) (g : StoredPlanGeometry) (clock : Clock) (bar : Bar)

def position : Position := ⟨s.progress.toMilestones, s.record.currentState⟩

structure Moved (s s' : Pass) : Prop where
  record : s.record.Restaged s'.record
  progress : s'.progress = s.progress
  aborted : s'.aborted = s.aborted

theorem Moved.refl : Moved s s := ⟨.refl _, rfl, rfl⟩

variable {s} in
theorem Moved.trans {s' s'' : Pass} (h : Moved s s') (h' : Moved s' s'') : Moved s s'' :=
  ⟨h.record.trans h'.record, h'.progress.trans h.progress, h'.aborted.trans h.aborted⟩

theorem adopt_moved {t : SetupTransitionResult} (h : s.record.Restaged t.record) :
    Moved s (s.adopt t) :=
  ⟨h, rfl, rfl⟩

/-- How many transitions are left to the managed state. -/
def stepsToManaging : SetupLifecycleState → ℕ
  | .watchlisted | .stalking | .actionableAGrade | .aGradeWatch => 4
  | .triggered => 3
  | .confirmed => 2
  | .executing => 1
  | _ => 0

theorem stepsToManaging_le (state : SetupLifecycleState) : stepsToManaging state ≤ 4 := by
  cases state <;> decide

theorem nextState_legal {state target : SetupLifecycleState} (h : nextState state = some target) :
    state ≠ target ∧ transitionAllowed state target = true ∧
    requiresTouchReason state target
      (if target = .triggered then .entryZoneTouched else .entryFillSimulated) = false ∧
    stepsToManaging state = stepsToManaging target + 1 ∧ target ∈ outcomeEligible := by
  revert h
  cases state <;> intro h <;> cases h <;> decide

theorem nextState_eq_none {state : SetupLifecycleState} (hmem : state ∈ outcomeEligible)
    (h : nextState state = none) : state = .managing := by
  revert hmem h
  cases state <;> decide

theorem advanceToManaging_spec (n : ℕ) (hmem : s.record.currentState ∈ outcomeEligible)
    (hn : stepsToManaging s.record.currentState ≤ n) :
    Moved s (advanceToManaging clock bar n s) ∧
    (advanceToManaging clock bar n s).record.currentState = .managing := by
  induction n generalizing s with
  | zero =>
    refine ⟨Moved.refl s, ?_⟩
    show s.record.currentState = .managing
    revert hmem hn
    cases s.record.currentState <;> decide
  | succ n ih =>
    rw [advanceToManaging]
    split
    next hnone => exact ⟨Moved.refl s, nextState_eq_none hmem hnone⟩
    next target htarget =>
      obtain ⟨hne, hallowed, htouch, hsteps, heligible⟩ := nextState_legal htarget
      generalize hrequest : ({ reason := _, notes := _ } : TransitionRequest) = request
      have hreason : request.reason =
          if target = .triggered then .entryZoneTouched else .entryFillSimulated := by
        rw [← hrequest]
      rw [← hreason] at htouch
      obtain ⟨htallowed, htransitioned, hstate⟩ :=
        transitionRecord_of_legal s.record target request clock hne hallowed htouch
      have hmoved := adopt_moved s (transitionRecord_restaged s.record target request clock)
      have hadopted : (s.adopt (transitionRecord s.record target request clock)).record.currentState =
          target := hstate
      rw [if_neg (by rw [htallowed, htransitioned]; decide)]
      split_ifs with hmanaging
      · exact ⟨hmoved, hmanaging⟩
      · obtain ⟨hrest, hend⟩ := ih (s.adopt (transitionRecord s.record target request clock))
          (by rw [hadopted]; exact heligible) (by rw [hadopted]; omega)
        exact ⟨hmoved.trans hrest, hend⟩

theorem activateEntry_spec (hmem : s.record.currentState ∈ outcomeEligible) :
    s.record.Restaged (s.activateEntry g clock bar).record ∧
    (s.activateEntry g clock bar).record.currentState = .managing ∧
    (s.activateEntry g clock bar).progress =
      (s.withEntryEvidence bar (s.entryEvidence g bar)).progress ∧
    (s.activateEntry g clock bar).aborted = s.aborted := by
  obtain ⟨hmoved, hstate⟩ := advanceToManaging_spec
    ((s.withEntryEvidence bar (s.entryEvidence g bar)).insertMilestoneEvent clock bar .entryActivated
      "entry_activated" (.zone g.entryLow g.entryHigh) (some (s.entryEvidence g bar))) clock bar 4
    hmem (stepsToManaging_le _)
  exact ⟨hmoved.record, hstate, hmoved.progress, hmoved.aborted⟩

end Entry

section Terminal

variable {s s' : Pass} {g : StoredPlanGeometry} {clock : Clock} {bar : Bar}
  {toState : SetupLifecycleState} {reason : SetupTransitionReason}
  {eventType policyReason : String} {level : Level}

theorem recordTerminalTransition_spec
    (h : s.recordTerminalTransition clock bar toState reason eventType policyReason level = .ok s') :
    Moved s s' ∧ s'.record.currentState = toState := by
  rw [recordTerminalTransition] at h
  generalize ({ reason := _, notes := _ } : TransitionRequest) = request at h
  split_ifs at h with hrefused
  cases h
  rw [not_or, not_not, not_not] at hrefused
  exact ⟨adopt_moved s (transitionRecord_restaged s.record toState request clock),
    transitionRecord_moved s.record toState request clock hrefused.2⟩

theorem recordTerminalTransition_ok (hstate : s.record.currentState = .managing)
    (hto : toState ∈ [tpHit, slHit, breakeven]) :
    ∃ s', s.recordTerminalTransition clock bar toState reason eventType policyReason level =
      .ok s' := by
  rw [recordTerminalTransition]
  generalize ({ reason := _, notes := _ } : TransitionRequest) = request
  have hlegal : (transitionRecord s.record toState request clock).allowed = true ∧
      (transitionRecord s.record toState request clock).transitioned = true := by
    obtain ⟨hallowed, htransitioned, -⟩ := transitionRecord_of_legal s.record toState request clock
      (by rw [hstate]; rintro rfl; exact absurd hto (by decide))
      (by rw [hstate]; revert hto; cases toState <;> decide)
      (by rw [hstate]; rfl)
    exact ⟨hallowed, htransitioned⟩
  rw [if_neg (by rw [hlegal.1, hlegal.2]; decide)]
  exact ⟨_, rfl⟩

def stopOutcome (breakeven : Bool) : SetupLifecycleState := if breakeven then .breakeven else .slHit

theorem recordStop_spec {ambiguityReason : String} {breakeven : Bool}
    (h : s.recordStop g clock bar ambiguityReason breakeven = .ok s') :
    s.record.Restaged s'.record ∧ s'.record.currentState = stopOutcome breakeven ∧
    s'.progress = { s.progress with
      toMilestones := s.progress.toMilestones.stop bar (stopOutcome breakeven) } ∧
    s'.aborted = s.aborted := by
  rw [recordStop] at h
  split at h
  · cases h
  next t ht =>
    cases h
    obtain ⟨hmoved, hstate⟩ := recordTerminalTransition_spec ht
    refine ⟨hmoved.record, hstate, ?_, hmoved.aborted⟩
    rw [← hmoved.progress]
    rfl

theorem recordStop_ok (hstate : s.record.currentState = .managing) (ambiguityReason : String)
    (breakeven : Bool) : ∃ s', s.recordStop g clock bar ambiguityReason breakeven = .ok s' := by
  have hmem : (if breakeven then .breakeven else .slHit) ∈ [tpHit, slHit, SetupLifecycleState.breakeven] := by
    cases breakeven <;> decide
  rw [recordStop]
  split
  next e he =>
    obtain ⟨t, ht⟩ := recordTerminalTransition_ok hstate hmem
    rw [ht] at he
    cases he
  · exact ⟨_, rfl⟩

end Terminal

section Targets

variable (s : Pass) (g : StoredPlanGeometry) (clock : Clock) (bar : Bar)

theorem foldl_creditTarget (targets : List (ℕ × ℚ)) :
    (targets.foldl (fun s target => s.creditTarget clock bar target) s).record = s.record ∧
    (targets.foldl (fun s target => s.creditTarget clock bar target) s).progress =
      targets.foldl (fun p target => p.creditTarget target.1 (.instant bar.closeTimestamp))
        s.progress ∧
    (targets.foldl (fun s target => s.creditTarget clock bar target) s).aborted = s.aborted := by
  induction targets generalizing s with
  | nil => exact ⟨rfl, rfl, rfl⟩
  | cons target rest ih => exact ih (s.creditTarget clock bar target)

theorem foldl_newlyTouchedTargets (p : OutcomeProgress) :
    (newlyTouchedTargets bar g p).foldl
        (fun p target => p.creditTarget target.1 (.instant bar.closeTimestamp)) p =
      { p with toMilestones := p.toMilestones.credit bar g } := by
  have htouched : newlyTouchedTargets bar g p =
      [(1, g.tp1), (2, g.tp2), (3, g.tp3)].filter fun entry =>
        (p.targetAt entry.1).isNone && targetReached bar g entry.2 := rfl
  rw [htouched, Milestones.credit]
  cases h1 : p.tp1At.isNone && targetReached bar g g.tp1 <;>
  cases h2 : p.tp2At.isNone && targetReached bar g g.tp2 <;>
  cases h3 : p.tp3At.isNone && targetReached bar g g.tp3 <;>
  simp [List.filter, OutcomeProgress.targetAt, OutcomeProgress.creditTarget, h1, h2, h3,
    Bar.closeStamp]

end Targets

section Candle

variable {s s' : Pass} {g : StoredPlanGeometry} {clock : Clock} {bar : Bar}
variable {m : Milestones}

/-- A candle is completed: the position moves as the candle says, the cursor is on the candle,
and the rest of the row is kept. -/
structure Completes (g : StoredPlanGeometry) (bar : Bar) (s s' : Pass) : Prop where
  record : s.record.Restaged s'.record
  position : ∃ breakeven,
    (s.progress.entryAt.isSome = true →
      protectionActive s.progress bar.openTimestamp = .ok breakeven) ∧
    s'.position = s.position.next bar g breakeven
  cursor : s'.progress.toCursor = bar.cursor
  key : s'.progress.toProgressKey = s.progress.toProgressKey
  trackingStart : s'.progress.trackingStartAt = s.progress.trackingStartAt
  metadata : ∃ evidence, s'.progress.metadata = .ok { s.progress.metadataOrEmpty with
    processedCandleCount := s.progress.metadataOrEmpty.processedCandleCount + 1
    entryEvidence := evidence }
  verified : s'.progress.integrityStatus = .verified
  aborted : s'.aborted = s.aborted

/-- A pass that is ready to be completed: the row has new milestones, and entry evidence at
most. -/
structure Decided (s t : Pass) (m : Milestones) : Prop where
  record : s.record.Restaged t.record
  milestones : t.progress.toMilestones = m
  key : t.progress.toProgressKey = s.progress.toProgressKey
  trackingStart : t.progress.trackingStartAt = s.progress.trackingStartAt
  metadata : ∃ evidence, t.progress.metadataOrEmpty =
    { s.progress.metadataOrEmpty with entryEvidence := evidence }
  aborted : t.aborted = s.aborted

theorem Decided.complete {t : Pass} (h : Decided s t m) {breakeven : Bool}
    (hactive : s.progress.entryAt.isSome = true →
      protectionActive s.progress bar.openTimestamp = .ok breakeven)
    (hnext : s.position.next bar g breakeven = ⟨m, t.record.currentState⟩) :
    Completes g bar s (t.complete clock bar) where
  record := h.record
  position := by
    refine ⟨breakeven, hactive, ?_⟩
    rw [hnext, ← h.milestones]
    rfl
  cursor := rfl
  key := h.key
  trackingStart := h.trackingStart
  metadata := by
    obtain ⟨evidence, hevidence⟩ := h.metadata
    refine ⟨evidence, ?_⟩
    rw [Pass.complete, OutcomeProgress.withCursor]
    rw [hevidence]
  verified := rfl
  aborted := h.aborted

theorem decided_of_progress {t : Pass} (hrecord : s.record.Restaged t.record)
    (hprogress : t.progress = { s.progress with toMilestones := m }) (haborted : t.aborted = s.aborted) :
    Decided s t m := by
  refine ⟨hrecord, ?_, ?_, ?_, ⟨s.progress.metadataOrEmpty.entryEvidence, ?_⟩, haborted⟩
  all_goals rw [hprogress]
  rfl

theorem activateEntry_decided (hmem : s.record.currentState ∈ outcomeEligible) :
    Decided s (s.activateEntry g clock bar) (s.progress.toMilestones.enter bar) := by
  obtain ⟨hrecord, -, hprogress, haborted⟩ := activateEntry_spec s g clock bar hmem
  refine ⟨hrecord, ?_, ?_, ?_, ⟨some (s.entryEvidence g bar), ?_⟩, haborted⟩
  all_goals rw [hprogress]
  all_goals rfl

theorem Decided.stop {t t' : Pass} (h : Decided s t m) {outcome : SetupLifecycleState}
    (hrecord : t.record.Restaged t'.record)
    (hprogress : t'.progress = { t.progress with
      toMilestones := t.progress.toMilestones.stop bar outcome })
    (haborted : t'.aborted = t.aborted) : Decided s t' (m.stop bar outcome) := by
  obtain ⟨evidence, hevidence⟩ := h.metadata
  refine ⟨h.record.trans hrecord, ?_, ?_, ?_, ⟨evidence, ?_⟩, haborted.trans h.aborted⟩
  all_goals rw [hprogress]
  · rw [← h.milestones]
  · exact h.key
  · exact h.trackingStart
  · exact hevidence

theorem position_next_unfilled (hentry : s.progress.entryAt.isNone = true) (breakeven : Bool) :
    s.position.next bar g breakeven =
      if entryTouched bar g then
        if stopTouched bar g then
          ⟨(s.progress.toMilestones.enter bar).stop bar .slHit, .slHit⟩
        else ⟨s.progress.toMilestones.enter bar, .managing⟩
      else s.position :=
  if_pos hentry

theorem processUnfilled_eq (hmem : s.record.currentState ∈ outcomeEligible) :
    s.processUnfilled g clock bar =
      if entryTouched bar g then
        if stopTouched bar g then
          ((s.activateEntry g clock bar).recordStop g clock bar
            "entry_and_stop_same_candle_stop_wins" false).map fun t => t.complete clock bar
        else .ok ((s.activateEntry g clock bar).complete clock bar)
      else .ok (s.complete clock bar) := by
  obtain ⟨-, hmanaging, -, -⟩ := activateEntry_spec s g clock bar hmem
  unfold processUnfilled
  rw [if_neg (not_not.2 hmanaging)]
  congr 2
  cases recordStop (s.activateEntry g clock bar) g clock bar
    "entry_and_stop_same_candle_stop_wins" false <;> rfl

theorem processUnfilled_spec (hentry : s.progress.entryAt.isNone = true)
    (hmem : s.record.currentState ∈ outcomeEligible)
    (h : s.processUnfilled g clock bar = .ok s') : Completes g bar s s' := by
  have hactive : s.progress.entryAt.isSome = true →
      protectionActive s.progress bar.openTimestamp = .ok false := by
    rw [Option.isNone_iff_eq_none.1 hentry]
    exact fun h => absurd h (by decide)
  have hnext : s.position.next bar g false = _ := position_next_unfilled hentry false
  have hdecided : Decided s (s.activateEntry g clock bar) (s.progress.toMilestones.enter bar) :=
    activateEntry_decided hmem
  obtain ⟨-, hmanaging, -, -⟩ := activateEntry_spec s g clock bar hmem
  rw [processUnfilled_eq hmem] at h
  split_ifs at h with htouched hstop
  · obtain ⟨t, ht, rfl⟩ := Scan.map_ok h
    obtain ⟨hrecord, hstopped, hprogress, haborted⟩ := recordStop_spec ht
    refine (hdecided.stop hrecord hprogress haborted).complete hactive ?_
    rw [hnext, if_pos htouched, if_pos hstop, hstopped]
    rfl
  · cases h
    refine hdecided.complete hactive ?_
    rw [hnext, if_pos htouched, if_neg hstop, hmanaging]
  · cases h
    refine (decided_of_progress (.refl _) rfl rfl).complete hactive ?_
    rw [hnext, if_neg htouched]
    rfl

theorem position_next_filled (hentry : s.progress.entryAt.isNone = false) (breakeven : Bool) :
    s.position.next bar g breakeven =
      if activeStopTouched bar g breakeven then
        ⟨s.progress.toMilestones.stop bar (stopOutcome breakeven), stopOutcome breakeven⟩
      else if (s.progress.toMilestones.credit bar g).tp3At.isSome then
        ⟨(s.progress.toMilestones.credit bar g).conclude bar .tpHit, .tpHit⟩
      else ⟨s.progress.toMilestones.credit bar g, s.record.currentState⟩ :=
  if_neg (by rw [show s.position.milestones.entryAt.isNone = false from hentry]; decide)

theorem processTargets_spec {breakeven : Bool} (hentry : s.progress.entryAt.isNone = false)
    (hactive : protectionActive s.progress bar.openTimestamp = .ok breakeven)
    (hstop : activeStopTouched bar g breakeven = false)
    (h : s.processTargets clock bar (newlyTouchedTargets bar g s.progress) = .ok s') :
    Completes g bar s s' := by
  have hnext : s.position.next bar g breakeven = _ := position_next_filled hentry breakeven
  rw [hstop, if_neg Bool.false_ne_true] at hnext
  rw [processTargets] at h
  obtain ⟨hrecord, hprogress, haborted⟩ :=
    foldl_creditTarget s clock bar (newlyTouchedTargets bar g s.progress)
  rw [foldl_newlyTouchedTargets] at hprogress
  generalize (newlyTouchedTargets bar g s.progress).foldl
    (fun s target => s.creditTarget clock bar target) s = t at h hrecord hprogress haborted
  have hrestaged : s.record.Restaged t.record := by
    rw [hrecord]
    exact .refl _
  have htp3 : t.progress.tp3At = (s.progress.toMilestones.credit bar g).tp3At := by rw [hprogress]
  split_ifs at h with hdone
  · rw [htp3] at hdone
    split at h
    · cases h
    next u hu =>
      cases h
      obtain ⟨hmoved, hstate⟩ := recordTerminalTransition_spec hu
      have hconcluded : Decided s (u.conclude bar .tpHit)
          ((s.progress.toMilestones.credit bar g).conclude bar .tpHit) := by
        refine decided_of_progress (hrestaged.trans hmoved.record) ?_ (hmoved.aborted.trans haborted)
        rw [Pass.conclude, hmoved.progress, hprogress]
        rfl
      refine hconcluded.complete (fun _ => hactive) ?_
      rw [hnext, if_pos hdone]
      exact congrArg (Position.mk _) hstate.symm
  · rw [htp3] at hdone
    cases h
    refine (decided_of_progress hrestaged hprogress haborted).complete (fun _ => hactive) ?_
    rw [hnext, if_neg hdone, hrecord]

theorem processTargets_ok (hstate : s.record.currentState = .managing) (targets : List (ℕ × ℚ)) :
    ∃ s', s.processTargets clock bar targets = .ok s' := by
  rw [processTargets]
  obtain ⟨hrecord, -, -⟩ := foldl_creditTarget s clock bar targets
  generalize targets.foldl (fun s target => s.creditTarget clock bar target) s = t at hrecord
  split_ifs
  · rw [← hrecord] at hstate
    obtain ⟨u, hu⟩ := recordTerminalTransition_ok hstate (List.mem_cons_self ..)
    rw [hu]
    exact ⟨_, rfl⟩
  · exact ⟨_, rfl⟩

theorem processFilled_spec (hentry : s.progress.entryAt.isNone = false)
    (h : s.processFilled g clock bar = .ok s') : Completes g bar s s' := by
  rw [processFilled] at h
  split at h
  · cases h
  next breakeven hactive =>
    cases hstop : activeStopTouched bar g breakeven with
    | true =>
      rw [if_pos (show (if breakeven then _ else _) = true from hstop)] at h
      split at h
      · cases h
      next t ht =>
        cases h
        obtain ⟨hrecord, hstate, hprogress, haborted⟩ := recordStop_spec ht
        refine (decided_of_progress hrecord hprogress haborted).complete (fun _ => hactive) ?_
        rw [position_next_filled hentry, hstop, if_pos rfl, hstate]
    | false =>
      rw [if_neg (show ¬ (if breakeven then _ else _) = true from by
        rw [show (if breakeven then _ else _) = false from hstop]; decide)] at h
      exact processTargets_spec hentry hactive hstop h

/-- A candle that is processed is completed, if a plan that is not filled has an eligible
record. -/
theorem processPlan_spec (hmem : s.progress.entryAt = none → s.record.currentState ∈ outcomeEligible)
    (h : s.processPlan g clock bar = .ok s') : Completes g bar s s' := by
  rw [processPlan] at h
  split_ifs at h with hentry
  · exact processUnfilled_spec hentry (hmem (Option.isNone_iff_eq_none.1 hentry)) h
  · exact processFilled_spec (Bool.eq_false_of_not_eq_true hentry) h

/-- A candle is processed when the record is eligible, and managed if the plan is filled. -/
theorem processPlan_ok (hmem : s.progress.entryAt = none → s.record.currentState ∈ outcomeEligible)
    (hfilled : s.progress.entryAt.isSome = true → s.record.currentState = .managing ∧
      ∃ breakeven, protectionActive s.progress bar.openTimestamp = .ok breakeven) :
    ∃ s', s.processPlan g clock bar = .ok s' := by
  rw [processPlan]
  split_ifs with hentry
  · have heligible := hmem (Option.isNone_iff_eq_none.1 hentry)
    obtain ⟨-, hmanaging, -, -⟩ := activateEntry_spec s g clock bar heligible
    rw [processUnfilled_eq heligible]
    split_ifs
    · obtain ⟨t, ht⟩ := recordStop_ok hmanaging "entry_and_stop_same_candle_stop_wins" false
      rw [ht]
      exact ⟨_, rfl⟩
    · exact ⟨_, rfl⟩
    · exact ⟨_, rfl⟩
  · obtain ⟨hmanaging, breakeven, hactive⟩ := hfilled
      (Option.isSome_iff_ne_none.2 fun h => hentry (Option.isNone_iff_eq_none.2 h))
    rw [processFilled, hactive]
    dsimp only
    obtain ⟨t, ht⟩ : ∃ t, s.recordStop g clock bar
        (if newlyTouchedTargets bar g s.progress = [] then NA
          else "post_entry_stop_and_target_same_candle_stop_wins") breakeven = .ok t :=
      recordStop_ok hmanaging _ breakeven
    rw [ht]
    by_cases hstop : (if breakeven = true then referenceStopTouched bar g
        else stopTouched bar g) = true
    · rw [if_pos hstop]
      exact ⟨_, rfl⟩
    · rw [if_neg hstop]
      exact processTargets_ok hmanaging _

theorem processCandle_spec (hmem : s.progress.entryAt = none → s.record.currentState ∈ outcomeEligible)
    (haborted : s.aborted = false) (h : s.processCandle g clock bar = .ok s') :
    Completes g bar s s' ∧ s'.processed = s.processed + 1 ∧
      s'.rounds = s.rounds ++ [⟨s.progress, bar, s'.progress⟩] := by
  rw [processCandle] at h
  obtain ⟨t, ht, rfl⟩ := Scan.map_ok h
  have hspec := processPlan_spec hmem ht
  refine ⟨{ hspec with }, rfl, ?_⟩
  rw [logRound, if_neg]
  rw [hspec.aborted, haborted]
  exact Bool.false_ne_true

theorem processCandle_ok (hmem : s.progress.entryAt = none → s.record.currentState ∈ outcomeEligible)
    (hfilled : s.progress.entryAt.isSome = true → s.record.currentState = .managing ∧
      ∃ breakeven, protectionActive s.progress bar.openTimestamp = .ok breakeven) :
    ∃ s', s.processCandle g clock bar = .ok s' := by
  obtain ⟨t, ht⟩ : ∃ t, s.processPlan g clock bar = .ok t := processPlan_ok hmem hfilled
  rw [processCandle, ht]
  exact ⟨_, rfl⟩

end Candle

end Pass

section Scan

variable {g : StoredPlanGeometry}

def Milestones.next (m : Milestones) (bar : Bar) (g : StoredPlanGeometry) (breakeven : Bool) :
    Milestones :=
  (Position.next ⟨m, .managing⟩ bar g breakeven).milestones

theorem Position.next_milestones (x : Position) (bar : Bar) (g : StoredPlanGeometry)
    (breakeven : Bool) :
    (x.next bar g breakeven).milestones = x.milestones.next bar g breakeven := by
  unfold Milestones.next Position.next
  split_ifs <;> rfl

/-- A completed candle, as the row shows it. -/
structure Round.Sound (g : StoredPlanGeometry) (r : Round) : Prop where
  running : r.before.terminalOutcome = none
  milestones : ∃ breakeven,
    (r.before.entryAt.isSome = true →
      protectionActive r.before r.bar.openTimestamp = .ok breakeven) ∧
    r.after.toMilestones = r.before.toMilestones.next r.bar g breakeven
  cursor : r.after.toCursor = r.bar.cursor
  key : r.after.toProgressKey = r.before.toProgressKey
  trackingStart : r.after.trackingStartAt = r.before.trackingStartAt
  metadata : ∃ evidence, r.after.metadata = .ok { r.before.metadataOrEmpty with
    processedCandleCount := r.before.metadataOrEmpty.processedCandleCount + 1
    entryEvidence := evidence }
  verified : r.after.integrityStatus = .verified

theorem Pass.Completes.sound {s s' : Pass} {bar : Bar}
    (h : Completes g bar s s') (hrunning : s.progress.terminalOutcome = none) :
    Round.Sound g ⟨s.progress, bar, s'.progress⟩ where
  running := hrunning
  milestones := by
    obtain ⟨breakeven, hactive, hnext⟩ := h.position
    refine ⟨breakeven, hactive, ?_⟩
    have hmilestones := congrArg Position.milestones hnext
    rw [Position.next_milestones] at hmilestones
    exact hmilestones
  cursor := h.cursor
  key := h.key
  trackingStart := h.trackingStart
  metadata := h.metadata
  verified := h.verified

/-- Rounds that follow one another from a row to a row. -/
inductive Linked : OutcomeProgress → List Round → OutcomeProgress → Prop where
  | nil (p) : Linked p [] p
  | cons {r rest q} (h : Linked r.after rest q) : Linked r.before (r :: rest) q

theorem Linked.preserved {P : OutcomeProgress → Prop} {p q : OutcomeProgress}
    {rounds : List Round} (h : Linked p rounds q) (hP : ∀ r ∈ rounds, P r.before → P r.after)
    (hp : P p) : P q := by
  induction h with
  | nil => exact hp
  | @cons r rest q h ih =>
    exact ih (fun r' hr' => hP r' (List.mem_cons_of_mem _ hr')) (hP r (List.mem_cons_self ..) hp)

theorem Linked.kept {α : Type*} {f : OutcomeProgress → α} {p q : OutcomeProgress}
    {rounds : List Round} (h : Linked p rounds q) (hf : ∀ r ∈ rounds, f r.after = f r.before) :
    f q = f p :=
  h.preserved (P := fun x => f x = f p) (fun r hr hbefore => (hf r hr).trans hbefore) rfl

theorem Position.next_of_unfilled {x : Position} {bar : Bar}
    {breakeven : Bool} (h : (x.next bar g breakeven).milestones.entryAt = none) :
    x.next bar g breakeven = x := by
  revert h
  unfold Position.next
  split_ifs with hentry htouched hstop hactive hdone
  · exact fun h => by cases h
  · exact fun h => by cases h
  · exact fun _ => rfl
  all_goals
    intro h
    exact absurd (Option.isNone_iff_eq_none.2 h) hentry

def Pass.Eligible (s : Pass) : Prop :=
  s.progress.entryAt = none → s.record.currentState ∈ outcomeEligible

theorem Pass.Completes.eligible {s s' : Pass} {bar : Bar}
    (h : Completes g bar s s') (hmem : s.Eligible) : s'.Eligible := by
  intro hentry
  obtain ⟨breakeven, -, hnext⟩ := h.position
  have hsame : s'.position = s.position := by
    rw [hnext]
    apply Position.next_of_unfilled
    rw [← hnext]
    exact hentry
  have hstate : s'.record.currentState = s.record.currentState := congrArg Position.state hsame
  have hbefore : s.progress.entryAt = none := by
    rw [← hentry]
    exact (congrArg (fun x => x.milestones.entryAt) hsame).symm
  rw [hstate]
  exact hmem hbefore

/-- What the candle loop leaves: the rounds it has added lead from the row it started with to
the row it ended with, over the candles in order, all of them unless the plan has ended. -/
structure Scanned (g : StoredPlanGeometry) (bars : List Bar) (s s' : Pass) (rounds : List Round) :
    Prop where
  rounds_eq : s'.rounds = s.rounds ++ rounds
  processed_eq : s'.processed = s.processed + rounds.length
  linked : Linked s.progress rounds s'.progress
  sound : ∀ r ∈ rounds, r.Sound g
  bars_initial : rounds.map Round.bar <+: bars
  bars_eq : s'.progress.terminalOutcome = none → rounds.map Round.bar = bars
  record : s.record.Restaged s'.record
  aborted : s'.aborted = false

theorem Scanned.refl {bars : List Bar} {s : Pass}
    (haborted : s.aborted = false) (hbars : s.progress.terminalOutcome = none → bars = []) :
    Scanned g bars s s [] where
  rounds_eq := (List.append_nil _).symm
  processed_eq := rfl
  linked := .nil _
  sound r hr := by cases hr
  bars_initial := List.nil_prefix
  bars_eq h := (hbars h).symm
  record := .refl _
  aborted := haborted

theorem Pass.scan_spec {clock : Clock} {s s' : Pass} {bars : List Bar}
    (hmem : s.Eligible) (haborted : s.aborted = false) (h : s.scan g clock bars = .ok s') :
    ∃ rounds, Scanned g bars s s' rounds := by
  induction bars generalizing s with
  | nil =>
    cases h
    -- one round per candle that is processed; the loop stops at a row that has ended
    exact ⟨[], .refl haborted fun _ => rfl⟩
  | cons bar bars ih =>
    rw [scan, Scan.runUntil] at h
    cases hdone : s.done with
    | true =>
      rw [hdone, if_pos rfl] at h
      cases h
      refine ⟨[], .refl haborted fun hnone => ?_⟩
      rw [done, hnone, haborted] at hdone
      exact absurd hdone (by decide)
    | false =>
      rw [hdone, if_neg Bool.false_ne_true] at h
      have hrunning : s.progress.terminalOutcome = none := by
        rw [done, Bool.or_eq_false_iff] at hdone
        exact Option.isNone_iff_eq_none.1 (by simpa using hdone.1)
      cases ht : s.processCandle g clock bar with
      | error e =>
        rw [ht] at h
        cases h
      | ok t =>
        rw [ht] at h
        obtain ⟨hcompletes, hprocessed, hrounds⟩ := processCandle_spec hmem haborted ht
        obtain ⟨rounds, hrest⟩ :=
          ih (hcompletes.eligible hmem) (hcompletes.aborted.trans haborted) h
        refine ⟨⟨s.progress, bar, t.progress⟩ :: rounds, ?_⟩
        refine ⟨?_, ?_, Linked.cons (r := ⟨s.progress, bar, t.progress⟩) hrest.linked, ?_, ?_, ?_,
          hcompletes.record.trans hrest.record, hrest.aborted⟩
        · rw [hrest.rounds_eq, hrounds, List.append_assoc]
          rfl
        · rw [hrest.processed_eq, hprocessed, List.length_cons]
          omega
        · intro r hr
          rcases List.mem_cons.1 hr with rfl | hr
          · exact hcompletes.sound hrunning
          · exact hrest.sound r hr
        · exact List.cons_prefix_cons.2 ⟨rfl, hrest.bars_initial⟩
        · intro hnone
          exact congrArg (bar :: ·) (hrest.bars_eq hnone)

end Scan

end CandleCraft.Lifecycle
