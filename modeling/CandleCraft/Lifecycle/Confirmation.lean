import CandleCraft.Lifecycle.Legality

/-!
# Confirmation over whole runs

A run of `evaluate_lifecycle_transition` on one lifecycle, with the observation and the
record of every step, newest first. The confirmation count of a record is related to the
observations of its run, and the confirmation stamp to the observation that wrote it.
-/

namespace CandleCraft.Lifecycle

open Candles SetupLifecycleState

section Runs

/-- One evaluation of a run. -/
structure ObservationStep where
  before : Option SetupLifecycleRecord
  observation : LifecycleObservation
  call : LifecycleCall
  after : SetupLifecycleRecord

namespace ObservationStep

variable (s : ObservationStep)

/-- The observation as it is evaluated: with the stored plan when the stored entry zone was
touched. -/
def evaluated : LifecycleObservation :=
  match s.before with
  | none => s.observation
  | some record => effectiveObservation record s.observation

/-- Whether the observation matched the record it was applied to. The observation that
creates the record matches it. -/
def matched : Bool :=
  match s.before with
  | none => true
  | some record => setupConsistent record s.evaluated s.call.setupTolerancePct

def countsMatched : Bool := s.evaluated.confirmationCountable && s.matched

def countBefore : ℕ := (s.before.map fun record => record.confirmationCount).getD 0

/-- A step after which the count starts again: it is zero, or it was restarted by a countable
observation that did not match. -/
def resets : Bool :=
  decide (s.after.confirmationCount = 0) || (s.evaluated.confirmationCountable && !s.matched)

def Enters (state : SetupLifecycleState) : Prop :=
  s.after.currentState = state ∧ ∀ record, s.before = some record → record.currentState ≠ state

end ObservationStep

/-- The runs on one lifecycle, newest step first, with the record they end in. -/
inductive LifecycleRun (sha256 : String → String) :
    List ObservationStep → SetupLifecycleRecord → Prop where
  | created {o call t} (h : evaluateLifecycleTransition sha256 none o call = .ok t) :
      LifecycleRun sha256 [⟨none, o, call, t.record⟩] t.record
  | observed {steps record o call t} (run : LifecycleRun sha256 steps record)
      (h : evaluateLifecycleTransition sha256 (some record) o call = .ok t) :
      LifecycleRun sha256 (⟨some record, o, call, t.record⟩ :: steps) t.record

def sinceReset (steps : List ObservationStep) : List ObservationStep :=
  steps.takeWhile fun s => !s.resets

end Runs

section Creation

variable (sha256 : String → String) (o : LifecycleObservation) (call : LifecycleCall)

def createdResult : SetupTransitionResult :=
  withEconomicIdentities o sha256 none (creationResult o call (gateNewRecord (newRecord o call)))

variable {o} in
theorem evaluateLifecycleTransition_none (h : PyText.strip o.symbol ≠ "") :
    evaluateLifecycleTransition sha256 none o call = .ok (createdResult sha256 o call) := by
  unfold evaluateLifecycleTransition
  rw [createLifecycle, if_neg h]
  rfl

variable {sha256 o call} in
theorem eq_createdResult {t : SetupTransitionResult}
    (h : evaluateLifecycleTransition sha256 none o call = .ok t) :
    t = createdResult sha256 o call := by
  by_cases hsymbol : PyText.strip o.symbol = ""
  · unfold evaluateLifecycleTransition at h
    rw [createLifecycle, if_pos hsymbol] at h
    cases h
  · rw [evaluateLifecycleTransition_none sha256 call hsymbol] at h
    exact (Except.ok.inj h).symm

theorem gateNewRecord_cases (record : SetupLifecycleRecord) :
    (gateNewRecord record = record ∧ PlanAccepted record) ∨
    ((gateNewRecord record).currentState = .rejected ∧
      (gateNewRecord record).confirmationCount = record.confirmationCount ∧
      storedPlanGeometryFailure record ≠ none) := by
  unfold gateNewRecord
  split
  next hnone => exact .inl ⟨rfl, fun _ => hnone⟩
  next failure hfailure =>
    split_ifs with hactive
    · exact .inr ⟨rfl, rfl, by rw [hfailure]; exact Option.some_ne_none _⟩
    · exact .inl ⟨rfl, fun h => absurd h hactive⟩

theorem gateNewRecord_confirmationCount (record : SetupLifecycleRecord) :
    (gateNewRecord record).confirmationCount = record.confirmationCount := by
  rcases gateNewRecord_cases record with ⟨hsame, -⟩ | ⟨-, hcount, -⟩
  · rw [hsame]
  · exact hcount

theorem gateNewRecord_planAccepted (record : SetupLifecycleRecord) :
    PlanAccepted (gateNewRecord record) := by
  rcases gateNewRecord_cases record with ⟨hsame, haccepted⟩ | ⟨hrejected, -⟩
  · rw [hsame]
    exact haccepted
  · intro hactive
    rw [hrejected] at hactive
    exact absurd hactive (by decide)

theorem createdResult_settled :
    (createdResult sha256 o call).record.settled =
      (gateNewRecord (newRecord o call)).settled := by
  rw [createdResult, withEconomicIdentities_settled, creationResult]

theorem createdResult_confirmationCount :
    (createdResult sha256 o call).record.confirmationCount = initialConfirmationCount o := by
  rw [confirmationCount_of_settled (createdResult_settled sha256 o call),
    gateNewRecord_confirmationCount, newRecord]

theorem createdResult_currentState :
    (createdResult sha256 o call).record.currentState = proposedInitialState o call ∨
    (createdResult sha256 o call).record.currentState = .rejected := by
  rw [createdResult, withEconomicIdentities_currentState, creationResult]
  dsimp only
  rcases gateNewRecord_cases (newRecord o call) with ⟨hsame, -⟩ | ⟨hrejected, -⟩
  · rw [hsame, newRecord]
    exact .inl rfl
  · exact .inr hrejected

theorem createdResult_planAccepted : PlanAccepted (createdResult sha256 o call).record := by
  refine (gateNewRecord_planAccepted (newRecord o call)).congr ?_
    (createdResult_settled sha256 o call) ?_
  · rw [createdResult, withEconomicIdentities_currentState, creationResult]
  · rw [createdResult, withEconomicIdentities_texts, creationResult]

end Creation

section Count

variable (record : SetupLifecycleRecord) (o : LifecycleObservation) (call : LifecycleCall)

theorem effectiveObservation_terminal : (effectiveObservation record o).terminal = o.terminal := by
  unfold effectiveObservation
  split_ifs <;> rfl

theorem nextConfirmationCount_cases (consistent : Bool) :
    nextConfirmationCount record o call consistent = 0 ∨
    (o.terminal = false ∧
      nextConfirmationCount record o call consistent = record.confirmationCount) ∨
    (o.terminal = false ∧ o.confirmationCountable = true ∧ consistent = true ∧
      nextConfirmationCount record o call consistent ≤ record.confirmationCount + 1) ∨
    (o.terminal = false ∧ o.confirmationCountable = true ∧ consistent = false ∧
      nextConfirmationCount record o call consistent = 1) := by
  unfold nextConfirmationCount
  cases hterminal : o.terminal with
  | true => exact .inl rfl
  | false =>
    rw [if_neg Bool.false_ne_true]
    split_ifs with hfresh hheld hcountable hconsistent hkept
    · exact .inr (.inl ⟨rfl, rfl⟩)
    · exact .inl rfl
    · exact .inr (.inr (.inl ⟨rfl, hcountable, hconsistent, min_le_left _ _⟩))
    · exact .inr (.inr (.inr ⟨rfl, hcountable, Bool.eq_false_of_not_eq_true hconsistent, rfl⟩))
    · exact .inr (.inl ⟨rfl, rfl⟩)
    · exact .inl rfl

theorem recordWithObservation_confirmationCount :
    (recordWithObservation record o call).confirmationCount =
      nextConfirmationCount record o call (setupConsistent record o call.setupTolerancePct) :=
  congrArg Confirmation.confirmationCount (recordWithObservation_toConfirmation record o call)

theorem recordWithObservation_requiredConfirmationCycles :
    (recordWithObservation record o call).requiredConfirmationCycles = call.requiredCycles :=
  congrArg Confirmation.requiredConfirmationCycles (recordWithObservation_toConfirmation record o call)

theorem terminal_of_observedState (h : o.observedState ∈ [tpHit, slHit, breakeven]) :
    o.terminal = true := by
  cases htp : o.tpHit with
  | true => simp [LifecycleObservation.terminal, htp]
  | false =>
    cases hsl : o.slHit with
    | true => simp [LifecycleObservation.terminal, hsl]
    | false =>
      have hobserved : o.observedState ∈ {state | state ∉ [tpHit, slHit, breakeven]} := by
        unfold LifecycleObservation.observedState
        rw [htp, hsl, if_neg Bool.false_ne_true, if_neg Bool.false_ne_true]
        repeat' apply iteInduction <;> intro
        all_goals decide
      exact absurd h hobserved

theorem terminal_of_gatedTarget (h : gatedTarget record o ∈ [tpHit, slHit, breakeven]) :
    o.terminal = true := by
  have hdisjoint : ∀ state ∈ [triggered, stalking, watchlisted, discovered],
      state ∉ [tpHit, slHit, breakeven] := by decide
  revert h
  unfold gatedTarget confirmationGatedTarget
  split_ifs
  · exact terminal_of_observedState o
  · exact fun h => absurd h (hdisjoint _ (preConfirmationState_mem o))
  · exact terminal_of_observedState o

theorem terminal_of_nextState (now : Instant)
    (h : nextStateForObservation record o now ∈ [tpHit, slHit, breakeven]) : o.terminal = true := by
  have htarget := terminal_of_gatedTarget record o
  suffices hnext : nextStateForObservation record o now ∈
      {state | state ∈ [tpHit, slHit, breakeven] → o.terminal = true} from hnext h
  clear h
  unfold nextStateForObservation
  generalize gatedTarget record o = target at htarget
  cases record.currentState
  all_goals
    try unfold nextFromConfirmed
    try unfold nextFromTriggered
    repeat' apply iteInduction <;> intro
  all_goals first
    | exact fun h => absurd h (by decide)
    | exact htarget
    | exact fun _ => by simp_all [LifecycleObservation.terminal]

/-- A state past the confirmation is the target of the observation, or follows one past it. -/
theorem nextStateForObservation_gated (now : Instant)
    (h : nextStateForObservation record o now ∈ confirmationGated) :
    nextStateForObservation record o now = gatedTarget record o ∨
    (record.currentState ∈ confirmationGated ∧
      progressionRank record.currentState ≤
        progressionRank (nextStateForObservation record o now)) := by
  suffices hnext : nextStateForObservation record o now ∈
      {state | state ∈ confirmationGated → state = gatedTarget record o ∨
        (record.currentState ∈ confirmationGated ∧
          progressionRank record.currentState ≤ progressionRank state)} from hnext h
  clear h
  unfold nextStateForObservation
  generalize gatedTarget record o = target
  cases record.currentState
  all_goals
    dsimp only
    try unfold nextFromConfirmed
    try unfold nextFromTriggered
    repeat' apply iteInduction <;> intro
  all_goals
    rw [Set.mem_ofPred_eq]
    intro hmem
    first
    | exact absurd hmem (by decide)
    | exact .inr (by decide)
    | exact .inl rfl
    | exact .inl (Eq.symm (by assumption))

/-- The target of an observation is past the confirmation only when it is CONFIRMED, the
observation is ready and the count is complete. -/
theorem gatedTarget_gated (h : gatedTarget record o ∈ confirmationGated) :
    gatedTarget record o = .confirmed ∧ o.confirmedReady = true ∧
      record.requiredConfirmationCycles ≤ record.confirmationCount := by
  have hdisjoint : ∀ state ∈ [triggered, stalking, watchlisted, discovered],
      state ∉ confirmationGated := by decide
  have hobserved := observedState_mem o
  revert h
  unfold gatedTarget confirmationGatedTarget
  generalize o.observedState = state at hobserved
  split_ifs with hgated hcomplete
  · intro h
    refine ⟨?_, hcomplete.2, hcomplete.1⟩
    revert h hobserved
    cases state <;> decide
  · exact fun h => absurd h (hdisjoint _ (preConfirmationState_mem o))
  · exact fun h => absurd h hgated

theorem ready_of_observedState (h : o.observedState = .confirmed) : o.confirmedReady = true := by
  by_contra hready
  have hobserved : o.observedState ∈ {state | state ≠ .confirmed} := by
    unfold LifecycleObservation.observedState
    rw [if_neg hready]
    repeat' apply iteInduction <;> intro
    all_goals decide
  exact hobserved h

theorem initialNonTriggerState_mem : o.initialNonTriggerState ∈
    [invalidated, expired, stalking, watchlisted, rejected, discovered, triggered] := by
  unfold LifecycleObservation.initialNonTriggerState
  split_ifs <;> decide

theorem initialPreConfirmationState_mem : o.initialPreConfirmationState ∈
    [invalidated, expired, stalking, watchlisted, rejected, discovered, triggered] := by
  unfold LifecycleObservation.initialPreConfirmationState
  split_ifs
  · exact initialNonTriggerState_mem o
  · have hsub : [triggered, stalking, watchlisted, discovered] ⊆
        [invalidated, expired, stalking, watchlisted, rejected, discovered, triggered] := by decide
    exact hsub (preConfirmationState_mem o)

theorem initialState_cases : o.initialState = o.observedState ∨ o.initialState ∈
    [invalidated, expired, stalking, watchlisted, rejected, discovered, triggered] := by
  have hobserved := observedState_mem o
  unfold LifecycleObservation.initialState
  by_cases hfresh : o.hasEssentialFreshnessFailure = true
  · rw [if_pos hfresh]
    exact .inr (by decide)
  · rw [if_neg hfresh]
    revert hobserved
    cases o.observedState with
    | triggered =>
      intro _
      split_ifs
      · exact .inr (initialNonTriggerState_mem o)
      · exact .inl rfl
    | executing | managing => exact fun h => absurd h (by decide)
    | _ => exact fun _ => .inl rfl

/-- A first observation is given the state it points to, a complete count with it when that
state is past the confirmation, or one of the states before it. -/
theorem proposedInitialState_cases :
    (proposedInitialState o call = o.observedState ∧
      (o.observedState ∈ confirmationGated → call.requiredCycles ≤ initialConfirmationCount o)) ∨
    proposedInitialState o call ∈
      [invalidated, expired, stalking, watchlisted, rejected, discovered, triggered] := by
  unfold proposedInitialState
  split_ifs with hgated
  · exact .inr (initialPreConfirmationState_mem o)
  · rcases initialState_cases o with hobserved | hmem
    · rw [hobserved] at hgated ⊢
      exact .inl ⟨rfl, fun hmem => not_lt.1 fun hlt => hgated ⟨hmem, hlt⟩⟩
    · exact .inr hmem

end Count

section Gating

/-- The runs on which the count is what it stands for: every countable observation matches its
record, no terminal observation is held for its freshness, and none creates the record. -/
structure ObservationStep.Regular (s : ObservationStep) : Prop where
  matched : s.evaluated.confirmationCountable = true → s.matched = true
  not_held : ∀ record, s.before = some record → holdsOwner record s.evaluated →
    s.observation.terminal = false
  created : s.before = none → s.observation.terminal = false

/-- The count of a record is backed by the observations since it was last reset, and no
terminal observation is among them unless a refused plan blocks the record. A record with a
take profit or a stop has no count. -/
structure Counted (steps : List ObservationStep) (record : SetupLifecycleRecord) : Prop where
  count_le : record.confirmationCount ≤ (sinceReset steps).countP ObservationStep.countsMatched
  uninterrupted : PlanAccepted record → ∀ s ∈ sinceReset steps, s.observation.terminal = false
  ended : record.currentState ∈ [tpHit, slHit, breakeven] → record.confirmationCount = 0

variable {sha256 : String → String} {steps : List ObservationStep} {s : ObservationStep}
  {record : SetupLifecycleRecord}

theorem ObservationStep.Regular.resets_iff (h : s.Regular) :
    s.resets = true ↔ s.after.confirmationCount = 0 := by
  have hmatched : (s.evaluated.confirmationCountable && !s.matched) = false := by
    cases hcountable : s.evaluated.confirmationCountable with
    | false => rfl
    | true => rw [h.matched hcountable]; rfl
  rw [resets, hmatched, Bool.or_false, decide_eq_true_iff]

/-- A step keeps the count backed when it resets it, or raises it by at most its own
observation and is not terminal. -/
theorem Counted.step (h : s.Regular)
    (hended : s.after.currentState ∈ [tpHit, slHit, breakeven] → s.after.confirmationCount = 0)
    (hstep : s.after.confirmationCount ≠ 0 →
      s.after.confirmationCount ≤
        (sinceReset steps).countP ObservationStep.countsMatched + s.countsMatched.toNat ∧
      (PlanAccepted s.after → s.observation.terminal = false ∧
        ∀ t ∈ sinceReset steps, t.observation.terminal = false)) :
    Counted (s :: steps) s.after := by
  by_cases hzero : s.after.confirmationCount = 0
  · have hempty : sinceReset (s :: steps) = [] := by
      rw [sinceReset, List.takeWhile_cons_of_neg]
      rw [h.resets_iff.2 hzero]
      exact Bool.false_ne_true
    refine ⟨by rw [hzero]; exact Nat.zero_le _, fun _ t ht => ?_, hended⟩
    rw [hempty] at ht
    cases ht
  · have hcons : sinceReset (s :: steps) = s :: sinceReset steps := by
      rw [sinceReset, List.takeWhile_cons_of_pos]
      · rfl
      · rw [Bool.eq_false_of_not_eq_true fun hreset => hzero (h.resets_iff.1 hreset)]
        rfl
    obtain ⟨hcount, hwindow⟩ := hstep hzero
    refine ⟨?_, fun haccepted t ht => ?_, hended⟩
    · rw [hcons, List.countP_cons]
      refine hcount.trans (Nat.add_le_add_left ?_ _)
      cases s.countsMatched <;> simp
    · rw [hcons] at ht
      rcases List.mem_cons.1 ht with rfl | ht
      · exact (hwindow haccepted).1
      · exact (hwindow haccepted).2 t ht

variable (sha256) (o : LifecycleObservation) (call : LifecycleCall)

def observedStep (record : SetupLifecycleRecord) : ObservationStep where
  before := some record
  observation := o
  call := call
  after := (observedResult record o call sha256).record

theorem observedStep_evaluated :
    (observedStep sha256 o call record).evaluated = effectiveObservation record o :=
  rfl

theorem observedStep_matched :
    (observedStep sha256 o call record).matched =
      setupConsistent record (effectiveObservation record o) call.setupTolerancePct :=
  rfl

variable (record) in
theorem observedStep_after :
    (observedStep sha256 o call record).after.currentState =
        (observeRecord record o call).record.currentState ∧
      (observedStep sha256 o call record).after.settled =
        (observeRecord record o call).record.settled ∧
      (PlanAccepted (observedStep sha256 o call record).after ↔
        PlanAccepted (observeRecord record o call).record) := by
  have hstate := observedResult_currentState sha256 record o call
  have hsettled := observedResult_settled sha256 record o call
  have htexts := observedResult_texts sha256 record o call
  exact ⟨hstate, hsettled, fun h => h.congr hstate.symm hsettled.symm htexts.symm,
    fun h => h.congr hstate hsettled htexts⟩

theorem proposal_of_ended (h : record.currentState ∈ [tpHit, slHit, breakeven]) :
    (proposal record o call).nextState = .cooldown := by
  have hcooldown : freshState record o call = .cooldown := by
    rw [freshState, nextStateForObservation, recordWithObservation_currentState]
    revert h
    generalize record.currentState = state
    cases state <;> first | exact fun _ => rfl | exact fun h => absurd h (by decide)
  rcases proposal_nextState_cases record o call with ⟨hfresh, -⟩ | ⟨-, hactive⟩ | ⟨hmem, hallowed⟩
  · rw [hfresh, hcooldown]
  · rw [hcooldown] at hactive
    exact absurd hactive (by decide)
  · revert h hmem hallowed
    generalize record.currentState = state
    generalize (proposal record o call).nextState = next
    cases state <;> cases next <;> decide

/-- A record that an observation leaves with a take profit or a stop has no count. -/
theorem observeRecord_ended
    (h : record.currentState ∈ [tpHit, slHit, breakeven] → record.confirmationCount = 0)
    (hafter : (observeRecord record o call).record.currentState ∈ [tpHit, slHit, breakeven]) :
    (observeRecord record o call).record.confirmationCount = 0 := by
  rcases observeRecord_cases record o call with ⟨hstate, hsettled, -⟩ |
    ⟨-, -, hsettled, hmoved | ⟨hsame, -⟩⟩
  · rw [confirmationCount_of_settled hsettled]
    exact h (hstate ▸ hafter)
  · rw [hmoved] at hafter
    rw [confirmationCount_of_settled hsettled, recordWithObservation_confirmationCount]
    by_cases hended : record.currentState ∈ [tpHit, slHit, breakeven]
    · rw [proposal_of_ended _ _ hended] at hafter
      exact absurd hafter (by decide)
    · have hterminal : (effectiveObservation record o).terminal = true := by
        rcases proposal_nextState_cases record (effectiveObservation record o) call with
          ⟨hfresh, -⟩ | ⟨hstay, -⟩ | ⟨hmem, -⟩
        · rw [hfresh] at hafter
          exact terminal_of_nextState _ _ _ hafter
        · rw [hstay] at hafter
          exact absurd hafter hended
        · have hdisjoint : ∀ state ∈ [rejected, expired], state ∉ [tpHit, slHit, breakeven] := by
            decide
          exact absurd hafter (hdisjoint _ hmem)
      rw [nextConfirmationCount, if_pos hterminal]
  · rw [hsame] at hafter
    exact absurd hafter (by decide)

theorem Counted.observed (h : Counted steps record)
    (hregular : (observedStep sha256 o call record).Regular) :
    Counted (observedStep sha256 o call record :: steps) (observedStep sha256 o call record).after := by
  obtain ⟨hstate, hafter, haccepted⟩ := observedStep_after sha256 record o call
  have hcount := confirmationCount_of_settled hafter
  refine Counted.step hregular (fun hended => ?_) fun hpositive => ?_
  · rw [hcount]
    rw [hstate] at hended
    exact observeRecord_ended o call h.ended hended
  rw [hcount] at hpositive ⊢
  rw [haccepted]
  rcases observeRecord_cases record o call with ⟨hsame, hsettled, htexts, hwhy⟩ |
    ⟨hopen, -, hsettled, -⟩
  · -- the record is kept: what it owes to the window is what it owed before
    rw [confirmationCount_of_settled hsettled] at hpositive ⊢
    refine ⟨h.count_le.trans (Nat.le_add_right _ _), fun hafter => ?_⟩
    have hbefore : PlanAccepted record := hafter.congr hsame.symm hsettled.symm htexts.symm
    refine ⟨?_, h.uninterrupted hbefore⟩
    rcases hwhy with hblocked | hended | hholds
    · exact absurd hbefore hblocked
    · exact absurd (h.ended hended) hpositive
    · exact hregular.not_held record rfl hholds
  · rw [confirmationCount_of_settled hsettled, recordWithObservation_confirmationCount] at hpositive ⊢
    have hwindow := h.uninterrupted hopen
    have hflag := effectiveObservation_terminal record o
    rcases nextConfirmationCount_cases record (effectiveObservation record o) call
        (setupConsistent record (effectiveObservation record o) call.setupTolerancePct) with
      hzero | ⟨hterminal, hkept⟩ | ⟨hterminal, hcountable, hconsistent, hraised⟩ |
      ⟨-, hcountable, hinconsistent, -⟩
    · exact absurd hzero hpositive
    · rw [hkept]
      exact ⟨h.count_le.trans (Nat.le_add_right _ _), fun _ => ⟨hflag.symm.trans hterminal, hwindow⟩⟩
    · have hcounts : (observedStep sha256 o call record).countsMatched = true := by
        rw [ObservationStep.countsMatched, observedStep_evaluated, observedStep_matched, hcountable,
          hconsistent]
        rfl
      rw [hcounts]
      exact ⟨hraised.trans (Nat.add_le_add_right h.count_le 1),
        fun _ => ⟨hflag.symm.trans hterminal, hwindow⟩⟩
    · have hmatched := hregular.matched hcountable
      rw [observedStep_matched, hinconsistent] at hmatched
      exact absurd hmatched Bool.false_ne_true

def createdStep : ObservationStep where
  before := none
  observation := o
  call := call
  after := (createdResult sha256 o call).record

theorem createdStep_after : (createdStep sha256 o call).after = (createdResult sha256 o call).record :=
  rfl

theorem Counted.created (hregular : (createdStep sha256 o call).Regular) :
    Counted [createdStep sha256 o call] (createdStep sha256 o call).after := by
  have hterminal : o.terminal = false := hregular.created rfl
  have hcount : (createdStep sha256 o call).after.confirmationCount = initialConfirmationCount o := by
    rw [createdStep_after, createdResult_confirmationCount]
  have hstate : (createdStep sha256 o call).after.currentState ∉ [tpHit, slHit, breakeven] := by
    rw [createdStep_after]
    rcases createdResult_currentState sha256 o call with h | h
    · rw [h]
      rcases proposedInitialState_cases o call with ⟨hobserved, -⟩ | hmem
      · rw [hobserved]
        intro hended
        rw [terminal_of_observedState o hended] at hterminal
        cases hterminal
      · revert hmem
        generalize proposedInitialState o call = state
        cases state <;> decide
    · rw [h]
      decide
  refine Counted.step hregular (fun hended => absurd hended hstate) fun hpositive => ?_
  refine ⟨?_, fun _ => ⟨hterminal, fun t ht => by cases ht⟩⟩
  rw [hcount] at hpositive ⊢
  unfold initialConfirmationCount at hpositive ⊢
  by_cases hcountable : o.confirmationCountable = true
  · have hcounts : (createdStep sha256 o call).countsMatched = true := by
      show (o.confirmationCountable && true) = true
      rw [hcountable]
      rfl
    rw [if_pos hcountable, hcounts]
    exact Nat.le_add_left _ _
  · exact absurd (if_neg hcountable) hpositive

variable {sha256 o call} in
theorem LifecycleRun.counted (run : LifecycleRun sha256 steps record)
    (hregular : ∀ s ∈ steps, s.Regular) : Counted steps record := by
  induction run with
  | created h =>
    rw [eq_createdResult h] at hregular ⊢
    exact Counted.created sha256 _ _ (hregular _ (List.mem_cons_self ..))
  | observed run h ih =>
    rw [evaluateLifecycleTransition_some, Except.ok.injEq] at h
    rw [← h] at hregular ⊢
    exact Counted.observed sha256 _ _ (ih fun s hs => hregular s (List.mem_cons_of_mem _ hs))
      (hregular _ (List.mem_cons_self ..))

/-- An observation that moves a record into CONFIRMED, or from a state before it into one past
it, moves it to CONFIRMED, is ready and completes the count. -/
theorem observeRecord_gated
    (hafter : (observeRecord record o call).record.currentState ∈ confirmationGated)
    (hbefore : progressionRank (observeRecord record o call).record.currentState <
        progressionRank record.currentState ∨ record.currentState ∉ confirmationGated) :
    (observeRecord record o call).record.currentState = .confirmed ∧
      (effectiveObservation record o).confirmedReady = true ∧
      call.requiredCycles ≤ (observeRecord record o call).record.confirmationCount ∧
      PlanAccepted (observeRecord record o call).record := by
  have hmoves : (observeRecord record o call).record.currentState ≠ record.currentState := by
    intro hsame
    rw [hsame] at hafter hbefore
    exact hbefore.elim (lt_irrefl _) fun h => h hafter
  rcases observeRecord_cases record o call with ⟨hsame, -⟩ |
    ⟨hopen, -, hsettled, hmoved | ⟨hsame, hstate⟩⟩
  · exact absurd hsame hmoves
  · rcases proposal_nextState_cases record (effectiveObservation record o) call with
      ⟨hfresh, hplan⟩ | ⟨hstay, -⟩ | ⟨hmem, -⟩
    · have hnext := hmoved.trans hfresh
      rw [hnext] at hafter hbefore
      unfold freshState at *
      rcases nextStateForObservation_gated _ _ _ hafter with htarget | ⟨hgated, hrank⟩
      · rw [htarget] at hafter
        obtain ⟨hconfirmed, hready, hcount⟩ := gatedTarget_gated _ _ hafter
        rw [recordWithObservation_requiredConfirmationCycles] at hcount
        refine ⟨(hnext.trans htarget).trans hconfirmed, hready, ?_, ?_⟩
        · rw [confirmationCount_of_settled hsettled]
          exact hcount
        · refine (observeRecord_planAccepted_iff o call hopen).2 fun htriggered => .inl ?_
          have heffective : effectiveObservation record o = o :=
            effectiveObservation_of_not_monitor (by rw [htriggered]; decide)
          rw [heffective] at hplan htarget hconfirmed
          rw [← refreshed_accepted_iff o call htriggered]
          apply hplan
          rw [htarget, hconfirmed]
          decide
      · rw [recordWithObservation_currentState] at hgated hrank
        exact (hbefore.elim (not_lt.2 hrank) fun h => h hgated).elim
    · exact absurd (hmoved.trans hstay) hmoves
    · have hdisjoint : ∀ state ∈ [rejected, expired], state ∉ confirmationGated := by decide
      rw [hmoved] at hafter
      exact absurd hafter (hdisjoint _ hmem)
  · exact absurd (hsame.trans hstate.symm) hmoves

/-- A first observation that confirms the record is ready and completes the count alone. -/
theorem createdResult_gated
    (h : (createdResult sha256 o call).record.currentState ∈ confirmationGated) :
    (createdResult sha256 o call).record.currentState = .confirmed ∧
      o.confirmedReady = true ∧
      call.requiredCycles ≤ (createdResult sha256 o call).record.confirmationCount := by
  rw [createdResult_confirmationCount]
  rcases createdResult_currentState sha256 o call with hstate | hstate
  · rw [hstate] at h ⊢
    rcases proposedInitialState_cases o call with ⟨hobserved, hcount⟩ | hmem
    · rw [hobserved] at h ⊢
      have hconfirmed : o.observedState = .confirmed := by
        have hmem := observedState_mem o
        revert h hmem
        generalize o.observedState = state
        cases state <;> decide
      exact ⟨hconfirmed, ready_of_observedState o hconfirmed, hcount h⟩
    · have hdisjoint : ∀ state ∈ [invalidated, expired, stalking, watchlisted, rejected, discovered,
          triggered], state ∉ confirmationGated := by decide
      exact absurd h (hdisjoint _ hmem)
  · rw [hstate] at h
    exact absurd h (by decide)

variable {sha256 o call}

/-- A record past the confirmation was confirmed at a step of its run. -/
theorem LifecycleRun.entered (run : LifecycleRun sha256 steps record)
    (h : record.currentState ∈ confirmationGated) : ∃ s ∈ steps, s.Enters .confirmed := by
  induction run with
  | created hresult =>
    rw [eq_createdResult hresult] at h ⊢
    exact ⟨_, List.mem_cons_self .., (createdResult_gated sha256 _ _ h).1, fun _ hbefore => by
      cases hbefore⟩
  | @observed steps before o call t run hresult ih =>
    by_cases hbefore : before.currentState ∈ confirmationGated
    · obtain ⟨s, hs, henters⟩ := ih hbefore
      exact ⟨s, List.mem_cons_of_mem _ hs, henters⟩
    · rw [evaluateLifecycleTransition_some, Except.ok.injEq] at hresult
      rw [← hresult, observedResult_currentState] at h
      refine ⟨_, List.mem_cons_self .., ?_, ?_⟩
      · rw [← hresult]
        rw [observedResult_currentState]
        exact (observeRecord_gated o call h (.inr hbefore)).1
      · rintro _ ⟨⟩ hconfirmed
        rw [hconfirmed] at hbefore
        exact hbefore (by decide)

/-- A step into CONFIRMED is made on a ready observation and completes the count, with a plan
that is accepted. -/
theorem LifecycleRun.enters_confirmed (run : LifecycleRun sha256 (s :: steps) record)
    (h : s.Enters .confirmed) :
    s.evaluated.confirmedReady = true ∧ s.call.requiredCycles ≤ record.confirmationCount ∧
      PlanAccepted record := by
  obtain ⟨hafter, hbefore⟩ := h
  cases run with
  | created hresult =>
    rw [eq_createdResult hresult] at hafter ⊢
    obtain ⟨-, hready, hcount⟩ := createdResult_gated sha256 _ _ (by rw [hafter]; decide)
    exact ⟨hready, hcount, createdResult_planAccepted sha256 _ _⟩
  | @observed _ before o call t run hresult =>
    rw [evaluateLifecycleTransition_some, Except.ok.injEq] at hresult
    rw [← hresult] at hafter ⊢
    rw [observedResult_currentState] at hafter
    have hrank : progressionRank (observeRecord before o call).record.currentState <
        progressionRank before.currentState ∨ before.currentState ∉ confirmationGated := by
      have hne := hbefore before rfl
      rw [hafter]
      revert hne
      generalize before.currentState = state
      cases state <;> decide
    obtain ⟨-, hready, hcount, haccepted⟩ :=
      observeRecord_gated o call (by rw [hafter]; decide) hrank
    obtain ⟨-, hsettled, hafterAccepted⟩ := observedStep_after sha256 before o call
    exact ⟨hready, hcount.trans (confirmationCount_of_settled hsettled).ge,
      hafterAccepted.2 haccepted⟩

/-- On a regular run, a step enters CONFIRMED on a ready observation, after as many countable
observations that matched their record as the call requires, its own among them, since the count
was last reset, and with no terminal observation among these. A record is past CONFIRMED only
after such a step. -/
theorem confirmed_after_required_cycles (run : LifecycleRun sha256 (s :: steps) record)
    (hregular : ∀ t ∈ s :: steps, t.Regular) :
    (s.Enters .confirmed →
      s.evaluated.confirmedReady = true ∧
      s.call.requiredCycles ≤
        (sinceReset (s :: steps)).countP ObservationStep.countsMatched ∧
      ∀ t ∈ sinceReset (s :: steps), t.observation.terminal = false) ∧
    (record.currentState ∈ confirmationGated → ∃ t ∈ s :: steps, t.Enters .confirmed) := by
  refine ⟨fun henters => ?_, run.entered⟩
  have hcounted := run.counted hregular
  obtain ⟨hready, hcount, haccepted⟩ := run.enters_confirmed henters
  exact ⟨hready, hcount.trans hcounted.count_le, hcounted.uninterrupted haccepted⟩

end Gating

section GatingSamples

def sampleAGrade : LifecycleObservation :=
  { sampleObservation with actionableAGradeCandidate := true }

def sampleReady : LifecycleObservation :=
  { sampleObservation with validTradeIdea := true }

variable {sha256 : String → String} {steps : List ObservationStep} {record : SetupLifecycleRecord}

theorem LifecycleRun.create {o : LifecycleObservation} (call : LifecycleCall)
    (h : PyText.strip o.symbol ≠ "") :
    LifecycleRun sha256 [createdStep sha256 o call] (createdStep sha256 o call).after :=
  .created (evaluateLifecycleTransition_none sha256 call h)

theorem LifecycleRun.observe (run : LifecycleRun sha256 steps record) (o : LifecycleObservation)
    (call : LifecycleCall) :
    LifecycleRun sha256 (observedStep sha256 o call record :: steps)
      (observedStep sha256 o call record).after :=
  .observed run (evaluateLifecycleTransition_some sha256 record o call)

/-- The steps of a watchlisted setup that is seen with another stop and then as it was. -/
def mismatchedSteps : List ObservationStep :=
  let first := createdStep id sampleObservation (sampleCall 0)
  let second := observedStep id { sampleAGrade with stopLoss := "80" } (sampleCall 60000000)
    first.after
  [observedStep id sampleReady (sampleCall 120000000) second.after, second, first]

/-- The count is restarted at one by an observation that does not match the record, whose plan is
locked: with two cycles required, CONFIRMED is entered on the only matching countable observation
of the run. -/
theorem mismatched_observation_confirms :
    (∃ record, LifecycleRun id mismatchedSteps record) ∧
    (mismatchedSteps.map fun s => s.call.requiredCycles) = [2, 2, 2] ∧
    (mismatchedSteps.map fun s => s.after.currentState) =
      [confirmed, actionableAGrade, watchlisted] ∧
    mismatchedSteps.countP ObservationStep.countsMatched = 1 := by
  refine ⟨⟨_, ((LifecycleRun.create _ (by decide)).observe _ _).observe _ _⟩, ?_⟩
  decide +kernel

/-- The steps of a setup that is seen as an A-grade one and then ready. -/
def confirmedSteps : List ObservationStep :=
  let first := createdStep id sampleAGrade (sampleCall 0)
  [observedStep id sampleReady (sampleCall 60000000) first.after, first]

theorem confirmedSteps_regular : ∀ s ∈ confirmedSteps, s.Regular := by
  simp only [confirmedSteps, List.mem_cons, List.not_mem_nil, or_false]
  rintro s (rfl | rfl)
  · exact ⟨by decide +kernel, fun _ _ _ => rfl, fun _ => rfl⟩
  · exact ⟨by decide +kernel, fun _ _ _ => rfl, fun _ => rfl⟩

theorem confirmedSteps_enters : ∀ s ∈ confirmedSteps.head?, s.Enters .confirmed := by
  rintro s ⟨⟩
  have hstates : (confirmedSteps.map fun s => s.after.currentState) =
      [confirmed, actionableAGrade] := by
    decide +kernel
  obtain ⟨hafter, hbefore⟩ := List.cons.inj hstates
  have hfirst : (createdStep id sampleAGrade (sampleCall 0)).after.currentState =
      actionableAGrade := (List.cons.inj hbefore).1
  refine ⟨hafter, fun record hrecord => ?_⟩
  rw [← Option.some.inj hrecord, hfirst]
  decide

/-- Two observations confirm the setup. -/
theorem confirmed_after_two_observations :
    2 ≤ (sinceReset confirmedSteps).countP ObservationStep.countsMatched := by
  have run : LifecycleRun id confirmedSteps _ := (LifecycleRun.create _ (by decide)).observe _ _
  exact ((confirmed_after_required_cycles run confirmedSteps_regular).1
    (confirmedSteps_enters _ rfl)).2.1

end GatingSamples

section Stamp

/-- The runs on which the count is completed by ready observations: the required count is the
same throughout, the observation that completes it is ready and finds an undecayed grade, and a
first observation that completes it alone is not terminal and has an accepted plan. -/
structure ObservationStep.CompletesReady (required : ℕ) (s : ObservationStep) : Prop where
  requiredCycles : s.call.requiredCycles = required
  ready : s.evaluated.confirmationCountable = true → s.observation.terminal = false →
    s.countBefore + 1 = required →
    s.evaluated.confirmedReady = true ∧ ∀ record, s.before = some record → record.decayCount = 0
  created : s.before = none → s.observation.confirmationCountable = true → required = 1 →
    s.observation.terminal = false ∧
      storedPlanGeometryFailure (newRecord s.observation s.call) = none

def StampedBy (steps : List ObservationStep) (record : SetupLifecycleRecord) : Prop :=
  ∃ s ∈ steps, s.evaluated.confirmedReady = true ∧
    record.confirmedAt = some (.instant s.call.evaluatedAt) ∧
    record.qualityGradeConfirmed = s.observation.qualityGradeOrScore

variable {sha256 : String → String} {steps : List ObservationStep} {record : SetupLifecycleRecord}
  {required : ℕ}

theorem LifecycleCall.requiredCycles_pos (call : LifecycleCall) : 0 < call.requiredCycles := by
  unfold LifecycleCall.requiredCycles
  omega

theorem LifecycleObservation.qualityGradeOrScore_ne_NA (o : LifecycleObservation) :
    o.qualityGradeOrScore ≠ NA := by
  unfold LifecycleObservation.qualityGradeOrScore
  split_ifs with hgrade
  · exact hgrade
  · dsimp only
    split_ifs <;> decide

theorem effectiveObservation_qualityGradeOrScore (o : LifecycleObservation) :
    (effectiveObservation record o).qualityGradeOrScore = o.qualityGradeOrScore := by
  unfold effectiveObservation
  split_ifs <;> rfl

theorem StampedBy.kept {record' : SetupLifecycleRecord} (s : ObservationStep)
    (h : StampedBy steps record) (htime : record'.confirmedAt = record.confirmedAt)
    (hgrade : record'.qualityGradeConfirmed = record.qualityGradeConfirmed) :
    StampedBy (s :: steps) record' := by
  obtain ⟨t, ht, hready, htime', hgrade'⟩ := h
  exact ⟨t, List.mem_cons_of_mem _ ht, hready, htime.trans htime', hgrade.trans hgrade'⟩

theorem observedConfirmation_stamp (record : SetupLifecycleRecord) (o : LifecycleObservation)
    (call : LifecycleCall) (consistent : Bool) :
    let c := observedConfirmation record o call consistent
    if stampsConfirmation record o call c.confirmationCount then
      c.confirmedAt = some (.instant call.evaluatedAt) ∧
        c.qualityGradeConfirmed = currentQualityGrade record o
    else c.confirmedAt = record.confirmedAt ∧
        c.qualityGradeConfirmed = record.qualityGradeConfirmed := by
  dsimp only [observedConfirmation]
  split_ifs <;> exact ⟨rfl, rfl⟩

/-- A count that an observation completes comes with its stamp; a count that was complete keeps
the stamp it has. -/
theorem recordWithObservation_stamped (o : LifecycleObservation) (call : LifecycleCall)
    (hready : o.confirmationCountable = true → o.terminal = false →
      record.confirmationCount + 1 = call.requiredCycles →
      o.confirmedReady = true ∧ record.decayCount = 0)
    (hcount : call.requiredCycles ≤ (recordWithObservation record o call).confirmationCount) :
    (call.requiredCycles ≤ record.confirmationCount ∧
      (recordWithObservation record o call).confirmedAt = record.confirmedAt ∧
      (recordWithObservation record o call).qualityGradeConfirmed = record.qualityGradeConfirmed) ∨
    (o.confirmedReady = true ∧
      (recordWithObservation record o call).confirmedAt = some (.instant call.evaluatedAt) ∧
      (recordWithObservation record o call).qualityGradeConfirmed = o.qualityGradeOrScore) := by
  have hcolumns := recordWithObservation_toConfirmation record o call
  have hstamp := observedConfirmation_stamp record o call
    (setupConsistent record o call.setupTolerancePct)
  rw [← hcolumns] at hstamp
  dsimp only at hstamp
  by_cases hcomplete : call.requiredCycles ≤ record.confirmationCount
  -- the count was complete before, and nothing is stamped again
  · have hkeeps : stampsConfirmation record o call
        (recordWithObservation record o call).confirmationCount = false := by
      rw [stampsConfirmation, decide_eq_false (not_lt.2 hcomplete), Bool.and_false, Bool.false_and]
    rw [hkeeps, if_neg Bool.false_ne_true] at hstamp
    exact .inl ⟨hcomplete, hstamp⟩
  · have hvalid : o.confirmationCountable = true ∧ o.terminal = false ∧
        -- this observation completes the count: the other ways to go on leave it too small
        record.confirmationCount + 1 = call.requiredCycles := by
      have hpos := call.requiredCycles_pos
      rw [recordWithObservation_confirmationCount] at hcount
      rcases nextConfirmationCount_cases record o call
          (setupConsistent record o call.setupTolerancePct) with
        hzero | ⟨-, hkept⟩ | ⟨hterminal, hcountable, -, hraised⟩ | ⟨hterminal, hcountable, -, hone⟩
      · omega
      · omega
      · exact ⟨hcountable, hterminal, by omega⟩
      · exact ⟨hcountable, hterminal, by omega⟩
    obtain ⟨hcountable, hterminal, hnext⟩ := hvalid
    obtain ⟨hconfirmed, hdecay⟩ := hready hcountable hterminal hnext
    have hstamps : stampsConfirmation record o call
        (recordWithObservation record o call).confirmationCount = true := by
      rw [stampsConfirmation, decide_eq_true hcount, decide_eq_true (not_le.1 hcomplete),
        LifecycleObservation.validConfirmed, hconfirmed, hterminal]
      rfl
    have hgrade : currentQualityGrade record o = o.qualityGradeOrScore := by
      rw [currentQualityGrade, if_neg]
      rw [hdecay]
      exact fun h => absurd h.1 (lt_irrefl 0)
    rw [hstamps, if_pos rfl, hgrade] at hstamp
    exact .inr ⟨hconfirmed, hstamp⟩

theorem StampedBy.observed (o : LifecycleObservation) (call : LifecycleCall)
    (hcompletes : (observedStep sha256 o call record).CompletesReady required)
    (h : required ≤ record.confirmationCount → StampedBy steps record)
    (hcount : required ≤ (observedStep sha256 o call record).after.confirmationCount) :
    StampedBy (observedStep sha256 o call record :: steps)
      (observedStep sha256 o call record).after := by
  obtain ⟨-, hafter, -⟩ := observedStep_after sha256 record o call
  have hrequired : call.requiredCycles = required := hcompletes.requiredCycles
  have hready (hcountable : (effectiveObservation record o).confirmationCountable = true)
      (hterminal : (effectiveObservation record o).terminal = false)
      (hnext : record.confirmationCount + 1 = call.requiredCycles) :
      (effectiveObservation record o).confirmedReady = true ∧ record.decayCount = 0 := by
    rw [effectiveObservation_terminal] at hterminal
    obtain ⟨hconfirmed, hdecay⟩ := hcompletes.ready hcountable hterminal (hnext.trans hrequired)
    exact ⟨hconfirmed, hdecay record rfl⟩
  rw [confirmationCount_of_settled hafter] at hcount
  rcases observeRecord_cases record o call with ⟨-, hsettled, -⟩ | ⟨-, -, hsettled, -⟩
  · rw [confirmationCount_of_settled hsettled] at hcount
    exact (h hcount).kept _ (confirmedAt_of_settled (hafter.trans hsettled))
      (qualityGradeConfirmed_of_settled (hafter.trans hsettled))
  · have htime := confirmedAt_of_settled (hafter.trans hsettled)
    have hgrade := qualityGradeConfirmed_of_settled (hafter.trans hsettled)
    rw [confirmationCount_of_settled hsettled, ← hrequired] at hcount
    rcases recordWithObservation_stamped (effectiveObservation record o) call hready hcount with
      ⟨hcomplete, hsameTime, hsameGrade⟩ | ⟨hconfirmed, hnewTime, hnewGrade⟩
    · exact (h (hrequired ▸ hcomplete)).kept _ (htime.trans hsameTime) (hgrade.trans hsameGrade)
    · refine ⟨_, List.mem_cons_self .., hconfirmed, htime.trans hnewTime, ?_⟩
      rw [hgrade, hnewGrade, effectiveObservation_qualityGradeOrScore]
      rfl

theorem LifecycleObservation.activeInvalidationReason_of_ready {o : LifecycleObservation}
    (h : o.confirmedReady = true) : fieldText o.activeInvalidationReason = NA := by
  by_contra hactive
  have hstatus : ConfirmationBlocker.activeInvalidation ∈ o.statusBlockers := by
    simp [statusBlockers, blockerIf, hactive]
  have hmem : ConfirmationBlocker.activeInvalidation ∈ o.confirmationBlockers := by
    simp only [confirmationBlockers, List.append_assoc]
    exact List.mem_append_left _ hstatus
  rw [confirmedReady, List.isEmpty_iff] at h
  rw [h] at hmem
  cases hmem

theorem LifecycleObservation.observedState_of_ready {o : LifecycleObservation}
    (hready : o.confirmedReady = true) (hterminal : o.terminal = false)
    (hfresh : o.hasEssentialFreshnessFailure = false) : o.observedState = .confirmed := by
  have hreason := activeInvalidationReason_of_ready hready
  simp only [terminal, Bool.or_eq_false_iff] at hterminal
  obtain ⟨⟨⟨htp, hsl⟩, hinvalidated⟩, hexpired⟩ := hterminal
  simp only [observedState, htp, hsl, hfresh, hinvalidated, hreason, hexpired, hready,
    Bool.false_eq_true, ne_eq, not_true_eq_false, if_false, if_true]

theorem newRecord_stamped (o : LifecycleObservation) (call : LifecycleCall)
    (hready : o.confirmedReady = true) (hterminal : o.terminal = false)
    (hcountable : o.confirmationCountable = true) (hrequired : call.requiredCycles = 1) :
    (newRecord o call).confirmedAt = some (.instant call.evaluatedAt) ∧
      (newRecord o call).qualityGradeConfirmed = o.qualityGradeOrScore := by
  have hfresh : o.hasEssentialFreshnessFailure = false := by
    rw [LifecycleObservation.confirmationCountable, Bool.and_eq_true, Bool.not_eq_true'] at hcountable
    exact hcountable.1
  have hcount : initialConfirmationCount o = 1 := if_pos hcountable
  have hinitial : o.initialState = .confirmed := by
    rw [LifecycleObservation.initialState, hfresh, if_neg Bool.false_ne_true,
      LifecycleObservation.observedState_of_ready hready hterminal hfresh]
  have hproposed : proposedInitialState o call = .confirmed := by
    rw [proposedInitialState, hcount, hrequired, if_neg (fun h => lt_irrefl 1 h.2), hinitial]
  have hconfirmed : initialConfirmedAt o call = some (.instant call.evaluatedAt) := by
    rw [initialConfirmedAt, hproposed, hcount, hrequired, if_pos (by decide)]
  have hvalid : initialSnapshotValid o call = true := by
    rw [initialSnapshotValid, hconfirmed, LifecycleObservation.validConfirmed, hready, hterminal]
    rfl
  rw [newRecord]
  exact ⟨hconfirmed, if_pos hvalid⟩

theorem StampedBy.created (o : LifecycleObservation) (call : LifecycleCall)
    (hcompletes : (createdStep sha256 o call).CompletesReady required)
    (hcount : required ≤ (createdStep sha256 o call).after.confirmationCount) :
    StampedBy [createdStep sha256 o call] (createdStep sha256 o call).after := by
  have hrequired : call.requiredCycles = required := hcompletes.requiredCycles
  have hpos := call.requiredCycles_pos
  rw [createdStep_after, createdResult_confirmationCount] at hcount
  by_cases hcountable : o.confirmationCountable = true
  · rw [initialConfirmationCount, if_pos hcountable] at hcount
    have hone : required = 1 := by omega
    obtain ⟨hterminal, hplan⟩ := hcompletes.created rfl hcountable hone
    obtain ⟨hready, -⟩ := hcompletes.ready hcountable hterminal hone.symm
    have hgate : gateNewRecord (newRecord o call) = newRecord o call :=
      ((gateNewRecord_cases _).resolve_right fun h => h.2.2 hplan).1
    have hsettled := createdResult_settled sha256 o call
    rw [hgate] at hsettled
    obtain ⟨htime, hgrade⟩ :=
      newRecord_stamped o call hready hterminal hcountable (hrequired.trans hone)
    refine ⟨_, List.mem_cons_self .., hready, ?_, ?_⟩
    · rw [createdStep_after, confirmedAt_of_settled hsettled]
      exact htime
    · rw [createdStep_after, qualityGradeConfirmed_of_settled hsettled]
      exact hgrade
  · rw [initialConfirmationCount, if_neg hcountable] at hcount
    omega

/-- On a run on which the count is completed by ready observations, a complete count is
stamped. -/
theorem LifecycleRun.stamped (run : LifecycleRun sha256 steps record)
    (hcompletes : ∀ s ∈ steps, s.CompletesReady required)
    (hcount : required ≤ record.confirmationCount) : StampedBy steps record := by
  induction run with
  | created h =>
    rw [eq_createdResult h] at hcompletes hcount ⊢
    exact StampedBy.created _ _ (hcompletes _ (List.mem_cons_self ..)) hcount
  | observed run h ih =>
    rw [evaluateLifecycleTransition_some, Except.ok.injEq] at h
    rw [← h] at hcompletes hcount ⊢
    exact StampedBy.observed _ _ (hcompletes _ (List.mem_cons_self ..))
      (ih fun s hs => hcompletes s (List.mem_cons_of_mem _ hs)) hcount

/-- A record that enters CONFIRMED on such a run carries the time and the grade of a ready
observation. -/
theorem confirmation_is_stamped {s : ObservationStep}
    (run : LifecycleRun sha256 (s :: steps) record)
    (hcompletes : ∀ t ∈ s :: steps, t.CompletesReady required) (henters : s.Enters .confirmed) :
    StampedBy (s :: steps) record ∧ record.qualityGradeConfirmed ≠ NA := by
  obtain ⟨-, hcount, -⟩ := run.enters_confirmed henters
  rw [(hcompletes s (List.mem_cons_self ..)).requiredCycles] at hcount
  have hstamped := run.stamped hcompletes hcount
  refine ⟨hstamped, ?_⟩
  obtain ⟨t, -, -, -, hgrade⟩ := hstamped
  rw [hgrade]
  exact t.observation.qualityGradeOrScore_ne_NA

/-- The steps of a setup that is seen twice as an A-grade one and then ready. -/
def unstampedSteps : List ObservationStep :=
  let first := createdStep id sampleAGrade (sampleCall 0)
  let second := observedStep id sampleAGrade (sampleCall 60000000) first.after
  [observedStep id sampleReady (sampleCall 120000000) second.after, second, first]

/-- The count is completed by an observation that is not ready, and the ready observation that
moves the record into CONFIRMED finds it complete: neither stamps the record. -/
theorem unready_count_leaves_confirmation_unstamped :
    (∃ record, LifecycleRun id unstampedSteps record) ∧
    (unstampedSteps.map fun s => (s.after.currentState, s.after.confirmedAt,
      s.after.qualityGradeConfirmed)) =
      [(confirmed, none, NA), (actionableAGrade, none, NA), (actionableAGrade, none, NA)] := by
  refine ⟨⟨_, ((LifecycleRun.create _ (by decide)).observe _ _).observe _ _⟩, ?_⟩
  decide +kernel

theorem confirmedSteps_completesReady : ∀ s ∈ confirmedSteps, s.CompletesReady 2 := by
  simp only [confirmedSteps, List.mem_cons, List.not_mem_nil, or_false]
  rintro s (rfl | rfl)
  · refine ⟨by decide, fun _ _ _ => ⟨by decide +kernel, fun record hrecord => ?_⟩,
      fun hbefore => by cases hbefore⟩
    rw [← Option.some.inj hrecord]
    decide +kernel
  · exact ⟨by decide, fun _ _ hcount => absurd hcount (by decide), fun _ _ htwo =>
      absurd htwo (by decide)⟩

/-- The two observations that confirm the setup leave a stamp. -/
theorem two_observations_leave_a_stamp :
    ∃ record, LifecycleRun id confirmedSteps record ∧ StampedBy confirmedSteps record := by
  have run : LifecycleRun id confirmedSteps _ := (LifecycleRun.create _ (by decide)).observe _ _
  exact ⟨_, run, (confirmation_is_stamped run confirmedSteps_completesReady
    (confirmedSteps_enters _ rfl)).1⟩

end Stamp

end CandleCraft.Lifecycle
