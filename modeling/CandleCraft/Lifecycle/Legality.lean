import CandleCraft.Lifecycle.PlanLock

/-!
# Legal proposals and promotions

What `evaluate_lifecycle_transition` submits for a record is accepted by `transition_record`,
except where TRIGGERED takes the target of a valid idea as it is. An observation that has ended
promotes a record only where WATCHLISTED and STALKING look at the sweep alone.
-/

namespace CandleCraft.Lifecycle

open Candles SetupLifecycleState

section Legality

variable (record : SetupLifecycleRecord) (o : LifecycleObservation) (call : LifecycleCall)

/-- A TRIGGERED record gets a target it cannot move to; the geometry gate holds WATCHLISTED
back when the plan of the observation is refused. -/
def ProposesIllegal : Prop :=
  ProposesUnfiltered o (recordWithObservation record o call) ∧
    (gatedTarget (recordWithObservation record o call) o = .watchlisted →
      o.PlanAccepted record.direction)

variable {record o call}

theorem ProposesIllegal.triggered (h : ProposesIllegal record o call) :
    record.currentState = .triggered := by
  rw [← recordWithObservation_currentState record o call]
  exact h.1.1

theorem ProposesIllegal.not_holdsOwner (h : ProposesIllegal record o call) :
    ¬ holdsOwner record o := by
  rintro ⟨-, hpreserved, htp, hsl⟩
  have hfresh : o.hasEssentialFreshnessFailure = true := ((Bool.and_eq_true _ _).mp hpreserved).1
  have hrejected : gatedTarget (recordWithObservation record o call) o = .rejected := by
    rw [gatedTarget_eq_iff _ _ (by decide)]
    simp [LifecycleObservation.observedState, htp, hsl, hfresh]
  have hmem := h.1.2.2.2
  rw [hrejected] at hmem
  exact absurd hmem (by decide)

theorem freshState_of_unfiltered
    (h : ProposesUnfiltered o (recordWithObservation record o call)) :
    freshState record o call = gatedTarget (recordWithObservation record o call) o := by
  obtain ⟨hstate, hinvalidated, hvalid, hmem⟩ := h
  rw [freshState, nextStateForObservation, hstate]
  dsimp only
  generalize gatedTarget (recordWithObservation record o call) o = target at hmem
  have hne : ∀ state ∈ [rejected, actionableAGrade, aGradeWatch], target ≠ state := by
    rintro state hstate rfl
    revert hstate hmem
    cases target <;> decide
  rw [nextFromTriggered, if_neg (by simp [hinvalidated, hne]), if_neg (hne _ (by decide)),
    if_neg (hne _ (by decide)), if_pos hvalid]

/-- The target an observation submits is legal exactly outside the unfiltered branch. -/
theorem proposal_legal_iff :
    LegalTarget record.currentState (proposal record o call).nextState
        (proposalReason record o (proposal record o call)) ↔ ¬ ProposesIllegal record o call := by
  by_cases hunfiltered : ProposesUnfiltered o (recordWithObservation record o call)
  · have hstate : record.currentState = .triggered := by
      rw [← recordWithObservation_currentState record o call]
      exact hunfiltered.1
    have hfresh := freshState_of_unfiltered hunfiltered
    have hmem := hunfiltered.2.2.2
    rw [ProposesIllegal, ← refreshed_accepted_iff o call hstate, ← hfresh]
    rw [← hfresh] at hmem
    have hwatch : freshState record o call ∈ activeMonitoring →
        freshState record o call = .watchlisted := by
      revert hmem
      generalize freshState record o call = next
      cases next <;> decide
    refine ⟨fun hlegal hillegal => ?_, fun hlegal => ?_⟩
    · rw [proposal_of_moves record o call (fun hactive => hillegal.2 (hwatch hactive)), hstate]
        at hlegal
      · dsimp only at hlegal
        have hbad := hlegal.imp_right And.left
        revert hmem hbad
        generalize freshState record o call = next
        cases next <;> decide
      · rw [hstate]
        revert hmem
        generalize freshState record o call = next
        cases next <;> decide
    · -- the gate holds WATCHLISTED back: the record stays or, decayed, expires
      have hheld := not_and.1 hlegal hunfiltered
      rw [Classical.not_imp] at hheld
      rcases proposal_nextState_cases record o call with ⟨hsame, hplan⟩ | ⟨hsame, -⟩ |
        ⟨hended, hallowed⟩
      · exact absurd (hplan (by rw [hheld.1]; decide)) hheld.2
      · exact .inl hsame
      · exact legalTarget_of_ended hended hallowed _
  · exact iff_of_true (proposal_legal record o call hunfiltered) fun h => hunfiltered h.1

/-- What `evaluate_lifecycle_transition` submits to `transition_record` is legal and the
observation is not refused, exactly when the stored plan of an active record is accepted and
a TRIGGERED record does not get a target it cannot move to. -/
theorem submitted_target_legal (sha256 : String → String) (record : SetupLifecycleRecord)
    (o : LifecycleObservation) (call : LifecycleCall) :
    ∃ t, evaluateLifecycleTransition sha256 (some record) o call = .ok t ∧
      ((t.allowed = true ∧ ∀ refreshed target request,
        disposition record o call = .submitted refreshed target request →
          refreshed.currentState = record.currentState ∧
          LegalTarget record.currentState target request.reason) ↔
        PlanAccepted record ∧ ¬ ProposesIllegal record o call) := by
  refine ⟨_, evaluateLifecycleTransition_some sha256 record o call, ?_⟩
  -- a TRIGGERED record is observed as it is
  have heffective (hstate : record.currentState = .triggered) : effectiveObservation record o = o :=
    effectiveObservation_of_not_monitor (by rw [hstate]; decide)
  rw [observedResult_allowed, observeRecord]
  rcases disposition_cases record o call with ⟨failure, hactive, hfailure, hcase⟩ |
    ⟨haccepted, -, hterminal, hcase⟩ | ⟨haccepted, hholds, hcase⟩ | ⟨haccepted, -, hcase⟩
  · rw [hcase]
    refine iff_of_false (fun h => Bool.false_ne_true h.1) fun h => ?_
    rw [h.1 hactive] at hfailure
    cases hfailure
  · rw [hcase]
    refine iff_of_true ⟨?_, ?_⟩ ⟨haccepted, fun h => ?_⟩
    · exact (transitionRecord_allowed_iff call.toClock).2 (.inl rfl)
    · intro refreshed target request heq
      obtain ⟨rfl, rfl, -⟩ := Disposition.submitted.inj heq
      exact ⟨rfl, .inl rfl⟩
    · rw [h.triggered] at hterminal
      exact absurd hterminal (by decide)
  · rw [hcase]
    refine iff_of_true ⟨rfl, fun _ _ _ heq => by cases heq⟩ ⟨haccepted, fun h => ?_⟩
    rw [heffective h.triggered] at hholds
    exact h.not_holdsOwner hholds
  · rw [hcase, submission, Disposition.result, transitionRecord_allowed_iff, proposal_currentState,
      proposalRequest_reason, proposal_legal_iff]
    have hillegal : ProposesIllegal record (effectiveObservation record o) call ↔
        ProposesIllegal record o call := by
      by_cases hstate : record.currentState = .triggered
      · rw [heffective hstate]
      · exact iff_of_false (fun h => hstate h.triggered) fun h => hstate h.triggered
    rw [hillegal]
    refine ⟨fun h => ⟨haccepted, h.1⟩, fun h => ⟨h.2, ?_⟩⟩
    intro refreshed target request heq
    obtain ⟨rfl, rfl, rfl⟩ := Disposition.submitted.inj heq
    rw [proposalRequest_reason]
    exact ⟨proposal_currentState _ _ _, proposal_legal_iff.2 (hillegal.not.2 h.2)⟩

/-- The sweep is gone, the idea is still valid but too small to confirm: WATCHLISTED is
proposed for a TRIGGERED record, and refused. -/
theorem triggered_watchlist_proposal_refused :
    sampleTriggered.currentState = .triggered ∧
    ((evaluateLifecycleTransition id (some sampleTriggered)
        { sampleObservation with validTradeIdea := true, rr := "2.6" }
        (sampleCall 60000000)).toOption.map
      fun t => (t.toState, t.allowed, t.reason)) = some (.watchlisted, false, .invalidTransition) := by
  decide +kernel

end Legality

section NoPromotion

variable (record : SetupLifecycleRecord) (o : LifecycleObservation) (call : LifecycleCall)

/-- How far a state is along the way from the watchlist to the managed position; the other
states are before it. -/
def progressionRank : SetupLifecycleState → ℕ
  | .watchlisted => 1
  | .stalking => 2
  | .triggered => 3
  | .confirmed => 4
  | .executing => 5
  | .managing => 6
  | _ => 0

def NoPromotion (current next : SetupLifecycleState) : Prop :=
  progressionRank next ≤ progressionRank current ∧
    (next ∈ [actionableAGrade, aGradeWatch] → next = current)

theorem noPromotion_self (current : SetupLifecycleState) : NoPromotion current current :=
  ⟨le_rfl, fun _ => rfl⟩

theorem noPromotion_of_mem {next : SetupLifecycleState} (current : SetupLifecycleState)
    (h : next ∈ [rejected, invalidated, expired, cooldown, archived, tpHit, slHit]) :
    NoPromotion current next := by
  have hrank : progressionRank next = 0 ∧ next ∉ [actionableAGrade, aGradeWatch] := by
    revert h
    cases next <;> decide
  exact ⟨by rw [hrank.1]; exact Nat.zero_le _, fun hmem => absurd hmem hrank.2⟩

variable {o}

/-- An observation that is invalidated or expired and has hit nothing. -/
structure LifecycleObservation.Ended (o : LifecycleObservation) : Prop where
  ended : o.invalidated = true ∨ o.expired = true
  tpHit : o.tpHit = false
  slHit : o.slHit = false

theorem LifecycleObservation.Ended.terminal (h : o.Ended) : o.terminal = true := by
  rcases h.ended with hflag | hflag <;> simp [LifecycleObservation.terminal, hflag]

theorem LifecycleObservation.Ended.not_touched (h : o.Ended) (target : SetupLifecycleState) :
    ¬ entryTouchProposed o target := by
  rintro ⟨-, hinvalidated, hexpired, -⟩
  exact h.ended.elim hinvalidated hexpired

/-- An invalidated or expired observation points to an end: REJECTED when the data is not
fresh, INVALIDATED or EXPIRED otherwise. -/
theorem gatedTarget_of_ended (hended : o.Ended) :
    (o.hasEssentialFreshnessFailure = true ∧ gatedTarget record o = .rejected) ∨
    (o.hasEssentialFreshnessFailure = false ∧ gatedTarget record o ∈ [invalidated, expired]) := by
  cases hfresh : o.hasEssentialFreshnessFailure with
  | true =>
    have hobserved : o.observedState = .rejected := by
      simp [LifecycleObservation.observedState, hended.tpHit, hended.slHit, hfresh]
    exact .inl ⟨rfl, (gatedTarget_eq_iff record o (by decide)).2 hobserved⟩
  | false =>
    have hobserved : o.observedState = .invalidated ∨ o.observedState = .expired := by
      unfold LifecycleObservation.observedState
      simp only [hended.tpHit, hended.slHit, hfresh, Bool.false_eq_true, if_false]
      rcases hended.ended with h | h
      · exact .inl (if_pos h)
      · simp only [h, if_true]
        split_ifs
        · exact .inl rfl
        · exact .inl rfl
        · exact .inr rfl
    refine .inr ⟨rfl, ?_⟩
    rcases hobserved with h | h
    · rw [(gatedTarget_eq_iff record o (by decide)).2 h]
      decide
    · rw [(gatedTarget_eq_iff record o (by decide)).2 h]
      decide

variable (o) in
/-- A record that waits for its trigger and gets a further step of it: WATCHLISTED with a
sweep, STALKING with a sweep and a structure shift. These branches do not ask whether the
observation has ended. -/
def PromotesEnded : Prop :=
  o.hasEssentialFreshnessFailure = false ∧ o.sweepDetected = true ∧
    (record.currentState = .watchlisted ∨
      (record.currentState = .stalking ∧ o.structureShiftDetected = true))

theorem nextFromConfirmed_of_ended (target : SetupLifecycleState) (hended : o.Ended) :
    nextFromConfirmed o target ∈ [invalidated, expired] := by
  unfold nextFromConfirmed
  by_cases hinvalid : o.invalidated = true ∨ target = .rejected ∨ o.invalidatesActiveSignal = true
  · rw [if_pos hinvalid]
    decide
  · have hexpired : o.expired = true := hended.ended.resolve_left fun h => hinvalid (.inl h)
    rw [if_neg hinvalid, if_pos hexpired]
    decide

/-- What is proposed for an observation that has ended promotes nothing. -/
theorem nextStateForObservation_noPromotion (now : Instant) (hended : o.Ended)
    (h : ¬ PromotesEnded record o) :
    NoPromotion record.currentState (nextStateForObservation record o now) := by
  have htarget := gatedTarget_of_ended record hended
  unfold nextStateForObservation
  generalize gatedTarget record o = target at htarget
  have hmem : target ∈ [rejected, invalidated, expired] := by
    rcases htarget with ⟨-, rfl⟩ | ⟨-, hmem⟩
    · decide
    · exact List.mem_cons_of_mem _ hmem
  have hne : ∀ state, state ∉ [rejected, invalidated, expired] → target ≠ state := by
    rintro state hstate rfl
    exact hstate hmem
  have hwake : ¬ wakes target := by
    revert hmem
    cases target <;> decide
  have htouch := hended.not_touched target
  have hopen : ∀ {p : Prop}, ¬ o.invalidated = true → ¬ o.expired = true → p :=
    fun hinvalidated hexpired => absurd hended.ended (not_or.2 ⟨hinvalidated, hexpired⟩)
  -- with fresh data the target is not REJECTED, and the two promoting branches are excluded
  have hfresh : target ≠ .rejected → o.hasEssentialFreshnessFailure = false := by
    intro hrejected
    rcases htarget with ⟨-, heq⟩ | ⟨hfresh, -⟩
    · exact absurd heq hrejected
    · exact hfresh
  split
  case h_10 heq =>
    rw [heq]
    have hend := nextFromConfirmed_of_ended target hended
    exact noPromotion_of_mem _ (List.mem_of_mem_take (i := 3) (List.mem_cons_of_mem _ hend))
  case h_15 heq =>
    rw [heq, if_neg htouch]
    apply iteInduction <;> intro hrejected
    · exact noPromotion_of_mem _ (by decide)
    rw [if_neg (hne _ (by decide)), if_neg (hne _ (by decide))]
    apply iteInduction <;> intro hsweep
    · exact absurd ⟨hfresh hrejected, hsweep, .inl heq⟩ h
    · exact noPromotion_self _
  case h_16 heq =>
    rw [heq, if_neg htouch]
    apply iteInduction <;> intro hrejected
    · exact noPromotion_of_mem _ (by decide)
    rw [if_neg (hne _ (by decide)), if_neg (hne _ (by decide))]
    apply iteInduction <;> intro hshift
    · exact absurd ⟨hfresh hrejected, hshift.1, .inr ⟨heq, hshift.2⟩⟩ h
    · rw [if_neg fun hwatch => hne _ (by decide) hwatch.2]
      exact noPromotion_self _
  case h_17 heq =>
    rw [heq]
    unfold nextFromTriggered
    repeat' apply iteInduction <;> intro
    · exact noPromotion_of_mem _ (by decide)
    · exact absurd (by assumption) (hne _ (by decide))
    · exact absurd (by assumption) (hne _ (by decide))
    · exact noPromotion_of_mem _ (List.mem_of_mem_take (i := 3) hmem)
    · exact ⟨by decide, fun hbad => absurd hbad (by decide)⟩
    · exact noPromotion_self _
  case h_18 => exact noPromotion_self _
  all_goals
    rename_i heq
    rw [heq]
    repeat' apply iteInduction <;> intro
  all_goals first
    | exact noPromotion_self _
    | exact noPromotion_of_mem _ (by decide)
    | exact absurd (by assumption) hwake
    | exact absurd (And.left (by assumption)) hwake
    | exact absurd (by assumption) (hne _ (by decide))
    | exact hopen (by assumption) (by assumption)
    | exact hopen (fun hinvalidated => absurd (Or.inl hinvalidated) (by assumption)) (by assumption)

theorem proposal_noPromotion (hended : o.Ended) (h : ¬ PromotesEnded record o) :
    NoPromotion record.currentState (proposal record o call).nextState := by
  rcases proposal_nextState_cases record o call with ⟨hfresh, -⟩ | ⟨hsame, -⟩ | ⟨hmem, -⟩
  · rw [hfresh]
    exact nextStateForObservation_noPromotion (recordWithObservation record o call)
      call.evaluatedAt hended h
  · rw [hsame]
    exact noPromotion_self _
  · have hsub : [rejected, expired] ⊆
        [rejected, invalidated, expired, cooldown, archived, tpHit, slHit] := by decide
    exact noPromotion_of_mem _ (hsub hmem)

theorem observeRecord_noPromotion (hended : o.Ended) (h : ¬ PromotesEnded record o) :
    NoPromotion record.currentState (observeRecord record o call).record.currentState := by
  rcases observeRecord_cases record o call with ⟨hsame, -⟩ | ⟨-, -, -, hmoved | ⟨hsame, hstate⟩⟩
  · rw [hsame]
    exact noPromotion_self _
  · rw [hmoved, effectiveObservation_of_terminal hended.terminal]
    exact proposal_noPromotion record call hended h
  · rw [hsame, hstate]
    exact noPromotion_self _

/-- The branches of WATCHLISTED and STALKING take the further step. -/
theorem nextStateForObservation_promotes (now : Instant) (hended : o.Ended)
    (h : PromotesEnded record o) :
    record.currentState ∈ planLock ∧
      ¬ NoPromotion record.currentState (nextStateForObservation record o now) := by
  obtain ⟨hfresh, hsweep, hstate⟩ := h
  have hmem : gatedTarget record o ∈ [invalidated, expired] := by
    rcases gatedTarget_of_ended record hended with ⟨hstale, -⟩ | ⟨-, hmem⟩
    · rw [hfresh] at hstale
      cases hstale
    · exact hmem
  have htouch := hended.not_touched (gatedTarget record o)
  have hne : ∀ state ∈ [rejected, actionableAGrade, aGradeWatch], gatedTarget record o ≠ state := by
    intro state hstate heq
    rw [heq] at hmem
    revert hstate hmem
    cases state <;> decide
  unfold nextStateForObservation
  rcases hstate with hstate | ⟨hstate, hshift⟩
  · rw [hstate]
    dsimp only
    rw [if_neg htouch, if_neg (hne _ (by decide)), if_neg (hne _ (by decide)),
      if_neg (hne _ (by decide)), if_pos hsweep]
    exact ⟨by decide, fun hbad => absurd hbad.1 (by decide)⟩
  · rw [hstate]
    dsimp only
    rw [if_neg htouch, if_neg (hne _ (by decide)), if_neg (hne _ (by decide)),
      if_neg (hne _ (by decide)), if_pos ⟨hsweep, hshift⟩]
    exact ⟨by decide, fun hbad => absurd hbad.1 (by decide)⟩

/-- A record that waits for its trigger with an accepted plan is promoted by the further step. -/
theorem observeRecord_promotes (hended : o.Ended) (haccepted : PlanAccepted record)
    (h : PromotesEnded record o) :
    ¬ NoPromotion record.currentState (observeRecord record o call).record.currentState := by
  have hrefreshed : PromotesEnded (recordWithObservation record o call) o := h
  have hnext := nextStateForObservation_promotes (recordWithObservation record o call)
    call.evaluatedAt hended hrefreshed
  rw [recordWithObservation_currentState, ← freshState] at hnext
  obtain ⟨hlock, hpromotes⟩ := hnext
  have hproposal := proposal_of_moves record o call
    (fun _ => recordWithObservation_accepted o call hlock
      (haccepted ((mem_activeMonitoring_iff _).2 (.inl hlock))))
    fun heq => hpromotes (by rw [heq]; exact noPromotion_self _)
  rcases observeRecord_cases record o call with ⟨-, -, -, hcase⟩ | ⟨-, -, -, hmoved | ⟨-, hstate⟩⟩
  · exfalso
    rw [effectiveObservation_of_terminal hended.terminal] at hcase
    rcases hcase with hblocked | hmem | hholds
    · exact hblocked haccepted
    · revert hmem hlock
      generalize record.currentState = state
      cases state <;> decide
    · have hstale := ((Bool.and_eq_true _ _).mp hholds.2.1).1
      rw [h.1] at hstale
      cases hstale
  · rw [hmoved, effectiveObservation_of_terminal hended.terminal, hproposal]
    exact hpromotes
  · rw [hstate] at hlock
    exact absurd hlock (by decide)

/-- An invalidated or expired observation moves no record along the way to a managed position,
and into no A-grade state, exactly unless the record waits for its trigger with an accepted plan
and the observation shows a further step of it. -/
theorem invalidated_observation_never_promotes (sha256 : String → String)
    (hended : o.invalidated = true ∨ o.expired = true) (htp : o.tpHit = false)
    (hsl : o.slHit = false) {t : SetupTransitionResult}
    (ht : evaluateLifecycleTransition sha256 (some record) o call = .ok t) :
    (progressionRank t.record.currentState ≤ progressionRank record.currentState ∧
      (t.record.currentState ∈ [actionableAGrade, aGradeWatch] →
        t.record.currentState = record.currentState)) ↔
      ¬ (PlanAccepted record ∧ PromotesEnded record o) := by
  rw [evaluateLifecycleTransition_some, Except.ok.injEq] at ht
  rw [← ht, observedResult_currentState]
  have hends : o.Ended := ⟨hended, htp, hsl⟩
  refine ⟨fun hkept h => ?_, fun h => ?_⟩
  · exact observeRecord_promotes record call hends h.1 h.2 hkept
  · by_cases haccepted : PlanAccepted record
    · exact observeRecord_noPromotion record call hends fun hbad => h ⟨haccepted, hbad⟩
    · -- the geometry check comes first
      rcases observeRecord_cases record o call with ⟨hsame, -⟩ | ⟨hopen, -⟩
      · rw [hsame]
        exact noPromotion_self _
      · exact absurd hopen haccepted

/-- A WATCHLISTED record is moved to STALKING by an invalidated observation with a sweep. -/
theorem invalidated_observation_promotes_watchlisted :
    sampleWatchlisted.currentState = .watchlisted ∧
    ((evaluateLifecycleTransition id (some sampleWatchlisted)
        { sampleObservation with invalidated := true, sweepDetected := true }
        (sampleCall 60000000)).toOption.map fun t => t.record.currentState) = some .stalking := by
  decide +kernel

/-- Without the sweep the record stays on the watchlist. -/
theorem invalidated_observation_keeps_watchlisted :
    progressionRank (observedResult sampleWatchlisted { sampleObservation with invalidated := true }
        (sampleCall 60000000) id).record.currentState ≤
      progressionRank sampleWatchlisted.currentState :=
  ((invalidated_observation_never_promotes sampleWatchlisted (sampleCall 60000000)
    (o := { sampleObservation with invalidated := true }) id (.inl rfl) rfl rfl rfl).2
    fun hbad => absurd hbad.2.2.1 (by decide)).1

end NoPromotion

end CandleCraft.Lifecycle
