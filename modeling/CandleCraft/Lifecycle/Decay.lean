import CandleCraft.Lifecycle.Proposals

/-!
# Confidence decay

A setup that stays in a decayable state without progress loses one grade with each observation, and
is expired when no grade is left; a CONFIRMED setup stays. The grade is frozen from the first decay
on. Observations that are held or blocked do not count, and one whose grade is not on the decay path
does not begin a decay.
-/

namespace CandleCraft.Lifecycle

open PyText SetupLifecycleState

section Grades

/-- How many observations without progress a grade lasts; none if it is not on the decay path. -/
def gradesLeft (grade : String) : ℕ :=
  if gradeKey grade = "a+" then 4
  else if gradeKey grade = "a" then 3
  else if gradeKey grade = "a-" then 2
  else if gradeKey grade = "b+" then 1
  else 0

theorem gradesLeft_le (grade : String) : gradesLeft grade ≤ 4 := by
  unfold gradesLeft
  split_ifs <;> omega

theorem decayedGrade_eq_grade {value : String} {n : ℕ} (h : gradesLeft value = n + 2) :
    ∃ grade, decayedGrade value = some (some grade) ∧ gradesLeft grade = n + 1 ∧
      fieldText grade ≠ NA := by
  unfold gradesLeft at h
  unfold decayedGrade
  split_ifs at h with ha hb hc hd
  · obtain rfl : n = 2 := by omega
    exact ⟨"A", by simp [ha], by decide +kernel, by decide +kernel⟩
  · obtain rfl : n = 1 := by omega
    exact ⟨"A-", by simp [hb], by decide +kernel, by decide +kernel⟩
  · obtain rfl : n = 0 := by omega
    exact ⟨"B+", by simp [hc], by decide +kernel, by decide +kernel⟩
  · omega

theorem decayedGrade_eq_none {value : String} (h : gradesLeft value = 1) :
    decayedGrade value = some none := by
  unfold gradesLeft at h
  unfold decayedGrade
  split_ifs at h with ha hb hc hd
  · omega
  · omega
  · omega
  · simp [hd]

end Grades

section Step

variable {record : SetupLifecycleRecord} {o : LifecycleObservation} {call : LifecycleCall}
  (sha256 : String → String)

theorem decay_grade {p : Proposal} {grade : String}
    (h : decayedGrade p.record.qualityGradeCurrent = some (some grade)) :
    (decay p).nextState = p.nextState ∧ (decay p).record.qualityGradeCurrent = grade ∧
      0 < (decay p).record.decayCount := by
  unfold decay
  rw [h]
  exact ⟨rfl, rfl, Nat.succ_pos _⟩

theorem decay_last {p : Proposal} (h : decayedGrade p.record.qualityGradeCurrent = some none)
    (hconfirmed : p.nextState ≠ .confirmed) : (decay p).nextState = .expired := by
  unfold decay
  rw [h]
  rw [if_neg hconfirmed]

theorem decay_confirmed {p : Proposal} (h : p.nextState = .confirmed) :
    (decay p).nextState = .confirmed := by
  unfold decay
  split
  · exact h
  · exact h
  · rw [if_pos h]
    exact h

/-- An observation that is evaluated and shows no progress: it leaves the state and the identity of the
setup as they are, does not raise the confirmation count, and neither fills the entry nor ends the
setup. -/
@[mk_iff]
structure Quiet (record : SetupLifecycleRecord) (o : LifecycleObservation) (call : LifecycleCall) :
    Prop where
  evaluated : disposition record o call = submission record (effectiveObservation record o) call
  stays : (gatedProposal record (effectiveObservation record o) call).nextState = record.currentState
  count : (recordWithObservation record (effectiveObservation record o) call).confirmationCount ≤
    record.confirmationCount
  identity : (recordWithObservation record (effectiveObservation record o) call).setupIdentity =
    record.setupIdentity
  unfilled : (effectiveObservation record o).entryFilled = false
  goesOn : (effectiveObservation record o).terminal = false

instance : Decidable (Quiet record o call) := decidable_of_iff' _ (quiet_iff record o call)

theorem transitionRecord_confirmation (r : SetupLifecycleRecord) (toState : SetupLifecycleState)
    (request : TransitionRequest) (clock : Clock) :
    (transitionRecord r toState request clock).record.toConfirmation = r.toConfirmation := by
  unfold transitionRecord
  split_ifs <;> rfl

theorem gatedProposal_confirmation (record : SetupLifecycleRecord) (o : LifecycleObservation)
    (call : LifecycleCall) :
    (gatedProposal record o call).record.toConfirmation =
      (recordWithObservation record o call).toConfirmation := by
  rw [gatedProposal, (gateGeometry_frame _).2.2.2.1]

theorem gatedProposal_lineage (record : SetupLifecycleRecord) (o : LifecycleObservation)
    (call : LifecycleCall) :
    (gatedProposal record o call).record.toLineage =
      (recordWithObservation record o call).toLineage := by
  rw [gatedProposal, (gateGeometry_frame _).2.2.2.2]

theorem proposal_of_quiet (hquiet : Quiet record o call) (hstate : record.currentState ∈ decayable) :
    proposal record (effectiveObservation record o) call =
      decay (gatedProposal record (effectiveObservation record o) call) := by
  rw [proposal_eq]
  unfold applyDecayIfNeeded
  rw [if_neg (by simp [hquiet.stays, hstate]), gatedProposal_confirmation, gatedProposal_lineage,
    if_neg (not_lt.2 hquiet.count), if_neg (not_not.2 hquiet.identity),
    if_neg (by simp [hquiet.unfilled, hquiet.goesOn])]

theorem decayed_currentState (record : SetupLifecycleRecord) (o : LifecycleObservation)
    (call : LifecycleCall) :
    (decay (gatedProposal record o call)).record.currentState = record.currentState := by
  rw [decay_currentState, gatedProposal_currentState]

theorem grade_gatedProposal (record : SetupLifecycleRecord) (o : LifecycleObservation)
    (call : LifecycleCall) :
    (gatedProposal record o call).record.qualityGradeCurrent = currentQualityGrade record o := by
  rw [gatedProposal_confirmation]
  rfl

theorem observeRecord_of_quiet (hquiet : Quiet record o call)
    (hstate : record.currentState ∈ decayable) :
    observeRecord record o call =
      transitionRecord (decay (gatedProposal record (effectiveObservation record o) call)).record
        (decay (gatedProposal record (effectiveObservation record o) call)).nextState
        (proposalRequest record (effectiveObservation record o)
          (decay (gatedProposal record (effectiveObservation record o) call))) call.toClock := by
  unfold observeRecord
  rw [hquiet.evaluated, submission, proposal_of_quiet hquiet hstate]
  rfl

theorem withEconomicIdentities_confirmation (previous : Option SetupLifecycleRecord)
    (t : SetupTransitionResult) :
    (withEconomicIdentities o sha256 previous t).record.toConfirmation = t.record.toConfirmation := rfl

theorem confirmation_of_quiet (hquiet : Quiet record o call)
    (hstate : record.currentState ∈ decayable) :
    (observedResult record o call sha256).record.toConfirmation =
      (decay (gatedProposal record (effectiveObservation record o) call)).record.toConfirmation := by
  rw [observedResult, withEconomicIdentities_confirmation, observeRecord_of_quiet hquiet hstate,
    transitionRecord_confirmation]

/-- A grade that is not the last one is lost, and the next one is frozen. -/
theorem quiet_step {n : ℕ} (hquiet : Quiet record o call) (hstate : record.currentState ∈ decayable)
    (hgrade : gradesLeft (currentQualityGrade record (effectiveObservation record o)) = n + 2) :
    (observedResult record o call sha256).record.currentState = record.currentState ∧
      ∀ o', gradesLeft (currentQualityGrade (observedResult record o call sha256).record o') =
        n + 1 := by
  rw [← grade_gatedProposal record (effectiveObservation record o) call] at hgrade
  obtain ⟨grade, hnext, hleft, htext⟩ := decayedGrade_eq_grade hgrade
  obtain ⟨hstays, hcurrent, hcount⟩ := decay_grade hnext
  rw [hquiet.stays] at hstays
  constructor
  · rw [observedResult_currentState, observeRecord_of_quiet hquiet hstate, hstays]
    exact transitionRecord_currentState_of_legal _ (.inl (decayed_currentState record _ call).symm)
  · intro o'
    unfold currentQualityGrade
    rw [confirmation_of_quiet sha256 hquiet hstate, hcurrent, if_pos ⟨hcount, htext⟩, hleft]

theorem quiet_step_last (hquiet : Quiet record o call) (hstate : record.currentState ∈ decayable)
    (hgrade : gradesLeft (currentQualityGrade record (effectiveObservation record o)) = 1)
    (hconfirmed : record.currentState ≠ .confirmed) :
    (observedResult record o call sha256).record.currentState = .expired := by
  rw [← grade_gatedProposal record (effectiveObservation record o) call] at hgrade
  rw [← hquiet.stays] at hconfirmed
  rw [observedResult_currentState, observeRecord_of_quiet hquiet hstate,
    decay_last (decayedGrade_eq_none hgrade) hconfirmed]
  refine transitionRecord_currentState_of_legal _ (legalTarget_of_ended (by decide) ?_ _)
  rw [decayed_currentState]
  exact transitionAllowed_expired hstate

theorem quiet_step_confirmed (hquiet : Quiet record o call)
    (hconfirmed : record.currentState = .confirmed) :
    (observedResult record o call sha256).record.currentState = .confirmed := by
  have hstate : record.currentState ∈ decayable := by rw [hconfirmed]; decide
  rw [observedResult_currentState, observeRecord_of_quiet hquiet hstate,
    decay_confirmed (hquiet.stays.trans hconfirmed)]
  refine transitionRecord_currentState_of_legal _ (.inl ?_)
  rw [decayed_currentState, hconfirmed]

end Step

section Runs

variable (sha256 : String → String)

def observeAll (record : SetupLifecycleRecord) (steps : List (LifecycleObservation × LifecycleCall)) :
    SetupLifecycleRecord :=
  steps.foldl (fun record step => (observedResult record step.1 step.2 sha256).record) record

theorem observeAll_cons (record : SetupLifecycleRecord) (step : LifecycleObservation × LifecycleCall)
    (steps : List (LifecycleObservation × LifecycleCall)) :
    observeAll sha256 record (step :: steps) =
      observeAll sha256 (observedResult record step.1 step.2 sha256).record steps := by
  unfold observeAll
  rw [List.foldl_cons]

/-- Observations without progress, up to the expiry. -/
def QuietRun (record : SetupLifecycleRecord) :
    List (LifecycleObservation × LifecycleCall) → Prop
  | [] => True
  | step :: rest => Quiet record step.1 step.2 ∧
      ((observedResult record step.1 step.2 sha256).record.currentState = .expired ∨
        QuietRun (observedResult record step.1 step.2 sha256).record rest)

instance decidableQuietRun (record : SetupLifecycleRecord) :
    (steps : List (LifecycleObservation × LifecycleCall)) → Decidable (QuietRun sha256 record steps)
  | [] => .isTrue trivial
  | step :: rest =>
    @instDecidableAnd _ _ inferInstance (@instDecidableOr _ _ inferInstance
      (decidableQuietRun (observedResult record step.1 step.2 sha256).record rest))

variable {record : SetupLifecycleRecord} {steps : List (LifecycleObservation × LifecycleCall)}

/-- As many observations without progress as the grade lasts expire the setup. -/
theorem expired_of_quietRun {n : ℕ} (hstate : record.currentState ∈ decayable)
    (hconfirmed : record.currentState ≠ .confirmed) (hrun : QuietRun sha256 record steps)
    (hlength : n + 1 ≤ steps.length)
    (hgrade : ∀ step ∈ steps.head?,
      gradesLeft (currentQualityGrade record (effectiveObservation record step.1)) = n + 1) :
    (observeAll sha256 record (steps.take (n + 1))).currentState = .expired := by
  induction n generalizing record steps with
  | zero =>
    cases steps with
    | nil => simp at hlength
    | cons step rest => exact quiet_step_last sha256 hrun.1 hstate (hgrade step rfl) hconfirmed
  | succ n ih =>
    cases steps with
    | nil => simp at hlength
    | cons step rest =>
      obtain ⟨hquiet, hrest⟩ := hrun
      obtain ⟨hstays, hfrozen⟩ := quiet_step sha256 hquiet hstate (hgrade step rfl)
      have hexpired : (observedResult record step.1 step.2 sha256).record.currentState ≠ .expired := by
        rw [hstays]
        intro heq
        rw [heq] at hstate
        exact absurd hstate (by decide)
      rw [List.take_succ_cons, observeAll_cons]
      refine ih (by rw [hstays]; exact hstate) (by rw [hstays]; exact hconfirmed)
        (hrest.resolve_left hexpired) ?_ ?_
      · simpa using hlength
      · intro next _
        exact hfrozen _

theorem confirmed_of_quietRun (hconfirmed : record.currentState = .confirmed)
    (hrun : QuietRun sha256 record steps) :
    (observeAll sha256 record steps).currentState = .confirmed := by
  induction steps generalizing record with
  | nil => exact hconfirmed
  | cons step rest ih =>
    obtain ⟨hquiet, hrest⟩ := hrun
    have hstays := quiet_step_confirmed sha256 hquiet hconfirmed
    rw [observeAll_cons]
    exact ih hstays (hrest.resolve_left (by rw [hstays]; decide))

/-- For every record in a decayable state and every run of at least four observations without progress,
the first of which finds a grade on the decay path: at most four of them expire the setup. A CONFIRMED
setup stays CONFIRMED over every such run. -/
theorem decay_is_bounded (hstate : record.currentState ∈ decayable)
    (hrun : QuietRun sha256 record steps) :
    (record.currentState ≠ .confirmed → 4 ≤ steps.length →
      (∀ step ∈ steps.head?,
        gradesLeft (currentQualityGrade record (effectiveObservation record step.1)) ≠ 0) →
      ∃ k ≤ 4, (observeAll sha256 record (steps.take k)).currentState = .expired) ∧
    (record.currentState = .confirmed →
      (observeAll sha256 record steps).currentState = .confirmed) := by
  refine ⟨fun hconfirmed hlength hgrade => ?_, fun hconfirmed =>
    confirmed_of_quietRun sha256 hconfirmed hrun⟩
  cases steps with
  | nil => simp at hlength
  | cons step rest =>
    obtain ⟨n, hn⟩ := Nat.exists_eq_succ_of_ne_zero (hgrade step rfl)
    have hbound := gradesLeft_le (currentQualityGrade record (effectiveObservation record step.1))
    refine ⟨n + 1, by omega, expired_of_quietRun sha256 hstate hconfirmed hrun (by omega) ?_⟩
    rintro _ ⟨⟩
    exact hn

def sampleSteps (grade : String) : List (LifecycleObservation × LifecycleCall) :=
  List.replicate 4 ({ sampleObservation with qualityGrade := grade }, sampleCall 60000000)

theorem sample_decay_is_bounded :
    ∃ k ≤ 4, (observeAll id sampleWatchlisted ((sampleSteps "A+").take k)).currentState = .expired :=
  (decay_is_bounded id (by decide +kernel) (by decide +kernel)).1 (by decide +kernel) (by decide) (by
    rintro step ⟨⟩
    decide +kernel)

/-- The record has a grade on the decay path, but as no decay has begun, the grade of the observations
takes its place. -/
theorem unranked_grades_never_decay :
    sampleWatchlisted.currentState ∈ decayable ∧ sampleWatchlisted.currentState ≠ .confirmed ∧
      gradesLeft sampleWatchlisted.qualityGradeCurrent ≠ 0 ∧
      QuietRun id sampleWatchlisted (sampleSteps "B") ∧
      (observeAll id sampleWatchlisted (sampleSteps "B")).currentState = .watchlisted := by
  decide +kernel

end Runs

end CandleCraft.Lifecycle
