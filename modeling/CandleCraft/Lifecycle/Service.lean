import CandleCraft.Kernel.Transition
import CandleCraft.Lifecycle.Admission
import CandleCraft.Lifecycle.Confirmation

/-!
# The lifecycle service

The service applies observations to the stored records and has the closed candles of their plans
evaluated. An observation may move a record between two evaluations of its plan, and the other way
round. The order of the calls, their lifecycles and the ownership rows are left open.
-/

namespace CandleCraft.Lifecycle

open Candles Relational SetupLifecycleState

section Generation

def timestampReached (value : Option Stamp) (now : Instant) : Bool :=
  match value with
  | some (.instant expiry) => decide (expiry ≤ now)
  | _ => false

def generationSetupObservable (o : LifecycleObservation) : Bool :=
  !o.hasEssentialFreshnessFailure && o.setupObservable

/-- `_text` of a structural anchor. -/
def anchorText (value : String) : String := (identityText value).getD NA

def generationRotationReason (record : SetupLifecycleRecord) (o : LifecycleObservation)
    (now : Instant) : Option String :=
  if ¬ generationSetupObservable o ∨ o.terminal then none
  else if anchorText o.structuralAnchor ≠ NA ∧ anchorText record.structuralAnchor ≠ NA then
    if anchorText o.structuralAnchor ≠ anchorText record.structuralAnchor then
      some "new_structural_anchor"
    else none
  else if anchorText record.structuralAnchor ≠ NA then none
  else if record.currentState = .archived then some "archived_lifecycle_new_setup"
  else if record.currentState = .cooldown ∧ timestampReached record.cooldownUntil now then
    some "completed_cooldown_new_setup"
  else none

end Generation

section Service

/-- Whether the service leaves a result unwritten: the stored plan was refused. -/
def SetupTransitionResult.persistenceBlocked (t : SetupTransitionResult) : Bool :=
  !t.allowed &&
    match t.notes with
    | .text notes => (geometryDiagnostic "").toList.isPrefixOf notes.toList
    | _ => false

def Repository.persist (repo : Repository) (t : SetupTransitionResult) : Repository :=
  { repo with
    records := repo.records.put t.record
    events := repo.events ++ t.event.toList }

/-- The calls on the tables of the lifecycle repository. An observation is applied to the record
of a generation, unless it starts a new one, or creates the record. A freshness failure is applied
to the owners of the symbol. The candles of a plan are evaluated, or their lack is noted. The
ownership rows are written by others. -/
inductive ServiceAction where
  | create (o : LifecycleObservation) (call : LifecycleCall)
  | observe (o : LifecycleObservation) (call : LifecycleCall)
  | hold (o : LifecycleObservation) (call : LifecycleCall)
  | evaluate (lifecycleId : String) (call : Call) (candles : List RawCandle)
  | noteGap (lifecycleId diagnostic executionTimeframe : String) (clock : Clock)
  | setAuthority (authority : Outbox.Authority)

variable (sha256 : String → String)

def Repository.observe (repo : Repository) (o : LifecycleObservation) (call : LifecycleCall) :
    Repository :=
  match repo.records.fetch call.lifecycleId with
  | none => repo
  | some record =>
    if (generationRotationReason record o call.evaluatedAt).isSome then repo
    else if (observedResult record o call sha256).persistenceBlocked then repo
    else repo.persist (observedResult record o call sha256)

def Repository.hold (repo : Repository) (o : LifecycleObservation) (call : LifecycleCall) :
    Repository :=
  match repo.records.fetch call.lifecycleId with
  | none => repo
  | some record =>
    if o.hasEssentialFreshnessFailure then repo.persist (observedResult record o call sha256)
    else repo

/-- One call. A call that fails is rolled back. -/
def Repository.serve (repo : Repository) : ServiceAction → Repository
  | .create o call =>
    match evaluateLifecycleTransition sha256 none o call with
    | .error _ => repo
    | .ok t => repo.persist t
  | .observe o call => repo.observe sha256 o call
  | .hold o call => repo.hold sha256 o call
  | .evaluate lifecycleId call candles =>
    match repo.records.fetch lifecycleId with
    | none => repo
    | some record =>
      match evaluateClosedCandleOutcomes sha256 record call repo candles with
      | .error _ => repo
      | .ok r => r.2
  | .noteGap lifecycleId diagnostic executionTimeframe clock =>
    match repo.records.fetch lifecycleId with
    | none => repo
    | some record =>
      (recordClosedCandleEvidenceGap sha256 record diagnostic executionTimeframe clock repo).2
  | .setAuthority authority => { repo with authority := authority }

end Service

section Steps

variable {sha256 : String → String} {repo repo' : Repository}

theorem Repository.lifecycleId_of_fetch {lifecycleId : String} {record : SetupLifecycleRecord}
    (h : repo.records.fetch lifecycleId = some record) : record.lifecycleId = lifecycleId := by
  have hkey := Table.key_of_fetch h
  exact hkey

/-- What one call of the service does: nothing, a record that is created, a record that is
observed, an evaluation, a note, or other ownership rows. -/
inductive Served (sha256 : String → String) (repo : Repository) :
    ServiceAction → Repository → Prop where
  | idle (a) : Served sha256 repo a repo
  | created {o call} (h : PyText.strip o.symbol ≠ "") :
      Served sha256 repo (.create o call) (repo.persist (createdResult sha256 o call))
  | observed {o call record} (hrecord : repo.records.fetch call.lifecycleId = some record) :
      Served sha256 repo (.observe o call) (repo.persist (observedResult record o call sha256))
  | held {o call record} (hrecord : repo.records.fetch call.lifecycleId = some record) :
      Served sha256 repo (.hold o call) (repo.persist (observedResult record o call sha256))
  | evaluated {lifecycleId call candles record ev repo'}
      (hrecord : repo.records.fetch lifecycleId = some record)
      (h : evaluateClosedCandleOutcomes sha256 record call repo candles = .ok (ev, repo')) :
      Served sha256 repo (.evaluate lifecycleId call candles) repo'
  | noted {lifecycleId diagnostic executionTimeframe clock record}
      (hrecord : repo.records.fetch lifecycleId = some record)
      (hunended : ∀ p ∈ storedRow record repo (compatiblePlanIdentities sha256 record),
        p.terminalOutcome = none) :
      Served sha256 repo (.noteGap lifecycleId diagnostic executionTimeframe clock)
        (leaveRecord record repo ((rowOrNew record (compatiblePlanIdentities sha256 record)
          (storedRow record repo (compatiblePlanIdentities sha256 record)) executionTimeframe
          clock).withEvidenceGap diagnostic clock)).2
  | authorized (authority) :
      Served sha256 repo (.setAuthority authority) { repo with authority := authority }

theorem Repository.serve_cases (a : ServiceAction) : Served sha256 repo a (repo.serve sha256 a) := by
  cases a with
  | create o call =>
    rw [serve]
    by_cases hsymbol : PyText.strip o.symbol = ""
    · rw [evaluateLifecycleTransition, createLifecycle, if_pos hsymbol]
      exact .idle _
    · rw [evaluateLifecycleTransition_none sha256 call hsymbol]
      exact .created hsymbol
  | observe o call =>
    rw [serve, Repository.observe]
    cases hrecord : repo.records.fetch call.lifecycleId with
    | none => exact .idle _
    | some record =>
      dsimp only
      split_ifs
      · exact .idle _
      · exact .idle _
      · exact .observed hrecord
  | hold o call =>
    rw [serve, Repository.hold]
    cases hrecord : repo.records.fetch call.lifecycleId with
    | none => exact .idle _
    | some record =>
      split_ifs
      · exact .held hrecord
      · exact .idle _
  | evaluate lifecycleId call candles =>
    rw [serve]
    cases hrecord : repo.records.fetch lifecycleId with
    | none => exact .idle _
    | some record =>
      dsimp only
      cases h : evaluateClosedCandleOutcomes sha256 record call repo candles with
      | error e => exact .idle _
      | ok r => exact .evaluated hrecord h
  | noteGap lifecycleId diagnostic executionTimeframe clock =>
    rw [serve]
    cases hrecord : repo.records.fetch lifecycleId with
    | none => exact .idle _
    | some record =>
      dsimp only
      rcases recordClosedCandleEvidenceGap_cases sha256 record diagnostic executionTimeframe clock repo
        with hsame | ⟨hunended, hgap⟩
      · rw [hsame]
        exact .idle _
      · rw [hgap]
        exact .noted hrecord hunended
  | setAuthority authority => exact .authorized authority

end Steps

section Plans

variable {sha256 : String → String} {repo repo' : Repository} {record : SetupLifecycleRecord}

def Repository.PlansAccepted (repo : Repository) : Prop :=
  ∀ record ∈ repo.records.rows, PlanAccepted record

def KeepsTriggeredPlan (repo : Repository) : ServiceAction → Prop
  | .observe o call | .hold o call =>
    ∀ record ∈ repo.records.fetch call.lifecycleId, record.currentState = .triggered →
      TriggeredPlanKept record o call
  | _ => True

theorem Repository.PlansAccepted.put (h : repo.PlansAccepted) (hrecord : PlanAccepted record)
    (hput : repo'.records = repo.records.put record) : repo'.PlansAccepted := by
  intro r hr
  rw [hput] at hr
  rcases Table.mem_put hr with rfl | hr
  · exact hrecord
  · exact h r hr

theorem observedResult_planAccepted_iff (sha256 : String → String) (o : LifecycleObservation)
    (call : LifecycleCall) (h : PlanAccepted record) :
    PlanAccepted (observedResult record o call sha256).record ↔
      (record.currentState = .triggered → TriggeredPlanKept record o call) := by
  rw [← observeRecord_planAccepted_iff o call h]
  have hstate := observedResult_currentState sha256 record o call
  have hsettled := observedResult_settled sha256 record o call
  have htexts := observedResult_texts sha256 record o call
  exact ⟨fun haccepted => haccepted.congr hstate.symm hsettled.symm htexts.symm,
    fun haccepted => haccepted.congr hstate hsettled htexts⟩

theorem evaluate_records {call : Call} {identities : List String} {candles : List RawCandle}
    {ev : LifecycleOutcomeEvaluation}
    (h : evaluateWithIdentities record call repo identities candles = .ok (ev, repo')) :
    repo'.records = repo.records ∨
      storedPlanGeometryFailure ev.record = none ∧ repo'.records = repo.records.put ev.record := by
  have hrestaged := (evaluate_restaged h).1
  rcases evaluateWithIdentities_cases h with hunprocessed | ⟨g, started, bars, pending, s, rounds,
    hpending, -, heq⟩
  · cases hunprocessed <;> exact .inl rfl
  · cases heq
    refine .inr ⟨?_, rfl⟩
    rw [storedPlanGeometryFailure, hrestaged.geometry, hpending.geometry]

theorem Repository.PlansAccepted.serve (h : repo.PlansAccepted) {a : ServiceAction}
    (ha : KeepsTriggeredPlan repo a) : (repo.serve sha256 a).PlansAccepted := by
  have hstored {lifecycleId : String} {record : SetupLifecycleRecord}
      (hrecord : repo.records.fetch lifecycleId = some record) : PlanAccepted record :=
    h record (Table.mem_of_fetch hrecord)
  have hserved : Served sha256 repo a (repo.serve sha256 a) := repo.serve_cases a
  generalize repo.serve sha256 a = repo' at hserved ⊢
  cases hserved with
  | idle => exact h
  | created hsymbol => exact h.put (createdResult_planAccepted sha256 _ _) rfl
  | observed hrecord | held hrecord =>
    exact h.put ((observedResult_planAccepted_iff sha256 _ _ (hstored hrecord)).2 (ha _ hrecord)) rfl
  | evaluated hrecord hok =>
    rcases evaluate_records hok with hsame | ⟨haccepted, hput⟩
    · intro r hr
      rw [hsame] at hr
      exact h r hr
    · exact h.put (fun _ => haccepted) hput
  | noted | authorized => exact h

/-- An observation keeps the plan of an active record accepted exactly when a TRIGGERED record is
observed with an accepted plan, ended or expired, and along every run of the service in which
this holds of each observation the active records have accepted plans. -/
theorem served_records_keep_accepted_plan (sha256 : String → String) :
    (∀ record o call t, PlanAccepted record →
      evaluateLifecycleTransition sha256 (some record) o call = .ok t →
      (PlanAccepted t.record ↔
        (record.currentState = .triggered → TriggeredPlanKept record o call))) ∧
    ∀ (repo : Repository) (actions : List ServiceAction), repo.PlansAccepted →
      Transition.Disciplined (Repository.serve sha256) KeepsTriggeredPlan repo actions →
      (Transition.run (Repository.serve sha256) repo actions).PlansAccepted := by
  constructor
  · intro record o call t haccepted ht
    rw [evaluateLifecycleTransition_some, Except.ok.injEq] at ht
    rw [← ht]
    exact observedResult_planAccepted_iff sha256 o call haccepted
  · intro repo actions haccepted hactions
    exact hactions.invariant (fun _ _ ha h => h.serve ha) haccepted

def sampleShift : LifecycleObservation :=
  { sampleObservation with sweepDetected := true, structureShiftDetected := true, rrValid := true }

/-- A TRIGGERED record is observed without its entry: the geometry gate cannot reject it, and it
is written with a plan that is refused. -/
theorem triggered_record_loses_plan :
    (∀ record ∈ (sampleRepository.serve id (.create sampleShift (sampleCall 0))).records.rows,
      record.currentState = .triggered ∧ storedPlanGeometryFailure record = none) ∧
    (Transition.run (Repository.serve id) sampleRepository
        [.create sampleShift (sampleCall 0),
          .observe { sampleShift with entryLow := NA } (sampleCall 60000000)]).records.rows.map
      (fun record => (record.currentState, storedPlanGeometryFailure record)) =
        [(.triggered, some "missing_entry_low")] := by
  decide +kernel

/-- A TRIGGERED record that is observed with its plan. -/
theorem triggered_record_keeps_plan :
    (Transition.run (Repository.serve id) sampleRepository
      [.create sampleShift (sampleCall 0), .observe sampleShift (sampleCall 60000000)]).PlansAccepted := by
  refine (served_records_keep_accepted_plan id).2 sampleRepository _ (fun _ h => by cases h) ?_
  refine ⟨trivial, ?_, trivial⟩
  show ∀ record ∈ (sampleRepository.serve id
    (.create sampleShift (sampleCall 0))).records.fetch "lifecycle-1", _
  decide +kernel

end Plans

end CandleCraft.Lifecycle
