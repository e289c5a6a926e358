import CandleCraft.Kernel.Transition
import CandleCraft.Lifecycle.EconomicIdentity
import CandleCraft.Lifecycle.Window

/-!
# The plan version of a progress row

A row is bound to the plan version of its lifecycle when it is created, or later if it was stored
while it waited for a proven one; the statement that stores the row keeps a plan version that is
there. A row that is read has its blank plan versions removed, as the validators do.
-/

namespace CandleCraft.Lifecycle

open PyText Relational Transition

section Rows

/-- `SetupLifecycleOutcomeProgress` with the columns of its plan version. `planVersionBinding` is
the entry of that name in the metadata. The key columns are texts that passed the validators. -/
structure VersionedProgress extends OutcomeProgress where
  planVersionId : Option String
  planVersionBinding : Option String
  eligibilityCutoffObserved : Bool
  lifecycleId_text : fieldText lifecycleId = lifecycleId
  planIdentity_text : fieldText planIdentity = planIdentity

def planVersionBindingAwaiting : String := "awaiting_proven_plan_version"

def planVersionBindingBoundForward : String := "bound_forward_to_proven_plan_version"

def canonicalPlanIdentity (sha256 : String → String) (record : SetupLifecycleRecord) : String :=
  planIdentity sha256 record identityPrice

namespace VersionedProgress

variable (p : VersionedProgress)

/-- `_metadata(progress).get(PLAN_VERSION_BINDING_KEY)`. -/
def bindingMarker : Option String :=
  match p.metadata with
  | .ok _ => p.planVersionBinding
  | .error _ => none

def withBinding (planVersionId marker : Option String) : VersionedProgress :=
  { p with
    metadata := .ok p.metadataOrEmpty
    planVersionId := planVersionId
    planVersionBinding := marker }

def withoutBindingProvenance : VersionedProgress :=
  p.withBinding none none

def withPlanVersion (planVersionId : Option String) : VersionedProgress :=
  { p with planVersionId := planVersionId }

end VersionedProgress

end Rows

section Binding

variable (sha256 : String → String) (progress : VersionedProgress) (record : SetupLifecycleRecord)

def initialPlanVersionBinding : String :=
  if (provenProgressPlanVersionId sha256 record).isSome then "bound_at_creation"
  else if record.planVersionConflict then "unresolved"
  else if (record.planVersionId.bind identityText).isNone then planVersionBindingAwaiting
  else "unresolved"

/-- `_new_progress` with the columns of the plan version. -/
def newVersionedProgress (planIdentity executionTimeframe : String) (clock : Clock) :
    VersionedProgress :=
  { newProgress record (fieldText planIdentity) executionTimeframe clock with
    lifecycleId := fieldText record.lifecycleId
    planVersionId := provenProgressPlanVersionId sha256 record
    planVersionBinding := some (initialPlanVersionBinding sha256 record)
    eligibilityCutoffObserved := false
    lifecycleId_text := fieldText_fieldText _
    planIdentity_text := fieldText_fieldText _ }

structure PlanVersionBindDecision where
  progress : VersionedProgress
  bound : Bool
  reason : String

def bindProgressToProvenPlanVersion : PlanVersionBindDecision :=
  if progress.lifecycleId ≠ record.lifecycleId then ⟨progress, false, "different_lifecycle"⟩
  else
    match progress.planVersionId, provenProgressPlanVersionId sha256 record with
    | some stored, some proven =>
      if stored = proven then ⟨progress, false, "preserved"⟩
      else ⟨progress, false, "wrong_plan_version"⟩
    | some _, none => ⟨progress, false, "preserved_unproven_economics"⟩
    | none, none => ⟨progress, false, "unresolved"⟩
    | none, some proven =>
      if progress.bindingMarker ≠ some planVersionBindingAwaiting then
        ⟨progress, false, "unresolved_legacy"⟩
      else if progress.planIdentity ≠ canonicalPlanIdentity sha256 record then
        ⟨progress, false, "economics_mismatch"⟩
      else
        ⟨progress.withBinding (some proven) (some planVersionBindingBoundForward), true,
          "bound_forward"⟩

def bindExistingNullRow (existing : VersionedProgress) : VersionedProgress :=
  let decision := bindProgressToProvenPlanVersion sha256 existing record
  let identityMatches := decide (progress.planIdentity = existing.planIdentity ∧
    existing.planIdentity = canonicalPlanIdentity sha256 record)
  if decision.bound ∧ identityMatches ∧ decision.progress.planVersionId.isSome then
    progress.withBinding decision.progress.planVersionId (some planVersionBindingBoundForward)
  else if identityMatches ∧ existing.bindingMarker = some planVersionBindingAwaiting then
    progress.withBinding none (some planVersionBindingAwaiting)
  else progress.withoutBindingProvenance

def resolvePersistedPlanVersion (existing : Option VersionedProgress) : VersionedProgress :=
  if progress.lifecycleId ≠ record.lifecycleId then
    progress.withPlanVersion (existing.bind fun row => row.planVersionId)
  else
    match existing with
    | some row =>
      match row.planVersionId with
      | some existingId => progress.withPlanVersion (some existingId)
      | none => bindExistingNullRow sha256 progress record row
    | none =>
      let identityMatches := decide (progress.planIdentity = canonicalPlanIdentity sha256 record)
      if progress.planVersionId.isSome ∧
          progress.planVersionId = provenProgressPlanVersionId sha256 record ∧ identityMatches then
        progress
      else if ¬ identityMatches then progress.withoutBindingProvenance
      else if progress.planVersionId.isSome then progress.withPlanVersion none
      else progress

end Binding

section Storage

/-- The tables `upsert_outcome_progress` reads and writes. -/
structure ProgressStore where
  authority : Outbox.Authority
  records : Table SetupLifecycleRecord fun r => r.lifecycleId
  progress : Table VersionedProgress fun p => (p.lifecycleId, p.planIdentity)

/-- A stored plan version that the conflict clause keeps: it is not `NULL`, and more than spaces. -/
def storedPlanVersion (column : Option String) : Option String :=
  column.filter fun text => decide (stripBy (· == ' ') text ≠ "")

namespace VersionedProgress

def ofRow (row : VersionedProgress) : VersionedProgress :=
  { row with
    planVersionId := row.planVersionId.bind identityText
    eligibilityCutoffObserved := false }

def insertedRow (p : VersionedProgress) : VersionedProgress :=
  { p with
    lastEligibilityDecisionAt :=
      if p.eligibilityCutoffObserved then p.lastEligibilityDecisionAt else none
    eligibilityCutoffObserved := false }

/-- The row that `ON CONFLICT DO UPDATE` leaves in the place of `row`. -/
def conflictRow (row excluded : VersionedProgress) : VersionedProgress :=
  { excluded with
    firstEvaluatedAt := row.firstEvaluatedAt
    planVersionId :=
      if (storedPlanVersion row.planVersionId).isSome then row.planVersionId
      else excluded.planVersionId
    lastEligibilityDecisionAt :=
      if excluded.eligibilityCutoffObserved then excluded.lastEligibilityDecisionAt
      else row.lastEligibilityDecisionAt
    eligibilityCutoffObserved := false }

end VersionedProgress

namespace ProgressStore

variable (sha256 : String → String) (store : ProgressStore)

def requireCurrentEpochLifecycleId (lifecycleId : String) : Option SetupLifecycleRecord :=
  match store.authority.activeEpochId with
  | none => none
  | some epoch =>
    match Outbox.Ownership.requireCurrentEpochLifecycleId store.authority lifecycleId epoch with
    | .error _ => none
    | .ok _ => store.records.fetch (strip lifecycleId)

def getOutcomeProgress (lifecycleId planIdentity : String) : Option VersionedProgress :=
  (store.progress.fetch (fieldText lifecycleId, fieldText planIdentity)).map
    VersionedProgress.ofRow

def getRecordByLifecycleId (lifecycleId : String) : Option SetupLifecycleRecord :=
  if fieldText lifecycleId = NA then none else store.records.fetch (fieldText lifecycleId)

/-- The row `upsert_outcome_progress` hands to its statement. -/
def resolvedProgress (progress : VersionedProgress) : VersionedProgress :=
  match store.getRecordByLifecycleId progress.lifecycleId with
  | none => progress
  | some record =>
    resolvePersistedPlanVersion sha256 progress record
      (store.getOutcomeProgress progress.lifecycleId progress.planIdentity)

/-- The row the statement of `upsert_outcome_progress` leaves under the key of `p`. -/
def writtenRow (p : VersionedProgress) : VersionedProgress :=
  match store.progress.fetch (p.lifecycleId, p.planIdentity) with
  | none => p.insertedRow
  | some row => row.conflictRow p

/-- The statement of `upsert_outcome_progress`. -/
def write (p : VersionedProgress) : ProgressStore :=
  { store with progress := store.progress.put (store.writtenRow p) }

/-- `upsert_outcome_progress`; the store is left as it is when the ownership check raises. -/
def upsertOutcomeProgress (progress : VersionedProgress) : ProgressStore :=
  match store.requireCurrentEpochLifecycleId progress.lifecycleId with
  | none => store
  | some _ => store.write (store.resolvedProgress sha256 progress)

/-- The binding at the start of an evaluation: a stored row of the record is bound to the plan
version of the record as the evaluation holds it, and written if that changed its plan version. -/
def bindStored (record : SetupLifecycleRecord) (planIdentity : String) : ProgressStore :=
  match store.getOutcomeProgress record.lifecycleId planIdentity with
  | none => store
  | some loaded =>
    let bound := (bindProgressToProvenPlanVersion sha256 loaded record).progress
    if bound.planVersionId ≠ loaded.planVersionId then store.upsertOutcomeProgress sha256 bound
    else store

end ProgressStore

/-- The writes that reach the tables: a progress row from any caller, the binding of a stored row,
and in between any change of a record or of the runtime epoch. -/
inductive ProgressWrite where
  | upsert (progress : VersionedProgress)
  | bindStored (record : SetupLifecycleRecord) (planIdentity : String)
  | putRecord (record : SetupLifecycleRecord)
  | setAuthority (authority : Outbox.Authority)

def ProgressStore.apply (sha256 : String → String) (store : ProgressStore) :
    ProgressWrite → ProgressStore
  | .upsert progress => store.upsertOutcomeProgress sha256 progress
  | .bindStored record planIdentity => store.bindStored sha256 record planIdentity
  | .putRecord record => { store with records := store.records.put record }
  | .setAuthority authority => { store with authority := authority }

end Storage

section Resolution

variable {sha256 : String → String} {progress : VersionedProgress} {record : SetupLifecycleRecord}

/-- A plan version that a row may be bound to: it is minted from the economics of the record, and
the row is the one of these economics. -/
def Bindable (sha256 : String → String) (record : SetupLifecycleRecord)
    (planIdentity planVersion : String) : Prop :=
  record.Remints sha256 planVersion ∧ planIdentity = canonicalPlanIdentity sha256 record

variable (sha256 progress record) in
/-- A decision to bind is a decision for the proven plan version of the row's own plan. -/
theorem bindProgress_cases :
    (bindProgressToProvenPlanVersion sha256 progress record).progress = progress ∨
      ∃ proven, provenProgressPlanVersionId sha256 record = some proven ∧
        progress.planIdentity = canonicalPlanIdentity sha256 record ∧
        (bindProgressToProvenPlanVersion sha256 progress record).progress =
          progress.withBinding (some proven) (some planVersionBindingBoundForward) := by
  unfold bindProgressToProvenPlanVersion
  split
  · exact .inl rfl
  · split
    · split
      · exact .inl rfl
      · exact .inl rfl
    · exact .inl rfl
    · exact .inl rfl
    · rename_i proven _ hproven
      split
      · exact .inl rfl
      · split
        · exact .inl rfl
        · rename_i hidentity
          exact .inr ⟨proven, hproven, not_not.1 hidentity, rfl⟩

theorem bindExistingNullRow_bindable {existing : VersionedProgress} {planVersion : String}
    (hexisting : existing.planVersionId = none)
    (h : (bindExistingNullRow sha256 progress record existing).planVersionId =
      some planVersion) :
    Bindable sha256 record progress.planIdentity planVersion := by
  unfold bindExistingNullRow at h
  dsimp only at h
  split at h
  · rename_i hbound
    obtain ⟨-, hmatches, -⟩ := hbound
    obtain ⟨hown, hcanonical⟩ := of_decide_eq_true hmatches
    rcases bindProgress_cases sha256 existing record with
      hsame | ⟨proven, hproven, -, hdecision⟩
    · -- an unchanged row has no plan version to hand on
      have hnone : (bindProgressToProvenPlanVersion sha256 existing record).progress.planVersionId =
          none := by rw [hsame, hexisting]
      exact absurd (hnone.symm.trans h) (by simp)
    · have hversion : some proven = some planVersion := by
        refine Eq.trans ?_ h
        show some proven =
          (bindProgressToProvenPlanVersion sha256 existing record).progress.planVersionId
        rw [hdecision, VersionedProgress.withBinding]
      rw [← Option.some.inj hversion]
      exact ⟨SetupLifecycleRecord.remints_of_proven hproven, hown.trans hcanonical⟩
  · split at h
    · cases h
    · cases h

/-- A row is stored with the plan version it has, or with one it may be bound to. -/
theorem resolvePersistedPlanVersion_cases {existing : Option VersionedProgress}
    {planVersion : String} (hrecord : progress.lifecycleId = record.lifecycleId)
    (h : (resolvePersistedPlanVersion sha256 progress record existing).planVersionId =
      some planVersion) :
    (∃ row, existing = some row ∧ row.planVersionId = some planVersion) ∨
      Bindable sha256 record progress.planIdentity planVersion := by
  unfold resolvePersistedPlanVersion at h
  rw [if_neg (not_not.2 hrecord)] at h
  split at h
  · rename_i row
    split at h
    · rename_i existingId hid
      exact .inl ⟨row, rfl, hid.trans h⟩
    · rename_i hnone
      exact .inr (bindExistingNullRow_bindable hnone h)
  · right
    dsimp only at h
    split at h
    · rename_i hproven
      obtain ⟨-, hproven, hidentity⟩ := hproven
      exact ⟨SetupLifecycleRecord.remints_of_proven (hproven.symm.trans h),
        of_decide_eq_true hidentity⟩
    · split at h
      · cases h
      · split at h
        · cases h
        · rename_i hnone
          rw [h] at hnone
          exact absurd rfl hnone

variable (sha256 progress record) in
theorem resolvePersistedPlanVersion_key (existing : Option VersionedProgress) :
    (resolvePersistedPlanVersion sha256 progress record existing).toProgressKey =
      progress.toProgressKey := by
  have hnull : ∀ row, (bindExistingNullRow sha256 progress record row).toProgressKey =
      progress.toProgressKey := by
    intro row
    unfold bindExistingNullRow
    dsimp only
    split
    · rfl
    · split <;> rfl
  unfold resolvePersistedPlanVersion
  split
  · rfl
  · split
    · split
      · rfl
      · exact hnull _
    · dsimp only
      split
      · rfl
      · split
        · rfl
        · split <;> rfl

end Resolution

section Runs

variable (sha256 : String → String)
variable {progress : VersionedProgress}

def ProgressStore.planVersionOf (store : ProgressStore) (key : String × String) : Option String :=
  (store.progress.fetch key).bind fun row => storedPlanVersion row.planVersionId

variable {sha256} {store : ProgressStore} {key : String × String} {planVersion : String}

theorem identityText_of_not_stored {column : Option String}
    (h : storedPlanVersion column = none) : column.bind identityText = none := by
  cases column with
  | none => rfl
  | some text =>
    have hspaces : stripBy (· == ' ') text = "" := by
      by_contra hne
      rw [storedPlanVersion, Option.filter_some, if_pos (decide_eq_true hne)] at h
      cases h
    have hstrip : strip text = "" := by
      rw [stripBy_eq_empty] at hspaces
      refine stripBy_eq_empty.2 fun c hc => ?_
      rw [eq_of_beq (hspaces c hc)]
      decide
    rw [Option.bind_some, identityText, if_pos (.inl hstrip)]

theorem ProgressStore.writtenRow_key (store : ProgressStore) (p : VersionedProgress) :
    ((store.writtenRow p).lifecycleId, (store.writtenRow p).planIdentity) =
      (p.lifecycleId, p.planIdentity) := by
  unfold writtenRow
  split <;> rfl

theorem VersionedProgress.conflictRow_planVersion (row p : VersionedProgress) :
    storedPlanVersion (row.conflictRow p).planVersionId =
      (storedPlanVersion row.planVersionId <|> storedPlanVersion p.planVersionId) := by
  unfold conflictRow
  dsimp only
  cases h : storedPlanVersion row.planVersionId with
  | none => rw [if_neg (by simp)]; rfl
  | some id => rw [if_pos (by simp), h]; rfl

/-- A write leaves under its key the plan version that was stored there, or else the one of the row
it writes. -/
theorem ProgressStore.planVersionOf_write (store : ProgressStore) (p : VersionedProgress)
    (key : String × String) :
    (store.write p).planVersionOf key =
      if (p.lifecycleId, p.planIdentity) = key then
        store.planVersionOf key <|> storedPlanVersion p.planVersionId
      else store.planVersionOf key := by
  unfold planVersionOf write
  rw [Table.fetch_put, writtenRow_key]
  by_cases hkey : (p.lifecycleId, p.planIdentity) = key
  · rw [if_pos hkey, if_pos hkey, Option.bind_some, writtenRow, hkey]
    cases store.progress.fetch key with
    | none => rfl
    | some row => exact row.conflictRow_planVersion p
  · rw [if_neg hkey, if_neg hkey]

/-- The record of a progress row whose lifecycle the active epoch owns. -/
theorem ProgressStore.record_of_required {record : SetupLifecycleRecord}
    (h : store.requireCurrentEpochLifecycleId progress.lifecycleId = some record) :
    store.records.fetch progress.lifecycleId = some record ∧
      store.getRecordByLifecycleId progress.lifecycleId = some record ∧
      progress.lifecycleId = record.lifecycleId := by
  unfold requireCurrentEpochLifecycleId at h
  split at h
  · cases h
  · split at h
    · cases h
    · rename_i hownership
      have hnamed : ¬ (strip progress.lifecycleId = "" ∨
          upper (strip progress.lifecycleId) = NA) := by
        intro hblank
        rw [Outbox.Ownership.requireCurrentEpochLifecycleId, if_pos hblank] at hownership
        cases hownership
      have htext : strip progress.lifecycleId = progress.lifecycleId := by
        have hfield := progress.lifecycleId_text
        rwa [fieldText, if_neg fun hempty => hnamed (.inl hempty)] at hfield
      rw [htext] at h
      refine ⟨h, ?_, (Table.key_of_fetch h).symm⟩
      rw [getRecordByLifecycleId, progress.lifecycleId_text, if_neg, h]
      intro hna
      refine hnamed (.inr ?_)
      rw [htext, hna]
      decide

theorem ProgressStore.loaded_of_not_stored (store : ProgressStore) {progress row : VersionedProgress}
    (hstored : store.planVersionOf (progress.lifecycleId, progress.planIdentity) = none)
    (hrow : store.getOutcomeProgress progress.lifecycleId progress.planIdentity = some row) :
    row.planVersionId = none := by
  rw [getOutcomeProgress, progress.lifecycleId_text, progress.planIdentity_text] at hrow
  obtain ⟨stored, hfetch, rfl⟩ := Option.map_eq_some_iff.1 hrow
  rw [planVersionOf, hfetch, Option.bind_some] at hstored
  exact identityText_of_not_stored hstored

theorem ProgressStore.upsert_keeps (progress : VersionedProgress)
    (h : store.planVersionOf key = some planVersion) :
    (store.upsertOutcomeProgress sha256 progress).planVersionOf key = some planVersion := by
  unfold upsertOutcomeProgress
  split
  · exact h
  · rw [planVersionOf_write, h]
    exact ite_self _

/-- A plan version that an upsert stores is one the row may be bound to. -/
theorem ProgressStore.upsert_binds (hbefore : store.planVersionOf key ≠ some planVersion)
    (h : (store.upsertOutcomeProgress sha256 progress).planVersionOf key = some planVersion) :
    ∃ record, store.records.fetch key.1 = some record ∧
      Bindable sha256 record key.2 planVersion := by
  unfold upsertOutcomeProgress at h
  split at h
  · exact absurd h hbefore
  · rename_i record hrequired
    obtain ⟨hfetch, hrecord, hid⟩ := record_of_required hrequired
    have hresolved : store.resolvedProgress sha256 progress =
        resolvePersistedPlanVersion sha256 progress record
          (store.getOutcomeProgress progress.lifecycleId progress.planIdentity) := by
      rw [resolvedProgress, hrecord]
    have hkeys := resolvePersistedPlanVersion_key sha256 progress record
      (store.getOutcomeProgress progress.lifecycleId progress.planIdentity)
    rw [planVersionOf_write, hresolved, congrArg ProgressKey.lifecycleId hkeys,
      congrArg ProgressKey.planIdentity hkeys] at h
    split at h
    · rename_i hkey
      subst hkey
      -- the row had no plan version, so that the written one is a resolved one
      cases hstored : store.planVersionOf (progress.lifecycleId, progress.planIdentity) with
      | some id =>
        rw [hstored] at h hbefore
        exact absurd h hbefore
      | none =>
        rw [hstored] at h
        rcases resolvePersistedPlanVersion_cases hid (Option.eq_some_of_filter_eq_some h) with
          ⟨row, hrow, hversion⟩ | hbindable
        · rw [store.loaded_of_not_stored hstored hrow] at hversion
          cases hversion
        · exact ⟨record, hfetch, hbindable⟩
    · exact absurd h hbefore

theorem ProgressStore.apply_keeps (store : ProgressStore) (write : ProgressWrite)
    (h : store.planVersionOf key = some planVersion) :
    (store.apply sha256 write).planVersionOf key = some planVersion := by
  cases write with
  | upsert progress => exact upsert_keeps progress h
  | bindStored record identity =>
    unfold apply bindStored
    dsimp only
    split
    · exact h
    · split
      · exact upsert_keeps _ h
      · exact h
  | putRecord | setAuthority => exact h

theorem ProgressStore.apply_binds (store : ProgressStore) (write : ProgressWrite)
    (hbefore : store.planVersionOf key ≠ some planVersion)
    (h : (store.apply sha256 write).planVersionOf key = some planVersion) :
    ∃ record, store.records.fetch key.1 = some record ∧
      Bindable sha256 record key.2 planVersion := by
  cases write with
  | upsert progress => exact upsert_binds hbefore h
  | bindStored record identity =>
    unfold apply bindStored at h
    dsimp only at h
    split at h
    · exact absurd h hbefore
    · split at h
      · exact upsert_binds hbefore h
      · exact absurd h hbefore
  | putRecord | setAuthority => exact absurd h hbefore

/-- Over every sequence of upserts and bindings, with the records changing in between, a stored plan
version stays as it is; and a plan version that was not stored at the start was stored by one
write, into a row of the plan of its record, whose economics at that moment remint it. -/
theorem stored_plan_versions_are_proven (sha256 : String → String) (start : ProgressStore)
    (writes : List ProgressWrite) (lifecycleId planIdentity planVersion : String) :
    (start.planVersionOf (lifecycleId, planIdentity) = some planVersion →
      (run (ProgressStore.apply sha256) start writes).planVersionOf (lifecycleId, planIdentity) =
        some planVersion) ∧
    ((run (ProgressStore.apply sha256) start writes).planVersionOf (lifecycleId, planIdentity) =
        some planVersion →
      start.planVersionOf (lifecycleId, planIdentity) = some planVersion ∨
      ∃ before write after record, writes = before ++ write :: after ∧
        (run (ProgressStore.apply sha256) start before).planVersionOf (lifecycleId, planIdentity) =
          none ∧
        (run (ProgressStore.apply sha256) start before).records.fetch lifecycleId = some record ∧
        record.Remints sha256 planVersion ∧
        planIdentity = canonicalPlanIdentity sha256 record) := by
  constructor
  · intro h
    exact run_invariant
      (I := fun store : ProgressStore =>
        store.planVersionOf (lifecycleId, planIdentity) = some planVersion)
      (ProgressStore.apply sha256) (fun store write => store.apply_keeps write) h writes
  · intro h
    by_cases hstart : start.planVersionOf (lifecycleId, planIdentity) = some planVersion
    · exact .inl hstart
    · obtain ⟨before, write, after, rfl, hbefore, hafter⟩ :=
        exists_crossing
          (P := fun store : ProgressStore =>
            store.planVersionOf (lifecycleId, planIdentity) = some planVersion)
          (ProgressStore.apply sha256) hstart h
      obtain ⟨record, hfetch, hremints, hidentity⟩ := ProgressStore.apply_binds _ write hbefore hafter
      refine .inr ⟨before, write, after, record, rfl, ?_, hfetch, hremints, hidentity⟩
      -- another plan version would have been kept by the write
      by_contra hother
      obtain ⟨other, hsome⟩ := Option.ne_none_iff_exists'.1 hother
      rw [ProgressStore.apply_keeps _ write hsome] at hafter
      exact hbefore (hsome.trans hafter)

-- a plan that is first tracked without a plan version, and bound once its record has one
example :
    let first := createdStep (fun _ => "c0de") sampleObservation (sampleCall 0)
    let second := observedStep (fun _ => "c0de") sampleListed (sampleCall 60000000) first.after
    let progress := newVersionedProgress (fun _ => "c0de") first.after "plan-c0de" "15m" ⟨0, none⟩
    (run (ProgressStore.apply fun _ => "c0de") ⟨sampleAuthority, .empty, .empty⟩
      [.putRecord first.after, .upsert progress, .putRecord second.after,
        .bindStored second.after "plan-c0de"]).planVersionOf ("lifecycle-1", "plan-c0de") =
      some "plan-version-c0de" := by
  decide +kernel

end Runs

end CandleCraft.Lifecycle
