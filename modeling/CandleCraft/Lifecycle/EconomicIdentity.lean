import CandleCraft.Lifecycle.Confirmation

/-!
# Latched economic identities

What `latch_economic_identities` guarantees over the runs on one lifecycle: the setup and the
plan version of a record are latched once, a plan version without a reported conflict is the
one minted from the record's own economics, and so is every plan version that
`proven_progress_plan_version_id` hands to a progress row.
-/

namespace CandleCraft.Lifecycle

open PyDecimal PyText SetupLifecycleState

section MintedTexts

/-- A digest written with hexadecimal digits, as `hashlib.sha256(...).hexdigest()` is. -/
def HexDigest (sha256 : String → String) : Prop :=
  ∀ payload, ∀ c ∈ (sha256 payload).toList, c ∈ "0123456789abcdef".toList

theorem identityText_of_identityText {value text : String} (h : identityText value = some text) :
    identityText text = some text := by
  unfold identityText at h
  split at h
  · cases h
  · rename_i hvalue
    obtain rfl := Option.some.inj h
    have hstrip : strip (strip value) = strip value := stripBy_stripBy isSpace value
    rw [identityText, hstrip, if_neg hvalue]

/-- A label followed by a hexadecimal digest is an identity text, if its capitals are not those of
the missing marker. -/
theorem identityText_digest {sha256 : String → String} (hex : HexDigest sha256) (payload : String)
    {label : String} (hlabel : label.toList.any isSpace = false)
    (hhead : (upper label).toList.head? = some 'S' ∨ (upper label).toList.head? = some 'P') :
    identityText (label ++ sha256 payload) = some (label ++ sha256 payload) := by
  have hspace : ∀ c ∈ (label ++ sha256 payload).toList, isSpace c = false := by
    intro c hc
    rw [String.toList_append] at hc
    rcases List.mem_append.1 hc with hc | hc
    · exact Bool.eq_false_iff.2 (List.any_eq_false.1 hlabel c hc)
    · have hdigits : "0123456789abcdef".toList.any isSpace = false := by decide
      exact Bool.eq_false_iff.2 (List.any_eq_false.1 hdigits c (hex payload c hc))
  -- the first letter tells the text from the empty one and from the missing marker
  have hupper : (upper (label ++ sha256 payload)).toList.head? = (upper label).toList.head? := by
    have hne : (upper label).toList ≠ [] := by
      intro hnil
      rw [hnil] at hhead
      rcases hhead with h | h <;> cases h
    have happend : (upper (label ++ sha256 payload)).toList =
        (upper label).toList ++ (upper (sha256 payload)).toList := by
      simp only [upper, String.toList_ofList, String.toList_append, List.map_append]
    rw [happend, List.head?_append_of_ne_nil _ hne]
  rw [identityText, strip_eq_self hspace, if_neg]
  rintro (h | h)
  · rw [h] at hupper
    rw [← hupper] at hhead
    exact absurd hhead (by decide)
  · rw [h] at hupper
    rw [← hupper] at hhead
    exact absurd hhead (by decide)

variable {sha256 : String → String} {record : SetupLifecycleRecord}

theorem mintSetupId_identityText (hex : HexDigest sha256) {venue id : String}
    (h : mintSetupId sha256 venue record = .ok id) : identityText id = some id := by
  unfold mintSetupId at h
  obtain ⟨_, -, h⟩ := Scan.bind_ok h
  obtain ⟨_, -, h⟩ := Scan.bind_ok h
  obtain ⟨_, -, h⟩ := Scan.bind_ok h
  obtain ⟨_, -, h⟩ := Scan.bind_ok h
  obtain ⟨_, -, h⟩ := Scan.bind_ok h
  rw [← Except.ok.inj h]
  exact identityText_digest hex _ (by decide) (by decide)

theorem mintPlanVersionId_identityText (hex : HexDigest sha256) {setupId id : String}
    (h : mintPlanVersionId sha256 setupId record = .ok id) : identityText id = some id := by
  unfold mintPlanVersionId at h
  obtain ⟨_, -, h⟩ := Scan.bind_ok h
  obtain ⟨_, -, h⟩ := Scan.bind_ok h
  obtain ⟨_, -, h⟩ := Scan.bind_ok h
  obtain ⟨_, -, h⟩ := Scan.bind_ok h
  obtain ⟨_, -, h⟩ := Scan.bind_ok h
  obtain ⟨_, -, h⟩ := Scan.bind_ok h
  obtain ⟨_, -, h⟩ := Scan.bind_ok h
  obtain ⟨_, -, h⟩ := Scan.bind_ok h
  rw [← Except.ok.inj h]
  exact identityText_digest hex _ (by decide) (by decide)

theorem mintPlanVersionId_identity {setupId setup : String}
    (h : identityText setupId = some setup) :
    mintPlanVersionId sha256 setup record = mintPlanVersionId sha256 setupId record := by
  have hsetup : requiredIdentityText "setup_id" "setup_id_unavailable" id setup =
      requiredIdentityText "setup_id" "setup_id_unavailable" id setupId := by
    rw [requiredIdentityText, requiredIdentityText, identityText_of_identityText h, h]
  rw [mintPlanVersionId, mintPlanVersionId, hsetup]

end MintedTexts

theorem eq_ok_of_toOption {α : Type} {x : Except String α} {a : α} (h : x.toOption = some a) :
    x = .ok a := by
  cases x with
  | error reason => cases h
  | ok b => rw [Option.some.inj h]

section Reasons

/-- The reason of a plan version that the economics of its record do not reproduce. -/
def planVersionInvariantViolation : String := "plan_version_invariant_violation"

theorem isIn_joinReasons {needle reason : String} {reasons : List String} (h : reason ∈ reasons)
    (hneedle : needle ≠ "") (hin : isIn needle reason = true) :
    isIn needle ((joinReasons reasons).getD "") = true := by
  have hreason : reason ≠ "" := by
    rintro rfl
    rw [isIn_iff, String.toList_empty, List.infix_nil] at hin
    exact hneedle (String.toList_eq_nil_iff.1 hin)
  have hmem : reason ∈ (reasons.filter fun reason => decide (reason ≠ "")).eraseDups :=
    List.mem_eraseDups.2 (List.mem_filter.2 ⟨h, decide_eq_true hreason⟩)
  unfold joinReasons
  split
  · rename_i hnil
    rw [hnil] at hmem
    cases hmem
  · exact isIn_intercalate hmem hin

/-- `REASON_PLAN_VERSION_INVARIANT_VIOLATION in (record.economic_identity_reason or "")`. -/
def SetupLifecycleRecord.planVersionConflict (record : SetupLifecycleRecord) : Bool :=
  isIn planVersionInvariantViolation (record.economicIdentityReason.getD "")

end Reasons

section Latch

variable {sha256 : String → String} {record : SetupLifecycleRecord}
variable {planVersion : String}

def SetupLifecycleRecord.Remints (sha256 : String → String) (record : SetupLifecycleRecord)
    (planVersion : String) : Prop :=
  ∃ setup, record.setupId = some setup ∧ mintPlanVersionId sha256 setup record = .ok planVersion

def provenProgressPlanVersionId (sha256 : String → String) (record : SetupLifecycleRecord) :
    Option String :=
  match record.planVersionId.bind identityText with
  | none => none
  | some stored =>
    if record.planVersionConflict then none
    else
      match record.setupId.bind identityText with
      | none => none
      | some setup =>
        if (mintPlanVersionId sha256 setup record).toOption = some stored then some stored else none

theorem SetupLifecycleRecord.remints_of_proven
    (h : provenProgressPlanVersionId sha256 record = some planVersion) :
    record.Remints sha256 planVersion := by
  unfold provenProgressPlanVersionId at h
  split at h
  · cases h
  · split at h
    · cases h
    · split at h
      · cases h
      · rename_i hsetup
        split at h
        · rename_i hmint
          obtain rfl := Option.some.inj h
          obtain ⟨setupId, hid, hidentity⟩ := Option.bind_eq_some_iff.1 hsetup
          refine ⟨setupId, hid, ?_⟩
          rw [← mintPlanVersionId_identity hidentity]
          exact eq_ok_of_toOption hmint
        · cases h

/-- The stored identities are the texts their readers take them for. -/
structure SetupLifecycleRecord.CanonicalIdentities (record : SetupLifecycleRecord) : Prop where
  setupId : record.setupId.bind identityText = record.setupId
  planVersionId : record.planVersionId.bind identityText = record.planVersionId

structure SetupLifecycleRecord.KeepsIdentities (before after : SetupLifecycleRecord) : Prop where
  setupId : ∀ id, before.setupId = some id → after.setupId = some id
  planVersionId : ∀ id, before.planVersionId = some id → after.planVersionId = some id

variable {venue : String} {previous : Option SetupLifecycleRecord} {planLocked : Bool}

theorem identityText_of_latched {a b : Option String} {id : String}
    (h : (a.bind identityText <|> b.bind identityText) = some id) : identityText id = some id := by
  rcases (Option.orElse_eq_some _ _ _).1 h with h | ⟨-, h⟩
  · obtain ⟨_, -, h⟩ := Option.bind_eq_some_iff.1 h
    exact identityText_of_identityText h
  · obtain ⟨_, -, h⟩ := Option.bind_eq_some_iff.1 h
    exact identityText_of_identityText h

theorem mintPlanVersionId_latch (setup : String) :
    mintPlanVersionId sha256 setup
        (latchEconomicIdentities sha256 record venue planLocked previous) =
      mintPlanVersionId sha256 setup record := rfl

section Parts

variable (sha256 record venue previous)

def setupResult : Except String String :=
  match (previous.getD record).setupId.bind identityText <|> record.setupId.bind identityText with
  | some setupId => .ok setupId
  | none => mintSetupId sha256 venue record

def planCandidate : Except String String :=
  match setupResult sha256 record venue previous with
  | .error _ => .error "setup_id_unavailable"
  | .ok setupId => mintPlanVersionId sha256 setupId record

def planResult (planLocked : Bool) : Option String × Option String :=
  latchedPlan
    ((previous.getD record).planVersionId.bind identityText <|>
      record.planVersionId.bind identityText)
    planLocked (setupResult sha256 record venue previous).toOption
    (planCandidate sha256 record venue previous) (storedPlanGeometryFailure record).isNone

theorem latch_setupId :
    (latchEconomicIdentities sha256 record venue planLocked previous).setupId =
      (setupResult sha256 record venue previous).toOption := rfl

theorem latch_planVersionId :
    (latchEconomicIdentities sha256 record venue planLocked previous).planVersionId =
      (planResult sha256 record venue previous planLocked).1 := rfl

theorem latch_reason :
    (latchEconomicIdentities sha256 record venue planLocked previous).economicIdentityReason =
      joinReasons [mintReason (setupResult sha256 record venue previous),
        (planResult sha256 record venue previous planLocked).2.getD ""] := rfl

end Parts

theorem setup_of_candidate (h : planCandidate sha256 record venue previous = .ok planVersion) :
    ∃ setup, setupResult sha256 record venue previous = .ok setup ∧
      mintPlanVersionId sha256 setup record = .ok planVersion := by
  unfold planCandidate at h
  split at h
  · cases h
  · rename_i setup hsetup
    exact ⟨setup, hsetup, h⟩

theorem planResult_cases
    (h : (planResult sha256 record venue previous planLocked).1 = some planVersion) :
    ((previous.getD record).planVersionId.bind identityText <|>
        record.planVersionId.bind identityText) = some planVersion ∨
      planCandidate sha256 record venue previous = .ok planVersion := by
  unfold planResult latchedPlan at h
  split at h
  · rename_i hlatched
    exact .inl (hlatched.trans h)
  · split_ifs at h
    exact .inr (eq_ok_of_toOption h)

theorem latch_canonical (hex : HexDigest sha256) :
    (latchEconomicIdentities sha256 record venue planLocked previous).CanonicalIdentities := by
  constructor
  · rw [latch_setupId]
    cases hsetup : setupResult sha256 record venue previous with
    | error reason => rfl
    | ok setup =>
      rw [Except.toOption, Option.bind_some]
      unfold setupResult at hsetup
      split at hsetup
      · rename_i hlatched
        rw [← Except.ok.inj hsetup]
        exact identityText_of_latched hlatched
      · exact mintSetupId_identityText hex hsetup
  · rw [latch_planVersionId]
    cases hplan : (planResult sha256 record venue previous planLocked).1 with
    | none => rfl
    | some planVersion =>
      rw [Option.bind_some]
      rcases planResult_cases hplan with h | h
      · exact identityText_of_latched h
      · obtain ⟨setup, -, hmint⟩ := setup_of_candidate h
        exact mintPlanVersionId_identityText hex hmint

theorem latch_keeps {before : SetupLifecycleRecord} (hcanonical : before.CanonicalIdentities) :
    before.KeepsIdentities
      (latchEconomicIdentities sha256 record venue planLocked (some before)) := by
  constructor
  · intro id hid
    have hlatched : before.setupId.bind identityText = some id := hcanonical.setupId.trans hid
    rw [latch_setupId, setupResult, Option.getD_some, hlatched]
    rfl
  · intro id hid
    have hlatched : before.planVersionId.bind identityText = some id :=
      hcanonical.planVersionId.trans hid
    rw [latch_planVersionId, planResult, Option.getD_some, hlatched]
    rfl

theorem latch_conflict
    (h : (planResult sha256 record venue previous planLocked).1 = some planVersion)
    (hcandidate : planCandidate sha256 record venue previous ≠ .ok planVersion) :
    (latchEconomicIdentities sha256 record venue planLocked previous).planVersionConflict =
      true := by
  have hlatched := (planResult_cases h).resolve_right hcandidate
  have hreason : (planResult sha256 record venue previous planLocked).2 =
      joinReasons [planVersionInvariantViolation,
        mintReason (planCandidate sha256 record venue previous)] := by
    rw [planResult, hlatched]
    exact if_neg fun hmint => hcandidate (eq_ok_of_toOption hmint)
  rw [SetupLifecycleRecord.planVersionConflict, latch_reason, hreason]
  refine isIn_joinReasons (List.mem_cons_of_mem _ (List.mem_singleton_self _)) (by decide) ?_
  exact isIn_joinReasons (List.mem_cons_self ..) (by decide) (by decide)

theorem latch_remints
    (h : (latchEconomicIdentities sha256 record venue planLocked previous).planVersionId =
      some planVersion)
    (hconflict : (latchEconomicIdentities sha256 record venue planLocked
      previous).planVersionConflict = false) :
    (latchEconomicIdentities sha256 record venue planLocked previous).Remints sha256
      planVersion := by
  rw [latch_planVersionId] at h
  have hcandidate : planCandidate sha256 record venue previous = .ok planVersion := by
    by_contra hne
    rw [latch_conflict h hne] at hconflict
    cases hconflict
  obtain ⟨setup, hsetup, hmint⟩ := setup_of_candidate hcandidate
  refine ⟨setup, ?_, (mintPlanVersionId_latch setup).trans hmint⟩
  rw [latch_setupId, hsetup]
  rfl

end Latch

section Runs

variable {sha256 : String → String} {steps : List ObservationStep} {record : SetupLifecycleRecord}

theorem SetupLifecycleRecord.KeepsIdentities.refl (record : SetupLifecycleRecord) :
    record.KeepsIdentities record :=
  ⟨fun _ h => h, fun _ h => h⟩

theorem SetupLifecycleRecord.KeepsIdentities.trans {a b c : SetupLifecycleRecord}
    (hab : a.KeepsIdentities b) (hbc : b.KeepsIdentities c) : a.KeepsIdentities c :=
  ⟨fun id h => hbc.setupId id (hab.setupId id h),
    fun id h => hbc.planVersionId id (hab.planVersionId id h)⟩

theorem createdResult_record (o : LifecycleObservation) (call : LifecycleCall) :
    (createdResult sha256 o call).record =
      latchEconomicIdentities sha256
        (creationResult o call (gateNewRecord (newRecord o call))).record o.instrumentVenue
        (decide ((creationResult o call (gateNewRecord (newRecord o call))).record.currentState ∈
          planLock)) none := rfl

theorem observedResult_record (before : SetupLifecycleRecord) (o : LifecycleObservation)
    (call : LifecycleCall) :
    (observedResult before o call sha256).record =
      latchEconomicIdentities sha256 (observeRecord before o call).record o.instrumentVenue
        (decide ((observeRecord before o call).record.currentState ∈ planLock)) (some before) := rfl

theorem LifecycleRun.latched (run : LifecycleRun sha256 steps record) :
    ∃ settled venue planLocked previous,
      record = latchEconomicIdentities sha256 settled venue planLocked previous := by
  cases run with
  | created h =>
    rw [eq_createdResult h]
    exact ⟨_, _, _, _, createdResult_record _ _⟩
  | observed _ h =>
    rw [evaluateLifecycleTransition_some, Except.ok.injEq] at h
    rw [← h]
    exact ⟨_, _, _, _, observedResult_record _ _ _⟩

theorem LifecycleRun.canonical (hex : HexDigest sha256) (run : LifecycleRun sha256 steps record) :
    record.CanonicalIdentities := by
  obtain ⟨settled, venue, planLocked, previous, rfl⟩ := run.latched
  exact latch_canonical hex

theorem LifecycleRun.remints (run : LifecycleRun sha256 steps record) {planVersion : String}
    (h : record.planVersionId = some planVersion) (hconflict : record.planVersionConflict = false) :
    record.Remints sha256 planVersion := by
  obtain ⟨settled, venue, planLocked, previous, rfl⟩ := run.latched
  exact latch_remints h hconflict

/-- The record a run ends in has every identity the run has ever latched. -/
theorem LifecycleRun.keeps (hex : HexDigest sha256) (run : LifecycleRun sha256 steps record) :
    ∀ s ∈ steps, s.after.KeepsIdentities record := by
  induction run with
  | created h =>
    intro s hs
    rw [List.mem_singleton.1 hs]
    exact .refl _
  | observed run h ih =>
    intro s hs
    rcases List.mem_cons.1 hs with rfl | hs
    · exact .refl _
    · rw [evaluateLifecycleTransition_some, Except.ok.injEq] at h
      rw [← h, observedResult_record]
      exact (ih s hs).trans (latch_keeps (run.canonical hex))

/-- Over every run on a lifecycle the setup and the plan version of the record are never replaced
once they are set; a plan version without a reported conflict is minted from the record as it
stands; and so is every plan version that is proven for a progress row, whatever the record. -/
theorem economic_identities_are_latched (hex : HexDigest sha256)
    (run : LifecycleRun sha256 steps record) :
    (∀ s ∈ steps, s.after.KeepsIdentities record) ∧
    (∀ planVersion, record.planVersionId = some planVersion → record.planVersionConflict = false →
      record.Remints sha256 planVersion) ∧
    (∀ (owner : SetupLifecycleRecord) (planVersion : String),
      provenProgressPlanVersionId sha256 owner = some planVersion →
      owner.Remints sha256 planVersion) :=
  ⟨run.keeps hex, fun _ => run.remints, fun _ _ => SetupLifecycleRecord.remints_of_proven⟩

def sampleListed : LifecycleObservation :=
  { sampleReady with instrumentVenue := "binance" }

/-- A digest of one digit. -/
def sampleDigest (text : String) : String :=
  String.ofList [Nat.digitChar ((text.toList.map Char.toNat).sum % 16)]

theorem hexDigest_sampleDigest : HexDigest sampleDigest := by
  have hdigits : ∀ n < 16, Nat.digitChar n ∈ "0123456789abcdef".toList := by decide
  intro text c hc
  rw [sampleDigest, String.toList_ofList] at hc
  rw [List.mem_singleton.1 hc]
  exact hdigits _ (Nat.mod_lt _ (by decide))

/-- The steps of a setup that is seen before its venue is known, and later with another stop. -/
def latchedSteps : List ObservationStep :=
  let first := createdStep sampleDigest sampleObservation (sampleCall 0)
  let second := observedStep sampleDigest sampleListed (sampleCall 60000000) first.after
  [observedStep sampleDigest { sampleListed with stopLoss := "80" } (sampleCall 120000000)
    second.after, second, first]

theorem latchedSteps_keep_identities :
    (latchedSteps.map fun s => (s.after.setupId, s.after.planVersionId)) =
      [(some "setup-9", some "plan-version-5"), (some "setup-9", some "plan-version-5"),
        (none, none)] ∧
    ∃ record, LifecycleRun sampleDigest latchedSteps record ∧
      ∀ s ∈ latchedSteps, s.after.KeepsIdentities record := by
  have run : LifecycleRun sampleDigest latchedSteps _ :=
    ((LifecycleRun.create _ (by decide)).observe _ _).observe _ _
  exact ⟨by decide +kernel, _, run,
    (economic_identities_are_latched hexDigest_sampleDigest run).1⟩

end Runs

end CandleCraft.Lifecycle
