import CandleCraft.Kernel.Json
import CandleCraft.Kernel.Scan
import CandleCraft.Analytics.EdgeMetrics

/-!
# Performance memory

`ingest_replay_summary` adds the trades of a replay to the statistics of their setup, their symbol
and their regime, and leaves out a trade whose event identity has been ingested. The setups that a
symbol rejected have no event identity: their number is added at every ingestion.

The texts of a trade are as `_display` shows them, and its fingerprint is as
`setup_fingerprint_from_replay_trade` has it.
-/

namespace CandleCraft.Analytics.Memory

open PyDecimal Strategy

section Statistics

inductive ConfidenceBucket where
  | veryLow
  | low
  | medium
  | high
  | veryHigh
  deriving DecidableEq

def confidenceBucket (samples : ℕ) : ConfidenceBucket :=
  if samples < 10 then .veryLow
  else if samples < 25 then .low
  else if samples < 75 then .medium
  else if samples < 200 then .high
  else .veryHigh

/-- The values of `data_quality` that are computed. -/
inductive DataQuality where
  | insufficientSample
  | unverified
  | verified
  deriving DecidableEq

/-- `SetupFingerprint`, its texts normalized. -/
structure SetupFingerprint where
  direction : String := "N/A"
  htfBias : String := "N/A"
  marketRegime : String := "N/A"
  derivativesState : String := "N/A"
  crowding : String := "N/A"
  squeezeRisk : String := "N/A"
  rrBucket : String := "N/A"
  pullbackQuality : String := "N/A"
  obFvgQuality : String := "N/A"
  confirmationStrength : String := "N/A"
  volatilityRegime : String := "N/A"
  symbolCategory : String := "N/A"
  mode : String := "N/A"
  setupType : String := "N/A"
  deriving DecidableEq

def SetupFingerprint.signature (f : SetupFingerprint) : String :=
  "|".intercalate ["direction=" ++ f.direction, "htf_bias=" ++ f.htfBias,
    "market_regime=" ++ f.marketRegime, "derivatives_state=" ++ f.derivativesState,
    "crowding=" ++ f.crowding, "squeeze_risk=" ++ f.squeezeRisk, "rr_bucket=" ++ f.rrBucket,
    "pullback_quality=" ++ f.pullbackQuality, "ob_fvg_quality=" ++ f.obFvgQuality,
    "confirmation_strength=" ++ f.confirmationStrength,
    "volatility_regime=" ++ f.volatilityRegime, "symbol_category=" ++ f.symbolCategory,
    "mode=" ++ f.mode, "setup_type=" ++ f.setupType]

structure SetupPerformanceStats where
  fingerprint : SetupFingerprint
  totalOccurrences : ℕ := 0
  filledOccurrences : ℕ := 0
  wins : ℕ := 0
  losses : ℕ := 0
  tp1Hits : ℕ := 0
  tp2Hits : ℕ := 0
  rejections : ℕ := 0
  invalidations : ℕ := 0
  tp1Rate : Option ℚ := none
  tp2Rate : Option ℚ := none
  averageR : Option ℚ := none
  medianR : Option ℚ := none
  maxDrawdown : Option ℚ := none
  averageHoldTime : Option ℚ := none
  rejectionFrequency : Option ℚ := none
  invalidationFrequency : Option ℚ := none
  rMultiples : List ℚ := []
  holdTimes : List ℤ := []
  bucket : ConfidenceBucket := .veryLow
  dataQuality : DataQuality := .insufficientSample

/-- `SymbolPerformanceStats` and `RegimePerformanceStats`: the statistics of a symbol or a regime. -/
structure NamedPerformanceStats where
  stats : SetupPerformanceStats
  name : String

/-- The `ValueError`s of the validators. -/
inductive StatsError where
  | negativeHoldTime
  | filledExceedsTotal
  | resultsExceedFilled
  | hitsExceedFilled
  | rejectionsExceedTotal
  | rateOutOfRange
  | multiplesMismatch
  | holdTimesExceedFilled
  deriving DecidableEq

variable (a : Arithmetic)

def SetupPerformanceStats.validate (s : SetupPerformanceStats) :
    Except StatsError SetupPerformanceStats :=
  if s.holdTimes.any fun time => decide (time < 0) then .error .negativeHoldTime
  else if s.totalOccurrences < s.filledOccurrences then .error .filledExceedsTotal
  else if s.filledOccurrences < s.wins + s.losses then .error .resultsExceedFilled
  else if s.filledOccurrences < s.tp1Hits ∨ s.filledOccurrences < s.tp2Hits then
    .error .hitsExceedFilled
  else if s.totalOccurrences < s.rejections ∨ s.totalOccurrences < s.invalidations then
    .error .rejectionsExceedTotal
  else if [s.tp1Rate, s.tp2Rate, s.rejectionFrequency, s.invalidationFrequency].any fun rate =>
      rate.any fun r => decide (a.quantize r < 0 ∨ 100 < a.quantize r) then .error .rateOutOfRange
  else if s.rMultiples.length ≠ s.filledOccurrences then .error .multiplesMismatch
  else if s.filledOccurrences < s.holdTimes.length then .error .holdTimesExceedFilled
  else .ok
    { s with
      tp1Rate := s.tp1Rate.map a.quantize
      tp2Rate := s.tp2Rate.map a.quantize
      averageR := s.averageR.map a.quantize
      medianR := s.medianR.map a.quantize
      maxDrawdown := s.maxDrawdown.map a.quantize
      averageHoldTime := s.averageHoldTime.map a.quantize
      rejectionFrequency := s.rejectionFrequency.map a.quantize
      invalidationFrequency := s.invalidationFrequency.map a.quantize
      rMultiples := s.rMultiples.map a.quantize }

def rebuildStats (s : SetupPerformanceStats) : Except StatsError SetupPerformanceStats :=
  let bucket := confidenceBucket s.totalOccurrences
  SetupPerformanceStats.validate a
    { s with
      tp1Rate := rate a s.tp1Hits s.filledOccurrences
      tp2Rate := rate a s.tp2Hits s.filledOccurrences
      averageR := mean a s.rMultiples
      medianR := if s.rMultiples.isEmpty then none else some (a.quantize (median a s.rMultiples))
      maxDrawdown := Analytics.maxDrawdown a s.rMultiples
      averageHoldTime := mean a (s.holdTimes.map fun time => (time : ℚ))
      rejectionFrequency := rate a s.rejections s.totalOccurrences
      invalidationFrequency := rate a s.invalidations s.totalOccurrences
      bucket := bucket
      dataQuality :=
        if bucket = .high ∨ bucket = .veryHigh then .verified
        else if bucket ≠ .veryLow then .unverified
        else .insufficientSample }

/-- The dict of `_outcome_from_trade`. -/
structure Outcome where
  filled : Bool
  tp1Hit : Bool
  tp2Hit : Bool
  rMultiple : ℚ
  candlesHeld : ℤ
  invalidated : Bool
  rejected : Bool

def statsWithOutcome (s : SetupPerformanceStats) (o : Outcome) :
    Except StatsError SetupPerformanceStats :=
  rebuildStats a
    { s with
      totalOccurrences := s.totalOccurrences + 1
      filledOccurrences := s.filledOccurrences + o.filled.toNat
      wins := s.wins + (o.filled && decide (0 < o.rMultiple)).toNat
      losses := s.losses + (o.filled && decide (o.rMultiple < 0)).toNat
      tp1Hits := s.tp1Hits + (o.filled && o.tp1Hit).toNat
      tp2Hits := s.tp2Hits + (o.filled && o.tp2Hit).toNat
      rejections := s.rejections + o.rejected.toNat
      invalidations := s.invalidations + o.invalidated.toNat
      rMultiples := if o.filled then s.rMultiples ++ [o.rMultiple] else s.rMultiples
      holdTimes := if o.filled then s.holdTimes ++ [o.candlesHeld] else s.holdTimes }

end Statistics

section Ingestion

/-- The operations on texts. A digest is a text of its own: it is not blank, and it has nothing to
strip. -/
structure Texts where
  strip : String → String
  lower : String → String
  symbolCategory : String → String
  sha256 : String → String
  strip_sha256 : ∀ text, strip (sha256 text) = sha256 text
  sha256_ne : ∀ text, sha256 text ≠ "" ∧ sha256 text ≠ "N/A"

/-- A trade of a replay. The result and the R multiple are absent when they are missing or invalid. -/
structure ReplayTrade where
  symbol : String
  mode : String
  direction : String
  detectedAtTimestamp : String
  detectedAtIndex : String
  entry : String
  stop : String
  tp2 : String
  outcome : String
  filled : Option Bool
  rMultiple : Option ℚ
  tp1Hit : Bool
  tp2Hit : Bool
  candlesHeld : ℤ
  fingerprint : SetupFingerprint

structure SymbolResult where
  symbol : String
  rejectedSetupCount : ℤ
  trades : List ReplayTrade

structure PerformanceMemoryStore where
  setupStats : List (String × SetupPerformanceStats) := []
  symbolStats : List (String × NamedPerformanceStats) := []
  regimeStats : List (String × NamedPerformanceStats) := []
  ingestedEventIds : List String := []

structure ReplayIngestionResult where
  store : PerformanceMemoryStore
  eventsSeen : ℕ
  eventsAdded : ℕ
  duplicatesIgnored : ℕ
  skippedOutcomes : ℕ
  warnings : List String

variable (texts : Texts) (a : Arithmetic)

def Texts.display (value : String) : String :=
  if value = "" ∨ value = "N/A" then "N/A"
  else if texts.strip value = "" then "N/A"
  else texts.strip value

/-- One text of `_unique_strings`. -/
def Texts.addUnique (output : List String) (value : String) : List String :=
  if texts.display value ≠ "N/A" ∧ texts.display value ∉ output then output ++ [texts.display value]
  else output

def Texts.uniqueStrings (values : List String) : List String := values.foldl texts.addUnique []

def replayEventId (sourceId : Option String) (t : ReplayTrade) : String :=
  let source := match sourceId with
    | none => "replay"
    | some text => if text = "" then "replay" else text
  texts.sha256 ("|".intercalate [source, t.symbol, t.mode, t.direction, t.detectedAtTimestamp,
    t.detectedAtIndex, t.entry, t.stop, t.tp2, t.outcome])

def outcomeFromTrade (t : ReplayTrade) : Option Outcome := do
  let filled ← t.filled
  let r ← t.rMultiple
  let outcome := texts.lower t.outcome
  some
    { filled := filled
      tp1Hit := t.tp1Hit
      tp2Hit := t.tp2Hit
      rMultiple := a.quantize r
      candlesHeld := t.candlesHeld
      invalidated := decide (outcome = "invalidated")
      rejected := decide (outcome ∈ ["missed_entry", "not_filled", "expired"]) }

/-- The variables of the loops of `ingest_replay_summary`. -/
structure Ingestion where
  setupStats : List (String × SetupPerformanceStats)
  symbolStats : List (String × NamedPerformanceStats)
  regimeStats : List (String × NamedPerformanceStats)
  addedIds : List String
  eventsSeen : ℕ
  duplicates : ℕ
  skipped : ℕ
  warnings : List String

def emptySymbolStats (symbol : String) : NamedPerformanceStats :=
  ⟨{ fingerprint := { symbolCategory := texts.symbolCategory symbol } }, symbol⟩

def emptyRegimeStats (regime : String) : NamedPerformanceStats :=
  ⟨{ fingerprint := { marketRegime := regime } }, regime⟩

def addRegime (regime : String) (o : Outcome) (regimes : List (String × NamedPerformanceStats)) :
    Except StatsError (List (String × NamedPerformanceStats)) :=
  if regime ≠ "N/A" then do
    let stats ← statsWithOutcome a
      ((Json.get regimes regime).getD (emptyRegimeStats regime)).stats o
    .ok (Json.set regimes regime ⟨stats, regime⟩)
  else .ok regimes

/-- The statistics after a trade that has not been ingested. -/
def addOutcome (symbol eventId : String) (fingerprint : SetupFingerprint) (o : Outcome)
    (i : Ingestion) : Except StatsError Ingestion := do
  let key := fingerprint.signature
  let setup ← statsWithOutcome a ((Json.get i.setupStats key).getD { fingerprint := fingerprint }) o
  let named ← statsWithOutcome a
    ((Json.get i.symbolStats symbol).getD (emptySymbolStats texts symbol)).stats o
  let regimeStats ← addRegime a fingerprint.marketRegime o i.regimeStats
  .ok
    { i with
      setupStats := Json.set i.setupStats key setup
      symbolStats := Json.set i.symbolStats symbol ⟨named, symbol⟩
      regimeStats := regimeStats
      addedIds := i.addedIds ++ [eventId] }

variable (sourceId : Option String) (known : List String)

/-- The body of the loop over the trades; `known` has the identities that the store has ingested. -/
def ingestTrade (symbol : String) (i : Ingestion) (t : ReplayTrade) : Except StatsError Ingestion :=
  let eventId := replayEventId texts sourceId t
  let i := { i with eventsSeen := i.eventsSeen + 1 }
  if eventId ∈ known ++ i.addedIds then .ok { i with duplicates := i.duplicates + 1 }
  else
    match outcomeFromTrade texts a t with
    | none => .ok
      { i with
        skipped := i.skipped + 1
        warnings := i.warnings ++ ["Skipped replay outcome with invalid data for " ++ symbol ++ "."] }
    | some o => addOutcome texts a symbol eventId t.fingerprint o i

def addRejections (r : SymbolResult) (i : Ingestion) : Except StatsError Ingestion :=
  if r.symbol ≠ "N/A" ∧ 0 < r.rejectedSetupCount then do
    let existing := ((Json.get i.symbolStats r.symbol).getD (emptySymbolStats texts r.symbol)).stats
    let stats ← rebuildStats a
      { existing with
        totalOccurrences := existing.totalOccurrences + r.rejectedSetupCount.toNat
        rejections := existing.rejections + r.rejectedSetupCount.toNat }
    .ok { i with symbolStats := Json.set i.symbolStats r.symbol ⟨stats, r.symbol⟩ }
  else .ok i

def ingestSymbol (i : Ingestion) (r : SymbolResult) : Except StatsError Ingestion := do
  let i ← addRejections texts a r i
  r.trades.foldlM (ingestTrade texts a sourceId known r.symbol) i

/-- The variables before the loops. -/
def PerformanceMemoryStore.start (store : PerformanceMemoryStore) : Ingestion :=
  ⟨store.setupStats, store.symbolStats, store.regimeStats, [], 0, 0, 0, []⟩

def ingestReplaySummary (store : PerformanceMemoryStore) (symbols : List SymbolResult)
    (sourceId : Option String) : Except StatsError ReplayIngestionResult := do
  let i ← symbols.foldlM (ingestSymbol texts a sourceId store.ingestedEventIds) store.start
  .ok
    { store :=
        { setupStats := i.setupStats
          symbolStats := i.symbolStats
          regimeStats := i.regimeStats
          ingestedEventIds := texts.uniqueStrings (store.ingestedEventIds ++ i.addedIds) }
      eventsSeen := i.eventsSeen
      eventsAdded := i.addedIds.length
      duplicatesIgnored := i.duplicates
      skippedOutcomes := i.skipped
      warnings := i.warnings }

end Ingestion

section Identities

variable {texts : Texts}

theorem Texts.subset_addUnique {output : List String} {value text : String} (h : text ∈ output) :
    text ∈ texts.addUnique output value := by
  unfold Texts.addUnique
  split
  · exact List.mem_append_left _ h
  · exact h

theorem Texts.mem_addUnique (output : List String) {value : String}
    (h : texts.display value ≠ "N/A") : texts.display value ∈ texts.addUnique output value := by
  unfold Texts.addUnique
  by_cases hmem : texts.display value ∈ output
  · rw [if_neg fun h => h.2 hmem]
    exact hmem
  · rw [if_pos ⟨h, hmem⟩]
    exact List.mem_append_right _ List.mem_cons_self

theorem Texts.mem_uniqueStrings {values : List String} {value : String} (h : value ∈ values)
    (hdisplay : texts.display value = value) (hne : value ≠ "N/A") :
    value ∈ texts.uniqueStrings values := by
  have hfold : ∀ (values output : List String), value ∈ output ∨ value ∈ values →
      value ∈ values.foldl texts.addUnique output := by
    intro values
    induction values with
    | nil => exact fun output h => h.resolve_right List.not_mem_nil
    | cons v values ih =>
      intro output h
      refine ih _ ?_
      rw [List.mem_cons, ← or_assoc] at h
      refine h.imp_left ?_
      rintro (hmem | rfl)
      · exact Texts.subset_addUnique hmem
      · have hadded := Texts.mem_addUnique output (hdisplay.symm ▸ hne)
        rwa [hdisplay] at hadded
  exact hfold values [] (.inr h)

theorem display_sha256 (texts : Texts) (text : String) :
    texts.display (texts.sha256 text) = texts.sha256 text := by
  obtain ⟨hempty, hna⟩ := texts.sha256_ne text
  rw [Texts.display, if_neg (not_or.2 ⟨hempty, hna⟩), texts.strip_sha256, if_neg hempty]

end Identities

section Idempotence

variable {texts : Texts} {a : Arithmetic} {sourceId : Option String} {known : List String}
variable {i i' : Ingestion} {t : ReplayTrade} {store : PerformanceMemoryStore}

/-- A trade that has been ingested, or has no valid outcome. -/
def Settled (texts : Texts) (a : Arithmetic) (sourceId : Option String) (known : List String)
    (t : ReplayTrade) : Prop :=
  replayEventId texts sourceId t ∈ known ∨ outcomeFromTrade texts a t = none

theorem addOutcome_ok {symbol eventId : String} {f : SetupFingerprint} {o : Outcome}
    (h : addOutcome texts a symbol eventId f o i = .ok i') :
    i'.addedIds = i.addedIds ++ [eventId] := by
  obtain ⟨_, -, h⟩ := Scan.bind_ok h
  obtain ⟨_, -, h⟩ := Scan.bind_ok h
  obtain ⟨_, -, h⟩ := Scan.bind_ok h
  cases h
  rfl

theorem ingestTrade_ok {symbol : String}
    (h : ingestTrade texts a sourceId known symbol i t = .ok i') :
    i.addedIds ⊆ i'.addedIds ∧ Settled texts a sourceId (known ++ i'.addedIds) t := by
  unfold ingestTrade at h
  dsimp only at h
  split at h
  · next hmem =>
    cases h
    exact ⟨fun _ hid => hid, .inl hmem⟩
  · split at h
    · next hnone =>
      cases h
      exact ⟨fun _ hid => hid, .inr hnone⟩
    · have hadded := addOutcome_ok h
      rw [hadded]
      refine ⟨List.subset_append_left _ _, .inl ?_⟩
      exact List.mem_append_right _ (List.mem_append_right _ List.mem_cons_self)

theorem Settled.mono {known' : List String} (hsub : known ⊆ known')
    (h : Settled texts a sourceId known t) : Settled texts a sourceId known' t :=
  h.imp_left fun hmem => hsub hmem

theorem addRejections_ok {r : SymbolResult}
    (h : addRejections texts a r i = .ok i') : i'.addedIds = i.addedIds := by
  unfold addRejections at h
  split at h
  · obtain ⟨_, -, h⟩ := Scan.bind_ok h
    cases h
    rfl
  · cases h
    rfl

theorem ingestSymbol_ok {r : SymbolResult} (h : ingestSymbol texts a sourceId known i r = .ok i') :
    i.addedIds ⊆ i'.addedIds ∧
      ∀ t ∈ r.trades, Settled texts a sourceId (known ++ i'.addedIds) t := by
  obtain ⟨i₁, hrejections, h⟩ := Scan.bind_ok h
  rw [← addRejections_ok hrejections]
  refine Scan.foldlM_achieves (R := fun i i' => i.addedIds ⊆ i'.addedIds) (fun _ _ hid => hid)
    (fun _ _ _ h h' => List.Subset.trans h h') (fun _ _ t hsub ht => ht.mono ?_) (fun _ _ _ => ingestTrade_ok) h
  exact List.append_subset.2 ⟨List.subset_append_left _ _,
    List.Subset.trans hsub (List.subset_append_right _ _)⟩

variable {result : ReplayIngestionResult} {symbols : List SymbolResult}

/-- After an ingestion each trade has been ingested or has no valid outcome. -/
theorem settled_of_ingest (h : ingestReplaySummary texts a store symbols sourceId = .ok result) :
    ∀ r ∈ symbols, ∀ t ∈ r.trades, Settled texts a sourceId result.store.ingestedEventIds t := by
  obtain ⟨i, hfold, h⟩ := Scan.bind_ok h
  cases h
  obtain ⟨-, hsettled⟩ := Scan.foldlM_achieves
    (R := fun i i' : Ingestion => i.addedIds ⊆ i'.addedIds)
    (P := fun i r => ∀ t ∈ r.trades, Settled texts a sourceId (store.ingestedEventIds ++ i.addedIds) t)
    (fun _ _ hid => hid) (fun _ _ _ h h' => List.Subset.trans h h')
    (fun _ _ r hsub ht t htrade => (ht t htrade).mono (List.append_subset.2
      ⟨List.subset_append_left _ _, List.Subset.trans hsub (List.subset_append_right _ _)⟩))
    (fun _ _ _ => ingestSymbol_ok) hfold
  intro r hr t ht
  refine (hsettled r hr t ht).imp_left fun hmem => ?_
  exact Texts.mem_uniqueStrings hmem (display_sha256 texts _) (texts.sha256_ne _).2

/-- The statistics are those of a store, and no event has been added. -/
def Untouched (store : PerformanceMemoryStore) (i : Ingestion) : Prop :=
  i.setupStats = store.setupStats ∧ i.symbolStats = store.symbolStats ∧
    i.regimeStats = store.regimeStats ∧ i.addedIds = []

theorem ingestTrade_of_settled
    (ht : Settled texts a sourceId known t) (symbol : String) (i : Ingestion) (hi : Untouched store i) :
    ∃ i', ingestTrade texts a sourceId known symbol i t = .ok i' ∧ Untouched store i' := by
  unfold ingestTrade
  dsimp only
  split
  · exact ⟨_, rfl, hi⟩
  · next hmem =>
    have hnone := ht.resolve_left fun h => hmem (List.mem_append_left _ h)
    rw [hnone]
    exact ⟨_, rfl, hi⟩

/-- A summary without rejected setups is ingested once. -/
theorem ingest_again (hrejected : ∀ r ∈ symbols, r.symbol = "N/A" ∨ r.rejectedSetupCount ≤ 0)
    (h : ingestReplaySummary texts a store symbols sourceId = .ok result) :
    ∃ again, ingestReplaySummary texts a result.store symbols sourceId = .ok again ∧
      again.store.setupStats = result.store.setupStats ∧
      again.store.symbolStats = result.store.symbolStats ∧
      again.store.regimeStats = result.store.regimeStats := by
  have hsettled := settled_of_ingest h
  have hsymbol : ∀ r ∈ symbols, ∀ i, Untouched result.store i →
      ∃ i', ingestSymbol texts a sourceId result.store.ingestedEventIds i r = .ok i' ∧
        Untouched result.store i' := by
    intro r hr i hi
    have hno : ¬ (r.symbol ≠ "N/A" ∧ 0 < r.rejectedSetupCount) := fun hboth =>
      (hrejected r hr).elim hboth.1 (not_le.2 hboth.2)
    obtain ⟨i', hi', hsame⟩ := Scan.foldlM_keeps
      (fun t ht i => ingestTrade_of_settled (hsettled r hr t ht) r.symbol i) hi
    refine ⟨i', ?_, hsame⟩
    rw [ingestSymbol, addRejections, if_neg hno]
    exact hi'
  obtain ⟨i, hi, hsetup, hsymbols, hregime, -⟩ :=
    Scan.foldlM_keeps hsymbol (s := result.store.start) ⟨rfl, rfl, rfl, rfl⟩
  rw [ingestReplaySummary, hi]
  exact ⟨_, rfl, hsetup, hsymbols, hregime⟩

end Idempotence

section Rejections

variable {texts : Texts} {a : Arithmetic} {sourceId : Option String} {known : List String}
variable {i i' : Ingestion} {t : ReplayTrade} {r : SymbolResult} {symbol : String}

def rejectionsOf (stats : List (String × NamedPerformanceStats)) (symbol : String) : ℕ :=
  ((Json.get stats symbol).map (·.stats.rejections)).getD 0

/-- The rejected setups that a result of a replay adds to a symbol. -/
def SymbolResult.rejected (r : SymbolResult) (symbol : String) : ℕ :=
  if r.symbol ≠ "N/A" ∧ r.symbol = symbol then r.rejectedSetupCount.toNat else 0

theorem validate_rejections {s s' : SetupPerformanceStats}
    (h : SetupPerformanceStats.validate a s = .ok s') : s'.rejections = s.rejections := by
  unfold SetupPerformanceStats.validate at h
  repeat' split at h
  all_goals cases h
  rfl

/-- Statistics that are set from those of the symbol with some more rejections. -/
theorem rejectionsOf_set {stats : List (String × NamedPerformanceStats)} {new : NamedPerformanceStats}
    {n : ℕ} {name : String}
    (h : new.stats.rejections =
      ((Json.get stats name).getD (emptySymbolStats texts name)).stats.rejections + n)
    (symbol : String) : rejectionsOf (Json.set stats name new) symbol =
      rejectionsOf stats symbol + if name = symbol then n else 0 := by
  unfold rejectionsOf
  rw [Json.get_set]
  split
  next heq =>
    subst heq
    rw [Option.map_some, Option.getD_some, h]
    cases Json.get stats name <;> rfl
  next => rfl

theorem ingestTrade_rejections {name : String}
    (h : ingestTrade texts a sourceId known name i t = .ok i') :
    rejectionsOf i.symbolStats symbol ≤ rejectionsOf i'.symbolStats symbol := by
  unfold ingestTrade at h
  dsimp only at h
  split at h
  · cases h
    exact le_rfl
  split at h
  · cases h
    exact le_rfl
  · obtain ⟨_, -, h⟩ := Scan.bind_ok h
    obtain ⟨named, hnamed, h⟩ := Scan.bind_ok h
    obtain ⟨_, -, h⟩ := Scan.bind_ok h
    cases h
    rw [rejectionsOf_set (validate_rejections hnamed)]
    exact Nat.le_add_right _ _

theorem addRejections_rejections (h : addRejections texts a r i = .ok i') :
    rejectionsOf i'.symbolStats symbol =
      rejectionsOf i.symbolStats symbol + r.rejected symbol := by
  unfold addRejections at h
  unfold SymbolResult.rejected
  split at h
  next hcounted =>
    obtain ⟨stats, hstats, h⟩ := Scan.bind_ok h
    cases h
    rw [rejectionsOf_set (validate_rejections hstats)]
    simp only [hcounted.1, ne_eq, not_false_eq_true, true_and]
  next hcounted =>
    cases h
    split
    next hnamed => rw [Int.toNat_eq_zero.2 (not_lt.1 fun hpos => hcounted ⟨hnamed.1, hpos⟩), add_zero]
    next => rfl

theorem ingestSymbol_rejections (h : ingestSymbol texts a sourceId known i r = .ok i') :
    rejectionsOf i.symbolStats symbol + r.rejected symbol ≤ rejectionsOf i'.symbolStats symbol := by
  obtain ⟨i₁, hrejections, h⟩ := Scan.bind_ok h
  rw [← addRejections_rejections hrejections]
  exact (Scan.foldlM_achieves (P := fun _ _ => True)
    (R := fun i i' : Ingestion => rejectionsOf i.symbolStats symbol ≤ rejectionsOf i'.symbolStats symbol)
    (fun _ => le_rfl) (fun _ _ _ => le_trans) (fun _ _ _ _ _ => trivial)
    (fun _ _ _ ht => ⟨ingestTrade_rejections ht, trivial⟩) h).1

variable {symbols : List SymbolResult}

/-- An ingestion counts all rejected setups of a symbol. -/
theorem foldlM_rejections (h : symbols.foldlM (ingestSymbol texts a sourceId known) i = .ok i')
    (symbol : String) :
    rejectionsOf i.symbolStats symbol + (symbols.map (·.rejected symbol)).sum ≤
      rejectionsOf i'.symbolStats symbol := by
  induction symbols generalizing i with
  | nil =>
    cases h
    exact le_rfl
  | cons first rest ih =>
    rw [List.foldlM_cons] at h
    obtain ⟨i₁, hfirst, h⟩ := Scan.bind_ok h
    rw [List.map_cons, List.sum_cons, ← add_assoc]
    exact (Nat.add_le_add_right (ingestSymbol_rejections hfirst) _).trans (ih h)

/-- A second ingestion of a summary under the same source returns and changes no statistic if and
only if no symbol of it has rejected setups. -/
theorem ingest_is_idempotent {store : PerformanceMemoryStore} {result : ReplayIngestionResult}
    (h : ingestReplaySummary texts a store symbols sourceId = .ok result) :
    (∃ again, ingestReplaySummary texts a result.store symbols sourceId = .ok again ∧
      again.store.setupStats = result.store.setupStats ∧
      again.store.symbolStats = result.store.symbolStats ∧
      again.store.regimeStats = result.store.regimeStats) ↔
    ∀ r ∈ symbols, r.symbol = "N/A" ∨ r.rejectedSetupCount ≤ 0 := by
  refine ⟨?_, fun hrejected => ingest_again hrejected h⟩
  rintro ⟨again, hagain, -, hsymbols, -⟩ r hr
  obtain ⟨i, hfold, hagain⟩ := Scan.bind_ok hagain
  cases hagain
  refine or_iff_not_imp_left.2 fun hname => ?_
  have hgrows := foldlM_rejections hfold r.symbol
  dsimp only [PerformanceMemoryStore.start] at hgrows hsymbols
  rw [hsymbols] at hgrows
  have hle := List.le_sum_of_mem (List.mem_map_of_mem (f := (·.rejected r.symbol)) hr)
  rw [SymbolResult.rejected, if_pos ⟨hname, rfl⟩] at hle
  omega

def sampleSha256 (text : String) : String := "#" ++ text

theorem sampleSha256_ne (text : String) : sampleSha256 text ≠ "" ∧ sampleSha256 text ≠ "N/A" := by
  refine ⟨fun h => ?_, fun h => ?_⟩
  · have hlist := congrArg (fun text => text.toList.head?) h
    simp [sampleSha256, String.toList_append] at hlist
  · have hlist := congrArg (fun text => text.toList.head?) h
    simp [sampleSha256, String.toList_append] at hlist

theorem sampleSha256_strip (text : String) : id (sampleSha256 text) = sampleSha256 text := rfl

def sampleTexts : Texts where
  strip := id
  lower := id
  symbolCategory := fun _ => "UNKNOWN"
  sha256 := sampleSha256
  strip_sha256 := sampleSha256_strip
  sha256_ne := sampleSha256_ne

def sampleTrade : ReplayTrade where
  symbol := "BTCUSDT"
  mode := "swing"
  direction := "long"
  detectedAtTimestamp := "1"
  detectedAtIndex := "1"
  entry := "100"
  stop := "99"
  tp2 := "102"
  outcome := "tp2_hit"
  filled := some true
  rMultiple := some 2
  tp1Hit := true
  tp2Hit := true
  candlesHeld := 3
  fingerprint := { }

theorem sample_trade_counts_once : ∃ first again,
    ingestReplaySummary sampleTexts .rounded { } [⟨"BTCUSDT", 0, [sampleTrade]⟩] none = .ok first ∧
      ingestReplaySummary sampleTexts .rounded first.store [⟨"BTCUSDT", 0, [sampleTrade]⟩] none =
        .ok again ∧
      again.store.symbolStats = first.store.symbolStats := by
  have hfirst : ∃ first, ingestReplaySummary sampleTexts .rounded { }
      [⟨"BTCUSDT", 0, [sampleTrade]⟩] none = .ok first ∧ decide (first.eventsAdded = 1) = true :=
    Scan.exists_ok_of_any (by decide +kernel)
  obtain ⟨first, hfirst, -⟩ := hfirst
  obtain ⟨again, hagain, -, hsymbols, -⟩ := (ingest_is_idempotent hfirst).2 (by simp)
  exact ⟨first, again, hfirst, hagain, hsymbols⟩

def sampleRejection : List SymbolResult := [⟨"BTCUSDT", 1, []⟩]

/-- The rejected setup is counted at each ingestion. -/
theorem rejections_are_counted_again : ∃ first again,
    ingestReplaySummary sampleTexts .rounded { } sampleRejection (some "replay-1") = .ok first ∧
      ingestReplaySummary sampleTexts .rounded first.store sampleRejection (some "replay-1") =
        .ok again ∧
      rejectionsOf first.store.symbolStats "BTCUSDT" = 1 ∧ rejectionsOf again.store.symbolStats "BTCUSDT" = 2 := by
  have hfirst : ∃ first, ingestReplaySummary sampleTexts .rounded { } sampleRejection
      (some "replay-1") = .ok first ∧ (decide (rejectionsOf first.store.symbolStats "BTCUSDT" = 1) &&
        (ingestReplaySummary sampleTexts .rounded first.store sampleRejection
          (some "replay-1")).toOption.any fun again =>
            decide (rejectionsOf again.store.symbolStats "BTCUSDT" = 2)) = true :=
    Scan.exists_ok_of_any (by decide +kernel)
  obtain ⟨first, hfirst, hcounts⟩ := hfirst
  rw [Bool.and_eq_true] at hcounts
  obtain ⟨again, hagain, hcount⟩ := Scan.exists_ok_of_any hcounts.2
  exact ⟨first, again, hfirst, hagain, of_decide_eq_true hcounts.1, of_decide_eq_true hcount⟩

end Rejections

end CandleCraft.Analytics.Memory
