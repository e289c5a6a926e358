import CandleCraft.Replay.SymbolReplay

/-!
# Replaying several symbols

`run` replays one symbol after the other and hands each of them what is left of `max_setups`. A
replay of a symbol looks at the cap before each execution candle, and not between the modes that
are analysed at one candle.
-/

namespace CandleCraft.Replay

open Strategy

section Model

/-- `model_copy(update={"max_setups": n})`. -/
def ReplayConfig.withMaxSetups (config : ReplayConfig) (n : ℕ) (h : 1 ≤ n) : ReplayConfig :=
  { config with
    maxSetups := some n
    limits_pos := by
      intro limit hlimit m hm
      have hpos := config.limits_pos limit
      simp only [List.mem_cons, List.not_mem_nil, or_false] at hlimit hpos
      rcases hlimit with rfl | rfl | rfl
      · exact hpos (.inl rfl) m hm
      · exact hpos (.inr (.inl rfl)) m hm
      · obtain rfl := Option.some.inj hm
        exact h }

def emptySymbolResult (config : ReplayConfig) (series : Series) : SymbolResult :=
  { historicalCandles := (rawExecution config series).length }

/-- What the loop of `run` carries along. -/
structure RunState where
  results : List SymbolResult := []
  setupsUsed : ℕ := 0

def RunState.add (state : RunState) (result : SymbolResult) : RunState where
  results := state.results ++ [result]
  setupsUsed := state.setupsUsed + result.trades.length

variable (a : Arithmetic) (config : ReplayConfig) (engine : StrategyEngine)

def runSymbol (state : RunState) (entry : String × Series) : Except ReplayError RunState :=
  match config.maxSetups with
  | none => (replaySymbol a config engine entry.1 entry.2).map state.add
  | some n =>
    if h : state.setupsUsed < n then
      (replaySymbol a (config.withMaxSetups (n - state.setupsUsed) (Nat.le_sub_of_add_le' h)) engine
        entry.1 entry.2).map state.add
    else .ok (state.add (emptySymbolResult config entry.2))

/-- `ReplaySummary`, without what is computed from the trades. -/
structure ReplaySummary where
  symbolsTested : ℕ
  historicalCandles : ℕ
  totalSetups : ℕ
  trades : List TradeResult
  rejectedSetupCount : ℕ
  nearMissCount : ℕ
  rejectionReasons : List String
  deriving DecidableEq

def summary (results : List SymbolResult) : ReplaySummary where
  symbolsTested := results.length
  historicalCandles := (results.map (·.historicalCandles)).sum
  totalSetups := (results.flatMap (·.trades)).length
  trades := results.flatMap (·.trades)
  rejectedSetupCount := (results.map (·.rejectedSetupCount)).sum
  nearMissCount := (results.map (·.nearMissCount)).sum
  rejectionReasons := results.flatMap (·.rejectionReasons)

def run (candlesBySymbol : List (String × Series)) : Except ReplayError ReplaySummary :=
  (candlesBySymbol.foldlM (runSymbol a config engine) {}).map fun state => summary state.results

end Model

section Cap

variable {a : Arithmetic} {config : ReplayConfig} {engine : StrategyEngine} {symbol : String}
variable {simulate : Candidate → TradeResult}

/-- The candidate of a mode that the engine accepts at a candle. -/
def acceptedKey (a : Arithmetic) (config : ReplayConfig) (engine : StrategyEngine) (symbol : String)
    (candles : Series) (entry : ReplayCandle × ℕ) (mode : LiquidityGrabMode) : Option CandidateKey :=
  match engine (strategyInput config symbol candles entry.1.close entry.1.closeTimestamp mode) with
  | .error _ => none
  | .ok result =>
    if isValidReplaySetup (result mode) then
      (candidateFromSetup a symbol mode (result mode) entry.2 entry.1.timestamp).toOption.map
        candidateKey
    else none

def addKeys (seen keys : List CandidateKey) : List CandidateKey :=
  keys.foldl (fun seen key => seen.insert key) seen

theorem addKeys_append (seen keys keys' : List CandidateKey) :
    addKeys seen (keys ++ keys') = addKeys (addKeys seen keys) keys' := List.foldl_append

theorem length_addKeys (seen keys : List CandidateKey) :
    seen.length ≤ (addKeys seen keys).length ∧
      (addKeys seen keys).length ≤ seen.length + keys.length := by
  induction keys generalizing seen with
  | nil => exact ⟨le_rfl, le_rfl⟩
  | cons key keys ih =>
    have hrest := ih (seen.insert key)
    have hinsert : seen.length ≤ (seen.insert key).length ∧
        (seen.insert key).length ≤ seen.length + 1 := by
      rw [List.length_insert]
      split <;> omega
    rw [List.length_cons]
    exact ⟨hinsert.1.trans hrest.1, hrest.2.trans (by omega)⟩

/-- Each candidate that has been seen is a trade. -/
def ReplayState.Balanced (state : ReplayState) : Prop :=
  state.trades.length = state.seenCandidates.length

/-- What a step makes of the candidates that have been seen. -/
def ReplayState.Adds (state : ReplayState) (keys : List CandidateKey) (state' : ReplayState) : Prop :=
  (state.Balanced → state'.Balanced) ∧ state'.seenCandidates = addKeys state.seenCandidates keys

theorem ReplayState.adds_trade (state : ReplayState) (candidate : Candidate) :
    state.Adds [candidateKey candidate] (state.trade simulate candidate) := by
  unfold ReplayState.trade
  split
  next hmem => exact ⟨id, (List.insert_of_mem hmem).symm⟩
  next hmem =>
    refine ⟨fun h => ?_, (List.insert_of_not_mem hmem).symm⟩
    unfold Balanced at h ⊢
    rw [List.length_append, h]
    rfl

variable {entry : ReplayCandle × ℕ} {state state' : ReplayState} {n : ℕ}

theorem replayMode_ok {candles : Series} {mode : LiquidityGrabMode}
    (h : replayMode a config engine symbol simulate candles entry state mode = .ok state') :
    state.Adds (acceptedKey a config engine symbol candles entry mode).toList state' := by
  unfold replayMode at h
  unfold acceptedKey
  cases hresult : engine
    (strategyInput config symbol candles entry.1.close entry.1.closeTimestamp mode) with
  | error message =>
    rw [hresult] at h
    dsimp only at h
    split at h
    · cases h
      exact ⟨id, rfl⟩
    · cases h
  | ok result =>
    rw [hresult] at h
    dsimp only at h ⊢
    split at h
    next hvalid =>
      rw [if_pos hvalid]
      split at h
      · cases h
      next candidate hcandidate =>
        cases h
        rw [hcandidate]
        exact (state.noteSetup mode (result mode) entry.2).adds_trade candidate
    next hvalid =>
      rw [if_neg hvalid]
      cases h
      exact ⟨id, rfl⟩

theorem replayModes_ok {candles : Series} {modes : List LiquidityGrabMode}
    (h : Scan.runUntil (fun _ => false)
      (replayMode a config engine symbol simulate candles entry) state modes = .ok state') :
    state.Adds (modes.filterMap (acceptedKey a config engine symbol candles entry)) state' := by
  induction modes generalizing state with
  | nil =>
    cases h
    exact ⟨id, rfl⟩
  | cons mode modes ih =>
    rw [Scan.runUntil, if_neg (by decide)] at h
    split at h
    · cases h
    next next hmode =>
      obtain ⟨hnext, hseen⟩ := replayMode_ok hmode
      obtain ⟨hrest, hrestSeen⟩ := ih h
      have hcons : (mode :: modes).filterMap (acceptedKey a config engine symbol candles entry) =
          (acceptedKey a config engine symbol candles entry mode).toList ++
            modes.filterMap (acceptedKey a config engine symbol candles entry) := by
        rw [List.filterMap_cons]
        split <;> simp_all
      rw [ReplayState.Adds, hcons, addKeys_append, ← hseen]
      exact ⟨hrest ∘ hnext, hrestSeen⟩

variable {series : Series} {raw : List Candles.RawCandle}

theorem replayStep_ok
    (h : replayStep a config engine symbol simulate series raw state entry = .ok state') :
    ∃ visible,
      prefixByTimeframe series config.executionTimeframe entry.1.closeTimestamp
        (raw.take (entry.2 + 1)) = .ok visible ∧
      state.Adds (config.modes.filterMap (acceptedKey a config engine symbol visible entry))
        state' := by
  unfold replayStep at h
  split at h
  · cases h
  next visible hvisible => exact ⟨visible, hvisible, replayModes_ok h⟩

/-- No candle that is analysed while setups are left makes more of them than that. -/
def WithinCap (a : Arithmetic) (config : ReplayConfig) (engine : StrategyEngine) (symbol : String)
    (series : Series) (n : ℕ) : Prop :=
  ∀ candles, normalizeCandles (rawExecution config series) config.executionTimeframe = .ok candles →
    ∀ before entry after state visible, candles.zipIdx = before ++ entry :: after →
      replayRun a config engine symbol series (rawExecution config series) candles before =
        .ok state →
      prefixByTimeframe series config.executionTimeframe entry.1.closeTimestamp
        ((rawExecution config series).take (entry.2 + 1)) = .ok visible →
      state.seenCandidates.length < n →
        (addKeys state.seenCandidates
          (config.modes.filterMap (acceptedKey a config engine symbol visible entry))).length ≤ n

theorem withinCap_of_modes (h : config.modes.length ≤ 1) :
    WithinCap a config engine symbol series n := by
  intro candles _ before entry after state visible _ _ _ hlt
  have hkeys := (length_addKeys state.seenCandidates
    (config.modes.filterMap (acceptedKey a config engine symbol visible entry))).2
  have hmodes := List.length_filterMap_le (acceptedKey a config engine symbol visible entry)
    config.modes
  omega

theorem replaySymbol_le_iff {result : SymbolResult} (hcap : config.maxSetups = some n)
    (h : replaySymbol a config engine symbol series = .ok result) :
    result.trades.length ≤ n ↔ WithinCap a config engine symbol series n := by
  obtain ⟨_, -, h⟩ := Scan.bind_ok h
  obtain ⟨candles, hcandles, h⟩ := Scan.bind_ok h
  obtain ⟨state, hrun, h⟩ := Scan.bind_ok h
  cases h
  have hbalanced {entries : List (ReplayCandle × ℕ)} {s : ReplayState}
      (hs : replayRun a config engine symbol series (rawExecution config series) candles entries =
        .ok s) : s.Balanced := by
    refine Scan.runUntil_induction (I := ReplayState.Balanced) (s := {})
      (fun _ _ _ _ _ hI hstep => ?_) rfl hs
    obtain ⟨_, -, hkeeps, -⟩ := replayStep_ok hstep
    exact hkeeps hI
  have hopen {s : ReplayState} (hs : s.Balanced) :
      setupsReached config s = false ↔ s.seenCandidates.length < n := by
    rw [setupsReached, hcap, ← hs]
    simp
  -- the trades are as many as the candidates, and no candle takes one of them back
  have hle := Scan.runUntil_le_iff (f := fun s : ReplayState => s.seenCandidates.length)
    (fun _ _ _ hstep => by
      obtain ⟨_, -, -, hseen⟩ := replayStep_ok hstep
      rw [hseen]
      exact (length_addKeys _ _).1) hrun (Nat.zero_le n)
  rw [hbalanced hrun, hle]
  constructor
  · intro hsteps _ hcandles' before entry after s visible hsplit hs hvisible hlt
    cases hcandles.symm.trans hcandles'
    have hdone := (hopen (hbalanced hs)).2 hlt
    obtain ⟨s', hstep⟩ := Scan.runUntil_step (hsplit ▸ hrun) hs hdone
    obtain ⟨_, hvisible', -, hseen⟩ := replayStep_ok hstep
    cases hvisible.symm.trans hvisible'
    rw [← hseen]
    exact hsteps before entry after s s' hsplit hs hdone hlt.le hstep
  · intro hwithin before entry after s s' hsplit hs hdone _ hstep
    obtain ⟨visible, hvisible, -, hseen⟩ := replayStep_ok hstep
    rw [hseen]
    exact hwithin candles hcandles before entry after s visible hsplit hs hvisible
      ((hopen (hbalanced hs)).1 hdone)

def RunState.Counted (state : RunState) : Prop :=
  state.setupsUsed = (state.results.flatMap (·.trades)).length

theorem RunState.Counted.add {state : RunState} (h : state.Counted) (result : SymbolResult) :
    (state.add result).Counted := by
  unfold Counted at h ⊢
  rw [RunState.add, h]
  simp [List.flatMap_append]

theorem runSymbol_ok {state state' : RunState} {entry : String × Series}
    (h : runSymbol a config engine state entry = .ok state') :
    ∃ result, state' = state.add result := by
  unfold runSymbol at h
  split at h
  · obtain ⟨result, -, rfl⟩ := Scan.map_ok h
    exact ⟨result, rfl⟩
  · split at h
    · obtain ⟨result, -, rfl⟩ := Scan.map_ok h
      exact ⟨result, rfl⟩
    · cases h
      exact ⟨_, rfl⟩

theorem runSymbol_le_iff {state state' : RunState} {entry : String × Series}
    (hcap : config.maxSetups = some n) (hle : state.setupsUsed ≤ n)
    (h : runSymbol a config engine state entry = .ok state') :
    state'.setupsUsed ≤ n ↔ ∀ hleft : state.setupsUsed < n,
      WithinCap a (config.withMaxSetups (n - state.setupsUsed) (Nat.le_sub_of_add_le' hleft))
        engine entry.1 entry.2 (n - state.setupsUsed) := by
  unfold runSymbol at h
  rw [hcap] at h
  dsimp only at h
  split at h
  next hlt =>
    obtain ⟨result, hresult, rfl⟩ := Scan.map_ok h
    have hiff := replaySymbol_le_iff rfl hresult
    rw [RunState.add]
    dsimp only
    exact ⟨fun hused _ => hiff.1 (by omega), fun hwithin => by have := hiff.2 (hwithin hlt); omega⟩
  next hfull =>
    cases h
    exact ⟨fun _ hleft => absurd hleft hfull, fun _ => hle⟩

/-- A replay has at most as many trades as its cap allows if and only if no candle that is analysed
makes more new setups than are left, for every engine and any number of symbols; with one mode it
always has. -/
theorem setups_within_cap {a : Arithmetic} {config : ReplayConfig} {engine : StrategyEngine}
    {candlesBySymbol : List (String × Series)} {result : ReplaySummary}
    (hcap : config.maxSetups = some n) (h : run a config engine candlesBySymbol = .ok result) :
    (result.trades.length ≤ n ↔ ∀ before entry after state,
      candlesBySymbol = before ++ entry :: after →
      before.foldlM (runSymbol a config engine) {} = .ok state → ∀ hleft : state.setupsUsed < n,
        WithinCap a (config.withMaxSetups (n - state.setupsUsed) (Nat.le_sub_of_add_le' hleft))
          engine entry.1 entry.2 (n - state.setupsUsed)) ∧
    (config.modes.length ≤ 1 → result.trades.length ≤ n) := by
  obtain ⟨state, hfold, rfl⟩ := Scan.map_ok h
  rw [Scan.foldlM_eq_runUntil] at hfold
  have hcounted : state.Counted := by
    refine Scan.runUntil_induction (I := RunState.Counted) (s := {})
      (fun _ _ _ _ _ hI hstep => ?_) rfl hfold
    obtain ⟨result, rfl⟩ := runSymbol_ok hstep
    exact hI.add result
  have hle := Scan.runUntil_le_iff (f := RunState.setupsUsed)
    (fun _ _ _ hstep => by
      obtain ⟨result, rfl⟩ := runSymbol_ok hstep
      exact Nat.le_add_right _ _) hfold (Nat.zero_le n)
  rw [show (summary state.results).trades.length = state.setupsUsed from hcounted.symm]
  refine ⟨?_, fun hmodes => hle.2 fun _ _ _ _ _ _ _ _ ht hstep => ?_⟩
  · rw [hle]
    constructor
    · intro hsteps before entry after t hsplit ht hleft
      rw [Scan.foldlM_eq_runUntil] at ht
      obtain ⟨t', hstep⟩ := Scan.runUntil_step (hsplit ▸ hfold) ht rfl
      exact (runSymbol_le_iff hcap hleft.le hstep).1
        (hsteps before entry after t t' hsplit ht rfl hleft.le hstep) hleft
    · intro hwithin before entry after t t' hsplit ht _ hused hstep
      rw [← Scan.foldlM_eq_runUntil] at ht
      exact (runSymbol_le_iff hcap hused hstep).2 (hwithin before entry after t hsplit ht)
  · exact (runSymbol_le_iff hcap ht hstep).2 fun _ => withinCap_of_modes hmodes

theorem cap_pos : ∀ limit ∈ [none, none, some 1], ∀ n ∈ limit, 1 ≤ n := by decide

theorem window_pos : 1 ≤ 300 := by decide

def cappedConfig (modes : List LiquidityGrabMode) (h : modes ≠ []) : ReplayConfig :=
  { modes := modes, maxSetups := some 1, modes_ne_nil := h
    replayCandles_pos := window_pos, limits_pos := cap_pos }

/-- The summary of a replay of two symbols in which the first uses the cap up. -/
def sampleSummary : ReplaySummary :=
  summary [sampleResult, { historicalCandles := 5 }]

theorem one_mode_within_cap : sampleSummary.trades.length ≤ 1 := by
  have hrun : run .exact (cappedConfig [.swing] (by decide)) sampleEngine
      [("BTCUSDT", sampleSeries), ("ETHUSDT", sampleSeries)] = .ok sampleSummary := by
    decide +kernel
  exact (setups_within_cap rfl hrun).2 (by decide)

/-- An engine that accepts both modes at the first candle gives two trades under a cap of one. -/
theorem two_modes_exceed_cap :
    (run .exact (cappedConfig [.swing, .scalp] (by decide)) sampleEngine
      [("BTCUSDT", sampleSeries)]).map (·.trades.length) = .ok 2 := by
  decide +kernel

end Cap

end CandleCraft.Replay
