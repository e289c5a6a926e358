import CandleCraft.Replay.History

/-!
# Replaying a symbol

The replay walks over the execution candles. At each of them the strategy engine analyses what was
known at its close, and every new candidate is simulated on the whole execution series. The engine
is an arbitrary function of its input, which may raise.
-/

namespace CandleCraft.Replay

open Candles Plan Strategy Window

section Setups

/-- `LiquidityGrabSetup`, as far as the replay reads it. -/
structure Setup where
  isValid : Bool := false
  selective : Bool := false
  executionEligible : Bool := false
  grade : String := NA
  bias : Option TradeDirection := none
  entry : Option ℚ := none
  entryLow : Option ℚ := none
  entryHigh : Option ℚ := none
  stop : Option ℚ := none
  tp1 : Option ℚ := none
  tp2 : Option ℚ := none
  tp3 : Option ℚ := none
  sweepIsPresent : Bool := false
  sweepCandleIndex : Option ℕ := none
  shiftCandleIndex : Option ℕ := none
  pullbackSweepCandleIndex : Option ℕ := none
  pullbackCalculationTimeframe : String := NA
  confirmationPassed : Bool := false
  gatesPassed : List String := []
  gatesFailed : List String := []
  hardRejectionReasons : List String := []
  firstFailedGate : Option String := none
  pullbackFailureReason : Option String := none
  confirmationBosChochReason : Option String := none

def isValidReplaySetup (setup : Setup) : Bool :=
  !(setup.selective && !setup.executionEligible) && setup.isValid &&
    ["A", "B"].contains setup.grade

def isReplayRejection (setup : Setup) : Bool :=
  !setup.isValid && (setup.sweepIsPresent || setup.confirmationPassed || !setup.gatesPassed.isEmpty)

def isReplayNearMiss (setup : Setup) : Bool :=
  !setup.isValid && (setup.confirmationPassed || setup.gatesPassed.contains "bos_choch")

def setupRejectionReason (setup : Setup) : String :=
  (setup.firstFailedGate <|> setup.hardRejectionReasons.head? <|> setup.pullbackFailureReason <|>
    setup.confirmationBosChochReason <|> setup.gatesFailed.head?).getD "Rejected setup"

/-- The keys of rejected setups and near misses: that of an engine that raised, or
`_rejection_key`. -/
inductive RejectionKey where
  | raised (mode : LiquidityGrabMode) (index : ℕ) (message : String)
  | setup (mode : LiquidityGrabMode) (firstFailedGate : Option String)
      (sweepCandleIndex shiftCandleIndex : Option ℕ) (entry : Option ℚ) (fallback : Option ℕ)
  deriving DecidableEq

def rejectionKey (mode : LiquidityGrabMode) (setup : Setup) (fallbackIndex : ℕ) : RejectionKey :=
  .setup mode setup.firstFailedGate setup.sweepCandleIndex setup.shiftCandleIndex setup.entry
    (if setup.sweepCandleIndex = none ∧ setup.shiftCandleIndex = none then some fallbackIndex
    else none)

def requiredLevels (setup : Setup) : List (String × Option ℚ) :=
  [("entry", setup.entry), ("entry_low", setup.entryLow), ("entry_high", setup.entryHigh),
    ("stop", setup.stop), ("tp1", setup.tp1), ("tp2", setup.tp2)]

def candidateFromSetup (a : Arithmetic) (symbol : String) (mode : LiquidityGrabMode)
    (setup : Setup) (detectedAtIndex : ℕ) (detectedAtTimestamp : ℤ) :
    Except ReplayError Candidate :=
  match setup.entry, setup.entryLow, setup.entryHigh, setup.stop, setup.tp1, setup.tp2 with
  | some entry, some entryLow, some entryHigh, some stop, some tp1, some tp2 =>
    match setup.bias with
    | none => .error .missingDirection
    | some direction => .ok
      { symbol := symbol
        mode := mode
        direction := direction
        detectedAtIndex := detectedAtIndex
        detectedAtTimestamp := detectedAtTimestamp
        entry := a.quantize entry
        entryLow := a.quantize entryLow
        entryHigh := a.quantize entryHigh
        stop := a.quantize stop
        tp1 := a.quantize tp1
        tp2 := a.quantize tp2
        tp3 := setup.tp3.map a.quantize
        sweepCandleIndex := setup.pullbackSweepCandleIndex
        pullbackCalculationTimeframe := setup.pullbackCalculationTimeframe }
  | _, _, _, _, _, _ =>
    .error (.missingLevels
      (((requiredLevels setup).filter fun level => level.2.isNone).map Prod.fst))

structure CandidateKey where
  symbol : String
  mode : LiquidityGrabMode
  direction : TradeDirection
  pullbackCalculationTimeframe : String
  sweepCandleIndex : Option ℕ
  entry : ℚ
  deriving DecidableEq

def candidateKey (candidate : Candidate) : CandidateKey where
  symbol := candidate.symbol
  mode := candidate.mode
  direction := candidate.direction
  pullbackCalculationTimeframe := candidate.pullbackCalculationTimeframe
  sweepCandleIndex := candidate.sweepCandleIndex
  entry := candidate.entry

theorem candidateFromSetup_index {a : Arithmetic} {symbol : String} {mode : LiquidityGrabMode}
    {setup : Setup} {index : ℕ} {timestamp : ℤ} {candidate : Candidate}
    (h : candidateFromSetup a symbol mode setup index timestamp = .ok candidate) :
    candidate.detectedAtIndex = index := by
  unfold candidateFromSetup at h
  split at h
  · split at h
    · cases h
    · cases h
      rfl
  · cases h

end Setups

section Model

/-- `candles_by_timeframe`. -/
abbrev Series := List (String × List RawCandle)

def Series.get (series : Series) (timeframe : String) : Option (List RawCandle) :=
  series.lookup timeframe

/-- The engine input of `_strategy_input`, without what does not change during a replay. -/
structure StrategyInput where
  symbol : String
  decisionTimestamp : ℤ
  currentPrice : ℚ
  structureCandles : Option (List RawCandle)
  candles : List (Option (List RawCandle))
  mode : LiquidityGrabMode

/-- `LiquidityGrabEngine.analyze`: a setup for each mode, or the message it raises. -/
abbrev StrategyEngine := StrategyInput → Except String (LiquidityGrabMode → Setup)

def strategyInput (config : ReplayConfig) (symbol : String) (candles : Series) (currentPrice : ℚ)
    (decisionTimestamp : ℤ) (mode : LiquidityGrabMode) : StrategyInput where
  symbol := symbol
  decisionTimestamp := decisionTimestamp
  currentPrice := currentPrice
  structureCandles := candles.get config.structureTimeframe
  candles := ["1d", "2d", "12h", "6h", "4h", "1h", "15m", "5m"].map candles.get
  mode := mode

def prefixByTimeframe (series : Series) (executionTimeframe : String) (decisionTimestamp : ℤ)
    (execution : List RawCandle) : Except ReplayError Series := do
  let output ← series.mapM fun entry => do
    if entry.1 = executionTimeframe then pure (entry.1, execution)
    else pure (entry.1, ← sliceUntil entry.2 decisionTimestamp entry.1)
  pure (if output.any fun entry => entry.1 = executionTimeframe then output
    else output ++ [(executionTimeframe, execution)])

/-- What the loop of `replay_symbol` carries along. -/
structure ReplayState where
  trades : List TradeResult := []
  seenCandidates : List CandidateKey := []
  rejectedKeys : List RejectionKey := []
  nearMissKeys : List RejectionKey := []
  rejectionReasons : List String := []
  deriving DecidableEq

def ReplayState.noteSetup (state : ReplayState) (mode : LiquidityGrabMode) (setup : Setup)
    (index : ℕ) : ReplayState :=
  let key := rejectionKey mode setup index
  { state with
    nearMissKeys :=
      if isReplayNearMiss setup then state.nearMissKeys.insert key else state.nearMissKeys
    rejectionReasons :=
      if isReplayRejection setup ∧ key ∉ state.rejectedKeys then
        state.rejectionReasons ++ [setupRejectionReason setup]
      else state.rejectionReasons
    rejectedKeys :=
      if isReplayRejection setup then state.rejectedKeys.insert key else state.rejectedKeys }

def ReplayState.noteRaised (state : ReplayState) (mode : LiquidityGrabMode) (index : ℕ)
    (message : String) : ReplayState :=
  { state with
    rejectionReasons := state.rejectionReasons ++ [message]
    rejectedKeys := state.rejectedKeys.insert (.raised mode index message) }

def ReplayState.trade (state : ReplayState) (simulate : Candidate → TradeResult)
    (candidate : Candidate) : ReplayState :=
  if candidateKey candidate ∈ state.seenCandidates then state
  else
    { state with
      seenCandidates := candidateKey candidate :: state.seenCandidates
      trades := state.trades ++ [simulate candidate] }

variable (a : Arithmetic) (config : ReplayConfig) (engine : StrategyEngine) (symbol : String)

/-- One mode of the inner loop of `replay_symbol`, at an execution candle. -/
def replayMode (simulate : Candidate → TradeResult) (candles : Series)
    (entry : ReplayCandle × ℕ) (state : ReplayState) (mode : LiquidityGrabMode) :
    Except ReplayError ReplayState :=
  match engine (strategyInput config symbol candles entry.1.close entry.1.closeTimestamp mode) with
  | .error message =>
    if config.selective then .ok (state.noteRaised mode entry.2 message)
    else .error (.engine message)
  | .ok result =>
    if isValidReplaySetup (result mode) then
      match candidateFromSetup a symbol mode (result mode) entry.2 entry.1.timestamp with
      | .error e => .error e
      | .ok candidate =>
        .ok ((state.noteSetup mode (result mode) entry.2).trade simulate candidate)
    else .ok (state.noteSetup mode (result mode) entry.2)

/-- One execution candle of `replay_symbol`. The inner loop has no break. -/
def replayStep (simulate : Candidate → TradeResult) (series : Series) (raw : List RawCandle)
    (state : ReplayState) (entry : ReplayCandle × ℕ) : Except ReplayError ReplayState :=
  match prefixByTimeframe series config.executionTimeframe entry.1.closeTimestamp
    (raw.take (entry.2 + 1)) with
  | .error e => .error e
  | .ok candles =>
    Scan.runUntil (fun _ => false) (replayMode a config engine symbol simulate candles entry) state
      config.modes

/-- The condition under which the outer loop breaks. -/
def setupsReached (state : ReplayState) : Bool :=
  match config.maxSetups with
  | none => false
  | some n => decide (n ≤ state.trades.length)

/-- `ReplaySymbolResult`, without the statistics of the trades. -/
structure SymbolResult where
  historicalCandles : ℕ := 0
  trades : List TradeResult := []
  rejectedSetupCount : ℕ := 0
  nearMissCount : ℕ := 0
  rejectionReasons : List String := []
  deriving DecidableEq

/-- The loop of `replay_symbol` over the execution candles. -/
def replayRun (series : Series) (raw : List RawCandle) (candles : List ReplayCandle)
    (entries : List (ReplayCandle × ℕ)) : Except ReplayError ReplayState :=
  Scan.runUntil (setupsReached config)
    (replayStep a config engine symbol (fun candidate => simulateTrade a config candidate candles)
      series raw) {} entries

/-- The check of a series at the start of `replay_symbol`. -/
def checkSeries (entry : String × List RawCandle) : Except ReplayError Unit :=
  if entry.2.isEmpty then .ok () else (validateHistory entry.2 entry.1).map fun _ => ()

/-- The last `replay_candles` candles of the execution timeframe. -/
def rawExecution (series : Series) : List RawCandle :=
  let raw := (series.get config.executionTimeframe).getD []
  raw.drop (raw.length - config.replayCandles)

def replaySymbol (series : Series) : Except ReplayError SymbolResult := do
  series.forM checkSeries
  let raw := rawExecution config series
  let candles ← normalizeCandles raw config.executionTimeframe
  let state ← replayRun a config engine symbol series raw candles candles.zipIdx
  pure ⟨candles.length, state.trades, state.rejectedKeys.length, state.nearMissKeys.length,
    state.rejectionReasons⟩

end Model

section Resolved

variable {a : Arithmetic} {config : ReplayConfig} {candidate : Candidate}
variable {candles : List ReplayCandle} {exit : Exit} {fillIndex : ℕ}

/-- The trade ends at its stop, at its final target, or before it is filled with its stop touched.
A trade that has touched a target before its stop is reported with that target. -/
def Resolved (candles : List ReplayCandle) (result : TradeResult) : Prop :=
  result.outcome = .stopped ∨ result.outcome = .invalidated ∨
  (result.filled = true ∧ finalTargetNumber result.candidate ≤ result.highestTpHit) ∨
  (result.filled = true ∧ ∃ index candle, result.exitIndex = some index ∧
    candles[index]? = some candle ∧ candle.Touches result.candidate.stop)

@[simp]
theorem simulateTrade_candidate (candles : List ReplayCandle) :
    (simulateTrade a config candidate candles).candidate = candidate := by
  unfold simulateTrade
  split
  · rfl
  · rfl
  · split
    · next exit _ => cases exit <;> rfl
    · unfold expiryResult
      split <;> rfl

theorem awaitFill_append {fill : Fill}
    (h : awaitFill config candidate candles = some fill) (later : List ReplayCandle) :
    awaitFill config candidate (candles ++ later) = some fill := by
  have hne : candles ≠ [] := by
    rintro rfl
    cases h
  have hpos := List.length_pos_of_ne_nil hne
  have hlength : (candles ++ later).length = candles.length + later.length := List.length_append
  have hmono : maxFillIndex config candidate candles + 1 ≤
      maxFillIndex config candidate (candles ++ later) + 1 := by
    unfold maxFillIndex
    omega
  have hle : maxFillIndex config candidate candles + 1 ≤ candles.length := by
    unfold maxFillIndex
    omega
  obtain ⟨rest, hrest⟩ := window_isPrefix later (candidate.detectedAtIndex + 1) hmono hle
  unfold awaitFill at h ⊢
  rw [← hrest, List.findSome?_append, h]
  rfl

/-- The position of the candle at which the second loop is left. -/
def Exit.index : Exit → ℕ
  | .stopped _ index _ => index
  | .target _ _ index _ => index

theorem holdCandle_exit {held : Holding} {entry : ReplayCandle × ℕ}
    (h : holdCandle config candidate fillIndex held entry = .error exit) :
    exit.index = entry.2 := by
  unfold holdCandle at h
  dsimp only at h
  split_ifs at h <;> cases h <;> rfl

theorem holdTrade_exit (h : holdTrade config candidate candles fillIndex = .error exit) :
    exit.index < candles.length := by
  obtain ⟨before, entry, after, held, hsplit, -, hexit⟩ := foldlM_eq_error h
  obtain ⟨-, -, hget, -⟩ := window_split hsplit
  rw [holdCandle_exit hexit]
  exact (List.getElem?_eq_some_iff.1 hget).1

theorem holdTrade_append
    (h : holdTrade config candidate candles fillIndex = .error exit) (later : List ReplayCandle) :
    holdTrade config candidate (candles ++ later) fillIndex = .error exit := by
  have hpos := (Nat.zero_le _).trans_lt (holdTrade_exit h)
  have hlength : (candles ++ later).length = candles.length + later.length := List.length_append
  have hmono : lastIndex config candidate candles fillIndex + 1 ≤
      lastIndex config candidate (candles ++ later) fillIndex + 1 := by
    unfold lastIndex
    omega
  have hle : lastIndex config candidate candles fillIndex + 1 ≤ candles.length := by
    unfold lastIndex
    omega
  obtain ⟨rest, hrest⟩ := window_isPrefix later fillIndex hmono hle
  unfold holdTrade at h ⊢
  rw [← hrest, List.foldlM_append, h]
  rfl

theorem exitResult_append
    (h : exit.index < candles.length) (fill : ReplayCandle × ℕ) (later : List ReplayCandle) :
    exitResult a candidate (candles ++ later) fill exit =
      exitResult a candidate candles fill exit := by
  cases exit with
  | stopped candle index timeToTp1 =>
    have hwindow : window (candles ++ later) fill.2 (index + 1) = window candles fill.2 (index + 1) :=
      window_append later fill.2 h
    rw [exitResult, exitResult, stoppedResult, stoppedResult, filledResult, filledResult, hwindow]
  | target number candle index timeToTp1 =>
    have hwindow : window (candles ++ later) fill.2 (index + 1) = window candles fill.2 (index + 1) :=
      window_append later fill.2 h
    rw [exitResult, exitResult, targetResult, targetResult, filledResult, filledResult, hwindow]

/-- The final target has not been touched while a trade is held. -/
theorem holdTrade_highest {entries : List (ReplayCandle × ℕ)}
    {held held' : Holding} (hheld : held.highestTp < finalTargetNumber candidate)
    (h : entries.foldlM (holdCandle config candidate fillIndex) held = .ok held') :
    held'.highestTp < finalTargetNumber candidate := by
  induction entries generalizing held with
  | nil =>
    cases h
    exact hheld
  | cons entry entries ih =>
    rw [List.foldlM_cons] at h
    obtain ⟨next, hstep, h⟩ := Scan.bind_ok h
    refine ih ?_ h
    unfold holdCandle at hstep
    dsimp only at hstep
    split at hstep
    · split at hstep <;> cases hstep
    · split at hstep
      · cases hstep
      · next hfinal =>
        split at hstep
        · split at hstep <;> cases hstep
        · cases hstep
          by_cases hraised : held.highestTp <
              max held.highestTp (highestTargetTouched candidate entry.1)
          · exact not_le.1 fun hle => hfinal ⟨hraised, hle⟩
          · rw [Holding.raise, if_neg hraised]
            exact hheld

theorem not_resolved_filledResult {outcome : ReplayOutcome}
    {fill exit : ReplayCandle × ℕ} {price rMultiple : ℚ} {highestTp : ℕ} {timeToTp1 : Option ℕ}
    {reason : String} (houtcome : outcome ≠ .stopped ∧ outcome ≠ .invalidated)
    (hhighest : highestTp < finalTargetNumber candidate)
    (hstop : ∀ candle, candles[exit.2]? = some candle → ¬ candle.Touches candidate.stop) :
    ¬ Resolved candles (filledResult a candidate candles outcome fill exit price highestTp timeToTp1
      rMultiple reason) := by
  rintro (h | h | ⟨-, h⟩ | ⟨-, index, candle, hexit, hat, htouch⟩)
  · exact houtcome.1 h
  · exact houtcome.2 h
  · exact absurd h (not_le.2 hhighest)
  · obtain rfl := Option.some.inj hexit
    exact hstop candle hat htouch

theorem tpOutcome_ne (number : ℕ) :
    tpOutcome number ≠ .stopped ∧ tpOutcome number ≠ .invalidated := by
  unfold tpOutcome
  split_ifs <;> decide

/-- A trade that is held to the end of the loop is not resolved. -/
theorem not_resolved_expiry {held : Holding} (hfill : fillIndex < candles.length)
    (hhold : holdTrade config candidate candles fillIndex = .ok held) (fill exit : ReplayCandle) :
    ¬ Resolved candles (expiryResult a config candidate candles (fill, fillIndex)
      (exit, lastIndex config candidate candles fillIndex) held) := by
  have hhighest : held.highestTp < finalTargetNumber candidate := by
    refine holdTrade_highest ?_ hhold
    unfold finalTargetNumber
    split <;> decide
  have hlast : fillIndex ≤ lastIndex config candidate candles fillIndex := by
    unfold lastIndex
    omega
  have hstop : ∀ c, candles[lastIndex config candidate candles fillIndex]? = some c →
      ¬ c.Touches candidate.stop := fun c hat =>
    (holdTrade_ok hhold).1 (c, _) (mem_window.2 ⟨hlast, Nat.lt_succ_self _, hat⟩)
  unfold expiryResult
  split
  · exact not_resolved_filledResult (tpOutcome_ne _) hhighest hstop
  · exact not_resolved_filledResult ⟨by decide, by decide⟩ hhighest hstop

theorem simulateTrade_append (h : Resolved candles (simulateTrade a config candidate candles))
    (later : List ReplayCandle) :
    simulateTrade a config candidate (candles ++ later) =
      simulateTrade a config candidate candles := by
  cases hfill : awaitFill config candidate candles with
  | none =>
    rw [simulateTrade, hfill] at h
    rcases h with h | h | ⟨h, -⟩ | ⟨h, -⟩ <;> cases h
  | some fill =>
    have hfill' := awaitFill_append hfill later
    cases fill with
    | invalidated candle index => rw [simulateTrade, simulateTrade, hfill, hfill']
    | filled candle index =>
      rw [simulateTrade, hfill] at h
      rw [simulateTrade, simulateTrade, hfill, hfill']
      dsimp only at h ⊢
      cases hhold : holdTrade config candidate candles index with
      | error exit =>
        rw [holdTrade_append hhold later]
        exact exitResult_append (holdTrade_exit hhold) _ later
      | ok held =>
        rw [hhold] at h
        exact absurd h (not_resolved_expiry (awaitFill_filled hfill).2 hhold candle _)

end Resolved

section Agreement

variable {a : Arithmetic} {config : ReplayConfig} {engine : StrategyEngine} {symbol : String}
variable {early full : ReplayState}
  {candles : List ReplayCandle}

/-- Two trades of one candidate, of which the second has the result of the first if that is
resolved. -/
structure Tracks (candles : List ReplayCandle) (early full : TradeResult) : Prop where
  candidate : full.candidate = early.candidate
  result : Resolved candles early → full = early

/-- The states of two replays that have detected the same. -/
structure Agrees (candles : List ReplayCandle) (early full : ReplayState) : Prop where
  trades : List.Forall₂ (Tracks candles) early.trades full.trades
  seenCandidates : full.seenCandidates = early.seenCandidates
  rejectedKeys : full.rejectedKeys = early.rejectedKeys
  nearMissKeys : full.nearMissKeys = early.nearMissKeys
  rejectionReasons : full.rejectionReasons = early.rejectionReasons

theorem Agrees.noteRaised (h : Agrees candles early full)
    (mode : LiquidityGrabMode) (index : ℕ) (message : String) :
    Agrees candles (early.noteRaised mode index message) (full.noteRaised mode index message) where
  trades := h.trades
  seenCandidates := h.seenCandidates
  rejectedKeys := congrArg (List.insert _) h.rejectedKeys
  nearMissKeys := h.nearMissKeys
  rejectionReasons := congrArg (· ++ _) h.rejectionReasons

theorem Agrees.noteSetup (h : Agrees candles early full)
    (mode : LiquidityGrabMode) (setup : Setup) (index : ℕ) :
    Agrees candles (early.noteSetup mode setup index) (full.noteSetup mode setup index) where
  trades := h.trades
  seenCandidates := h.seenCandidates
  rejectedKeys := by simp only [ReplayState.noteSetup, h.rejectedKeys]
  nearMissKeys := by simp only [ReplayState.noteSetup, h.nearMissKeys]
  rejectionReasons := by simp only [ReplayState.noteSetup, h.rejectedKeys, h.rejectionReasons]

theorem Agrees.trade (h : Agrees candles early full)
    (later : List ReplayCandle) (candidate : Candidate) :
    Agrees candles (early.trade (fun c => simulateTrade a config c candles) candidate)
      (full.trade (fun c => simulateTrade a config c (candles ++ later)) candidate) := by
  unfold ReplayState.trade
  rw [h.seenCandidates]
  split
  · exact h
  · refine ⟨List.rel_append h.trades (.cons ⟨?_, ?_⟩ .nil), rfl, h.rejectedKeys, h.nearMissKeys,
      h.rejectionReasons⟩
    · rw [simulateTrade_candidate, simulateTrade_candidate]
    · exact fun hresolved => simulateTrade_append hresolved later

theorem replayMode_agree (later : List ReplayCandle) (series : Series) (entry : ReplayCandle × ℕ)
    (h : Agrees candles early full) (mode : LiquidityGrabMode) :
    Scan.Agree (Agrees candles)
      (replayMode a config engine symbol (fun c => simulateTrade a config c candles) series entry
        early mode)
      (replayMode a config engine symbol (fun c => simulateTrade a config c (candles ++ later))
        series entry full mode) := by
  unfold replayMode
  split
  · split
    · exact .ok (h.noteRaised _ _ _)
    · exact .error _ _
  · split
    · split
      · exact .error _ _
      · exact .ok ((h.noteSetup _ _ _).trade later _)
    · exact .ok (h.noteSetup _ _ _)

theorem replayStep_agree (later : List ReplayCandle) (series : Series) (raw : List RawCandle)
    (h : Agrees candles early full) (entry : ReplayCandle × ℕ) :
    Scan.Agree (Agrees candles)
      (replayStep a config engine symbol (fun c => simulateTrade a config c candles) series raw
        early entry)
      (replayStep a config engine symbol (fun c => simulateTrade a config c (candles ++ later))
        series raw full entry) := by
  unfold replayStep
  split
  · exact .error _ _
  · nth_rewrite 2 [← List.map_id config.modes]
    exact Scan.runUntil_agree id (fun _ _ _ => rfl)
      (fun _ _ mode hagrees => replayMode_agree later _ entry hagrees mode) h config.modes

/-- A replay over the same decisions that simulates the trades on fewer candles. -/
theorem replayRun_agree {later : List ReplayCandle} {series : Series} {raw : List RawCandle}
    {entries : List (ReplayCandle × ℕ)} {full : ReplayState}
    (h : replayRun a config engine symbol series raw (candles ++ later) entries = .ok full) :
    ∃ early, replayRun a config engine symbol series raw candles entries = .ok early ∧
      Agrees candles early full := by
  have hdone : ∀ early full, Agrees candles early full →
      setupsReached config full = setupsReached config early := by
    intro early full hagrees
    unfold setupsReached
    rw [hagrees.trades.length_eq]
  have hagree : Scan.Agree (Agrees candles)
      (replayRun a config engine symbol series raw candles entries)
      (replayRun a config engine symbol series raw (candles ++ later) entries) := by
    unfold replayRun
    nth_rewrite 2 [← List.map_id entries]
    exact Scan.runUntil_agree id hdone
      (fun _ _ entry hagrees => replayStep_agree later series raw hagrees entry)
      ⟨.nil, rfl, rfl, rfl, rfl⟩ entries
  rw [h] at hagree
  cases hearly : replayRun a config engine symbol series raw candles entries with
  | error e => rw [hearly] at hagree; cases hagree
  | ok early =>
    rw [hearly] at hagree
    cases hagree with
    | ok hagrees => exact ⟨early, rfl, hagrees⟩

end Agreement

section Detections

variable {a : Arithmetic} {config : ReplayConfig} {engine : StrategyEngine} {symbol : String}
variable {positions : ℕ → Prop} {state state' : ReplayState} {series : Series}
  {simulate : Candidate → TradeResult}

def Adds (positions : ℕ → Prop) (state state' : ReplayState) : Prop :=
  ∃ added, state'.trades = state.trades ++ added ∧
    ∀ trade ∈ added, positions trade.candidate.detectedAtIndex

theorem Adds.of_eq (h : state'.trades = state.trades) : Adds positions state state' :=
  ⟨[], h.trans (List.append_nil _).symm, fun _ htrade => absurd htrade List.not_mem_nil⟩

theorem Adds.trans {s t u : ReplayState} (hst : Adds positions s t)
    (htu : Adds positions t u) : Adds positions s u := by
  obtain ⟨added, htrades, hadded⟩ := hst
  obtain ⟨added', htrades', hadded'⟩ := htu
  refine ⟨added ++ added', ?_, fun trade htrade => ?_⟩
  · rw [htrades', htrades, List.append_assoc]
  · exact (List.mem_append.1 htrade).elim (hadded trade) (hadded' trade)

theorem replayMode_adds (hsimulate : ∀ c, (simulate c).candidate = c)
    {entry : ReplayCandle × ℕ} {mode : LiquidityGrabMode}
    (h : replayMode a config engine symbol simulate series entry state mode = .ok state') :
    Adds (· = entry.2) state state' := by
  unfold replayMode at h
  split at h
  · split at h
    · cases h
      exact .of_eq rfl
    · cases h
  · split at h
    · split at h
      · cases h
      · next candidate hcandidate =>
        cases h
        unfold ReplayState.trade
        split
        · exact .of_eq rfl
        · refine ⟨[simulate candidate], rfl, fun trade htrade => ?_⟩
          rw [List.mem_singleton.1 htrade, hsimulate]
          exact candidateFromSetup_index hcandidate
    · cases h
      exact .of_eq rfl

theorem replayStep_adds (hsimulate : ∀ c, (simulate c).candidate = c)
    {raw : List RawCandle} {entry : ReplayCandle × ℕ}
    (h : replayStep a config engine symbol simulate series raw state entry = .ok state') :
    Adds (· = entry.2) state state' := by
  unfold replayStep at h
  split at h
  · cases h
  · exact Scan.runUntil_induction (I := Adds (· = entry.2) state)
      (fun _ _ _ _ _ hadds hmode => hadds.trans (replayMode_adds hsimulate hmode))
      (.of_eq rfl) h

theorem replayEntries_adds (hsimulate : ∀ c, (simulate c).candidate = c)
    {raw : List RawCandle} {entries : List (ReplayCandle × ℕ)} (hentries : ∀ entry ∈ entries, positions entry.2)
    (h : Scan.runUntil (setupsReached config) (replayStep a config engine symbol simulate series raw)
      state entries = .ok state') :
    Adds positions state state' := by
  refine Scan.runUntil_induction (I := Adds positions state) (fun s entry hentry s' _ hadds hstep => ?_)
    (.of_eq rfl) h
  obtain ⟨added, htrades, hadded⟩ := replayStep_adds hsimulate hstep
  refine hadds.trans ⟨added, htrades, fun trade htrade => ?_⟩
  rw [hadded trade htrade]
  exact hentries entry hentry

end Detections

section Cut

variable {config : ReplayConfig} {series : Series} {timeframe : String}
variable {entry : String × List RawCandle}

def closeOf (timeframe : String) (candle : RawCandle) : Option Instant :=
  match timeframeDuration timeframe with
  | none => none
  | some δ =>
    match candle.boundaries δ with
    | .error _ => none
    | .ok (_, closeAt) => some closeAt

def Series.execution (series : Series) (timeframe : String) : List RawCandle :=
  (series.get timeframe).getD []

/-- The first `n` execution candles, and of the other timeframes the candles closed by a time. -/
def Series.cut (series : Series) (timeframe : String) (n : ℕ) (cutoff : Instant) : Series :=
  series.map fun entry =>
    (entry.1, if entry.1 = timeframe then entry.2.take n else closedBy entry.1 cutoff entry.2)

def Series.upTo (series : Series) (timeframe : String) (position : ℕ) : Series :=
  match (series.execution timeframe)[position]?.bind (closeOf timeframe) with
  | none => series
  | some cutoff => series.cut timeframe (position + 1) cutoff

theorem execution_cut (series : Series) (timeframe : String) (n : ℕ) (cutoff : Instant) :
    (series.cut timeframe n cutoff).execution timeframe =
      (series.execution timeframe).take n := by
  unfold Series.execution Series.get Series.cut
  induction series with
  | nil => exact List.take_nil.symm
  | cons entry series ih =>
    rw [List.map_cons, List.lookup_cons, List.lookup_cons]
    cases hkey : timeframe == entry.1 with
    | true =>
      rw [if_pos (eq_of_beq hkey).symm]
      rfl
    | false => exact ih

theorem validateHistory_of_check (h : checkSeries entry = .ok ()) :
    entry.2 = [] ∨ ∃ timeline, validateHistory entry.2 entry.1 = .ok timeline := by
  unfold checkSeries at h
  split at h
  · next hempty => exact Or.inl (List.isEmpty_iff.1 hempty)
  · obtain ⟨timeline, hvalid, -⟩ := Scan.map_ok h
    exact Or.inr ⟨timeline, hvalid⟩

theorem checkSeries_of_valid {timeframe : String} {candles : List RawCandle}
    {timeline : List (CausalCandle × CandlePrices)}
    (h : validateHistory candles timeframe = .ok timeline) :
    checkSeries (timeframe, candles) = .ok () := by
  unfold checkSeries
  rw [h]
  split <;> rfl

theorem check_cut (h : series.forM checkSeries = .ok ()) (n : ℕ) (cutoff : Instant) :
    (series.cut timeframe n cutoff).forM checkSeries = .ok () := by
  refine Scan.forM_ok_iff.2 fun entry hentry => ?_
  obtain ⟨source, hsource, rfl⟩ := List.mem_map.1 hentry
  rcases validateHistory_of_check (Scan.forM_ok_iff.1 h source hsource) with hempty | ⟨timeline, hvalid⟩
  · rw [hempty]
    split
    · rw [List.take_nil]
      rfl
    · rfl
  · split
    · exact checkSeries_of_valid (validateHistory_take hvalid n)
    · obtain ⟨timeline', hvalid'⟩ := validateHistory_closedBy hvalid cutoff
      exact checkSeries_of_valid hvalid'

theorem sliceUntil_closedBy (h : checkSeries entry = .ok ())
    {time : ℤ} {cutoff : Instant} (htime : time * 1000 ≤ cutoff) :
    sliceUntil (closedBy entry.1 cutoff entry.2) time entry.1 =
      sliceUntil entry.2 time entry.1 := by
  rcases validateHistory_of_check h with hempty | ⟨timeline, hvalid⟩
  · rw [hempty]
    rfl
  · obtain ⟨timeline', hvalid'⟩ := validateHistory_closedBy hvalid cutoff
    rw [sliceUntil_eq hvalid, sliceUntil_eq hvalid', closedBy_closedBy htime]

theorem prefixByTimeframe_cut (h : series.forM checkSeries = .ok ()) (n : ℕ) {time : ℤ}
    {cutoff : Instant} (htime : time * 1000 ≤ cutoff) (execution : List RawCandle) :
    prefixByTimeframe (series.cut timeframe n cutoff) timeframe time execution =
      prefixByTimeframe series timeframe time execution := by
  unfold prefixByTimeframe Series.cut
  rw [List.mapM_map]
  refine congrArg (· >>= _) (Scan.mapM_eq_of_mem fun entry hentry => ?_)
  dsimp only [Function.comp_apply]
  split
  · rfl
  · rw [sliceUntil_closedBy (Scan.forM_ok_iff.1 h entry hentry) htime]

end Cut

section LookAhead

variable {a : Arithmetic} {config : ReplayConfig} {engine : StrategyEngine} {symbol : String}
variable {position : ℕ} {last : CausalCandle × CandlePrices} {series : Series}
  {raw : List RawCandle} {timeframe : String} {timeline : List (CausalCandle × CandlePrices)}

theorem closeOf_position (h : validateHistory raw timeframe = .ok timeline)
    (hposition : position < raw.length) :
    ∃ entry, timeline[position]? = some entry ∧
      raw[position]?.bind (closeOf timeframe) = some entry.1.closeTimestamp := by
  obtain ⟨δ, hδ, -, hsource, hbounds, -⟩ := validated_entries (validateHistory_spec h).1
  have hlength : timeline.length = raw.length := by
    rw [← hsource, List.length_map, List.length_map]
  obtain ⟨entry, hentry⟩ : ∃ entry, timeline[position]? = some entry :=
    ⟨_, List.getElem?_eq_getElem (hlength ▸ hposition)⟩
  have hraw : raw[position]? = some entry.1.source := by
    rw [← hsource, List.getElem?_map, List.getElem?_map, hentry]
    rfl
  refine ⟨entry, hentry, ?_⟩
  rw [hraw, Option.bind_some, closeOf, hδ]
  dsimp only
  rw [hbounds entry.1 (List.mem_map_of_mem (List.mem_of_getElem? hentry))]

/-- A candle up to a position is decided on at or before the close of the candle there. -/
theorem decision_le (h : validateHistory raw timeframe = .ok timeline)
    (hlast : timeline[position]? = some last)
    {entry : ReplayCandle × ℕ} (hentry : entry ∈ (timeline.map replayCandle).zipIdx)
    (hle : entry.2 ≤ position) : entry.1.closeTimestamp * 1000 ≤ last.1.closeTimestamp := by
  obtain ⟨δ, hδ, -, -, hbounds, hcontiguous⟩ := validated_entries (validateHistory_spec h).1
  have hcloses := closes_pairwise (minute_le_timeframeDuration hδ) hbounds hcontiguous
  rw [List.pairwise_map, List.pairwise_iff_getElem] at hcloses
  have hget := List.mem_zipIdx_iff_getElem?.1 hentry
  rw [List.getElem?_map] at hget
  obtain ⟨source, hsource, hcandle⟩ := Option.map_eq_some_iff.1 hget
  have hfloor : entry.1.closeTimestamp * 1000 ≤ source.1.closeTimestamp := by
    rw [← hcandle]
    exact Int.ediv_mul_le _ (by decide)
  refine hfloor.trans ?_
  obtain ⟨hi, hsource⟩ := List.getElem?_eq_some_iff.1 hsource
  obtain ⟨hj, hlast⟩ := List.getElem?_eq_some_iff.1 hlast
  rcases hle.lt_or_eq with hlt | heq
  · have hpair := hcloses entry.2 position hi hj hlt
    rwa [hsource, hlast] at hpair
  · subst heq
    rw [← hsource, ← hlast]

theorem replayRun_cut (hcheck : series.forM checkSeries = .ok ())
    (h : validateHistory raw config.executionTimeframe = .ok timeline)
    (hlast : timeline[position]? = some last)
    (candles : List ReplayCandle) {entries : List (ReplayCandle × ℕ)}
    (hentries : ∀ entry ∈ entries, entry ∈ (timeline.map replayCandle).zipIdx ∧ entry.2 ≤ position) :
    replayRun a config engine symbol
        (series.cut config.executionTimeframe (position + 1) last.1.closeTimestamp)
        (raw.take (position + 1)) candles entries =
      replayRun a config engine symbol series raw candles entries := by
  refine Scan.runUntil_eq_of_mem (fun state entry hentry => ?_) _
  obtain ⟨hmem, hle⟩ := hentries entry hentry
  unfold replayStep
  rw [prefixByTimeframe_cut hcheck _ (decision_le h hlast hmem hle), List.take_take,
    Nat.min_eq_left (Nat.succ_le_succ hle)]

theorem rawExecution_eq
    (h : (series.execution config.executionTimeframe).length ≤ config.replayCandles) :
    rawExecution config series = series.execution config.executionTimeframe := by
  unfold rawExecution
  dsimp only
  unfold Series.execution at h ⊢
  rw [Nat.sub_eq_zero_of_le h, List.drop_zero]

theorem replaySymbol_ok {result : SymbolResult}
    (h : replaySymbol a config engine symbol series = .ok result) :
    series.forM checkSeries = .ok () ∧
    ∃ timeline state,
      validateHistory (rawExecution config series) config.executionTimeframe = .ok timeline ∧
      replayRun a config engine symbol series (rawExecution config series)
        (timeline.map replayCandle) (timeline.map replayCandle).zipIdx = .ok state ∧
      result.trades = state.trades := by
  unfold replaySymbol at h
  obtain ⟨_, hcheck, h⟩ := Scan.bind_ok h
  obtain ⟨candles, hcandles, h⟩ := Scan.bind_ok h
  obtain ⟨state, hrun, h⟩ := Scan.bind_ok h
  obtain ⟨timeline, hvalid, rfl⟩ := Scan.map_ok hcandles
  cases h
  exact ⟨hcheck, timeline, state, hvalid, hrun, rfl⟩

theorem replaySymbol_of {state : ReplayState} (hcheck : series.forM checkSeries = .ok ())
    (hvalid : validateHistory (rawExecution config series) config.executionTimeframe = .ok timeline)
    (hrun : replayRun a config engine symbol series (rawExecution config series)
      (timeline.map replayCandle) (timeline.map replayCandle).zipIdx = .ok state) :
    ∃ result, replaySymbol a config engine symbol series = .ok result ∧
      result.trades = state.trades := by
  unfold replaySymbol
  rw [hcheck]
  dsimp only [bind, Except.bind]
  rw [normalizeCandles, hvalid]
  dsimp only [Except.map]
  rw [hrun]
  exact ⟨_, rfl, rfl⟩

/-- A replay over a first part of the execution candles, with the same decisions: the replay over
all of them continues where it ends, and has detected the same up to there. -/
theorem replayRun_append {early later : List ReplayCandle} {state : ReplayState}
    (h : replayRun a config engine symbol series raw (early ++ later) (early ++ later).zipIdx =
      .ok state) :
    ∃ reached seen rest, replayRun a config engine symbol series raw early early.zipIdx =
        .ok reached ∧
      state.trades = seen ++ rest ∧ List.Forall₂ (Tracks early) reached.trades seen ∧
      (∀ trade ∈ seen, trade.candidate.detectedAtIndex < early.length) ∧
      ∀ trade ∈ rest, early.length ≤ trade.candidate.detectedAtIndex := by
  have hsimulate : ∀ c, (simulateTrade a config c (early ++ later)).candidate = c :=
    fun c => simulateTrade_candidate _
  rw [List.zipIdx_append, Nat.zero_add, replayRun, Scan.runUntil_append] at h
  obtain ⟨mid, hmid, hrest⟩ := Scan.bind_ok h
  obtain ⟨reached, hreached, hagrees⟩ := replayRun_agree hmid
  obtain ⟨seen, hseen, hbefore⟩ : Adds (· < early.length) {} mid :=
    replayEntries_adds hsimulate (fun _ hentry => List.snd_lt_of_mem_zipIdx hentry) hmid
  obtain ⟨rest, htrades, hafter⟩ : Adds (early.length ≤ ·) mid state :=
    replayEntries_adds hsimulate (fun _ hentry => List.le_snd_of_mem_zipIdx hentry) hrest
  obtain rfl : seen = mid.trades := hseen.symm
  exact ⟨reached, mid.trades, rest, hreached, htrades, hagrees.trades, hbefore, hafter⟩

/-- A replay of the history as it was known at the close of an execution candle detects the
candidates that the replay of the whole history detects up to there, and the trades among them that
it resolves have the same results in both. -/
theorem replay_has_no_look_ahead (a : Arithmetic) (config : ReplayConfig) (engine : StrategyEngine)
    (symbol : String) (series : Series) (position : ℕ) (full : SymbolResult)
    (hposition : position < (series.execution config.executionTimeframe).length)
    (hlength : (series.execution config.executionTimeframe).length ≤ config.replayCandles)
    (hfull : replaySymbol a config engine symbol series = .ok full) :
    ∃ early candles seen later,
      replaySymbol a config engine symbol (series.upTo config.executionTimeframe position) =
        .ok early ∧
      normalizeCandles ((series.execution config.executionTimeframe).take (position + 1))
        config.executionTimeframe = .ok candles ∧
      full.trades = seen ++ later ∧
      List.Forall₂ (Tracks candles) early.trades seen ∧
      (∀ trade ∈ seen, trade.candidate.detectedAtIndex ≤ position) ∧
      ∀ trade ∈ later, position < trade.candidate.detectedAtIndex := by
  obtain ⟨hcheck, timeline, state, hvalid, hrun, htrades⟩ := replaySymbol_ok hfull
  rw [rawExecution_eq hlength] at hvalid hrun
  obtain ⟨last, hlast, hclose⟩ := closeOf_position hvalid hposition
  have hsize : ((timeline.take (position + 1)).map replayCandle).length = position + 1 := by
    rw [List.length_map, List.length_take,
      Nat.min_eq_left (List.getElem?_eq_some_iff.1 hlast).1]
  have hsplit : timeline.map replayCandle = (timeline.take (position + 1)).map replayCandle ++
      (timeline.drop (position + 1)).map replayCandle := by
    rw [← List.map_append, List.take_append_drop]
  have hwalked : ∀ entry ∈ ((timeline.take (position + 1)).map replayCandle).zipIdx,
      entry ∈ (timeline.map replayCandle).zipIdx ∧ entry.2 ≤ position := by
    intro entry hentry
    have hlt := List.snd_lt_of_mem_zipIdx hentry
    rw [hsplit, List.zipIdx_append]
    exact ⟨List.mem_append_left _ hentry, by omega⟩
  rw [hsplit] at hrun
  obtain ⟨reached, seen, later, hreached, hparts, htracks, hseen, hlater⟩ := replayRun_append hrun
  rw [← replayRun_cut hcheck hvalid hlast _ hwalked] at hreached
  -- The early replay reads the cut series, whose execution candles are the first ones.
  have hcut : series.upTo config.executionTimeframe position =
      series.cut config.executionTimeframe (position + 1) last.1.closeTimestamp := by
    rw [Series.upTo, hclose]
  have hraw : rawExecution config (series.upTo config.executionTimeframe position) =
      (series.execution config.executionTimeframe).take (position + 1) := by
    rw [hcut, rawExecution_eq, execution_cut]
    rw [execution_cut]
    exact (List.length_take_le' _ _).trans hlength
  have hvalidCut := validateHistory_take hvalid (position + 1)
  obtain ⟨early, hearly, hresult⟩ := replaySymbol_of (hcut ▸ check_cut hcheck _ _)
    (hraw ▸ hvalidCut) (by rw [hraw, hcut]; exact hreached)
  refine ⟨early, _, seen, later, hearly, by rw [normalizeCandles, hvalidCut]; rfl,
    htrades.trans hparts, hresult ▸ htracks, fun trade htrade => ?_, fun trade htrade => ?_⟩
  · have := hseen trade htrade
    omega
  · have := hlater trade htrade
    omega

def sampleRaw (position : ℤ) (low high : ℚ) : RawCandle where
  openTimestamp := some (.instant (900000000 * position))
  closeTimestamp := none
  high := .number high
  low := .number low
  openPrice := .number low
  closePrice := .number high
  volume := .absent
  quoteVolume := .absent
  turnover := .absent

/-- A trade that is filled, touches its first target and then its stop, and one more candle. -/
def sampleSeries : Series :=
  [("15m", [sampleRaw 0 104 106, sampleRaw 1 99 104, sampleRaw 2 103 111, sampleRaw 3 88 109,
    sampleRaw 4 100 130])]

/-- An engine that reports the setup of the trade at every candle. -/
def sampleEngine : StrategyEngine := fun _ => .ok fun _ =>
  { isValid := true, grade := "A", bias := some .long, entry := some 100, entryLow := some 99
    entryHigh := some 101, stop := some 90, tp1 := some 110, tp2 := some 120 }

def sampleResult : SymbolResult :=
  { historicalCandles := 5
    trades := [simulateTrade .exact {}
      { sampleCandidate with pullbackCalculationTimeframe := NA }
      (sampleCandles ++ [sampleCandle 4 100 130])] }

theorem sample_replay_before_last_candle :
    replaySymbol .exact {} sampleEngine "BTCUSDT" sampleSeries = .ok sampleResult ∧
    ∃ early candles seen later,
      replaySymbol .exact {} sampleEngine "BTCUSDT" (sampleSeries.upTo "15m" 3) = .ok early ∧
      normalizeCandles ((sampleSeries.execution "15m").take 4) "15m" = .ok candles ∧
      sampleResult.trades = seen ++ later ∧
      List.Forall₂ (Tracks candles) early.trades seen ∧
      (∀ trade ∈ seen, trade.candidate.detectedAtIndex ≤ 3) ∧
      ∀ trade ∈ later, 3 < trade.candidate.detectedAtIndex := by
  have hreplay : replaySymbol .exact {} sampleEngine "BTCUSDT" sampleSeries = .ok sampleResult := by
    decide +kernel
  exact ⟨hreplay, replay_has_no_look_ahead .exact {} sampleEngine "BTCUSDT" sampleSeries 3
    sampleResult (by decide +kernel) (by decide +kernel) hreplay⟩

end LookAhead

end CandleCraft.Replay
