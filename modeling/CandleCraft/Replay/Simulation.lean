import CandleCraft.Kernel.Window
import CandleCraft.Strategy.StructureShift

/-!
# Simulating a replayed trade

A candidate of the historical replay waits for its limit entry and is then held until a candle
touches its stop or its final target, or its time is over. A price is touched by a candle whose
range contains it, so that a candle which opens beyond a price and stays there does not touch it.
-/

namespace CandleCraft.Replay

open Plan Strategy Window

section Model

/-- `_ReplayCandle`, with prices that `_normalize_candles` accepts. The index of a candle is its
position. -/
structure ReplayCandle where
  timestamp : ℤ
  closeTimestamp : ℤ
  openPrice : ℚ
  high : ℚ
  low : ℚ
  close : ℚ
  positive : 0 < low
  open_mem : low ≤ openPrice ∧ openPrice ≤ high
  close_mem : low ≤ close ∧ close ≤ high
  deriving DecidableEq

/-- `ReplayOutcome`; `MISSED_ENTRY` is another name of `NOT_FILLED`. -/
inductive ReplayOutcome where
  | tp1Hit
  | tp2Hit
  | tp3Hit
  | stopped
  | expired
  | invalidated
  | notFilled
  deriving DecidableEq

inductive SameCandlePolicy where
  | conservative
  | optimistic
  deriving DecidableEq

/-- `ReplayConfig`, as far as the replay reads it. -/
structure ReplayConfig where
  selective : Bool := false
  modes : List LiquidityGrabMode := [.swing]
  executionTimeframe : String := "15m"
  confirmationTimeframe : String := "15m"
  structureTimeframe : String := "2h"
  replayCandles : ℕ := 300
  sameCandlePolicy : SameCandlePolicy := .conservative
  maxHoldCandles : Option ℕ := none
  maxFillCandles : Option ℕ := none
  maxSetups : Option ℕ := none
  modes_ne_nil : modes ≠ [] := by decide
  replayCandles_pos : 1 ≤ replayCandles := by decide
  limits_pos : ∀ limit ∈ [maxHoldCandles, maxFillCandles, maxSetups], ∀ n ∈ limit, 1 ≤ n := by decide

/-- `ReplaySetupCandidate`, without what only reports read. -/
structure Candidate where
  symbol : String
  mode : LiquidityGrabMode
  direction : TradeDirection
  detectedAtIndex : ℕ
  detectedAtTimestamp : ℤ
  entry : ℚ
  entryLow : ℚ
  entryHigh : ℚ
  stop : ℚ
  tp1 : ℚ
  tp2 : ℚ
  tp3 : Option ℚ
  sweepCandleIndex : Option ℕ
  pullbackCalculationTimeframe : String
  deriving DecidableEq

/-- `ReplayTradeResult`, without the fields that repeat one of the candidate or of the outcome. -/
structure TradeResult where
  candidate : Candidate
  outcome : ReplayOutcome
  filled : Bool := false
  fillIndex : Option ℕ := none
  fillTimestamp : Option ℤ := none
  exitIndex : Option ℕ
  exitTimestamp : Option ℤ
  exitPrice : Option ℚ := none
  highestTpHit : ℕ := 0
  maxFavorableExcursion : ℚ
  maxAdverseExcursion : ℚ
  timeToEntry : Option ℤ := none
  timeToTp1 : Option ℕ := none
  timeToFinalOutcome : Option ℤ
  rMultiple : ℚ
  candlesHeld : ℕ := 0
  failureReason : String
  deriving DecidableEq

variable (a : Arithmetic) (config : ReplayConfig) (candidate : Candidate)

/-- `_price_touched`. -/
def ReplayCandle.Touches (candle : ReplayCandle) (price : ℚ) : Prop :=
  candle.low ≤ price ∧ price ≤ candle.high

instance (candle : ReplayCandle) (price : ℚ) : Decidable (candle.Touches price) :=
  inferInstanceAs (Decidable (_ ∧ _))

/-- `_max_hold_candles`. The execution timeframe makes no difference. -/
def maxHoldCandles (mode : LiquidityGrabMode) : ℕ :=
  match config.maxHoldCandles with
  | some n => n
  | none =>
    match mode with
    | .challenge | .scalp => 48
    | .swing => 80

def fillWindow : ℕ :=
  match config.maxFillCandles with
  | some n => n
  | none =>
    match candidate.mode with
    | .challenge | .scalp => if config.confirmationTimeframe = "5m" then 12 else 6
    | .swing => maxHoldCandles config candidate.mode

def Candidate.targets : List (ℕ × ℚ) :=
  [(1, candidate.tp1), (2, candidate.tp2)] ++ candidate.tp3.toList.map fun price => (3, price)

def highestTargetTouched (candle : ReplayCandle) : ℕ :=
  candidate.targets.foldl
    (fun highest target => if candle.Touches target.2 then target.1 else highest) 0

def targetFor (number : ℕ) : ℚ :=
  match number with
  | 1 => candidate.tp1
  | 2 => candidate.tp2
  | _ => candidate.tp3.getD candidate.tp2

def tpOutcome (number : ℕ) : ReplayOutcome :=
  if 3 ≤ number then .tp3Hit else if number = 2 then .tp2Hit else .tp1Hit

def finalTargetNumber : ℕ :=
  if candidate.tp3.isSome then 3 else 2

def risk : ℚ := a.fit |a.fit (candidate.entry - candidate.stop)|

def markToMarketR (price : ℚ) : ℚ :=
  if risk a candidate ≤ 0 then 0
  else
    match candidate.direction with
    | .long => a.quantize (a.fit (a.fit (price - candidate.entry) / risk a candidate))
    | .short => a.quantize (a.fit (a.fit (candidate.entry - price) / risk a candidate))

/-- `_excursions`: the best and the worst result, in multiples of the risk, that the candles
offered. -/
def excursions (candles : List (ReplayCandle × ℕ)) : ℚ × ℚ :=
  if risk a candidate ≤ 0 ∨ candles.isEmpty then (0, 0)
  else
    let ratio (difference : ℚ) : ℚ := a.fit (a.fit difference / risk a candidate)
    let favorable := candles.map fun candle =>
      match candidate.direction with
      | .long => ratio (candle.1.high - candidate.entry)
      | .short => ratio (candidate.entry - candle.1.low)
    let adverse := candles.map fun candle =>
      match candidate.direction with
      | .long => ratio (candle.1.low - candidate.entry)
      | .short => ratio (candidate.entry - candle.1.high)
    (a.quantize (favorable.foldl max 0), a.quantize (adverse.foldl min 0))

def failureReasonFor : ReplayOutcome → String
  | .stopped => "Stop loss touched before a higher target resolved."
  | .expired => "Trade expired before TP/SL resolution."
  | .invalidated => "Setup invalidated before fill."
  | .notFilled => "Limit entry did not fill."
  | _ => NA

end Model

section Loops

variable (config : ReplayConfig) (candidate : Candidate)

/-- How waiting for the limit entry ends. -/
inductive Fill where
  | filled (candle : ReplayCandle) (index : ℕ)
  | invalidated (candle : ReplayCandle) (index : ℕ)
  deriving DecidableEq

/-- One candle of the first loop of `_simulate_trade`. -/
def fillCandle (entry : ReplayCandle × ℕ) : Option Fill :=
  let entryTouched := entry.1.Touches candidate.entry
  let stopTouched := entry.1.Touches candidate.stop
  if ¬ entryTouched ∧ stopTouched then some (.invalidated entry.1 entry.2)
  else if ¬ entryTouched then none
  else some (.filled entry.1 entry.2)

/-- What the second loop of `_simulate_trade` carries along. -/
structure Holding where
  highestTp : ℕ := 0
  timeToTp1 : Option ℕ := none
  deriving DecidableEq

/-- The update of what is carried along when a candle raises the highest target. -/
def Holding.raise (held : Holding) (newHighestTp elapsed : ℕ) : Holding :=
  if held.highestTp < newHighestTp then ⟨newHighestTp, some (held.timeToTp1.getD elapsed)⟩ else held

/-- How the second loop is left: at the stop, or with the number of a target. -/
inductive Exit where
  | stopped (candle : ReplayCandle) (index : ℕ) (timeToTp1 : Option ℕ)
  | target (number : ℕ) (candle : ReplayCandle) (index : ℕ) (timeToTp1 : Option ℕ)
  deriving DecidableEq

/-- One candle of the second loop of `_simulate_trade`, for a trade filled at `fillIndex`. -/
def holdCandle (fillIndex : ℕ) (held : Holding) (entry : ReplayCandle × ℕ) : Except Exit Holding :=
  let (candle, index) := entry
  let stopTouched := candle.Touches candidate.stop
  let newHighestTp := max held.highestTp (highestTargetTouched candidate candle)
  if stopTouched ∧ held.highestTp < newHighestTp ∧ config.sameCandlePolicy = .conservative then
    if held.highestTp = 0 then .error (.stopped candle index held.timeToTp1)
    else .error (.target held.highestTp candle index held.timeToTp1)
  else
    let held' := held.raise newHighestTp (index - fillIndex)
    if held.highestTp < newHighestTp ∧ finalTargetNumber candidate ≤ held'.highestTp then
      .error (.target held'.highestTp candle index held'.timeToTp1)
    else if stopTouched then
      if 0 < held'.highestTp then .error (.target held'.highestTp candle index held'.timeToTp1)
      else .error (.stopped candle index held'.timeToTp1)
    else .ok held'

end Loops

section Simulation

variable (a : Arithmetic) (config : ReplayConfig) (candidate : Candidate)
  (candles : List ReplayCandle)

def unfilledResult (outcome : ReplayOutcome) (exit : Option (ReplayCandle × ℕ))
    (exitPrice : Option ℚ) (timeToFinalOutcome : Option ℤ) (failureReason : String) :
    TradeResult where
  candidate := candidate
  outcome := outcome
  exitIndex := exit.map Prod.snd
  exitTimestamp := exit.map fun candle => candle.1.timestamp
  exitPrice := exitPrice.map a.quantize
  maxFavorableExcursion := (excursions a candidate []).1
  maxAdverseExcursion := (excursions a candidate []).2
  timeToFinalOutcome := timeToFinalOutcome
  rMultiple := a.quantize 0
  failureReason := failureReason

def filledResult (outcome : ReplayOutcome) (fill exit : ReplayCandle × ℕ) (exitPrice : ℚ)
    (highestTp : ℕ) (timeToTp1 : Option ℕ) (rMultiple : ℚ) (failureReason : String) :
    TradeResult :=
  let held := excursions a candidate (window candles fill.2 (exit.2 + 1))
  { candidate := candidate
    outcome := outcome
    filled := true
    fillIndex := some fill.2
    fillTimestamp := some fill.1.timestamp
    exitIndex := some exit.2
    exitTimestamp := some exit.1.timestamp
    exitPrice := some (a.quantize exitPrice)
    highestTpHit := highestTp
    maxFavorableExcursion := held.1
    maxAdverseExcursion := held.2
    timeToEntry := some (fill.2 - candidate.detectedAtIndex : ℤ)
    timeToTp1 := timeToTp1
    timeToFinalOutcome := some (exit.2 - candidate.detectedAtIndex : ℤ)
    rMultiple := a.quantize rMultiple
    candlesHeld := exit.2 - fill.2
    failureReason := failureReason }

def stoppedResult (fill exit : ReplayCandle × ℕ) (timeToTp1 : Option ℕ) : TradeResult :=
  filledResult a candidate candles .stopped fill exit candidate.stop 0 timeToTp1 (-1)
    (failureReasonFor .stopped)

def targetResult (number : ℕ) (fill exit : ReplayCandle × ℕ) (timeToTp1 : Option ℕ) :
    TradeResult :=
  filledResult a candidate candles (tpOutcome number) fill exit (targetFor candidate number) number
    timeToTp1 (markToMarketR a candidate (targetFor candidate number))
    (failureReasonFor (tpOutcome number))

/-- The result of a loop that is left before its end. -/
def exitResult (fill : ReplayCandle × ℕ) : Exit → TradeResult
  | .stopped candle index timeToTp1 =>
    stoppedResult a candidate candles fill (candle, index) timeToTp1
  | .target number candle index timeToTp1 =>
    targetResult a candidate candles number fill (candle, index) timeToTp1

def expiryResult (fill exit : ReplayCandle × ℕ) (held : Holding) : TradeResult :=
  if 0 < held.highestTp then
    targetResult a candidate candles held.highestTp fill exit held.timeToTp1
  else
    filledResult a candidate candles .expired fill exit exit.1.close held.highestTp held.timeToTp1
      (markToMarketR a candidate exit.1.close)
      ("No TP/SL hit within " ++ toString (maxHoldCandles config candidate.mode) ++
        " candle(s) after fill.")

/-- The last position at which the entry may be filled. -/
def maxFillIndex : ℕ :=
  min (candles.length - 1) (candidate.detectedAtIndex + fillWindow config candidate)

/-- The last position at which a trade filled at `fillIndex` is held. -/
def lastIndex (fillIndex : ℕ) : ℕ :=
  min (candles.length - 1) (fillIndex + maxHoldCandles config candidate.mode)

/-- The first loop of `_simulate_trade`. -/
def awaitFill : Option Fill :=
  (window candles (candidate.detectedAtIndex + 1) (maxFillIndex config candidate candles + 1)).findSome?
    (fillCandle candidate)

/-- The second loop of `_simulate_trade`. -/
def holdTrade (fillIndex : ℕ) : Except Exit Holding :=
  (window candles fillIndex (lastIndex config candidate candles fillIndex + 1)).foldlM
    (holdCandle config candidate fillIndex) {}

def simulateTrade : TradeResult :=
  match awaitFill config candidate candles with
  | some (.invalidated candle index) =>
    unfilledResult a candidate .invalidated (some (candle, index)) (some candidate.stop)
      (some (index - candidate.detectedAtIndex : ℤ))
      "Invalidation touched before the limit entry filled."
  | none =>
    let last := maxFillIndex config candidate candles
    unfilledResult a candidate .notFilled (candles[last]?.map (·, last)) none
      (if candles.isEmpty then none else some (last - candidate.detectedAtIndex : ℤ))
      ("Limit entry did not fill within " ++ toString (fillWindow config candidate) ++
        " candle(s).")
  | some (.filled candle index) =>
    match holdTrade config candidate candles index with
    | .error exit => exitResult a candidate candles (candle, index) exit
    | .ok held =>
      -- The last position is at or after the fill, so that it holds a candle.
      let last := lastIndex config candidate candles index
      expiryResult a config candidate candles (candle, index)
        ((candles[last]?).getD candle, last) held

end Simulation

section StopRespected

variable {a : Arithmetic} {config : ReplayConfig} {candidate : Candidate}
variable {candle : ReplayCandle} {fillIndex : ℕ}

def Candidate.ReachesStop (candidate : Candidate) (candle : ReplayCandle) : Prop :=
  match candidate.direction with
  | .long => candle.low ≤ candidate.stop
  | .short => candidate.stop ≤ candle.high

/-- The whole range of the candle lies beyond the stop. -/
def Candidate.GapsPastStop (candidate : Candidate) (candle : ReplayCandle) : Prop :=
  match candidate.direction with
  | .long => candle.high < candidate.stop
  | .short => candidate.stop < candle.low

def Candidate.TouchesTarget (candidate : Candidate) (number : ℕ) (candle : ReplayCandle) : Prop :=
  number ≠ 0 ∧ candle.Touches (targetFor candidate number)

def Candidate.Ordered (candidate : Candidate) : Prop :=
  match candidate.direction with
  | .long => ([candidate.stop, candidate.entry, candidate.tp1, candidate.tp2] ++
      candidate.tp3.toList).IsChain (· < ·)
  | .short => ([candidate.stop, candidate.entry, candidate.tp1, candidate.tp2] ++
      candidate.tp3.toList).IsChain (· > ·)

/-- No candle from the fill up to the exit has the property before one has touched the target. -/
def Candidate.TargetFirst (candidate : Candidate) (number : ℕ) (candles : List ReplayCandle)
    (fill exit : ℕ) (property : ReplayCandle → Prop) : Prop :=
  ∀ index candle, fill ≤ index → index ≤ exit → candles[index]? = some candle → property candle →
    ∃ i c, fill ≤ i ∧ i ≤ index ∧ candles[i]? = some c ∧ candidate.TouchesTarget number c

theorem reachesStop_of_gap (h : candidate.GapsPastStop candle) : candidate.ReachesStop candle := by
  have hrange := candle.open_mem.1.trans candle.open_mem.2
  unfold Candidate.GapsPastStop at h
  unfold Candidate.ReachesStop
  split at h
  · exact hrange.trans h.le
  · exact h.le.trans hrange

theorem touches_stop (hreach : candidate.ReachesStop candle)
    (hgap : ¬ candidate.GapsPastStop candle) : candle.Touches candidate.stop := by
  unfold Candidate.ReachesStop at hreach
  unfold Candidate.GapsPastStop at hgap
  split at hreach
  · next hdir =>
    rw [hdir] at hgap
    exact ⟨hreach, not_lt.1 hgap⟩
  · next hdir =>
    rw [hdir] at hgap
    exact ⟨not_lt.1 hgap, hreach⟩

theorem touchesTarget_highest (h : highestTargetTouched candidate candle ≠ 0) :
    candidate.TouchesTarget (highestTargetTouched candidate candle) candle := by
  refine ⟨h, ?_⟩
  revert h
  unfold highestTargetTouched Candidate.targets
  cases h3 : candidate.tp3 with
  | none =>
    simp only [Option.toList_none, List.map_nil, List.append_nil, List.foldl_cons, List.foldl_nil]
    split_ifs with h2 h1
    · exact fun _ => h2
    · exact fun _ => h1
    · exact fun h => absurd rfl h
  | some price =>
    simp only [Option.toList_some, List.map_cons, List.map_nil, List.cons_append, List.nil_append,
      List.foldl_cons, List.foldl_nil]
    split_ifs with hprice h2 h1
    · intro _
      rw [targetFor, h3]
      exacts [hprice, by decide, by decide]
    · exact fun _ => h2
    · exact fun _ => h1
    · exact fun h => absurd rfl h

theorem highestTp_raise (held : Holding) (candle : ReplayCandle) (elapsed : ℕ) :
    let raised := held.raise (max held.highestTp (highestTargetTouched candidate candle)) elapsed
    raised.highestTp = held.highestTp ∨ candidate.TouchesTarget raised.highestTp candle := by
  unfold Holding.raise
  split
  · next hraised =>
    have hlt : held.highestTp < highestTargetTouched candidate candle :=
      (lt_max_iff.1 hraised).resolve_left (lt_irrefl _)
    rw [max_eq_right hlt.le]
    exact Or.inr (touchesTarget_highest (Nat.ne_zero_of_lt hlt))
  · exact Or.inl rfl

variable {entry : ReplayCandle × ℕ} {timeToTp1 : Option ℕ} {held held' : Holding}

/-- A candle after which the trade is still held does not touch the stop, and a target that it
raises the count to is one that it touches. -/
theorem holdCandle_ok (h : holdCandle config candidate fillIndex held entry = .ok held') :
    ¬ entry.1.Touches candidate.stop ∧
    (held'.highestTp = held.highestTp ∨ candidate.TouchesTarget held'.highestTp entry.1) := by
  unfold holdCandle at h
  dsimp only at h
  split at h
  · split at h <;> cases h
  · split at h
    · cases h
    · split at h
      · split at h <;> cases h
      · next hstop =>
        cases h
        exact ⟨hstop, highestTp_raise held entry.1 _⟩

/-- A target with which the loop is left is one that the candle touches, or the highest one so
far. -/
theorem holdCandle_target {held : Holding} {number : ℕ} {index : ℕ}
    (h : holdCandle config candidate fillIndex held entry =
      .error (.target number candle index timeToTp1)) :
    (candle, index) = entry ∧
    (number ≠ 0 ∧ number = held.highestTp ∨ candidate.TouchesTarget number entry.1) := by
  unfold holdCandle at h
  dsimp only at h
  split at h
  · split at h
    · cases h
    · next hzero =>
      cases h
      exact ⟨rfl, Or.inl ⟨hzero, rfl⟩⟩
  · split at h
    · next hfinal =>
      cases h
      refine ⟨rfl, (highestTp_raise held entry.1 _).imp_left fun heq => ⟨?_, heq⟩⟩
      have hfinal' := hfinal.2
      unfold finalTargetNumber at hfinal'
      split at hfinal' <;> exact Nat.ne_zero_of_lt hfinal'
    · split at h
      · split at h
        · next hpos =>
          cases h
          exact ⟨rfl, (highestTp_raise held entry.1 _).imp_left fun heq => ⟨hpos.ne', heq⟩⟩
        · cases h
      · cases h

/-- While a trade is held no candle touches its stop, and the highest target so far has been
touched. -/
theorem holdTrade_ok {entries : List (ReplayCandle × ℕ)}
    (h : entries.foldlM (holdCandle config candidate fillIndex) held = .ok held') :
    (∀ entry ∈ entries, ¬ entry.1.Touches candidate.stop) ∧
    (held'.highestTp = held.highestTp ∨
      ∃ entry ∈ entries, candidate.TouchesTarget held'.highestTp entry.1) := by
  induction entries generalizing held with
  | nil =>
    cases h
    exact ⟨fun entry hentry => absurd hentry List.not_mem_nil, Or.inl rfl⟩
  | cons entry entries ih =>
    rw [List.foldlM_cons] at h
    obtain ⟨next, hstep, h⟩ := Scan.bind_ok h
    obtain ⟨hstop, hhighest⟩ := holdCandle_ok hstep
    obtain ⟨hstops, htouched⟩ := ih h
    refine ⟨List.forall_mem_cons.2 ⟨hstop, hstops⟩, ?_⟩
    rcases htouched with heq | ⟨later, hlater, htouch⟩
    · rw [heq]
      rcases hhighest with heq' | htouch
      · exact Or.inl heq'
      · exact Or.inr ⟨entry, List.mem_cons_self, htouch⟩
    · exact Or.inr ⟨later, List.mem_cons_of_mem entry hlater, htouch⟩

/-- A loop that is left with a target: no earlier candle touches the stop, and the candle at which
it is left, or one before it, touches the target. -/
theorem holdTrade_target {candles : List ReplayCandle} {fillIndex number index : ℕ}
    (h : holdTrade config candidate candles fillIndex =
      .error (.target number candle index timeToTp1)) :
    (∀ i c, fillIndex ≤ i → i < index → candles[i]? = some c → ¬ c.Touches candidate.stop) ∧
    ∃ i c, fillIndex ≤ i ∧ i ≤ index ∧ candles[i]? = some c ∧
      candidate.TouchesTarget number c := by
  obtain ⟨before, entry, after, held, hsplit, hbefore, hexit⟩ := foldlM_eq_error h
  obtain ⟨hlo, -, hget, hearlier, hcovered⟩ := window_split hsplit
  obtain ⟨hstops, htouched⟩ := holdTrade_ok hbefore
  obtain ⟨rfl, htarget⟩ := holdCandle_target hexit
  refine ⟨fun i c hi hindex hc => hstops (c, i) (hcovered i c hi hindex hc), ?_⟩
  rcases htarget with ⟨hne, rfl⟩ | htouch
  · rcases htouched with hzero | ⟨earlier, hmem, htouch⟩
    · exact absurd hzero hne
    · obtain ⟨hfrom, hlt, hat⟩ := hearlier earlier hmem
      exact ⟨earlier.2, earlier.1, hfrom, hlt.le, hat, htouch⟩
  · exact ⟨index, candle, hlo, le_rfl, hget, htouch⟩

theorem awaitFill_filled {candles : List ReplayCandle} {index : ℕ}
    (h : awaitFill config candidate candles = some (.filled candle index)) :
    candidate.detectedAtIndex < index ∧ index < candles.length := by
  obtain ⟨entry, hmem, hfill⟩ := List.exists_of_findSome?_eq_some h
  have hindex : entry.2 = index := by
    unfold fillCandle at hfill
    dsimp only at hfill
    split at hfill
    · cases hfill
    · split at hfill <;> cases hfill
      rfl
  rw [← hindex]
  obtain ⟨hlo, -, hget⟩ := mem_window.1 hmem
  exact ⟨hlo, (List.getElem?_eq_some_iff.1 hget).1⟩

/-- A filled trade that does not end at its stop never trades there before a candle touches the target
that it reports, if and only if no candle lies entirely beyond the stop before that. -/
theorem replay_respects_stop (a : Arithmetic) (config : ReplayConfig) (candidate : Candidate)
    (candles : List ReplayCandle)
    (hfilled : (simulateTrade a config candidate candles).filled = true)
    (houtcome : (simulateTrade a config candidate candles).outcome ≠ .stopped) :
    ∃ fill exit, (simulateTrade a config candidate candles).fillIndex = some fill ∧
      (simulateTrade a config candidate candles).exitIndex = some exit ∧
      (candidate.TargetFirst (simulateTrade a config candidate candles).highestTpHit candles fill
          exit candidate.ReachesStop ↔
        candidate.TargetFirst (simulateTrade a config candidate candles).highestTpHit candles fill
          exit candidate.GapsPastStop) := by
  -- what touches the stop leaves a candle that reaches it to be one that gaps past it
  have hiff {number fill exit : ℕ}
      (htouches : candidate.TargetFirst number candles fill exit (·.Touches candidate.stop)) :
      candidate.TargetFirst number candles fill exit candidate.ReachesStop ↔
        candidate.TargetFirst number candles fill exit candidate.GapsPastStop := by
    refine ⟨fun h k c hk hexit hat hgap => h k c hk hexit hat (reachesStop_of_gap hgap),
      fun h k c hk hexit hat hreach => ?_⟩
    by_cases hgap : candidate.GapsPastStop c
    · exact h k c hk hexit hat hgap
    · exact htouches k c hk hexit hat (touches_stop hreach hgap)
  unfold simulateTrade at hfilled houtcome ⊢
  cases hfill : awaitFill config candidate candles with
  | none => rw [hfill] at hfilled; cases hfilled
  | some fill =>
    cases fill with
    | invalidated candle index => rw [hfill] at hfilled; cases hfilled
    | filled filledCandle fill =>
      rw [hfill] at houtcome
      dsimp only at houtcome ⊢
      cases hhold : holdTrade config candidate candles fill with
      | error exit =>
        cases exit with
        | stopped candle index time => rw [hhold] at houtcome; exact absurd rfl houtcome
        | target number candle index time =>
          obtain ⟨hbefore, i, c, hi, hindex, hat, htarget⟩ := holdTrade_target hhold
          refine ⟨fill, index, rfl, rfl, hiff fun k c' hk hkindex hat' htouch => ?_⟩
          -- Only the candle at which the loop is left can touch the stop.
          rcases hkindex.lt_or_eq with hlt | rfl
          · exact absurd htouch (hbefore k c' hk hlt hat')
          · exact ⟨i, c, hi, hindex, hat, htarget⟩
      | ok held =>
        have hstops := (holdTrade_ok hhold).1
        refine ⟨fill, lastIndex config candidate candles fill, ?_, ?_, hiff ?_⟩
        · dsimp only [expiryResult]
          split <;> rfl
        · dsimp only [expiryResult]
          split <;> rfl
        · intro k c hk hlast hat htouch
          exact absurd htouch (hstops (c, k) (mem_window.2 ⟨hk, Nat.lt_succ_of_le hlast, hat⟩))

def risingCandle (position : ℤ) (low high : ℚ) (hpos : 0 < low) (hle : low ≤ high) :
    ReplayCandle where
  timestamp := 900000 * position
  closeTimestamp := 900000 * (position + 1)
  openPrice := low
  high := high
  low := low
  close := high
  positive := hpos
  open_mem := ⟨le_rfl, hle⟩
  close_mem := ⟨hle, le_rfl⟩

/-- A candle of a sample series, in which no price is below one. -/
def sampleCandle (position : ℤ) (low high : ℚ) : ReplayCandle :=
  risingCandle position (max low 1) (max high (max low 1))
    (lt_max_of_lt_right one_pos) (le_max_right high (max low 1))

def sampleCandidate : Candidate where
  symbol := "BTCUSDT"
  mode := .swing
  direction := .long
  detectedAtIndex := 0
  detectedAtTimestamp := 0
  entry := 100
  entryLow := 99
  entryHigh := 101
  stop := 90
  tp1 := 110
  tp2 := 120
  tp3 := none
  sweepCandleIndex := none
  pullbackCalculationTimeframe := "15m"

/-- Filled at 100, then up to the first target and down through the stop. -/
def sampleCandles : List ReplayCandle :=
  [sampleCandle 0 104 106, sampleCandle 1 99 104, sampleCandle 2 103 111, sampleCandle 3 88 109]

theorem first_target_before_stop :
    ∃ fill exit, (simulateTrade .exact {} sampleCandidate sampleCandles).fillIndex = some fill ∧
      (simulateTrade .exact {} sampleCandidate sampleCandles).exitIndex = some exit ∧
      sampleCandidate.TargetFirst (simulateTrade .exact {} sampleCandidate sampleCandles).highestTpHit
        sampleCandles fill exit sampleCandidate.ReachesStop := by
  have habove : ∀ candle ∈ sampleCandles, ¬ candle.high < sampleCandidate.stop := by
    decide +kernel
  obtain ⟨fill, exit, hfill, hexit, hiff⟩ := replay_respects_stop .exact {} sampleCandidate
    sampleCandles (by decide +kernel) (by decide +kernel)
  exact ⟨fill, exit, hfill, hexit, hiff.2 fun _ candle _ _ hat hgap =>
    absurd hgap (habove candle (List.mem_of_getElem? hat))⟩

/-- The third candle trades entirely below the stop of a long trade that is held. No price of it
is the stop, so that the trade is still held and ends at its final target. -/
theorem gap_past_stop_reaches_target :
    let candles := [sampleCandle 0 104 106, sampleCandle 1 99 104, sampleCandle 2 70 80,
      sampleCandle 3 110 121]
    let result := simulateTrade .exact {} sampleCandidate candles
    sampleCandidate.Ordered ∧ result.outcome = .tp2Hit ∧ result.rMultiple = 2 ∧
    result.fillIndex = some 1 ∧ result.exitIndex = some 3 ∧
    (∃ candle, candles[2]? = some candle ∧ sampleCandidate.ReachesStop candle) ∧
    ∀ candle ∈ candles.take 3, ¬ sampleCandidate.TouchesTarget 2 candle := by
  intro candles result
  have hordered : [(90 : ℚ), 100, 110, 120].IsChain (· < ·) := by decide +kernel
  have hbelow : (70 : ℚ) ≤ 90 := by norm_num
  have htarget : ∀ candle ∈ candles.take 3, ¬ candle.Touches 120 := by decide +kernel
  exact ⟨hordered, by decide +kernel, by decide +kernel, by decide +kernel, by decide +kernel,
    ⟨_, rfl, hbelow⟩, fun candle hmem htouch => htarget candle hmem htouch.2⟩

end StopRespected

end CandleCraft.Replay
