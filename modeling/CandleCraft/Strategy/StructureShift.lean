import CandleCraft.Kernel.Transition
import CandleCraft.Strategy.Fibonacci
import Mathlib.Algebra.Order.Ring.Int
import Mathlib.Tactic.NormNum

/-!
# Liquidity sweeps and structure shifts

A sweep is looked for on the execution candles and mapped by its timestamp to the confirmation
candles, on which the break of structure and the displacement impulse are looked for. Candles are
modelled as `_normalize_candles` leaves them: an index is a position in the series.
-/

namespace CandleCraft.Strategy

open Plan

section Candles

/-- `_Candle`, with prices that `_normalize_candles` accepts. -/
structure Candle where
  timestamp : Option ℤ
  openPrice : ℚ
  high : ℚ
  low : ℚ
  close : ℚ
  positive : 0 < low
  high_ge : max openPrice close ≤ high
  low_le : low ≤ min openPrice close

inductive Direction where
  | bullish
  | bearish
  deriving DecidableEq

def Direction.trade : Direction → TradeDirection
  | .bullish => .long
  | .bearish => .short

/-- `TrendLabel`. -/
inductive Trend where
  | bullish
  | bearish
  | neutral
  | unavailable
  deriving DecidableEq

variable (a : Arithmetic) (candles : List Candle)

def trueRange (previous current : Candle) : ℚ :=
  max (max (a.fit (current.high - current.low)) (a.fit |a.fit (current.high - previous.close)|))
    (a.fit |a.fit (current.low - previous.close)|)

/-- `_calculate_atr_from_normalized`. -/
def calculateAtr (period : ℕ) : Option ℚ :=
  if candles.length < period + 1 then none
  else
    let trueRanges := (candles.zip candles.tail).map fun pair => trueRange a pair.1 pair.2
    let sample := trueRanges.drop (trueRanges.length - period)
    some (a.quantize (a.fit (sample.foldl (fun total range => a.fit (total + range)) 0 / period)))

/-- `_SwingPoint`, of the highs or of the lows. -/
structure SwingPoint where
  index : ℕ
  confirmedAtIndex : ℕ
  price : ℚ

def neighbours (lookback index : ℕ) : List Candle :=
  (candles.drop (index - lookback)).take lookback ++ (candles.drop (index + 1)).take lookback

def detectSwings (lookback : ℕ) (price : Candle → ℚ) (beyond : ℚ → ℚ → Bool) : List SwingPoint :=
  (List.range' lookback (candles.length - 2 * lookback)).filterMap fun index =>
    match candles[index]? with
    | none => none
    | some current =>
      if (neighbours candles lookback index).all fun candle =>
          beyond (price current) (price candle) then
        some ⟨index, index + lookback, price current⟩
      else none

def swingHighs (lookback : ℕ) : List SwingPoint :=
  detectSwings candles lookback (·.high) fun x y => decide (y < x)

def swingLows (lookback : ℕ) : List SwingPoint :=
  detectSwings candles lookback (·.low) fun x y => decide (x < y)

def lastConfirmedBefore (points : List SwingPoint) (latestIndex : ℕ) : Option SwingPoint :=
  (points.filter fun point => point.confirmedAtIndex < latestIndex).getLast?

def simpleTrend : Trend :=
  match candles with
  | first :: _ :: _ =>
    match candles.getLast? with
    | none => .unavailable
    | some latest =>
      if first.close < latest.close then .bullish
      else if latest.close < first.close then .bearish
      else .neutral
  | _ => .unavailable

def trendBeforeIndex (index : ℕ) : Trend :=
  let sample := candles.take (index + 1)
  simpleTrend (sample.drop (sample.length - 20))

end Candles

section Sweeps

structure LiquiditySweepSignal where
  direction : Direction
  candleIndex : ℕ
  swingIndex : ℕ
  swingLevel : ℚ
  wickPrice : ℚ
  magnitude : ℚ
  magnitudeAtr : ℚ
  confluence : String
  reason : String

variable (a : Arithmetic) (candles : List Candle)

def sweepConfluence (direction : Direction) (level : ℚ) (points : List SwingPoint) (atr : ℚ)
    (provided : Option (List ℚ)) : String :=
  let within (price ratio : ℚ) : Bool :=
    decide (a.fit |a.fit (price - level)| ≤ a.fit (atr * ratio))
  match provided with
  | some levels =>
    if levels.any fun candidate => within candidate (20 / 100) then "Verified HTF/user liquidity"
    else "Unverified"
  | none =>
    if 2 ≤ (points.filter fun point => within point.price (10 / 100)).length then
      match direction with
      | .bullish => "Verified equal lows"
      | .bearish => "Verified equal highs"
    else NA

structure ProvidedLiquidity where
  below : Option (List ℚ) := none
  above : Option (List ℚ) := none

def sweptSwings (lookback : ℕ) : Direction → List SwingPoint
  | .bullish => swingLows candles lookback
  | .bearish => swingHighs candles lookback

/-- The levels given for the swept side. -/
def ProvidedLiquidity.side (provided : ProvidedLiquidity) : Direction → Option (List ℚ)
  | .bullish => provided.below
  | .bearish => provided.above

/-- A sweep of one side: how deep the wick goes below or above a level, and whether the candle closes
back. -/
def sideSweep (direction : Direction) (lookback : ℕ) (provided : ProvidedLiquidity) (atr : ℚ)
    (depth : ℚ → ℚ) (reclaimed : ℚ → Prop) [DecidablePred reclaimed] (wick : ℚ) (reason : String)
    (index : ℕ) : Option LiquiditySweepSignal :=
  let points := sweptSwings candles lookback direction
  match lastConfirmedBefore points index with
  | none => none
  | some previous =>
    let magnitude := a.fit (depth previous.price)
    if a.fit (atr * (35 / 100)) ≤ magnitude ∧ reclaimed previous.price then
      some
        { direction
          candleIndex := index
          swingIndex := previous.index
          swingLevel := a.quantize previous.price
          wickPrice := a.quantize wick
          magnitude := a.quantize magnitude
          magnitudeAtr := a.quantize (a.fit (magnitude / atr))
          confluence := sweepConfluence a direction previous.price points atr
            (provided.side direction)
          reason }
    else none

def bullishSweep (lookback : ℕ) (provided : ProvidedLiquidity) (atr : ℚ) (candle : Candle)
    (index : ℕ) : Option LiquiditySweepSignal :=
  sideSweep a candles .bullish lookback provided atr (· - candle.low) (· < candle.close) candle.low
    "Wick swept below a confirmed swing low by at least 0.35 ATR and closed back above it." index

def bearishSweep (lookback : ℕ) (provided : ProvidedLiquidity) (atr : ℚ) (candle : Candle)
    (index : ℕ) : Option LiquiditySweepSignal :=
  sideSweep a candles .bearish lookback provided atr (candle.high - ·) (candle.close < ·) candle.high
    "Wick swept above a confirmed swing high by at least 0.35 ATR and closed back below it." index

def updateSweep (direction : Option Direction) (atrPeriod lookback : ℕ)
    (provided : ProvidedLiquidity) (latest : Option LiquiditySweepSignal) (entry : Candle × ℕ) :
    Option LiquiditySweepSignal :=
  if entry.2 < atrPeriod + lookback then latest
  else
    match calculateAtr a (candles.take entry.2) atrPeriod with
    | none => latest
    | some atr =>
      if atr ≤ 0 then latest
      else
        let bullish :=
          if direction = some .bearish then none
          else bullishSweep a candles lookback provided atr entry.1 entry.2
        let bearish :=
          if direction = some .bullish then none
          else bearishSweep a candles lookback provided atr entry.1 entry.2
        bearish <|> bullish <|> latest

def detectLiquiditySweep (direction : Option Direction) (atrPeriod lookback : ℕ)
    (provided : ProvidedLiquidity) : Option LiquiditySweepSignal :=
  if candles.length < atrPeriod + lookback + 2 then none
  else candles.zipIdx.foldl (updateSweep a candles direction atrPeriod lookback provided) none

def stampedUpTo (timestamp : ℤ) (entry : Candle × ℕ) : Option ℕ :=
  match entry.1.timestamp with
  | none => none
  | some t => if t ≤ timestamp then some entry.2 else none

def mapCandleIndex (sourceIndex : ℕ) (source target : List Candle) : ℕ :=
  if target.isEmpty then 0
  else if source.isEmpty then min sourceIndex (target.length - 1)
  else
    let clamped := min sourceIndex (source.length - 1)
    let ratio := a.fit ((clamped + 1 : ℕ) / (source.length : ℚ))
    let ratioIndex := (⌊a.fit (ratio * target.length)⌋ - 1).toNat
    match (source[clamped]?).bind (·.timestamp) with
    | none => min ratioIndex (target.length - 1)
    | some timestamp =>
      match (target.zipIdx.filterMap (stampedUpTo timestamp)).getLast? with
      | some index => min index (target.length - 1)
      | none =>
        let timestamped := target.zipIdx.filterMap fun entry =>
          entry.1.timestamp.map fun _ => entry.2
        match timestamped.head? with
        | some index => min (index - 1) (target.length - 1)
        | none => min ratioIndex (target.length - 1)

def sweepForConfirmationCandles (sweep : LiquiditySweepSignal)
    (execution confirmation : List Candle) : LiquiditySweepSignal :=
  { sweep with candleIndex := mapCandleIndex a sweep.candleIndex execution confirmation }

end Sweeps

section Shifts

inductive ShiftKind where
  | bos
  | choch
  deriving DecidableEq

structure StructureShiftSignal where
  kind : ShiftKind
  direction : Direction
  candleIndex : ℕ
  swingIndex : ℕ
  level : ℚ
  close : ℚ
  reason : String

variable (a : Arithmetic) (candles : List Candle)

def breakOfStructure (lookback : ℕ) (direction : Direction) (priorTrend : Trend)
    (entry : Candle × ℕ) : Option StructureShiftSignal :=
  match direction with
  | .bullish =>
    match lastConfirmedBefore (swingHighs candles lookback) entry.2 with
    | none => none
    | some previous =>
      if previous.price < entry.1.close then
        some
          { kind := if priorTrend = .bearish then .choch else .bos
            direction := .bullish
            candleIndex := entry.2
            swingIndex := previous.index
            level := a.quantize previous.price
            close := a.quantize entry.1.close
            reason := "Bullish BOS/CHoCH confirmed by candle close above a previous LTF swing " ++
              "high." }
      else none
  | .bearish =>
    match lastConfirmedBefore (swingLows candles lookback) entry.2 with
    | none => none
    | some previous =>
      if entry.1.close < previous.price then
        some
          { kind := if priorTrend = .bullish then .choch else .bos
            direction := .bearish
            candleIndex := entry.2
            swingIndex := previous.index
            level := a.quantize previous.price
            close := a.quantize entry.1.close
            reason := "Bearish BOS/CHoCH confirmed by candle close below a previous LTF swing " ++
              "low." }
      else none

def detectStructureShift (sweep : Option LiquiditySweepSignal) (direction : Option Direction)
    (lookback : ℕ) : Option StructureShiftSignal :=
  if candles.length < lookback * 2 + 2 then none
  else
    let search (direction : Direction) (startIndex : ℕ) :=
      (candles.zipIdx.drop startIndex).findSome?
        (breakOfStructure a candles lookback direction (trendBeforeIndex candles (startIndex - 1)))
    match sweep, direction with
    | some sweep, _ => search sweep.direction (sweep.candleIndex + 1)
    | none, some direction => search direction (lookback * 2 + 1)
    | none, none => none

structure Impulse where
  start : ℚ
  finish : ℚ
  low : ℚ
  high : ℚ

/-- The largest and the smallest of the prices of a sample. -/
def highest (price : Candle → ℚ) (first : Candle) (rest : List Candle) : ℚ :=
  rest.foldl (fun best candle => max best (price candle)) (price first)

def lowest (price : Candle → ℚ) (first : Candle) (rest : List Candle) : ℚ :=
  rest.foldl (fun best candle => min best (price candle)) (price first)

def displacementImpulse (direction : TradeDirection) (sweepIndex bosIndex : ℕ) : Option Impulse :=
  match (candles.take (bosIndex + 1)).drop sweepIndex with
  | [] => none
  | first :: rest =>
    let low := lowest (·.low) first rest
    let high := highest (·.high) first rest
    match direction with
    | .long => if high ≤ first.low then none else some ⟨first.low, high, low, high⟩
    | .short => if first.high ≤ low then none else some ⟨first.high, low, low, high⟩

end Shifts

section Setups

/-- The timeframes of the execution and of the confirmation candles. -/
inductive Timeframe where
  | m15
  | m5
  deriving DecidableEq

inductive LiquidityGrabMode where
  | challenge
  | swing
  | scalp
  deriving DecidableEq

/-- The length of a candle in milliseconds. -/
def Timeframe.period : Timeframe → ℤ
  | .m15 => 900000
  | .m5 => 300000

structure Engine where
  atrPeriod : ℕ := 14
  swingLookback : ℕ := 2

structure ShiftedSetup where
  sweep : LiquiditySweepSignal
  confirmationSweep : LiquiditySweepSignal
  structureShift : StructureShiftSignal
  impulse : Option Impulse

/-- `_analyze_mode` up to the impulse of `analyze_pullback_zone`. Without a sweep or a structure
shift the setup is rejected before. -/
def analyzeMode (a : Arithmetic) (engine : Engine) (provided : ProvidedLiquidity)
    (normalized : Timeframe → List Candle) (confirmationTimeframe : Timeframe) :
    Option ShiftedSetup :=
  let candles := normalized .m15
  let confirmation := normalized confirmationTimeframe
  if candles.isEmpty ∨ confirmation.isEmpty then none
  else if candles.length < engine.atrPeriod + engine.swingLookback + 3 then none
  else
    match calculateAtr a candles engine.atrPeriod with
    | none => none
    | some atr =>
      if atr ≤ 0 then none
      else
        match detectLiquiditySweep a candles none engine.atrPeriod engine.swingLookback provided with
        | none => none
        | some sweep =>
          let confirmationSweep := sweepForConfirmationCandles a sweep candles confirmation
          match detectStructureShift a confirmation (some confirmationSweep) none
              engine.swingLookback with
          | none => none
          | some shift =>
            let sweepIndex := confirmationSweep.candleIndex
            let impulse :=
              if shift.candleIndex ≤ sweepIndex ∨ confirmation.length ≤ shift.candleIndex then none
              else displacementImpulse confirmation shift.direction.trade sweepIndex
                shift.candleIndex
            some ⟨sweep, confirmationSweep, shift, impulse⟩

end Setups

section Order

variable {a : Arithmetic} {candles : List Candle}
variable {index : ℕ} {lookback : ℕ} {provided : ProvidedLiquidity} {s : LiquiditySweepSignal}
variable {direction : Option Direction}

structure OnGrid (period : ℤ) (candles : List Candle) : Prop where
  stamped : ∀ c ∈ candles, ∃ n : ℤ, c.timestamp = some (n * period)
  increasing : candles.Pairwise fun c d =>
    ∀ t u, c.timestamp = some t → d.timestamp = some u → t < u

/-- The end of the wick that sweeps the liquidity, for a trade in the other direction. -/
def Candle.wickExtreme (c : Candle) : TradeDirection → ℚ
  | .long => c.low
  | .short => c.high

variable {entry : Candle × ℕ} {swept : Candle} {period : ℤ} {t : ℤ}

theorem OnGrid.index_lt (h : OnGrid period candles) {i j : ℕ} {c d : Candle} {t u : ℤ}
    (hc : candles[i]? = some c) (ht : c.timestamp = some t) (hd : candles[j]? = some d)
    (hu : d.timestamp = some u) (hlt : t < u) : i < j := by
  obtain ⟨hi, rfl⟩ := List.getElem?_eq_some_iff.1 hc
  obtain ⟨hj, rfl⟩ := List.getElem?_eq_some_iff.1 hd
  refine not_le.1 fun hle => ?_
  rcases hle.eq_or_lt with rfl | hji
  · cases ht.symm.trans hu
    exact lt_irrefl t hlt
  · exact lt_asymm hlt (List.pairwise_iff_getElem.1 h.increasing j i hj hi hji u t hu ht)

theorem sideSweep_eq_some {side : Direction} {atr : ℚ} {depth : ℚ → ℚ} {reclaimed : ℚ → Prop}
    [DecidablePred reclaimed] {wick : ℚ} {reason : String}
    (h : sideSweep a candles side lookback provided atr depth reclaimed wick reason index = some s) :
    s.candleIndex = index ∧ s.direction = side := by
  unfold sideSweep at h
  dsimp only at h
  split at h
  · cases h
  · split at h
    · cases h
      exact ⟨rfl, rfl⟩
    · cases h

variable {atrPeriod : ℕ}

/-- A candle reports a sweep of its own or keeps the latest one. -/
theorem updateSweep_eq (latest : Option LiquiditySweepSignal) (entry : Candle × ℕ) :
    updateSweep a candles direction atrPeriod lookback provided latest entry =
      (updateSweep a candles direction atrPeriod lookback provided none entry <|> latest) := by
  unfold updateSweep
  split
  · rfl
  split
  · rfl
  split
  · rfl
  · dsimp only
    generalize (if direction = some .bullish then none else _) = bearish
    generalize (if direction = some .bearish then none else _) = bullish
    cases bearish <;> cases bullish <;> rfl

theorem updateSweep_index
    (h : updateSweep a candles direction atrPeriod lookback provided none entry = some s) :
    s.candleIndex = entry.2 := by
  unfold updateSweep at h
  split at h
  · cases h
  split at h
  · cases h
  split at h
  · cases h
  · dsimp only at h
    rcases (Option.orElse_eq_some _ _ _).1 h with hs | ⟨-, hs⟩
    · split at hs
      · cases hs
      · exact (sideSweep_eq_some hs).1
    · rcases (Option.orElse_eq_some _ _ _).1 hs with hs | ⟨-, hs⟩
      · split at hs
        · cases hs
        · exact (sideSweep_eq_some hs).1
      · cases hs

/-- A run over candles ends with the latest signal before it, if none of them sweeps, or with the
signal of one of them. -/
theorem foldl_updateSweep (entries : List (Candle × ℕ)) (latest : Option LiquiditySweepSignal) :
    (∀ entry ∈ entries,
        updateSweep a candles direction atrPeriod lookback provided none entry = none) ∧
      entries.foldl (updateSweep a candles direction atrPeriod lookback provided) latest = latest ∨
    ∃ entry ∈ entries, ∃ s,
      updateSweep a candles direction atrPeriod lookback provided none entry = some s ∧
      entries.foldl (updateSweep a candles direction atrPeriod lookback provided) latest = some s := by
  induction entries generalizing latest with
  | nil => exact .inl ⟨fun _ h => (List.not_mem_nil h).elim, rfl⟩
  | cons entry rest ih =>
    rw [List.foldl_cons, updateSweep_eq]
    rcases ih (updateSweep a candles direction atrPeriod lookback provided none entry <|> latest) with
      ⟨hnone, hrest⟩ | ⟨later, hlater, s, hs, hrest⟩
    · rw [hrest]
      cases hown : updateSweep a candles direction atrPeriod lookback provided none entry with
      | none => exact .inl ⟨List.forall_mem_cons.2 ⟨hown, hnone⟩, rfl⟩
      | some s => exact .inr ⟨entry, List.mem_cons_self, s, hown, rfl⟩
    · exact .inr ⟨later, List.mem_cons_of_mem entry hlater, s, hs, hrest⟩

theorem detectLiquiditySweep_mem
    (h : detectLiquiditySweep a candles direction atrPeriod lookback provided = some s) :
    s.candleIndex < candles.length := by
  unfold detectLiquiditySweep at h
  split at h
  · cases h
  · rcases foldl_updateSweep candles.zipIdx none with ⟨-, hnone⟩ | ⟨entry, hentry, s', hs', hsome⟩
    · cases h.symm.trans hnone
    · cases h.symm.trans hsome
      rw [updateSweep_index hs']
      exact (List.getElem?_eq_some_iff.1 (List.mem_zipIdx_iff_getElem?.1 hentry)).1

theorem zipIdx_pairwise (candles : List Candle) :
    candles.zipIdx.Pairwise fun entry later => entry.2 < later.2 := by
  refine List.pairwise_iff_getElem.2 fun i j hi hj hij => ?_
  simpa using hij

theorem mem_stampedUpTo {timestamp : ℤ} :
    index ∈ candles.zipIdx.filterMap (stampedUpTo timestamp) ↔
      ∃ c u, candles[index]? = some c ∧ c.timestamp = some u ∧ u ≤ timestamp := by
  rw [List.mem_filterMap]
  constructor
  · rintro ⟨⟨c, i⟩, hc, hi⟩
    unfold stampedUpTo at hi
    split at hi
    · cases hi
    next u hu =>
    split at hi
    next hle =>
      cases hi
      exact ⟨c, u, List.mem_zipIdx_iff_getElem?.1 hc, hu, hle⟩
    next => cases hi
  · rintro ⟨c, u, hc, hu, hle⟩
    refine ⟨(c, index), List.mem_zipIdx_iff_getElem?.2 hc, ?_⟩
    rw [stampedUpTo, hu]
    exact if_pos hle

/-- Of the candles to which a sweep is mapped, those after its image are stamped after the open of the
sweep candle, and so is any other but the first. -/
theorem mapCandleIndex_lt {source : List Candle} (h : OnGrid period candles) (hne : candles ≠ [])
    (hswept : source[index]? = some swept) (ht : swept.timestamp = some t) :
    mapCandleIndex a index source candles < candles.length ∧
      ∀ i c u, candles[i]? = some c → c.timestamp = some u →
        (mapCandleIndex a index source candles < i ↔ 0 < i ∧ t < u) := by
  have hindex := (List.getElem?_eq_some_iff.1 hswept).1
  have hlength := List.length_pos_iff.2 hne
  have hmap : mapCandleIndex a index source candles =
      ((candles.zipIdx.filterMap (stampedUpTo t)).getLast?).getD 0 ⊓ (candles.length - 1) := by
    have hsource : source.isEmpty = false :=
      List.isEmpty_eq_false_iff.2 (List.ne_nil_of_length_pos (Nat.zero_lt_of_lt hindex))
    unfold mapCandleIndex
    rw [List.isEmpty_eq_false_iff.2 hne, hsource, if_neg Bool.false_ne_true,
      if_neg Bool.false_ne_true]
    dsimp only
    rw [Nat.min_eq_left (Nat.le_sub_one_of_lt hindex), hswept, Option.bind_some, ht]
    dsimp only
    split
    next last hlast => rw [hlast, Option.getD_some]
    next hlast =>
      -- no candle is early enough: the first one is taken
      obtain ⟨first, rest, rfl⟩ := List.exists_cons_of_ne_nil hne
      obtain ⟨n, hn⟩ := h.stamped first List.mem_cons_self
      rw [hlast, List.zipIdx_cons, List.filterMap_cons, hn]
      rfl
  cases hlast : (candles.zipIdx.filterMap (stampedUpTo t)).getLast? with
  | none =>
    rw [hmap, hlast, Option.getD_none, Nat.zero_min]
    refine ⟨hlength, fun i c u hc hu => ⟨fun hi => ⟨hi, ?_⟩, And.left⟩⟩
    refine not_le.1 fun hle => ?_
    have hmem := mem_stampedUpTo.2 ⟨c, u, hc, hu, hle⟩
    rw [List.getLast?_eq_none_iff.1 hlast] at hmem
    exact List.not_mem_nil hmem
  | some last =>
    obtain ⟨before, hbefore⟩ := List.getLast?_eq_some_iff.1 hlast
    obtain ⟨d, v, hd, hv, hvt⟩ := mem_stampedUpTo.1 (List.mem_of_getLast? hlast)
    obtain ⟨hlt, rfl⟩ := List.getElem?_eq_some_iff.1 hd
    rw [hmap, hlast, Option.getD_some, Nat.min_eq_left (Nat.le_sub_one_of_lt hlt)]
    refine ⟨hlt, fun i c u hc hu => ⟨fun hi => ⟨Nat.zero_lt_of_lt hi, ?_⟩, fun hi => ?_⟩⟩
    · refine not_le.1 fun hle => ?_
      have hmem := mem_stampedUpTo.2 ⟨c, u, hc, hu, hle⟩
      have hsorted : (candles.zipIdx.filterMap (stampedUpTo t)).Pairwise (· < ·) := by
        refine List.pairwise_filterMap.2 ((zipIdx_pairwise candles).imp fun {e e'} he b hb b' hb' => ?_)
        have hsnd {e : Candle × ℕ} {b : ℕ} (h : stampedUpTo t e = some b) : e.2 = b := by
          unfold stampedUpTo at h
          split at h
          · cases h
          · split at h
            · exact Option.some.inj h
            · cases h
        exact hsnd hb ▸ hsnd hb' ▸ he
      rw [hbefore] at hmem hsorted
      rcases List.mem_append.1 hmem with hearly | hself
      · exact absurd ((List.pairwise_append.1 hsorted).2.2 i hearly last (by simp)) (by omega)
      · exact absurd (List.mem_singleton.1 hself) (by omega)
    · obtain ⟨hi', rfl⟩ := List.getElem?_eq_some_iff.1 hc
      refine not_le.1 fun hle => ?_
      rcases hle.eq_or_lt with rfl | hbeforeLast
      · cases hu.symm.trans hv
        omega
      · have := List.pairwise_iff_getElem.1 h.increasing i last hi' hlt hbeforeLast u v hu hv
        omega

theorem breakOfStructure_eq_some {direction : Direction} {trend : Trend}
    {s : StructureShiftSignal}
    (h : breakOfStructure a candles lookback direction trend entry = some s) :
    s.candleIndex = entry.2 ∧ s.direction = direction := by
  unfold breakOfStructure at h
  cases direction
  all_goals
    dsimp only at h
    split at h
    · cases h
    · split at h
      · cases h
        exact ⟨rfl, rfl⟩
      · cases h

theorem breakOfStructure_trend {direction : Direction} {trend : Trend}
    (h : breakOfStructure a candles lookback direction trend entry = none) (trend' : Trend) :
    breakOfStructure a candles lookback direction trend' entry = none := by
  unfold breakOfStructure at h ⊢
  cases direction
  all_goals
    dsimp only at h ⊢
    split
    · rfl
    next hprevious =>
      rw [hprevious] at h
      dsimp only at h
      split at h
      · cases h
      next hbeyond => exact if_neg hbeyond

/-- A shift is on the first candle after the sweep that breaks the structure. -/
theorem detectStructureShift_first {sweep : LiquiditySweepSignal} {s : StructureShiftSignal}
    (h : detectStructureShift a candles (some sweep) none lookback = some s) :
    s.direction = sweep.direction ∧ sweep.candleIndex < s.candleIndex ∧
      (∃ c trend, candles[s.candleIndex]? = some c ∧
        breakOfStructure a candles lookback sweep.direction trend (c, s.candleIndex) = some s) ∧
      ∀ i c trend, sweep.candleIndex < i → i < s.candleIndex → candles[i]? = some c →
        breakOfStructure a candles lookback sweep.direction trend (c, i) = none := by
  unfold detectStructureShift at h
  split at h
  · cases h
  obtain ⟨before, ⟨c, index⟩, after, hsplit, hbreak, hbefore⟩ := List.findSome?_eq_some_iff.1 h
  obtain ⟨hindex, hdirection⟩ := breakOfStructure_eq_some hbreak
  subst hindex
  have hmem : (c, s.candleIndex) ∈ candles.zipIdx.drop (sweep.candleIndex + 1) := by
    rw [hsplit]
    exact List.mem_append_right _ List.mem_cons_self
  refine ⟨hdirection, ?_, ⟨c, _, ?_, hbreak⟩, fun i d trend hi hlt hd => ?_⟩
  · obtain ⟨j, hj, hget⟩ := List.mem_drop_iff_getElem.1 hmem
    rw [List.getElem_zipIdx] at hget
    obtain ⟨-, hsum⟩ := Prod.mk.inj hget
    omega
  · exact List.mem_zipIdx_iff_getElem?.1 (List.mem_of_mem_drop hmem)
  · have hlength := (List.getElem?_eq_some_iff.1 hd).1
    have hmem' : (d, i) ∈ candles.zipIdx.drop (sweep.candleIndex + 1) := by
      refine List.mem_drop_iff_getElem.2 ⟨i - (sweep.candleIndex + 1), by simp; omega, ?_⟩
      rw [List.getElem_zipIdx]
      obtain ⟨_, rfl⟩ := List.getElem?_eq_some_iff.1 hd
      simp only [Nat.add_sub_cancel' (Nat.succ_le_of_lt hi), Nat.zero_add]
    have hsorted := (zipIdx_pairwise candles).drop (i := sweep.candleIndex + 1)
    rw [hsplit] at hmem' hsorted
    refine breakOfStructure_trend (hbefore _ ?_) trend
    rcases List.mem_append.1 hmem' with hearly | hlate
    · exact hearly
    · rcases List.mem_cons.1 hlate with hself | hafter
      · exact absurd (Prod.mk.inj hself).2 hlt.ne
      · have := (List.pairwise_cons.1 (List.pairwise_append.1 hsorted).2.1).1 _ hafter
        exact absurd hlt (by omega)

/-- The impulse starts at the wick of the first candle of its sample. -/
theorem displacementImpulse_start {direction : TradeDirection} {sweepIndex bosIndex : ℕ}
    {i : Impulse} (h : displacementImpulse candles direction sweepIndex bosIndex = some i) :
    ∃ c, candles[sweepIndex]? = some c ∧ i.start = c.wickExtreme direction := by
  unfold displacementImpulse at h
  split at h
  · cases h
  next first rest hsample =>
    have hfirst : candles[sweepIndex]? = some first := by
      have hget : ((candles.take (bosIndex + 1)).drop sweepIndex)[0]? = some first := by
        rw [hsample]
        rfl
      rw [List.getElem?_drop, Nat.add_zero, List.getElem?_take] at hget
      split at hget
      · exact hget
      · cases hget
    refine ⟨first, hfirst, ?_⟩
    cases direction
    all_goals
      dsimp only at h
      split at h
      · cases h
      · cases h
        rfl

/-- No confirmation candle that opens within a sweep candle, the first one apart, closes beyond the
last swing. -/
def QuietWithin (a : Arithmetic) (candles : List Candle) (lookback : ℕ) (side : Direction)
    (t : ℤ) : Prop :=
  ∀ i c u, 0 < i → candles[i]? = some c → c.timestamp = some u → t < u →
    u < t + Timeframe.m15.period →
      ∀ trend, breakOfStructure a candles lookback side trend (c, i) = none

/-- The last confirmation candle that opens no later than the sweep candle, or the first if there is
none, shows the wick. -/
def WickAtOpen (candles : List Candle) (t : ℤ) (side : TradeDirection) (wick : ℚ) : Prop :=
  ∀ i c u, candles[i]? = some c → c.timestamp = some u → (i = 0 ∨ u ≤ t) →
    (∀ j d v, i < j → candles[j]? = some d → d.timestamp = some v → t < v) →
      c.wickExtreme side = wick

theorem OnGrid.quietWithin (h : OnGrid Timeframe.m15.period candles)
    (hswept : candles[index]? = some swept) (ht : swept.timestamp = some t) (side : Direction) :
    QuietWithin a candles lookback side t := by
  intro i c u _ hc hu hlt hclose
  obtain ⟨n, hn⟩ := h.stamped swept (List.mem_of_getElem? hswept)
  obtain ⟨m, hm⟩ := h.stamped c (List.mem_of_getElem? hc)
  cases ht.symm.trans hn
  cases hu.symm.trans hm
  simp only [Timeframe.period] at hlt hclose
  omega

theorem OnGrid.wickAtOpen (h : OnGrid period candles) (hswept : candles[index]? = some swept)
    (ht : swept.timestamp = some t) (side : TradeDirection) :
    WickAtOpen candles t side (swept.wickExtreme side) := by
  intro i c u hc hu hopen hafter
  obtain ⟨hlt, rfl⟩ := List.getElem?_eq_some_iff.1 hswept
  obtain ⟨hi, rfl⟩ := List.getElem?_eq_some_iff.1 hc
  rcases lt_trichotomy i index with hbefore | rfl | hlater
  · exact absurd (hafter index _ t hbefore hswept ht) (lt_irrefl t)
  · rfl
  · have hstamps := List.pairwise_iff_getElem.1 h.increasing index i hlt hi hlater t u ht hu
    omega

variable {engine : Engine} {normalized : Timeframe → List Candle} {timeframe : Timeframe}
  {setup : ShiftedSetup}

/-- What a setup is made of. -/
theorem analyzeMode_eq_some (h : analyzeMode a engine provided normalized timeframe = some setup) :
    normalized timeframe ≠ [] ∧
    setup.sweep.candleIndex < (normalized .m15).length ∧
    setup.confirmationSweep =
      sweepForConfirmationCandles a setup.sweep (normalized .m15) (normalized timeframe) ∧
    detectStructureShift a (normalized timeframe) (some setup.confirmationSweep) none
      engine.swingLookback = some setup.structureShift ∧
    ∀ impulse, setup.impulse = some impulse →
      displacementImpulse (normalized timeframe) setup.structureShift.direction.trade
        setup.confirmationSweep.candleIndex setup.structureShift.candleIndex = some impulse := by
  unfold analyzeMode at h
  dsimp only at h
  split at h
  · cases h
  next hempty =>
  split at h
  · cases h
  split at h
  · cases h
  split at h
  · cases h
  split at h
  · cases h
  next sweep hsweep =>
  split at h
  · cases h
  next shift hshift =>
  cases h
  refine ⟨fun hnil => hempty (.inr (List.isEmpty_iff.2 hnil)), detectLiquiditySweep_mem hsweep, rfl,
    hshift, fun impulse himpulse => ?_⟩
  split at himpulse
  · cases himpulse
  · exact himpulse

/-- In every setup with a sweep and a structure shift: the candle of the shift opens at or after the
close of the sweep candle if and only if no candle within the sweep candle breaks the structure, and
the impulse starts at the wick of the sweep candle if and only if the candle at its open shows the
wick. Both hold with confirmation on the execution candles themselves. -/
theorem confirmation_follows_sweep (a : Arithmetic) (engine : Engine)
    (provided : ProvidedLiquidity) (normalized : Timeframe → List Candle) (timeframe : Timeframe)
    (hgrid : ∀ tf, OnGrid tf.period (normalized tf)) {setup : ShiftedSetup}
    (h : analyzeMode a engine provided normalized timeframe = some setup) :
    ∃ swept shifted t u,
      (normalized .m15)[setup.sweep.candleIndex]? = some swept ∧ swept.timestamp = some t ∧
      (normalized timeframe)[setup.structureShift.candleIndex]? = some shifted ∧
      shifted.timestamp = some u ∧
      setup.structureShift.direction = setup.sweep.direction ∧
      (t + Timeframe.m15.period ≤ u ↔
        QuietWithin a (normalized timeframe) engine.swingLookback setup.sweep.direction t) ∧
      (∀ impulse, setup.impulse = some impulse →
        (impulse.start = swept.wickExtreme setup.sweep.direction.trade ↔
          WickAtOpen (normalized timeframe) t setup.sweep.direction.trade
            (swept.wickExtreme setup.sweep.direction.trade))) ∧
      (timeframe = .m15 →
        QuietWithin a (normalized timeframe) engine.swingLookback setup.sweep.direction t ∧
        WickAtOpen (normalized timeframe) t setup.sweep.direction.trade
          (swept.wickExtreme setup.sweep.direction.trade)) := by
  obtain ⟨hne, hmem, hmapped, hshift, himpulse⟩ := analyzeMode_eq_some h
  obtain ⟨hdirection, hafter, ⟨shifted, trend, hshifted, hbreak⟩, hfirst⟩ :=
    detectStructureShift_first hshift
  have hside : setup.confirmationSweep.direction = setup.sweep.direction := by
    rw [hmapped]
    rfl
  rw [hside] at hdirection hbreak hfirst
  have hswept := List.getElem?_eq_getElem hmem
  obtain ⟨n, ht⟩ := (hgrid .m15).stamped _ (List.mem_of_getElem? hswept)
  obtain ⟨m, hu⟩ := (hgrid timeframe).stamped _ (List.mem_of_getElem? hshifted)
  -- the image of the sweep, and the candles after it
  have hindex : setup.confirmationSweep.candleIndex =
      mapCandleIndex a setup.sweep.candleIndex (normalized .m15) (normalized timeframe) := by
    rw [hmapped]
    rfl
  obtain ⟨hlength, himage⟩ := mapCandleIndex_lt (a := a) (hgrid timeframe) hne hswept ht
  rw [← hindex] at hlength himage
  refine ⟨_, shifted, _, _, hswept, ht, hshifted, hu, hdirection, ⟨?_, ?_⟩, ?_, ?_⟩
  · intro hclose i c u hi hc hcu hlt hbefore
    refine fun trend => hfirst i c trend ((himage i c u hc hcu).2 ⟨hi, hlt⟩) ?_ hc
    exact (hgrid timeframe).index_lt hc hcu hshifted hu (by omega)
  · intro hquiet
    refine not_lt.1 fun hlt => ?_
    obtain ⟨hpos, hopen⟩ := (himage _ _ _ hshifted hu).1 hafter
    cases (hquiet _ _ _ hpos hshifted hu hopen hlt trend).symm.trans hbreak
  · intro impulse hsome
    obtain ⟨c, hc, hstart⟩ := displacementImpulse_start (himpulse impulse hsome)
    obtain ⟨k, hk⟩ := (hgrid timeframe).stamped _ (List.mem_of_getElem? hc)
    rw [hstart, hdirection]
    constructor
    · intro hwick i d v hd hv hopen hlater
      -- the image is the only candle at the open
      have hself : i = setup.confirmationSweep.candleIndex := by
        refine le_antisymm (not_lt.1 fun hlt => ?_) (not_lt.1 fun hlt => ?_)
        · have := (himage i d v hd hv).1 hlt
          omega
        · have hopen' := hlater _ _ _ hlt hc hk
          exact absurd ((himage _ _ _ hc hk).2 ⟨Nat.zero_lt_of_lt hlt, hopen'⟩) (lt_irrefl _)
      subst hself
      cases hd.symm.trans hc
      exact hwick
    · intro hwick
      refine hwick _ c _ hc hk ?_ fun j d v hj hd hv => ((himage j d v hd hv).1 hj).2
      have hnot := mt (himage _ _ _ hc hk).2 (lt_irrefl _)
      omega
  · rintro rfl
    exact ⟨(hgrid .m15).quietWithin hswept ht _, (hgrid .m15).wickAtOpen hswept ht _⟩

end Order

section Samples

def quiet (period : ℤ) (index : ℕ) : Candle where
  timestamp := some (index * period)
  openPrice := 100
  high := 101
  low := 99
  close := 100
  positive := by norm_num
  high_ge := by norm_num
  low_le := by norm_num

def dipping (period : ℤ) (index : ℕ) (low : ℚ) (h : 0 < low ∧ low ≤ 100) : Candle :=
  { quiet period index with
    low
    positive := h.1
    low_le := by simpa [quiet] using h.2 }

def reaching (period : ℤ) (index : ℕ) (high close : ℚ) (h : 100 ≤ close ∧ close ≤ high) : Candle :=
  { quiet period index with
    high
    close
    high_ge := by simpa [quiet] using ⟨h.1.trans h.2, h.2⟩
    low_le := by simpa [quiet] using ⟨by norm_num, le_trans (by norm_num) h.1⟩ }

theorem onGrid_of_stamps {period : ℤ} (hperiod : 0 < period) {candles : List Candle} (first : ℕ)
    (h : candles.map (·.timestamp) =
      (List.range' first candles.length).map fun i : ℕ => some ((i : ℤ) * period)) :
    OnGrid period candles := by
  have hstamp {i : ℕ} (hi : i < candles.length) :
      candles[i].timestamp = some (((first + i : ℕ) : ℤ) * period) := by
    have hget := congrArg (·[i]?) h
    simpa [hi] using hget
  refine ⟨fun c hc => ?_, List.pairwise_iff_getElem.2 fun i j hi hj hij t u ht hu => ?_⟩
  · obtain ⟨i, hi, rfl⟩ := List.getElem_of_mem hc
    exact ⟨_, hstamp hi⟩
  · rw [hstamp hi] at ht
    rw [hstamp hj] at hu
    cases ht
    cases hu
    exact mul_lt_mul_of_pos_right (by omega) hperiod

/-- Fifteen minute candles with a swing low at 95, a swing high at 103, a sweep to 90 on the last but
one candle and a close above the swing high on the last. -/
def sweptSeries : List Candle :=
  (List.range 19).map fun i =>
    if i = 5 then dipping 900000 i 95 (by norm_num)
    else if i = 12 then reaching 900000 i 103 100 (by norm_num)
    else if i = 17 then dipping 900000 i 90 (by norm_num)
    else if i = 18 then reaching 900000 i 105 104 (by norm_num)
    else quiet 900000 i

def sweptMarket : Timeframe → List Candle
  | .m15 => sweptSeries
  | .m5 => []

/-- The setup on these candles. -/
theorem swept_series_is_confirmed :
    ∃ setup, analyzeMode .exact {} {} sweptMarket .m15 = some setup ∧
      ∃ swept shifted t u,
        sweptSeries[setup.sweep.candleIndex]? = some swept ∧ swept.timestamp = some t ∧
        sweptSeries[setup.structureShift.candleIndex]? = some shifted ∧
        shifted.timestamp = some u ∧ t + Timeframe.m15.period ≤ u ∧
        ∀ impulse, setup.impulse = some impulse →
          impulse.start = swept.wickExtreme setup.sweep.direction.trade := by
  have hgrid (tf : Timeframe) : OnGrid tf.period (sweptMarket tf) := by
    cases tf with
    | m15 => exact onGrid_of_stamps (by decide) 0 (by decide +kernel)
    | m5 => exact onGrid_of_stamps (by decide) 0 rfl
  have hsetup : (analyzeMode .exact {} {} sweptMarket .m15).isSome := by decide +kernel
  obtain ⟨setup, hsome⟩ := Option.isSome_iff_exists.1 hsetup
  obtain ⟨swept, shifted, t, u, hswept, ht, hshifted, hu, -, hopens, hstarts, hown⟩ :=
    confirmation_follows_sweep .exact {} {} sweptMarket .m15 hgrid hsome
  exact ⟨setup, hsome, swept, shifted, t, u, hswept, ht, hshifted, hu, hopens.2 (hown rfl).1,
    fun impulse himpulse => (hstarts impulse himpulse).2 (hown rfl).2⟩

/-- Fifteen minute candles whose last one sweeps to 90 and closes at 103, and the five minute
candles of its time and of the time before. The wick is in the second third of the sweep candle, and
the last third already closes above the high of 102. -/
def straddled : Timeframe → List Candle
  | .m15 => (List.range 19).map fun i =>
      if i = 5 then dipping 900000 i 95 (by norm_num)
      else if i = 17 then reaching 900000 i 102 100 (by norm_num)
      else if i = 18 then
        { reaching 900000 i 104 103 (by norm_num) with
          low := 90
          positive := by norm_num
          low_le := by norm_num [reaching, quiet] }
      else quiet 900000 i
  | .m5 =>
    [quiet 300000 51, quiet 300000 52, reaching 300000 53 102 100 (by norm_num), quiet 300000 54,
      dipping 300000 55 90 (by norm_num), reaching 300000 56 104 103 (by norm_num)]

/-- With five minute candles the shift is confirmed ten minutes into the sweep candle, and the
impulse starts at the low of its first third. -/
theorem confirmation_before_sweep_close :
    OnGrid Timeframe.m15.period (straddled .m15) ∧ OnGrid Timeframe.m5.period (straddled .m5) ∧
    (analyzeMode .exact {} {} straddled .m5).map (fun s =>
      (s.sweep.candleIndex, s.structureShift.candleIndex, s.impulse.map (·.start))) =
        some (18, 5, some 99) ∧
    ((straddled .m15)[18]?.map fun c => (c.timestamp, c.low)) = some (some 16200000, 90) ∧
    ((straddled .m5)[5]?.map (·.timestamp)) = some (some (16200000 + 600000)) := by
  refine ⟨onGrid_of_stamps (by decide) 0 ?_, onGrid_of_stamps (by decide) 51 ?_, ?_, ?_, ?_⟩ <;>
    decide +kernel

end Samples

end CandleCraft.Strategy
