import CandleCraft.Strategy.Repaint

/-!
# Mirrored prices

Replacing every price `p` by `C - p` swaps highs and lows. In exact arithmetic the true ranges stay
as they are, swing highs become swing lows, and a sweep of one side becomes a sweep of the other.
-/

namespace CandleCraft.Strategy

section Mirror

variable {C : ℚ}
variable {beyond beyond' : ℚ → ℚ → Bool} {price price' : Candle → ℚ}

def Below (C : ℚ) : Type := { c : Candle // c.high < C }

def Below.mirror (c : Below C) : Candle where
  timestamp := c.1.timestamp
  openPrice := C - c.1.openPrice
  high := C - c.1.low
  low := C - c.1.high
  close := C - c.1.close
  positive := sub_pos.2 c.2
  high_ge := max_le (by linarith [c.1.low_le, min_le_left c.1.openPrice c.1.close])
    (by linarith [c.1.low_le, min_le_right c.1.openPrice c.1.close])
  low_le := le_min (by linarith [c.1.high_ge, le_max_left c.1.openPrice c.1.close])
    (by linarith [c.1.high_ge, le_max_right c.1.openPrice c.1.close])

def series (l : List (Below C)) : List Candle := l.map (·.1)

def mirrored (l : List (Below C)) : List Candle := l.map Below.mirror

@[simp] theorem length_series (l : List (Below C)) : (series l).length = l.length := List.length_map _

@[simp] theorem length_mirrored (l : List (Below C)) : (mirrored l).length = l.length :=
  List.length_map _

theorem take_series (l : List (Below C)) (n : ℕ) : (series l).take n = series (l.take n) :=
  List.map_take.symm

theorem take_mirrored (l : List (Below C)) (n : ℕ) : (mirrored l).take n = mirrored (l.take n) :=
  List.map_take.symm

theorem trueRange_mirror (c d : Below C) :
    trueRange .exact c.mirror d.mirror = trueRange .exact c.1 d.1 := by
  have hrange : C - d.1.low - (C - d.1.high) = d.1.high - d.1.low := by ring
  have hhigh : |C - d.1.low - (C - c.1.close)| = |d.1.low - c.1.close| := by
    rw [← abs_neg]
    congr 1
    ring
  have hlow : |C - d.1.high - (C - c.1.close)| = |d.1.high - c.1.close| := by
    rw [← abs_neg]
    congr 1
    ring
  change max (max (C - d.1.low - (C - d.1.high)) |C - d.1.low - (C - c.1.close)|)
      |C - d.1.high - (C - c.1.close)| =
    max (max (d.1.high - d.1.low) |d.1.high - c.1.close|) |d.1.low - c.1.close|
  rw [hrange, hhigh, hlow, max_right_comm]

theorem calculateAtr_mirror (l : List (Below C)) (period : ℕ) :
    calculateAtr .exact (mirrored l) period = calculateAtr .exact (series l) period := by
  have hranges : ((mirrored l).zip (mirrored l).tail).map
        (fun pair => trueRange .exact pair.1 pair.2) =
      ((series l).zip (series l).tail).map fun pair => trueRange .exact pair.1 pair.2 := by
    simp only [mirrored, series, ← List.map_tail, List.zip_map, List.map_map]
    apply List.map_congr_left
    intro pair _
    exact trueRange_mirror pair.1 pair.2
  simp only [calculateAtr, length_mirrored, length_series, hranges]

def SwingPoint.mirror (C : ℚ) (p : SwingPoint) : SwingPoint := { p with price := C - p.price }

theorem neighbours_map (f : Below C → Candle) (l : List (Below C)) (lookback index : ℕ) :
    neighbours (l.map f) lookback index =
      ((l.drop (index - lookback)).take lookback ++ (l.drop (index + 1)).take lookback).map f := by
  simp only [neighbours, List.map_append, List.map_take, List.map_drop]

theorem swingAt_mirror (hprice : ∀ c : Below C, price' c.mirror = C - price c.1)
    (hbeyond : ∀ x y, beyond' (C - x) (C - y) = beyond x y) (l : List (Below C))
    (lookback index : ℕ) :
    swingAt (mirrored l) lookback price' beyond' index =
      (swingAt (series l) lookback price beyond index).map (SwingPoint.mirror C) := by
  unfold swingAt mirrored series
  rw [neighbours_map, neighbours_map, List.getElem?_map, List.getElem?_map]
  cases l[index]? with
  | none => rfl
  | some c =>
    simp only [Option.map_some, List.all_map, Function.comp_def, hprice, hbeyond]
    split <;> rfl

theorem detectSwings_mirror (hprice : ∀ c : Below C, price' c.mirror = C - price c.1)
    (hbeyond : ∀ x y, beyond' (C - x) (C - y) = beyond x y) (l : List (Below C)) (lookback : ℕ) :
    detectSwings (mirrored l) lookback price' beyond' =
      (detectSwings (series l) lookback price beyond).map (SwingPoint.mirror C) := by
  rw [detectSwings_eq, detectSwings_eq, List.map_filterMap, length_mirrored, length_series]
  congr 1
  funext index
  exact swingAt_mirror hprice hbeyond l lookback index

def Direction.opposite : Direction → Direction
  | .bullish => .bearish
  | .bearish => .bullish

theorem sweptSwings_mirror (l : List (Below C)) (lookback : ℕ) (side : Direction) :
    sweptSwings (mirrored l) lookback side.opposite =
      (sweptSwings (series l) lookback side).map (SwingPoint.mirror C) := by
  cases side with
  | bullish =>
    show detectSwings (mirrored l) lookback (·.high) (fun x y => decide (y < x)) =
      (detectSwings (series l) lookback (·.low) fun x y => decide (x < y)).map _
    exact detectSwings_mirror (fun _ => rfl) (fun x y => by simp) l lookback
  | bearish =>
    show detectSwings (mirrored l) lookback (·.low) (fun x y => decide (x < y)) =
      (detectSwings (series l) lookback (·.high) fun x y => decide (y < x)).map _
    exact detectSwings_mirror (fun _ => rfl) (fun x y => by simp) l lookback

theorem lastConfirmedBefore_mirror (points : List SwingPoint) (index : ℕ) :
    lastConfirmedBefore (points.map (SwingPoint.mirror C)) index =
      (lastConfirmedBefore points index).map (SwingPoint.mirror C) := by
  rw [lastConfirmedBefore, List.filter_map, List.getLast?_map]
  rfl

end Mirror

section Sweeps

variable {C : ℚ}

/-- The second signal is the mirror image of the first one. -/
structure MirrorSignal (C : ℚ) (s s' : LiquiditySweepSignal) : Prop where
  direction : s'.direction = s.direction.opposite
  candleIndex : s'.candleIndex = s.candleIndex
  swingIndex : s'.swingIndex = s.swingIndex
  swingLevel : s'.swingLevel = C - s.swingLevel
  wickPrice : s'.wickPrice = C - s.wickPrice
  magnitude : s'.magnitude = s.magnitude
  magnitudeAtr : s'.magnitudeAtr = s.magnitudeAtr

/-- A sweep of one side of the series is a sweep of the other side of its mirror image. -/
theorem sideSweep_mirror {l : List (Below C)} {lookback index : ℕ} (side : Direction)
    {provided provided' : ProvidedLiquidity} {atr wick : ℚ} {depth depth' : ℚ → ℚ}
    {reclaimed reclaimed' : ℚ → Prop} [DecidablePred reclaimed] [DecidablePred reclaimed']
    {reason reason' : String} (hdepth : ∀ level, depth' (C - level) = depth level)
    (hreclaimed : ∀ level, reclaimed' (C - level) ↔ reclaimed level) :
    Option.Rel (MirrorSignal C)
      (sideSweep .exact (series l) side lookback provided atr depth reclaimed wick reason index)
      (sideSweep .exact (mirrored l) side.opposite lookback provided' atr depth' reclaimed' (C - wick)
        reason' index) := by
  unfold sideSweep
  dsimp only
  rw [sweptSwings_mirror, lastConfirmedBefore_mirror]
  cases lastConfirmedBefore (sweptSwings (series l) lookback side) index with
  | none => exact .none
  | some previous =>
    simp only [Option.map_some, SwingPoint.mirror, hdepth, hreclaimed]
    split
    · exact .some ⟨rfl, rfl, rfl, rfl, rfl, rfl, rfl⟩
    · exact .none

theorem bullishSweep_mirror (l : List (Below C)) (lookback index : ℕ)
    (provided provided' : ProvidedLiquidity) (atr : ℚ) (c : Below C) :
    Option.Rel (MirrorSignal C) (bullishSweep .exact (series l) lookback provided atr c.1 index)
      (bearishSweep .exact (mirrored l) lookback provided' atr c.mirror index) := by
  refine sideSweep_mirror .bullish (fun level => ?_) fun level => ?_
  · show C - c.1.low - (C - level) = level - c.1.low
    ring
  · exact sub_lt_sub_iff_left C

theorem bearishSweep_mirror (l : List (Below C)) (lookback index : ℕ)
    (provided provided' : ProvidedLiquidity) (atr : ℚ) (c : Below C) :
    Option.Rel (MirrorSignal C) (bearishSweep .exact (series l) lookback provided atr c.1 index)
      (bullishSweep .exact (mirrored l) lookback provided' atr c.mirror index) := by
  refine sideSweep_mirror .bearish (fun level => ?_) fun level => ?_
  · show C - level - (C - c.1.high) = c.1.high - level
    ring
  · exact sub_lt_sub_iff_left C

variable {l : List (Below C)} {atrPeriod lookback index : ℕ} {provided provided' : ProvidedLiquidity}
  {atr : ℚ} {c : Below C}

def SweepsBoth (candles : List Candle) (atrPeriod lookback : ℕ) (provided : ProvidedLiquidity)
    (index : ℕ) : Prop :=
  ∃ candle atr, candles[index]? = some candle ∧
    calculateAtr .exact (candles.take index) atrPeriod = some atr ∧
    (bullishSweep .exact candles lookback provided atr candle index).isSome ∧
    (bearishSweep .exact candles lookback provided atr candle index).isSome

/-- The signals of a series and of its mirror image: they are on one candle, and mirror images of
each other unless it sweeps both sides. -/
def MirrorLatest (l : List (Below C)) (atrPeriod lookback : ℕ) (provided : ProvidedLiquidity)
    (s s' : LiquiditySweepSignal) : Prop :=
  s'.candleIndex = s.candleIndex ∧
    (SweepsBoth (series l) atrPeriod lookback provided s.candleIndex →
      s.direction = .bearish ∧ s'.direction = .bearish) ∧
    (¬ SweepsBoth (series l) atrPeriod lookback provided s.candleIndex → MirrorSignal C s s')

theorem MirrorSignal.latest {s s' : LiquiditySweepSignal} (h : MirrorSignal C s s')
    (hone : ¬ SweepsBoth (series l) atrPeriod lookback provided s.candleIndex) :
    MirrorLatest l atrPeriod lookback provided s s' :=
  ⟨h.candleIndex, fun hboth => absurd hboth hone, fun _ => h⟩

/-- The choice between two sides and the latest signal, made on the sides in opposite roles. -/
theorem rel_choose {r m : LiquiditySweepSignal → LiquiditySweepSignal → Prop}
    {bull bear bull' bear' latest latest' : Option LiquiditySweepSignal}
    (hlatest : Option.Rel r latest latest') (hbull : Option.Rel m bull bear')
    (hbear : Option.Rel m bear bull')
    (hone : ¬ (bull.isSome ∧ bear.isSome) → ∀ s s', m s s' → bull = some s ∨ bear = some s → r s s')
    (hboth : ∀ s s', bear = some s → bear' = some s' → bull.isSome → r s s') :
    Option.Rel r (bear <|> bull <|> latest) (bear' <|> bull' <|> latest') := by
  cases hbull with
  | none =>
    cases hbear with
    | none => exact hlatest
    | some h => exact .some (hone (by simp) _ _ h (.inr rfl))
  | some h =>
    cases hbear with
    | none => exact .some (hone (by simp) _ _ h (.inl rfl))
    | some _ => exact .some (hboth _ _ rfl rfl rfl)

/-- What a candle and its mirror image make of the latest signals. -/
theorem updateSweep_mirror (hc : l[index]? = some c) {latest latest' : Option LiquiditySweepSignal}
    (h : Option.Rel (MirrorLatest l atrPeriod lookback provided) latest latest') :
    Option.Rel (MirrorLatest l atrPeriod lookback provided)
      (updateSweep .exact (series l) none atrPeriod lookback provided latest (c.1, index))
      (updateSweep .exact (mirrored l) none atrPeriod lookback provided' latest'
        (c.mirror, index)) := by
  have hget : (series l)[index]? = some c.1 := by rw [series, List.getElem?_map, hc, Option.map_some]
  unfold updateSweep
  rw [take_mirrored, calculateAtr_mirror, ← take_series]
  split
  · exact h
  cases hatr : calculateAtr .exact ((series l).take index) atrPeriod with
  | none => exact h
  | some atr =>
    dsimp only
    split
    · exact h
    -- the two sides are tried in a fixed order, so a candle that sweeps both is not mirrored
    have hone (hnot : ¬ ((bullishSweep .exact (series l) lookback provided atr c.1 index).isSome ∧
        (bearishSweep .exact (series l) lookback provided atr c.1 index).isSome)) :
        ¬ SweepsBoth (series l) atrPeriod lookback provided index := by
      rintro ⟨candle, atr', hcandle, hatr', hboth⟩
      cases hget.symm.trans hcandle
      cases hatr.symm.trans hatr'
      exact hnot hboth
    rw [if_neg (by simp), if_neg (by simp), if_neg (by simp), if_neg (by simp)]
    refine rel_choose h (bullishSweep_mirror l lookback index provided provided' atr c)
      (bearishSweep_mirror l lookback index provided provided' atr c) ?_ ?_
    · intro hnot s s' hmirror hs
      refine hmirror.latest ?_
      rcases hs with hs | hs
      · rw [(sideSweep_eq_some hs).1]
        exact hone hnot
      · rw [(sideSweep_eq_some hs).1]
        exact hone hnot
    · intro s s' hs hs' hbull
      obtain ⟨hindex, hdirection⟩ := sideSweep_eq_some hs
      obtain ⟨hindex', hdirection'⟩ := sideSweep_eq_some hs'
      have hboth : SweepsBoth (series l) atrPeriod lookback provided s.candleIndex := by
        rw [hindex]
        exact ⟨c.1, atr, hget, hatr, hbull, by rw [hs]; rfl⟩
      exact ⟨hindex'.trans hindex.symm, fun _ => ⟨hdirection, hdirection'⟩,
        fun hnot => absurd hboth hnot⟩

/-- In exact arithmetic, for every series and every constant above its prices: the mirrored series
has a sweep if and only if the series has one, on the same candle. The signal is mirrored, unless the
candle sweeps both sides; then both signals are bearish. -/
theorem sweep_mirror (l : List (Below C)) (atrPeriod lookback : ℕ)
    (provided provided' : ProvidedLiquidity) :
    Option.Rel (MirrorLatest l atrPeriod lookback provided)
      (detectLiquiditySweep .exact (series l) none atrPeriod lookback provided)
      (detectLiquiditySweep .exact (mirrored l) none atrPeriod lookback provided') := by
  unfold detectLiquiditySweep
  rw [length_series, length_mirrored]
  split
  · exact .none
  rw [show (series l).zipIdx = l.zipIdx.map (Prod.map (·.1) id) from List.zipIdx_map,
    show (mirrored l).zipIdx = l.zipIdx.map (Prod.map Below.mirror id) from List.zipIdx_map,
    List.foldl_map, List.foldl_map]
  refine List.foldl_rel Option.Rel.none fun entry hentry latest latest' hlatest => ?_
  exact updateSweep_mirror (List.mem_zipIdx_iff_getElem?.1 hentry) hlatest

/-- A quiet candle around 100 as far as a low and a high, below 200. -/
def wide (index : ℕ) (low high : ℚ) (h : 0 < low ∧ low ≤ 100 ∧ 100 ≤ high ∧ high < 200) :
    Below 200 :=
  ⟨⟨some (index * 900000), 100, high, low, 100, h.1, by simpa using h.2.2.1, by simpa using h.2.1⟩,
    h.2.2.2⟩

/-- A swing low at 95, a swing high at 105, and a last candle beyond both. -/
def wideSeries : List (Below 200) :=
  (List.range 18).map fun i =>
    if i = 5 then wide i 95 101 (by norm_num)
    else if i = 12 then wide i 99 105 (by norm_num)
    else if i = 17 then wide i 90 110 (by norm_num)
    else wide i 99 101 (by norm_num)

/-- A candle that sweeps a low and a high is a bearish sweep in the series and in its mirror image. -/
theorem both_sides_stay_bearish :
    (detectLiquiditySweep .exact (series wideSeries) none 14 2 {}).map
      (fun s => (s.candleIndex, s.direction)) = some (17, .bearish) ∧
    (detectLiquiditySweep .exact (mirrored wideSeries) none 14 2 {}).map
      (fun s => (s.candleIndex, s.direction)) = some (17, .bearish) := by
  decide +kernel

end Sweeps

end CandleCraft.Strategy
