import CandleCraft.Strategy.Mirror
import Mathlib.Data.Finset.Order

/-!
# Fair value gaps

A gap is looked for twice: by `detect_fair_value_gap` of the strategy, which reports the latest one,
and by `_detect_fvg` of the pullback analysis. Both compare the candles `i - 2` and `i`.
-/

namespace CandleCraft.Strategy

open Plan

section Detection

structure FairValueGapZone where
  direction : Direction
  candleIndex : ℕ
  low : ℚ
  high : ℚ
  midpoint : ℚ
  fillLow : ℚ
  fillHigh : ℚ
  reason : String

variable (a : Arithmetic) (candles : List Candle)

def middle (low high : ℚ) : ℚ := a.fit (a.fit (low + high) / 2)

/-- The gap that ends at an index. A bearish one is stored from the low of its last candle. -/
def gapAt (direction : Direction) (index : ℕ) : Option FairValueGapZone :=
  match candles[index - 2]?, candles[index]?, direction with
  | some left, some current, .bullish =>
    if left.high < current.low then
      let midpoint := middle a left.high current.low
      some
        { direction := .bullish
          candleIndex := index
          low := a.quantize left.high
          high := a.quantize current.low
          midpoint := a.quantize midpoint
          fillLow := a.quantize left.high
          fillHigh := a.quantize midpoint
          reason := "Bullish FVG found where candle i-2 high is below candle i low." }
    else none
  | some left, some current, .bearish =>
    if current.high < left.low then
      let midpoint := middle a current.low left.low
      some
        { direction := .bearish
          candleIndex := index
          low := a.quantize current.low
          high := a.quantize left.low
          midpoint := a.quantize midpoint
          fillLow := a.quantize midpoint
          fillHigh := a.quantize left.low
          reason := "Bearish FVG found where candle i-2 low is above candle i high." }
    else none
  | _, _, _ => none

/-- The first index and the number of indices that are scanned. -/
def firstGapIndex (startIndex : ℤ) : ℕ := (max 2 startIndex).toNat

def gapIndexCount (startIndex : ℤ) (endIndex : Option ℤ) : ℕ :=
  let finalIndex : ℤ :=
    match endIndex with
    | none => candles.length - 1
    | some endIndex => min endIndex (candles.length - 1)
  (finalIndex + 1 - max 2 startIndex).toNat

def detectFairValueGap (direction : Direction) (startIndex : ℤ) (endIndex : Option ℤ) :
    Option FairValueGapZone :=
  if candles.length < 3 then none
  else
    (List.range' (firstGapIndex startIndex) (gapIndexCount candles startIndex endIndex)).foldl
      (fun latest index => (gapAt a candles direction index).or latest) none

structure FvgZone extends PullbackZone where
  fillLow : ℚ
  fillHigh : ℚ

def fvgFreshness (direction : TradeDirection) (creationIndex : ℕ) (low high : ℚ) : Freshness :=
  let sample := candles.drop (creationIndex + 1)
  let midpoint := middle a low high
  match direction with
  | .long =>
    if sample.any fun candle => candle.low ≤ low then .mitigated
    else if sample.any fun candle => candle.low ≤ midpoint then .partiallyMitigated
    else .fresh
  | .short =>
    if sample.any fun candle => high ≤ candle.high then .mitigated
    else if sample.any fun candle => midpoint ≤ candle.high then .partiallyMitigated
    else .fresh

/-- `_zone`, for a gap. -/
def fvgZone (direction : TradeDirection) (creationIndex : ℕ) (low high fillLow fillHigh : ℚ)
    (reason : String) : FvgZone :=
  let freshness := fvgFreshness a candles direction creationIndex low high
  { zoneType := .fvg
    direction
    creationIndex
    low := a.quantize low
    high := a.quantize high
    midpoint := a.quantize (middle a low high)
    fillLow := a.quantize fillLow
    fillHigh := a.quantize fillHigh
    freshness
    warnings := zoneWarnings [] freshness
    reason }

/-- The gap that ends at an index, in the pullback analysis. -/
def fvgAt (direction : TradeDirection) (index : ℕ) : Option FvgZone :=
  match candles[index - 2]?, candles[index]?, direction with
  | some left, some current, .long =>
    if left.high < current.low then
      some (fvgZone a candles .long index left.high current.low left.high
        (middle a left.high current.low)
        "Bullish FVG found where candle[i].low is above candle[i-2].high.")
    else none
  | some left, some current, .short =>
    if current.high < left.low then
      some (fvgZone a candles .short index current.high left.low (middle a current.high left.low)
        left.low "Bearish FVG found where candle[i].high is below candle[i-2].low.")
    else none
  | _, _, _ => none

def freshnessSortKey (zone : FvgZone) : ℕ ×ₗ ℕ :=
  toLex (match zone.freshness with
    | .fresh => 2
    | .partiallyMitigated => 1
    | .mitigated => 0, zone.creationIndex)

def detectFvg (direction : TradeDirection) (sweepIndex bosIndex : ℕ) : Option FvgZone :=
  let firstIndex := max 2 (sweepIndex + 2)
  ((List.range' firstIndex (bosIndex + 1 - firstIndex)).filterMap
    (fvgAt a candles direction)).argmax freshnessSortKey

end Detection

section Gaps

variable {a : Arithmetic} {candles : List Candle} {direction : Direction} {index : ℕ}
  {zone : FairValueGapZone}

theorem exists_latest {β : Type*} {f : ℕ → Option β} {first n : ℕ} {z : β}
    (h : (List.range' first n).foldl (fun latest i => (f i).or latest) none = some z) :
    ∃ i, first ≤ i ∧ i < first + n ∧ f i = some z ∧ ∀ j, i < j → j < first + n → f j = none := by
  induction n with
  | zero => cases h
  | succ n ih =>
    rw [List.range'_1_concat, List.foldl_append, List.foldl_cons, List.foldl_nil] at h
    cases hlast : f (first + n) with
    | some z' =>
      rw [hlast, Option.some_or] at h
      exact ⟨first + n, by omega, by omega, by rw [hlast, h], by omega⟩
    | none =>
      rw [hlast, Option.none_or] at h
      obtain ⟨i, hle, hlt, hi, hlater⟩ := ih h
      refine ⟨i, hle, by omega, hi, fun j hij hj => ?_⟩
      by_cases hn : j = first + n
      · rw [hn, hlast]
      · exact hlater j hij (by omega)

/-- The prices strictly between the ranges of two candles. -/
def Between (direction : Direction) (left current : Candle) (p : ℚ) : Prop :=
  match direction with
  | .bullish => left.high < p ∧ p < current.low
  | .bearish => current.high < p ∧ p < left.low

def Candle.Traded (c : Candle) (p : ℚ) : Prop := c.low ≤ p ∧ p ≤ c.high

theorem Between.not_traded {left current : Candle} {p : ℚ} (h : Between direction left current p) :
    ¬ left.Traded p ∧ ¬ current.Traded p := by
  cases direction with
  | bullish => exact ⟨fun hleft => not_lt.2 hleft.2 h.1, fun hcurrent => not_lt.2 hcurrent.1 h.2⟩
  | bearish => exact ⟨fun hleft => not_lt.2 hleft.1 h.2, fun hcurrent => not_lt.2 hcurrent.2 h.1⟩

/-- The zone of the strategy and that of the pullback analysis have the same prices. -/
structure FairValueGapZone.Agrees (zone : FairValueGapZone) (z : FvgZone) : Prop where
  creationIndex : z.creationIndex = zone.candleIndex
  low : z.low = zone.low
  high : z.high = zone.high
  midpoint : z.midpoint = zone.midpoint
  fillLow : z.fillLow = zone.fillLow
  fillHigh : z.fillHigh = zone.fillHigh

/-- What a gap at an index says of its candles. A bearish zone is right if its last candle has no
range. -/
theorem gapAt_zone (h : gapAt .exact candles direction index = some zone) :
    ∃ left current, candles[index - 2]? = some left ∧ candles[index]? = some current ∧
      zone.direction = direction ∧ zone.candleIndex = index ∧ zone.low < zone.high ∧
      (direction = .bullish ∨ current.low = current.high →
        (∀ p, zone.low < p ∧ p < zone.high ↔ Between direction left current p) ∧
        ∃ z, fvgAt .exact candles direction.trade index = some z ∧ zone.Agrees z) := by
  unfold gapAt at h
  split at h
  · next left current hleft hcurrent =>
    split at h
    · next hgap =>
      cases h
      refine ⟨left, current, hleft, hcurrent, rfl, rfl, hgap, fun _ => ⟨fun p => Iff.rfl, ?_⟩⟩
      simp only [fvgAt, hleft, hcurrent, Direction.trade, if_pos hgap]
      exact ⟨_, rfl, rfl, rfl, rfl, rfl, rfl, rfl⟩
    · cases h
  · next left current hleft hcurrent =>
    split at h
    · next hgap =>
      cases h
      have hrange : current.low ≤ current.high :=
        current.low_le.trans ((min_le_left _ _).trans ((le_max_left _ _).trans current.high_ge))
      refine ⟨left, current, hleft, hcurrent, rfl, rfl, hrange.trans_lt hgap, fun hflat => ?_⟩
      have hsame : current.low = current.high := hflat.resolve_left (by decide)
      simp only [fvgAt, hleft, hcurrent, Direction.trade, if_pos hgap, hsame]
      exact ⟨fun p => Iff.rfl, _, rfl, rfl, rfl, rfl, rfl, rfl, rfl⟩
    · cases h
  · cases h

theorem detectFvg_eq {trade : TradeDirection} {sweepIndex bosIndex : ℕ} {z : FvgZone}
    (h : detectFvg a candles trade sweepIndex bosIndex = some z) :
    fvgAt a candles trade z.creationIndex = some z := by
  obtain ⟨index, -, hz⟩ := List.mem_filterMap.1 (List.argmax_mem h)
  have hindex : z.creationIndex = index := by
    unfold fvgAt at hz
    split at hz
    · split at hz
      · cases hz
        rfl
      · cases hz
    · split at hz
      · cases hz
        rfl
      · cases hz
    · cases hz
  rw [hindex, hz]

end Gaps

section Mirror

variable {C : ℚ} {l : List (Below C)} {direction : Direction}

structure MirrorZone (C : ℚ) (zone zone' : FairValueGapZone) : Prop where
  direction : zone'.direction = zone.direction.opposite
  candleIndex : zone'.candleIndex = zone.candleIndex
  low : zone'.low = C - zone.high
  high : zone'.high = C - zone.low
  midpoint : zone'.midpoint = C - zone.midpoint
  fillLow : zone'.fillLow = C - zone.fillHigh
  fillHigh : zone'.fillHigh = C - zone.fillLow

theorem middle_mirror (low high : ℚ) :
    middle .exact (C - high) (C - low) = C - middle .exact low high := by
  show (C - high + (C - low)) / 2 = C - (low + high) / 2
  ring

/-- The gaps of a series and of its mirror image: they are mirror images if the last candle of the
gap has no range, and only then. -/
theorem gapAt_mirror (l : List (Below C)) (direction : Direction) (index : ℕ) :
    Option.Rel (fun zone zone' => zone.candleIndex = index ∧ zone'.candleIndex = index ∧
        ∀ c, l[index]? = some c → (MirrorZone C zone zone' ↔ c.1.low = c.1.high))
      (gapAt .exact (series l) direction index)
      (gapAt .exact (mirrored l) direction.opposite index) := by
  unfold gapAt series mirrored
  rw [List.getElem?_map, List.getElem?_map, List.getElem?_map, List.getElem?_map]
  cases hleft : l[index - 2]? with
  | none => exact .none
  | some left =>
  cases hcurrent : l[index]? with
  | none => exact .none
  | some current =>
  cases direction with
  | bullish =>
    simp only [Option.map_some, Direction.opposite, Below.mirror, sub_lt_sub_iff_left]
    split
    · refine .some ⟨rfl, rfl, fun c hc => ?_⟩
      cases hc
      refine ⟨fun h => (sub_right_injective h.low).symm, fun hflat => ?_⟩
      have hmiddle := middle_mirror (C := C) left.1.high current.1.low
      refine ⟨rfl, rfl, ?_, rfl, ?_, ?_, rfl⟩ <;> simp only [quantize_exact, ← hflat, hmiddle]
    · exact .none
  | bearish =>
    simp only [Option.map_some, Direction.opposite, Below.mirror, sub_lt_sub_iff_left]
    split
    · refine .some ⟨rfl, rfl, fun c hc => ?_⟩
      cases hc
      refine ⟨fun h => (sub_right_injective h.high).symm, fun hflat => ?_⟩
      have hmiddle := middle_mirror (C := C) current.1.low left.1.low
      refine ⟨rfl, rfl, rfl, ?_, ?_, rfl, ?_⟩ <;> simp only [quantize_exact, ← hflat, hmiddle]
    · exact .none

theorem detectFairValueGap_mirror (l : List (Below C)) (direction : Direction) (startIndex : ℤ)
    (endIndex : Option ℤ) :
    Option.Rel (fun zone zone' => ∀ c, l[zone.candleIndex]? = some c →
        (MirrorZone C zone zone' ↔ c.1.low = c.1.high))
      (detectFairValueGap .exact (series l) direction startIndex endIndex)
      (detectFairValueGap .exact (mirrored l) direction.opposite startIndex endIndex) := by
  unfold detectFairValueGap gapIndexCount
  rw [length_series, length_mirrored]
  split
  · exact .none
  refine List.foldl_rel Option.Rel.none fun index _ latest latest' hlatest => ?_
  have hgap := gapAt_mirror l direction index
  cases hzone : gapAt .exact (series l) direction index with
  | none =>
    rw [hzone] at hgap
    generalize gapAt .exact (mirrored l) direction.opposite index = gap' at hgap
    cases hgap
    exact hlatest
  | some zone =>
    rw [hzone] at hgap
    generalize gapAt .exact (mirrored l) direction.opposite index = gap' at hgap
    obtain @⟨_, zone', hindex, -, hmirror⟩ := hgap
    exact .some (hindex ▸ hmirror)

theorem exists_series (candles : List Candle) : ∃ (C : ℚ) (l : List (Below C)), series l = candles := by
  obtain ⟨M, hM⟩ := (candles.map (·.high)).toFinset.exists_le
  have hbelow : ∀ c ∈ candles, c.high < M + 1 := fun c hc =>
    (hM _ (List.mem_toFinset.2 (List.mem_map_of_mem hc))).trans_lt (lt_add_one M)
  exact ⟨M + 1, candles.attachWith (fun c => c.high < M + 1) hbelow, List.attachWith_map_subtype_val _⟩

/-- The zone is the open interval between the two candles, neither of them traded in it, and it is
the zone that the pullback analysis builds for the index. -/
structure FairValueGapZone.Untraded (candles : List Candle) (direction : Direction)
    (left current : Candle) (zone : FairValueGapZone) : Prop where
  between : ∀ p, zone.low < p ∧ p < zone.high ↔ Between direction left current p
  untraded : ∀ p, zone.low < p → p < zone.high → ¬ left.Traded p ∧ ¬ current.Traded p
  pullback : ∃ z, fvgAt .exact candles direction.trade zone.candleIndex = some z ∧ zone.Agrees z
  detected : ∀ sweepIndex bosIndex z,
    detectFvg .exact candles direction.trade sweepIndex bosIndex = some z →
      z.creationIndex = zone.candleIndex → zone.Agrees z

/-- Mirroring all prices mirrors the zone, its midpoint and its fill half. -/
def FairValueGapZone.Mirrors (candles : List Candle) (direction : Direction) (startIndex : ℤ)
    (endIndex : Option ℤ) (zone : FairValueGapZone) : Prop :=
  ∀ (C : ℚ) (l : List (Below C)), series l = candles →
    ∃ zone', detectFairValueGap .exact (mirrored l) direction.opposite startIndex endIndex =
      some zone' ∧ MirrorZone C zone zone'

theorem mirrors_iff {startIndex : ℤ} {endIndex : Option ℤ} {candles : List Candle} {current : Candle}
    {zone : FairValueGapZone}
    (h : detectFairValueGap .exact candles direction startIndex endIndex = some zone)
    (hcurrent : candles[zone.candleIndex]? = some current) :
    zone.Mirrors candles direction startIndex endIndex ↔ current.low = current.high := by
  have hzones (C : ℚ) (l : List (Below C)) (hl : series l = candles) :
      ∃ zone', detectFairValueGap .exact (mirrored l) direction.opposite startIndex endIndex =
        some zone' ∧ (MirrorZone C zone zone' ↔ current.low = current.high) := by
    subst hl
    have hmirror := detectFairValueGap_mirror l direction startIndex endIndex
    rw [h] at hmirror
    generalize hzone' : detectFairValueGap .exact (mirrored l) direction.opposite startIndex
      endIndex = found at hmirror
    obtain @⟨_, zone', hmirror⟩ := hmirror
    rw [series, List.getElem?_map] at hcurrent
    obtain ⟨c, hc, rfl⟩ := Option.map_eq_some_iff.1 hcurrent
    exact ⟨zone', rfl, hmirror c hc⟩
  constructor
  · intro hmirrors
    obtain ⟨C, l, hl⟩ := exists_series candles
    obtain ⟨zone', hzone', hiff⟩ := hzones C l hl
    obtain ⟨zone'', hzone'', hmirror⟩ := hmirrors C l hl
    cases hzone'.symm.trans hzone''
    exact hiff.1 hmirror
  · intro hflat C l hl
    obtain ⟨zone', hzone', hiff⟩ := hzones C l hl
    exact ⟨zone', hzone', hiff.2 hflat⟩

/-- In exact arithmetic, for every series, direction and range of indices: a zone is that of the
latest gap in the range. It is the untraded gap of the pullback analysis and is mirrored with the
prices exactly if the last candle of the gap has no range. A bullish zone is always untraded. -/
theorem gap_zone {candles : List Candle} {startIndex : ℤ} {endIndex : Option ℤ}
    {zone : FairValueGapZone}
    (h : detectFairValueGap .exact candles direction startIndex endIndex = some zone) :
    ∃ left current, 2 ≤ zone.candleIndex ∧ candles[zone.candleIndex - 2]? = some left ∧
      candles[zone.candleIndex]? = some current ∧ zone.low < zone.high ∧
      (∀ j, zone.candleIndex < j →
        j < firstGapIndex startIndex + gapIndexCount candles startIndex endIndex →
          gapAt .exact candles direction j = none) ∧
      (direction = .bullish → zone.Untraded candles direction left current) ∧
      (zone.Untraded candles direction left current ∧
          zone.Mirrors candles direction startIndex endIndex ↔
        current.low = current.high) := by
  have hscan := h
  unfold detectFairValueGap at hscan
  split at hscan
  · cases hscan
  obtain ⟨index, hfirst, -, hgap, hlatest⟩ := exists_latest hscan
  have htwo : 2 ≤ index := by
    unfold firstGapIndex at hfirst
    omega
  obtain ⟨left, current, hleft, hcurrent, -, rfl, hlt, hright⟩ := gapAt_zone hgap
  have huntraded (hside : direction = .bullish ∨ current.low = current.high) :
      zone.Untraded candles direction left current := by
    obtain ⟨hbetween, z, hz, hagrees⟩ := hright hside
    refine ⟨hbetween, fun p hlow hhigh => ((hbetween p).1 ⟨hlow, hhigh⟩).not_traded, ⟨z, hz, hagrees⟩,
      fun sweepIndex bosIndex z' hz' hindex => ?_⟩
    have hown := detectFvg_eq hz'
    rw [hindex, hz] at hown
    cases hown
    exact hagrees
  refine ⟨left, current, htwo, hleft, hcurrent, hlt, hlatest, fun hbullish => huntraded (.inl hbullish),
    fun hboth => (mirrors_iff h hcurrent).1 hboth.2,
    fun hflat => ⟨huntraded (.inr hflat), (mirrors_iff h hcurrent).2 hflat⟩⟩

def falling (index : ℕ) (high low : ℚ) (h : 0 < low ∧ low ≤ high) : Candle :=
  ⟨some (index * 900000), high, high, low, low, h.1, by simpa using h.2, by simpa using h.2⟩

theorem flat_range : (0 : ℚ) < 95 ∧ (95 : ℚ) ≤ 95 := by norm_num

theorem wide_range : (0 : ℚ) < 90 ∧ (90 : ℚ) ≤ 95 := by norm_num

/-- A last candle at one price, and one with a range below the same high. -/
def flatCandle : Candle := falling 2 95 95 flat_range

def wideCandle : Candle := falling 2 95 90 wide_range

def fallingSeries (last : Candle) : List Candle :=
  [falling 0 110 100 (by norm_num), falling 1 101 94 (by norm_num), last]

/-- With a last candle at one price the zone reaches from there to the first candle. -/
theorem flat_gap_is_untraded :
    ∃ zone, detectFairValueGap .exact (fallingSeries flatCandle) .bearish 2 none = some zone ∧
      ∃ left current, (fallingSeries flatCandle)[zone.candleIndex - 2]? = some left ∧
        (fallingSeries flatCandle)[zone.candleIndex]? = some current ∧
        ∀ p, zone.low < p → p < zone.high → ¬ left.Traded p ∧ ¬ current.Traded p := by
  have hindex : (detectFairValueGap .exact (fallingSeries flatCandle) .bearish 2 none).map
      (·.candleIndex) = some 2 := by
    decide +kernel
  obtain ⟨zone, hzone, htwo⟩ := Option.map_eq_some_iff.1 hindex
  obtain ⟨left, current, -, hleft, hcurrent, -, -, -, hright⟩ := gap_zone hzone
  have hflat : current.low = current.high := by
    rw [htwo] at hcurrent
    cases hcurrent
    rfl
  exact ⟨zone, hzone, left, current, hleft, hcurrent, (hright.2 hflat).1.untraded⟩

/-- The zone of the strategy begins at 90, though the last candle traded from 90 to 95; that of the
pullback analysis begins at 95. -/
theorem bearish_gap_was_traded :
    (detectFairValueGap .exact (fallingSeries wideCandle) .bearish 2 none).map
      (fun zone => (zone.candleIndex, zone.low, zone.high)) = some (2, 90, 100) ∧
    wideCandle.Traded 92 ∧
    (detectFvg .exact (fallingSeries wideCandle) .short 0 2).map
      (fun z => (z.creationIndex, z.low, z.high)) = some (2, 95, 100) := by
  refine ⟨by decide +kernel, ⟨?_, ?_⟩, by decide +kernel⟩
  · norm_num [wideCandle, falling]
  · norm_num [wideCandle, falling]

end Mirror

end CandleCraft.Strategy
