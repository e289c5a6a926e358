import CandleCraft.Strategy.StructureShift

/-!
# Signals on a series that grows

A scan runs again on every closed candle, on a series that extends the previous one. The swing
points that a candle is compared with are confirmed before it, so they are those of the shorter
series.
-/

namespace CandleCraft.Strategy

section Swings

variable {candles later : List Candle} {lookback index : ℕ} {price : Candle → ℚ}
variable {p : SwingPoint}
  {beyond : ℚ → ℚ → Bool}

def swingAt (candles : List Candle) (lookback : ℕ) (price : Candle → ℚ) (beyond : ℚ → ℚ → Bool)
    (index : ℕ) : Option SwingPoint :=
  match candles[index]? with
  | none => none
  | some current =>
    if (neighbours candles lookback index).all fun candle =>
        beyond (price current) (price candle) then
      some ⟨index, index + lookback, price current⟩
    else none

theorem detectSwings_eq : detectSwings candles lookback price beyond =
    (List.range' lookback (candles.length - 2 * lookback)).filterMap
      (swingAt candles lookback price beyond) := rfl

theorem swingAt_confirmed (h : swingAt candles lookback price beyond index = some p) :
    p.index = index ∧ p.confirmedAtIndex = index + lookback := by
  unfold swingAt at h
  split at h
  · cases h
  · split at h
    · cases h
      exact ⟨rfl, rfl⟩
    · cases h

theorem swingAt_append (h : index + lookback < candles.length) :
    swingAt (candles ++ later) lookback price beyond index =
      swingAt candles lookback price beyond index := by
  have hget : (candles ++ later)[index]? = candles[index]? :=
    List.getElem?_append_left (by omega)
  have hleft : ((candles ++ later).drop (index - lookback)).take lookback =
      (candles.drop (index - lookback)).take lookback := by
    rw [List.drop_append_of_le_length (by omega), List.take_append_of_le_length]
    rw [List.length_drop]
    omega
  have hright : ((candles ++ later).drop (index + 1)).take lookback =
      (candles.drop (index + 1)).take lookback := by
    rw [List.drop_append_of_le_length (by omega), List.take_append_of_le_length]
    rw [List.length_drop]
    omega
  have hneighbours : neighbours (candles ++ later) lookback index =
      neighbours candles lookback index := by
    rw [neighbours, neighbours, hleft, hright]
  unfold swingAt
  rw [hget, hneighbours]

theorem confirmed_of_mem (h : p ∈ detectSwings candles lookback price beyond) :
    2 * lookback ≤ p.confirmedAtIndex ∧ p.confirmedAtIndex < candles.length := by
  rw [detectSwings_eq] at h
  obtain ⟨index, hindex, hpoint⟩ := List.mem_filterMap.1 h
  have hrange := List.mem_range'_1.1 hindex
  have hconfirmed := (swingAt_confirmed hpoint).2
  omega

/-- The points of an extension are those of the series, and points that the new candles confirm. -/
theorem detectSwings_append (candles later : List Candle) (lookback : ℕ) (price : Candle → ℚ)
    (beyond : ℚ → ℚ → Bool) :
    ∃ extra, detectSwings (candles ++ later) lookback price beyond =
        detectSwings candles lookback price beyond ++ extra ∧
      ∀ p ∈ extra, candles.length ≤ p.confirmedAtIndex := by
  have hsplit : List.range' lookback ((candles ++ later).length - 2 * lookback) =
      List.range' lookback (candles.length - 2 * lookback) ++
        List.range' (lookback + (candles.length - 2 * lookback))
          ((candles ++ later).length - 2 * lookback - (candles.length - 2 * lookback)) := by
    rw [List.range'_append_1]
    congr 1
    rw [List.length_append]
    omega
  have hsame : (List.range' lookback (candles.length - 2 * lookback)).filterMap
        (swingAt (candles ++ later) lookback price beyond) =
      detectSwings candles lookback price beyond := by
    apply List.filterMap_congr
    intro index hindex
    have hrange := List.mem_range'_1.1 hindex
    exact swingAt_append (by omega)
  refine ⟨_, by rw [detectSwings_eq, hsplit, List.filterMap_append, hsame], fun p hp => ?_⟩
  obtain ⟨index, hindex, hpoint⟩ := List.mem_filterMap.1 hp
  have hrange := List.mem_range'_1.1 hindex
  have hconfirmed := (swingAt_confirmed hpoint).2
  omega

theorem lastConfirmedBefore_append_late {points extra : List SwingPoint} {n : ℕ}
    (hextra : ∀ p ∈ extra, n ≤ p.confirmedAtIndex) (h : index ≤ n) :
    lastConfirmedBefore (points ++ extra) index = lastConfirmedBefore points index := by
  have hnone : extra.filter (fun point => point.confirmedAtIndex < index) = [] := by
    rw [List.filter_eq_nil_iff]
    intro p hp
    have hlate := hextra p hp
    simp only [decide_eq_true_eq]
    omega
  rw [lastConfirmedBefore, List.filter_append, hnone, List.append_nil, lastConfirmedBefore]

theorem lastConfirmedBefore_append (h : index ≤ candles.length) :
    lastConfirmedBefore (detectSwings (candles ++ later) lookback price beyond) index =
      lastConfirmedBefore (detectSwings candles lookback price beyond) index := by
  obtain ⟨extra, hextra, hlate⟩ := detectSwings_append candles later lookback price beyond
  rw [hextra, lastConfirmedBefore_append_late hlate h]

theorem lastConfirmedBefore_eq_none (h : index ≤ 2 * lookback) :
    lastConfirmedBefore (detectSwings candles lookback price beyond) index = none := by
  rw [lastConfirmedBefore, List.getLast?_eq_none_iff, List.filter_eq_nil_iff]
  intro p hp
  have hconfirmed := (confirmed_of_mem hp).1
  simp only [decide_eq_true_eq]
  omega

theorem lastConfirmedBefore_mem {points : List SwingPoint}
    (h : lastConfirmedBefore points index = some p) : p ∈ points :=
  List.mem_of_mem_filter (List.mem_of_getLast? h)

end Swings

section Shifts

variable {a : Arithmetic} {candles later : List Candle} {lookback : ℕ}
  {sweep : LiquiditySweepSignal} {direction : Option Direction}

variable {entry : Candle × ℕ}

theorem breakOfStructure_append {side : Direction} {trend : Trend} (h : entry.2 ≤ candles.length) :
    breakOfStructure a (candles ++ later) lookback side trend entry =
      breakOfStructure a candles lookback side trend entry := by
  cases side
  · unfold breakOfStructure swingHighs
    rw [lastConfirmedBefore_append h]
  · unfold breakOfStructure swingLows
    rw [lastConfirmedBefore_append h]

theorem breakOfStructure_early {side : Direction} {trend : Trend} (h : entry.2 ≤ 2 * lookback) :
    breakOfStructure a candles lookback side trend entry = none := by
  cases side
  · unfold breakOfStructure swingHighs
    rw [lastConfirmedBefore_eq_none h]
  · unfold breakOfStructure swingLows
    rw [lastConfirmedBefore_eq_none h]

theorem trendBeforeIndex_append {index : ℕ} (h : index < candles.length) :
    trendBeforeIndex (candles ++ later) index = trendBeforeIndex candles index := by
  simp only [trendBeforeIndex, List.take_append_of_le_length (Nat.succ_le_of_lt h)]

def shiftAfter (a : Arithmetic) (candles : List Candle) (lookback : ℕ)
    (sweep : LiquiditySweepSignal) (entries : List (Candle × ℕ)) : Option StructureShiftSignal :=
  entries.findSome? (breakOfStructure a candles lookback sweep.direction
    (trendBeforeIndex candles sweep.candleIndex))

/-- The check of the length does not hide a break of structure: the candles it excludes have no
swing to close beyond. -/
theorem detectStructureShift_eq : detectStructureShift a candles (some sweep) direction lookback =
    shiftAfter a candles lookback sweep (candles.zipIdx.drop (sweep.candleIndex + 1)) := by
  unfold detectStructureShift
  split
  next hshort =>
    refine (List.findSome?_eq_none_iff.2 fun entry hentry => ?_).symm
    have hget := List.mem_zipIdx_iff_getElem?.1 (List.mem_of_mem_drop hentry)
    have hlt := (List.getElem?_eq_some_iff.1 hget).1
    exact breakOfStructure_early (by omega)
  next => rfl

theorem shiftAfter_congr {entries : List (Candle × ℕ)} (h : sweep.candleIndex < candles.length)
    (hentries : ∀ entry ∈ entries, entry.2 ≤ candles.length) :
    shiftAfter a (candles ++ later) lookback sweep entries =
      shiftAfter a candles lookback sweep entries := by
  unfold shiftAfter
  rw [trendBeforeIndex_append h]
  induction entries with
  | nil => rfl
  | cons entry rest ih =>
    rw [List.findSome?_cons, List.findSome?_cons,
      breakOfStructure_append (hentries entry List.mem_cons_self),
      ih fun e he => hentries e (List.mem_cons_of_mem entry he)]

theorem zipIdx_drop_append {n : ℕ} (h : n ≤ candles.length) :
    (candles ++ later).zipIdx.drop n =
      candles.zipIdx.drop n ++ later.zipIdx candles.length := by
  rw [List.zipIdx_append, List.drop_append_of_le_length (by rwa [List.length_zipIdx]), Nat.zero_add]

theorem detectStructureShift_append (h : sweep.candleIndex < candles.length) :
    detectStructureShift a (candles ++ later) (some sweep) direction lookback =
      (detectStructureShift a candles (some sweep) direction lookback).or
        (shiftAfter a (candles ++ later) lookback sweep (later.zipIdx candles.length)) := by
  have hsame : shiftAfter a (candles ++ later) lookback sweep
        (candles.zipIdx.drop (sweep.candleIndex + 1)) =
      shiftAfter a candles lookback sweep (candles.zipIdx.drop (sweep.candleIndex + 1)) := by
    refine shiftAfter_congr h fun entry hentry => ?_
    have hget := List.mem_zipIdx_iff_getElem?.1 (List.mem_of_mem_drop hentry)
    exact (List.getElem?_eq_some_iff.1 hget).1.le
  rw [detectStructureShift_eq, detectStructureShift_eq, zipIdx_drop_append h, ← hsame]
  exact List.findSome?_append

/-- For every series, every sweep on one of its candles and every extension: a reported structure
shift is reported again in all fields, and if none is reported for the series, one that is reported
for the extension is on a new candle. -/
theorem shift_never_repaints (h : sweep.candleIndex < candles.length) :
    (∀ s, detectStructureShift a candles (some sweep) direction lookback = some s →
      detectStructureShift a (candles ++ later) (some sweep) direction lookback = some s) ∧
    (detectStructureShift a candles (some sweep) direction lookback = none →
      ∀ s, detectStructureShift a (candles ++ later) (some sweep) direction lookback = some s →
        candles.length ≤ s.candleIndex) := by
  rw [detectStructureShift_append h]
  refine ⟨fun s hs => by rw [hs, Option.some_or], fun hnone s hs => ?_⟩
  rw [hnone, Option.none_or] at hs
  obtain ⟨entry, hentry, hbreak⟩ := List.exists_of_findSome?_eq_some hs
  have hindex := List.le_snd_of_mem_zipIdx hentry
  rw [(breakOfStructure_eq_some hbreak).1]
  exact hindex

theorem retest_low : (0 : ℚ) < 95 ∧ (95 : ℚ) ≤ 100 := by norm_num

/-- Candles that come back to the swept low and leave it again. -/
def retest : List Candle :=
  (List.range' 19 5).map fun i =>
    if i = 21 then dipping 900000 i 95 retest_low else quiet 900000 i

/-- The shift after the sweep of the sample is the same after the retest. -/
theorem sample_shift_is_kept :
    ∃ sweep s, detectStructureShift .exact sweptSeries (some sweep) none 2 = some s ∧
      detectStructureShift .exact (sweptSeries ++ retest) (some sweep) none 2 = some s := by
  have hshift : ((detectLiquiditySweep .exact sweptSeries none 14 2 {}).bind fun sweep =>
      (detectStructureShift .exact sweptSeries (some sweep) none 2).map fun s =>
        (s.candleIndex, decide (sweep.candleIndex < sweptSeries.length))) = some (18, true) := by
    decide +kernel
  obtain ⟨sweep, -, hsweep⟩ := Option.bind_eq_some_iff.1 hshift
  obtain ⟨s, hs, hindex⟩ := Option.map_eq_some_iff.1 hsweep
  have hlt := of_decide_eq_true (Prod.mk.inj hindex).2
  exact ⟨sweep, s, hs, (shift_never_repaints hlt).1 s hs⟩

end Shifts

section Sweeps

variable {a : Arithmetic} {candles later : List Candle} {lookback atrPeriod : ℕ}
  {provided : ProvidedLiquidity} {direction : Option Direction}

/-- The swings within a tenth of the ATR of a level. -/
def nearby (a : Arithmetic) (level atr : ℚ) (points : List SwingPoint) : List SwingPoint :=
  points.filter fun point => decide (a.fit |a.fit (point.price - level)| ≤ a.fit (atr * (10 / 100)))

/-- The confluence of the sweep is that with levels that are given, or two swings are at the swept
level only if two were there before the later candles. -/
def Settled (a : Arithmetic) (candles later : List Candle) (atrPeriod lookback : ℕ)
    (provided : ProvidedLiquidity) (s : LiquiditySweepSignal) : Prop :=
  (provided.side s.direction).isSome ∨
    ∀ atr, calculateAtr a (candles.take s.candleIndex) atrPeriod = some atr →
      ∀ q ∈ sweptSwings candles lookback s.direction, q.index = s.swingIndex →
        2 ≤ (nearby a q.price atr (sweptSwings (candles ++ later) lookback s.direction)).length →
          2 ≤ (nearby a q.price atr (sweptSwings candles lookback s.direction)).length

/-- The second signal is the first one, but for a confluence that later swings may change. -/
def Keeps (a : Arithmetic) (candles later : List Candle) (atrPeriod lookback : ℕ)
    (provided : ProvidedLiquidity) (s s' : LiquiditySweepSignal) : Prop :=
  s' = { s with confluence := s'.confluence } ∧
    (s'.confluence = s.confluence ↔ Settled a candles later atrPeriod lookback provided s)

variable {side : Direction} {s : LiquiditySweepSignal}

theorem sweepConfluence_append {level atr : ℚ} {points extra : List SwingPoint}
    {levels : Option (List ℚ)} :
    sweepConfluence a side level (points ++ extra) atr levels =
        sweepConfluence a side level points atr levels ↔
      levels.isSome ∨
        (2 ≤ (nearby a level atr (points ++ extra)).length →
          2 ≤ (nearby a level atr points).length) := by
  cases levels with
  | some levels => exact iff_of_true rfl (.inl rfl)
  | none =>
    have hmono : (nearby a level atr points).length ≤ (nearby a level atr (points ++ extra)).length := by
      rw [nearby, nearby, List.filter_append, List.length_append]
      omega
    show (if 2 ≤ (nearby a level atr (points ++ extra)).length then _ else NA) =
      (if 2 ≤ (nearby a level atr points).length then _ else NA) ↔ _
    simp only [Option.isSome_none, Bool.false_eq_true, false_or]
    by_cases hbefore : 2 ≤ (nearby a level atr points).length
    · rw [if_pos (hbefore.trans hmono), if_pos hbefore]
      exact iff_of_true rfl fun _ => hbefore
    · rw [if_neg hbefore]
      split
      next htwo =>
        -- a verified confluence is not `N/A`
        refine iff_of_false ?_ fun h => hbefore (h htwo)
        cases side <;> decide
      next hone => exact iff_of_true rfl fun h => absurd h hone

theorem sweptSwings_append (candles later : List Candle) (lookback : ℕ) (side : Direction) :
    ∃ extra, sweptSwings (candles ++ later) lookback side =
        sweptSwings candles lookback side ++ extra ∧
      ∀ p ∈ extra, candles.length ≤ p.confirmedAtIndex := by
  cases side with
  | bullish => exact detectSwings_append candles later lookback (·.low) fun x y => decide (x < y)
  | bearish => exact detectSwings_append candles later lookback (·.high) fun x y => decide (y < x)

theorem eq_of_mem_sweptSwings {p q : SwingPoint} (hp : p ∈ sweptSwings candles lookback side)
    (hq : q ∈ sweptSwings candles lookback side) (h : p.index = q.index) : p = q := by
  have hunique {price : Candle → ℚ} {beyond : ℚ → ℚ → Bool}
      (hp : p ∈ detectSwings candles lookback price beyond)
      (hq : q ∈ detectSwings candles lookback price beyond) : p = q := by
    obtain ⟨i, -, hi⟩ := List.mem_filterMap.1 (detectSwings_eq ▸ hp)
    obtain ⟨j, -, hj⟩ := List.mem_filterMap.1 (detectSwings_eq ▸ hq)
    obtain rfl : i = j := by rw [← (swingAt_confirmed hi).1, ← (swingAt_confirmed hj).1, h]
    exact Option.some.inj (hi.symm.trans hj)
  cases side with
  | bullish =>
    unfold sweptSwings swingLows at hp hq
    exact hunique hp hq
  | bearish =>
    unfold sweptSwings swingHighs at hp hq
    exact hunique hp hq

theorem sideSweep_append {atr : ℚ} {depth : ℚ → ℚ} {reclaimed : ℚ → Prop}
    [DecidablePred reclaimed] {wick : ℚ} {reason : String} {index : ℕ}
    (h : index ≤ candles.length) (hatr : calculateAtr a (candles.take index) atrPeriod = some atr) :
    Option.Rel (Keeps a candles later atrPeriod lookback provided)
      (sideSweep a candles side lookback provided atr depth reclaimed wick reason index)
      (sideSweep a (candles ++ later) side lookback provided atr depth reclaimed wick reason
        index) := by
  obtain ⟨extra, hextra, hlate⟩ := sweptSwings_append candles later lookback side
  unfold sideSweep
  dsimp only
  rw [hextra, lastConfirmedBefore_append_late hlate h]
  cases hprevious : lastConfirmedBefore (sweptSwings candles lookback side) index with
  | none => exact .none
  | some previous =>
    dsimp only
    split
    · refine .some ⟨rfl, sweepConfluence_append.trans (or_congr_right ?_)⟩
      have hmem := lastConfirmedBefore_mem hprevious
      rw [← hextra]
      constructor
      · intro hcount atr' hatr' q hq hindex
        obtain rfl := Option.some.inj (hatr.symm.trans hatr')
        obtain rfl := eq_of_mem_sweptSwings hq hmem hindex
        exact hcount
      · exact fun hsettled => hsettled atr hatr previous hmem rfl
    · exact .none

theorem rel_orElse {α β : Type*} {r : α → β → Prop} {x y : Option α} {x' y' : Option β}
    (hx : Option.Rel r x x') (hy : Option.Rel r y y') :
    Option.Rel r (x <|> y) (x' <|> y') := by
  cases hx with
  | some h => exact .some h
  | none => exact hy

/-- A candle of the series makes the same of the latest signal in both runs. -/
theorem updateSweep_append {latest latest' : Option LiquiditySweepSignal} {entry : Candle × ℕ}
    (h : entry.2 ≤ candles.length)
    (hlatest : Option.Rel (Keeps a candles later atrPeriod lookback provided) latest latest') :
    Option.Rel (Keeps a candles later atrPeriod lookback provided)
      (updateSweep a candles direction atrPeriod lookback provided latest entry)
      (updateSweep a (candles ++ later) direction atrPeriod lookback provided latest' entry) := by
  unfold updateSweep
  rw [List.take_append_of_le_length h]
  split
  · exact hlatest
  cases hatr : calculateAtr a (candles.take entry.2) atrPeriod with
  | none => exact hlatest
  | some atr =>
    dsimp only
    split
    · exact hlatest
    refine rel_orElse ?_ (rel_orElse ?_ hlatest)
    · split
      · exact .none
      · exact sideSweep_append h hatr
    · split
      · exact .none
      · exact sideSweep_append h hatr

/-- One of the later candles makes a sweep. -/
def SweepsAgain (a : Arithmetic) (candles later : List Candle) (direction : Option Direction)
    (atrPeriod lookback : ℕ) (provided : ProvidedLiquidity) : Prop :=
  ∃ entry ∈ later.zipIdx candles.length, ∃ s,
    updateSweep a (candles ++ later) direction atrPeriod lookback provided none entry = some s

/-- On an extension a sweep is kept, up to its confluence, or replaced by one on a new candle. -/
theorem detectLiquiditySweep_append (later : List Candle)
    (h : detectLiquiditySweep a candles direction atrPeriod lookback provided = some s) :
    ∃ s', detectLiquiditySweep a (candles ++ later) direction atrPeriod lookback provided =
        some s' ∧
      (¬ SweepsAgain a candles later direction atrPeriod lookback provided ∧
          Keeps a candles later atrPeriod lookback provided s s' ∨
        SweepsAgain a candles later direction atrPeriod lookback provided ∧
          candles.length ≤ s'.candleIndex) := by
  unfold detectLiquiditySweep at h ⊢
  split at h
  · cases h
  next hlength =>
  rw [if_neg (by rw [List.length_append]; omega), List.zipIdx_append, List.foldl_append, Nat.zero_add]
  -- the candles of the series, in both runs
  have hfirst : Option.Rel (Keeps a candles later atrPeriod lookback provided)
      (candles.zipIdx.foldl (updateSweep a candles direction atrPeriod lookback provided) none)
      (candles.zipIdx.foldl (updateSweep a (candles ++ later) direction atrPeriod lookback provided)
        none) := by
    refine List.foldl_rel Option.Rel.none fun entry hentry latest latest' hlatest => ?_
    have hget := List.mem_zipIdx_iff_getElem?.1 hentry
    exact updateSweep_append (List.getElem?_eq_some_iff.1 hget).1.le hlatest
  rw [h] at hfirst
  generalize candles.zipIdx.foldl
    (updateSweep a (candles ++ later) direction atrPeriod lookback provided) none = kept at hfirst
  obtain @⟨_, t, hkeeps⟩ := hfirst
  -- the new candles
  rcases foldl_updateSweep (a := a) (later.zipIdx candles.length) (some t) with
    ⟨hnone, hrun⟩ | ⟨entry, hentry, s', hs', hrun⟩
  · refine ⟨t, hrun, .inl ⟨?_, hkeeps⟩⟩
    rintro ⟨entry, hentry, s', hs'⟩
    cases (hnone entry hentry).symm.trans hs'
  · refine ⟨s', hrun, .inr ⟨⟨entry, hentry, s', hs'⟩, ?_⟩⟩
    rw [updateSweep_index hs']
    exact List.le_snd_of_mem_zipIdx hentry

/-- For every series with a sweep and every extension of it: the scan reports the same signal in all
fields or one on a later candle if and only if a new candle makes a sweep or the new candles do not
make the swept level one of equal lows or highs. -/
theorem sweep_never_repaints
    (h : detectLiquiditySweep a candles direction atrPeriod lookback provided = some s) :
    (∃ s', detectLiquiditySweep a (candles ++ later) direction atrPeriod lookback provided =
        some s' ∧ (s' = s ∨ s.candleIndex < s'.candleIndex)) ↔
      SweepsAgain a candles later direction atrPeriod lookback provided ∨
        Settled a candles later atrPeriod lookback provided s := by
  obtain ⟨s', hs', ⟨hagain, hsame, hconfluence⟩ | ⟨hagain, hnew⟩⟩ :=
    detectLiquiditySweep_append later h
  · constructor
    · rintro ⟨t, ht, hts⟩
      obtain rfl := Option.some.inj (hs'.symm.trans ht)
      refine .inr (hconfluence.1 ?_)
      rcases hts with rfl | hlater
      · rfl
      · rw [hsame] at hlater
        exact absurd hlater (lt_irrefl _)
    · rintro (hsweeps | hsettled)
      · exact absurd hsweeps hagain
      · rw [hconfluence.2 hsettled] at hsame
        exact ⟨s', hs', .inl hsame⟩
  · exact iff_of_true ⟨s', hs', .inr ((detectLiquiditySweep_mem h).trans_le hnew)⟩ (.inl hagain)

/-- With a level given below the price the retest changes nothing. -/
theorem given_level_is_kept :
    ∃ s s', detectLiquiditySweep .exact sweptSeries none 14 2 { below := some [90] } = some s ∧
      detectLiquiditySweep .exact (sweptSeries ++ retest) none 14 2 { below := some [90] } =
        some s' ∧ (s' = s ∨ s.candleIndex < s'.candleIndex) := by
  have hbullish : (detectLiquiditySweep .exact sweptSeries none 14 2 { below := some [90] }).map
      (·.direction) = some .bullish := by
    decide +kernel
  obtain ⟨s, hs, hdirection⟩ := Option.map_eq_some_iff.1 hbullish
  have hsettled : Settled .exact sweptSeries retest 14 2 { below := some [90] } s := by
    rw [Settled, hdirection]
    exact .inl rfl
  obtain ⟨s', hs'⟩ := (sweep_never_repaints hs).2 (.inr hsettled)
  exact ⟨s, s', hs, hs'⟩

/-- Without given levels the retest, five candles later, turns a sweep without confluence into a sweep
of equal lows. -/
theorem later_swing_repaints_confluence :
    (detectLiquiditySweep .exact sweptSeries none 14 2 {}).map
      (fun s => (s.candleIndex, s.confluence)) = some (17, NA) ∧
    (detectLiquiditySweep .exact (sweptSeries ++ retest) none 14 2 {}).map
      (fun s => (s.candleIndex, s.confluence)) = some (17, "Verified equal lows") := by
  decide +kernel

end Sweeps

end CandleCraft.Strategy
