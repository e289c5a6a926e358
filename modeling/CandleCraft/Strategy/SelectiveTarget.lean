import CandleCraft.Strategy.StructureShift
import CandleCraft.Strategy.Fibonacci

/-!
# The target of the selective strategy

`select_target` looks at every zone and every approved fib ratio, rounds the fib price to a tick, scans
the candles after the break of structure for a touch and a closed reaction, and returns the candidate
with the greatest score.
-/

namespace CandleCraft.Strategy

open Plan PyDecimal

section Reaction

/-- The statuses of `level_reaction`. -/
inductive ReclaimStatus where
  | closedReaction
  | entryZoneNotTouched
  | entryConfirmationMissing
  deriving DecidableEq

structure Reaction where
  status : ReclaimStatus
  touchIndex : Option ℕ
  confirmationIndex : Option ℕ

/-- The wick of a candle reaches a price. -/
def Candle.Touches (c : Candle) (boundary : ℚ) : Prop := c.low ≤ boundary ∧ boundary ≤ c.high

instance (c : Candle) (boundary : ℚ) : Decidable (c.Touches boundary) :=
  inferInstanceAs (Decidable (_ ∧ _))

/-- A closed body in the direction, beyond a price. -/
def Candle.Reacts (c : Candle) (direction : TradeDirection) (boundary : ℚ) : Prop :=
  match direction with
  | .long => boundary < c.close ∧ c.openPrice < c.close
  | .short => c.close < boundary ∧ c.close < c.openPrice

instance (c : Candle) (direction : TradeDirection) (boundary : ℚ) :
    Decidable (c.Reacts direction boundary) :=
  match direction with
  | .long => inferInstanceAs (Decidable (_ ∧ _))
  | .short => inferInstanceAs (Decidable (_ ∧ _))

/-- The loop of `level_reaction`, with the touch found so far. -/
def reactionFrom (direction : TradeDirection) (boundary : ℚ) :
    Option ℕ → List (Candle × ℕ) → Reaction
  | none, [] => ⟨.entryZoneNotTouched, none, none⟩
  | some touch, [] => ⟨.entryConfirmationMissing, some touch, none⟩
  | none, (candle, index) :: rest =>
    if candle.Touches boundary then
      if candle.Reacts direction boundary then ⟨.closedReaction, some index, some index⟩
      else reactionFrom direction boundary (some index) rest
    else reactionFrom direction boundary none rest
  | some touch, (candle, index) :: rest =>
    if candle.Reacts direction boundary then ⟨.closedReaction, some touch, some index⟩
    else reactionFrom direction boundary (some touch) rest

def levelReaction (candles : List Candle) (direction : TradeDirection) (boundary : ℚ)
    (bosIndex : ℕ) : Reaction :=
  reactionFrom direction boundary none (candles.zipIdx.drop (bosIndex + 1))

end Reaction

section Selection

def allowedTargets : List ℚ := [618 / 1000, 750 / 1000, 786 / 1000]

def maxImpulseTolerance : ℚ := 1 / 10000

structure TargetZone extends PullbackZone where
  isPresent : Bool

inductive TargetRejection where
  | instrumentPrecisionUnverified
  | noApprovedTargetIntersection
  | precisionExceedsPolicyTolerance
  | precisionExceedsTradePlanContract
  | zoneMitigated
  | structureUnconfirmed
  | canonicalConfirmationMissing
  | deepZoneNotFresh
  | unreclaimed (status : ReclaimStatus)
  deriving DecidableEq

/-- The arguments of `select_target`. Whether a price is written with more than eight decimals
depends on how the tick size is written, and is left open. -/
structure TargetRequest where
  direction : TradeDirection
  start : ℚ
  finish : ℚ
  zones : List TargetZone
  tickSize : Option ℚ
  precisionSource : String
  candles : List Candle
  bosIndex : ℕ
  structureConfirmed : Bool
  canonicalConfirmation : Bool
  freshnessBefore : Option (TargetZone → ℕ → Freshness)
  exceedsContract : ℚ → Bool

structure SelectiveFibEvidence where
  selectedRatio : ℚ
  calculatedPrice : ℚ
  executionPrice : ℚ
  originalZoneLow : ℚ
  originalZoneHigh : ℚ
  zoneType : ZoneType
  freshnessBeforeTouch : Freshness
  freshnessAtDecision : Freshness
  priceTolerance : ℚ
  reclaimStatus : ReclaimStatus
  touchIndex : Option ℕ
  confirmationIndex : Option ℕ
  rejectionReasons : List TargetRejection

def SelectiveFibEvidence.executionEligible (e : SelectiveFibEvidence) : Bool :=
  e.rejectionReasons.isEmpty

/-- What ranks the candidates: eligibility, the overlap of an order block and a gap, freshness, and
the shallower ratio. -/
def SelectiveFibEvidence.score (e : SelectiveFibEvidence) : Bool ×ₗ Bool ×ₗ Bool ×ₗ ℚ :=
  toLex (e.executionEligible, toLex (decide (e.zoneType = .obFvgOverlap),
    toLex (decide (e.freshnessBeforeTouch = .fresh), -e.selectedRatio)))

/-- What `select_target` returns: the index of the zone with the evidence, or a reason. -/
inductive TargetSelection where
  | rejected (reason : TargetRejection)
  | selected (index : ℕ) (evidence : SelectiveFibEvidence) (evaluated : List SelectiveFibEvidence)

variable (a : Arithmetic) (r : TargetRequest)

/-- The checks of `target_price`, which raise an error. -/
def TargetRequest.impulseError : Option String :=
  if ¬ (0 < r.start ∧ 0 < r.finish) then some "invalid_impulse"
  else
    match r.direction with
    | .long => if r.finish ≤ r.start then some "invalid_impulse_direction" else none
    | .short => if r.start ≤ r.finish then some "invalid_impulse_direction" else none

def targetPrice (ratio : ℚ) : ℚ :=
  a.fit (r.finish - a.fit (a.fit (r.finish - r.start) * ratio))

/-- The tick next to a price, an even multiple if two are. -/
def tickPrice (tickSize raw : ℚ) : ℚ := a.fit (roundHalfEven (a.fit (raw / tickSize)) * tickSize)

def targetTolerance (tickSize : ℚ) : ℚ :=
  min (a.fit (tickSize / 2)) (a.fit (a.fit |a.fit (r.finish - r.start)| * maxImpulseTolerance))

def TargetZone.usable (zone : TargetZone) (direction : TradeDirection) : Bool :=
  zone.isPresent && decide (zone.direction = direction)

def evaluateTarget (tickSize : ℚ) (zone : TargetZone) (ratio : ℚ) : Option SelectiveFibEvidence :=
  let raw := targetPrice a r ratio
  let price := tickPrice a tickSize raw
  if zone.low ≤ raw ∧ raw ≤ zone.high ∧ zone.low ≤ price ∧ price ≤ zone.high then
    let reaction := levelReaction r.candles r.direction price r.bosIndex
    let freshness :=
      match r.freshnessBefore with
      | none => zone.freshness
      | some freshnessBefore => freshnessBefore zone (reaction.touchIndex.getD r.candles.length)
    let tolerance := targetTolerance a r tickSize
    let reasons :=
      [(decide (tolerance < a.fit |a.fit (price - raw)|), .precisionExceedsPolicyTolerance),
        (r.exceedsContract price, .precisionExceedsTradePlanContract),
        (decide (freshness = .mitigated), .zoneMitigated),
        (!r.structureConfirmed, .structureUnconfirmed),
        (!r.canonicalConfirmation, .canonicalConfirmationMissing),
        (decide (750 / 1000 ≤ ratio ∧ freshness ≠ .fresh), .deepZoneNotFresh),
        (decide (reaction.status ≠ .closedReaction), .unreclaimed reaction.status)].filterMap
        fun (check : Bool × TargetRejection) => if check.1 then some check.2 else none
    some
      { selectedRatio := ratio
        calculatedPrice := raw
        executionPrice := price
        originalZoneLow := zone.low
        originalZoneHigh := zone.high
        zoneType := zone.zoneType
        freshnessBeforeTouch := freshness
        freshnessAtDecision := zone.freshness
        priceTolerance := tolerance
        reclaimStatus := reaction.status
        touchIndex := reaction.touchIndex
        confirmationIndex := reaction.confirmationIndex
        rejectionReasons := reasons }
  else none

/-- The candidates in the order of the zones and the ratios. -/
def evaluatedTargets (tickSize : ℚ) : List (ℕ × SelectiveFibEvidence) :=
  r.zones.zipIdx.flatMap fun entry =>
    if entry.1.usable r.direction then
      (allowedTargets.filterMap (evaluateTarget a r tickSize entry.1)).map fun e => (entry.2, e)
    else []

def selectTarget : Except String TargetSelection :=
  match r.tickSize with
  | none => .ok (.rejected .instrumentPrecisionUnverified)
  | some tickSize =>
    if tickSize ≤ 0 ∨ r.precisionSource = NA then .ok (.rejected .instrumentPrecisionUnverified)
    else
      -- the price of the first zone that is looked at is the first one to be checked
      match (r.zones.find? (·.usable r.direction)).bind fun _ => r.impulseError with
      | some error => .error error
      | none =>
        let evaluated := evaluatedTargets a r tickSize
        match evaluated.argmax (·.2.score) with
        | none => .ok (.rejected .noApprovedTargetIntersection)
        | some (index, evidence) => .ok (.selected index evidence (evaluated.map (·.2)))

end Selection

section Results

/-- A closed reaction comes with the candle that touched the price, and a later or the same one that
closed beyond it. -/
theorem reactionFrom_closed {direction : TradeDirection} {boundary : ℚ}
    {entries : List (Candle × ℕ)} (hordered : entries.Pairwise fun e f => e.2 < f.2)
    {touch : Option ℕ} (htouch : ∀ t ∈ touch, ∀ e ∈ entries, t < e.2)
    (h : (reactionFrom direction boundary touch entries).status = .closedReaction) :
    ∃ t c confirmed, (reactionFrom direction boundary touch entries).touchIndex = some t ∧
      (reactionFrom direction boundary touch entries).confirmationIndex = some c ∧ t ≤ c ∧
      (confirmed, c) ∈ entries ∧ confirmed.Reacts direction boundary ∧
      (touch = some t ∨ ∃ touched, (touched, t) ∈ entries ∧ touched.Touches boundary) := by
  induction entries generalizing touch with
  | nil => cases touch <;> cases h
  | cons entry rest ih =>
    obtain ⟨candle, index⟩ := entry
    obtain ⟨hhead, hrest⟩ := List.pairwise_cons.1 hordered
    -- the rest of the scan, with a touch at or before this candle
    have htail {touch' : Option ℕ} (htouch' : ∀ t ∈ touch', t ≤ index)
        (hfound : ∀ t ∈ touch', touch = some t ∨ t = index ∧ candle.Touches boundary)
        (hclosed : (reactionFrom direction boundary touch' rest).status = .closedReaction) :
        ∃ t c confirmed, (reactionFrom direction boundary touch' rest).touchIndex = some t ∧
          (reactionFrom direction boundary touch' rest).confirmationIndex = some c ∧ t ≤ c ∧
          (confirmed, c) ∈ (candle, index) :: rest ∧ confirmed.Reacts direction boundary ∧
          (touch = some t ∨
            ∃ touched, (touched, t) ∈ (candle, index) :: rest ∧ touched.Touches boundary) := by
      obtain ⟨t, c, confirmed, ht, hc, hle, hmem, hreacts, htouched⟩ := ih hrest
        (fun t ht e he => (htouch' t ht).trans_lt (hhead e he)) hclosed
      refine ⟨t, c, confirmed, ht, hc, hle, List.mem_cons_of_mem _ hmem, hreacts, ?_⟩
      rcases htouched with rfl | ⟨touched, hmember, hreach⟩
      · rcases hfound t rfl with htouch | ⟨rfl, hreach⟩
        · exact .inl htouch
        · exact .inr ⟨candle, List.mem_cons_self, hreach⟩
      · exact .inr ⟨touched, List.mem_cons_of_mem _ hmember, hreach⟩
    cases touch with
    | none =>
      unfold reactionFrom at h ⊢
      by_cases hreach : candle.Touches boundary
      · rw [if_pos hreach] at h ⊢
        by_cases hreacts : candle.Reacts direction boundary
        · rw [if_pos hreacts]
          exact ⟨index, index, candle, rfl, rfl, le_rfl, List.mem_cons_self, hreacts,
            .inr ⟨candle, List.mem_cons_self, hreach⟩⟩
        · rw [if_neg hreacts] at h ⊢
          refine htail (fun t ht => ?_) (fun t ht => ?_) h
          · cases ht
            exact le_rfl
          · cases ht
            exact .inr ⟨rfl, hreach⟩
      · rw [if_neg hreach] at h ⊢
        exact htail (by simp) (by simp) h
    | some touch =>
      have hbefore := htouch touch rfl (candle, index) List.mem_cons_self
      unfold reactionFrom at h ⊢
      by_cases hreacts : candle.Reacts direction boundary
      · rw [if_pos hreacts]
        exact ⟨touch, index, candle, rfl, rfl, hbefore.le, List.mem_cons_self, hreacts, .inl rfl⟩
      · rw [if_neg hreacts] at h ⊢
        refine htail (fun t ht => ?_) (fun t ht => ?_) h
        · cases ht
          exact hbefore.le
        · exact .inl ht

theorem zipIdx_ordered (candles : List Candle) : candles.zipIdx.Pairwise fun e f => e.2 < f.2 := by
  rw [List.pairwise_iff_getElem]
  intro i j hi hj hij
  simpa only [List.getElem_zipIdx, Nat.zero_add] using hij

theorem levelReaction_closed {candles : List Candle} {direction : TradeDirection} {boundary : ℚ}
    {bosIndex : ℕ}
    (h : (levelReaction candles direction boundary bosIndex).status = .closedReaction) :
    ∃ t c touched confirmed,
      (levelReaction candles direction boundary bosIndex).touchIndex = some t ∧
      (levelReaction candles direction boundary bosIndex).confirmationIndex = some c ∧
      bosIndex < t ∧ t ≤ c ∧ candles[t]? = some touched ∧ touched.Touches boundary ∧
      candles[c]? = some confirmed ∧ confirmed.Reacts direction boundary := by
  obtain ⟨t, c, confirmed, ht, hc, hle, hmem, hreacts, htouched⟩ := reactionFrom_closed
    ((zipIdx_ordered candles).sublist (List.drop_sublist _ _)) (by simp) h
  obtain ⟨touched, hmember, hreach⟩ := htouched.resolve_left (by simp)
  refine ⟨t, c, touched, confirmed, ht, hc, ?_, hle,
    List.mem_zipIdx_iff_getElem?.1 (List.mem_of_mem_drop hmember), hreach,
    List.mem_zipIdx_iff_getElem?.1 (List.mem_of_mem_drop hmem), hreacts⟩
  obtain ⟨j, hj, hget⟩ := List.mem_drop_iff_getElem.1 hmember
  rw [List.getElem_zipIdx] at hget
  have hindex := (Prod.mk.inj hget).2
  omega

structure EligibleTarget (r : TargetRequest) (e : SelectiveFibEvidence) : Prop where
  inZone : e.originalZoneLow ≤ e.executionPrice ∧ e.executionPrice ≤ e.originalZoneHigh
  reaction : ∃ t c touched confirmed, e.touchIndex = some t ∧ e.confirmationIndex = some c ∧
    r.bosIndex < t ∧ t ≤ c ∧ r.candles[t]? = some touched ∧ touched.Touches e.executionPrice ∧
    r.candles[c]? = some confirmed ∧ confirmed.Reacts r.direction e.executionPrice

/-- The operations that give the price and its tolerance are not rounded. The number of ticks may
come from a rounded quotient. -/
def Unrounded (a : Arithmetic) (r : TargetRequest) (tickSize : ℚ) (e : SelectiveFibEvidence) : Prop :=
  let size := r.finish - r.start
  ∀ x ∈ [size, size * e.selectedRatio, r.finish - size * e.selectedRatio, |size|,
    |size| * maxImpulseTolerance, tickSize / 2,
    roundHalfEven (a.fit (e.calculatedPrice / tickSize)) * tickSize,
    e.executionPrice - e.calculatedPrice, |e.executionPrice - e.calculatedPrice|], a.fit x = x

structure PreciseTarget (r : TargetRequest) (tickSize : ℚ) (e : SelectiveFibEvidence) : Prop where
  tick : ∃ n : ℤ, e.executionPrice = n * tickSize
  halfTick : |e.executionPrice - (r.finish - (r.finish - r.start) * e.selectedRatio)| ≤ tickSize / 2
  basisPoint : |e.executionPrice - (r.finish - (r.finish - r.start) * e.selectedRatio)| ≤
    |r.finish - r.start| * maxImpulseTolerance

variable {a : Arithmetic} {r : TargetRequest} {tickSize ratio : ℚ} {zone : TargetZone}
  {e : SelectiveFibEvidence}

theorem evaluateTarget_zone (h : evaluateTarget a r tickSize zone ratio = some e) :
    e.originalZoneLow = zone.low ∧ e.originalZoneHigh = zone.high := by
  unfold evaluateTarget at h
  dsimp only at h
  split at h
  · cases h
    exact ⟨rfl, rfl⟩
  · cases h

theorem evaluateTarget_eligible (h : evaluateTarget a r tickSize zone ratio = some e)
    (heligible : e.executionEligible = true) :
    EligibleTarget r e ∧ (Unrounded a r tickSize e → PreciseTarget r tickSize e) := by
  unfold evaluateTarget at h
  dsimp only at h
  split at h
  · next hzone =>
    cases h
    -- no check has added a reason
    have hchecks := List.filterMap_eq_nil_iff.1 (List.isEmpty_iff.1 heligible)
    simp only [List.forall_mem_cons, List.not_mem_nil, false_implies, implies_true, and_true,
      ite_eq_right_iff, reduceCtorEq, imp_false, Bool.not_eq_true, decide_eq_false_iff_not,
      not_lt, not_not] at hchecks
    obtain ⟨htolerance, -, -, -, -, -, hreaction⟩ := hchecks
    refine ⟨⟨hzone.2.2, levelReaction_closed hreaction⟩, fun hfit => ?_⟩
    simp only [Unrounded, List.forall_mem_cons, List.not_mem_nil, false_implies, implies_true,
      and_true] at hfit
    obtain ⟨hsize, hpart, hraw, habs, hpoint, htick, hproduct, hdistance, hdistance'⟩ := hfit
    have hcalculated : targetPrice a r ratio = r.finish - (r.finish - r.start) * ratio := by
      rw [targetPrice, hsize, hpart, hraw]
    rw [hdistance, hdistance', targetTolerance, htick, hsize, habs, hpoint] at htolerance
    have hbound : |tickPrice a tickSize (targetPrice a r ratio) -
        (r.finish - (r.finish - r.start) * ratio)| ≤
          min (tickSize / 2) (|r.finish - r.start| * maxImpulseTolerance) := by
      rw [← hcalculated]
      exact htolerance
    exact ⟨⟨_, hproduct⟩, hbound.trans (min_le_left _ _), hbound.trans (min_le_right _ _)⟩
  · cases h

theorem score_lt_of_eligible {e c : SelectiveFibEvidence} (he : e.executionEligible = false)
    (hc : c.executionEligible = true) : e.score < c.score := by
  unfold SelectiveFibEvidence.score
  rw [Prod.Lex.toLex_lt_toLex, he, hc]
  exact .inl Bool.false_lt_true

/-- With every rounding of the operations, for every impulse, zones, tick size and candles: the
evidence that is returned is for a zone of the request, and if it is eligible, its price is in the
zone, touched after the break of structure and confirmed by a closed reaction. The price is a multiple
of the tick, at most half a tick and one basis point of the impulse away from the fib price, if it
was computed without rounding. No candidate is better, and if any is eligible, the returned one is. -/
theorem selected_target_is_best {index : ℕ} {evaluated : List SelectiveFibEvidence}
    (h : selectTarget a r = .ok (.selected index e evaluated)) :
    ∃ tickSize, r.tickSize = some tickSize ∧
      (∃ zone, r.zones[index]? = some zone ∧ e.originalZoneLow = zone.low ∧
        e.originalZoneHigh = zone.high) ∧
      (e.executionEligible = true →
        EligibleTarget r e ∧ (Unrounded a r tickSize e → PreciseTarget r tickSize e)) ∧
      (∀ zone ∈ r.zones, zone.usable r.direction = true → ∀ ratio ∈ allowedTargets, ∀ c,
        evaluateTarget a r tickSize zone ratio = some c → c ∈ evaluated) ∧
      (∀ c ∈ evaluated, ¬ e.score < c.score) ∧
      ((∃ c ∈ evaluated, c.executionEligible = true) → e.executionEligible = true) := by
  unfold selectTarget at h
  split at h
  · cases h
  next tickSize htick =>
  split at h
  · cases h
  split at h
  · cases h
  dsimp only at h
  split at h
  · cases h
  next index' evidence hbest =>
  cases h
  -- past the guards, the evidence is the first maximum of the scores
  have hmaximal : ∀ c ∈ (evaluatedTargets a r tickSize).map (·.2), ¬ e.score < c.score := by
    intro c hc
    obtain ⟨candidate, hcandidate, rfl⟩ := List.mem_map.1 hc
    exact List.not_lt_of_mem_argmax (f := fun x : ℕ × SelectiveFibEvidence => x.2.score) hcandidate
      hbest
  obtain ⟨⟨zone, position⟩, hzone, hmem⟩ := List.mem_flatMap.1 (List.argmax_mem hbest)
  split at hmem
  swap
  · cases hmem
  obtain ⟨e', he', hpair⟩ := List.mem_map.1 hmem
  cases hpair
  obtain ⟨ratio, -, hevaluate⟩ := List.mem_filterMap.1 he'
  refine ⟨tickSize, htick, ⟨zone, List.mem_zipIdx_iff_getElem?.1 hzone,
    evaluateTarget_zone hevaluate⟩, evaluateTarget_eligible hevaluate,
    fun zone' hzone' husable ratio' hratio' c hc => ?_, hmaximal, ?_⟩
  · obtain ⟨i, hi⟩ := List.getElem?_of_mem hzone'
    refine List.mem_map.2 ⟨(i, c), List.mem_flatMap.2
      ⟨(zone', i), List.mem_zipIdx_iff_getElem?.2 hi, ?_⟩, rfl⟩
    rw [if_pos husable]
    exact List.mem_map.2 ⟨c, List.mem_filterMap.2 ⟨ratio', hratio', hc⟩, rfl⟩
  · rintro ⟨c, hc, heligible⟩
    by_contra hnot
    exact hmaximal c hc (score_lt_of_eligible (Bool.eq_false_iff.2 hnot) heligible)

end Results

section Samples

theorem reclaiming_prices : (0 : ℚ) < 3341 ∧ max (3342 : ℚ) 3400 ≤ 3400 ∧
    (3341 : ℚ) ≤ min 3342 3400 := by
  norm_num

/-- A candle that touches 3342 and closes above it. -/
def reclaiming : Candle :=
  ⟨none, 3342, 3400, 3341, 3400, reclaiming_prices.1, reclaiming_prices.2.1, reclaiming_prices.2.2⟩

def sampleBlock (low high : ℚ) : PullbackZone :=
  { zoneType := .ob, direction := .long, creationIndex := 0, low, high,
    midpoint := (low + high) / 2, freshness := .fresh, reason := NA }

/-- A long impulse up to 8750 with one zone around its 0.618 level and a tick of one. -/
def sampleTarget (start : ℚ) : TargetRequest where
  direction := .long
  start
  finish := 8750
  zones := [⟨sampleBlock 3000 4000, true⟩]
  tickSize := some 1
  precisionSource := "exchange"
  candles := [reclaiming, reclaiming, reclaiming]
  bosIndex := 1
  structureConfirmed := true
  canonicalConfirmation := true
  freshnessBefore := none
  exceedsContract := fun _ => false

def TargetSelection.summary : TargetSelection → Option (ℕ × ℚ × ℚ × Bool)
  | .rejected _ => none
  | .selected index e _ => some (index, e.selectedRatio, e.executionPrice, e.executionEligible)

theorem sample_target_is_best :
    ∃ e evaluated, selectTarget .decimal (sampleTarget 1) = .ok (.selected 0 e evaluated) ∧
      e.executionPrice = 3343 ∧ ∀ c ∈ evaluated, ¬ e.score < c.score := by
  have hsummary : (selectTarget .decimal (sampleTarget 1)).map TargetSelection.summary =
      .ok (some (0, 618 / 1000, 3343, true)) := by
    decide +kernel
  obtain ⟨selection, hselect, hsummary⟩ := Scan.map_ok hsummary
  cases selection with
  | rejected reason => cases hsummary
  | selected index e evaluated =>
    obtain ⟨hindex, hrest⟩ := Prod.mk.inj (Option.some.inj hsummary)
    obtain rfl : index = 0 := hindex
    obtain ⟨-, -, -, -, -, hbest, -⟩ := selected_target_is_best hselect
    exact ⟨e, evaluated, hselect, (Prod.mk.inj (Prod.mk.inj hrest).2).1, hbest⟩

/-- An impulse from `1E-30`: the subtraction rounds it away, so that the fib price is taken for
3342.5, of which 3342 is the tick. The exact fib price is more than half a tick away. -/
theorem rounded_target_exceeds_half_tick :
    (selectTarget .decimal (sampleTarget (1 / 10 ^ 30))).map TargetSelection.summary =
      .ok (some (0, 618 / 1000, 3342, true)) ∧
    1 / 2 < |(3342 : ℚ) - (8750 - (8750 - 1 / 10 ^ 30) * (618 / 1000))| := by
  decide +kernel

end Samples

end CandleCraft.Strategy
