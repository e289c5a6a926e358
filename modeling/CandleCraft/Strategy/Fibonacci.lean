import CandleCraft.Plan.TradePlan
import Mathlib.Data.List.MinMax
import Mathlib.Data.Prod.Lex
import Mathlib.Tactic.FieldSimp

/-!
# Fib levels, the fib gate and the pullback zone

The levels of an impulse, the gate that an entry has to pass, and the choice of an order block or a
fair value gap that overlaps the preferred retracement, over the rounding of results and of stored
prices.
-/

namespace CandleCraft.Strategy

open Plan PyDecimal

section Levels

/-- The rounding of the results of operations and that of `_quantize`, which is total here: from `1E20`
on the code raises. -/
structure Arithmetic where
  fit : ℚ → ℚ
  quantize : ℚ → ℚ

/-- No rounding. -/
def Arithmetic.exact : Arithmetic := ⟨id, id⟩

/-- The decimal context of the program, and prices with eight decimals. -/
def Arithmetic.decimal : Arithmetic := ⟨decimalContext.fit, roundTo (-8)⟩

/-- The operations without their rounding to the context; prices keep eight decimals. -/
def Arithmetic.rounded : Arithmetic := ⟨id, roundTo (-8)⟩

structure FibLevels where
  fib382 : ℚ
  fib618 : ℚ
  fib65 : ℚ
  fib750 : ℚ
  fib786 : ℚ
  min : ℚ
  max : ℚ
  max65 : ℚ
  deriving DecidableEq

variable (a : Arithmetic) (direction : TradeDirection) (sweep bos : ℚ)

def impulse : ℚ := a.fit |a.fit (bos - sweep)|

/-- The price at a retracement. -/
def levelAt (ratio : ℚ) : ℚ :=
  match direction with
  | .long => a.fit (bos - a.fit (impulse a sweep bos * ratio))
  | .short => a.fit (bos + a.fit (impulse a sweep bos * ratio))

def fibLevels : FibLevels :=
  let level := levelAt a direction sweep bos
  { fib382 := a.quantize (level (382 / 1000))
    fib618 := a.quantize (level (618 / 1000))
    fib65 := a.quantize (level (65 / 100))
    fib750 := a.quantize (level (750 / 1000))
    fib786 := a.quantize (level (786 / 1000))
    min := a.quantize (Min.min (level (382 / 1000)) (level (618 / 1000)))
    max := a.quantize (Max.max (level (382 / 1000)) (level (618 / 1000)))
    max65 := a.quantize (Max.max (level (382 / 1000)) (level (65 / 100))) }

/-- The upper end of the band, as `_select_zone` and `_fib_result_levels` choose it. -/
def FibLevels.bandMax (levels : FibLevels) (aggressiveToggle : Bool) : ℚ :=
  if aggressiveToggle then levels.max65 else levels.max

def retracement (entry : ℚ) : Except Signal ℚ :=
  let distance :=
    match direction with
    | .long => a.fit (bos - entry)
    | .short => a.fit (entry - bos)
  if impulse a sweep bos = 0 then
    .error (if distance = 0 then .divisionUndefined else .divisionByZero)
  else .ok (a.fit (distance / impulse a sweep bos))

structure FibAlignmentResult where
  isAligned : Bool := false
  retracement : Option ℚ := none
  levels : FibLevels
  fibMax : ℚ
  status : String
  aggressiveDriftUsed : Bool := false
  rejectedDeeperThan786 : Bool := false
  reason : String

/-- `max_retrace`, the largest retracement that the gate accepts. -/
def maxRetracement (aggressiveToggle : Bool) : ℚ :=
  if aggressiveToggle then 65 / 100 else 618 / 1000

def fibAlignmentForLevels (entry : Option ℚ) (aggressiveToggle : Bool) :
    Except Signal FibAlignmentResult :=
  let levels := fibLevels a direction sweep bos
  match entry with
  | none => .ok
      { levels, fibMax := levels.bandMax aggressiveToggle, status := NA,
        reason := "Fib alignment is N/A because entry data is missing." }
  | some entry => do
    let value ← retracement a direction sweep bos entry
    let aggressiveDriftUsed := decide (618 / 1000 < value ∧ value ≤ 65 / 100)
    if 382 / 1000 ≤ value ∧ value ≤ maxRetracement aggressiveToggle then
      pure
        { isAligned := true, retracement := some (a.quantize value), levels,
          fibMax := levels.bandMax aggressiveToggle,
          status := if aggressiveDriftUsed then "aligned_aggressive_0_65" else "aligned",
          aggressiveDriftUsed,
          reason :=
            if aggressiveDriftUsed then
              "Entry used aggressive drift to 0.65 with aggressive mode enabled."
            else "Entry is aligned with the preferred 0.382 to 0.618 fib zone." }
    else
      pure
        { retracement := some (a.quantize value), levels,
          fibMax := levels.bandMax aggressiveToggle, status := "failed_outside_preferred_zone",
          reason := "Entry is outside the preferred fib retracement zone." }

def passesGate (aggressiveToggle : Bool) (price : ℚ) : Prop :=
  ∃ result, fibAlignmentForLevels a direction sweep bos (some price) aggressiveToggle =
    .ok result ∧ result.isAligned = true

end Levels

section Zones

inductive ZoneType where
  | ob
  | fvg
  | obFvgOverlap
  deriving DecidableEq

/-- How far a zone was traded back into. -/
inductive Freshness where
  | fresh
  | partiallyMitigated
  | mitigated
  deriving DecidableEq

structure PullbackZone where
  zoneType : ZoneType
  direction : TradeDirection
  creationIndex : ℕ
  low : ℚ
  high : ℚ
  wickLow : Option ℚ := none
  wickHigh : Option ℚ := none
  entryLow : Option ℚ := none
  entryHigh : Option ℚ := none
  midpoint : ℚ
  fibMin : Option ℚ := none
  fibMax : Option ℚ := none
  fibAlignmentStatus : String := NA
  freshness : Freshness
  confluence : List String := []
  warnings : List String := []
  reason : String
  deriving DecidableEq

def overlap (lowA highA lowB highB : ℚ) : Option (ℚ × ℚ) :=
  let low := max (min lowA highA) (min lowB highB)
  let high := min (max lowA highA) (max lowB highB)
  if low ≤ high then some (low, high) else none

structure VolumeProfile where
  poc : Option ℚ := none
  valueAreaLow : Option ℚ := none
  valueAreaHigh : Option ℚ := none

/-- `_profile_confluence`. -/
def VolumeProfile.confluence (profile : VolumeProfile) (low high : ℚ) : List String :=
  [("POC", profile.poc), ("VAL", profile.valueAreaLow), ("VAH", profile.valueAreaHigh)].filterMap
    fun entry =>
      match entry.2 with
      | none => none
      | some value =>
        if low ≤ value ∧ value ≤ high then some (entry.1 ++ " inside pullback zone") else none

variable (a : Arithmetic)

/-- The warnings of a zone: those it is given, without repetition, and one if it is mitigated. -/
def zoneWarnings (warnings : List String) (freshness : Freshness) : List String :=
  let mitigated := "Zone was already fully mitigated before entry."
  (warnings ++ if freshness = .mitigated then [mitigated] else []).foldl
    (fun output value => if value ∈ output then output else output ++ [value]) []

/-- `_candidate_zones`: where both are present and overlap, the overlap comes first. -/
def candidateZones (ob fvg : Option PullbackZone) : List PullbackZone :=
  let both :=
    match ob, fvg with
    | some ob, some fvg =>
      match overlap ob.low ob.high fvg.low fvg.high with
      | none => []
      | some (low, high) =>
        let freshness :=
          if ob.freshness = .mitigated ∨ fvg.freshness = .mitigated then Freshness.mitigated
          else if ob.freshness = .fresh ∧ fvg.freshness = .fresh then .fresh
          else .partiallyMitigated
        [{ zoneType := .obFvgOverlap
           direction := ob.direction
           creationIndex := max ob.creationIndex fvg.creationIndex
           low := a.quantize low
           high := a.quantize high
           midpoint := a.quantize (a.fit (a.fit (low + high) / 2))
           freshness
           warnings := zoneWarnings (ob.warnings ++ fvg.warnings) freshness
           reason := "OB and FVG overlap inside the displacement pullback area." }]
    | _, _ => []
  both ++ ob.toList ++ fvg.toList

def alignZone (profile : VolumeProfile) (fibMin fibMax : ℚ) (candidate : PullbackZone) :
    Option PullbackZone :=
  if candidate.freshness = .mitigated then none
  else
    (overlap candidate.low candidate.high fibMin fibMax).map fun entry =>
      { candidate with
        entryLow := some (a.quantize entry.1)
        entryHigh := some (a.quantize entry.2)
        midpoint := a.quantize (a.fit (a.fit (entry.1 + entry.2) / 2))
        fibMin := some fibMin
        fibMax := some fibMax
        fibAlignmentStatus := "aligned"
        confluence := profile.confluence entry.1 entry.2 }

/-- The score by which the first best zone is chosen. -/
def zoneScore (zone : PullbackZone) : ℕ ×ₗ ℕ ×ₗ ℕ :=
  toLex (if zone.zoneType = .obFvgOverlap then 3 else 2,
    toLex (if zone.freshness = .fresh then 2 else 1, if zone.confluence.isEmpty then 0 else 1))

def selectZone (profile : VolumeProfile) (aggressiveToggle : Bool) (ob fvg : Option PullbackZone)
    (levels : FibLevels) : Option PullbackZone :=
  ((candidateZones a ob fvg).filterMap
    (alignZone a profile levels.min (levels.bandMax aggressiveToggle))).argmax zoneScore

end Zones

section Gate

variable {direction : TradeDirection} {sweep bos price : ℚ} {aggressiveToggle : Bool}

/-- How far a price is from the end of the impulse, in the direction of the pullback. -/
def pullback (direction : TradeDirection) (bos price : ℚ) : ℚ :=
  match direction with
  | .long => bos - price
  | .short => price - bos

theorem abs_impulse_pos (hne : sweep ≠ bos) : 0 < |bos - sweep| :=
  abs_pos.2 (sub_ne_zero.2 hne.symm)

theorem retracement_exact (hne : sweep ≠ bos) :
    retracement .exact direction sweep bos price =
      .ok (pullback direction bos price / |bos - sweep|) := by
  have himpulse : impulse .exact sweep bos ≠ 0 := (abs_impulse_pos hne).ne'
  unfold retracement
  rw [if_neg himpulse]
  cases direction <;> rfl

theorem passesGate_of_retracement {a : Arithmetic} {value : ℚ}
    (h : retracement a direction sweep bos price = .ok value) :
    passesGate a direction sweep bos aggressiveToggle price ↔
      382 / 1000 ≤ value ∧ value ≤ maxRetracement aggressiveToggle := by
  unfold passesGate fibAlignmentForLevels
  dsimp only
  rw [h, ok_bind]
  by_cases haccepted : 382 / 1000 ≤ value ∧ value ≤ maxRetracement aggressiveToggle
  · rw [if_pos haccepted]
    exact iff_of_true ⟨_, rfl, rfl⟩ haccepted
  · rw [if_neg haccepted]
    refine iff_of_false ?_ haccepted
    rintro ⟨result, hresult, haligned⟩
    cases hresult
    cases haligned

/-- The gate compares the pullback with multiples of the impulse. -/
theorem passesGate_iff (hne : sweep ≠ bos) :
    passesGate .exact direction sweep bos aggressiveToggle price ↔
      382 / 1000 * |bos - sweep| ≤ pullback direction bos price ∧
        pullback direction bos price ≤ maxRetracement aggressiveToggle * |bos - sweep| := by
  have hpos := abs_impulse_pos hne
  rw [← le_div_iff₀ hpos, ← div_le_iff₀ hpos]
  exact passesGate_of_retracement (retracement_exact hne)

theorem levelAt_exact_long (ratio : ℚ) :
    levelAt .exact .long sweep bos ratio = bos - |bos - sweep| * ratio := rfl

theorem levelAt_exact_short (ratio : ℚ) :
    levelAt .exact .short sweep bos ratio = bos + |bos - sweep| * ratio := rfl

theorem quantize_exact (x : ℚ) : Arithmetic.exact.quantize x = x := rfl

/-- The band in exact arithmetic. The order of the levels depends on the direction. -/
theorem mem_band_iff (h : direction = .short ∨ aggressiveToggle = false) :
    (fibLevels .exact direction sweep bos).min ≤ price ∧
        price ≤ (fibLevels .exact direction sweep bos).bandMax aggressiveToggle ↔
      382 / 1000 * |bos - sweep| ≤ pullback direction bos price ∧
        pullback direction bos price ≤ maxRetracement aggressiveToggle * |bos - sweep| := by
  have hsize : 0 ≤ |bos - sweep| := abs_nonneg _
  unfold fibLevels FibLevels.bandMax
  cases direction with
  | long =>
    obtain rfl : aggressiveToggle = false := h.resolve_left (by decide)
    simp only [levelAt_exact_long, quantize_exact, pullback, maxRetracement, Bool.false_eq_true,
      if_false]
    rw [min_eq_right (by linarith), max_eq_left (by linarith)]
    constructor <;> rintro ⟨hlow, hhigh⟩ <;> constructor <;> linarith
  | short =>
    simp only [levelAt_exact_short, quantize_exact, pullback, maxRetracement]
    rw [min_eq_left (by linarith), max_eq_right (by linarith), max_eq_right (by linarith)]
    cases aggressiveToggle
    all_goals
      simp only [if_true, Bool.false_eq_true, if_false]
      constructor <;> rintro ⟨hlow, hhigh⟩ <;> constructor <;> linarith

theorem not_mem_of_overlap_eq_none {lowA highA lowB highB : ℚ} (hband : lowB ≤ highB)
    (hnone : overlap lowA highA lowB highB = none) (hlow : min lowA highA ≤ price)
    (hhigh : price ≤ max lowA highA) : ¬ (lowB ≤ price ∧ price ≤ highB) := by
  rintro ⟨hlow', hhigh'⟩
  unfold overlap at hnone
  rw [min_eq_left hband, max_eq_right hband, if_pos] at hnone
  · cases hnone
  · exact (max_le hlow hlow').trans (le_min hhigh hhigh')

/-- The band with which zones are intersected is the set of prices that the gate accepts, so that
the selection fails only if the gate accepts no price in any zone that is not mitigated. -/
structure BandIsGate (direction : TradeDirection) (sweep bos : ℚ) (aggressiveToggle : Bool) :
    Prop where
  mem_iff (price : ℚ) : (fibLevels .exact direction sweep bos).min ≤ price ∧
      price ≤ (fibLevels .exact direction sweep bos).bandMax aggressiveToggle ↔
    passesGate .exact direction sweep bos aggressiveToggle price
  rejected (profile : VolumeProfile) (ob fvg : Option PullbackZone)
    (hnone : selectZone .exact profile aggressiveToggle ob fvg
      (fibLevels .exact direction sweep bos) = none) :
    ∀ zone ∈ candidateZones .exact ob fvg, zone.freshness ≠ .mitigated →
      ∀ price, min zone.low zone.high ≤ price → price ≤ max zone.low zone.high →
        ¬ passesGate .exact direction sweep bos aggressiveToggle price

theorem BandIsGate.of_mem_iff
    (hband : ∀ price, (fibLevels .exact direction sweep bos).min ≤ price ∧
        price ≤ (fibLevels .exact direction sweep bos).bandMax aggressiveToggle ↔
      passesGate .exact direction sweep bos aggressiveToggle price) :
    BandIsGate direction sweep bos aggressiveToggle := by
  refine ⟨hband, fun profile ob fvg hselect zone hzone hfresh price hlow hhigh hgate => ?_⟩
  have hnone : overlap zone.low zone.high (fibLevels .exact direction sweep bos).min
      ((fibLevels .exact direction sweep bos).bandMax aggressiveToggle) = none := by
    have haligned := List.filterMap_eq_nil_iff.1 (List.argmax_eq_none.1 hselect) zone hzone
    rw [alignZone, if_neg hfresh] at haligned
    exact Option.map_eq_none_iff.1 haligned
  have hmem := (hband price).2 hgate
  exact not_mem_of_overlap_eq_none (hmem.1.trans hmem.2) hnone hlow hhigh hmem

theorem not_passesGate_of_empty {a : Arithmetic} (h : impulse a sweep bos = 0) :
    ¬ passesGate a direction sweep bos aggressiveToggle price := by
  rintro ⟨result, hresult, -⟩
  obtain ⟨value, hvalue, -⟩ := Scan.bind_ok hresult
  unfold retracement at hvalue
  rw [if_pos h] at hvalue
  cases hvalue

/-- For every impulse, in exact arithmetic, the band is the gate exactly if the impulse is not empty
and the setup is short or not in aggressive mode. -/
theorem fib_band_is_fib_gate :
    BandIsGate direction sweep bos aggressiveToggle ↔
      sweep ≠ bos ∧ (direction = .short ∨ aggressiveToggle = false) := by
  constructor
  · intro h
    have hne : sweep ≠ bos := by
      rintro rfl
      have hempty : impulse .exact sweep sweep = 0 := by
        show |sweep - sweep| = 0
        rw [sub_self, abs_zero]
      refine not_passesGate_of_empty hempty ((h.mem_iff sweep).1 ?_)
      have hlevel : ∀ ratio, levelAt .exact direction sweep sweep ratio = sweep := by
        intro ratio
        cases direction <;> simp [levelAt_exact_long, levelAt_exact_short]
      simp [fibLevels, FibLevels.bandMax, hlevel, quantize_exact]
    refine ⟨hne, ?_⟩
    by_contra hmode
    rw [not_or, Bool.not_eq_false] at hmode
    obtain ⟨hdirection, rfl⟩ := hmode
    obtain rfl : direction = .long := by
      cases direction with
      | long => rfl
      | short => exact absurd rfl hdirection
    -- the price at 0.65 passes the gate, but lies below the level at 0.618
    have hpos := abs_impulse_pos hne
    have hgate : passesGate .exact .long sweep bos true (bos - 65 / 100 * |bos - sweep|) := by
      rw [passesGate_iff hne, pullback, maxRetracement, if_pos rfl]
      constructor <;> linarith
    have hlow := ((h.mem_iff _).2 hgate).1
    simp only [fibLevels, levelAt_exact_long, quantize_exact] at hlow
    rw [min_eq_right (by linarith)] at hlow
    linarith
  · rintro ⟨hne, hmode⟩
    exact .of_mem_iff fun price => (mem_band_iff hmode).trans (passesGate_iff hne).symm

/-- For a long setup in aggressive mode the gate accepts prices down to a retracement of 0.65, but
the band still ends at 0.618: a zone between the two is rejected as if it did not overlap. -/
theorem aggressive_long_band_is_narrower :
    passesGate .exact .long 100 200 true 137 ∧
    ¬ ((fibLevels .exact .long 100 200).min ≤ 137 ∧
      137 ≤ (fibLevels .exact .long 100 200).bandMax true) ∧
    selectZone .exact {} true
      (some { zoneType := .ob, direction := .long, creationIndex := 0, low := 136, high := 138,
              midpoint := 137, freshness := .fresh, reason := NA })
      none (fibLevels .exact .long 100 200) = none := by
  refine ⟨(passesGate_iff (by norm_num)).2 ?_, ?_, ?_⟩
  · decide +kernel
  · decide +kernel
  · decide +kernel

end Gate

end CandleCraft.Strategy
