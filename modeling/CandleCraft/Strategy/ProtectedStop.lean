import CandleCraft.Plan.TradePlan
import Mathlib.Algebra.Order.Floor.Ring
import Mathlib.Algebra.Order.Group.MinMax
import Mathlib.Data.Rat.Floor
import Mathlib.Tactic.Linarith

/-!
# The protected stop

The stop of a selective plan lies beyond the structural invalidation and beyond the liquidity within
one ATR of it, by a buffer, on the next tick. The two directions are read on one axis, on which the
stop is below the entry: the prices themselves for a long setup, their negatives for a short one.
-/

namespace CandleCraft.Strategy

open Plan

section Stop

inductive LiquiditySide where
  | below
  | above
  deriving DecidableEq

structure LiquidityLevel where
  price : ℚ
  side : LiquiditySide
  deriving DecidableEq

/-- The arguments of `protected_stop`. -/
structure StopRequest where
  direction : TradeDirection
  entry : ℚ
  invalidation : ℚ
  atr : ℚ
  tickSize : ℚ
  spread : Option ℚ
  levels : List LiquidityLevel

structure ProtectedStop where
  price : ℚ
  structuralInvalidation : ℚ
  liquidityBoundary : ℚ
  buffer : ℚ
  includedLevels : List LiquidityLevel
  distantLevelsIgnored : ℕ
  deriving DecidableEq

def stopSide : TradeDirection → LiquiditySide
  | .long => .below
  | .short => .above

namespace StopRequest

variable (r : StopRequest)

def buffer : ℚ := max (max r.tickSize (r.atr * (10 / 100))) (r.spread.getD 0)

def adverse : List LiquidityLevel :=
  r.levels.filter fun level => decide (level.side = stopSide r.direction) &&
    match r.direction with
    | .long => decide (level.price ≤ r.invalidation)
    | .short => decide (r.invalidation ≤ level.price)

def included : List LiquidityLevel :=
  r.adverse.filter fun level => |level.price - r.invalidation| ≤ r.atr

def boundary : ℚ :=
  match r.direction with
  | .long => r.included.foldl (fun best level => min best level.price) r.invalidation
  | .short => r.included.foldl (fun best level => max best level.price) r.invalidation

def price : ℚ :=
  match r.direction with
  | .long => ⌊(r.boundary - r.buffer) / r.tickSize⌋ * r.tickSize
  | .short => ⌈(r.boundary + r.buffer) / r.tickSize⌉ * r.tickSize

def Unjustified : Prop :=
  r.price ≤ 0 ∨
    match r.direction with
    | .long => r.entry ≤ r.price
    | .short => r.price ≤ r.entry

instance : Decidable r.Unjustified := by
  unfold Unjustified
  cases r.direction <;> exact inferInstance

end StopRequest

def protectedStop (r : StopRequest) : Except String ProtectedStop :=
  if ¬ (0 < r.entry ∧ 0 < r.invalidation ∧ 0 < r.atr ∧ 0 < r.tickSize) then
    .error "unjustified_structural_stop"
  else if r.spread.any (· < 0) then .error "unverified_spread"
  else if r.Unjustified then .error "unjustified_structural_stop"
  else .ok ⟨r.price, r.invalidation, r.boundary, r.buffer, r.included,
    r.adverse.length - r.included.length⟩

end Stop

section Axis

/-- A price on the axis of a direction. -/
def along : TradeDirection → ℚ → ℚ
  | .long, p => p
  | .short, p => -p

variable {d : TradeDirection} {p q : ℚ}

theorem along_sub_along (d : TradeDirection) (p q : ℚ) : |along d p - along d q| = |p - q| := by
  cases d
  · rfl
  · rw [← abs_neg]
    congr 1
    simp only [along]
    ring

theorem foldl_min_spec {α : Type*} (f : α → ℚ) (l : List α) (b : ℚ) :
    l.foldl (fun best a => min best (f a)) b ≤ b ∧
      (∀ a ∈ l, l.foldl (fun best a => min best (f a)) b ≤ f a) ∧
      (l.foldl (fun best a => min best (f a)) b = b ∨
        ∃ a ∈ l, l.foldl (fun best a => min best (f a)) b = f a) := by
  induction l generalizing b with
  | nil => exact ⟨le_rfl, by simp, .inl rfl⟩
  | cons a l ih =>
    obtain ⟨hle, hall, hmem⟩ := ih (min b (f a))
    refine ⟨hle.trans (min_le_left _ _), fun x hx => ?_, ?_⟩
    · rcases List.mem_cons.1 hx with rfl | hx
      · exact hle.trans (min_le_right _ _)
      · exact hall x hx
    · rcases hmem with hmem | ⟨x, hx, hmem⟩
      · rcases min_choice b (f a) with hb | ha
        · exact .inl (hmem.trans hb)
        · exact .inr ⟨a, List.mem_cons_self, hmem.trans ha⟩
      · exact .inr ⟨x, List.mem_cons_of_mem a hx, hmem⟩

variable (r : StopRequest)

theorem along_boundary : along r.direction r.boundary =
    r.included.foldl (fun best level => min best (along r.direction level.price))
      (along r.direction r.invalidation) := by
  unfold StopRequest.boundary
  cases r.direction with
  | long => rfl
  | short =>
    simp only [along]
    generalize r.invalidation = b
    induction r.included generalizing b with
    | nil => rfl
    | cons level rest ih => rw [List.foldl_cons, List.foldl_cons, ih, min_neg_neg]

theorem mem_adverse {level : LiquidityLevel} : level ∈ r.adverse ↔ level ∈ r.levels ∧
    level.side = stopSide r.direction ∧
      along r.direction level.price ≤ along r.direction r.invalidation := by
  unfold StopRequest.adverse
  cases r.direction with
  | long => simp [along]
  | short => simp [along]

theorem mem_included {level : LiquidityLevel} : level ∈ r.included ↔ level ∈ r.levels ∧
    level.side = stopSide r.direction ∧
      along r.direction level.price ≤ along r.direction r.invalidation ∧
      |level.price - r.invalidation| ≤ r.atr := by
  simp only [StopRequest.included, List.mem_filter, mem_adverse, decide_eq_true_eq, and_assoc]

theorem along_price : along r.direction r.price =
    ⌊(along r.direction r.boundary - r.buffer) / r.tickSize⌋ * r.tickSize := by
  unfold StopRequest.price
  cases r.direction with
  | long => rfl
  | short =>
    have hneg : (-r.boundary - r.buffer) / r.tickSize = -((r.boundary + r.buffer) / r.tickSize) := by
      ring
    simp only [along]
    rw [hneg, Int.floor_neg, Int.cast_neg, neg_mul]

theorem unjustified_iff : r.Unjustified ↔
    r.price ≤ 0 ∨ along r.direction r.entry ≤ along r.direction r.price := by
  unfold StopRequest.Unjustified
  cases r.direction with
  | long => exact Iff.rfl
  | short => exact or_congr Iff.rfl neg_le_neg_iff.symm

end Axis

section Placement

variable {r : StopRequest} {stop : ProtectedStop}

structure Accepted (r : StopRequest) (stop : ProtectedStop) : Prop where
  entry : 0 < r.entry
  invalidation : 0 < r.invalidation
  atr : 0 < r.atr
  tickSize : 0 < r.tickSize
  spread : r.spread.any (· < 0) = false
  justified : ¬ r.Unjustified
  eq : stop = ⟨r.price, r.invalidation, r.boundary, r.buffer, r.included,
    r.adverse.length - r.included.length⟩

theorem protectedStop_eq_ok : protectedStop r = .ok stop ↔ Accepted r stop := by
  unfold protectedStop
  constructor
  · intro h
    split at h
    · cases h
    next hpos =>
    split at h
    · cases h
    next hspread =>
    split at h
    · cases h
    next hjustified =>
    obtain ⟨hentry, hinvalidation, hatr, htick⟩ := not_not.1 hpos
    exact ⟨hentry, hinvalidation, hatr, htick, by simpa using hspread, hjustified,
      (Except.ok.inj h).symm⟩
  · intro h
    rw [if_neg (not_not.2 ⟨h.entry, h.invalidation, h.atr, h.tickSize⟩),
      if_neg (by rw [h.spread]; exact Bool.false_ne_true), if_neg h.justified, h.eq]

theorem price_bounds (h : 0 < r.tickSize) :
    along r.direction r.price ≤ along r.direction r.boundary - r.buffer ∧
      along r.direction r.boundary - r.buffer - r.tickSize < along r.direction r.price := by
  rw [along_price]
  have hle := Int.floor_le ((along r.direction r.boundary - r.buffer) / r.tickSize)
  have hlt := Int.lt_floor_add_one ((along r.direction r.boundary - r.buffer) / r.tickSize)
  rw [le_div_iff₀ h] at hle
  rw [div_lt_iff₀ h, add_mul, one_mul] at hlt
  exact ⟨hle, by linarith⟩

/-- The boundary is the invalidation or the farthest of the levels within one ATR of it. -/
theorem boundary_spec (h : 0 < r.atr) :
    (∀ level ∈ r.levels, level.side = stopSide r.direction →
      |level.price - r.invalidation| ≤ r.atr →
        along r.direction r.boundary ≤ along r.direction level.price) ∧
    along r.direction r.boundary ≤ along r.direction r.invalidation ∧
    along r.direction r.invalidation - along r.direction r.boundary ≤ r.atr ∧
    (r.boundary = r.invalidation ∨ ∃ level ∈ r.levels, level.side = stopSide r.direction ∧
      |level.price - r.invalidation| ≤ r.atr ∧ r.boundary = level.price) := by
  obtain ⟨hle, hall, hmem⟩ := foldl_min_spec (fun level : LiquidityLevel =>
    along r.direction level.price) r.included (along r.direction r.invalidation)
  rw [← along_boundary] at hle hall hmem
  have hinjective {p q : ℚ} (h : along r.direction p = along r.direction q) : p = q := by
    generalize r.direction = d at h
    cases d with
    | long => exact h
    | short => exact neg_injective h
  refine ⟨fun level hlevel hside hnear => ?_, hle, ?_, ?_⟩
  · by_cases hadverse : along r.direction level.price ≤ along r.direction r.invalidation
    · exact hall level ((mem_included r).2 ⟨hlevel, hside, hadverse, hnear⟩)
    · exact hle.trans (not_le.1 hadverse).le
  · rcases hmem with hmem | ⟨level, hlevel, hmem⟩
    · rw [hmem, sub_self]
      exact h.le
    · have hnear := ((mem_included r).1 hlevel).2.2.2
      rw [← along_sub_along r.direction, abs_sub_comm] at hnear
      rw [hmem]
      exact (le_abs_self _).trans hnear
  · rcases hmem with hmem | ⟨level, hlevel, hmem⟩
    · exact .inl (hinjective hmem)
    · obtain ⟨hmember, hside, -, hnear⟩ := (mem_included r).1 hlevel
      exact .inr ⟨level, hmember, hside, hnear, hinjective hmem⟩

end Placement

section Mirror

def oppositeSide : LiquiditySide → LiquiditySide
  | .below => .above
  | .above => .below

def oppositeTrade : TradeDirection → TradeDirection
  | .long => .short
  | .short => .long

def LiquidityLevel.mirror (K : ℚ) (level : LiquidityLevel) : LiquidityLevel :=
  ⟨K - level.price, oppositeSide level.side⟩

/-- The request with every price `p` replaced by `K - p`. -/
def StopRequest.mirror (K : ℚ) (r : StopRequest) : StopRequest :=
  { r with
    direction := oppositeTrade r.direction
    entry := K - r.entry
    invalidation := K - r.invalidation
    levels := r.levels.map (·.mirror K) }

def ProtectedStop.mirror (K : ℚ) (stop : ProtectedStop) : ProtectedStop :=
  { stop with
    price := K - stop.price
    structuralInvalidation := K - stop.structuralInvalidation
    liquidityBoundary := K - stop.liquidityBoundary
    includedLevels := stop.includedLevels.map (·.mirror K) }

variable {r : StopRequest} {K : ℚ}

theorem adverse_mirror (K : ℚ) (r : StopRequest) :
    (r.mirror K).adverse = r.adverse.map (·.mirror K) := by
  unfold StopRequest.adverse StopRequest.mirror
  rw [List.filter_map]
  congr 1
  apply List.filter_congr
  rintro ⟨price, side⟩ -
  cases r.direction <;> cases side <;>
    simp only [Function.comp_apply, LiquidityLevel.mirror, oppositeTrade, oppositeSide, stopSide,
      sub_le_sub_iff_left, reduceCtorEq, decide_false, Bool.false_and]

theorem included_mirror (K : ℚ) (r : StopRequest) :
    (r.mirror K).included = r.included.map (·.mirror K) := by
  unfold StopRequest.included
  rw [adverse_mirror, List.filter_map]
  congr 1
  apply List.filter_congr
  intro level _
  apply decide_eq_decide.2
  show |K - level.price - (K - r.invalidation)| ≤ r.atr ↔ |level.price - r.invalidation| ≤ r.atr
  rw [show K - level.price - (K - r.invalidation) = -(level.price - r.invalidation) by ring, abs_neg]

theorem boundary_mirror (K : ℚ) (r : StopRequest) : (r.mirror K).boundary = K - r.boundary := by
  unfold StopRequest.boundary
  rw [included_mirror]
  cases hd : r.direction with
  | long =>
    simp only [StopRequest.mirror, hd, oppositeTrade, List.foldl_map, LiquidityLevel.mirror]
    generalize r.invalidation = b
    induction r.included generalizing b with
    | nil => rfl
    | cons level rest ih => rw [List.foldl_cons, List.foldl_cons, ← ih, max_sub_sub_left]
  | short =>
    simp only [StopRequest.mirror, hd, oppositeTrade, List.foldl_map, LiquidityLevel.mirror]
    generalize r.invalidation = b
    induction r.included generalizing b with
    | nil => rfl
    | cons level rest ih => rw [List.foldl_cons, List.foldl_cons, ← ih, min_sub_sub_left]

/-- The buffer is the same, and the constant is a number of ticks. -/
theorem price_mirror (n : ℤ) (h : 0 < r.tickSize) :
    (r.mirror (n * r.tickSize)).price = n * r.tickSize - r.price := by
  have hbuffer : (r.mirror (n * r.tickSize)).buffer = r.buffer := rfl
  have htick : (r.mirror (n * r.tickSize)).tickSize = r.tickSize := rfl
  unfold StopRequest.price
  rw [boundary_mirror, hbuffer, htick]
  cases hd : r.direction with
  | long =>
    simp only [StopRequest.mirror, hd, oppositeTrade]
    rw [show (n * r.tickSize - r.boundary + r.buffer) / r.tickSize =
      n + -((r.boundary - r.buffer) / r.tickSize) by field_simp; ring, Int.ceil_intCast_add,
      Int.ceil_neg]
    push_cast
    ring
  | short =>
    simp only [StopRequest.mirror, hd, oppositeTrade]
    rw [show (n * r.tickSize - r.boundary - r.buffer) / r.tickSize =
      n + -((r.boundary + r.buffer) / r.tickSize) by field_simp; ring, Int.floor_intCast_add,
      Int.floor_neg]
    push_cast
    ring

/-- A mirrored request is rejected if its stop would not be positive, or if that of the request is not
on the loss side. -/
theorem unjustified_mirror (n : ℤ) (h : 0 < r.tickSize) :
    (r.mirror (n * r.tickSize)).Unjustified ↔ n * r.tickSize ≤ r.price ∨
      along r.direction r.entry ≤ along r.direction r.price := by
  rw [unjustified_iff, price_mirror n h, sub_nonpos]
  refine or_congr Iff.rfl ?_
  show along (oppositeTrade r.direction) (n * r.tickSize - r.entry) ≤
    along (oppositeTrade r.direction) (n * r.tickSize - r.price) ↔ _
  cases r.direction with
  | long => exact neg_le_neg_iff.trans (sub_le_sub_iff_left _)
  | short => exact (sub_le_sub_iff_left _).trans neg_le_neg_iff.symm

end Mirror

/-- How far a price lies beyond another one on the loss side. -/
def beyond (direction : TradeDirection) (p q : ℚ) : ℚ := along direction p - along direction q

/-- In exact arithmetic, for every accepted request: the stop is a positive multiple of the tick on
the loss side of the entry. It lies beyond the invalidation and beyond every level of the side within
one ATR of it by at least the buffer, and beyond the farthest of these by less than the buffer and one
tick. Mirroring the prices by a number of ticks mirrors the stop, if it leaves the entry, the
invalidation and the stop positive; if it does not leave the stop positive, the request is
rejected. -/
theorem protected_stop_placement {r : StopRequest} {stop : ProtectedStop}
    (h : protectedStop r = .ok stop) :
    (∃ n : ℤ, stop.price = n * r.tickSize) ∧ 0 < stop.price ∧
    0 < beyond r.direction r.entry stop.price ∧
    stop.buffer ≤ beyond r.direction r.invalidation stop.price ∧
    (∀ level ∈ r.levels, level.side = stopSide r.direction →
      |level.price - r.invalidation| ≤ r.atr →
        stop.buffer ≤ beyond r.direction level.price stop.price) ∧
    (∃ farthest, (farthest = r.invalidation ∨
        ∃ level ∈ r.levels, level.side = stopSide r.direction ∧
          |level.price - r.invalidation| ≤ r.atr ∧ farthest = level.price) ∧
      (∀ level ∈ r.levels, level.side = stopSide r.direction →
        |level.price - r.invalidation| ≤ r.atr →
          beyond r.direction r.invalidation level.price ≤
            beyond r.direction r.invalidation farthest) ∧
      beyond r.direction r.invalidation stop.price <
        beyond r.direction r.invalidation farthest + stop.buffer + r.tickSize) ∧
    beyond r.direction r.invalidation stop.price < r.atr + stop.buffer + r.tickSize ∧
    ∀ n : ℤ, 0 < n * r.tickSize - r.entry → 0 < n * r.tickSize - r.invalidation →
      protectedStop (r.mirror (n * r.tickSize)) =
        if stop.price < n * r.tickSize then .ok (stop.mirror (n * r.tickSize))
        else .error "unjustified_structural_stop" := by
  have haccepted := protectedStop_eq_ok.1 h
  obtain ⟨hpositive, hside⟩ := not_or.1 ((unjustified_iff r).not.1 haccepted.justified)
  obtain ⟨hupper, hlower⟩ := price_bounds haccepted.tickSize
  obtain ⟨hlevels, hinvalidation, hatr, hboundary⟩ := boundary_spec haccepted.atr
  obtain rfl := haccepted.eq
  unfold beyond
  refine ⟨?_, not_le.1 hpositive, sub_pos.2 (not_le.1 hside), by linarith, ?_,
    ⟨r.boundary, hboundary, fun level hlevel hsame hnear => ?_, by linarith⟩, by linarith, ?_⟩
  · unfold StopRequest.price
    cases r.direction with
    | long => exact ⟨_, rfl⟩
    | short => exact ⟨_, rfl⟩
  · intro level hlevel hsame hnear
    linarith [hlevels level hlevel hsame hnear]
  · linarith [hlevels level hlevel hsame hnear]
  · intro n hentry hinvalid
    split
    · next hlt =>
      refine protectedStop_eq_ok.2 ⟨hentry, hinvalid, haccepted.atr, haccepted.tickSize,
        haccepted.spread, ?_, ?_⟩
      · rw [unjustified_mirror n haccepted.tickSize, not_or]
        exact ⟨not_le.2 hlt, hside⟩
      · rw [price_mirror n haccepted.tickSize, boundary_mirror, included_mirror, adverse_mirror,
          List.length_map, List.length_map]
        rfl
    · next hge =>
      unfold protectedStop
      -- the mirrored stop is not positive, which the last check rejects
      rw [if_neg (not_not.2 ⟨hentry, hinvalid, haccepted.atr, haccepted.tickSize⟩),
        if_neg (by rw [show (r.mirror (n * r.tickSize)).spread = r.spread from rfl, haccepted.spread];
                   exact Bool.false_ne_true),
        if_pos ((unjustified_mirror n haccepted.tickSize).2 (.inl (not_lt.1 hge)))]

def sampleRequest : StopRequest where
  direction := .long
  entry := 100
  invalidation := 95
  atr := 4
  tickSize := 1 / 2
  spread := none
  levels := [⟨93, .below⟩, ⟨80, .below⟩, ⟨94, .above⟩]

/-- The stop is below 93 by the buffer of one tick. -/
theorem sample_stop_is_protected :
    protectedStop sampleRequest = .ok ⟨185 / 2, 95, 93, 1 / 2, [⟨93, .below⟩], 1⟩ ∧
    1 / 2 ≤ beyond .long 93 (185 / 2) := by
  have hok : protectedStop sampleRequest = .ok ⟨185 / 2, 95, 93, 1 / 2, [⟨93, .below⟩], 1⟩ := by
    decide +kernel
  refine ⟨hok, (protected_stop_placement hok).2.2.2.2.1 ⟨93, .below⟩ ?_ rfl ?_⟩
  · exact List.mem_cons_self
  · decide +kernel

end CandleCraft.Strategy
