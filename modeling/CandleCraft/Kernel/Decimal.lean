import Mathlib.Algebra.Order.Floor.Semifield
import Mathlib.Data.Int.Log
import Mathlib.Data.Rat.Floor
import Mathlib.Tactic.Linarith
import Mathlib.Tactic.Positivity
import Mathlib.Tactic.Ring
import CandleCraft.Kernel.Scan

/-!
# Decimal arithmetic in a context

A decimal is the rational it denotes. An arithmetic operation is exact and then fitted into a
context: rounded half to even to the context's precision, or to its smallest exponent when the
result is tiny. A result too large for the context, a division by zero and a quantization that does
not fit raise a signal.
-/

namespace PyDecimal

/-- Precision and exponent range. -/
structure Context where
  prec : ℕ
  emin : ℤ
  emax : ℤ
  prec_pos : 1 ≤ prec

/-- The signals that are trapped by default. -/
inductive Signal where
  | divisionByZero
  | divisionUndefined
  | overflow
  | quantizeInvalid
  deriving DecidableEq

/-- The nearest integer, ties to even. -/
def roundHalfEven (x : ℚ) : ℤ :=
  let r := x - ⌊x⌋
  if r < 1 / 2 then ⌊x⌋
  else if 1 / 2 < r then ⌊x⌋ + 1
  else if ⌊x⌋ % 2 = 0 then ⌊x⌋
  else ⌊x⌋ + 1

theorem le_roundHalfEven {x : ℚ} {n : ℤ} (h : (n : ℚ) ≤ x) : n ≤ roundHalfEven x := by
  have hfloor : n ≤ ⌊x⌋ := Int.le_floor.2 h
  unfold roundHalfEven
  dsimp only
  split_ifs <;> omega

theorem roundHalfEven_le {x : ℚ} {n : ℤ} (h : x ≤ n) : roundHalfEven x ≤ n := by
  have hfloor : ⌊x⌋ ≤ n := by exact_mod_cast (Int.floor_le x).trans h
  rcases hfloor.lt_or_eq with hlt | heq
  · unfold roundHalfEven
    dsimp only
    split_ifs <;> omega
  · -- an integer is not moved
    have hx : x - ⌊x⌋ < 1 / 2 := by
      have : x ≤ ⌊x⌋ := by rw [heq]; exact h
      linarith
    unfold roundHalfEven
    rw [if_pos hx, heq]

theorem roundHalfEven_mono {x y : ℚ} (h : x ≤ y) : roundHalfEven x ≤ roundHalfEven y := by
  rcases (Int.floor_le_floor h).lt_or_eq with hlt | heq
  · calc roundHalfEven x ≤ ⌊x⌋ + 1 := roundHalfEven_le (by exact_mod_cast (Int.lt_floor_add_one x).le)
      _ ≤ ⌊y⌋ := hlt
      _ ≤ roundHalfEven y := le_roundHalfEven (Int.floor_le y)
  · unfold roundHalfEven
    rw [heq]
    dsimp only
    have hr : x - ⌊y⌋ ≤ y - ⌊y⌋ := by linarith
    split_ifs <;> first | omega | linarith

theorem roundHalfEven_eq_zero {x : ℚ} (h : 0 ≤ x) (hlt : x < 1 / 2) : roundHalfEven x = 0 := by
  have hfloor : ⌊x⌋ = 0 := Int.floor_eq_zero_iff.2 ⟨h, by linarith⟩
  unfold roundHalfEven
  rw [hfloor]
  simp [show x < 2⁻¹ by simpa using hlt]

theorem roundHalfEven_intCast (n : ℤ) : roundHalfEven n = n :=
  le_antisymm (roundHalfEven_le le_rfl) (le_roundHalfEven le_rfl)

theorem roundHalfEven_neg (x : ℚ) : roundHalfEven (-x) = -roundHalfEven x := by
  by_cases hx : x = ⌊x⌋
  · have hneg : -x = ((-⌊x⌋ : ℤ) : ℚ) := by
      rw [Int.cast_neg, ← hx]
    rw [hneg, roundHalfEven_intCast, hx, roundHalfEven_intCast, Int.floor_intCast]
  · have hlt : (⌊x⌋ : ℚ) < x := lt_of_le_of_ne (Int.floor_le x) (Ne.symm hx)
    have hfloor : ⌊-x⌋ = -⌊x⌋ - 1 := by
      rw [Int.floor_eq_iff]
      push_cast
      exact ⟨by linarith [Int.lt_floor_add_one x], by linarith⟩
    unfold roundHalfEven
    rw [hfloor]
    push_cast
    -- the two fractional parts add up to one, and exactly one of the two floors is even
    split_ifs <;> first | omega | (exfalso; linarith)

def roundTo (e : ℤ) (x : ℚ) : ℚ := roundHalfEven (x / (10 : ℚ) ^ e) * (10 : ℚ) ^ e

theorem unit_pos (e : ℤ) : (0 : ℚ) < (10 : ℚ) ^ e := zpow_pos (by norm_num) e

theorem roundTo_mono (e : ℤ) {x y : ℚ} (h : x ≤ y) : roundTo e x ≤ roundTo e y := by
  have hunit := unit_pos e
  refine mul_le_mul_of_nonneg_right ?_ hunit.le
  exact_mod_cast roundHalfEven_mono (div_le_div_of_nonneg_right h hunit.le)

theorem roundTo_zero (e : ℤ) : roundTo e 0 = 0 := by
  rw [roundTo, zero_div, roundHalfEven_eq_zero le_rfl (by norm_num), Int.cast_zero, zero_mul]

theorem roundTo_mul_zpow (e n : ℤ) : roundTo e (n * (10 : ℚ) ^ e) = n * (10 : ℚ) ^ e := by
  rw [roundTo, mul_div_cancel_right₀ _ (unit_pos e).ne', roundHalfEven_intCast]

theorem roundTo_roundTo (e : ℤ) (x : ℚ) : roundTo e (roundTo e x) = roundTo e x :=
  roundTo_mul_zpow e _

theorem roundHalfEven_le_add_half (x : ℚ) : (roundHalfEven x : ℚ) ≤ x + 1 / 2 := by
  have hfloor := Int.floor_le x
  unfold roundHalfEven
  dsimp only
  split_ifs <;> push_cast <;> linarith

theorem roundTo_le_add (e : ℤ) (x : ℚ) : roundTo e x ≤ x + (10 : ℚ) ^ e / 2 := by
  have hunit := unit_pos e
  calc roundTo e x ≤ (x / (10 : ℚ) ^ e + 1 / 2) * (10 : ℚ) ^ e :=
        mul_le_mul_of_nonneg_right (roundHalfEven_le_add_half _) hunit.le
    _ = x + (10 : ℚ) ^ e / 2 := by
        rw [add_mul, div_mul_cancel₀ _ hunit.ne']
        ring

/-- Round towards zero to the exponent `e`. -/
def truncTo (e : ℤ) (x : ℚ) : ℚ :=
  (if 0 ≤ x then ⌊x / (10 : ℚ) ^ e⌋ else ⌈x / (10 : ℚ) ^ e⌉) * (10 : ℚ) ^ e

theorem truncTo_le {e : ℤ} {x : ℚ} (h : 0 ≤ x) : truncTo e x ≤ x := by
  have hunit := unit_pos e
  rw [truncTo, if_pos h]
  exact (le_div_iff₀ hunit).1 (Int.floor_le _)

namespace Context

variable (c : Context)

/-- The exponent of the smallest positive decimal. -/
def etiny : ℤ := c.emin - (c.prec - 1)

/-- The smallest positive decimal. -/
def tiny : ℚ := (10 : ℚ) ^ c.etiny

/-- The exponent a result is rounded to. -/
def quantum (x : ℚ) : ℤ :=
  max (Int.log 10 |x| - (c.prec - 1)) c.etiny

def fit (x : ℚ) : ℚ :=
  roundHalfEven (x / (10 : ℚ) ^ c.quantum x) * (10 : ℚ) ^ c.quantum x

/-- Fit an exact result, which may be too large. -/
def finish (x : ℚ) : Except Signal ℚ :=
  if c.fit x ≠ 0 ∧ c.emax < Int.log 10 |c.fit x| then .error .overflow else .ok (c.fit x)

def add (a b : ℚ) : Except Signal ℚ := c.finish (a + b)

def sub (a b : ℚ) : Except Signal ℚ := c.finish (a - b)

def mul (a b : ℚ) : Except Signal ℚ := c.finish (a * b)

def div (a b : ℚ) : Except Signal ℚ :=
  if b = 0 then .error (if a = 0 then .divisionUndefined else .divisionByZero)
  else c.finish (a / b)

/-- Round to the exponent `e`; the digits of the result must fit the precision. -/
def quantize (x : ℚ) (e : ℤ) : Except Signal ℚ :=
  let n := roundHalfEven (x / (10 : ℚ) ^ e)
  if 10 ^ c.prec ≤ n.natAbs then .error .quantizeInvalid else .ok (n * (10 : ℚ) ^ e)

def sum (l : List ℚ) : Except Signal ℚ :=
  l.foldlM c.add 0

/-- Sum in list order, from zero, of numbers whose sums are not too large. -/
def total (l : List ℚ) : ℚ :=
  l.foldl (fun s x => c.fit (s + x)) 0

section Fit

variable {c} {x : ℚ}
variable {e : ℤ}

theorem tiny_pos : 0 < c.tiny := unit_pos _

/-- A result that is at least the smallest positive decimal is at least the unit it is
rounded to. -/
theorem zpow_quantum_le (h : c.tiny ≤ x) : (10 : ℚ) ^ c.quantum x ≤ x := by
  have hx : 0 < x := lt_of_lt_of_le tiny_pos h
  have hprec := c.prec_pos
  have hlog : (10 : ℚ) ^ (Int.log 10 |x| - (c.prec - 1)) ≤ x := by
    calc (10 : ℚ) ^ (Int.log 10 |x| - (c.prec - 1)) ≤ (10 : ℚ) ^ Int.log 10 |x| :=
          zpow_le_zpow_right₀ (by norm_num) (by omega)
      _ ≤ x := by
          rw [abs_of_pos hx]
          exact_mod_cast Int.zpow_log_le_self (by norm_num) hx
  rw [quantum]
  rcases max_choice (Int.log 10 |x| - (c.prec - 1)) c.etiny with hmax | hmax <;> rw [hmax]
  · exact hlog
  · exact h

/-- Fitting keeps integer multiples of the unit as lower bounds. -/
theorem le_fit {n : ℤ} (h : n * (10 : ℚ) ^ c.quantum x ≤ x) :
    n * (10 : ℚ) ^ c.quantum x ≤ c.fit x := by
  have hunit := unit_pos (c.quantum x)
  have hround : n ≤ roundHalfEven (x / (10 : ℚ) ^ c.quantum x) :=
    le_roundHalfEven ((le_div_iff₀ hunit).2 h)
  exact mul_le_mul_of_nonneg_right (by exact_mod_cast hround) hunit.le

/-- Fitting keeps integer multiples of the unit as upper bounds. -/
theorem fit_le {n : ℤ} (h : x ≤ n * (10 : ℚ) ^ c.quantum x) :
    c.fit x ≤ n * (10 : ℚ) ^ c.quantum x := by
  have hunit := unit_pos (c.quantum x)
  have hround : roundHalfEven (x / (10 : ℚ) ^ c.quantum x) ≤ n :=
    roundHalfEven_le ((div_le_iff₀ hunit).2 h)
  exact mul_le_mul_of_nonneg_right (by exact_mod_cast hround) hunit.le

theorem fit_nonneg (h : 0 ≤ x) : 0 ≤ c.fit x := by
  have hle := le_fit (c := c) (x := x) (n := 0) (by simpa using h)
  simpa using hle

theorem fit_nonpos (h : x ≤ 0) : c.fit x ≤ 0 := by
  have hle := fit_le (c := c) (x := x) (n := 0) (by simpa using h)
  simpa using hle

theorem tiny_le_zpow_quantum : c.tiny ≤ (10 : ℚ) ^ c.quantum x :=
  zpow_le_zpow_right₀ (by norm_num) (le_max_right _ _)

/-- A result that reaches the smallest positive decimal is not rounded below it. -/
theorem fit_ge (h : c.tiny ≤ x) : c.tiny ≤ c.fit x := by
  have hle := le_fit (c := c) (x := x) (n := 1) (by simpa using zpow_quantum_le h)
  rw [Int.cast_one, one_mul] at hle
  exact le_trans tiny_le_zpow_quantum hle

theorem two_tiny_le_fit (h : 2 * c.tiny ≤ x) : 2 * c.tiny ≤ c.fit x := by
  have htiny := tiny_pos (c := c)
  by_cases hq : c.quantum x = c.etiny
  · have hle := le_fit (c := c) (x := x) (n := 2) (by rw [hq]; exact_mod_cast h)
    rw [hq] at hle
    exact_mod_cast hle
  · -- the unit is at least ten times the smallest decimal
    have hlt : c.etiny + 1 ≤ c.quantum x := by
      have : c.etiny ≤ c.quantum x := le_max_right _ _
      omega
    have hten : (10 : ℚ) * c.tiny ≤ (10 : ℚ) ^ c.quantum x := by
      calc (10 : ℚ) * c.tiny = (10 : ℚ) ^ (c.etiny + 1) := by
            rw [zpow_add_one₀ (by norm_num), tiny, mul_comm]
        _ ≤ (10 : ℚ) ^ c.quantum x := zpow_le_zpow_right₀ (by norm_num) hlt
    have hle := le_fit (c := c) (x := x) (n := 1)
      (by simpa using zpow_quantum_le (c := c) (by linarith))
    rw [Int.cast_one, one_mul] at hle
    linarith

/-- A result below half of the smallest positive decimal is rounded to zero. -/
theorem fit_eq_zero (hx : 0 ≤ x) (h : 2 * x < c.tiny) : c.fit x = 0 := by
  have hunit := unit_pos (c.quantum x)
  have hlt : x / (10 : ℚ) ^ c.quantum x < 1 / 2 := by
    rw [div_lt_iff₀ hunit]
    have := tiny_le_zpow_quantum (c := c) (x := x)
    linarith
  rw [fit, roundHalfEven_eq_zero (div_nonneg hx hunit.le) hlt, Int.cast_zero, zero_mul]

/-- What is not rounded to zero is not rounded to zero the next time. -/
theorem fit_fit_pos (h : 0 < c.fit x) : 0 < c.fit (c.fit x) := by
  have hunit := unit_pos (c.quantum x)
  have hround : (1 : ℤ) ≤ roundHalfEven (x / (10 : ℚ) ^ c.quantum x) := by
    exact_mod_cast (pos_iff_pos_of_mul_pos h).2 hunit
  have htiny : c.tiny ≤ c.fit x := by
    calc c.tiny ≤ (10 : ℚ) ^ c.quantum x := tiny_le_zpow_quantum
      _ ≤ c.fit x := le_mul_of_one_le_left hunit.le (by exact_mod_cast hround)
  exact tiny_pos.trans_le (fit_ge htiny)

/-- A power of ten that is not below the unit is a multiple of it. -/
theorem exists_zpow_eq (he : c.quantum x ≤ e) :
    ∃ n : ℤ, (10 : ℚ) ^ e = n * (10 : ℚ) ^ c.quantum x := by
  obtain ⟨n, hn⟩ := Int.eq_ofNat_of_zero_le (sub_nonneg.2 he)
  refine ⟨10 ^ n, ?_⟩
  rw [show e = n + c.quantum x by omega, zpow_add₀ (by norm_num), zpow_natCast]
  norm_cast

theorem fit_le_zpow (hx : x ≤ (10 : ℚ) ^ e) (he : c.quantum x ≤ e) : c.fit x ≤ (10 : ℚ) ^ e := by
  obtain ⟨n, hn⟩ := exists_zpow_eq he
  rw [hn] at hx ⊢
  exact fit_le hx

theorem zpow_le_fit (hx : (10 : ℚ) ^ e ≤ x) (he : c.quantum x ≤ e) : (10 : ℚ) ^ e ≤ c.fit x := by
  obtain ⟨n, hn⟩ := exists_zpow_eq he
  rw [hn] at hx ⊢
  exact le_fit hx

theorem fit_zero : c.fit 0 = 0 := fit_eq_zero le_rfl (by rw [mul_zero]; exact tiny_pos)

theorem fit_mono {y : ℚ} (hx : 0 ≤ x) (h : x ≤ y) : c.fit x ≤ c.fit y := by
  rcases hx.eq_or_lt with rfl | hpos
  · rw [fit_zero]
    exact fit_nonneg h
  have hy : 0 < y := hpos.trans_le h
  have hlog : Int.log 10 |x| ≤ Int.log 10 |y| := by
    rw [abs_of_pos hpos, abs_of_pos hy]
    exact Int.log_mono_right hpos h
  have hquantum : c.quantum x ≤ c.quantum y :=
    max_le_max (by omega) le_rfl
  rcases hquantum.lt_or_eq with hlt | heq
  · -- the leading power of ten of the larger number lies between the two
    have hprec := c.prec_pos
    have hqy : c.quantum y = Int.log 10 |y| - (c.prec - 1) := by
      refine max_eq_left ?_
      by_contra hlow
      have hqy : c.quantum y = c.etiny := max_eq_right (by omega)
      have : c.etiny ≤ c.quantum x := le_max_right _ _
      omega
    have hqx : Int.log 10 |x| - (c.prec - 1) ≤ c.quantum x := le_max_left _ _
    have hbelow : x ≤ (10 : ℚ) ^ Int.log 10 |y| := by
      calc x ≤ (10 : ℚ) ^ (Int.log 10 |x| + 1) := by
            have := Int.lt_zpow_succ_log_self (b := 10) (by norm_num) |x|
            rw [abs_of_pos hpos] at this ⊢
            exact_mod_cast this.le
        _ ≤ (10 : ℚ) ^ Int.log 10 |y| := zpow_le_zpow_right₀ (by norm_num) (by omega)
    have habove : (10 : ℚ) ^ Int.log 10 |y| ≤ y := by
      rw [abs_of_pos hy]
      exact_mod_cast Int.zpow_log_le_self (by norm_num) hy
    exact (fit_le_zpow hbelow (by omega)).trans (zpow_le_fit habove (by omega))
  · rw [fit, fit, heq]
    exact roundTo_mono _ h

/-- A number with no more digits than the precision is not rounded. -/
theorem fit_eq_self {n e : ℤ} (hn : n.natAbs < 10 ^ c.prec) (he : c.etiny ≤ e) :
    c.fit (n * (10 : ℚ) ^ e) = n * (10 : ℚ) ^ e := by
  rcases eq_or_ne n 0 with rfl | hne
  · rw [Int.cast_zero, zero_mul, fit_zero]
  have hunit := unit_pos e
  have hpos : 0 < |(n : ℚ) * (10 : ℚ) ^ e| :=
    abs_pos.2 (mul_ne_zero (Int.cast_ne_zero.2 hne) hunit.ne')
  have hlt : |(n : ℚ) * (10 : ℚ) ^ e| < ((10 : ℕ) : ℚ) ^ (c.prec + e) := by
    rw [abs_mul, abs_of_pos hunit, zpow_add₀ (by norm_num), zpow_natCast]
    refine mul_lt_mul_of_pos_right ?_ hunit
    rw [← Int.cast_abs, Int.abs_eq_natAbs]
    exact_mod_cast hn
  have hquantum : c.quantum (n * (10 : ℚ) ^ e) ≤ e := by
    have hlog := (Int.lt_zpow_iff_log_lt (by norm_num) hpos).1 hlt
    exact max_le (by omega) he
  obtain ⟨m, hm⟩ := exists_zpow_eq hquantum
  have hmultiple : n * (10 : ℚ) ^ e =
      (n * m : ℤ) * (10 : ℚ) ^ c.quantum (n * (10 : ℚ) ^ e) := by
    rw [Int.cast_mul, mul_assoc, ← hm]
  exact le_antisymm ((fit_le hmultiple.le).trans hmultiple.ge)
    (hmultiple.le.trans (le_fit hmultiple.ge))

theorem fit_zpow (he : c.etiny ≤ e) : c.fit ((10 : ℚ) ^ e) = (10 : ℚ) ^ e := by
  have hone : (1 : ℤ).natAbs < 10 ^ c.prec :=
    Nat.one_lt_pow (Nat.one_le_iff_ne_zero.1 c.prec_pos) (by norm_num)
  simpa only [Int.cast_one, one_mul] using fit_eq_self (c := c) hone he

theorem fit_neg (x : ℚ) : c.fit (-x) = -c.fit x := by
  have hquantum : c.quantum (-x) = c.quantum x := by rw [quantum, quantum, abs_neg]
  rw [fit, fit, hquantum, neg_div, roundHalfEven_neg, Int.cast_neg, neg_mul]

theorem fit_monotone : Monotone c.fit := by
  intro x y h
  rcases le_total 0 x with hx | hx
  · exact fit_mono hx h
  · rcases le_total 0 y with hy | hy
    · exact (fit_nonpos hx).trans (fit_nonneg hy)
    · have hneg := fit_mono (c := c) (neg_nonneg.2 hy) (neg_le_neg h)
      rw [fit_neg, fit_neg] at hneg
      exact neg_le_neg_iff.1 hneg

theorem finish_eq_ok (hx : 0 ≤ x) (hle : x ≤ (10 : ℚ) ^ e) (he : c.etiny ≤ e)
    (hmax : e ≤ c.emax) : c.finish x = .ok (c.fit x) := by
  rw [finish, if_neg]
  rintro ⟨hne, hlarge⟩
  have hpos : 0 < c.fit x := lt_of_le_of_ne (fit_nonneg hx) hne.symm
  rw [abs_of_pos hpos] at hlarge
  have hfit : c.fit x ≤ ((10 : ℕ) : ℚ) ^ e := by
    have hmono := fit_mono (c := c) hx hle
    rw [fit_zpow he] at hmono
    exact_mod_cast hmono
  have hlog : ((10 : ℕ) : ℚ) ^ Int.log 10 (c.fit x) ≤ c.fit x :=
    Int.zpow_log_le_self (by norm_num) hpos
  have hexp := (zpow_le_zpow_iff_right₀ (by norm_num)).1 (hlog.trans hfit)
  omega

theorem quantize_eq_self {n e : ℤ} (hn : n.natAbs < 10 ^ c.prec) :
    c.quantize (n * (10 : ℚ) ^ e) e = .ok (n * (10 : ℚ) ^ e) := by
  have hround : roundHalfEven (n * (10 : ℚ) ^ e / (10 : ℚ) ^ e) = n := by
    rw [mul_div_cancel_right₀ _ (unit_pos e).ne', roundHalfEven_intCast]
  rw [quantize, hround]
  exact if_neg hn.not_ge

/-- The sum of two numbers on a common exponent, if its digits fit. -/
theorem add_eq {m n e : ℤ} (hm : 0 ≤ m) (hn : 0 ≤ n) (hfits : m + n < 10 ^ c.prec)
    (he : c.etiny ≤ e) (hmax : c.prec + e ≤ c.emax) :
    c.add (m * (10 : ℚ) ^ e) (n * (10 : ℚ) ^ e) = .ok ((m + n : ℤ) * (10 : ℚ) ^ e) := by
  have hunit := unit_pos e
  have hsum : m * (10 : ℚ) ^ e + n * (10 : ℚ) ^ e = (m + n : ℤ) * (10 : ℚ) ^ e := by
    rw [Int.cast_add, add_mul]
  have hnonneg : (0 : ℚ) ≤ (m + n : ℤ) * (10 : ℚ) ^ e :=
    mul_nonneg (by exact_mod_cast add_nonneg hm hn) hunit.le
  have hle : ((m + n : ℤ) : ℚ) * (10 : ℚ) ^ e ≤ (10 : ℚ) ^ (c.prec + e) := by
    rw [zpow_add₀ (by norm_num), zpow_natCast]
    exact mul_le_mul_of_nonneg_right (by exact_mod_cast hfits.le) hunit.le
  have hdigits : (m + n).natAbs < 10 ^ c.prec := by
    zify
    rwa [abs_of_nonneg (add_nonneg hm hn)]
  rw [add, hsum, finish_eq_ok hnonneg hle (by omega) hmax, fit_eq_self hdigits he]

/-- Comparing a sum with a number of the same format is exact, also when the sum is rounded. -/
theorem add_lt_iff {k m n e : ℤ} (hk : k < 10 ^ c.prec) (hm : 0 ≤ m) (hn : 0 ≤ n)
    (hm' : m < 10 ^ c.prec) (hn' : n < 10 ^ c.prec) (he : c.etiny ≤ e)
    (hmax : c.prec + e + 1 ≤ c.emax) :
    ∃ y, c.add (m * (10 : ℚ) ^ e) (n * (10 : ℚ) ^ e) = .ok y ∧ (k * (10 : ℚ) ^ e < y ↔ k < m + n) ∧
      (m + n ≤ k → y = (m + n : ℤ) * (10 : ℚ) ^ e) := by
  have hunit := unit_pos e
  by_cases hfits : m + n < 10 ^ c.prec
  · refine ⟨_, add_eq hm hn hfits he (by omega), ?_, fun _ => rfl⟩
    rw [mul_lt_mul_iff_of_pos_right hunit]
    exact_mod_cast Iff.rfl
  · -- The sum is rounded, but not below the first number that has one digit more.
    have hpower : (10 : ℚ) ^ (c.prec + e) = ((10 ^ c.prec : ℤ) : ℚ) * (10 : ℚ) ^ e := by
      rw [zpow_add₀ (by norm_num), zpow_natCast]
      norm_cast
    have hge : (10 : ℚ) ^ (c.prec + e) ≤ m * (10 : ℚ) ^ e + n * (10 : ℚ) ^ e := by
      rw [hpower, ← add_mul]
      exact mul_le_mul_of_nonneg_right (by exact_mod_cast not_lt.1 hfits) hunit.le
    have hle : m * (10 : ℚ) ^ e + n * (10 : ℚ) ^ e ≤ (10 : ℚ) ^ (c.prec + e + 1) := by
      rw [zpow_add_one₀ (by norm_num), hpower, ← add_mul, mul_right_comm]
      refine mul_le_mul_of_nonneg_right ?_ hunit.le
      have hten : m + n ≤ 10 ^ c.prec * 10 := by omega
      exact_mod_cast hten
    have hpos := (unit_pos (c.prec + e)).le
    refine ⟨_, finish_eq_ok (hpos.trans hge) hle (by omega) hmax, ?_, fun hnot => by omega⟩
    refine iff_of_true ?_ (by omega)
    calc k * (10 : ℚ) ^ e < (10 : ℚ) ^ (c.prec + e) := by
          rw [hpower]
          exact mul_lt_mul_of_pos_right (by exact_mod_cast hk) hunit
      _ = c.fit ((10 : ℚ) ^ (c.prec + e)) := (fit_zpow (by omega)).symm
      _ ≤ _ := fit_mono hpos hge

/-- The sum of a list of numbers on a common exponent, if its digits fit. -/
theorem sum_eq {l : List ℤ} (hl : ∀ n ∈ l, 0 ≤ n) (hfits : l.sum < 10 ^ c.prec)
    (he : c.etiny ≤ e) (hmax : c.prec + e ≤ c.emax) :
    c.sum (l.map fun n : ℤ => (n : ℚ) * (10 : ℚ) ^ e) = .ok (l.sum * (10 : ℚ) ^ e) := by
  suffices hfold : ∀ m : ℤ, 0 ≤ m → m + l.sum < 10 ^ c.prec →
      (l.map fun n : ℤ => (n : ℚ) * (10 : ℚ) ^ e).foldlM c.add (m * (10 : ℚ) ^ e) =
        .ok ((m + l.sum : ℤ) * (10 : ℚ) ^ e) by
    simpa only [sum, Int.cast_zero, zero_mul, zero_add] using hfold 0 le_rfl (by omega)
  clear hfits
  induction l with
  | nil =>
    intro m _ _
    rw [List.sum_nil, add_zero]
    rfl
  | cons n l ih =>
    intro m hm hfits
    rw [List.sum_cons] at hfits ⊢
    have hn := hl n List.mem_cons_self
    have hrest : 0 ≤ l.sum := List.sum_nonneg fun x hx => hl x (List.mem_cons_of_mem n hx)
    rw [List.map_cons, List.foldlM_cons, add_eq hm hn (by omega) he hmax, ← add_assoc]
    exact ih (fun x hx => hl x (List.mem_cons_of_mem n hx)) (m + n) (by omega) (by omega)

theorem finish_ok {y : ℚ} (h : c.finish x = .ok y) : y = c.fit x := by
  unfold finish at h
  split at h
  · cases h
  · cases h
    rfl

theorem add_ok {a b y : ℚ} (h : c.add a b = .ok y) : y = c.fit (a + b) := finish_ok h

/-- A sum that is not too large is the total. -/
theorem sum_ok {l : List ℚ} {y : ℚ} (h : c.sum l = .ok y) : y = c.total l := by
  suffices hfold : ∀ s, l.foldlM c.add s = .ok y →
      y = l.foldl (fun s x => c.fit (s + x)) s from hfold 0 h
  intro s hs
  clear h
  induction l generalizing s with
  | nil => exact (Except.ok.inj hs).symm
  | cons a l ih =>
    rw [List.foldlM_cons] at hs
    obtain ⟨t, ha, hs⟩ := Scan.bind_ok hs
    rw [List.foldl_cons, ← add_ok ha]
    exact ih t hs

theorem finish_eq_zero (h : c.fit x = 0) : c.finish x = .ok 0 := by
  rw [finish, h]
  simp

end Fit

end Context

theorem ok_bind {ε α β : Type} (a : α) (f : α → Except ε β) : (.ok a >>= f) = f a := rfl

theorem error_bind {α β : Type} (s : Signal) (f : α → Except Signal β) :
    ((.error s : Except Signal α) >>= f) = .error s := rfl

/-! ## Computations without a division signal -/

def Regular {α : Type} (x : Except Signal α) : Prop :=
  x ≠ .error .divisionByZero ∧ x ≠ .error .divisionUndefined

section Regular

variable {α β : Type} {c : Context} {a b : ℚ}

theorem regular_ok (v : α) : Regular (.ok v : Except Signal α) := ⟨nofun, nofun⟩

theorem regular_pure (v : α) : Regular (pure v : Except Signal α) := regular_ok v

/-- A sequence is regular when each step is, given what the earlier ones returned. -/
theorem Regular.bind {x : Except Signal α} {f : α → Except Signal β} (hx : Regular x)
    (hf : ∀ v, x = .ok v → Regular (f v)) : Regular (x >>= f) := by
  cases x with
  | ok v => exact hf v rfl
  | error e => exact ⟨fun h => hx.1 (by cases h; rfl), fun h => hx.2 (by cases h; rfl)⟩

theorem regular_finish (x : ℚ) : Regular (c.finish x) := by
  unfold Context.finish
  split <;> exact ⟨nofun, nofun⟩

theorem regular_add : Regular (c.add a b) := regular_finish _

theorem regular_sub : Regular (c.sub a b) := regular_finish _

theorem regular_mul : Regular (c.mul a b) := regular_finish _

theorem regular_div (h : b ≠ 0) : Regular (c.div a b) := by
  rw [Context.div, if_neg h]
  exact regular_finish _

theorem regular_quantize (e : ℤ) : Regular (c.quantize a e) := by
  unfold Context.quantize
  dsimp only
  split <;> exact ⟨nofun, nofun⟩

theorem regular_sum (l : List ℚ) : Regular (c.sum l) := by
  have hfold : ∀ (l : List ℚ) (a : ℚ), Regular (l.foldlM c.add a) := by
    intro l
    induction l with
    | nil => exact fun a => regular_pure a
    | cons x l ih => exact fun a => regular_add.bind fun v _ => ih v
  exact hfold l 0

theorem regular_mapM {f : α → Except Signal β} {l : List α} (h : ∀ x ∈ l, Regular (f x)) :
    Regular (l.mapM f) := by
  induction l with
  | nil => exact regular_pure _
  | cons x l ih =>
    rw [List.mapM_cons]
    refine (h x List.mem_cons_self).bind fun v _ => ?_
    exact (ih fun y hy => h y (List.mem_cons_of_mem x hy)).bind fun vs _ => regular_pure _

end Regular

end PyDecimal
