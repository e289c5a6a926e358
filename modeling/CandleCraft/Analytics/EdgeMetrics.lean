import Mathlib.Data.List.Sort
import CandleCraft.Kernel.Drawdown
import CandleCraft.Strategy.Fibonacci

/-!
# Expectancy metrics

`expectancy_metrics` summarises records of setups: how many were filled, how often the targets were hit,
and the mean, the median and the drawdown of the R multiples of the filled ones. R multiples have eight
decimals, and so have their sums; the drawdown is reported as it is accumulated.
-/

namespace CandleCraft.Analytics

open PyDecimal Strategy

section Model

/-- The fields of `EdgeAnalyticsRecord` that the metrics are taken from. -/
structure EdgeAnalyticsRecord where
  filled : Bool := false
  tp1Hit : Bool := false
  tp2Hit : Bool := false
  rMultiple : Option ℚ := none
  candlesHeld : ℤ := 0

structure ExpectancyMetrics where
  setups : ℕ
  fills : ℕ
  tp1HitRate : Option ℚ
  tp2HitRate : Option ℚ
  averageR : Option ℚ
  medianR : Option ℚ
  maxDrawdown : Option ℚ
  expectancy : Option ℚ
  averageHoldTime : Option ℚ

variable (a : Arithmetic)

def EdgeAnalyticsRecord.normalize (record : EdgeAnalyticsRecord) : EdgeAnalyticsRecord :=
  { record with
    rMultiple := record.rMultiple.map a.quantize
    candlesHeld := max 0 record.candlesHeld }

/-- `_rate`, in percent with two decimals. -/
def rate (numerator denominator : ℕ) : Option ℚ :=
  if denominator = 0 then none
  else some (roundTo (-2) (a.fit (a.fit ((numerator : ℚ) / denominator) * 100)))

def mean (values : List ℚ) : Option ℚ :=
  if values.isEmpty then none
  else some (a.quantize (a.fit (values.foldl (fun sum value => a.fit (sum + value)) 0 / values.length)))

def median (values : List ℚ) : ℚ :=
  let sorted := values.insertionSort (· ≤ ·)
  let middle := values.length / 2
  if values.length % 2 = 1 then sorted.getD middle 0
  else a.fit (a.fit (sorted.getD (middle - 1) 0 + sorted.getD middle 0) / 2)

/-- The loop of `_max_drawdown`: the equity, its peak and the drawdown. -/
def drawdownStep (state : ℚ × ℚ × ℚ) (value : ℚ) : ℚ × ℚ × ℚ :=
  let equity := a.fit (state.1 + value)
  let peak := max state.2.1 equity
  (equity, peak, max state.2.2 (a.fit (peak - equity)))

def maxDrawdown (values : List ℚ) : Option ℚ :=
  if values.isEmpty then none
  else some (a.quantize (values.foldl (drawdownStep a) (0, 0, 0)).2.2)

def rValues (records : List EdgeAnalyticsRecord) : List ℚ :=
  (((records.map (·.normalize a)).filter (·.filled)).filterMap (·.rMultiple))

def expectancyMetrics (records : List EdgeAnalyticsRecord) : ExpectancyMetrics :=
  let normalized := records.map (·.normalize a)
  let filled := normalized.filter (·.filled)
  let values := rValues a records
  { setups := normalized.length
    fills := filled.length
    tp1HitRate := rate a (filled.filter (·.tp1Hit)).length filled.length
    tp2HitRate := rate a (filled.filter (·.tp2Hit)).length filled.length
    averageR := mean a values
    medianR := if values.isEmpty then none else some (a.quantize (median a values))
    maxDrawdown := maxDrawdown a values
    expectancy := mean a values
    averageHoldTime := mean a (filled.map fun record => (record.candlesHeld : ℚ)) }

end Model

section Worst

theorem foldl_drawdownStep (values : List ℚ) :
    values.foldl (drawdownStep .rounded) (0, 0, 0) =
      ((Drawdown.after values).total, (Drawdown.after values).peak, (Drawdown.after values).worst) := by
  induction values using List.reverseRecOn with
  | nil => rfl
  | append_singleton values value ih =>
    rw [List.foldl_append, ih, Drawdown.after_concat]
    rfl

theorem sum_eq_units {values : List ℚ} (h : ∀ value ∈ values, roundTo (-8) value = value) :
    ∃ n : ℤ, values.sum = n * (10 : ℚ) ^ (-8 : ℤ) := by
  induction values with
  | nil => exact ⟨0, by simp⟩
  | cons value values ih =>
    obtain ⟨n, hn⟩ := ih fun v hv => h v (List.mem_cons_of_mem _ hv)
    refine ⟨roundHalfEven (value / (10 : ℚ) ^ (-8 : ℤ)) + n, ?_⟩
    rw [List.sum_cons, hn, Int.cast_add, add_mul]
    congr 1
    exact (h value List.mem_cons_self).symm

theorem roundTo_of_mem_rValues {records : List EdgeAnalyticsRecord} {value : ℚ}
    (h : value ∈ rValues .rounded records) : roundTo (-8) value = value := by
  obtain ⟨record, hrecord, hvalue⟩ := List.mem_filterMap.1 h
  obtain ⟨raw, -, rfl⟩ := List.mem_map.1 (List.mem_filter.1 hrecord).1
  obtain ⟨multiple, -, rfl⟩ := Option.map_eq_some_iff.1 hvalue
  exact roundTo_roundTo _ _

theorem maxDrawdown_rValues (records : List EdgeAnalyticsRecord) :
    maxDrawdown .rounded (rValues .rounded records) =
      if (rValues .rounded records).isEmpty then none
      else some (Drawdown.after (rValues .rounded records)).worst := by
  unfold maxDrawdown
  rw [foldl_drawdownStep]
  obtain ⟨⟨run, hrun, hworst⟩, -⟩ := Drawdown.isGreatest_worst (rValues .rounded records)
  obtain ⟨n, hn⟩ := sum_eq_units fun value hvalue => roundTo_of_mem_rValues (hrun.subset hvalue)
  have hround : roundTo (-8) (-run.sum) = -run.sum := by
    rw [hn, ← neg_mul, ← Int.cast_neg, roundTo_mul_zpow]
  rw [hworst]
  show (if _ then none else some (roundTo (-8) (-run.sum))) = _
  rw [hround]

/-- Without rounding to 28 digits, for every sequence of records: the drawdown is reported when a filled
record has an R multiple, and it is the greatest loss of a run of the R multiples. It is not negative, at
least the loss of all of them, and not less with further records. -/
theorem drawdown_is_worst_run (records : List EdgeAnalyticsRecord) :
    ∃ worst : ℚ, (expectancyMetrics .rounded records).maxDrawdown =
        (if (rValues .rounded records).isEmpty then none else some worst) ∧
      IsGreatest (Drawdown.losses (rValues .rounded records)) worst ∧ 0 ≤ worst ∧
      -(rValues .rounded records).sum ≤ worst ∧
      ∀ later : List EdgeAnalyticsRecord, ∃ worse : ℚ,
        (expectancyMetrics .rounded (records ++ later)).maxDrawdown =
          (if (rValues .rounded (records ++ later)).isEmpty then none else some worse) ∧
        worst ≤ worse := by
  obtain ⟨hmem, hle⟩ := Drawdown.isGreatest_worst (rValues .rounded records)
  refine ⟨_, maxDrawdown_rValues records, ⟨hmem, hle⟩, ?_, ?_, fun later => ?_⟩
  · simpa using hle ⟨[], List.nil_infix, rfl⟩
  · exact hle ⟨_, List.infix_rfl, rfl⟩
  · refine ⟨_, maxDrawdown_rValues (records ++ later), ?_⟩
    obtain ⟨run, hrun, hworst⟩ := hmem
    refine (Drawdown.isGreatest_worst _).2 ⟨run, hrun.trans ?_, hworst⟩
    simp only [rValues, List.map_append, List.filter_append, List.filterMap_append]
    exact (List.prefix_append _ _).isInfix

end Worst

end CandleCraft.Analytics
