import CandleCraft.Lifecycle.StoredGeometry

/-!
# The public trade plan

`validate_public_trade_plan` checks a plan at the worst entry of its zone, with the execution cost
on both sides, and asks for a second target worth at least three times the risk. The reward-to-risk
of an entry is monotone over the zone, so that this holds at every one; the exact quotient is bounded
by the same minimum when that of the worst entry is not rounded up.
-/

namespace CandleCraft.Lifecycle

open Plan PyDecimal PyText

section Check

def publicTp2MinimumRr : ℚ := 3

/-- The arguments of `validate_public_trade_plan`. -/
structure PublicPlanRequest where
  direction : String
  entryLow : NumericField
  entryHigh : NumericField
  stopLoss : NumericField
  tp1 : NumericField
  tp2 : NumericField
  tp3 : NumericField
  minimumRr : NumericField := .number publicTp2MinimumRr
  executionCost : NumericField := .number 0

/-- The numbers `validate_public_trade_plan` reads itself: the zone and the minimum. -/
def PublicPlanRequest.bounds (r : PublicPlanRequest) : Except TradePlanFailure (ℚ × ℚ × ℚ) := do
  let low ← Plan.requiredDecimal r.entryLow "entry_low"
  let high ← Plan.requiredDecimal r.entryHigh "entry_high"
  let minimum ← Plan.requiredDecimal r.minimumRr "minimum_rr"
  .ok (low, high, minimum)

/-- The request it makes of the plan check: the worst edge of the zone is the reference entry. -/
def PublicPlanRequest.planRequest (r : PublicPlanRequest) (low high minimum : ℚ) :
    TradePlanRequest where
  direction := lower (strip r.direction)
  entryLow := .number low
  entryHigh := .number high
  entryReference := .number (if lower (strip r.direction) = "long" then high else low)
  stopLoss := r.stopLoss
  tp1 := r.tp1
  tp2 := r.tp2
  tp3 := r.tp3
  minimumRr := .number (max publicTp2MinimumRr minimum)
  executionCost := r.executionCost

def validatePublicTradePlan (r : PublicPlanRequest) : TradePlanIntegrityResult :=
  match r.bounds with
  | .error failure => ⟨some failure, none⟩
  | .ok (low, high, minimum) => validateTradePlan (r.planRequest low high minimum)

end Check

section Reading

variable {r : PublicPlanRequest}

structure PublicPlanRequest.Reads (r : PublicPlanRequest) (g : StoredPlanGeometry)
    (minimum cost : ℚ) : Prop where
  direction : TradeDirection.ofText (lower (strip r.direction)) = some g.direction
  entryLow : r.entryLow = .number g.entryLow
  entryHigh : r.entryHigh = .number g.entryHigh
  stopLoss : r.stopLoss = .number g.stopLoss
  tp1 : r.tp1 = .number g.tp1
  tp2 : r.tp2 = .number g.tp2
  tp3 : r.tp3 = .number g.tp3
  minimumRr : r.minimumRr = .number minimum
  executionCost : r.executionCost = .number cost

def StoredPlanGeometry.worstEntry (g : StoredPlanGeometry) : ℚ :=
  match g.direction with
  | .long => g.entryHigh
  | .short => g.entryLow

theorem optionalDecimal_eq_ok {value : NumericField} {name : String} {q : Option ℚ}
    (h : optionalDecimal value name true = .ok q) : ∃ number, value = .number number ∧ q = some number := by
  unfold optionalDecimal at h
  split at h
  · exact ⟨_, rfl, (Except.ok.inj h).symm⟩
  · cases h
  · cases h
  · cases h

theorem requiredDecimal_eq_ok {value : NumericField} {name : String} {q : ℚ}
    (h : Plan.requiredDecimal value name = .ok q) : value = .number q := by
  unfold Plan.requiredDecimal at h
  split at h
  · cases h
  · cases h
  · rename_i number hvalue
    obtain ⟨number', rfl, hnumber⟩ := optionalDecimal_eq_ok hvalue
    rw [← Option.some.inj hnumber, ← Except.ok.inj h]

theorem direction_of_planRequest (direction : String) :
    lower (strip (lower (strip direction))) = lower (strip direction) := by
  have hstrip : strip (strip direction) = strip direction := stripBy_stripBy isSpace direction
  rw [strip_lower, lower_lower, hstrip]

theorem worstEntry_of_direction (direction : String) {g : StoredPlanGeometry}
    (h : TradeDirection.ofText direction = some g.direction) :
    (if direction = "long" then g.entryHigh else g.entryLow) = g.worstEntry := by
  unfold TradeDirection.ofText at h
  unfold StoredPlanGeometry.worstEntry
  split at h
  · rename_i hlong
    rw [if_pos hlong, ← Option.some.inj h]
  · rename_i hlong
    split at h
    · rw [if_neg hlong, ← Option.some.inj h]
    · cases h

theorem PublicPlanRequest.parse_planRequest {low high minimum : ℚ}
    {p : PlanLevels} (h : (r.planRequest low high minimum).parse = .ok p)
    (hlow : r.entryLow = .number low) (hhigh : r.entryHigh = .number high)
    (hminimum : r.minimumRr = .number minimum) :
    ∃ (g : StoredPlanGeometry) (cost : ℚ), r.Reads g minimum cost ∧
      p = { g.levelsAt cost g.worstEntry with
        minimumRr := some (max publicTp2MinimumRr minimum) } := by
  unfold TradePlanRequest.parse planRequest at h
  dsimp only at h
  rw [direction_of_planRequest] at h
  split at h
  · cases h
  · rename_i side hside
    -- the zone and the minimum are numbers already; the other levels are read here
    obtain ⟨low', hlow', h⟩ := Scan.bind_ok h
    obtain ⟨high', hhigh', h⟩ := Scan.bind_ok h
    obtain ⟨entry, hentry, h⟩ := Scan.bind_ok h
    obtain ⟨stop, hstop, h⟩ := Scan.bind_ok h
    obtain ⟨t1, ht1, h⟩ := Scan.bind_ok h
    obtain ⟨t2, ht2, h⟩ := Scan.bind_ok h
    obtain ⟨t3, ht3, h⟩ := Scan.bind_ok h
    obtain ⟨least, hleast, h⟩ := Scan.bind_ok h
    obtain ⟨cost, hcost, h⟩ := Scan.bind_ok h
    obtain ⟨tp1, htp1, rfl⟩ := optionalDecimal_eq_ok ht1
    obtain ⟨tp2, htp2, rfl⟩ := optionalDecimal_eq_ok ht2
    obtain ⟨tp3, htp3, rfl⟩ := optionalDecimal_eq_ok ht3
    obtain rfl : low' = low := (Except.ok.inj hlow').symm
    obtain rfl : high' = high := (Except.ok.inj hhigh').symm
    obtain rfl : some (max publicTp2MinimumRr minimum) = least := Except.ok.inj hleast
    refine ⟨⟨side, low', high', stop, tp1, tp2, tp3⟩, cost,
      ⟨hside, hlow, hhigh, requiredDecimal_eq_ok hstop, htp1, htp2, htp3, hminimum,
        requiredDecimal_eq_ok hcost⟩, ?_⟩
    rw [← Except.ok.inj h, ← Except.ok.inj hentry]
    unfold StoredPlanGeometry.levelsAt
    rw [← worstEntry_of_direction (lower (strip r.direction)) hside]

/-- What an accepted public plan spells out, with the levels that the plan check has no complaint
about. -/
theorem levels_of_public_valid (h : (validatePublicTradePlan r).valid = true) :
    ∃ (g : StoredPlanGeometry) (minimum cost : ℚ) (p : PlanLevels), r.Reads g minimum cost ∧
      p = { g.levelsAt cost g.worstEntry with
        minimumRr := some (max publicTp2MinimumRr minimum) } ∧
      p.Ordered g.tp1 g.tp2 g.tp3 ∧ p.rrFailure = none ∧
      (validatePublicTradePlan r).plan = some p.toTradePlan := by
  unfold validatePublicTradePlan at h ⊢
  cases hbounds : r.bounds with
  | error failure =>
    rw [hbounds] at h
    cases h
  | ok bounds =>
    obtain ⟨low, high, minimum⟩ := bounds
    rw [hbounds] at h
    unfold PublicPlanRequest.bounds at hbounds
    obtain ⟨low', hlow, hbounds⟩ := Scan.bind_ok hbounds
    obtain ⟨high', hhigh, hbounds⟩ := Scan.bind_ok hbounds
    obtain ⟨minimum', hminimum, hbounds⟩ := Scan.bind_ok hbounds
    cases hbounds
    obtain ⟨p, hparse, hfailure, hrr⟩ := levels_of_valid h
    obtain ⟨g, cost, hreads, hp⟩ := PublicPlanRequest.parse_planRequest hparse
      (requiredDecimal_eq_ok hlow) (requiredDecimal_eq_ok hhigh) (requiredDecimal_eq_ok hminimum)
    have hplan : (validateTradePlan (r.planRequest low high minimum)).plan = some p.toTradePlan := by
      simp only [validateTradePlan, hparse, hfailure, hrr]
    exact ⟨g, minimum, cost, p, hreads, hp,
      (PlanLevels.failure_eq_none_iff (by rw [hp]; rfl)).1 hfailure, hrr, hplan⟩

/-- A public plan that is accepted spells out a plan whose levels are in order at the worst entry,
where it is worth the minimum. -/
theorem reads_of_valid (h : (validatePublicTradePlan r).valid = true) :
    ∃ (g : StoredPlanGeometry) (minimum cost rr : ℚ), r.Reads g minimum cost ∧
      (g.levelsAt cost g.worstEntry).Ordered g.tp1 g.tp2 g.tp3 ∧
      (g.levelsAt cost g.worstEntry).rr = some rr ∧ max publicTp2MinimumRr minimum ≤ rr := by
  obtain ⟨g, minimum, cost, p, hreads, rfl, hordered, hrr, -⟩ := levels_of_public_valid h
  obtain ⟨rr, hvalue, hle⟩ := PlanLevels.le_rr_of_rrFailure rfl hrr
  -- the levels do not depend on the minimum
  exact ⟨g, minimum, cost, rr, hreads, { hordered with }, hvalue, hle⟩

end Reading

section WorstFill

namespace StoredPlanGeometry

variable (g : StoredPlanGeometry) (cost entry : ℚ)

/-- The exact reward-to-risk of an entry, with the cost taken off the reward and put on the
risk. -/
def netRr : ℚ := (g.targetDistance entry - cost) / (g.stopDistance entry + cost)

theorem rr_levelsAt :
    (g.levelsAt cost entry).rr = some (decimalContext.fit
      (decimalContext.fit (decimalContext.fit (g.targetDistance entry) - cost) /
        (g.levelsAt cost entry).risk)) := by
  rw [PlanLevels.rr, reward_levelsAt, Option.map_some]

variable {g cost entry}

/-- The distances over the zone: no entry is further from the stop or closer to the target than
the worst one. -/
theorem distances (h : (g.levelsAt cost g.worstEntry).Ordered g.tp1 g.tp2 g.tp3)
    (hlow : g.entryLow ≤ entry) (hhigh : entry ≤ g.entryHigh) :
    0 < g.stopDistance entry ∧ g.stopDistance entry ≤ g.stopDistance g.worstEntry ∧
      0 < g.targetDistance g.worstEntry ∧
      g.targetDistance g.worstEntry ≤ g.targetDistance entry := by
  have hdirected := h.directed
  unfold PlanLevels.Directed levelsAt at hdirected
  unfold stopDistance targetDistance worstEntry
  cases hdirection : g.direction with
  | long | short =>
    rw [hdirection] at hdirected
    obtain ⟨hstop, h1, h2, -⟩ := hdirected
    refine ⟨?_, ?_, ?_, ?_⟩ <;> dsimp only <;> linarith

theorem netRr_worstEntry_le (h : (g.levelsAt cost g.worstEntry).Ordered g.tp1 g.tp2 g.tp3)
    (hlow : g.entryLow ≤ entry) (hhigh : entry ≤ g.entryHigh)
    (hworst : 0 ≤ g.netRr cost g.worstEntry) :
    g.netRr cost g.worstEntry ≤ g.netRr cost entry := by
  obtain ⟨hstop, hstop', -, htarget⟩ := distances h hlow hhigh
  have hcost : 0 ≤ cost := h.cost
  have hreward : 0 ≤ g.targetDistance g.worstEntry - cost := by
    by_contra hnegative
    have hneg : g.netRr cost g.worstEntry < 0 :=
      div_neg_of_neg_of_pos (not_le.1 hnegative) (by linarith)
    linarith
  exact div_le_div₀ (by linarith) (by linarith) (by linarith) (by linarith)

/-- So is the one that is computed, as rounding keeps the order. -/
theorem rr_worstEntry_le (h : (g.levelsAt cost g.worstEntry).Ordered g.tp1 g.tp2 g.tp3)
    (hlow : g.entryLow ≤ entry) (hhigh : entry ≤ g.entryHigh)
    (hrisk : 0 < (g.levelsAt cost entry).risk) {rr : ℚ}
    (hworst : (g.levelsAt cost g.worstEntry).rr = some rr) :
    ∃ rr', (g.levelsAt cost entry).rr = some rr' ∧ rr ≤ rr' := by
  obtain ⟨hstop, hstop', htarget, htarget'⟩ := distances h hlow hhigh
  have hcost : 0 ≤ cost := h.cost
  refine ⟨_, g.rr_levelsAt cost entry, ?_⟩
  rw [rr_levelsAt] at hworst
  rw [← Option.some.inj hworst]
  have hreward := h.reward _ (g.reward_levelsAt cost g.worstEntry)
  have hgross : decimalContext.fit (g.targetDistance g.worstEntry) ≤
      decimalContext.fit (g.targetDistance entry) := Context.fit_mono htarget.le htarget'
  have hnet : 0 ≤ decimalContext.fit (g.targetDistance g.worstEntry) - cost := by
    by_contra hnegative
    exact absurd hreward (not_lt.2 (Context.fit_nonpos (not_le.1 hnegative).le))
  have hrisks : (g.levelsAt cost entry).risk ≤ (g.levelsAt cost g.worstEntry).risk := by
    unfold PlanLevels.risk
    rw [signedRisk_levelsAt, signedRisk_levelsAt]
    have hfit := Context.fit_mono (c := decimalContext) hstop.le hstop'
    have hnonneg := Context.fit_nonneg (c := decimalContext) hstop.le
    exact Context.fit_mono (add_nonneg hnonneg hcost) (add_le_add_left hfit cost)
  have hrewards := Context.fit_mono (c := decimalContext) hnet (sub_le_sub_right hgross cost)
  refine Context.fit_mono (div_nonneg hreward.le (hrisk.le.trans hrisks)) ?_
  exact div_le_div₀ (hreward.le.trans hrewards) hrewards hrisk hrisks

end StoredPlanGeometry

structure SetupLifecycleRecord.Stores (record : SetupLifecycleRecord) (g : StoredPlanGeometry) :
    Prop where
  direction : TradeDirection.ofText (lower (fieldText record.direction)) = some g.direction
  levels : planLevels g.direction record.toPlanFields = .ok g

/-- The levels that are in order at the worst entry are in order at the favourable one, where
nothing is paid, if the risk there is not rounded away. -/
theorem StoredPlanGeometry.ordered_of_worstEntry {g : StoredPlanGeometry} {cost : ℚ}
    (h : (g.levelsAt cost g.worstEntry).Ordered g.tp1 g.tp2 g.tp3)
    (hrisk : g.levels.signedRisk ≠ 0) : g.Ordered := by
  have hzone : g.entryLow ≤ g.entryHigh := h.zone.1.trans h.zone.2
  have hfavourable : g.entryLow ≤ g.levels.entryReference ∧
      g.levels.entryReference ≤ g.entryHigh := by
    unfold levels
    cases g.direction with
    | long => exact ⟨le_rfl, hzone⟩
    | short => exact ⟨hzone, le_rfl⟩
  obtain ⟨-, -, htarget, htarget'⟩ := distances h hfavourable.1 hfavourable.2
  have hprices := h.positive
  simp only [List.forall_mem_cons] at hprices
  obtain ⟨hlow, hhigh, -, hrest⟩ := hprices
  refine ⟨le_rfl, ?_, hfavourable, h.directed, hrisk, ?_⟩
  · simp only [List.forall_mem_cons]
    exact ⟨hlow, hhigh, lt_of_lt_of_le hlow hfavourable.1, hrest⟩
  · -- the target is further away than from the worst entry, where it is worth more than the cost
    have hworst := h.reward _ (g.reward_levelsAt cost g.worstEntry)
    have hgross : 0 < decimalContext.fit (g.targetDistance g.worstEntry) := by
      by_contra hzero
      have hcost : 0 ≤ cost := h.cost
      exact absurd hworst (not_lt.2 (Context.fit_nonpos (by linarith)))
    have hfit : 0 < decimalContext.fit (g.targetDistance g.levels.entryReference) :=
      hgross.trans_le (Context.fit_mono htarget.le htarget')
    intro reward hreward
    have hvalue := g.reward_levelsAt 0 g.levels.entryReference
    rw [sub_zero] at hvalue
    obtain rfl := Option.some.inj (Eq.trans hreward.symm hvalue)
    exact Context.fit_fit_pos hfit

/-- Every accepted public plan is worth its minimum, and at least three, at every entry of its zone:
as the check computes it, where the risk is not rounded to zero, and exactly, if and only if it is at
the worst entry. There it is, unless the computed quotient was rounded up. With an invalidation text
the stored plan is accepted as well, unless the risk of the favourable entry is rounded to zero. -/
theorem public_plan_worth_minimum_at_every_fill {r : PublicPlanRequest}
    (h : (validatePublicTradePlan r).valid = true) :
    ∃ (g : StoredPlanGeometry) (minimum cost rr : ℚ), r.Reads g minimum cost ∧
      (∀ fill, g.entryLow ≤ fill → fill ≤ g.entryHigh → 0 < (g.levelsAt cost fill).risk →
        ∃ rr, (g.levelsAt cost fill).rr = some rr ∧ max publicTp2MinimumRr minimum ≤ rr) ∧
      ((∀ fill, g.entryLow ≤ fill → fill ≤ g.entryHigh →
          max publicTp2MinimumRr minimum ≤ g.netRr cost fill) ↔
        max publicTp2MinimumRr minimum ≤ g.netRr cost g.worstEntry) ∧
      (g.levelsAt cost g.worstEntry).rr = some rr ∧
      (rr ≤ g.netRr cost g.worstEntry →
        max publicTp2MinimumRr minimum ≤ g.netRr cost g.worstEntry) ∧
      (g.levels.signedRisk ≠ 0 → ∀ record : SetupLifecycleRecord, record.Stores g →
        storedInvalidation record.toInvalidationTexts ≠ NA → storedPlanGeometry record = .ok g) := by
  obtain ⟨g, minimum, cost, rr, hreads, hordered, hrr, hle⟩ := reads_of_valid h
  have hminimum : 0 ≤ max publicTp2MinimumRr minimum :=
    le_trans (by norm_num [publicTp2MinimumRr]) (le_max_left publicTp2MinimumRr minimum)
  refine ⟨g, minimum, cost, rr, hreads, ?_, ⟨fun hall => ?_, fun hworst => ?_⟩, hrr, hle.trans, ?_⟩
  · intro fill hlow hhigh hrisk
    obtain ⟨rr', hrr', hmono⟩ := g.rr_worstEntry_le hordered hlow hhigh hrisk hrr
    exact ⟨rr', hrr', hle.trans hmono⟩
  · exact hall g.worstEntry hordered.zone.1 hordered.zone.2
  · intro fill hlow hhigh
    exact hworst.trans (g.netRr_worstEntry_le hordered hlow hhigh (hminimum.trans hworst))
  · intro hrisk record hstores hna
    exact planGeometry_eq_ok_iff.2
      ⟨g.direction, hstores.direction, hstores.levels, hna, StoredPlanGeometry.ordered_of_worstEntry hordered hrisk⟩

def samplePublicPlan (entryLow tp2 : String) : PublicPlanRequest where
  direction := "long"
  entryLow := .ofText entryLow
  entryHigh := .ofText "2"
  stopLoss := .ofText "1"
  tp1 := .ofText "3"
  tp2 := .ofText tp2
  tp3 := .ofText "6"

/-- A second target of thirty digits is just short of three times the risk. Its distance is rounded
to three, so that the plan is accepted. -/
theorem rounded_plan_is_worth_less :
    (validatePublicTradePlan (samplePublicPlan "2" "4.99999999999999999999999999999")).valid = true ∧
    ∃ g : StoredPlanGeometry,
      (samplePublicPlan "2" "4.99999999999999999999999999999").Reads g 3 0 ∧
      g.entryLow ≤ 2 ∧ 2 ≤ g.entryHigh ∧ g.netRr 0 2 < max publicTp2MinimumRr 3 := by
  refine ⟨by decide +kernel, ⟨.long, 2, 2, 1, 3, 499999999999999999999999999999 / 10 ^ 29, 6⟩,
    ⟨?_, ?_, ?_, ?_, ?_, ?_, ?_, ?_, ?_⟩, ?_, ?_, ?_⟩
  all_goals decide +kernel

theorem sample_zone_worth_minimum :
    ∃ (g : StoredPlanGeometry) (minimum cost : ℚ), (samplePublicPlan "1.5" "5").Reads g minimum cost ∧
      g.entryLow < g.entryHigh ∧
      ∀ fill, g.entryLow ≤ fill → fill ≤ g.entryHigh → 0 < (g.levelsAt cost fill).risk →
        ∃ rr, (g.levelsAt cost fill).rr = some rr ∧ max publicTp2MinimumRr minimum ≤ rr := by
  obtain ⟨g, minimum, cost, -, hreads, hfills, -⟩ :=
    public_plan_worth_minimum_at_every_fill (r := samplePublicPlan "1.5" "5") (by decide +kernel)
  have hlow : NumericField.number (3 / 2) = .number g.entryLow :=
    Eq.trans (by decide +kernel) hreads.entryLow
  have hhigh : NumericField.number 2 = .number g.entryHigh :=
    Eq.trans (by decide +kernel) hreads.entryHigh
  refine ⟨g, minimum, cost, hreads, ?_, hfills⟩
  rw [← NumericField.number.inj hlow, ← NumericField.number.inj hhigh]
  norm_num

end WorstFill

end CandleCraft.Lifecycle
