import CandleCraft.Lifecycle.PlanIdentity
import CandleCraft.Plan.Levels

/-!
# The plans the stored geometry check accepts

`stored_plan_geometry` makes its request of the plan check with the favourable edge of the zone
as the reference entry and without a cost. What it accepts is a plan whose levels are ordered,
with an invalidation text.
-/

namespace CandleCraft.Lifecycle

open Plan

namespace StoredPlanGeometry

variable (g : StoredPlanGeometry)

def levelsAt (cost entry : ℚ) : PlanLevels where
  direction := g.direction
  entryLow := g.entryLow
  entryHigh := g.entryHigh
  entryReference := entry
  stopLoss := g.stopLoss
  targets := [some g.tp1, some g.tp2, some g.tp3]
  minimumRr := none
  executionCost := cost

/-- The levels of a stored plan, as the plan check reads them. -/
def levels : PlanLevels where
  direction := g.direction
  entryLow := g.entryLow
  entryHigh := g.entryHigh
  entryReference := match g.direction with | .long => g.entryLow | .short => g.entryHigh
  stopLoss := g.stopLoss
  targets := [some g.tp1, some g.tp2, some g.tp3]
  minimumRr := none
  executionCost := 0

def Ordered : Prop := g.levels.Ordered g.tp1 g.tp2 g.tp3

theorem parse_request : g.request.parse = .ok g.levels := by
  have hdirection : TradeDirection.ofText (PyText.lower (PyText.strip g.request.direction)) =
      some g.direction := by
    unfold StoredPlanGeometry.request
    dsimp only
    generalize g.direction = direction
    cases direction <;> decide
  unfold TradePlanRequest.parse
  rw [hdirection]
  rfl

/-- How far the stop is from an entry, against the direction of the plan. -/
def stopDistance (entry : ℚ) : ℚ :=
  match g.direction with
  | .long => entry - g.stopLoss
  | .short => g.stopLoss - entry

/-- How far the second target is from an entry, in the direction of the plan. -/
def targetDistance (entry : ℚ) : ℚ :=
  match g.direction with
  | .long => g.tp2 - entry
  | .short => entry - g.tp2

theorem signedRisk_levelsAt (cost entry : ℚ) :
    (g.levelsAt cost entry).signedRisk = decimalContext.fit (g.stopDistance entry) := by
  unfold PlanLevels.signedRisk stopDistance levelsAt
  cases g.direction <;> rfl

theorem reward_levelsAt (cost entry : ℚ) :
    (g.levelsAt cost entry).reward =
      some (decimalContext.fit (decimalContext.fit (g.targetDistance entry) - cost)) := by
  unfold PlanLevels.reward targetDistance levelsAt
  cases g.direction <;> rfl

theorem valid_iff : (validateTradePlan g.request).valid = true ↔ g.Ordered := by
  unfold Ordered validateTradePlan
  rw [← PlanLevels.failure_eq_none_iff rfl, g.parse_request]
  dsimp only
  cases hfailure : g.levels.zoneFailure <|> g.levels.stopFailure <|> g.levels.rewardFailure <|>
      g.levels.targetsFailure with
  | some failure => exact iff_of_false (by simp [TradePlanIntegrityResult.valid]) (by simp)
  | none => exact iff_of_true rfl rfl

theorem check_eq_ok_iff {g g' : StoredPlanGeometry} {invalidation : String} :
    g.check invalidation = .ok g' ↔ g' = g ∧ invalidation ≠ NA ∧ g.Ordered := by
  unfold check
  split
  · rename_i hna
    exact iff_of_false (by simp) fun h => h.2.1 hna
  · rename_i hna
    split
    · rename_i hzone
      refine iff_of_false (by simp) fun h => ?_
      have hordered := h.2.2.zone
      exact absurd (hordered.1.trans hordered.2) (not_le.2 hzone)
    · split
      · rename_i hvalid
        rw [Except.ok.injEq]
        exact ⟨fun h => ⟨h.symm, hna, g.valid_iff.1 hvalid⟩, fun h => h.1.symm⟩
      · rename_i hvalid
        refine iff_of_false ?_ fun h => hvalid (g.valid_iff.2 h.2.2)
        split <;> simp

end StoredPlanGeometry

/-- A plan is accepted when its levels can be read, are in order, and come with an invalidation
text. -/
theorem planGeometry_eq_ok_iff {direction : String} {plan : PlanFields StoredText}
    {texts : InvalidationTexts} {g : StoredPlanGeometry} :
    planGeometry direction plan texts = .ok g ↔
      ∃ side, TradeDirection.ofText (PyText.lower (fieldText direction)) = some side ∧
        planLevels side plan = .ok g ∧ storedInvalidation texts ≠ NA ∧ g.Ordered := by
  unfold planGeometry
  cases hside : TradeDirection.ofText (PyText.lower (fieldText direction)) with
  | none => simp
  | some side =>
    dsimp only
    cases hlevels : planLevels side plan with
    | error failure => simp [hlevels]
    | ok g' =>
      rw [StoredPlanGeometry.check_eq_ok_iff]
      constructor
      · rintro ⟨rfl, hna, hordered⟩
        exact ⟨side, rfl, hlevels, hna, hordered⟩
      · rintro ⟨side', hside', hlevels', hna, hordered⟩
        obtain rfl := Option.some.inj hside'
        rw [hlevels] at hlevels'
        obtain rfl := Except.ok.inj hlevels'
        exact ⟨rfl, hna, hordered⟩

theorem storedPlanGeometry_ordered {record : SetupLifecycleRecord} {g : StoredPlanGeometry}
    (h : storedPlanGeometry record = .ok g) : g.Ordered := by
  obtain ⟨side, -, -, -, hordered⟩ := planGeometry_eq_ok_iff.1 h
  exact hordered

end CandleCraft.Lifecycle
