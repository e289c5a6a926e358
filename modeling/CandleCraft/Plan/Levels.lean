import CandleCraft.Plan.TradePlan

/-!
# What the plan check accepts

The failures of `validate_trade_plan` say in which order the checks run. Here they are put
together: a plan with three targets has no failure when its prices are positive, its levels stand
in the order of its direction, and its risk and its reward are not rounded away.
-/

namespace CandleCraft.Plan

namespace PlanLevels

variable (p : PlanLevels) (tp1 tp2 tp3 : ℚ)

/-- The order of the levels in the direction of the plan: the stop before the zone, the targets
one after the other behind it. -/
def Directed : Prop :=
  match p.direction with
  | .long => p.stopLoss < p.entryLow ∧ p.entryHigh < tp1 ∧ tp1 < tp2 ∧ tp2 < tp3
  | .short => p.entryHigh < p.stopLoss ∧ tp1 < p.entryLow ∧ tp2 < tp1 ∧ tp3 < tp2

/-- A target that lies beyond the zone in the direction of the plan. -/
def Beyond (level : ℚ) : Prop :=
  match p.direction with
  | .long => p.entryHigh < level
  | .short => level < p.entryLow

/-- The targets lie one behind the other, in the direction of the plan. -/
def Ascending : Prop :=
  match p.direction with
  | .long => tp1 < tp2 ∧ tp2 < tp3
  | .short => tp2 < tp1 ∧ tp3 < tp2

/-- A plan with three targets that the check has no complaint about, apart from its
reward-to-risk. -/
structure Ordered : Prop where
  cost : 0 ≤ p.executionCost
  positive : ∀ price ∈ [p.entryLow, p.entryHigh, p.entryReference, p.stopLoss, tp1, tp2, tp3],
    0 < price
  zone : p.entryLow ≤ p.entryReference ∧ p.entryReference ≤ p.entryHigh
  directed : p.Directed tp1 tp2 tp3
  risk : p.signedRisk ≠ 0
  reward : ∀ reward ∈ p.reward, 0 < reward

variable {p tp1 tp2 tp3}

theorem presentTargets_eq (h : p.targets = [some tp1, some tp2, some tp3]) :
    p.presentTargets = [(1, tp1), (2, tp2), (3, tp3)] := by
  rw [presentTargets, h]
  rfl

theorem zoneFailure_eq_none_iff (h : p.targets = [some tp1, some tp2, some tp3]) :
    p.zoneFailure = none ↔ 0 ≤ p.executionCost ∧
      (∀ price ∈ [p.entryLow, p.entryHigh, p.entryReference, p.stopLoss, tp1, tp2, tp3],
        0 < price) ∧
      p.entryLow ≤ p.entryReference ∧ p.entryReference ≤ p.entryHigh := by
  have hprices : (p.namedPrices.find? fun entry => decide (entry.2 ≤ 0)) = none ↔
      ∀ price ∈ [p.entryLow, p.entryHigh, p.entryReference, p.stopLoss, tp1, tp2, tp3],
        0 < price := by
    rw [namedPrices, presentTargets_eq h]
    simp
  unfold zoneFailure
  split
  · simp only [reduceCtorEq, false_iff]
    rintro ⟨hcost, -⟩
    linarith
  · split
    · rename_i hfound
      rw [← hprices, hfound]
      simp
    · rename_i hcost _ hfound
      rw [← hprices, hfound]
      split
      · rename_i hzone
        refine iff_of_false (by simp) ?_
        rintro ⟨-, -, hlow, hhigh⟩
        linarith
      · split
        · rename_i hreference
          exact iff_of_false (by simp) fun hall => hreference hall.2.2
        · rename_i hreference
          exact iff_of_true rfl ⟨not_lt.1 hcost, rfl, not_not.1 hreference⟩

/-- The stop of a long plan lies below its zone, that of a short plan above it, and the risk at
the reference entry is not rounded away. -/
theorem stopFailure_eq_none_iff (hzone : p.entryLow ≤ p.entryReference ∧ p.entryReference ≤ p.entryHigh) :
    p.stopFailure = none ↔ p.signedRisk ≠ 0 ∧
      (match p.direction with
        | .long => p.stopLoss < p.entryLow
        | .short => p.entryHigh < p.stopLoss) := by
  obtain ⟨hlow, hhigh⟩ := hzone
  unfold stopFailure
  cases hdirection : p.direction with
  | long =>
    dsimp only
    constructor
    · intro h
      split_ifs at h with hrisk hinside hwrong
      refine ⟨hrisk, ?_⟩
      by_contra hstop
      have hhigh' : p.entryHigh ≤ p.stopLoss := by
        by_contra hbelow
        exact hinside ⟨not_lt.1 hstop, (not_le.1 hbelow).le⟩
      exact hwrong (decide_eq_true hhigh')
    · rintro ⟨hrisk, hstop⟩
      have hnonneg : 0 ≤ p.signedRisk := by
        rw [signedRisk, hdirection]
        exact PyDecimal.Context.fit_nonneg (by linarith)
      have hwrong : decide (p.entryHigh ≤ p.stopLoss) = false := decide_eq_false (by linarith)
      rw [if_neg hrisk, if_neg (by rintro ⟨hinside, -⟩; linarith), hwrong, if_neg (by decide),
        if_neg hrisk, if_neg (not_lt.2 hnonneg)]
  | short =>
    dsimp only
    constructor
    · intro h
      split_ifs at h with hrisk hinside hwrong
      refine ⟨hrisk, ?_⟩
      by_contra hstop
      have hlow' : p.stopLoss ≤ p.entryLow := by
        by_contra habove
        exact hinside ⟨(not_le.1 habove).le, not_lt.1 hstop⟩
      exact hwrong (decide_eq_true hlow')
    · rintro ⟨hrisk, hstop⟩
      have hnonneg : 0 ≤ p.signedRisk := by
        rw [signedRisk, hdirection]
        exact PyDecimal.Context.fit_nonneg (by linarith)
      have hwrong : decide (p.stopLoss ≤ p.entryLow) = false := decide_eq_false (by linarith)
      rw [if_neg hrisk, if_neg (by rintro ⟨-, hinside⟩; linarith), hwrong, if_neg (by decide),
        if_neg hrisk, if_neg (not_lt.2 hnonneg)]

theorem rewardFailure_eq_none_iff :
    p.rewardFailure = none ↔ ∀ reward ∈ p.reward, 0 < reward := by
  unfold rewardFailure
  split
  · rename_i hreward
    simp [hreward]
  · rename_i reward hreward
    rw [hreward]
    constructor
    · intro h
      split_ifs at h with hzero hnegative
      rintro _ ⟨⟩
      exact lt_of_le_of_ne (not_lt.1 hnegative) (Ne.symm hzero)
    · intro h
      have hpos := h reward rfl
      rw [if_neg hpos.ne', if_neg hpos.not_gt]

theorem targetFailure_eq_none_iff (hzone : p.entryLow ≤ p.entryHigh) (entry : ℕ × ℚ) :
    p.targetFailure entry = none ↔ p.Beyond entry.2 := by
  unfold targetFailure Beyond
  cases hdirection : p.direction with
  | long =>
    dsimp only
    constructor
    · intro h
      split_ifs at h with hinside hwrong
      rw [decide_eq_true_eq, not_lt] at hwrong
      by_contra hbelow
      exact hinside ⟨hwrong, not_lt.1 hbelow⟩
    · intro h
      rw [if_neg (by rintro ⟨-, hinside⟩; linarith), if_neg (by rw [decide_eq_true_eq]; linarith)]
  | short =>
    dsimp only
    constructor
    · intro h
      split_ifs at h with hinside hwrong
      rw [decide_eq_true_eq, not_lt] at hwrong
      by_contra habove
      exact hinside ⟨not_lt.1 habove, hwrong⟩
    · intro h
      rw [if_neg (by rintro ⟨hinside, -⟩; linarith), if_neg (by rw [decide_eq_true_eq]; linarith)]

theorem targetsFailure_eq_none_iff (h : p.targets = [some tp1, some tp2, some tp3])
    (hzone : p.entryLow ≤ p.entryHigh) :
    p.targetsFailure = none ↔
      (p.Beyond tp1 ∧ p.Beyond tp2 ∧ p.Beyond tp3) ∧ p.Ascending tp1 tp2 tp3 := by
  have hbeyond : ([(1, tp1), (2, tp2), (3, tp3)].findSome? p.targetFailure) = none ↔
      p.Beyond tp1 ∧ p.Beyond tp2 ∧ p.Beyond tp3 := by
    simp [targetFailure_eq_none_iff hzone]
  have hascending : (([tp1, tp2, tp3].zip [tp2, tp3]).all fun pair =>
      match p.direction with
      | .long => decide (pair.1 < pair.2)
      | .short => decide (pair.2 < pair.1)) = true ↔ p.Ascending tp1 tp2 tp3 := by
    unfold Ascending
    cases p.direction <;> simp
  have hnodup : p.Ascending tp1 tp2 tp3 → [tp1, tp2, tp3].Nodup := by
    unfold Ascending
    intro hall
    have hne : tp1 ≠ tp2 ∧ tp1 ≠ tp3 ∧ tp2 ≠ tp3 := by
      split at hall
      · exact ⟨hall.1.ne, (hall.1.trans hall.2).ne, hall.2.ne⟩
      · exact ⟨hall.1.ne', (hall.2.trans hall.1).ne', hall.2.ne'⟩
    simp [hne]
  unfold targetsFailure
  rw [presentTargets_eq h]
  dsimp only [List.map_cons, List.map_nil, List.tail_cons]
  split
  · rename_i hfound
    refine iff_of_false (by simp) fun hall => ?_
    rw [hbeyond.2 hall.1] at hfound
    cases hfound
  · rename_i hnone
    rw [← hbeyond, ← hascending, hnone]
    constructor
    · intro hfailure
      split_ifs at hfailure with hdup hordered
      exact ⟨rfl, hordered⟩
    · rintro ⟨-, hordered⟩
      exact (if_neg (not_not.2 (hnodup (hascending.1 hordered)))).trans
        (if_neg (not_not.2 hordered))

/-- The check has no complaint about a plan with three targets exactly when its levels are
ordered. -/
theorem failure_eq_none_iff (h : p.targets = [some tp1, some tp2, some tp3]) :
    (p.zoneFailure <|> p.stopFailure <|> p.rewardFailure <|>
      p.targetsFailure) = none ↔ p.Ordered tp1 tp2 tp3 := by
  rw [Option.orElse_eq_none, Option.orElse_eq_none, Option.orElse_eq_none,
    zoneFailure_eq_none_iff h, rewardFailure_eq_none_iff]
  constructor
  · rintro ⟨⟨hcost, hpositive, hzone⟩, hstop, hreward, htargets⟩
    rw [stopFailure_eq_none_iff hzone] at hstop
    rw [targetsFailure_eq_none_iff h (hzone.1.trans hzone.2)] at htargets
    refine ⟨hcost, hpositive, hzone, ?_, hstop.1, hreward⟩
    obtain ⟨-, hside⟩ := hstop
    obtain ⟨⟨hbeyond, -, -⟩, hascending⟩ := htargets
    unfold Directed
    unfold Beyond at hbeyond
    unfold Ascending at hascending
    cases hdirection : p.direction <;> rw [hdirection] at hside hbeyond hascending <;>
      exact ⟨hside, hbeyond, hascending⟩
  · rintro ⟨hcost, hpositive, hzone, hdirected, hrisk, hreward⟩
    refine ⟨⟨hcost, hpositive, hzone⟩, ?_, hreward, ?_⟩
    · rw [stopFailure_eq_none_iff hzone]
      refine ⟨hrisk, ?_⟩
      unfold Directed at hdirected
      cases hdirection : p.direction <;> rw [hdirection] at hdirected <;> exact hdirected.1
    · rw [targetsFailure_eq_none_iff h (hzone.1.trans hzone.2)]
      unfold Directed at hdirected
      unfold Beyond Ascending
      cases hdirection : p.direction with
      | long =>
        rw [hdirection] at hdirected
        obtain ⟨-, h1, h2, h3⟩ := hdirected
        exact ⟨⟨h1, h1.trans h2, (h1.trans h2).trans h3⟩, h2, h3⟩
      | short =>
        rw [hdirection] at hdirected
        obtain ⟨-, h1, h2, h3⟩ := hdirected
        exact ⟨⟨h1, h2.trans h1, h3.trans (h2.trans h1)⟩, h2, h3⟩

theorem le_rr_of_rrFailure {minimum : ℚ} (hminimum : p.minimumRr = some minimum)
    (h : p.rrFailure = none) : ∃ rr, p.rr = some rr ∧ minimum ≤ rr := by
  unfold rrFailure at h
  rw [hminimum] at h
  cases hrr : p.rr with
  | none =>
    rw [hrr] at h
    cases h
  | some rr =>
    rw [hrr] at h
    dsimp only at h
    split at h
    · cases h
    · rename_i hle
      exact ⟨rr, rfl, not_lt.1 hle⟩

end PlanLevels

theorem levels_of_valid {request : TradePlanRequest}
    (h : (validateTradePlan request).valid = true) :
    ∃ p, request.parse = .ok p ∧
      (p.zoneFailure <|> p.stopFailure <|> p.rewardFailure <|>
        p.targetsFailure) = none ∧ p.rrFailure = none := by
  unfold validateTradePlan at h
  cases hparse : request.parse with
  | error failure =>
    rw [hparse] at h
    cases h
  | ok p =>
    rw [hparse] at h
    dsimp only at h
    split at h
    · cases h
    · rename_i hfailure
      split at h
      · cases h
      · cases h
      · rename_i hrr
        exact ⟨p, rfl, hfailure, hrr⟩

end CandleCraft.Plan
