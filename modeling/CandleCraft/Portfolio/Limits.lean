import CandleCraft.Kernel.Greedy
import CandleCraft.Portfolio.Selection

/-!
# What portfolio selection guarantees

The loop computes with decimals of limited precision. It is first related to a greedy pass whose
judgements are made in exact arithmetic; limits and rejections are then read off the pass.
-/

namespace CandleCraft.Portfolio

open PyDecimal

section Exact

variable {limits : PortfolioRiskLimits} {kept : List PortfolioCandidate}
variable {l : List PortfolioCandidate} {limit : RiskPct}
  {candidate : PortfolioCandidate}

def totalRisk (l : List PortfolioCandidate) : ℚ :=
  (l.map fun candidate => candidate.riskPct.value).sum

def members (l : List PortfolioCandidate) (g : BetaGroup) : List PortfolioCandidate :=
  l.filter fun candidate => candidate.betaGroup = g

/-- The decision about a candidate in exact arithmetic, `none` if it is selected. -/
def judge (limits : PortfolioRiskLimits) (higher : List PortfolioCandidate)
    (candidate : PortfolioCandidate) : Option (PortfolioDecision × String) :=
  match preselectionDecision candidate with
  | some decision => some decision
  | none =>
    match sameGroupSelected higher candidate, limits.allowCorrelatedSetups with
    | existing :: _, false =>
      some
        (if qualityTuple candidate ≤ qualityTuple existing then .rejectedLowerQualityDuplicate
          else .rejectedCorrelatedExposure, correlatedReason candidate existing)
    | _, _ =>
      if limits.maxSelectedSetups < higher.length + 1 then
        some (.rejectedPortfolioRiskLimit, countReason limits)
      else if limits.maxPortfolioRiskPct.value < totalRisk higher + candidate.riskPct.value then
        some (.rejectedPortfolioRiskLimit, portfolioRiskReason limits candidate)
      else if limits.maxBetaGroupRiskPct.value <
          totalRisk (members higher candidate.betaGroup) + candidate.riskPct.value then
        some (.rejectedPortfolioRiskLimit, groupRiskReason limits candidate)
      else none

def riskUnits (l : List PortfolioCandidate) : ℤ :=
  (l.map fun candidate => candidate.riskPct.units).sum

theorem totalRisk_eq (l : List PortfolioCandidate) :
    totalRisk l = riskUnits l * (10 : ℚ) ^ outputExponent := by
  induction l with
  | nil => simp [totalRisk, riskUnits]
  | cons a l ih =>
    unfold totalRisk riskUnits at ih ⊢
    rw [List.map_cons, List.map_cons, List.sum_cons, List.sum_cons, ih, Int.cast_add, add_mul,
      Quantized.value]

theorem totalRisk_append (l : List PortfolioCandidate) :
    totalRisk (l ++ [candidate]) = totalRisk l + candidate.riskPct.value := by
  simp [totalRisk]

theorem riskUnits_nonneg (l : List PortfolioCandidate) : 0 ≤ riskUnits l := by
  refine List.sum_nonneg fun n hn => ?_
  obtain ⟨a, -, rfl⟩ := List.mem_map.1 hn
  exact a.riskPct.nonneg

theorem members_append_self (l : List PortfolioCandidate) :
    members (l ++ [candidate]) candidate.betaGroup =
      members l candidate.betaGroup ++ [candidate] := by
  simp [members]

theorem members_append_of_ne (l : List PortfolioCandidate) {g : BetaGroup}
    (h : candidate.betaGroup ≠ g) : members (l ++ [candidate]) g = members l g := by
  simp [members, h]

theorem outputUnit_pos : (0 : ℚ) < (10 : ℚ) ^ outputExponent := unit_pos _

theorem RiskPct.units_lt (r : RiskPct) : r.units < 10 ^ decimalContext.prec := by
  have hfits := r.fits
  have hnonneg := r.nonneg
  zify at hfits
  rwa [abs_of_nonneg hnonneg] at hfits

theorem riskUnits_lt (h : totalRisk l ≤ limit.value) : riskUnits l < 10 ^ decimalContext.prec := by
  rw [totalRisk_eq, Quantized.value, mul_le_mul_iff_of_pos_right outputUnit_pos, Int.cast_le] at h
  exact h.trans_lt limit.units_lt

theorem riskUnits_natAbs_lt
    (h : totalRisk l ≤ limit.value) : (riskUnits l).natAbs < 10 ^ decimalContext.prec := by
  zify
  rw [abs_of_nonneg (riskUnits_nonneg l)]
  exact riskUnits_lt h

theorem quantize_value (q : Quantized) : quantize q.value = .ok q.value :=
  Context.quantize_eq_self q.fits

theorem selectedRisk_eq (h : totalRisk l ≤ limit.value) : selectedRisk l = .ok (totalRisk l) := by
  have hnonneg : ∀ n ∈ l.map (fun a => a.riskPct.units), 0 ≤ n := by
    intro n hn
    obtain ⟨a, -, rfl⟩ := List.mem_map.1 hn
    exact a.riskPct.nonneg
  have hsum := Context.sum_eq (c := decimalContext) (e := outputExponent) hnonneg (riskUnits_lt h)
    (by decide) (by decide)
  rw [List.map_map] at hsum
  unfold selectedRisk
  rw [totalRisk_eq, show l.map (fun candidate => candidate.riskPct.value) =
    l.map ((fun n : ℤ => (n : ℚ) * (10 : ℚ) ^ outputExponent) ∘ fun a => a.riskPct.units) from rfl,
    hsum]
  exact Context.quantize_eq_self (riskUnits_natAbs_lt h)

theorem add_risk (candidate : PortfolioCandidate) (h : totalRisk l ≤ limit.value) :
    ∃ y, decimalContext.add (totalRisk l) candidate.riskPct.value = .ok y ∧
      (limit.value < y ↔ limit.value < totalRisk l + candidate.riskPct.value) ∧
      (¬ limit.value < y → y = totalRisk l + candidate.riskPct.value) := by
  obtain ⟨y, hy, hlt, heq⟩ := Context.add_lt_iff (c := decimalContext) (e := outputExponent)
    limit.units_lt (riskUnits_nonneg l) candidate.riskPct.nonneg (riskUnits_lt h)
    candidate.riskPct.units_lt (by decide) (by decide)
  have hsum : totalRisk l + candidate.riskPct.value =
      (riskUnits l + candidate.riskPct.units : ℤ) * (10 : ℚ) ^ outputExponent := by
    rw [totalRisk_eq, Quantized.value, Int.cast_add, add_mul]
  rw [hsum]
  rw [totalRisk_eq]
  refine ⟨y, hy, ?_, fun hnot => heq (not_lt.1 fun hlarge => hnot (hlt.2 hlarge))⟩
  rw [Quantized.value, mul_lt_mul_iff_of_pos_right outputUnit_pos, Int.cast_lt]
  exact hlt

end Exact

section Pass

variable {limits : PortfolioRiskLimits} {kept : List PortfolioCandidate}
  {candidate : PortfolioCandidate}

structure WithinLimits (limits : PortfolioRiskLimits) (l : List PortfolioCandidate) : Prop where
  count : l.length ≤ limits.maxSelectedSetups
  risk : totalRisk l ≤ limits.maxPortfolioRiskPct.value
  groups : ∀ g, totalRisk (members l g) ≤ limits.maxBetaGroupRiskPct.value
  uncorrelated : limits.allowCorrelatedSetups = false →
    ∀ g, g ≠ .unknown → (members l g).length ≤ 1
  tradeable : ∀ c ∈ l, c.validTrade = true ∧ c.dataIncomplete = false ∧ c.nearMiss = false

/-- Why a candidate is rejected, in view of the selected candidates that are ranked higher. -/
inductive Grounds (limits : PortfolioRiskLimits) (higher : List PortfolioCandidate)
    (candidate : PortfolioCandidate) : PortfolioDecision → String → Prop where
  | preselection {decision : PortfolioDecision} {reason : String}
      (h : preselectionDecision candidate = some (decision, reason)) :
      Grounds limits higher candidate decision reason
  | correlated {existing : PortfolioCandidate} (hallow : limits.allowCorrelatedSetups = false)
      (htradeable : preselectionDecision candidate = none)
      (hmem : existing ∈ higher) (hgroup : existing.betaGroup = candidate.betaGroup)
      (hknown : candidate.betaGroup ≠ .unknown) :
      Grounds limits higher candidate
        (if qualityTuple candidate ≤ qualityTuple existing then .rejectedLowerQualityDuplicate
          else .rejectedCorrelatedExposure)
        (correlatedReason candidate existing)
  | count (h : limits.maxSelectedSetups < higher.length + 1) :
      Grounds limits higher candidate .rejectedPortfolioRiskLimit (countReason limits)
  | risk (h : limits.maxPortfolioRiskPct.value < totalRisk higher + candidate.riskPct.value) :
      Grounds limits higher candidate .rejectedPortfolioRiskLimit
        (portfolioRiskReason limits candidate)
  | groupRisk (h : limits.maxBetaGroupRiskPct.value <
        totalRisk (members higher candidate.betaGroup) + candidate.riskPct.value) :
      Grounds limits higher candidate .rejectedPortfolioRiskLimit
        (groupRiskReason limits candidate)

theorem mem_sameGroupSelected {existing : PortfolioCandidate} :
    existing ∈ sameGroupSelected kept candidate ↔ existing ∈ kept ∧
      existing.betaGroup = candidate.betaGroup ∧ candidate.betaGroup ≠ .unknown := by
  rw [sameGroupSelected, List.mem_filter, decide_eq_true_eq]

theorem grounds_of_judge {decision : PortfolioDecision} {reason : String}
    (h : judge limits kept candidate = some (decision, reason)) :
    Grounds limits kept candidate decision reason := by
  unfold judge at h
  split at h
  next hpre =>
    cases h
    exact .preselection hpre
  next hpre =>
    split at h
    next existing _ hsame hallow =>
      cases h
      obtain ⟨hmem, hgroup, hknown⟩ :=
        mem_sameGroupSelected.1 (hsame ▸ List.mem_cons_self : existing ∈ _)
      exact .correlated hallow hpre hmem hgroup hknown
    next =>
      split at h
      next hcount =>
        cases h
        exact .count hcount
      next =>
        split at h
        next hrisk =>
          cases h
          exact .risk hrisk
        next =>
          split at h
          next hgroup =>
            cases h
            exact .groupRisk hgroup
          next => cases h

structure Admitted (limits : PortfolioRiskLimits) (higher : List PortfolioCandidate)
    (candidate : PortfolioCandidate) : Prop where
  tradeable : preselectionDecision candidate = none
  uncorrelated : limits.allowCorrelatedSetups = false → sameGroupSelected higher candidate = []
  count : ¬ limits.maxSelectedSetups < higher.length + 1
  risk : ¬ limits.maxPortfolioRiskPct.value < totalRisk higher + candidate.riskPct.value
  groupRisk : ¬ limits.maxBetaGroupRiskPct.value <
    totalRisk (members higher candidate.betaGroup) + candidate.riskPct.value

theorem admitted_of_judge (h : judge limits kept candidate = none) :
    Admitted limits kept candidate := by
  unfold judge at h
  split at h
  · cases h
  next hpre =>
    split at h
    · cases h
    next hsame =>
      split at h
      · cases h
      next hcount =>
        split at h
        · cases h
        next hrisk =>
          split at h
          · cases h
          next hgroup =>
            refine ⟨hpre, fun hallow => ?_, hcount, hrisk, hgroup⟩
            cases hlist : sameGroupSelected kept candidate with
            | nil => rfl
            | cons existing rest => exact absurd hallow (hsame existing rest hlist)

theorem tradeable_of_preselection (h : preselectionDecision candidate = none) :
    candidate.validTrade = true ∧ candidate.dataIncomplete = false ∧ candidate.nearMiss = false := by
  unfold preselectionDecision at h
  split at h
  · cases h
  next hincomplete =>
    split at h
    · cases h
    next hnear =>
      split at h
      · cases h
      next hvalid =>
        rw [Bool.not_eq_true', Bool.not_eq_false] at hvalid
        exact ⟨hvalid, Bool.not_eq_true _ ▸ hincomplete, Bool.not_eq_true _ ▸ hnear⟩

theorem WithinLimits.nil : WithinLimits limits [] where
  count := Nat.zero_le _
  risk := by
    have hnonneg := limits.maxPortfolioRiskPct.nonneg
    exact mul_nonneg (by exact_mod_cast hnonneg) outputUnit_pos.le
  groups _ := by
    have hnonneg := limits.maxBetaGroupRiskPct.nonneg
    exact mul_nonneg (by exact_mod_cast hnonneg) outputUnit_pos.le
  uncorrelated _ _ _ := Nat.zero_le 1
  tradeable _ hc := by cases hc

theorem WithinLimits.append (h : WithinLimits limits kept) (ha : Admitted limits kept candidate) :
    WithinLimits limits (kept ++ [candidate]) where
  count := by
    rw [List.length_append]
    exact not_lt.1 ha.count
  risk := by
    rw [totalRisk_append]
    exact not_lt.1 ha.risk
  groups g := by
    by_cases hg : candidate.betaGroup = g
    · subst hg
      rw [members_append_self, totalRisk_append]
      exact not_lt.1 ha.groupRisk
    · rw [members_append_of_ne kept hg]
      exact h.groups g
  uncorrelated hallow g hknown := by
    by_cases hg : candidate.betaGroup = g
    · subst hg
      have hempty : members kept candidate.betaGroup = [] := by
        rw [members, List.filter_eq_nil_iff]
        intro existing hmem hgroup
        have hsame : existing ∈ sameGroupSelected kept candidate :=
          mem_sameGroupSelected.2 ⟨hmem, of_decide_eq_true hgroup, hknown⟩
        rw [ha.uncorrelated hallow] at hsame
        cases hsame
      rw [members_append_self, hempty]
      exact Nat.le_refl 1
    · rw [members_append_of_ne kept hg]
      exact h.uncorrelated hallow g hknown
  tradeable c hc := by
    rcases List.mem_append.1 hc with hc | hc
    · exact h.tradeable c hc
    · rw [List.mem_singleton.1 hc]
      exact tradeable_of_preselection ha.tradeable

theorem withinLimits_select (l : List PortfolioCandidate) :
    WithinLimits limits (Greedy.select (judge limits) l).kept :=
  Greedy.kept_invariant WithinLimits.nil (fun _ _ h hjudge => h.append (admitted_of_judge hjudge)) l

end Pass

section Loop

variable {limits : PortfolioRiskLimits} {s : SelectionState}
variable {decision : PortfolioDecision} {higher : List PortfolioCandidate} {reason : String}
  {p : Greedy.Pass PortfolioCandidate (PortfolioDecision × String)}
  {candidate : PortfolioCandidate}

def mark (candidate : PortfolioCandidate) : PortfolioCandidate :=
  withDecision candidate .selected selectedReason

def turnDown (refusal : PortfolioCandidate × PortfolioDecision × String) : PortfolioCandidate :=
  withDecision refusal.1 refusal.2.1 refusal.2.2

theorem totalRisk_mark (l : List PortfolioCandidate) : totalRisk (l.map mark) = totalRisk l := by
  rw [totalRisk, List.map_map]
  rfl

theorem members_mark (l : List PortfolioCandidate) (g : BetaGroup) :
    members (l.map mark) g = (members l g).map mark := by
  rw [members, List.filter_map]
  rfl

theorem sameGroupSelected_mark (l : List PortfolioCandidate) :
    sameGroupSelected (l.map mark) candidate = (sameGroupSelected l candidate).map mark := by
  rw [sameGroupSelected, List.filter_map]
  rfl

theorem Grounds.marked (h : Grounds limits higher candidate decision reason) :
    Grounds limits (higher.map mark) (turnDown (candidate, decision, reason)) decision reason := by
  cases h with
  | preselection h => exact .preselection h
  | @correlated existing hallow htradeable hmem hgroup hknown =>
    have hmarked : mark existing ∈ higher.map mark := List.mem_map_of_mem hmem
    exact @Grounds.correlated _ _ _ (mark existing) hallow htradeable hmarked hgroup hknown
  | count h =>
    refine .count ?_
    rw [List.length_map]
    exact h
  | risk h =>
    refine Grounds.risk ?_
    rw [totalRisk_mark]
    exact h
  | groupRisk h =>
    refine Grounds.groupRisk ?_
    rw [members_mark, totalRisk_mark]
    exact h

theorem preselection_cases (h : preselectionDecision candidate = some (decision, reason)) :
    decision = .dataIncomplete ∨ decision = .watchlistOnly ∨ decision = .rejectedNoValidTrade := by
  unfold preselectionDecision at h
  split at h
  · cases h
    exact .inl rfl
  · split at h
    · cases h
      exact .inr (.inl rfl)
    · split at h
      · cases h
        exact .inr (.inr rfl)
      · cases h

theorem Grounds.ne_selected (h : Grounds limits higher candidate decision reason) :
    decision ≠ .selected := by
  cases h with
  | preselection h => rcases preselection_cases h with rfl | rfl | rfl <;> decide
  | correlated => split <;> decide
  | count | risk | groupRisk => decide

/-- The loop is at the same point as the pass in exact arithmetic. -/
structure Follows (s : SelectionState)
    (p : Greedy.Pass PortfolioCandidate (PortfolioDecision × String)) : Prop where
  selected : s.selected = p.kept.map mark
  rejected : s.decisions.filter (fun c => c.decision ≠ .selected) = p.refused.map turnDown
  groupRisk : ∀ g, s.groupRisk g = totalRisk (members p.kept g)

theorem Follows.reject (h : Follows s p)
    (hjudge : judge limits p.kept candidate = some (decision, reason)) :
    Follows (s.reject candidate decision reason) (p.step (judge limits) candidate) := by
  rw [Greedy.Pass.step_of_some hjudge]
  refine ⟨h.selected, ?_, h.groupRisk⟩
  have hne : decision ≠ .selected := (grounds_of_judge hjudge).ne_selected
  unfold SelectionState.reject
  rw [List.filter_append, h.rejected, List.map_append]
  simp [withDecision, turnDown, hne]

/-- The checks of the limits, made with decimals, decide as the exact ones. -/
theorem Follows.consider (h : Follows s p) (hlimits : WithinLimits limits p.kept)
    (hpre : preselectionDecision candidate = none)
    (hsame : ∀ existing rest, sameGroupSelected p.kept candidate = existing :: rest →
      limits.allowCorrelatedSetups ≠ false) :
    ∃ s', s.consider limits candidate = .ok s' ∧ Follows s' (p.step (judge limits) candidate) := by
  have hjudge : judge limits p.kept candidate =
      if limits.maxSelectedSetups < p.kept.length + 1 then
        some (.rejectedPortfolioRiskLimit, countReason limits)
      else if limits.maxPortfolioRiskPct.value < totalRisk p.kept + candidate.riskPct.value then
        some (.rejectedPortfolioRiskLimit, portfolioRiskReason limits candidate)
      else if limits.maxBetaGroupRiskPct.value <
          totalRisk (members p.kept candidate.betaGroup) + candidate.riskPct.value then
        some (.rejectedPortfolioRiskLimit, groupRiskReason limits candidate)
      else none := by
    unfold judge
    rw [hpre]
    dsimp only
    split
    next existing rest hlist hallow => exact absurd hallow (hsame existing rest hlist)
    next => rfl
  obtain ⟨total, htotal, htotal_lt, -⟩ := add_risk candidate hlimits.risk
  obtain ⟨group, hgroup, hgroup_lt, hgroup_eq⟩ :=
    add_risk candidate (hlimits.groups candidate.betaGroup)
  have hselected : selectedRisk s.selected = .ok (totalRisk p.kept) := by
    rw [h.selected, ← totalRisk_mark]
    exact selectedRisk_eq
      ((totalRisk_mark p.kept).trans_le hlimits.risk)
  have hlength : s.selected.length = p.kept.length := by rw [h.selected, List.length_map]
  unfold SelectionState.consider
  rw [quantize_value, ok_bind, hselected, ok_bind, hlength]
  -- the three limits in the order of the source; each comparison of decimals is the exact one
  by_cases hcount : limits.maxSelectedSetups ≤ p.kept.length
  · rw [if_pos hcount]
    rw [if_pos (Nat.lt_succ_of_le hcount)] at hjudge
    exact ⟨_, rfl, h.reject hjudge⟩
  rw [if_neg hcount, htotal, ok_bind]
  rw [if_neg fun hlt => hcount (Nat.le_of_lt_succ hlt)] at hjudge
  by_cases hrisk : limits.maxPortfolioRiskPct.value < total
  · rw [if_pos hrisk]
    rw [if_pos (htotal_lt.1 hrisk)] at hjudge
    exact ⟨_, rfl, h.reject hjudge⟩
  rw [if_neg hrisk, h.groupRisk, hgroup, ok_bind]
  rw [if_neg fun hlt => hrisk (htotal_lt.2 hlt)] at hjudge
  by_cases hbeta : limits.maxBetaGroupRiskPct.value < group
  · rw [if_pos hbeta]
    rw [if_pos (hgroup_lt.1 hbeta)] at hjudge
    exact ⟨_, rfl, h.reject hjudge⟩
  rw [if_neg hbeta]
  rw [if_neg fun hlt => hbeta (hgroup_lt.2 hlt)] at hjudge
  rw [Greedy.Pass.step_of_none hjudge]
  -- selected: the candidate joins the kept ones, and its group gets the new risk
  refine ⟨_, rfl, ?_, ?_, fun g => ?_⟩
  · rw [List.map_append, ← h.selected]
    rfl
  · rw [List.filter_append, h.rejected]
    simp [withDecision]
  · dsimp only
    by_cases hg : candidate.betaGroup = g
    · subst hg
      rw [Function.update_self, members_append_self, totalRisk_append, hgroup_eq hbeta]
    · rw [Function.update_of_ne (Ne.symm hg), members_append_of_ne p.kept hg, h.groupRisk]

theorem Follows.step (h : Follows s p) (hlimits : WithinLimits limits p.kept)
    (candidate : PortfolioCandidate) :
    ∃ s', s.step limits candidate = .ok s' ∧ Follows s' (p.step (judge limits) candidate) := by
  unfold SelectionState.step
  split
  next decision reason hpre =>
    refine ⟨_, rfl, h.reject ?_⟩
    rw [judge, hpre]
  next hpre =>
    rw [h.selected, sameGroupSelected_mark]
    split
    next existing rest hlist hallow =>
      refine ⟨_, rfl, h.reject ?_⟩
      obtain ⟨first, rest, hfirst, rfl, -⟩ := List.map_eq_cons_iff.1 hlist
      rw [judge, hpre, hfirst, hallow]
      rfl
    next hsame =>
      refine h.consider hlimits hpre fun existing rest hlist hallow => ?_
      exact hsame (mark existing) (rest.map mark) (by rw [hlist]; rfl) hallow

/-- The loop never fails, and it ends where the pass in exact arithmetic ends. -/
theorem follows_foldlM (limits : PortfolioRiskLimits) (l : List PortfolioCandidate) :
    ∃ s, l.foldlM (SelectionState.step limits) {} = .ok s ∧
      Follows s (Greedy.select (judge limits) l) := by
  induction l using List.reverseRecOn with
  | nil => exact ⟨{}, rfl, rfl, rfl, fun _ => rfl⟩
  | append_singleton l a ih =>
    obtain ⟨s, hs, hfollows⟩ := ih
    obtain ⟨s', hs', hfollows'⟩ := hfollows.step (withinLimits_select l) a
    refine ⟨s', ?_, ?_⟩
    · rw [List.foldlM_append, hs]
      show ([a].foldlM (SelectionState.step limits) s) = .ok s'
      rw [List.foldlM_cons, hs']
      rfl
    · rw [Greedy.select_append_singleton]
      exact hfollows'

end Loop

section Results

variable {limits : PortfolioRiskLimits} {kept : List PortfolioCandidate}

theorem WithinLimits.marked (h : WithinLimits limits kept) :
    WithinLimits limits (kept.map mark) where
  count := by
    rw [List.length_map]
    exact h.count
  risk := (totalRisk_mark kept).trans_le h.risk
  groups g := by
    rw [members_mark, totalRisk_mark]
    exact h.groups g
  uncorrelated hallow g hknown := by
    rw [members_mark, List.length_map]
    exact h.uncorrelated hallow g hknown
  tradeable c hc := by
    obtain ⟨a, ha, rfl⟩ := List.mem_map.1 hc
    exact h.tradeable a ha

theorem exposureSummary_ok {l : List PortfolioCandidate} (h : WithinLimits limits l) :
    ∃ summary, exposureSummary l = .ok summary := by
  unfold exposureSummary
  dsimp only
  induction List.insertionSort (fun a b : BetaGroup => a.value ≤ b.value)
      (l.map fun candidate => candidate.betaGroup).dedup with
  | nil => exact ⟨[], rfl⟩
  | cons g groups ih =>
    obtain ⟨summary, hsummary⟩ := ih
    have hrisk : selectedRisk (members l g) = .ok (totalRisk (members l g)) :=
      selectedRisk_eq (h.groups g)
    have hquantize : quantize (totalRisk (members l g)) = .ok (totalRisk (members l g)) := by
      rw [totalRisk_eq]
      exact Context.quantize_eq_self (riskUnits_natAbs_lt (h.groups g))
    refine ⟨⟨g, totalRisk (members l g), (members l g).length,
      (members l g).map fun candidate => candidate.symbol⟩ :: summary, ?_⟩
    rw [List.mapM_cons, hsummary]
    unfold members at hrisk hquantize ⊢
    rw [hrisk, ok_bind, hquantize]
    rfl

/-- The result is that of the pass in exact arithmetic over the ranked candidates. -/
theorem selectPortfolio_eq (candidates : List PortfolioCandidate) (limits : PortfolioRiskLimits) :
    ∃ result, selectPortfolio candidates limits = .ok result ∧
      result.selectedCandidates =
        (Greedy.select (judge limits) (ranked candidates)).kept.map mark ∧
      result.rejectedCandidates =
        (Greedy.select (judge limits) (ranked candidates)).refused.map turnDown := by
  obtain ⟨s, hs, hfollows⟩ := follows_foldlM limits (ranked candidates)
  have hlimits : WithinLimits limits s.selected := by
    rw [hfollows.selected]
    exact (withinLimits_select (ranked candidates)).marked
  obtain ⟨summary, hsummary⟩ := exposureSummary_ok hlimits
  unfold selectPortfolio
  rw [hs, ok_bind, hsummary, ok_bind, selectedRisk_eq hlimits.risk, ok_bind]
  exact ⟨_, rfl, hfollows.selected, hfollows.rejected⟩

def undecided (candidate : PortfolioCandidate) : PortfolioCandidate :=
  withDecision candidate .rejectedNoValidTrade NA

theorem ranked_pairwise (candidates : List PortfolioCandidate) :
    (ranked candidates).Pairwise fun a b => candidateSortKey a ≤ candidateSortKey b := by
  have : Std.Total fun a b : PortfolioCandidate => candidateSortKey a ≤ candidateSortKey b :=
    ⟨fun a b => le_total (candidateSortKey a) (candidateSortKey b)⟩
  have : IsTrans PortfolioCandidate fun a b => candidateSortKey a ≤ candidateSortKey b :=
    ⟨fun a b c => le_trans⟩
  exact List.pairwise_insertionSort _ candidates

/-- Every rejection has its grounds in the selected candidates that are ranked higher. -/
theorem grounds_of_rejected {candidates : List PortfolioCandidate}
    {c : PortfolioCandidate}
    (hc : c ∈ (Greedy.select (judge limits) (ranked candidates)).refused.map turnDown) :
    ∃ higher lower, (Greedy.select (judge limits) (ranked candidates)).kept.map mark =
        higher ++ lower ∧
      (∀ s ∈ higher, candidateSortKey s ≤ candidateSortKey c) ∧
      (∀ s ∈ lower, candidateSortKey c ≤ candidateSortKey s) ∧
      Grounds limits higher c c.decision c.decisionReason := by
  obtain ⟨⟨a, decision, reason⟩, hmem, rfl⟩ := List.mem_map.1 hc
  obtain ⟨higher, lower, hrefusal⟩ := Greedy.refusal_of_mem hmem
  obtain ⟨hhigher, hlower⟩ := hrefusal.ordered (ranked_pairwise candidates)
  refine ⟨higher.map mark, lower.map mark, ?_, fun s hs => ?_, fun s hs => ?_,
    (grounds_of_judge hrefusal.judged).marked⟩
  · rw [hrefusal.kept, List.map_append]
  · obtain ⟨b, hb, rfl⟩ := List.mem_map.1 hs
    exact hhigher b hb
  · obtain ⟨b, hb, rfl⟩ := List.mem_map.1 hs
    exact hlower b hb

/-- For all candidates and limits the selection succeeds, the selected set keeps every limit, the
selected and the rejected candidates are those of the input, and every rejection has its grounds in
the selected candidates that are ranked higher: who is rejected for a limit would break it. -/
theorem selection_respects_limits (candidates : List PortfolioCandidate)
    (limits : PortfolioRiskLimits) :
    ∃ result, selectPortfolio candidates limits = .ok result ∧
      WithinLimits limits result.selectedCandidates ∧
      ((result.selectedCandidates ++ result.rejectedCandidates).map undecided).Perm
        (candidates.map undecided) ∧
      ∀ c ∈ result.rejectedCandidates, ∃ higher lower,
        result.selectedCandidates = higher ++ lower ∧
        (∀ s ∈ higher, candidateSortKey s ≤ candidateSortKey c) ∧
        (∀ s ∈ lower, candidateSortKey c ≤ candidateSortKey s) ∧
        Grounds limits higher c c.decision c.decisionReason := by
  obtain ⟨result, hresult, hselected, hrejected⟩ := selectPortfolio_eq candidates limits
  refine ⟨result, hresult, ?_, ?_, fun c hc => ?_⟩
  · rw [hselected]
    exact (withinLimits_select (ranked candidates)).marked
  · rw [hselected, hrejected]
    have hperm := (@Greedy.perm _ _ (judge limits) (ranked candidates)).trans
      (List.perm_insertionSort _ candidates)
    have hundecided := hperm.map undecided
    rw [List.map_append, List.map_map] at hundecided
    rw [List.map_append, List.map_map, List.map_map]
    exact hundecided
  · rw [hselected]
    rw [hrejected] at hc
    exact grounds_of_rejected hc

end Results

section Strength

variable {limits : PortfolioRiskLimits} {a b : PortfolioCandidate}
variable {candidates : List PortfolioCandidate}

/-- The regime scores, which the quality tuple has and the sort key has not. -/
def regimeScores (candidate : PortfolioCandidate) : ℤ ×ₗ ℤ :=
  toLex ((candidate.regimeConfidenceAdjustment : ℤ), (candidate.regimeCompatibilityScore : ℤ))

def Tied (a b : PortfolioCandidate) : Prop :=
  a.qualityScore = b.qualityScore ∧ rankingEdge a = rankingEdge b ∧
    a.memoryPreferenceAdjustment = b.memoryPreferenceAdjustment

theorem le_of_neg_le {β γ : Type*} [Preorder β] [Preorder γ] {x y : ℤ} {s t : β} {u v : γ}
    (h : toLex (-x, s) ≤ toLex (-y, t)) (hrest : x = y → s ≤ t → u ≤ v) :
    toLex (y, u) ≤ toLex (x, v) := by
  rw [Prod.Lex.toLex_le_toLex] at h ⊢
  rcases h with hlt | ⟨heq, hle⟩
  · exact .inl (neg_lt_neg_iff.1 hlt)
  · exact .inr ⟨(neg_inj.1 heq).symm, hrest (neg_inj.1 heq) hle⟩

/-- The ranking agrees with the quality if and only if the regime scores do not speak against it. -/
theorem qualityTuple_le_iff (hvalid : a.validTrade = b.validTrade)
    (hkey : candidateSortKey a ≤ candidateSortKey b) :
    qualityTuple b ≤ qualityTuple a ↔ (Tied a b → regimeScores b ≤ regimeScores a) := by
  constructor
  · rintro hle ⟨hquality, hedge, hmemory⟩
    unfold qualityTuple at hle
    rw [hquality, hedge, hmemory] at hle
    simp only [Prod.Lex.toLex_le_toLex, lt_irrefl, false_or, true_and] at hle
    unfold regimeScores
    rw [Prod.Lex.toLex_le_toLex]
    exact hle.imp_right fun ⟨hconfidence, hrest⟩ =>
      ⟨hconfidence, hrest.elim (fun hlt => hlt.le) fun heq => heq.1.le⟩
  · intro hregime
    unfold candidateSortKey at hkey
    rw [hvalid, Prod.Lex.toLex_le_toLex] at hkey
    have hrank := (hkey.resolve_left (lt_irrefl _)).2
    refine le_of_neg_le hrank fun hquality hrank => ?_
    refine le_of_neg_le hrank fun hedge hrank => ?_
    refine le_of_neg_le hrank fun hmemory hrank => ?_
    have hscores := hregime ⟨Subtype.ext hquality, hedge, Subtype.ext hmemory⟩
    unfold regimeScores at hscores
    rw [Prod.Lex.toLex_le_toLex] at hscores
    rw [Prod.Lex.toLex_le_toLex]
    refine hscores.imp_right fun ⟨hconfidence, hcompatibility⟩ => ⟨hconfidence, ?_⟩
    rw [Prod.Lex.toLex_le_toLex]
    refine hcompatibility.lt_or_eq.imp_right fun hcompatibility => ⟨hcompatibility, ?_⟩
    refine le_of_neg_le hrank fun _ hrank => ?_
    refine le_of_neg_le hrank fun _ hrank => ?_
    refine le_of_neg_le hrank fun _ hrank => ?_
    rw [Prod.Lex.toLex_le_toLex] at hrank
    exact neg_le_neg (hrank.elim (fun hlt => hlt.le) fun heq => heq.1.le)

/-- A candidate is rejected for the selected member of its known group. It is not the stronger one,
so that the decision is not the one for correlated exposure, if and only if its regime scores are not
larger where the two agree on all that is ranked above them. -/
theorem duplicates_are_not_stronger (candidates : List PortfolioCandidate)
    (limits : PortfolioRiskLimits) :
    ∃ result, selectPortfolio candidates limits = .ok result ∧
      ∀ c ∈ result.rejectedCandidates, c.decision.isCorrelation = true →
        ∃ s ∈ result.selectedCandidates, s.betaGroup = c.betaGroup ∧ c.betaGroup ≠ .unknown ∧
          (c.decision ≠ .rejectedCorrelatedExposure ↔ qualityTuple c ≤ qualityTuple s) ∧
          (qualityTuple c ≤ qualityTuple s ↔ (Tied s c → regimeScores c ≤ regimeScores s)) := by
  obtain ⟨result, hresult, hselected, hrejected⟩ := selectPortfolio_eq candidates limits
  refine ⟨result, hresult, fun c hc hcorrelation => ?_⟩
  rw [hrejected] at hc
  rw [hselected]
  obtain ⟨higher, lower, hkept, hhigher, -, hgrounds⟩ := grounds_of_rejected hc
  generalize c.decision = decision at hgrounds hcorrelation ⊢
  generalize c.decisionReason = reason at hgrounds
  cases hgrounds with
  | preselection h =>
    rcases preselection_cases h with rfl | rfl | rfl <;> cases hcorrelation
  | count | risk | groupRisk => cases hcorrelation
  | @correlated existing hallow htradeable hmem hgroup hknown =>
    have hmember : existing ∈ (Greedy.select (judge limits) (ranked candidates)).kept.map mark :=
      hkept ▸ List.mem_append_left lower hmem
    have hvalid := ((withinLimits_select (ranked candidates)).marked.tradeable existing hmember).1
    refine ⟨existing, hmember, hgroup, hknown, ?_, qualityTuple_le_iff
      (hvalid.trans (tradeable_of_preselection htradeable).1.symm) (hhigher _ hmem)⟩
    split
    next hle => exact iff_of_true (by decide) hle
    next hnot => exact iff_of_false (by decide) hnot

/-- Two setups of one group that differ in their rewards and in their regime scores. -/
def steady : PortfolioCandidate where
  symbol := "ARBUSDT"
  qualityScore := ⟨80, by decide⟩
  rr := some ⟨300000000, by decide⟩
  riskPct := ⟨⟨100000000, by decide⟩, by decide⟩
  betaGroup := .l1L2
  validTrade := true

def favoured : PortfolioCandidate where
  symbol := "OPUSDT"
  qualityScore := ⟨80, by decide⟩
  rr := some ⟨200000000, by decide⟩
  riskPct := ⟨⟨100000000, by decide⟩, by decide⟩
  betaGroup := .l1L2
  regimeConfidenceAdjustment := ⟨5, by decide⟩
  validTrade := true

/-- The setup with the better regime scores is ranked lower by its reward, and rejected for
correlated exposure although its quality tuple is the larger one. -/
theorem ranking_and_quality_disagree :
    ∃ result, selectPortfolio [steady, favoured] {} = .ok result ∧
      result.selectedCandidates = [mark steady] ∧
      result.rejectedCandidates.map (fun c => (c.symbol, c.decision)) =
        [("OPUSDT", .rejectedCorrelatedExposure)] ∧
      qualityTuple steady < qualityTuple favoured := by
  obtain ⟨result, hresult, hselected, hrejected⟩ := selectPortfolio_eq [steady, favoured] {}
  refine ⟨result, hresult, ?_, ?_, by decide⟩
  · rw [hselected]
    decide +kernel
  · rw [hrejected]
    decide +kernel

end Strength

section ScanOrder

variable {candidates : List PortfolioCandidate}

theorem symbol_of_candidateSortKey {a b : PortfolioCandidate}
    (h : candidateSortKey a = candidateSortKey b) : a.symbol = b.symbol := by
  simp only [candidateSortKey, toLex_inj, Prod.mk.injEq] at h
  exact h.2.2.2.2.2.2.2.2

theorem ranked_perm {candidates' : List PortfolioCandidate}
    (hsymbols : (candidates.map fun c => c.symbol).Nodup) (hperm : candidates'.Perm candidates) :
    ranked candidates' = ranked candidates := by
  have hsorted : (ranked candidates').Perm (ranked candidates) :=
    ((List.perm_insertionSort _ _).trans hperm).trans (List.perm_insertionSort _ _).symm
  refine hsorted.eq_of_pairwise ?_ (ranked_pairwise candidates') (ranked_pairwise candidates)
  intro a b ha hb hab hba
  have ha : a ∈ candidates := hperm.subset ((List.perm_insertionSort _ _).subset ha)
  have hb : b ∈ candidates := (List.perm_insertionSort _ _).subset hb
  exact List.inj_on_of_nodup_map hsymbols ha hb (symbol_of_candidateSortKey (le_antisymm hab hba))

/-- A scan with distinct symbols has one portfolio, in whatever order its candidates come: the
selected candidates, every decision with its reason, the exposure summary and the totals. -/
theorem portfolio_ignores_scan_order (limits : PortfolioRiskLimits)
    (hsymbols : (candidates.map fun c => c.symbol).Nodup) :
    ∃ result, selectPortfolio candidates limits = .ok result ∧
      ∀ candidates', candidates'.Perm candidates → selectPortfolio candidates' limits = .ok result := by
  obtain ⟨result, hresult, -⟩ := selectPortfolio_eq candidates limits
  refine ⟨result, hresult, fun candidates' hperm => ?_⟩
  rw [← hresult, selectPortfolio, ranked_perm hsymbols hperm, selectPortfolio]

theorem portfolio_ignores_scan_order_two_setups :
    [favoured, steady].Perm [steady, favoured] ∧
    ∃ result, selectPortfolio [steady, favoured] {} = .ok result ∧
      selectPortfolio [favoured, steady] {} = .ok result := by
  have hperm : [favoured, steady].Perm [steady, favoured] := List.Perm.swap _ _ _
  obtain ⟨result, hresult, hall⟩ := portfolio_ignores_scan_order {}
    (show ([steady, favoured].map fun c => c.symbol).Nodup by decide)
  exact ⟨hperm, result, hresult, hall _ hperm⟩

theorem ranked_filter (hsymbols : (candidates.map fun c => c.symbol).Nodup)
    (p : PortfolioCandidate → Bool) :
    ranked (candidates.filter p) = (ranked candidates).filter p := by
  have hsorted : (ranked (candidates.filter p)).Perm ((ranked candidates).filter p) :=
    (List.perm_insertionSort _ _).trans ((List.perm_insertionSort _ candidates).symm.filter p)
  refine hsorted.eq_of_pairwise ?_ (ranked_pairwise _) ((ranked_pairwise candidates).filter p)
  intro a b ha hb hab hba
  have ha : a ∈ candidates := List.mem_of_mem_filter ((List.perm_insertionSort _ _).subset ha)
  have hb : b ∈ candidates := (List.perm_insertionSort _ _).subset (List.mem_of_mem_filter hb)
  exact List.inj_on_of_nodup_map hsymbols ha hb (symbol_of_candidateSortKey (le_antisymm hab hba))

/-- Candidates that are rejected have no influence on the selection: without any of them the same
candidates are selected. -/
theorem rejected_candidates_are_irrelevant (limits : PortfolioRiskLimits)
    (hsymbols : (candidates.map fun c => c.symbol).Nodup) (stays : String → Bool) :
    ∃ result result', selectPortfolio candidates limits = .ok result ∧
      selectPortfolio (candidates.filter fun c => stays c.symbol) limits = .ok result' ∧
      ((∀ c ∈ result.selectedCandidates, stays c.symbol = true) →
        result'.selectedCandidates = result.selectedCandidates) := by
  obtain ⟨result, hresult, hselected, -⟩ := selectPortfolio_eq candidates limits
  obtain ⟨result', hresult', hselected', -⟩ :=
    selectPortfolio_eq (candidates.filter fun c => stays c.symbol) limits
  refine ⟨result, result', hresult, hresult', fun hstays => ?_⟩
  rw [hselected] at hstays
  rw [hselected, hselected', ranked_filter hsymbols, Greedy.kept_filter]
  intro a ha
  exact hstays (mark a) (List.mem_map_of_mem ha)

theorem rejected_candidates_are_irrelevant_two_setups :
    ∃ result result', selectPortfolio [steady, favoured] {} = .ok result ∧
      selectPortfolio ([steady, favoured].filter fun c => c.symbol != favoured.symbol) {} =
        .ok result' ∧
      result'.selectedCandidates = result.selectedCandidates := by
  obtain ⟨result, result', hresult, hresult', hsame⟩ := rejected_candidates_are_irrelevant {}
    (show ([steady, favoured].map fun c => c.symbol).Nodup by decide) (· != favoured.symbol)
  obtain ⟨again, hagain, hselected, -⟩ := selectPortfolio_eq [steady, favoured] {}
  cases hresult.symm.trans hagain
  refine ⟨result, result', hresult, hresult', hsame ?_⟩
  rw [hselected]
  decide +kernel

end ScanOrder

end CandleCraft.Portfolio
