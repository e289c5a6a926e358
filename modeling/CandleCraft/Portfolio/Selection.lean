import CandleCraft.Basic
import Mathlib.Data.List.Dedup
import Mathlib.Data.List.Sort
import Mathlib.Data.Prod.Lex
import Mathlib.Data.String.Basic

/-!
# Portfolio selection

The candidates of a scan are ranked and taken one after the other, as long as the limits on the
number of setups, on the risk of the portfolio and on that of each beta group allow it. Candidates
are modelled as their validators leave them: scores within their ranges, decimals with eight places
that fit the decimal context, risks that are not negative.
-/

namespace CandleCraft.Portfolio

open PyDecimal

section Candidates

inductive PortfolioDecision where
  | selected
  | watchlistOnly
  | rejectedLowerQualityDuplicate
  | rejectedPortfolioRiskLimit
  | rejectedCorrelatedExposure
  | rejectedNoValidTrade
  | dataIncomplete
  deriving DecidableEq

inductive BetaGroup where
  | btcMajor
  | ethBeta
  | solBeta
  | l1L2
  | meme
  | ai
  | rwa
  | defi
  | unknown
  deriving DecidableEq

def BetaGroup.value : BetaGroup → String
  | btcMajor => "BTC_MAJOR"
  | ethBeta => "ETH_BETA"
  | solBeta => "SOL_BETA"
  | l1L2 => "L1_L2"
  | meme => "MEME"
  | ai => "AI"
  | rwa => "RWA"
  | defi => "DEFI"
  | unknown => "UNKNOWN"

/-- A whole number within the bounds of its field. -/
abbrev Within (lower upper : ℤ) := { n : ℤ // lower ≤ n ∧ n ≤ upper }

/-- A decimal as `_quantize` returns it: so many hundred-millionths, in no more digits than the
context has. -/
structure Quantized where
  units : ℤ
  fits : units.natAbs < 10 ^ decimalContext.prec
  deriving DecidableEq

/-- `OUTPUT_QUANT` is ten to this power. -/
def outputExponent : ℤ := -8

/-- The number a decimal denotes. -/
def Quantized.value (q : Quantized) : ℚ := q.units * (10 : ℚ) ^ outputExponent

/-- The text of a decimal, in scientific notation if it has fewer than three digits. -/
def Quantized.text (q : Quantized) : String :=
  let digits := (Nat.repr q.units.natAbs).toList
  let body :=
    match digits with
    | [d] => [d] ++ "E-8".toList
    | [d, d'] => [d, '.', d'] ++ "E-7".toList
    | _ =>
      let padded := List.replicate (9 - digits.length) '0' ++ digits
      padded.take (padded.length - 8) ++ '.' :: padded.drop (padded.length - 8)
  String.ofList (if q.units < 0 then '-' :: body else body)

/-- A percentage that is not negative. -/
structure RiskPct extends Quantized where
  nonneg : 0 ≤ units
  deriving DecidableEq

structure PortfolioRiskLimits where
  maxSelectedSetups : ℕ := 3
  maxSelected_positive : 1 ≤ maxSelectedSetups := by decide
  maxPortfolioRiskPct : RiskPct := ⟨⟨300000000, by decide⟩, by decide⟩
  maxBetaGroupRiskPct : RiskPct := ⟨⟨150000000, by decide⟩, by decide⟩
  allowCorrelatedSetups : Bool := false

structure PortfolioCandidate where
  symbol : String
  qualityScore : Within 0 100 := ⟨0, by decide⟩
  tradeabilityScore : Within 0 100 := ⟨0, by decide⟩
  edgeScore : Option Quantized := none
  expectancy : Option Quantized := none
  rr : Option Quantized := none
  riskPct : RiskPct := ⟨⟨0, by decide⟩, by decide⟩
  betaGroup : BetaGroup := .unknown
  derivativesScore : Within 0 100 := ⟨0, by decide⟩
  executionRiskScore : Within 0 100 := ⟨100, by decide⟩
  derivativesClean : Option Bool := none
  memoryPreferenceAdjustment : Within (-5) 5 := ⟨0, by decide⟩
  regimeCompatibilityScore : Within 0 100 := ⟨50, by decide⟩
  regimeConfidenceAdjustment : Within (-20) 10 := ⟨0, by decide⟩
  validTrade : Bool := false
  nearMiss : Bool := false
  dataIncomplete : Bool := false
  regimeWarnings : List String := []
  decision : PortfolioDecision := .rejectedNoValidTrade
  decisionReason : String := NA
  deriving DecidableEq

end Candidates

section Ranking

variable (candidate : PortfolioCandidate)

/-- `_decimal_score`, in hundred-millionths. -/
def decimalScore (value : Option Quantized) : ℤ := (value.map fun q => q.units).getD 0

def rankingEdge : ℤ :=
  let expectancy := decimalScore candidate.expectancy
  if expectancy ≠ 0 then expectancy else decimalScore candidate.edgeScore

def derivativesCleanlinessScore : ℤ :=
  match candidate.derivativesClean with
  | some true => candidate.derivativesScore + 20
  | some false => candidate.derivativesScore - 30
  | none => candidate.derivativesScore

/-- Tuples are compared component by component. -/
abbrev SortKey := ℤ ×ₗ ℤ ×ₗ ℤ ×ₗ ℤ ×ₗ ℤ ×ₗ ℤ ×ₗ ℤ ×ₗ ℤ ×ₗ String

def candidateSortKey : SortKey :=
  toLex (if candidate.validTrade then 0 else 1,
    toLex (-candidate.qualityScore,
    toLex (-rankingEdge candidate,
    toLex (-candidate.memoryPreferenceAdjustment,
    toLex (-decimalScore candidate.rr,
    toLex (-candidate.tradeabilityScore,
    toLex (-derivativesCleanlinessScore candidate,
    toLex ((candidate.executionRiskScore : ℤ), candidate.symbol))))))))

abbrev QualityTuple := ℤ ×ₗ ℤ ×ₗ ℤ ×ₗ ℤ ×ₗ ℤ ×ₗ ℤ ×ₗ ℤ ×ₗ ℤ ×ₗ ℤ

def qualityTuple : QualityTuple :=
  toLex ((candidate.qualityScore : ℤ),
    toLex (rankingEdge candidate,
    toLex ((candidate.memoryPreferenceAdjustment : ℤ),
    toLex ((candidate.regimeConfidenceAdjustment : ℤ),
    toLex ((candidate.regimeCompatibilityScore : ℤ),
    toLex (decimalScore candidate.rr,
    toLex ((candidate.tradeabilityScore : ℤ),
    toLex (derivativesCleanlinessScore candidate,
      -(candidate.executionRiskScore : ℤ)))))))))

/-- The candidates in the order in which they are considered. -/
def ranked (candidates : List PortfolioCandidate) : List PortfolioCandidate :=
  candidates.insertionSort fun a b => candidateSortKey a ≤ candidateSortKey b

end Ranking

section Selection

def preselectionDecision (candidate : PortfolioCandidate) : Option (PortfolioDecision × String) :=
  if candidate.dataIncomplete then
    some (.dataIncomplete, "Required setup or risk data is incomplete.")
  else if candidate.nearMiss then some (.watchlistOnly, "Near-miss remains watchlist only.")
  else if !candidate.validTrade then
    some (.rejectedNoValidTrade, "Candidate is not a valid trade setup.")
  else none

def withDecision (candidate : PortfolioCandidate) (decision : PortfolioDecision)
    (reason : String) : PortfolioCandidate :=
  { candidate with decision, decisionReason := reason }

def quantize (value : ℚ) : Except Signal ℚ := decimalContext.quantize value outputExponent

def selectedRisk (selected : List PortfolioCandidate) : Except Signal ℚ := do
  let total ← decimalContext.sum (selected.map fun candidate => candidate.riskPct.value)
  quantize total

/-- The texts of the decisions. -/
def correlatedReason (candidate existing : PortfolioCandidate) : String :=
  candidate.betaGroup.value ++ " exposure already selected via " ++ existing.symbol ++ "."

def countReason (limits : PortfolioRiskLimits) : String :=
  "Max selected setups limit " ++ Nat.repr limits.maxSelectedSetups ++ " is already reached."

def portfolioRiskReason (limits : PortfolioRiskLimits) (candidate : PortfolioCandidate) : String :=
  "Portfolio risk would exceed " ++ limits.maxPortfolioRiskPct.text ++ "% with " ++
    candidate.symbol ++ "."

def groupRiskReason (limits : PortfolioRiskLimits) (candidate : PortfolioCandidate) : String :=
  candidate.betaGroup.value ++ " risk would exceed " ++ limits.maxBetaGroupRiskPct.text ++ "%."

def selectedReason : String := "Selected by portfolio rules."

def sameGroupSelected (selected : List PortfolioCandidate) (candidate : PortfolioCandidate) :
    List PortfolioCandidate :=
  selected.filter fun item =>
    item.betaGroup = candidate.betaGroup ∧ candidate.betaGroup ≠ .unknown

structure SelectionState where
  decisions : List PortfolioCandidate := []
  selected : List PortfolioCandidate := []
  groupRisk : BetaGroup → ℚ := fun _ => 0

def SelectionState.reject (s : SelectionState) (candidate : PortfolioCandidate)
    (decision : PortfolioDecision) (reason : String) : SelectionState :=
  { s with decisions := s.decisions ++ [withDecision candidate decision reason] }

def SelectionState.consider (limits : PortfolioRiskLimits) (s : SelectionState)
    (candidate : PortfolioCandidate) : Except Signal SelectionState := do
  let candidateRisk ← quantize candidate.riskPct.value
  let currentTotalRisk ← selectedRisk s.selected
  if limits.maxSelectedSetups ≤ s.selected.length then
    pure (s.reject candidate .rejectedPortfolioRiskLimit (countReason limits))
  else
    let total ← decimalContext.add currentTotalRisk candidateRisk
    if limits.maxPortfolioRiskPct.value < total then
      pure (s.reject candidate .rejectedPortfolioRiskLimit (portfolioRiskReason limits candidate))
    else
      let group ← decimalContext.add (s.groupRisk candidate.betaGroup) candidateRisk
      if limits.maxBetaGroupRiskPct.value < group then
        pure (s.reject candidate .rejectedPortfolioRiskLimit (groupRiskReason limits candidate))
      else
        let selectedCandidate := withDecision candidate .selected selectedReason
        pure
          { decisions := s.decisions ++ [selectedCandidate]
            selected := s.selected ++ [selectedCandidate]
            groupRisk := Function.update s.groupRisk candidate.betaGroup group }

def SelectionState.step (limits : PortfolioRiskLimits) (s : SelectionState)
    (candidate : PortfolioCandidate) : Except Signal SelectionState :=
  match preselectionDecision candidate with
  | some (decision, reason) => .ok (s.reject candidate decision reason)
  | none =>
    match sameGroupSelected s.selected candidate, limits.allowCorrelatedSetups with
    | existing :: _, false =>
      let decision :=
        if qualityTuple candidate ≤ qualityTuple existing then
          PortfolioDecision.rejectedLowerQualityDuplicate
        else .rejectedCorrelatedExposure
      .ok (s.reject candidate decision (correlatedReason candidate existing))
    | _, _ => s.consider limits candidate

end Selection

section Result

structure PortfolioExposureGroup where
  betaGroup : BetaGroup
  riskPct : ℚ
  selectedCount : ℕ
  symbols : List String

def exposureSummary (selected : List PortfolioCandidate) :
    Except Signal (List PortfolioExposureGroup) :=
  let groups := (selected.map fun candidate => candidate.betaGroup).dedup.insertionSort
    fun a b => a.value ≤ b.value
  groups.mapM fun betaGroup => do
    let candidates := selected.filter fun candidate => candidate.betaGroup = betaGroup
    let risk ← selectedRisk candidates
    let riskPct ← quantize risk
    pure { betaGroup, riskPct, selectedCount := candidates.length,
           symbols := candidates.map fun candidate => candidate.symbol }

def uniqueStrings (values : List String) : List String :=
  values.foldl (fun output value =>
    let text := if PyText.strip value = "" then NA else PyText.strip value
    if text ≠ NA ∧ text ∉ output then output ++ [text] else output) []

def PortfolioDecision.isCorrelation (decision : PortfolioDecision) : Bool :=
  decision = .rejectedLowerQualityDuplicate ∨ decision = .rejectedCorrelatedExposure

def portfolioWarnings (selected rejected : List PortfolioCandidate) : List String :=
  (if selected.isEmpty then ["No valid setup survived portfolio selection."] else []) ++
  (if rejected.any fun candidate => candidate.decision = .dataIncomplete then
    ["Some candidates had incomplete data and were not selected."] else []) ++
  uniqueStrings ((selected ++ rejected).flatMap fun candidate => candidate.regimeWarnings) ++
  (if rejected.any fun candidate => candidate.decision.isCorrelation then
    ["Correlated beta exposure was reduced by keeping the strongest setup per group."] else [])

structure PortfolioSelectionResult where
  riskLimits : PortfolioRiskLimits
  selectedCandidates : List PortfolioCandidate
  rejectedCandidates : List PortfolioCandidate
  exposureSummary : List PortfolioExposureGroup
  portfolioWarnings : List String
  selectedCount : ℕ
  totalRiskPct : ℚ
  rejectedDueToCorrelation : ℕ
  rejectedDueToRiskLimit : ℕ

def selectPortfolio (candidates : List PortfolioCandidate) (limits : PortfolioRiskLimits) :
    Except Signal PortfolioSelectionResult := do
  let final ← (ranked candidates).foldlM (SelectionState.step limits) {}
  let rejected := final.decisions.filter fun candidate => candidate.decision ≠ .selected
  let summary ← exposureSummary final.selected
  let totalRisk ← selectedRisk final.selected
  pure
    { riskLimits := limits
      selectedCandidates := final.selected
      rejectedCandidates := rejected
      exposureSummary := summary
      portfolioWarnings := portfolioWarnings final.selected rejected
      selectedCount := final.selected.length
      totalRiskPct := totalRisk
      rejectedDueToCorrelation := rejected.countP fun candidate => candidate.decision.isCorrelation
      rejectedDueToRiskLimit := rejected.countP fun candidate =>
        candidate.decision = .rejectedPortfolioRiskLimit }

end Result

end CandleCraft.Portfolio
