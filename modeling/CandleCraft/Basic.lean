import CandleCraft.Kernel.Decimal
import CandleCraft.Kernel.DecimalText

/-!
# Shared vocabulary

Instants, the missing marker, the context status and the decimal context, which the
outbox, the market data layer and the lifecycle layer have in common.
-/

namespace CandleCraft

/-- A UTC instant in microseconds. -/
abbrev Instant := ℤ

/-- The marker the repository stores for a missing text. -/
def NA : String := "N/A"

/-- `ContextStatus`, as far as the market data layer assigns it. -/
inductive ContextStatus where
  | verified
  | stale
  | unavailable
  | error
  deriving DecidableEq

/-- A number as a row or a message carries it: absent, a blank text (`empty` when it has
no characters), the missing marker (`exact` when it has no padding), a value `Decimal`
rejects, an infinity or a NaN, or a finite decimal. -/
inductive NumericField where
  | absent
  | blank (empty : Bool)
  | na (exact : Bool)
  | malformed
  | nonFinite
  | number (value : ℚ)
  deriving DecidableEq

def NumericField.ofText (text : String) : NumericField :=
  if text = "" then .blank true
  else if text = NA then .na true
  else if PyText.strip text = "" then .blank false
  else if PyText.strip text = NA then .na false
  else
    match PyDecimal.parse text with
    | .malformed => .malformed
    | .nonFinite => .nonFinite
    | .finite value => .number value

/-- The default decimal context: 28 digits, exponents from -999999 to 999999. -/
def decimalContext : PyDecimal.Context := ⟨28, -999999, 999999, by decide⟩

end CandleCraft
