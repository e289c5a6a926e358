import CandleCraft.Candles.Integrity

/-!
# Candle values

The checks on the numbers of a candle, as a consumer makes them that does not require a volume. What
they accept is positive and lies between the low and the high.
-/

namespace CandleCraft.Candles

/-- The complaints of `validate_candle_values`, with the values their messages report. -/
inductive CandleValueError where
  | missingPrice (field : String)
  | invalidPrice (field : String)
  | invalidOhlcGeometry (openPrice high low close : ℚ)
  | blankVolume (field : String)
  | invalidVolume (field : String)
  deriving DecidableEq

/-- The prices of a candle that passes `validate_candle_values`. -/
structure CandlePrices where
  openPrice : ℚ
  high : ℚ
  low : ℚ
  close : ℚ
  positive : 0 < low
  open_mem : low ≤ openPrice ∧ openPrice ≤ high
  close_mem : low ≤ close ∧ close ≤ high

/-- A price of `validate_candle_values`. A padded missing marker is an invalid price. -/
def priceField (field : String) : NumericField → Except CandleValueError {price : ℚ // 0 < price}
  | .absent | .blank _ | .na true => .error (.missingPrice field)
  | .na false | .malformed | .nonFinite => .error (.invalidPrice field)
  | .number value => if h : 0 < value then .ok ⟨value, h⟩ else .error (.invalidPrice field)

/-- A volume of `validate_candle_values`, which a price-only consumer does not require. -/
def volumeField (field : String) : NumericField → Except CandleValueError Unit
  | .absent | .na _ => .ok ()
  | .blank _ => .error (.blankVolume field)
  | .malformed | .nonFinite => .error (.invalidVolume field)
  | .number value => if value < 0 then .error (.invalidVolume field) else .ok ()

/-- `validate_candle_values` without a required volume. -/
def candlePrices (candle : RawCandle) : Except CandleValueError CandlePrices := do
  let openPrice ← priceField "open" candle.openPrice
  let high ← priceField "high" candle.high
  let low ← priceField "low" candle.low
  let close ← priceField "close" candle.closePrice
  if h : (low.1 ≤ openPrice.1 ∧ openPrice.1 ≤ high.1) ∧ (low.1 ≤ close.1 ∧ close.1 ≤ high.1) then
    volumeField "volume" candle.volume
    volumeField "quote_volume" candle.quoteVolume
    volumeField "turnover" candle.turnover
    pure ⟨openPrice.1, high.1, low.1, close.1, low.2, h.1, h.2⟩
  else .error (.invalidOhlcGeometry openPrice.1 high.1 low.1 close.1)

end CandleCraft.Candles
