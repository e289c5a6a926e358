import CandleCraft.Basic
import CandleCraft.Kernel.Table
import CandleCraft.Kernel.Text
import CandleCraft.Kernel.Transition

/-!
# The trade flow of one symbol

`SymbolFlowAggregator`: aggregated trades are summed in minute buckets, of which the latest are
kept, and windows of whole minutes are reported from them. `coverage_start` is the instant from
which every trade has been seen: a connect sets it, a disconnect clears it, and an id gap moves it
to the trade after the gap. Amounts too large for the default context are left out.
-/

namespace CandleCraft.Microstructure

open Relational PyText PyDecimal

def minute : ℤ := 60000000

def minuteStart (t : Instant) : Instant := t - t % minute

def flowWindowsMinutes : List ℕ := [1, 5, 15]

def maxRetainedMinuteBuckets : ℕ := 16

/-! ## Trades and buckets -/

/-- The side that takes liquidity. -/
inductive Aggressor where
  | buy
  | sell
  deriving DecidableEq

/-- A parsed `BinanceAggTrade`. -/
structure AggTrade where
  symbol : String
  aggregateTradeId : ℕ
  price : ℚ
  quantity : ℚ
  normalQuantity : Option ℚ
  firstTradeId : ℕ
  lastTradeId : ℕ
  eventTime : Instant
  tradeTime : Instant
  buyerIsMaker : Bool
  price_pos : 0 < price
  quantity_pos : 0 < quantity
  normal_le : ∀ nq ∈ normalQuantity, 0 ≤ nq ∧ nq ≤ quantity
  first_le_last : firstTradeId ≤ lastTradeId

namespace AggTrade

/-- A buyer that is the maker was hit by an aggressive seller. -/
def aggressiveSide (e : AggTrade) : Aggressor := if e.buyerIsMaker then .sell else .buy

def quoteNotional (e : AggTrade) : ℚ := decimalContext.fit (e.price * e.quantity)

def normalQuoteNotional (e : AggTrade) : Option ℚ :=
  e.normalQuantity.map fun nq => decimalContext.fit (e.price * nq)

def underlyingTradeCount (e : AggTrade) : ℕ := e.lastTradeId - e.firstTradeId + 1

end AggTrade

structure MinuteFlowBucket where
  bucketStart : Instant
  aggressiveBuyBase : ℚ := 0
  aggressiveSellBase : ℚ := 0
  aggressiveBuyQuote : ℚ := 0
  aggressiveSellQuote : ℚ := 0
  normalQuoteNotional : ℚ := 0
  normalQuantityMissingEvents : ℕ := 0
  aggregateEventCount : ℕ := 0
  underlyingTradeCount : ℕ := 0
  firstAggregateTradeId : Option ℕ := none
  lastAggregateTradeId : Option ℕ := none
  firstTradeTime : Option Instant := none
  lastTradeTime : Option Instant := none
  firstPrice : Option ℚ := none
  lastPrice : Option ℚ := none
  rpiEventCount : ℕ := 0

namespace MinuteFlowBucket

def deltaQuote (b : MinuteFlowBucket) : ℚ :=
  decimalContext.fit (b.aggressiveBuyQuote - b.aggressiveSellQuote)

def addIf (p : Prop) [Decidable p] (amount x : ℚ) : ℚ :=
  if p then decimalContext.fit (amount + x) else amount

def apply (b : MinuteFlowBucket) (e : AggTrade) : MinuteFlowBucket where
  bucketStart := b.bucketStart
  aggressiveBuyBase := addIf (e.aggressiveSide = .buy) b.aggressiveBuyBase e.quantity
  aggressiveBuyQuote := addIf (e.aggressiveSide = .buy) b.aggressiveBuyQuote e.quoteNotional
  aggressiveSellBase := addIf (e.aggressiveSide ≠ .buy) b.aggressiveSellBase e.quantity
  aggressiveSellQuote := addIf (e.aggressiveSide ≠ .buy) b.aggressiveSellQuote e.quoteNotional
  normalQuantityMissingEvents :=
    b.normalQuantityMissingEvents + (if e.normalQuoteNotional = none then 1 else 0)
  normalQuoteNotional :=
    match e.normalQuoteNotional with
    | none => b.normalQuoteNotional
    | some normal => decimalContext.fit (b.normalQuoteNotional + normal)
  rpiEventCount := b.rpiEventCount +
    (if e.normalQuoteNotional ≠ none ∧ e.normalQuantity ≠ some e.quantity then 1 else 0)
  aggregateEventCount := b.aggregateEventCount + 1
  underlyingTradeCount := b.underlyingTradeCount + e.underlyingTradeCount
  -- the first trade of the bucket sets the three first fields
  firstAggregateTradeId :=
    if b.firstAggregateTradeId = none then some e.aggregateTradeId else b.firstAggregateTradeId
  firstTradeTime := if b.firstAggregateTradeId = none then some e.tradeTime else b.firstTradeTime
  firstPrice := if b.firstAggregateTradeId = none then some e.price else b.firstPrice
  lastAggregateTradeId := some e.aggregateTradeId
  lastTradeTime := some e.tradeTime
  lastPrice := some e.price

end MinuteFlowBucket

/-- `dict[datetime, MinuteFlowBucket]`. -/
abbrev Buckets := Table MinuteFlowBucket MinuteFlowBucket.bucketStart

namespace Buckets

def starts (buckets : Buckets) : List Instant :=
  (buckets.rows.map MinuteFlowBucket.bucketStart).insertionSort (· ≤ ·)

def record (buckets : Buckets) (e : AggTrade) : Buckets :=
  let bucketStart := minuteStart e.tradeTime
  let bucket := (buckets.fetch bucketStart).getD { bucketStart := bucketStart }
  buckets.put (bucket.apply e)

/-- `_prune_buckets`. -/
def prune (maxRetained : ℕ) (buckets : Buckets) : Buckets :=
  if buckets.rows.length ≤ maxRetained then buckets
  else (buckets.starts.take (buckets.rows.length - maxRetained)).foldl Table.remove buckets

end Buckets

/-! ## The aggregator -/

inductive CoverageReason where
  | insufficientWindowCoverage
  | connectionReconnectInWindow
  | connectionGapInWindow
  | tradeTimeRegressionInWindow
  | aggregateTradeIdGapInWindow
  deriving DecidableEq

def CoverageReason.text : CoverageReason → String
  | insufficientWindowCoverage => "insufficient_window_coverage"
  | connectionReconnectInWindow => "connection_reconnect_in_window"
  | connectionGapInWindow => "connection_gap_in_window"
  | tradeTimeRegressionInWindow => "trade_time_regression_in_window"
  | aggregateTradeIdGapInWindow => "aggregate_trade_id_gap_in_window"

/-- The constructor arguments as `__init__` keeps them: fewer buckets than the longest window needs
are refused. -/
structure FlowConfig where
  symbol : String
  staleAfterSeconds : ℚ
  maxRetainedBuckets : ℕ
  retained_ge : maxRetainedMinuteBuckets ≤ maxRetainedBuckets

/-- `SymbolFlowAggregator`. -/
structure FlowAggregator where
  config : FlowConfig
  buckets : Buckets
  connected : Bool
  coverageStart : Option Instant
  coverageReason : CoverageReason
  lastAggregateTradeId : Option ℕ
  lastTradeTime : Option Instant
  lastEventTime : Option Instant
  acceptedEventCount : ℕ
  duplicateEventCount : ℕ
  outOfOrderEventCount : ℕ
  gapCount : ℕ
  reconnectCount : ℕ
  rpiEventCount : ℕ

namespace FlowAggregator

/-- `__init__`, after its arguments are validated. -/
def initial (config : FlowConfig) : FlowAggregator where
  config := config
  buckets := Table.empty
  connected := false
  coverageStart := none
  coverageReason := .insufficientWindowCoverage
  lastAggregateTradeId := none
  lastTradeTime := none
  lastEventTime := none
  acceptedEventCount := 0
  duplicateEventCount := 0
  outOfOrderEventCount := 0
  gapCount := 0
  reconnectCount := 0
  rpiEventCount := 0

def markConnected (instant : Instant) (reconnect : Bool) (f : FlowAggregator) : FlowAggregator :=
  { f with
    reconnectCount := if reconnect then f.reconnectCount + 1 else f.reconnectCount
    coverageReason :=
      if reconnect then .connectionReconnectInWindow
      else if f.coverageStart = none then .insufficientWindowCoverage
      else f.coverageReason
    coverageStart := some instant
    connected := true }

/-- The instant is normalized and not used. -/
def markDisconnected (f : FlowAggregator) : FlowAggregator :=
  { f with
    gapCount := if f.connected then f.gapCount + 1 else f.gapCount
    connected := false
    coverageStart := none
    coverageReason := .connectionGapInWindow }

def markUncertainCoverage (instant : Instant) (reason : CoverageReason) (f : FlowAggregator) :
    FlowAggregator :=
  { f with coverageStart := some instant, coverageReason := reason }

def accept (e : AggTrade) (f : FlowAggregator) : FlowAggregator :=
  { f with
    buckets := (f.buckets.record e).prune f.config.maxRetainedBuckets
    lastAggregateTradeId := some e.aggregateTradeId
    lastTradeTime := some e.tradeTime
    lastEventTime := some e.eventTime
    acceptedEventCount := f.acceptedEventCount + 1
    rpiEventCount := f.rpiEventCount +
      (if e.normalQuantity ≠ none ∧ e.normalQuantity ≠ some e.quantity then 1 else 0) }

/-- An id beyond the next one moves the start of coverage to the trade. -/
def noteGap (e : AggTrade) (f : FlowAggregator) : FlowAggregator :=
  if f.lastAggregateTradeId.any fun previous => decide (previous + 1 < e.aggregateTradeId) then
    { f with gapCount := f.gapCount + 1 }.markUncertainCoverage e.tradeTime
      .aggregateTradeIdGapInWindow
  else f

/-- `ingest`; the error is the text of a `ValueError`. -/
def ingest (e : AggTrade) (f : FlowAggregator) : Except String Bool × FlowAggregator :=
  if e.symbol ≠ f.config.symbol then
    (.error ("aggTrade symbol " ++ e.symbol ++ " does not match aggregator " ++ f.config.symbol),
      f)
  else if f.lastAggregateTradeId.any fun previous => decide (e.aggregateTradeId ≤ previous) then
    (.ok false,
      if f.lastAggregateTradeId = some e.aggregateTradeId then
        { f with duplicateEventCount := f.duplicateEventCount + 1 }
      else { f with outOfOrderEventCount := f.outOfOrderEventCount + 1 })
  else
    match f.lastTradeTime.filter fun last => decide (e.tradeTime < last) with
    | some last =>
      (.ok false,
        { f with outOfOrderEventCount := f.outOfOrderEventCount + 1 }.markUncertainCoverage last
          .tradeTimeRegressionInWindow)
    | none => (.ok true, (f.noteGap e).accept e)

end FlowAggregator

/-! ## Windows -/

inductive PriceCvdAlignment where
  | alignedUp
  | alignedDown
  | priceUpCvdDown
  | priceDownCvdUp
  | mixedFlat
  deriving DecidableEq

def classifyPriceCvdAlignment (priceReturnPct : Option ℚ) (rollingCvdQuote : ℚ) :
    Option PriceCvdAlignment :=
  priceReturnPct.map fun r =>
    if 0 < r ∧ 0 < rollingCvdQuote then .alignedUp
    else if r < 0 ∧ rollingCvdQuote < 0 then .alignedDown
    else if 0 < r ∧ rollingCvdQuote < 0 then .priceUpCvdDown
    else if r < 0 ∧ 0 < rollingCvdQuote then .priceDownCvdUp
    else .mixedFlat

/-- `value.quantize` to the given exponent, where it raises no signal. -/
def rescale (e : ℤ) (x : ℚ) : ℚ := roundHalfEven (x / (10 : ℚ) ^ e) * (10 : ℚ) ^ e

def money (x : ℚ) : ℚ := rescale (-8) x

def ratio (x : ℚ) : ℚ := rescale (-8) x

def percent (x : ℚ) : ℚ := rescale (-4) x

def priceReturnPct (firstPrice lastPrice : Option ℚ) : Option ℚ :=
  match firstPrice, lastPrice with
  | some first, some last =>
    if first ≤ 0 then none
    else
      let fit := decimalContext.fit
      some (fit (fit (fit (last - first) / first) * 100))
  | _, _ => none

/-- The running sums of the deltas, from zero. -/
def cumulativePath (deltas : List ℚ) : List ℚ :=
  deltas.scanl (fun cumulative delta => decimalContext.fit (cumulative + delta)) 0

/-- `_cumulative_path_slope`: the least squares slope of the running sums. -/
def cumulativePathSlope (minuteDeltas : List ℚ) : ℚ :=
  let fit := decimalContext.fit
  let path := cumulativePath minuteDeltas
  let xs := (List.range path.length).map fun i => (i : ℚ)
  let meanX := fit (decimalContext.total xs / path.length)
  let meanY := fit (decimalContext.total path / path.length)
  let numerator := decimalContext.total
    (List.zipWith (fun x y => fit (fit (x - meanX) * fit (y - meanY))) xs path)
  let denominator := decimalContext.total (xs.map fun x => fit (fit (x - meanX) ^ 2))
  if 0 < denominator then fit (numerator / denominator) else 0

/-- The amounts of a window that has trades. -/
structure FlowFigures where
  aggressiveBuyBase : ℚ
  aggressiveSellBase : ℚ
  aggressiveBuyQuote : ℚ
  aggressiveSellQuote : ℚ
  deltaBase : ℚ
  deltaQuote : ℚ
  totalQuote : ℚ
  flowImbalanceRatio : Option ℚ
  buyerAggressionPct : Option ℚ
  rollingCvdQuote : ℚ
  cvdSlopeQuotePerMin : ℚ
  priceReturnPct : Option ℚ
  priceCvdAlignment : Option PriceCvdAlignment
  normalQuoteNotional : Option ℚ
  rpiQuoteNotional : Option ℚ

/-- No amount has more digits at its exponent than `quantize` accepts. -/
def FlowFigures.Fits (f : FlowFigures) : Prop :=
  (∀ amount ∈ [f.aggressiveBuyBase, f.aggressiveSellBase, f.aggressiveBuyQuote,
      f.aggressiveSellQuote, f.deltaBase, f.deltaQuote, f.totalQuote, f.rollingCvdQuote,
      f.cvdSlopeQuotePerMin] ++ f.flowImbalanceRatio.toList ++ f.normalQuoteNotional.toList ++
      f.rpiQuoteNotional.toList, |amount| < 10 ^ 20) ∧
  ∀ share ∈ f.buyerAggressionPct.toList ++ f.priceReturnPct.toList, |share| < 10 ^ 24

instance (f : FlowFigures) : Decidable f.Fits := inferInstanceAs (Decidable (_ ∧ _))

structure FlowWindowSnapshot where
  windowMinutes : ℕ
  windowStart : Instant
  windowEnd : Instant
  coverageSeconds : ℤ
  coverageComplete : Bool
  reason : Option String
  figures : Option FlowFigures
  aggregateEventCount : ℕ
  underlyingTradeCount : ℕ

namespace FlowAggregator

def coverageSeconds (windowStart windowEnd : Instant) (f : FlowAggregator) : ℤ :=
  match f.coverageStart with
  | none => 0
  | some start =>
    max 0 (min ((windowEnd - max windowStart start).tdiv 1000000)
      ((windowEnd - windowStart).tdiv 1000000))

def selected (windowStart windowEnd : Instant) (f : FlowAggregator) : List MinuteFlowBucket :=
  (f.buckets.starts.filter fun start => decide (windowStart ≤ start ∧ start < windowEnd)).filterMap
    f.buckets.fetch

def minuteDeltas (windowStart : Instant) (minutes : ℕ) (f : FlowAggregator) : List ℚ :=
  (List.range minutes).map fun i =>
    match f.buckets.fetch (windowStart + i * minute) with
    | some bucket => bucket.deltaQuote
    | none => 0

/-- The amounts `_window_snapshot` computes from the selected buckets. -/
def figures (windowStart : Instant) (minutes : ℕ) (selected : List MinuteFlowBucket)
    (f : FlowAggregator) : FlowFigures :=
  let fit := decimalContext.fit
  let buyBase := decimalContext.total (selected.map (·.aggressiveBuyBase))
  let sellBase := decimalContext.total (selected.map (·.aggressiveSellBase))
  let buyQuote := decimalContext.total (selected.map (·.aggressiveBuyQuote))
  let sellQuote := decimalContext.total (selected.map (·.aggressiveSellQuote))
  let totalQuote := fit (buyQuote + sellQuote)
  let normalQuote :=
    if selected.all fun bucket => decide (bucket.normalQuantityMissingEvents = 0) then
      some (decimalContext.total (selected.map (·.normalQuoteNotional)))
    else none
  let priceReturn := priceReturnPct (selected.head?.bind (·.firstPrice))
    (selected.getLast?.bind (·.lastPrice))
  let deltas := f.minuteDeltas windowStart minutes
  let rollingCvd := decimalContext.total deltas
  { aggressiveBuyBase := money buyBase
    aggressiveSellBase := money sellBase
    aggressiveBuyQuote := money buyQuote
    aggressiveSellQuote := money sellQuote
    deltaBase := money (fit (buyBase - sellBase))
    deltaQuote := money (fit (buyQuote - sellQuote))
    totalQuote := money totalQuote
    flowImbalanceRatio :=
      if 0 < totalQuote then some (ratio (fit (fit (buyQuote - sellQuote) / totalQuote))) else none
    buyerAggressionPct :=
      if 0 < totalQuote then some (percent (fit (fit (buyQuote / totalQuote) * 100))) else none
    rollingCvdQuote := money rollingCvd
    cvdSlopeQuotePerMin := money (cumulativePathSlope deltas)
    priceReturnPct := priceReturn.map percent
    priceCvdAlignment := classifyPriceCvdAlignment priceReturn rollingCvd
    normalQuoteNotional := normalQuote.map money
    rpiQuoteNotional := normalQuote.map fun normal => money (fit (totalQuote - normal)) }

/-- The values of `_window_snapshot`. -/
def windowSnapshot (minutes : ℕ) (asOf : Instant) (f : FlowAggregator) : FlowWindowSnapshot :=
  let windowEnd := minuteStart asOf
  let windowStart := windowEnd - minutes * minute
  let coverageComplete :=
    f.connected && f.coverageStart.any fun start => decide (start ≤ windowStart)
  let selected := f.selected windowStart windowEnd
  let eventCount := (selected.map (·.aggregateEventCount)).sum
  { windowMinutes := minutes
    windowStart := windowStart
    windowEnd := windowEnd
    coverageSeconds := f.coverageSeconds windowStart windowEnd
    coverageComplete := coverageComplete
    reason :=
      if ¬ coverageComplete then some f.coverageReason.text
      else if eventCount = 0 then some "no_valid_events_in_window"
      else none
    figures :=
      if eventCount = 0 then none else some (f.figures windowStart minutes selected)
    aggregateEventCount := eventCount
    underlyingTradeCount :=
      if eventCount = 0 then 0 else (selected.map (·.underlyingTradeCount)).sum }

/-- `_window_snapshot`: one amount of too many digits and there is no window. -/
def windowReport (minutes : ℕ) (asOf : Instant) (f : FlowAggregator) :
    Except Signal FlowWindowSnapshot :=
  let w := f.windowSnapshot minutes asOf
  if ∀ figures ∈ w.figures, figures.Fits then .ok w else .error .quantizeInvalid

end FlowAggregator

/-! ## Runs -/

/-- What can happen to an aggregator. -/
inductive FlowAction where
  | markConnected (instant : Instant) (reconnect : Bool)
  | markDisconnected
  | ingest (e : AggTrade)

structure FlowHistory where
  flow : FlowAggregator
  accepted : List AggTrade

namespace FlowHistory

def initial (config : FlowConfig) : FlowHistory := ⟨.initial config, []⟩

def step (h : FlowHistory) : FlowAction → FlowHistory
  | .markConnected instant reconnect => ⟨h.flow.markConnected instant reconnect, h.accepted⟩
  | .markDisconnected => ⟨h.flow.markDisconnected, h.accepted⟩
  | .ingest e =>
    match h.flow.ingest e with
    | (.ok true, flow) => ⟨flow, h.accepted ++ [e]⟩
    | (_, flow) => ⟨flow, h.accepted⟩

abbrev run (h : FlowHistory) (acts : List FlowAction) : FlowHistory :=
  Transition.run step h acts

end FlowHistory

end CandleCraft.Microstructure
