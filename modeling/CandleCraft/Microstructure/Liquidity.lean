import CandleCraft.Kernel.Transition
import CandleCraft.Microstructure.OrderBook

/-!
# The liquidity report of the local book

`SynchronizedLocalOrderBook.snapshot`: best prices, spread, quote volume in bands
around the mid price and the largest level of each side. It is the only part of the
book that computes with decimals, in the default decimal context.
-/

namespace CandleCraft.Microstructure

open PyDecimal

/-- What a computation of the report raises: a decimal signal, or the `ValueError` of
`max` or `min` over no levels. -/
inductive ReportError where
  | signal (s : Signal)
  | emptySide
  deriving DecidableEq

inductive BookSide where
  | bid
  | ask
  deriving DecidableEq

/-- `LiquidityBandSnapshot`. -/
structure LiquidityBand where
  bandBps : ℕ
  bidQuoteNotional : ℚ
  askQuoteNotional : ℚ
  depthImbalance : Option ℚ
  bidCoverageComplete : Bool
  askCoverageComplete : Bool

/-- `VisibleLevelConcentration`. -/
structure LevelConcentration where
  price : ℚ
  quoteNotional : ℚ
  distanceBps : ℚ
  shareOfObservedBand : Option ℚ
  bandBps : ℕ

structure BookFigures where
  bestBid : ℚ
  bestAsk : ℚ
  midPrice : ℚ
  spreadAbsolute : ℚ
  spreadBps : ℚ
  bands : List LiquidityBand
  furthestBidDistanceBps : Option ℚ
  furthestAskDistanceBps : Option ℚ
  largestBidLevel : Option LevelConcentration
  largestAskLevel : Option LevelConcentration
  levelCountBid : ℕ
  levelCountAsk : ℕ

/-- `OrderBookLiquiditySnapshot`; `figures` is present when the book is synchronized.
The counters are those of the book. -/
structure LiquiditySnapshot where
  status : ContextStatus
  reason : Option String
  observedAt : Option Instant
  ageSeconds : Option ℚ
  lastUpdateId : Option ℕ
  figures : Option BookFigures
  resyncCount : ℕ
  gapCount : ℕ
  duplicateEventCount : ℕ
  outOfOrderEventCount : ℕ
  bufferOverflowCount : ℕ

def BookReason.text : BookReason → String
  | warmingUp => "warming_up"
  | snapshotPending => "snapshot_pending"
  | resyncing => "resyncing"
  | streamDisconnected => "stream_disconnected"
  | snapshotFailed => "snapshot_failed"
  | bufferOverflow => "buffer_overflow"
  | invalidSnapshotBook => "invalid_snapshot_book"
  | synchronizing => "synchronizing"
  | invalidInitialBridge => "invalid_initial_bridge"
  | crossedBook => "crossed_book"
  | missingUpdateId => "missing_update_id"
  | sequenceGap => "sequence_gap"

section Arithmetic

variable (c : Context)

def rawDistance (mid price : ℚ) (side : BookSide) : Except Signal ℚ :=
  if side = .bid then c.sub mid price else c.sub price mid

def distanceBps (mid : ℚ) (boundary : Option ℚ) (side : BookSide) : Except Signal (Option ℚ) :=
  match boundary with
  | none => .ok none
  | some bound =>
    if mid ≤ 0 then .ok none
    else do
      let distance ← rawDistance c mid bound side
      let share ← c.div distance mid
      let scaled ← c.mul share 10000
      return some (max scaled 0)

/-- `_bps` and `_ratio` of an optional decimal. -/
def quantizeOption (x : Option ℚ) (e : ℤ) : Except Signal (Option ℚ) :=
  match x with
  | none => .ok none
  | some v => do
    let q ← c.quantize v e
    return some q

/-- The prices `mid * (1 - band)` and `mid * (1 + band)`. -/
def bandLimits (mid : ℚ) (bandBps : ℕ) : Except Signal (ℚ × ℚ) := do
  let share ← c.div bandBps 10000
  let below ← c.sub 1 share
  let floor ← c.mul mid below
  let above ← c.add 1 share
  let ceiling ← c.mul mid above
  return (floor, ceiling)

def quoteVolume (levels : List (ℚ × ℚ)) : Except Signal ℚ := do
  let quotes ← levels.mapM fun level => c.mul level.1 level.2
  c.sum quotes

def imbalance (bidQuote askQuote total : ℚ) : Except Signal (Option ℚ) :=
  if 0 < total then do
    let difference ← c.sub bidQuote askQuote
    let share ← c.div difference total
    return some share
  else return none

/-- The figures of one band, and its two quote volumes before rounding. -/
def bandFigures (bids asks : Side) (mid : ℚ) (furthestBid furthestAsk : Option ℚ) (bandBps : ℕ) :
    Except Signal (LiquidityBand × ℚ × ℚ) := do
  let (floor, ceiling) ← bandLimits c mid bandBps
  let bidQuote ← quoteVolume c (bids.rows.filter fun level => decide (floor ≤ level.1))
  let askQuote ← quoteVolume c (asks.rows.filter fun level => decide (level.1 ≤ ceiling))
  let total ← c.add bidQuote askQuote
  let imbalance ← imbalance c bidQuote askQuote total
  let bidMoney ← c.quantize bidQuote (-8)
  let askMoney ← c.quantize askQuote (-8)
  let ratio ← quantizeOption c imbalance (-8)
  return ({ bandBps := bandBps
            bidQuoteNotional := bidMoney
            askQuoteNotional := askMoney
            depthImbalance := ratio
            bidCoverageComplete := furthestBid.any fun d => decide ((bandBps : ℚ) ≤ d)
            askCoverageComplete := furthestAsk.any fun d => decide ((bandBps : ℚ) ≤ d) },
          bidQuote, askQuote)

/-- The candidate with the largest quote, and among those the highest price. -/
def largestCandidate : List (ℚ × ℚ) → Option (ℚ × ℚ)
  | [] => none
  | candidate :: rest =>
    match largestCandidate rest with
    | none => some candidate
    | some best =>
      if best.2 < candidate.2 ∨ best.2 = candidate.2 ∧ best.1 ≤ candidate.1 then some candidate
      else some best

/-- The share of a level in the volume of its band, when the band has volume. -/
def shareOfBand (quote observedBandQuote : ℚ) : Except Signal (Option ℚ) :=
  if 0 < observedBandQuote then do
    let share ← c.div quote observedBandQuote
    return some share
  else return none

def largestConcentration (levels : List (ℚ × ℚ)) (mid : ℚ) (side : BookSide) (bandBps : ℕ)
    (observedBandQuote : ℚ) : Except Signal (Option LevelConcentration) := do
  let candidates ← levels.mapM fun level => do
    let quote ← c.mul level.1 level.2
    pure (level.1, quote)
  match largestCandidate candidates with
  | none => return none
  | some (price, quote) =>
    let rawDistance ← rawDistance c mid price side
    let share ← shareOfBand c quote observedBandQuote
    let money ← c.quantize quote (-8)
    let relative ← c.div rawDistance mid
    let scaled ← c.mul relative 10000
    let distance ← c.quantize scaled (-4)
    let ratio ← quantizeOption c share (-8)
    return some ⟨price, money, distance, ratio, bandBps⟩

/-- `snapshot` on a synchronized book whose best prices are known. -/
def figures (b : Book) (bestBid bestAsk : ℚ) : Except Signal BookFigures := do
  let total ← c.add bestBid bestAsk
  let mid ← c.div total 2
  let spread ← c.sub bestAsk bestBid
  let relative ← c.div spread mid
  let spreadBps ← c.mul relative 10000
  let furthestBid ← distanceBps c mid b.coverageBidFloor .bid
  let furthestAsk ← distanceBps c mid b.coverageAskCeiling .ask
  let bands ← b.config.bandsBps.mapM (bandFigures c b.bids b.asks mid furthestBid furthestAsk)
  let outerBand := b.config.bandsBps.getLast b.config.bands_ne
  let (_, outerBidQuote, outerAskQuote) ←
    bandFigures c b.bids b.asks mid furthestBid furthestAsk outerBand
  let (floor, ceiling) ← bandLimits c mid outerBand
  let largestBid ← largestConcentration c
    (b.bids.rows.filter fun level => decide (floor ≤ level.1)) mid .bid outerBand outerBidQuote
  let largestAsk ← largestConcentration c
    (b.asks.rows.filter fun level => decide (level.1 ≤ ceiling)) mid .ask outerBand outerAskQuote
  let spreadRounded ← c.quantize spreadBps (-4)
  let furthestBidRounded ← quantizeOption c furthestBid (-4)
  let furthestAskRounded ← quantizeOption c furthestAsk (-4)
  return {
    bestBid := bestBid
    bestAsk := bestAsk
    midPrice := mid
    spreadAbsolute := spread
    spreadBps := spreadRounded
    bands := bands.map Prod.fst
    furthestBidDistanceBps := furthestBidRounded
    furthestAskDistanceBps := furthestAskRounded
    largestBidLevel := largestBid
    largestAskLevel := largestAsk
    levelCountBid := b.bids.rows.length
    levelCountAsk := b.asks.rows.length }

end Arithmetic

namespace Book

def ageSeconds (asOf : Instant) (b : Book) : Option ℚ :=
  b.lastEventTime.map fun t => max (((asOf - t : ℤ) : ℚ) / 1000000) 0

def unavailable (asOf : Instant) (b : Book) : LiquiditySnapshot where
  status :=
    if (b.reason = some .sequenceGap ∨ b.reason = some .crossedBook) ∧ b.lastEventTime ≠ none then
      .stale
    else if b.reason = some .snapshotFailed ∨ b.reason = some .invalidSnapshotBook then .error
    else .unavailable
  reason := b.reason.map BookReason.text
  observedAt := b.lastEventTime
  ageSeconds := b.ageSeconds asOf
  lastUpdateId := none
  figures := none
  resyncCount := b.resyncCount
  gapCount := b.gapCount
  duplicateEventCount := b.duplicateEventCount
  outOfOrderEventCount := b.outOfOrderEventCount
  bufferOverflowCount := b.bufferOverflowCount

def available (asOf : Instant) (f : BookFigures) (b : Book) : LiquiditySnapshot :=
  let complete := f.bands.all fun band => band.bidCoverageComplete && band.askCoverageComplete
  let stale := (b.ageSeconds asOf).all fun age => decide (b.config.staleAfterSeconds < age)
  { status := if stale then .stale else .verified
    reason := if stale then some "stale_book"
      else if complete then none else some "insufficient_book_coverage"
    observedAt := b.lastEventTime
    ageSeconds := b.ageSeconds asOf
    lastUpdateId := b.lastUpdateId
    figures := some f
    resyncCount := b.resyncCount
    gapCount := b.gapCount
    duplicateEventCount := b.duplicateEventCount
    outOfOrderEventCount := b.outOfOrderEventCount
    bufferOverflowCount := b.bufferOverflowCount }

def snapshot (asOf : Instant) (b : Book) : Except ReportError LiquiditySnapshot × Book :=
  if ¬ b.synchronized then (.ok (b.unavailable asOf), b)
  else
    match b.bids.prices.max?, b.asks.prices.min? with
    | some bestBid, some bestAsk =>
      if bestAsk ≤ bestBid then
        let invalid := b.invalidate .crossedBook false
        (.ok (invalid.unavailable asOf), invalid)
      else
        match figures decimalContext b bestBid bestAsk with
        | .error s => (.error (.signal s), b)
        | .ok f => (.ok (b.available asOf f), b)
    | _, _ => (.error .emptySide, b)

end Book

inductive BookAction where
  | ingest (event : DepthEvent) (receivedAt : Instant)
  | installSnapshot (snapshot : DepthSnapshot) (receivedAt : Instant)
  | markConnected (reconnect : Bool)
  | markDisconnected
  | markBootstrapStarted
  | markSnapshotFailed
  | snapshot (asOf : Instant)

def Book.step (b : Book) : BookAction → Book
  | .ingest event receivedAt => (b.ingest event receivedAt).2
  | .installSnapshot snapshot receivedAt => (b.installSnapshot snapshot receivedAt).2
  | .markConnected reconnect => b.markConnected reconnect
  | .markDisconnected => b.markDisconnected
  | .markBootstrapStarted => b.markBootstrapStarted
  | .markSnapshotFailed => b.markSnapshotFailed
  | .snapshot asOf => (b.snapshot asOf).2

abbrev Book.run (b : Book) (acts : List BookAction) : Book :=
  Transition.run Book.step b acts

end CandleCraft.Microstructure
