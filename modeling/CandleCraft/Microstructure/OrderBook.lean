import CandleCraft.Basic
import CandleCraft.Kernel.Decimal
import CandleCraft.Kernel.Table
import CandleCraft.Kernel.Text

/-!
# The local order book

`SynchronizedLocalOrderBook`: depth events are buffered until a snapshot arrives, the first one that
bridges the snapshot is applied, and from then on events must chain. Anything that does not fit
invalidates the book. Prices and quantities are stored and compared, never computed with.
-/

namespace CandleCraft.Microstructure

open Relational PyText

/-- A parsed price level: a positive price and a quantity that is not negative. -/
structure DepthLevelUpdate where
  price : ℚ
  quantity : ℚ
  price_pos : 0 < price
  quantity_nonneg : 0 ≤ quantity

/-- `BinanceDepthEvent`; `U`, `u` and `pu` are `firstUpdateId`, `finalUpdateId` and
`previousFinalUpdateId`. -/
structure DepthEvent where
  symbol : String
  eventTime : Instant
  transactionTime : Instant
  firstUpdateId : ℕ
  finalUpdateId : ℕ
  previousFinalUpdateId : ℕ
  bids : List DepthLevelUpdate
  asks : List DepthLevelUpdate
  first_le_final : firstUpdateId ≤ finalUpdateId

/-- `BinanceDepthSnapshot`. -/
structure DepthSnapshot where
  lastUpdateId : ℕ
  eventTime : Instant
  transactionTime : Instant
  bids : List DepthLevelUpdate
  asks : List DepthLevelUpdate

inductive BookIngestOutcome where
  | buffered
  | synchronized
  | applied
  | ignoredOld
  | needsResync
  | bufferOverflow
  deriving DecidableEq

inductive BookReason where
  | warmingUp
  | snapshotPending
  | resyncing
  | streamDisconnected
  | snapshotFailed
  | bufferOverflow
  | invalidSnapshotBook
  | synchronizing
  | invalidInitialBridge
  | crossedBook
  | missingUpdateId
  | sequenceGap
  deriving DecidableEq

/-- One side of the book: `dict[Decimal, Decimal]`. -/
abbrev Side := Table (ℚ × ℚ) Prod.fst

namespace Side

def prices (side : Side) : List ℚ := side.rows.map Prod.fst

/-- `_apply_side`. -/
def apply (side : Side) (updates : List DepthLevelUpdate) : Side :=
  updates.foldl (fun s l => if l.quantity = 0 then s.remove l.price else s.put (l.price, l.quantity))
    side

def ofLevels (levels : List DepthLevelUpdate) : Side :=
  (levels.filter fun l => decide (0 < l.quantity)).foldl (fun s l => s.put (l.price, l.quantity))
    Table.empty

end Side

/-- `not (not bids or not asks or max(bids) >= min(asks))`. -/
def Uncrossed (bids asks : Side) : Prop :=
  ∃ b ∈ bids.prices.max?, ∃ a ∈ asks.prices.min?, b < a

instance (bids asks : Side) : Decidable (Uncrossed bids asks) :=
  inferInstanceAs (Decidable (∃ b ∈ bids.prices.max?, ∃ a ∈ asks.prices.min?, _))

/-- The constructor arguments as `__init__` keeps them: an empty buffer, no band, or a band that is
not positive is refused. -/
structure BookConfig where
  symbol : String
  staleAfterSeconds : ℚ
  eventBufferSize : ℕ
  bandsBps : List ℕ
  buffer_pos : 1 ≤ eventBufferSize
  bands_ne : bandsBps ≠ []
  bands_pos : ∀ b ∈ bandsBps, 0 < b

/-- `SynchronizedLocalOrderBook`. -/
structure Book where
  config : BookConfig
  bids : Side
  asks : Side
  lastUpdateId : Option ℕ
  lastTransactionTime : Option Instant
  lastEventTime : Option Instant
  snapshotTime : Option Instant
  lastValidUpdate : Option Instant
  synchronized : Bool
  streamConnected : Bool
  reason : Option BookReason
  resyncCount : ℕ
  gapCount : ℕ
  duplicateEventCount : ℕ
  outOfOrderEventCount : ℕ
  bufferOverflowCount : ℕ
  buffer : List (DepthEvent × Instant)
  snapshotInstalled : Bool
  needsResync : Bool
  coverageBidFloor : Option ℚ
  coverageAskCeiling : Option ℚ

namespace Book

/-- `__init__`, after its arguments are validated. -/
def initial (config : BookConfig) : Book where
  config := config
  bids := Table.empty
  asks := Table.empty
  lastUpdateId := none
  lastTransactionTime := none
  lastEventTime := none
  snapshotTime := none
  lastValidUpdate := none
  synchronized := false
  streamConnected := false
  reason := some .warmingUp
  resyncCount := 0
  gapCount := 0
  duplicateEventCount := 0
  outOfOrderEventCount := 0
  bufferOverflowCount := 0
  buffer := []
  snapshotInstalled := false
  needsResync := true
  coverageBidFloor := none
  coverageAskCeiling := none

def clearTrustedBook (preserveObservation : Bool) (b : Book) : Book :=
  { b with
    bids := Table.empty
    asks := Table.empty
    lastUpdateId := none
    snapshotTime := none
    lastValidUpdate := none
    synchronized := false
    snapshotInstalled := false
    coverageBidFloor := none
    coverageAskCeiling := none
    lastEventTime := if preserveObservation then b.lastEventTime else none
    lastTransactionTime := if preserveObservation then b.lastTransactionTime else none }

def invalidate (reason : BookReason) (gap : Bool) (b : Book) : Book :=
  { clearTrustedBook true b with
    gapCount := if gap then b.gapCount + 1 else b.gapCount
    buffer := []
    reason := some reason
    needsResync := true }

def markConnected (reconnect : Bool) (b : Book) : Book :=
  { clearTrustedBook false b with
    streamConnected := true
    buffer := []
    reason := some (if reconnect then .resyncing else .snapshotPending)
    needsResync := true }

def markDisconnected (b : Book) : Book :=
  { clearTrustedBook false b with
    streamConnected := false
    buffer := []
    reason := some .streamDisconnected
    needsResync := true }

def markBootstrapStarted (b : Book) : Book :=
  { b with
    resyncCount := b.resyncCount + 1
    reason := some (if b.resyncCount + 1 = 1 then .snapshotPending else .resyncing) }

/-- The buffer is kept. -/
def markSnapshotFailed (b : Book) : Book :=
  { clearTrustedBook false b with
    reason := some .snapshotFailed
    needsResync := false }

def applyLevels (event : DepthEvent) (receivedAt : Instant) (b : Book) : Book :=
  { b with
    bids := b.bids.apply event.bids
    asks := b.asks.apply event.asks
    lastUpdateId := some event.finalUpdateId
    lastEventTime := some event.eventTime
    lastTransactionTime := some event.transactionTime
    lastValidUpdate := some receivedAt }

def applyLiveEvent (event : DepthEvent) (receivedAt : Instant) (b : Book) :
    BookIngestOutcome × Book :=
  match b.lastUpdateId with
  | none => (.needsResync, b.invalidate .missingUpdateId true)
  | some current =>
    if event.finalUpdateId ≤ current then
      (.ignoredOld,
        if event.finalUpdateId = current then
          { b with duplicateEventCount := b.duplicateEventCount + 1 }
        else { b with outOfOrderEventCount := b.outOfOrderEventCount + 1 })
    else if event.previousFinalUpdateId ≠ current then
      (.needsResync, b.invalidate .sequenceGap true)
    else
      let applied := b.applyLevels event receivedAt
      if Uncrossed applied.bids applied.asks then (.applied, applied)
      else (.needsResync, applied.invalidate .crossedBook false)

/-- The loop of `_reconcile_buffer` over the events behind the bridge. -/
def replay : List (DepthEvent × Instant) → Book → BookIngestOutcome × Book
  | [], b => (.synchronized, b)
  | item :: rest, b =>
    match b.applyLiveEvent item.1 item.2 with
    | (.needsResync, invalid) => (.needsResync, invalid)
    | (_, applied) => replay rest applied

def reconcileBuffer (b : Book) : BookIngestOutcome × Book :=
  match b.snapshotInstalled, b.lastUpdateId with
  | true, some lastUpdateId =>
    match b.buffer.filter fun item => decide (lastUpdateId ≤ item.1.finalUpdateId) with
    | [] => (.buffered, { b with buffer := [] })
    | bridge :: remaining =>
      if ¬ (bridge.1.firstUpdateId ≤ lastUpdateId ∧ lastUpdateId ≤ bridge.1.finalUpdateId) then
        (.needsResync, b.invalidate .invalidInitialBridge true)
      else
        let applied := b.applyLevels bridge.1 bridge.2
        if ¬ Uncrossed applied.bids applied.asks then
          (.needsResync, applied.invalidate .crossedBook false)
        else
          replay remaining
            { applied with synchronized := true, reason := none, needsResync := false, buffer := [] }
  | _, _ => (.buffered, b)

/-- `ingest`; the error is the text of a `ValueError`. -/
def ingest (event : DepthEvent) (receivedAt : Instant) (b : Book) :
    Except String BookIngestOutcome × Book :=
  if event.symbol ≠ b.config.symbol then
    (.error ("depth event symbol " ++ event.symbol ++ " does not match " ++ b.config.symbol), b)
  else if b.synchronized then
    let (outcome, applied) := b.applyLiveEvent event receivedAt
    (.ok outcome, applied)
  else if b.config.eventBufferSize ≤ b.buffer.length then
    (.ok .bufferOverflow,
      { b with bufferOverflowCount := b.bufferOverflowCount + 1 }.invalidate .bufferOverflow false)
  else
    let buffered := { b with buffer := b.buffer ++ [(event, receivedAt)] }
    if ¬ b.snapshotInstalled then (.ok .buffered, buffered)
    else
      let (outcome, reconciled) := buffered.reconcileBuffer
      (.ok outcome, reconciled)

def installSnapshot (snapshot : DepthSnapshot) (receivedAt : Instant) (b : Book) :
    BookIngestOutcome × Book :=
  let bids := Side.ofLevels snapshot.bids
  let asks := Side.ofLevels snapshot.asks
  if ¬ Uncrossed bids asks then (.needsResync, b.invalidate .invalidSnapshotBook false)
  else
    reconcileBuffer
      { b with
        bids := bids
        asks := asks
        lastUpdateId := some snapshot.lastUpdateId
        lastTransactionTime := some snapshot.transactionTime
        lastEventTime := some snapshot.eventTime
        snapshotTime := some receivedAt
        lastValidUpdate := none
        synchronized := false
        snapshotInstalled := true
        needsResync := false
        coverageBidFloor := bids.prices.min?
        coverageAskCeiling := asks.prices.max?
        reason := some .synchronizing }

end Book

end CandleCraft.Microstructure
