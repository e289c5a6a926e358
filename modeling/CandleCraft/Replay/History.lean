import CandleCraft.Candles.Values
import CandleCraft.Kernel.Scan
import CandleCraft.Replay.Simulation

/-!
# The histories a replay reads

The candle series are checked before the replay starts. The execution series is turned into replay
candles; the others are cut at the close of the current execution candle. A first part of a valid
series is valid, and cutting a series twice is cutting it at the earlier time.
-/

namespace CandleCraft.Replay

open Candles PyText

section Histories

/-- What `replay_symbol` raises. -/
inductive ReplayError where
  | integrity (error : CandleIntegrityError)
  | values (timeframe : String) (index : ℕ) (error : CandleValueError)
  | engine (message : String)
  | missingLevels (names : List String)
  | missingDirection
  deriving DecidableEq

/-- The loop of `validate_candle_sequence`, with the value checks. -/
def validateHistoryFrom (timeframe : String) (δ : ℤ) :
    ℕ → Option Instant → List RawCandle → Except ReplayError (List (CausalCandle × CandlePrices))
  | _, _, [] => .ok []
  | index, previous, c :: cs =>
    match c.boundaries δ with
    | .error reason => .error (.integrity ⟨reason, timeframe, some index⟩)
    | .ok (openAt, closeAt) =>
      match checkFollows δ true previous openAt with
      | .error reason => .error (.integrity ⟨reason, timeframe, some index⟩)
      | .ok () =>
        match candlePrices c with
        | .error e => .error (.values timeframe index e)
        | .ok prices =>
          match validateHistoryFrom timeframe δ (index + 1) (some openAt) cs with
          | .error e => .error e
          | .ok timeline => .ok ((⟨c, openAt, closeAt, index⟩, prices) :: timeline)

/-- `validate_candle_sequence`, with the value checks. -/
def validateHistory (candles : List RawCandle) (timeframe : String) :
    Except ReplayError (List (CausalCandle × CandlePrices)) :=
  match timeframeDuration timeframe with
  | none => .error (.integrity ⟨.invalidTimeframe, lower (strip timeframe), none⟩)
  | some δ => validateHistoryFrom (lower (strip timeframe)) δ 0 none candles

/-- A candle of `_normalize_candles`. -/
def replayCandle (entry : CausalCandle × CandlePrices) : ReplayCandle where
  timestamp := epochMilliseconds entry.1.openTimestamp
  closeTimestamp := epochMilliseconds entry.1.closeTimestamp
  openPrice := entry.2.openPrice
  high := entry.2.high
  low := entry.2.low
  close := entry.2.close
  positive := entry.2.positive
  open_mem := entry.2.open_mem
  close_mem := entry.2.close_mem

def normalizeCandles (candles : List RawCandle) (timeframe : String) :
    Except ReplayError (List ReplayCandle) :=
  (validateHistory candles timeframe).map (List.map replayCandle)

/-- The value checks of `closed_candles_as_of`. -/
def checkClosedValues (timeframe : String) (candle : CausalCandle) : Except ReplayError Unit :=
  match candlePrices candle.source with
  | .error e => .error (.values (lower (strip timeframe)) candle.index e)
  | .ok _ => .ok ()

def sliceUntil (candles : List RawCandle) (decisionTimestamp : ℤ) (timeframe : String) :
    Except ReplayError (List RawCandle) :=
  if candles.isEmpty then .ok []
  else
    match closedCandlesAsOf candles timeframe (decisionTimestamp * 1000) 0 true with
    | .error e => .error (.integrity e)
    | .ok window => do
      window.timeline.forM (checkClosedValues timeframe)
      pure (window.timeline.map CausalCandle.source)

end Histories

section Cuts

variable {candles : List RawCandle} {timeframe : String}
  {timeline : List (CausalCandle × CandlePrices)}

def closesBy (timeframe : String) (time : Instant) (candle : RawCandle) : Bool :=
  match timeframeDuration timeframe with
  | none => false
  | some δ =>
    match candle.boundaries δ with
    | .error _ => false
    | .ok (_, closeAt) => decide (closeAt ≤ time)

def closedBy (timeframe : String) (time : Instant) (candles : List RawCandle) : List RawCandle :=
  candles.filter (closesBy timeframe time)

theorem closesBy_mono {time time' : Instant} (h : time ≤ time') {candle : RawCandle}
    (hcloses : closesBy timeframe time candle = true) : closesBy timeframe time' candle = true := by
  unfold closesBy at hcloses ⊢
  split at hcloses
  · cases hcloses
  · split at hcloses
    · cases hcloses
    · exact decide_eq_true (le_trans (of_decide_eq_true hcloses) h)

theorem closedBy_closedBy {time time' : Instant} (h : time ≤ time') :
    closedBy timeframe time (closedBy timeframe time' candles) =
      closedBy timeframe time candles := by
  rw [closedBy, closedBy, closedBy, List.filter_filter]
  refine List.filter_congr fun candle _ => ?_
  cases hcloses : closesBy timeframe time candle with
  | false => rfl
  | true => rw [closesBy_mono h hcloses]; rfl

/-- What the value checks leave of a series is what `validate_candle_sequence` leaves without
them. -/
theorem validateHistoryFrom_spec {δ : ℤ} {index : ℕ} {previous : Option Instant}
    (h : validateHistoryFrom timeframe δ index previous candles = .ok timeline) :
    validateFrom timeframe δ true index previous candles = .ok (timeline.map Prod.fst) ∧
    ∀ entry ∈ timeline, candlePrices entry.1.source = .ok entry.2 := by
  induction candles generalizing index previous timeline with
  | nil =>
    cases h
    exact ⟨rfl, fun entry hentry => absurd hentry List.not_mem_nil⟩
  | cons c cs ih =>
    rw [validateHistoryFrom] at h
    split at h
    · cases h
    · next openAt closeAt hbounds =>
      split at h
      · cases h
      · next hfollows =>
        split at h
        · cases h
        · next prices hprices =>
          split at h
          · cases h
          · next rest hrest =>
            cases h
            obtain ⟨hvalid, hvalues⟩ := ih hrest
            refine ⟨?_, List.forall_mem_cons.2 ⟨hprices, hvalues⟩⟩
            rw [validateFrom, hbounds]
            dsimp only
            rw [hfollows]
            rw [hvalid]
            rfl

theorem validateHistoryFrom_take {δ : ℤ} {index : ℕ} {previous : Option Instant}
    (h : validateHistoryFrom timeframe δ index previous candles = .ok timeline) (n : ℕ) :
    validateHistoryFrom timeframe δ index previous (candles.take n) = .ok (timeline.take n) := by
  induction candles generalizing index previous timeline n with
  | nil =>
    cases h
    rw [List.take_nil, List.take_nil]
    rfl
  | cons c cs ih =>
    cases n with
    | zero => rfl
    | succ n =>
      rw [List.take_succ_cons]
      rw [validateHistoryFrom] at h ⊢
      split at h
      · cases h
      · split at h
        · cases h
        · split at h
          · cases h
          · split at h
            · cases h
            · next rest hrest =>
              cases h
              rw [ih hrest n]
              rfl

theorem validateHistory_take (h : validateHistory candles timeframe = .ok timeline) (n : ℕ) :
    validateHistory (candles.take n) timeframe = .ok (timeline.take n) := by
  unfold validateHistory at h ⊢
  cases hδ : timeframeDuration timeframe with
  | none => rw [hδ] at h; cases h
  | some δ =>
    rw [hδ] at h
    exact validateHistoryFrom_take h n

theorem validateHistory_spec (h : validateHistory candles timeframe = .ok timeline) :
    validateCandleSequence candles timeframe true = .ok (timeline.map Prod.fst) ∧
    ∀ entry ∈ timeline, candlePrices entry.1.source = .ok entry.2 := by
  unfold validateHistory at h
  unfold validateCandleSequence
  cases hδ : timeframeDuration timeframe with
  | none => rw [hδ] at h; cases h
  | some δ =>
    rw [hδ] at h
    exact validateHistoryFrom_spec h

theorem closesBy_source (h : validateHistory candles timeframe = .ok timeline)
    {candle : CausalCandle} (hmem : candle ∈ timeline.map Prod.fst) (time : Instant) :
    closesBy timeframe time candle.source = decide (candle.closeTimestamp ≤ time) := by
  obtain ⟨δ, hδ, -, -, hbounds, -⟩ := validated_entries (validateHistory_spec h).1
  rw [closesBy, hδ]
  dsimp only
  rw [hbounds candle hmem]

/-- A cut of a valid series consists of the candles closed by that time. -/
theorem sliceUntil_eq (h : validateHistory candles timeframe = .ok timeline) (time : ℤ) :
    sliceUntil candles time timeframe = .ok (closedBy timeframe (time * 1000) candles) := by
  obtain ⟨hvalid, hvalues⟩ := validateHistory_spec h
  obtain ⟨-, -, -, hsource, -, -⟩ := validated_entries hvalid
  have hchecked : ((timeline.map Prod.fst).filter fun c => decide (c.closeTimestamp ≤ time * 1000)).forM
      (checkClosedValues timeframe) = .ok () := by
    refine Scan.forM_ok_iff.2 fun c hc => ?_
    obtain ⟨entry, hentry, rfl⟩ := List.mem_map.1 (List.mem_filter.1 hc).1
    rw [checkClosedValues, hvalues entry hentry]
  unfold sliceUntil
  split
  · next hempty =>
    rw [List.isEmpty_iff.1 hempty]
    rfl
  · unfold closedCandlesAsOf
    rw [hvalid]
    dsimp only
    rw [if_neg (Nat.not_lt_zero _)]
    dsimp only
    rw [hchecked]
    refine congrArg Except.ok ?_
    have hsame : (timeline.map Prod.fst).filter (fun c => decide (c.closeTimestamp ≤ time * 1000)) =
        (timeline.map Prod.fst).filter (closesBy timeframe (time * 1000) ∘ CausalCandle.source) := by
      refine List.filter_congr fun c hc => ?_
      rw [Function.comp_apply, closesBy_source h hc]
    rw [hsame, closedBy, ← List.filter_map, hsource]

theorem closedBy_isPrefix (h : validateHistory candles timeframe = .ok timeline) (time : Instant) :
    closedBy timeframe time candles <+: candles := by
  obtain ⟨δ, hδ, -, hsource, hbounds, hcontiguous⟩ := validated_entries (validateHistory_spec h).1
  refine Window.filter_isPrefix ?_
  rw [← hsource, List.pairwise_map]
  refine (closes_pairwise (minute_le_timeframeDuration hδ) hbounds hcontiguous).imp_of_mem ?_
  intro c d hc hd hle hcloses
  rw [closesBy_source h hd] at hcloses
  rw [closesBy_source h hc]
  exact decide_eq_true (hle.trans (of_decide_eq_true hcloses))

theorem validateHistory_closedBy (h : validateHistory candles timeframe = .ok timeline)
    (time : Instant) :
    ∃ timeline', validateHistory (closedBy timeframe time candles) timeframe = .ok timeline' := by
  rw [List.prefix_iff_eq_take.1 (closedBy_isPrefix h time)]
  exact ⟨_, validateHistory_take h _⟩

end Cuts

end CandleCraft.Replay
