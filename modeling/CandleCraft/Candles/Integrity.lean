import CandleCraft.Basic
import CandleCraft.Kernel.Grid
import CandleCraft.Kernel.Text

/-!
# Candle integrity

The checks on a supplied candle sequence: the open and close boundaries of every candle,
their order and continuity, and the cut at a decision time. A sequence that passes is a
contiguous piece of the timeframe's grid, and so is what is closed of it.
-/

namespace CandleCraft.Candles

open PyText

/-- A timestamp value as `normalize_utc_timestamp` reads it: the empty text, a blank text
or the missing marker, an instant, or a value it rejects with the given complaint. -/
inductive Stamp where
  | empty
  | blank
  | instant (t : Instant)
  | invalid (problem : String)
  deriving DecidableEq

def normalizeUtcTimestamp (value : Stamp) (fieldName : String) : Except String Instant :=
  match value with
  | .empty => .error (fieldName ++ " is missing")
  | .blank => .error (fieldName ++ " is missing")
  | .instant t => .ok t
  | .invalid problem => .error (fieldName ++ " " ++ problem)

def unitDuration : Char → Option ℤ
  | 'm' => some 60000000
  | 'h' => some 3600000000
  | 'd' => some 86400000000
  | 'w' => some 604800000000
  | _ => none

/-- The count of `_TIMEFRAME_PATTERN`: digits without a leading zero. -/
def timeframeCount : List Char → Option ℕ
  | [] => none
  | c :: cs =>
    if c.isDigit ∧ '0' < c ∧ cs.all Char.isDigit then some (digitsValue 0 (c :: cs)) else none

def timeframeDuration (timeframe : String) : Option ℤ :=
  match (lower (strip timeframe)).toList.reverse with
  | [] => none
  | unit :: digits =>
    match unitDuration unit, timeframeCount digits.reverse with
    | some d, some n => some (d * n)
    | _, _ => none

theorem timeframeCount_pos {cs : List Char} {n : ℕ} (h : timeframeCount cs = some n) : 1 ≤ n := by
  cases cs with
  | nil => cases h
  | cons c cs =>
    rw [timeframeCount] at h
    split at h
    · next hc =>
      have hdigit : '0'.toNat < c.toNat := hc.2.1
      have hle := le_digitsValue (10 * 0 + (c.toNat - '0'.toNat)) cs
      cases h
      exact le_trans (by omega) hle
    · cases h

theorem minute_le_unitDuration {c : Char} {d : ℤ} (h : unitDuration c = some d) :
    60000000 ≤ d := by
  unfold unitDuration at h
  split at h <;> cases h <;> decide

variable {timeframe : String} {δ : ℤ}

theorem minute_le_timeframeDuration (h : timeframeDuration timeframe = some δ) : 60000000 ≤ δ := by
  unfold timeframeDuration at h
  split at h
  · cases h
  · split at h
    · next d n hd hn =>
      cases h
      have hd' := minute_le_unitDuration hd
      have hn' : (1 : ℤ) ≤ n := by exact_mod_cast timeframeCount_pos hn
      nlinarith
    · cases h

/-- A supplied candle: its first present open and close timestamps, and its numbers. -/
structure RawCandle where
  openTimestamp : Option Stamp
  closeTimestamp : Option Stamp
  high : NumericField
  low : NumericField
  openPrice : NumericField
  closePrice : NumericField
  volume : NumericField
  quoteVolume : NumericField
  turnover : NumericField
  deriving DecidableEq

/-- `CandleIntegrityReason`, as far as the sequence checks raise it, with the values its
message reports. -/
inductive CandleIntegrityReason where
  | invalidTimeframe
  | missingOpenTimestamp
  | invalidOpenTimestamp (problem : String)
  | invalidCloseTimestamp (problem : String)
  | duplicateTimestamp (openAt : Instant)
  | outOfOrder (openAt previous : Instant)
  | overlappingInterval (openAt expected : Instant)
  | continuityGap (expected received : Instant)
  | insufficientClosedHistory (received closed required : ℕ)
  deriving DecidableEq

structure CandleIntegrityError where
  reason : CandleIntegrityReason
  timeframe : String
  index : Option ℕ
  deriving DecidableEq

structure CausalCandle where
  source : RawCandle
  openTimestamp : Instant
  closeTimestamp : Instant
  index : ℕ
  deriving DecidableEq

def epochMilliseconds (t : Instant) : ℤ := t / 1000

/-- The close boundary of a candle that opens at `openAt`: the end of its interval, or an
explicit close at most a millisecond earlier. -/
def closeBoundary (δ : ℤ) (openAt : Instant) (explicit : Option Stamp) :
    Except CandleIntegrityReason Instant :=
  match explicit with
  | none => .ok (openAt + δ)
  | some raw =>
    match normalizeUtcTimestamp raw "close_timestamp" with
    | .error problem => .error (.invalidCloseTimestamp problem)
    | .ok closeAt =>
      if closeAt < openAt + δ - 1000 ∨ openAt + δ < closeAt then
        .error (.invalidCloseTimestamp
          "explicit close timestamp does not match the deterministic timeframe boundary")
      else .ok closeAt

/-- The boundaries of one candle of `validate_candle_sequence`. -/
def RawCandle.boundaries (δ : ℤ) (c : RawCandle) :
    Except CandleIntegrityReason (Instant × Instant) :=
  match c.openTimestamp with
  | none => .error .missingOpenTimestamp
  | some raw =>
    match normalizeUtcTimestamp raw "open_timestamp" with
    | .error problem => .error (.invalidOpenTimestamp problem)
    | .ok openAt =>
      match closeBoundary δ openAt c.closeTimestamp with
      | .error reason => .error reason
      | .ok closeAt => .ok (openAt, closeAt)

/-- The order of one candle of `validate_candle_sequence` after the previous open. -/
def checkFollows (δ : ℤ) (requireContinuity : Bool) (previous : Option Instant)
    (openAt : Instant) : Except CandleIntegrityReason Unit :=
  match previous with
  | none => .ok ()
  | some prev =>
    if openAt = prev then .error (.duplicateTimestamp openAt)
    else if openAt < prev then .error (.outOfOrder openAt prev)
    else if openAt < prev + δ then .error (.overlappingInterval openAt (prev + δ))
    else if requireContinuity ∧ openAt ≠ prev + δ then
      .error (.continuityGap (prev + δ) openAt)
    else .ok ()

/-- The loop of `validate_candle_sequence`. -/
def validateFrom (timeframe : String) (δ : ℤ) (requireContinuity : Bool) :
    ℕ → Option Instant → List RawCandle → Except CandleIntegrityError (List CausalCandle)
  | _, _, [] => .ok []
  | index, previous, c :: cs =>
    match c.boundaries δ with
    | .error reason => .error ⟨reason, timeframe, some index⟩
    | .ok (openAt, closeAt) =>
      match checkFollows δ requireContinuity previous openAt with
      | .error reason => .error ⟨reason, timeframe, some index⟩
      | .ok () =>
        match validateFrom timeframe δ requireContinuity (index + 1) (some openAt) cs with
        | .error e => .error e
        | .ok timeline => .ok (⟨c, openAt, closeAt, index⟩ :: timeline)

/-- `validate_candle_sequence` without the value checks. -/
def validateCandleSequence (candles : List RawCandle) (timeframe : String)
    (requireContinuity : Bool) : Except CandleIntegrityError (List CausalCandle) :=
  match timeframeDuration timeframe with
  | none => .error ⟨.invalidTimeframe, lower (strip timeframe), none⟩
  | some δ => validateFrom (lower (strip timeframe)) δ requireContinuity 0 none candles

structure ClosedCandleWindow where
  timeline : List CausalCandle
  decisionTimestamp : Instant
  excludedUnclosedCount : ℕ
  deriving DecidableEq

/-- `closed_candles_as_of` without the value checks. -/
def closedCandlesAsOf (candles : List RawCandle) (timeframe : String) (decision : Instant)
    (minimumClosedHistory : ℕ) (requireContinuity : Bool) :
    Except CandleIntegrityError ClosedCandleWindow :=
  match validateCandleSequence candles timeframe requireContinuity with
  | .error e => .error e
  | .ok timeline =>
    let eligible := timeline.filter fun c => decide (c.closeTimestamp ≤ decision)
    if eligible.length < minimumClosedHistory then
      .error ⟨.insufficientClosedHistory timeline.length eligible.length minimumClosedHistory,
        lower (strip timeframe), none⟩
    else .ok ⟨eligible, decision, timeline.length - eligible.length⟩

variable {previous : Option Instant} {openAt closeAt : Instant} {candles : List RawCandle}

theorem closeBoundary_bounds {explicit : Option Stamp}
    (h : closeBoundary δ openAt explicit = .ok closeAt) :
    openAt + δ - 1000 ≤ closeAt ∧ closeAt ≤ openAt + δ := by
  unfold closeBoundary at h
  split at h
  · cases h
    exact ⟨by linarith, le_rfl⟩
  · split at h
    · cases h
    · split at h
      · cases h
      · next hbounds =>
        cases h
        rw [not_or, not_lt, not_lt] at hbounds
        exact hbounds

theorem RawCandle.boundaries_bounds {c : RawCandle} (h : c.boundaries δ = .ok (openAt, closeAt)) :
    openAt + δ - 1000 ≤ closeAt ∧ closeAt ≤ openAt + δ := by
  unfold RawCandle.boundaries at h
  split at h
  · cases h
  · split at h
    · cases h
    · split at h
      · cases h
      · next hclose =>
        cases h
        exact closeBoundary_bounds hclose

theorem checkFollows_ok {openAt : Instant} (h : checkFollows δ true previous openAt = .ok ()) :
    ∀ prev ∈ previous, openAt = prev + δ := by
  intro prev hprev
  obtain rfl := Option.mem_def.1 hprev
  unfold checkFollows at h
  split at h
  · next hnone => cases hnone
  · next heq =>
    cases heq
    -- Only the last branch accepts, and there the continuity test has failed to fire.
    split_ifs at h with h1 h2 h3 h4
    by_contra hne
    exact h4 ⟨rfl, hne⟩

variable {timeline : List CausalCandle}

/-- What the loop accepts: the boundaries of every candle, one grid step after another,
the first one a step after the previous open. -/
theorem validateFrom_spec {index : ℕ}
    (h : validateFrom timeframe δ true index previous candles = .ok timeline) :
    timeline.map CausalCandle.source = candles ∧
    (∀ c ∈ timeline, c.source.boundaries δ = .ok (c.openTimestamp, c.closeTimestamp)) ∧
    Grid.Contiguous CausalCandle.openTimestamp δ timeline ∧
    ∀ prev ∈ previous, ∀ c ∈ timeline.head?, c.openTimestamp = prev + δ := by
  induction candles generalizing index previous timeline with
  | nil =>
    cases h
    refine ⟨rfl, fun c hc => absurd hc List.not_mem_nil, Grid.Contiguous.nil, ?_⟩
    intro prev _ c hc
    exact absurd hc (Option.not_mem_none c)
  | cons c cs ih =>
    rw [validateFrom] at h
    split at h
    · cases h
    · next openAt closeAt hb =>
      split at h
      · cases h
      · next hf =>
        split at h
        · cases h
        · next rest hrest =>
          cases h
          obtain ⟨hmap, hbounds, hcont, hhead⟩ := ih hrest
          refine ⟨congrArg (c :: ·) hmap, ?_, ?_, ?_⟩
          · intro d hd
            rcases List.mem_cons.1 hd with rfl | hd
            · exact hb
            · exact hbounds d hd
          · exact List.isChain_cons.2 ⟨fun d hd => hhead openAt rfl d hd, hcont⟩
          · intro prev hprev d hd
            cases hd
            exact checkFollows_ok hf prev hprev

theorem validated_entries (h : validateCandleSequence candles timeframe true = .ok timeline) :
    ∃ δ, timeframeDuration timeframe = some δ ∧ 0 < δ ∧
      timeline.map CausalCandle.source = candles ∧
      (∀ c ∈ timeline, c.source.boundaries δ = .ok (c.openTimestamp, c.closeTimestamp)) ∧
      Grid.Contiguous CausalCandle.openTimestamp δ timeline := by
  unfold validateCandleSequence at h
  split at h
  · cases h
  next δ hδ =>
    obtain ⟨hsource, hbounds, hcontiguous, -⟩ := validateFrom_spec h
    exact ⟨δ, hδ, lt_of_lt_of_le (by decide) (minute_le_timeframeDuration hδ), hsource, hbounds,
      hcontiguous⟩

theorem closes_pairwise (hδ : 60000000 ≤ δ)
    (hbounds : ∀ c ∈ timeline, c.source.boundaries δ = .ok (c.openTimestamp, c.closeTimestamp))
    (hcontiguous : Grid.Contiguous CausalCandle.openTimestamp δ timeline) :
    timeline.Pairwise fun a b => a.closeTimestamp ≤ b.closeTimestamp := by
  refine (hcontiguous.pairwise_add_le (by linarith)).imp_of_mem ?_
  intro a b ha hb hab
  have hclose := (RawCandle.boundaries_bounds (hbounds a ha)).2
  have hclose' := (RawCandle.boundaries_bounds (hbounds b hb)).1
  linarith

end CandleCraft.Candles
