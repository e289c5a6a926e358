import CandleCraft.Kernel.DecimalText
import CandleCraft.Strategy.ProtectedStop

/-!
# Confirmed liquidity levels

`confirmed_levels` reports the lows and highs that two neighbours on either side confirm. A level is
swept when a later candle of the list trades beyond it. The index counts from the start of the list,
not of the window. Every candle of a window with five candles is checked, so it does not matter
which check meets an invalid price first.
-/

namespace CandleCraft.Strategy

open PyDecimal

section Model

variable {τ : Type}

/-- What `confirmed_levels` reads of a candle; the prices as `Decimal(str(price))` reads them. -/
structure LevelCandle (τ : Type) where
  low : Literal
  high : Literal
  timestamp : τ

def LevelCandle.price (candle : LevelCandle τ) : LiquiditySide → Literal
  | .below => candle.low
  | .above => candle.high

/-- `LiquidityLevel`, with all its fields. -/
structure ConfirmedLevel (τ : Type) extends LiquidityLevel where
  timeframe : String
  index : ℕ
  timestamp : τ
  swept : Bool
  deriving DecidableEq

inductive LevelError where
  /-- `liquidity_window_out_of_bounds`. -/
  | windowOutOfBounds
  /-- `invalid_liquidity_candle`, or the signal of a text that is not a number. -/
  | invalidCandle
  deriving DecidableEq

def positivePrice : Literal → Except LevelError ℚ
  | .finite price => if 0 < price then .ok price else .error .invalidCandle
  | _ => .error .invalidCandle

def isPivot (price : ℚ) (neighbours : List ℚ) : LiquiditySide → Bool
  | .below => neighbours.all (fun p => price ≤ p) && neighbours.any fun p => price < p
  | .above => neighbours.all (fun p => p ≤ price) && neighbours.any fun p => p < price

def LiquiditySide.beyond (level price : ℚ) : LiquiditySide → Bool
  | .below => price < level
  | .above => level < price

/-- The body of the loop: the candle `c` with its neighbours and the candles after them. -/
def levelsAt (timeframe : String) (index : ℕ) (a b c d e : LevelCandle τ)
    (rest : List (LevelCandle τ)) (side : LiquiditySide) :
    Except LevelError (List (ConfirmedLevel τ)) := do
  let price ← positivePrice (c.price side)
  let neighbours ← [a, b, d, e].mapM fun candle => positivePrice (candle.price side)
  if isPivot price neighbours side then
    let later ← (d :: e :: rest).mapM fun candle => positivePrice (candle.price side)
    let swept := later.any fun p => side.beyond price p
    pure [{ price, side, timeframe, index, timestamp := c.timestamp, swept }]
  else pure []

/-- The loop, from the candle at the index on; the list starts two candles before it. -/
def levelsFrom (timeframe : String) : ℕ → List (LevelCandle τ) →
    Except LevelError (List (ConfirmedLevel τ))
  | index, a :: b :: c :: d :: e :: rest => do
    let below ← levelsAt timeframe index a b c d e rest .below
    let above ← levelsAt timeframe index a b c d e rest .above
    let later ← levelsFrom timeframe (index + 1) (b :: c :: d :: e :: rest)
    pure (below ++ above ++ later)
  | _, _ => pure []

def confirmedLevels (candles : List (LevelCandle τ)) (timeframe : String) (window : ℤ) :
    Except LevelError (List (ConfirmedLevel τ)) :=
  if 5 ≤ window ∧ window ≤ 512 then
    let offset := candles.length - window.toNat
    levelsFrom timeframe (offset + 2) (candles.drop offset)
  else .error .windowOutOfBounds

end Model

section Values

variable {τ : Type} {timeframe : String} {index : ℕ} {side : LiquiditySide}
variable {a b c d e : LevelCandle τ} {l rest : List (LevelCandle τ)}

def LevelCandle.value (candle : LevelCandle τ) (side : LiquiditySide) : ℚ :=
  match candle.price side with
  | .finite price => price
  | _ => 0

def LevelCandle.Valid (candle : LevelCandle τ) : Prop :=
  ∀ side, candle.price side = .finite (candle.value side) ∧ 0 < candle.value side

/-- What the body of the loop reports of candles with usable prices. -/
def levelOf (timeframe : String) (index : ℕ) (a b c d e : LevelCandle τ)
    (rest : List (LevelCandle τ)) (side : LiquiditySide) : Option (ConfirmedLevel τ) :=
  if isPivot (c.value side) ([a, b, d, e].map fun candle => candle.value side) side then
    some
      { price := c.value side, side, timeframe, index, timestamp := c.timestamp
        swept := (d :: e :: rest).any fun candle => side.beyond (c.value side) (candle.value side) }
  else none

theorem positivePrice_ok_iff {price : Literal} {p : ℚ} :
    positivePrice price = .ok p ↔ price = .finite p ∧ 0 < p := by
  unfold positivePrice
  constructor
  · intro h
    split at h
    · split at h
      · next hp =>
        cases h
        exact ⟨rfl, hp⟩
      · cases h
    · cases h
  · rintro ⟨rfl, hp⟩
    exact if_pos hp

theorem value_of_positivePrice {candle : LevelCandle τ} {p : ℚ}
    (h : positivePrice (candle.price side) = .ok p) :
    candle.price side = .finite (candle.value side) ∧ 0 < candle.value side := by
  obtain ⟨hprice, hp⟩ := positivePrice_ok_iff.1 h
  have hvalue : candle.value side = p := by rw [LevelCandle.value, hprice]
  rw [hvalue]
  exact ⟨hprice, hp⟩

theorem LevelCandle.Valid.positivePrice {candle : LevelCandle τ} (h : candle.Valid)
    (side : LiquiditySide) : positivePrice (candle.price side) = .ok (candle.value side) :=
  positivePrice_ok_iff.2 (h side)

theorem levelsAt_eq (h : ∀ candle ∈ a :: b :: c :: d :: e :: rest, candle.Valid)
    (side : LiquiditySide) : levelsAt timeframe index a b c d e rest side =
      .ok (levelOf timeframe index a b c d e rest side).toList := by
  have hprices : ∀ l ⊆ a :: b :: c :: d :: e :: rest,
      (l.mapM fun candle => positivePrice (candle.price side)) =
        .ok (l.map fun candle => candle.value side) := fun l hl =>
    Scan.mapM_ok fun candle hcandle => (h candle (hl hcandle)).positivePrice side
  unfold levelsAt levelOf
  rw [(h c (by simp)).positivePrice side, hprices [a, b, d, e] (by simp),
    hprices (d :: e :: rest) (by intro x hx; simp at hx ⊢; tauto)]
  rw [ok_bind, ok_bind]
  split
  · rw [ok_bind, List.any_map]
    rfl
  · rfl

/-- The body of the loop returns only if it has five candles with usable prices. -/
theorem valid_of_levelsAt {below above : List (ConfirmedLevel τ)}
    (hbelow : levelsAt timeframe index a b c d e rest .below = .ok below)
    (habove : levelsAt timeframe index a b c d e rest .above = .ok above) :
    ∀ candle ∈ [a, b, c, d, e], candle.Valid := by
  have hside : ∀ side levels, levelsAt timeframe index a b c d e rest side = .ok levels →
      ∀ candle ∈ [a, b, c, d, e],
        candle.price side = .finite (candle.value side) ∧ 0 < candle.value side := by
    intro side levels h candle hcandle
    obtain ⟨price, hprice, h⟩ := Scan.bind_ok h
    obtain ⟨neighbours, hneighbours, -⟩ := Scan.bind_ok h
    by_cases hc : candle = c
    · subst hc
      exact value_of_positivePrice hprice
    · have hmem : candle ∈ [a, b, d, e] := by simpa [hc] using hcandle
      obtain ⟨p, hp⟩ := Scan.exists_ok_of_mapM hneighbours candle hmem
      exact value_of_positivePrice hp
  intro candle hcandle side
  cases side with
  | below => exact hside .below below hbelow candle hcandle
  | above => exact hside .above above habove candle hcandle

theorem exists_five {tail : List (LevelCandle τ)} (h : 5 ≤ (a :: tail).length) :
    ∃ b c d e rest, tail = b :: c :: d :: e :: rest := by
  match tail, h with
  | b :: c :: d :: e :: rest, _ => exact ⟨b, c, d, e, rest, rfl⟩

theorem levelsFrom_short (h : l.length < 5) : levelsFrom timeframe index l = .ok [] := by
  unfold levelsFrom
  split
  · simp only [List.length_cons] at h
    omega
  · rfl

/-- A loop over five candles or more returns only if all of them have usable prices. -/
theorem valid_of_levelsFrom {levels : List (ConfirmedLevel τ)}
    (h : levelsFrom timeframe index l = .ok levels) (hlength : 5 ≤ l.length) :
    ∀ candle ∈ l, candle.Valid := by
  induction l generalizing index levels with
  | nil => simp
  | cons a tail ih =>
    obtain ⟨b, c, d, e, rest, rfl⟩ := exists_five hlength
    rw [levelsFrom] at h
    obtain ⟨below, hbelow, h⟩ := Scan.bind_ok h
    obtain ⟨above, habove, h⟩ := Scan.bind_ok h
    obtain ⟨later, hlater, -⟩ := Scan.bind_ok h
    have hfive := valid_of_levelsAt hbelow habove
    cases rest with
    | nil => exact hfive
    | cons f rest => exact List.forall_mem_cons.2 ⟨hfive a (by simp), ih hlater (by simp)⟩

end Values

section Reports

variable {τ : Type} {timeframe : String} {index k : ℕ} {side : LiquiditySide}
variable {a b c d e : LevelCandle τ} {l rest ext : List (LevelCandle τ)} {level : ConfirmedLevel τ}

/-- A level of the loop over candles with usable prices. -/
def Reports (timeframe : String) (index : ℕ) (l : List (LevelCandle τ))
    (level : ConfirmedLevel τ) : Prop :=
  ∃ pre a b c d e rest side, l = pre ++ a :: b :: c :: d :: e :: rest ∧
    levelOf timeframe (index + pre.length) a b c d e rest side = some level

theorem levelOf_eq_some_iff : levelOf timeframe index a b c d e rest side = some level ↔
    isPivot (c.value side) ([a, b, d, e].map fun candle => candle.value side) side = true ∧
      { price := c.value side, side, timeframe, index, timestamp := c.timestamp
        swept := (d :: e :: rest).any fun candle =>
          side.beyond (c.value side) (candle.value side) } = level := by
  rw [levelOf, Option.ite_none_right_eq_some, Option.some.injEq]

theorem Reports.length (h : Reports timeframe index l level) : 5 ≤ l.length := by
  obtain ⟨pre, a, b, c, d, e, rest, side, rfl, -⟩ := h
  simp only [List.length_append, List.length_cons]
  omega

theorem reports_cons : Reports timeframe index (a :: b :: c :: d :: e :: rest) level ↔
    (∃ side, levelOf timeframe index a b c d e rest side = some level) ∨
      Reports timeframe (index + 1) (b :: c :: d :: e :: rest) level := by
  constructor
  · rintro ⟨pre, a', b', c', d', e', rest', side, hsplit, hlevel⟩
    cases pre with
    | nil =>
      cases hsplit
      exact .inl ⟨side, hlevel⟩
    | cons x pre =>
      have hsplit := (List.cons.inj hsplit).2
      rw [List.length_cons, Nat.add_comm pre.length, ← Nat.add_assoc] at hlevel
      exact .inr ⟨pre, a', b', c', d', e', rest', side, hsplit, hlevel⟩
  · rintro (⟨side, hlevel⟩ | ⟨pre, a', b', c', d', e', rest', side, hsplit, hlevel⟩)
    · exact ⟨[], a, b, c, d, e, rest, side, rfl, hlevel⟩
    · refine ⟨a :: pre, a', b', c', d', e', rest', side, by rw [hsplit, List.cons_append], ?_⟩
      rw [List.length_cons, Nat.add_comm pre.length, ← Nat.add_assoc]
      exact hlevel

/-- The loop over candles with usable prices returns the levels of all its positions. -/
theorem levelsFrom_eq (h : ∀ candle ∈ l, candle.Valid) (timeframe : String) (index : ℕ) :
    ∃ levels, levelsFrom timeframe index l = .ok levels ∧
      ∀ level, level ∈ levels ↔ Reports timeframe index l level := by
  induction l generalizing index with
  | nil => exact ⟨[], rfl, fun level => iff_of_false List.not_mem_nil fun hr => by cases hr.length⟩
  | cons a tail ih =>
    rcases Nat.lt_or_ge (a :: tail).length 5 with hshort | hlong
    · refine ⟨[], levelsFrom_short hshort, fun level => iff_of_false List.not_mem_nil fun hr => ?_⟩
      exact absurd hr.length (Nat.not_le.2 hshort)
    obtain ⟨b, c, d, e, rest, rfl⟩ := exists_five hlong
    obtain ⟨later, hlater, hmem⟩ :=
      ih (fun candle hcandle => h candle (List.mem_cons_of_mem a hcandle)) (index + 1)
    rw [levelsFrom, levelsAt_eq h, levelsAt_eq h, hlater]
    refine ⟨_, rfl, fun level => ?_⟩
    rw [reports_cons, List.mem_append, List.mem_append, hmem, Option.mem_toList, Option.mem_toList]
    refine or_congr_left ⟨?_, ?_⟩
    · rintro (hbelow | habove)
      · exact ⟨.below, hbelow⟩
      · exact ⟨.above, habove⟩
    · rintro ⟨side, hlevel⟩
      cases side with
      | below => exact .inl hlevel
      | above => exact .inr hlevel

/-- The level in a later window: candles before its neighbours have left, others have come. -/
def ConfirmedLevel.after (level : ConfirmedLevel τ) (ext : List (LevelCandle τ)) :
    ConfirmedLevel τ :=
  { level with
    swept := level.swept ||
      ext.any (fun candle => level.side.beyond level.price (candle.value level.side)) }

theorem Reports.slide (h : Reports timeframe index l level) (hk : index + k ≤ level.index)
    (ext : List (LevelCandle τ)) :
    Reports timeframe (index + k) (l.drop k ++ ext) (level.after ext) := by
  obtain ⟨pre, a, b, c, d, e, rest, side, rfl, hlevel⟩ := h
  obtain ⟨hpivot, rfl⟩ := levelOf_eq_some_iff.1 hlevel
  have hlength : k ≤ pre.length := by simpa using hk
  refine ⟨pre.drop k, a, b, c, d, e, rest ++ ext, side, ?_, levelOf_eq_some_iff.2 ⟨hpivot, ?_⟩⟩
  · rw [List.drop_append_of_le_length hlength, List.append_assoc]
    rfl
  · rw [List.length_drop, Nat.add_assoc, Nat.add_sub_cancel' hlength]
    simp [ConfirmedLevel.after, Bool.or_assoc]

/-- The candle of a level has its two neighbours on either side. -/
theorem Reports.index_bounds (h : Reports timeframe index l level) :
    index ≤ level.index ∧ level.index + 5 ≤ index + l.length := by
  obtain ⟨pre, a, b, c, d, e, rest, side, rfl, hlevel⟩ := h
  obtain ⟨-, rfl⟩ := levelOf_eq_some_iff.1 hlevel
  simp only [List.length_append, List.length_cons]
  omega

/-- A level is unswept exactly when no candle after its own lies beyond it. -/
theorem Reports.swept_eq_false_iff (h : Reports timeframe index l level) :
    level.swept = false ↔ ∀ candle ∈ l.drop (level.index - index + 3),
      level.side.beyond level.price (candle.value level.side) = false := by
  obtain ⟨pre, a, b, c, d, e, rest, side, rfl, hlevel⟩ := h
  obtain ⟨-, rfl⟩ := levelOf_eq_some_iff.1 hlevel
  rw [Nat.add_sub_cancel_left, ← List.drop_drop, List.drop_left]
  simp

end Reports

section Repainting

variable {τ : Type} {candles ext : List (LevelCandle τ)} {timeframe : String} {window : ℤ}
variable {levels : List (ConfirmedLevel τ)} {level : ConfirmedLevel τ}

/-- A call returns the levels of the window, whose candles have usable prices if there are levels. -/
theorem mem_of_confirmedLevels (h : confirmedLevels candles timeframe window = .ok levels)
    (hlevel : level ∈ levels) :
    (5 ≤ window ∧ window ≤ 512) ∧
      (∀ candle ∈ candles.drop (candles.length - window.toNat), candle.Valid) ∧
      Reports timeframe (candles.length - window.toNat + 2)
        (candles.drop (candles.length - window.toNat)) level := by
  unfold confirmedLevels at h
  split at h
  · next hwindow =>
    have hlength : 5 ≤ (candles.drop (candles.length - window.toNat)).length := by
      by_contra hshort
      rw [levelsFrom_short (by omega)] at h
      cases h
      cases hlevel
    have hvalid := valid_of_levelsFrom h hlength
    obtain ⟨all, hall, hmem⟩ := levelsFrom_eq hvalid timeframe
      (candles.length - window.toNat + 2)
    cases h.symm.trans hall
    exact ⟨hwindow, hvalid, (hmem level).1 hlevel⟩
  · cases h

def LevelCandle.TradedBeyond (candle : LevelCandle τ) (level : ConfirmedLevel τ) : Prop :=
  ∃ price, candle.price level.side = .finite price ∧ level.side.beyond level.price price = true

theorem LevelCandle.Valid.tradedBeyond_iff {candle : LevelCandle τ} (h : candle.Valid) :
    candle.TradedBeyond level ↔
      level.side.beyond level.price (candle.value level.side) = true := by
  constructor
  · rintro ⟨price, hprice, hbeyond⟩
    rw [(h level.side).1, Literal.finite.injEq] at hprice
    rw [hprice]
    exact hbeyond
  · intro hbeyond
    exact ⟨_, (h level.side).1, hbeyond⟩

/-- For every list, window and extension by candles with usable prices: a level whose neighbours are
still in the window is reported again, at the same place; its flag only turns from unswept to swept,
and is unswept exactly when no later candle traded beyond the level. -/
theorem levels_do_not_repaint (h : confirmedLevels candles timeframe window = .ok levels)
    (hext : ∀ candle ∈ ext, candle.Valid) (hlevel : level ∈ levels)
    (hinside : (candles ++ ext).length - window.toNat + 2 ≤ level.index) :
    ∃ levels', confirmedLevels (candles ++ ext) timeframe window = .ok levels' ∧
      ∃ level' ∈ levels', level'.toLiquidityLevel = level.toLiquidityLevel ∧
        level'.timeframe = level.timeframe ∧ level'.index = level.index ∧
        level'.timestamp = level.timestamp ∧ (level.swept = true → level'.swept = true) ∧
        (level'.swept = false ↔
          ∀ candle ∈ (candles ++ ext).drop (level.index + 1), ¬ candle.TradedBeyond level) := by
  obtain ⟨hwindow, hvalid, hreports⟩ := mem_of_confirmedLevels h hlevel
  generalize hoffset : candles.length - window.toNat = offset at hvalid hreports
  -- The new window is the old one without its first candles and with the extension.
  obtain ⟨k, hk⟩ : ∃ k, (candles ++ ext).length - window.toNat = offset + k :=
    Nat.exists_eq_add_of_le (by rw [List.length_append]; omega)
  rw [hk] at hinside
  have hbounds := hreports.index_bounds.2
  rw [List.length_drop] at hbounds
  have hsample : (candles ++ ext).drop (offset + k) = (candles.drop offset).drop k ++ ext := by
    rw [List.drop_append_of_le_length (by omega), List.drop_drop]
  have hvalid' : ∀ candle ∈ (candles.drop offset).drop k ++ ext, candle.Valid :=
    List.forall_mem_append.2 ⟨fun candle hcandle => hvalid candle (List.mem_of_mem_drop hcandle), hext⟩
  have hreports' := hreports.slide (k := k) (by omega) ext
  obtain ⟨levels', hlevels', hmem⟩ := levelsFrom_eq hvalid' timeframe (offset + 2 + k)
  refine ⟨levels', ?_, level.after ext, (hmem _).2 hreports', rfl, rfl, rfl, rfl, ?_, ?_⟩
  · rw [confirmedLevels, if_pos hwindow]
    dsimp only
    rw [hk, hsample, Nat.add_right_comm]
    exact hlevels'
  · intro hswept
    simp [ConfirmedLevel.after, hswept]
  · have hlater : (candles ++ ext).drop (level.index + 1) =
        ((candles.drop offset).drop k ++ ext).drop (level.index - (offset + 2 + k) + 3) := by
      rw [← hsample, List.drop_drop]
      congr 1
      omega
    rw [hlater]
    refine hreports'.swept_eq_false_iff.trans (forall₂_congr fun candle hcandle => ?_)
    rw [(hvalid' candle (List.mem_of_mem_drop hcandle)).tradedBeyond_iff, Bool.not_eq_true]
    rfl

def candlesOf (prices : List (ℚ × ℚ)) : List (LevelCandle ℕ) :=
  prices.zipIdx.map fun p => { low := .finite p.1.1, high := .finite p.1.2, timestamp := p.2 }

/-- Five candles around a low at 5. -/
def dip : List (LevelCandle ℕ) := candlesOf [(10, 20), (9, 20), (5, 20), (9, 20), (10, 20)]

def dipLevel : ConfirmedLevel ℕ where
  price := 5
  side := .below
  timeframe := "15m"
  index := 2
  timestamp := 2
  swept := false

theorem confirmedLevels_dip : confirmedLevels dip "15m" 128 = .ok [dipLevel] := by decide +kernel

/-- A later candle trades through the low, and the level is reported as swept. -/
theorem swept_level_is_reported_again :
    ∃ levels', confirmedLevels (dip ++ candlesOf [(4, 20)]) "15m" 128 = .ok levels' ∧
      ∃ level' ∈ levels', level'.price = 5 ∧ level'.index = 2 ∧ level'.swept = true := by
  have hvalid : ∀ candle ∈ candlesOf [(4, 20)], candle.Valid := by
    intro candle hcandle side
    obtain rfl := List.mem_singleton.1 hcandle
    cases side with
    | below => exact ⟨rfl, by decide +kernel⟩
    | above => exact ⟨rfl, by decide +kernel⟩
  obtain ⟨levels', hlevels', level', hmem, hsame, -, hindex, -, -, hswept⟩ :=
    levels_do_not_repaint confirmedLevels_dip hvalid List.mem_cons_self (by decide)
  refine ⟨levels', hlevels', level', hmem, congrArg LiquidityLevel.price hsame, hindex, ?_⟩
  rw [← Bool.not_eq_false, hswept]
  intro hnone
  exact hnone _ (List.mem_of_mem_getLast? rfl) ⟨4, rfl, by decide +kernel⟩

def gap : LevelCandle ℕ where
  low := .nonFinite
  high := .finite 20
  timestamp := 5

/-- With one more candle that has no usable low the call raises an error and the level is not
reported, although its candle is well inside the window. -/
theorem invalid_candle_hides_levels :
    confirmedLevels dip "15m" 128 = .ok [dipLevel] ∧
    (dip ++ [gap]).length - 128 + 2 ≤ dipLevel.index ∧
    confirmedLevels (dip ++ [gap]) "15m" 128 = .error .invalidCandle := by
  refine ⟨confirmedLevels_dip, by decide, ?_⟩
  decide +kernel

end Repainting

end CandleCraft.Strategy
