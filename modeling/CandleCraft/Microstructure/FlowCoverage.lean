import CandleCraft.Microstructure.FlowBuckets

/-!
# What a complete window covers

The exchange publishes trades with consecutive ids and times that do not decrease; they arrive in
any order. A trade is lost when a later one has been accepted and it has not. A complete window is
exact as long as every lost trade is before the first whole minute from `coverage_start` on.
`TradeStream.Clear` excludes what breaks this: a connect that is not after the trades already lost,
a first trade that comes behind others which may still be delivered, and a gap at a whole minute
whose skipped trades have the time of the trade after it.
-/

namespace CandleCraft.Microstructure

open Relational PyDecimal

/-- The trades of one symbol on the exchange, by id from the first one. -/
structure TradeStream where
  first : ℕ
  trade : ℕ → AggTrade
  id_eq : ∀ n, (trade n).aggregateTradeId = n
  ordered : ∀ m n, first ≤ m → m ≤ n → (trade m).tradeTime ≤ (trade n).tradeTime

namespace TradeStream

/-- The trades with ids up to `last`. -/
def upTo (ex : TradeStream) (last : ℕ) : List AggTrade :=
  (List.range' ex.first (last + 1 - ex.first)).map ex.trade

/-- The trades with ids up to the last accepted one. -/
def published (ex : TradeStream) (h : FlowHistory) : List AggTrade :=
  match h.flow.lastAggregateTradeId with
  | none => []
  | some last => ex.upTo last

def Lost (ex : TradeStream) (h : FlowHistory) (e : AggTrade) : Prop :=
  e ∈ ex.published h ∧ e ∉ h.accepted

def Delivers (ex : TradeStream) (symbol : String) : FlowAction → Prop
  | .ingest e => e.symbol = symbol → ∃ n, ex.first ≤ n ∧ ex.trade n = e
  | _ => True

/-- The step loses no trade from a minute that is still counted as covered. -/
def Clear (ex : TradeStream) (h : FlowHistory) : FlowAction → Prop
  | .markConnected instant _ => ∀ e, ex.Lost h e → e.tradeTime < instant
  | .markDisconnected => True
  | .ingest e => e.symbol = h.flow.config.symbol →
    match h.flow.lastAggregateTradeId with
    | none => ∀ start ∈ h.flow.coverageStart, ∀ n, ex.first ≤ n → n < e.aggregateTradeId →
        (ex.trade n).tradeTime < start
    | some previous => ∀ n, previous < n → n < e.aggregateTradeId →
        (ex.trade n).tradeTime = e.tradeTime → ¬ WholeMinute e.tradeTime

variable {ex : TradeStream}

theorem mem_upTo {last : ℕ} {e : AggTrade} :
    e ∈ ex.upTo last ↔ ∃ n, ex.first ≤ n ∧ n ≤ last ∧ ex.trade n = e := by
  rw [upTo, List.mem_map]
  constructor
  · rintro ⟨n, hn, rfl⟩
    rw [List.mem_range'_1] at hn
    exact ⟨n, hn.1, by omega, rfl⟩
  · rintro ⟨n, hfirst, hlast, rfl⟩
    exact ⟨n, List.mem_range'_1.2 ⟨hfirst, by omega⟩, rfl⟩

theorem trade_injective (ex : TradeStream) : Function.Injective ex.trade := by
  intro m n h
  have := congrArg AggTrade.aggregateTradeId h
  rwa [ex.id_eq, ex.id_eq] at this

theorem nodup_upTo (last : ℕ) : (ex.upTo last).Nodup :=
  List.Nodup.map ex.trade_injective List.nodup_range'

theorem upTo_append {previous last : ℕ} (hfirst : ex.first ≤ previous) (h : previous < last) :
    ex.upTo last = ex.upTo previous ++
      (List.range' (previous + 1) (last - previous)).map ex.trade := by
  have hlength : last + 1 - ex.first = (previous + 1 - ex.first) + (last - previous) := by omega
  rw [upTo, upTo, ← List.map_append, hlength, ← List.range'_append_1]
  congr 3
  omega

/-- What the losses are in every state, when every step is clear. -/
structure Covers (ex : TradeStream) (symbol : String) (h : FlowHistory) : Prop where
  symbol_eq : h.flow.config.symbol = symbol
  first_le : ∀ last ∈ h.flow.lastAggregateTradeId, ex.first ≤ last
  time_eq : h.flow.lastTradeTime =
    h.flow.lastAggregateTradeId.map fun last => (ex.trade last).tradeTime
  accepted : h.accepted.Sublist (ex.published h)
  /-- Lost trades are before every whole minute that counts as covered. -/
  before : ∀ start ∈ h.flow.coverageStart, ∀ e, ex.Lost h e →
    ∀ boundary, WholeMinute boundary → start ≤ boundary → e.tradeTime < boundary

variable {symbol : String} {h : FlowHistory}

theorem published_congr {h h' : FlowHistory}
    (heq : h'.flow.lastAggregateTradeId = h.flow.lastAggregateTradeId) :
    ex.published h' = ex.published h := by
  rw [published, published, heq]

/-- A refused trade loses nothing, and a trade of the exchange with a later id never has
an earlier time. -/
theorem Covers.refused (hc : ex.Covers symbol h) {e : AggTrade} {f' : FlowAggregator}
    (hr : FlowAggregator.Refuses e h.flow f')
    (hdelivers : e.symbol = symbol → ∃ n, ex.first ≤ n ∧ ex.trade n = e) :
    ex.Covers symbol ⟨f', h.accepted⟩ := by
  have hpublished : ex.published ⟨f', h.accepted⟩ = ex.published h := published_congr hr.id_eq
  refine ⟨by rw [hr.config_eq, hc.symbol_eq], ?_, ?_, ?_, ?_⟩
  · simpa only [hr.id_eq] using hc.first_le
  · simpa only [hr.id_eq, hr.time_eq] using hc.time_eq
  · rw [hpublished]
    exact hc.accepted
  · rcases hr.coverage_eq with hsame | ⟨hsymbol, hlater, last, hlast, hlt⟩
    · intro start hstart e' hlost
      rw [Lost, hpublished] at hlost
      exact hc.before start (hsame ▸ hstart) e' hlost
    · exfalso
      obtain ⟨n, -, rfl⟩ := hdelivers (hsymbol.trans hc.symbol_eq)
      rw [hc.time_eq] at hlast
      obtain ⟨previous, hprevious, rfl⟩ := Option.mem_map.1 hlast
      have hid := hlater previous hprevious
      rw [ex.id_eq] at hid
      exact absurd (ex.ordered previous n (hc.first_le previous hprevious) hid.le) (not_le.2 hlt)

theorem Lost.of_accept {n : ℕ} {e : AggTrade}
    (hlost : ex.Lost ⟨(h.flow.noteGap (ex.trade n)).accept (ex.trade n),
      h.accepted ++ [ex.trade n]⟩ e) :
    ∃ k, ex.first ≤ k ∧ k < n ∧ ex.trade k = e ∧ e ∉ h.accepted := by
  obtain ⟨hpublished, hnot⟩ := hlost
  have hmem : e ∈ ex.upTo (ex.trade n).aggregateTradeId := hpublished
  rw [ex.id_eq] at hmem
  obtain ⟨k, hfirst, hle, rfl⟩ := mem_upTo.1 hmem
  rw [List.mem_append, List.mem_singleton, not_or] at hnot
  refine ⟨k, hfirst, lt_of_le_of_ne hle ?_, rfl, hnot.1⟩
  rintro rfl
  exact hnot.2 rfl

theorem Covers.accepted_append (hc : ex.Covers symbol h) {n : ℕ} (hfirst : ex.first ≤ n)
    (hlater : ∀ previous ∈ h.flow.lastAggregateTradeId, previous < n) :
    (h.accepted ++ [ex.trade n]).Sublist (ex.upTo n) := by
  have haccepted := hc.accepted
  unfold published at haccepted
  cases hlast : h.flow.lastAggregateTradeId with
  | none =>
    rw [hlast] at haccepted
    rw [List.sublist_nil.1 haccepted, List.nil_append, List.singleton_sublist]
    exact mem_upTo.2 ⟨n, hfirst, le_rfl, rfl⟩
  | some previous =>
    rw [hlast] at haccepted
    have hlt := hlater previous hlast
    rw [upTo_append (hc.first_le previous hlast) hlt]
    refine haccepted.append (List.singleton_sublist.2 (List.mem_map_of_mem ?_))
    rw [List.mem_range'_1]
    omega

/-- After a gap nothing lost shares a whole minute with the accepted trade. -/
theorem Clear.not_wholeMinute {n k previous : ℕ} (hlast : h.flow.lastAggregateTradeId = some previous)
    (hclear : ex.Clear h (.ingest (ex.trade n)))
    (hsymbol : (ex.trade n).symbol = h.flow.config.symbol) (hfirst : ex.first ≤ k) (hk : k < n)
    (hgap : previous + 1 < n) (htime : (ex.trade k).tradeTime = (ex.trade n).tradeTime) :
    ¬ WholeMinute (ex.trade n).tradeTime := by
  have hskipped := hclear hsymbol
  rw [hlast] at hskipped
  rw [ex.id_eq] at hskipped
  by_cases hbefore : k ≤ previous
  · -- the first skipped trade lies between the two
    refine hskipped (previous + 1) (by omega) hgap (le_antisymm ?_ ?_)
    · exact ex.ordered (previous + 1) n (by omega) hgap.le
    · rw [← htime]
      exact ex.ordered k (previous + 1) hfirst (by omega)
  · exact hskipped k (by omega) hk htime

theorem Covers.accept (hc : ex.Covers symbol h) {n : ℕ} (hfirst : ex.first ≤ n)
    (hlater : ∀ previous ∈ h.flow.lastAggregateTradeId, previous < n)
    (hsymbol : (ex.trade n).symbol = h.flow.config.symbol)
    (hclear : ex.Clear h (.ingest (ex.trade n))) :
    ex.Covers symbol
      ⟨(h.flow.noteGap (ex.trade n)).accept (ex.trade n), h.accepted ++ [ex.trade n]⟩ := by
  obtain ⟨hconfig, -, -⟩ := h.flow.noteGap_fields (ex.trade n)
  constructor
  · exact (congrArg FlowConfig.symbol hconfig).trans hc.symbol_eq
  · rintro last ⟨rfl⟩
    rw [ex.id_eq]
    exact hfirst
  · show some _ = some _
    rw [ex.id_eq]
  · show (h.accepted ++ [ex.trade n]).Sublist (ex.upTo (ex.trade n).aggregateTradeId)
    rw [ex.id_eq]
    exact hc.accepted_append hfirst hlater
  · intro start hstart e hlost boundary hboundary hle
    obtain ⟨k, hk, hkn, rfl, hnot⟩ := hlost.of_accept
    have hstart' : start ∈ (h.flow.noteGap (ex.trade n)).coverageStart := hstart
    unfold FlowAggregator.noteGap at hstart'
    cases hlast : h.flow.lastAggregateTradeId with
    | none =>
      rw [hlast] at hstart'
      have hbefore := hclear hsymbol
      rw [hlast] at hbefore
      rw [ex.id_eq] at hbefore
      exact lt_of_lt_of_le (hbefore start hstart' k hk hkn) hle
    | some previous =>
      rw [hlast, Option.any_some, ex.id_eq] at hstart'
      split at hstart'
      · next hgap =>
        cases hstart'
        have hgap := of_decide_eq_true hgap
        rcases (ex.ordered k n hk hkn.le).lt_or_eq with hlt | heq
        · exact lt_of_lt_of_le hlt hle
        · -- at the time of the gap, which is no whole minute
          have hne := hclear.not_wholeMinute hlast hsymbol hk hkn hgap heq
          rw [heq]
          refine lt_of_le_of_ne hle ?_
          rintro rfl
          exact hne hboundary
      · next hgap =>
        -- nothing is skipped, so the trade was lost before
        have hprevious := hlater previous hlast
        have hnext : k ≤ previous := by
          have : ¬ previous + 1 < n := fun hlt => hgap (decide_eq_true hlt)
          omega
        refine hc.before start hstart' _ ⟨?_, hnot⟩ boundary hboundary hle
        rw [published, hlast]
        exact mem_upTo.2 ⟨k, hk, hnext, rfl⟩

theorem Covers.step (hc : ex.Covers symbol h) {a : FlowAction} (hclear : ex.Clear h a)
    (hdelivers : ex.Delivers symbol a) : ex.Covers symbol (h.step a) := by
  cases a with
  | markConnected instant reconnect =>
    refine { hc with before := ?_ }
    rintro start ⟨rfl⟩ e hlost boundary - hle
    exact lt_of_lt_of_le (hclear e hlost) hle
  | markDisconnected => exact { hc with before := nofun }
  | ingest e =>
    rcases h.step_ingest_cases e with ⟨f', hr, hstep⟩ | ⟨hlater, -, hsymbol, hstep⟩
    · rw [hstep]
      exact hc.refused hr hdelivers
    · rw [hstep]
      obtain ⟨n, hfirst, rfl⟩ := hdelivers (hsymbol.trans hc.symbol_eq)
      rw [ex.id_eq] at hlater
      exact hc.accept hfirst hlater hsymbol hclear

theorem Covers.initial (config : FlowConfig) :
    ex.Covers config.symbol (FlowHistory.initial config) :=
  ⟨rfl, nofun, rfl, List.Sublist.refl _, nofun⟩

theorem Covers.run (config : FlowConfig) {acts : List FlowAction}
    (hdelivers : ∀ a ∈ acts, ex.Delivers config.symbol a)
    (hclear : Transition.Disciplined FlowHistory.step ex.Clear (.initial config) acts) :
    ex.Covers config.symbol ((FlowHistory.initial config).run acts) :=
  (hclear.and_forall hdelivers).invariant (I := ex.Covers config.symbol)
    (fun _ _ ha hc => hc.step ha.1 ha.2) (.initial config)

theorem nodup_published (h : FlowHistory) : (ex.published h).Nodup := by
  unfold published
  split
  · exact List.nodup_nil
  · exact nodup_upTo _

theorem Covers.windowTrades_eq (hc : ex.Covers symbol h) {start windowStart : Instant}
    (hstart : start ∈ h.flow.coverageStart) (hwhole : WholeMinute windowStart)
    (hle : start ≤ windowStart) (windowEnd : Instant) :
    windowTrades windowStart windowEnd h.accepted =
      windowTrades windowStart windowEnd (ex.published h) := by
  have hsub : windowTrades windowStart windowEnd (ex.published h) ⊆
      windowTrades windowStart windowEnd h.accepted := by
    intro e he
    obtain ⟨hpublished, hfrom, hto⟩ := mem_windowTrades.1 he
    refine mem_windowTrades.2 ⟨?_, hfrom, hto⟩
    by_contra hnot
    exact absurd (hc.before start hstart e ⟨hpublished, hnot⟩ windowStart hwhole hle)
      (not_lt.2 hfrom)
  refine (hc.accepted.filter _).eq_of_length_le ?_
  exact (List.subperm_of_subset ((nodup_published h).filter _) hsub).length_le

end TradeStream

/-! ## Complete windows -/

structure FlowWindowSnapshot.Reports (w : FlowWindowSnapshot) (trades : List AggTrade) : Prop where
  aggregateEventCount : w.aggregateEventCount = trades.length
  underlyingTradeCount : w.underlyingTradeCount = (trades.map AggTrade.underlyingTradeCount).sum
  figures : w.figures.map (fun f => (f.aggressiveBuyQuote, f.aggressiveSellQuote, f.deltaQuote)) =
    if trades = [] then none
    else some (money (sideTotal .buy AggTrade.quoteNotional trades),
      money (sideTotal .sell AggTrade.quoteNotional trades),
      money (decimalContext.fit (sideTotal .buy AggTrade.quoteNotional trades -
        sideTotal .sell AggTrade.quoteNotional trades)))

theorem MinuteFlowBucket.aggressiveSellQuote_apply (b : MinuteFlowBucket) (e : AggTrade) :
    (b.apply e).aggressiveSellQuote =
      addIf (e.aggressiveSide = .sell) b.aggressiveSellQuote e.quoteNotional := by
  unfold apply addIf
  cases e.aggressiveSide <;> rfl

variable {minutes : ℕ}

theorem lt_maxRetained_of_mem (h : minutes ∈ flowWindowsMinutes) :
    minutes < maxRetainedMinuteBuckets := by
  simp only [flowWindowsMinutes, List.mem_cons, List.not_mem_nil, or_false] at h
  unfold maxRetainedMinuteBuckets
  omega

/-- A window whose buckets are those of the trades reports the trades. -/
theorem FlowAggregator.reports_of_selected {f : FlowAggregator} {asOf : Instant}
    {trades : List AggTrade}
    (hselected : f.selected (minuteStart asOf - minutes * minute) (minuteStart asOf) =
      (minutesOf trades).map (bucketOf trades)) :
    (f.windowSnapshot minutes asOf).Reports trades := by
  have hcount : (((minutesOf trades).map (bucketOf trades)).map (·.aggregateEventCount)).sum =
      trades.length := by
    calc _ = (trades.map fun _ => 1).sum := sum_bucketOf (fun _ => rfl) (fun _ _ => rfl) trades
      _ = trades.length := by simp
  have hunderlying : (((minutesOf trades).map (bucketOf trades)).map
      (·.underlyingTradeCount)).sum = (trades.map AggTrade.underlyingTradeCount).sum :=
    sum_bucketOf (fun _ => rfl) (fun _ _ => rfl) trades
  have hbuy : decimalContext.total (((minutesOf trades).map (bucketOf trades)).map
      (·.aggressiveBuyQuote)) = sideTotal .buy AggTrade.quoteNotional trades :=
    total_bucketOf (fun _ => rfl) (fun _ _ => rfl) trades
  have hsell : decimalContext.total (((minutesOf trades).map (bucketOf trades)).map
      (·.aggressiveSellQuote)) = sideTotal .sell AggTrade.quoteNotional trades :=
    total_bucketOf (fun _ => rfl) MinuteFlowBucket.aggressiveSellQuote_apply trades
  unfold FlowAggregator.windowSnapshot
  dsimp only
  rw [hselected, hcount]
  constructor
  · rfl
  · dsimp only
    rw [hunderlying]
    split
    · next hempty => rw [List.length_eq_zero_iff.1 hempty, List.map_nil, List.sum_nil]
    · rfl
  · dsimp only
    by_cases hempty : trades = []
    · rw [if_pos (List.length_eq_zero_iff.2 hempty), if_pos hempty, Option.map_none]
    · rw [if_neg (fun h => hempty (List.length_eq_zero_iff.1 h)), if_neg hempty, Option.map_some,
        FlowAggregator.figures]
      rw [hbuy, hsell]

/-- The buckets of a reported window are those of the accepted trades in it. -/
theorem FlowHistory.selected_run (config : FlowConfig) (acts : List FlowAction)
    (hminutes : minutes ∈ flowWindowsMinutes) {asOf : Instant}
    (hasOf : ∀ e, FlowAction.ingest e ∈ acts → e.tradeTime ≤ asOf) :
    ((FlowHistory.initial config).run acts).flow.selected (minuteStart asOf - minutes * minute)
        (minuteStart asOf) =
      (minutesOf (windowTrades (minuteStart asOf - minutes * minute) (minuteStart asOf)
        ((FlowHistory.initial config).run acts).accepted)).map
        (bucketOf (windowTrades (minuteStart asOf - minutes * minute) (minuteStart asOf)
          ((FlowHistory.initial config).run acts).accepted)) := by
  have hb := FlowHistory.Bucketed.run config acts
  have haccepted := FlowHistory.mem_accepted_run config acts
  generalize (FlowHistory.initial config).run acts = h at hb haccepted ⊢
  have hend := wholeMinute_minuteStart asOf
  have hwhole : WholeMinute (minuteStart asOf - minutes * minute) :=
    Int.dvd_sub hend (Int.dvd_mul_left _ _)
  have hretained : minutes < h.flow.config.maxRetainedBuckets :=
    lt_of_lt_of_le (lt_maxRetained_of_mem hminutes) h.flow.config.retained_ge
  refine hb.selected hwhole hend fun e he hfrom => ?_
  exact hb.mem_starts (fun e' he' => hasOf e' (haccepted e' he')) hretained he
    ((le_minuteStart_iff hwhole).2 hfrom)

/-- A window that is reported complete reports every published trade in it: the trades of
the exchange up to the last accepted id, as long as every step is clear. -/
theorem complete_window_reports_every_trade (ex : TradeStream) (config : FlowConfig)
    (acts : List FlowAction) (hdelivers : ∀ a ∈ acts, ex.Delivers config.symbol a)
    (hclear : Transition.Disciplined FlowHistory.step ex.Clear (.initial config) acts)
    (minutes : ℕ) (hminutes : minutes ∈ flowWindowsMinutes) (asOf : Instant)
    (hasOf : ∀ e, FlowAction.ingest e ∈ acts → e.tradeTime ≤ asOf)
    (hcomplete : (((FlowHistory.initial config).run acts).flow.windowSnapshot minutes
      asOf).coverageComplete = true) :
    (((FlowHistory.initial config).run acts).flow.windowSnapshot minutes asOf).Reports
      (windowTrades (minuteStart asOf - minutes * minute) (minuteStart asOf)
        (ex.published ((FlowHistory.initial config).run acts))) := by
  have hselected := FlowHistory.selected_run config acts hminutes hasOf
  have hc := TradeStream.Covers.run config hdelivers hclear
  generalize (FlowHistory.initial config).run acts = h at hselected hc hcomplete ⊢
  obtain ⟨start, hstart, hle⟩ : ∃ start ∈ h.flow.coverageStart,
      start ≤ minuteStart asOf - minutes * minute := by
    obtain ⟨-, hcovered⟩ := Bool.and_eq_true_iff.1 hcomplete
    obtain ⟨start, hstart, hle⟩ := (Option.any_eq_true _ _).1 hcovered
    exact ⟨start, hstart, of_decide_eq_true hle⟩
  have hwhole : WholeMinute (minuteStart asOf - minutes * minute) :=
    Int.dvd_sub (wholeMinute_minuteStart asOf) (Int.dvd_mul_left _ _)
  rw [← hc.windowTrades_eq hstart hwhole hle]
  exact FlowAggregator.reports_of_selected hselected

namespace Sample

def flowConfig : FlowConfig := ⟨"BTCUSDT", 30, 16, le_rfl⟩

theorem price_pos : (0 : ℚ) < 100 := by norm_num

theorem quantity_pos : (0 : ℚ) < 1 := by norm_num

theorem normal_le : ∀ nq ∈ (none : Option ℚ), 0 ≤ nq ∧ nq ≤ 1 := by simp

/-- The first trade is half a minute before a boundary, all later ones are on it. -/
def publishedTrade (n : ℕ) : AggTrade where
  symbol := "BTCUSDT"
  aggregateTradeId := n
  price := 100
  quantity := 1
  normalQuantity := none
  firstTradeId := n
  lastTradeId := n
  eventTime := 0
  tradeTime := if n ≤ 1 then 30000000 else 60000000
  buyerIsMaker := false
  price_pos := price_pos
  quantity_pos := quantity_pos
  normal_le := normal_le
  first_le_last := Nat.le_refl n

theorem publishedTrade_id (n : ℕ) : (publishedTrade n).aggregateTradeId = n := rfl

theorem publishedTrade_ordered (m n : ℕ) (_ : 1 ≤ m) (hmn : m ≤ n) :
    (publishedTrade m).tradeTime ≤ (publishedTrade n).tradeTime := by
  dsimp only [publishedTrade]
  split_ifs <;> first | omega | decide

def tradeStream : TradeStream where
  first := 1
  trade := publishedTrade
  id_eq := publishedTrade_id
  ordered := publishedTrade_ordered

/-- Every trade arrives, one of them twice. -/
def inOrder : List FlowAction :=
  [.markConnected 0 false, .ingest (tradeStream.trade 1), .ingest (tradeStream.trade 1),
    .ingest (tradeStream.trade 2)]

def withGap : List FlowAction :=
  [.markConnected 0 false, .ingest (tradeStream.trade 1), .ingest (tradeStream.trade 3)]

theorem delivers_inOrder : ∀ a ∈ inOrder, tradeStream.Delivers flowConfig.symbol a := by
  simp only [inOrder, List.forall_mem_cons]
  exact ⟨trivial, fun _ => ⟨1, le_rfl, rfl⟩, fun _ => ⟨1, le_rfl, rfl⟩,
    fun _ => ⟨2, by decide, rfl⟩, nofun⟩

theorem clear_inOrder :
    Transition.Disciplined FlowHistory.step tradeStream.Clear (.initial flowConfig) inOrder := by
  refine ⟨?_, ?_, ?_, ?_, trivial⟩
  · rintro e ⟨hmem, -⟩
    exact absurd hmem List.not_mem_nil
  · intro _
    show ∀ start ∈ some 0, ∀ n, 1 ≤ n → n < 1 → _
    intro start _ n h1 h2
    omega
  · intro _
    show ∀ n, 1 < n → n < 1 → _
    intro n h1 h2
    omega
  · intro _
    show ∀ n, 1 < n → n < 2 → _
    intro n h1 h2
    omega

end Sample

/-- The minute after a run in which no trade is missed. -/
theorem complete_window_reports_every_trade_sample :
    (((FlowHistory.initial Sample.flowConfig).run Sample.inOrder).flow.windowSnapshot 1
        120000000).coverageComplete = true ∧
      (((FlowHistory.initial Sample.flowConfig).run Sample.inOrder).flow.windowSnapshot 1
        120000000).Reports (windowTrades (minuteStart 120000000 - (1 : ℕ) * minute)
          (minuteStart 120000000)
          (Sample.tradeStream.published
            ((FlowHistory.initial Sample.flowConfig).run Sample.inOrder))) := by
  have hcomplete : (((FlowHistory.initial Sample.flowConfig).run Sample.inOrder).flow.windowSnapshot
      1 120000000).coverageComplete = true := by decide +kernel
  refine ⟨hcomplete, complete_window_reports_every_trade Sample.tradeStream Sample.flowConfig
    Sample.inOrder Sample.delivers_inOrder Sample.clear_inOrder 1 (by decide) 120000000 ?_
    hcomplete⟩
  intro e he
  simp only [Sample.inOrder, List.mem_cons, List.not_mem_nil, or_false, reduceCtorEq, false_or,
    FlowAction.ingest.injEq] at he
  rcases he with rfl | rfl | rfl <;> decide

/-- A trade is lost in a gap at a whole minute, with the time of the trade after the gap. The
window from that minute on is reported complete and counts one trade of two. -/
theorem complete_window_misses_trade :
    (∀ a ∈ Sample.withGap, Sample.tradeStream.Delivers Sample.flowConfig.symbol a) ∧
      (∀ e, FlowAction.ingest e ∈ Sample.withGap → e.tradeTime ≤ 120000000) ∧
      (((FlowHistory.initial Sample.flowConfig).run Sample.withGap).flow.windowSnapshot 1
        120000000).coverageComplete = true ∧
      (((FlowHistory.initial Sample.flowConfig).run Sample.withGap).flow.windowSnapshot 1
        120000000).aggregateEventCount = 1 ∧
      (windowTrades (minuteStart 120000000 - (1 : ℕ) * minute) (minuteStart 120000000)
        (Sample.tradeStream.published
          ((FlowHistory.initial Sample.flowConfig).run Sample.withGap))).length = 2 := by
  refine ⟨?_, ?_, by decide +kernel, by decide +kernel, by decide +kernel⟩
  · simp only [Sample.withGap, List.forall_mem_cons]
    exact ⟨trivial, fun _ => ⟨1, le_rfl, rfl⟩, fun _ => ⟨3, by decide, rfl⟩, nofun⟩
  · intro e he
    simp only [Sample.withGap, List.mem_cons, List.not_mem_nil, or_false, reduceCtorEq, false_or,
      FlowAction.ingest.injEq] at he
    rcases he with rfl | rfl <;> decide

-- The first trade arrives behind the second one and is refused. Its minute is reported
-- complete and without trades.
example : (((FlowHistory.initial Sample.flowConfig).run
    [.markConnected 0 false, .ingest (Sample.tradeStream.trade 2),
      .ingest (Sample.tradeStream.trade 1)]).flow.windowSnapshot 1 60000000).reason =
        some "no_valid_events_in_window" := by decide +kernel

-- A connect that is dated before a lost trade covers its minute again.
example : (((FlowHistory.initial Sample.flowConfig).run
    (Sample.withGap ++ [.markConnected 45000000 true])).flow.windowSnapshot 1
      120000000).coverageComplete = true := by decide +kernel

end CandleCraft.Microstructure
