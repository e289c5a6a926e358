import CandleCraft.Microstructure.FlowCoverage

/-!
# What a window adds up

Whether or not it is complete, a window reports the accepted trades whose time lies in it: pruning
never reaches a minute of a reported window. The counts are exact. The amounts are decimal sums, by
minute and then over the minutes, and exact as long as the digits fit the decimal context.
-/

namespace CandleCraft.Microstructure

open Relational PyDecimal

/-! ## The number of buckets -/

theorem Buckets.length_prune_le (buckets : Buckets) (maxRetained : ℕ) :
    (buckets.prune maxRetained).rows.length ≤ maxRetained :=
  (Table.length_prune maxRetained buckets).le.trans (min_le_right _ _)

namespace FlowHistory

/-- The aggregator keeps its configuration and no more buckets than that allows. -/
def Bounded (config : FlowConfig) (h : FlowHistory) : Prop :=
  h.flow.config = config ∧ h.flow.buckets.rows.length ≤ config.maxRetainedBuckets

theorem Bounded.step {config : FlowConfig} {h : FlowHistory} (hbounded : h.Bounded config)
    (a : FlowAction) : (h.step a).Bounded config := by
  obtain ⟨hconfig, hlength⟩ := hbounded
  cases a with
  | markConnected | markDisconnected => exact ⟨hconfig, hlength⟩
  | ingest e =>
    rcases h.step_ingest_cases e with ⟨f', hr, hstep⟩ | ⟨-, -, -, hstep⟩
    · rw [hstep]
      exact ⟨hr.config_eq.trans hconfig, by rw [hr.buckets_eq]; exact hlength⟩
    · obtain ⟨hsame, -, -⟩ := h.flow.noteGap_fields e
      rw [hstep]
      refine ⟨hsame.trans hconfig, ?_⟩
      rw [← hconfig, ← hsame]
      exact Buckets.length_prune_le _ _

theorem Bounded.run (config : FlowConfig) (acts : List FlowAction) :
    ((FlowHistory.initial config).run acts).Bounded config :=
  Transition.run_invariant FlowHistory.step (I := Bounded config) (fun _ a hb => hb.step a)
    ⟨rfl, Nat.zero_le _⟩ acts

end FlowHistory

/-! ## Amounts that are not rounded -/

def sideSum (side : Aggressor) (amount : AggTrade → ℚ) (trades : List AggTrade) : ℚ :=
  ((trades.filter fun e => decide (e.aggressiveSide = side)).map amount).sum

structure AmountsFit (e : ℤ) (amount : AggTrade → ℚ) (trades : List AggTrade) : Prop where
  etiny_le : decimalContext.etiny ≤ e
  le_emax : decimalContext.prec + e ≤ decimalContext.emax
  units : ∃ units : AggTrade → ℕ, (∀ t ∈ trades, amount t = units t * (10 : ℚ) ^ e) ∧
    (trades.map units).sum < 10 ^ decimalContext.prec

section Exact

variable {e : ℤ} {units : AggTrade → ℕ}

theorem sum_map_units {amount : AggTrade → ℚ} {trades : List AggTrade}
    (h : ∀ t ∈ trades, amount t = units t * (10 : ℚ) ^ e) :
    (trades.map amount).sum = (trades.map units).sum * (10 : ℚ) ^ e := by
  induction trades with
  | nil => simp
  | cons t rest ih =>
    rw [List.map_cons, List.sum_cons, ih fun t' ht' => h t' (List.mem_cons_of_mem t ht'),
      h t List.mem_cons_self, List.map_cons, List.sum_cons, Nat.cast_add, add_mul]

theorem total_map_units {α : Type} (count : α → ℕ) (l : List α) (he : decimalContext.etiny ≤ e)
    (hmax : decimalContext.prec + e ≤ decimalContext.emax)
    (hfits : (l.map count).sum < 10 ^ decimalContext.prec) :
    decimalContext.total (l.map fun a => (count a : ℚ) * (10 : ℚ) ^ e) =
      (l.map count).sum * (10 : ℚ) ^ e := by
  have hsum : ((l.map fun a => (count a : ℤ)).sum : ℤ) = ((l.map count).sum : ℕ) := by
    have hcast := map_list_sum (Nat.castAddMonoidHom ℤ) (l.map count)
    rw [List.map_map] at hcast
    exact hcast.symm
  have hnonneg : ∀ n ∈ l.map fun a => (count a : ℤ), 0 ≤ n := by
    intro n hn
    obtain ⟨a, -, rfl⟩ := List.mem_map.1 hn
    exact Int.natCast_nonneg _
  have hok := Context.sum_ok (Context.sum_eq hnonneg (by rw [hsum]; exact_mod_cast hfits) he hmax)
  rw [List.map_map, hsum, Int.cast_natCast] at hok
  simpa only [Function.comp_def, Int.cast_natCast] using hok.symm

theorem sum_filter_le (count : AggTrade → ℕ) (p : AggTrade → Bool) (trades : List AggTrade) :
    ((trades.filter p).map count).sum ≤ (trades.map count).sum :=
  (List.filter_sublist.map count).sum_le_sum fun _ _ => Nat.zero_le _

end Exact

namespace AmountsFit

variable {e : ℤ} {amount : AggTrade → ℚ} {trades : List AggTrade}

theorem sideTotal_eq (h : AmountsFit e amount trades) (side : Aggressor) :
    sideTotal side amount trades = sideSum side amount trades := by
  obtain ⟨units, hunits, hfits⟩ := h.units
  set sided := trades.filter fun t => decide (t.aggressiveSide = side) with hsided
  have hunits' : ∀ t ∈ sided, amount t = units t * (10 : ℚ) ^ e := fun t ht =>
    hunits t (List.mem_of_mem_filter ht)
  have hfits' : (sided.map units).sum < 10 ^ decimalContext.prec :=
    lt_of_le_of_lt (sum_filter_le units _ trades) hfits
  have hminute : ∀ start, decimalContext.total (((trades.filter fun t =>
      decide (minuteStart t.tradeTime = start)).filter fun t =>
        decide (t.aggressiveSide = side)).map amount) =
      (((sided.filter fun t => decide (minuteStart t.tradeTime = start)).map units).sum : ℕ) *
        (10 : ℚ) ^ e := by
    intro start
    rw [List.filter_comm, ← hsided, List.map_congr_left fun t ht =>
      hunits' t (List.mem_of_mem_filter ht)]
    exact total_map_units units _ h.etiny_le h.le_emax
      (lt_of_le_of_lt (sum_filter_le units _ sided) hfits')
  have hnodup : (minutesOf trades).Nodup := List.nodup_dedup _
  have hminutes := sum_by_key (fun t => minuteStart t.tradeTime) units sided hnodup fun t ht =>
    mem_minutesOf.2 ⟨t, List.mem_of_mem_filter ht, rfl⟩
  calc sideTotal side amount trades
      = decimalContext.total ((minutesOf trades).map fun start =>
          (((sided.filter fun t => decide (minuteStart t.tradeTime = start)).map units).sum : ℕ) *
            (10 : ℚ) ^ e) := by
        rw [sideTotal, funext hminute]
    _ = ((sided.map units).sum : ℕ) * (10 : ℚ) ^ e := by
        rw [← hminutes]
        exact total_map_units _ _ h.etiny_le h.le_emax (by rw [hminutes]; exact hfits')
    _ = sideSum side amount trades := (sum_map_units hunits').symm

theorem fit_sub (h : AmountsFit e amount trades) (side side' : Aggressor) :
    decimalContext.fit (sideSum side amount trades - sideSum side' amount trades) =
      sideSum side amount trades - sideSum side' amount trades := by
  obtain ⟨units, hunits, hfits⟩ := h.units
  have hsum : ∀ s : Aggressor, ∃ n : ℕ, sideSum s amount trades = n * (10 : ℚ) ^ e ∧
      n < 10 ^ decimalContext.prec := fun s =>
    ⟨_, sum_map_units fun t ht => hunits t (List.mem_of_mem_filter ht),
      lt_of_le_of_lt (sum_filter_le units _ trades) hfits⟩
  obtain ⟨m, hm, hmlt⟩ := hsum side
  obtain ⟨n, hn, hnlt⟩ := hsum side'
  have hdiff : (m : ℚ) * (10 : ℚ) ^ e - n * (10 : ℚ) ^ e = ((m - n : ℤ) : ℚ) * (10 : ℚ) ^ e := by
    push_cast
    ring
  rw [hm, hn, hdiff]
  exact Context.fit_eq_self (by omega) h.etiny_le

theorem quoteNotional_eq (h : AmountsFit e (fun t => t.price * t.quantity) trades) {t : AggTrade}
    (ht : t ∈ trades) : t.quoteNotional = t.price * t.quantity := by
  obtain ⟨units, hunits, hfits⟩ := h.units
  have hle : units t ≤ (trades.map units).sum :=
    List.single_le_sum (fun _ _ => Nat.zero_le _) _ (List.mem_map_of_mem ht)
  have hproduct : t.price * t.quantity = ((units t : ℤ) : ℚ) * (10 : ℚ) ^ e := hunits t ht
  rw [AggTrade.quoteNotional, hproduct]
  exact Context.fit_eq_self (by omega) h.etiny_le

theorem quoteNotional (h : AmountsFit e (fun t => t.price * t.quantity) trades) :
    AmountsFit e AggTrade.quoteNotional trades := by
  obtain ⟨units, hunits, hfits⟩ := h.units
  exact ⟨h.etiny_le, h.le_emax, units,
    fun t ht => (h.quoteNotional_eq ht).trans (hunits t ht), hfits⟩

theorem sideSum_quoteNotional (h : AmountsFit e (fun t => t.price * t.quantity) trades)
    (side : Aggressor) :
    sideSum side AggTrade.quoteNotional trades =
      sideSum side (fun t => t.price * t.quantity) trades := by
  unfold sideSum
  rw [List.map_congr_left fun t ht => h.quoteNotional_eq (List.mem_of_mem_filter ht)]

end AmountsFit

/-! ## Windows -/

/-- The amounts of the two sides in the base currency and their difference, rounded to
eight places. -/
structure FlowFigures.BaseAmounts (f : FlowFigures) (buy sell delta : ℚ) : Prop where
  aggressiveBuyBase : f.aggressiveBuyBase = money buy
  aggressiveSellBase : f.aggressiveSellBase = money sell
  deltaBase : f.deltaBase = money delta

/-- The amounts of the two sides in the quote currency and their difference, rounded to
eight places. -/
structure FlowFigures.QuoteAmounts (f : FlowFigures) (buy sell delta : ℚ) : Prop where
  aggressiveBuyQuote : f.aggressiveBuyQuote = money buy
  aggressiveSellQuote : f.aggressiveSellQuote = money sell
  deltaQuote : f.deltaQuote = money delta

structure FlowFigures.Sums (f : FlowFigures) (trades : List AggTrade) : Prop where
  /-- In the arithmetic of the code, by minute. -/
  base : f.BaseAmounts (sideTotal .buy AggTrade.quantity trades)
    (sideTotal .sell AggTrade.quantity trades)
    (decimalContext.fit (sideTotal .buy AggTrade.quantity trades -
      sideTotal .sell AggTrade.quantity trades))
  quote : f.QuoteAmounts (sideTotal .buy AggTrade.quoteNotional trades)
    (sideTotal .sell AggTrade.quoteNotional trades)
    (decimalContext.fit (sideTotal .buy AggTrade.quoteNotional trades -
      sideTotal .sell AggTrade.quoteNotional trades))
  /-- Exactly, when the digits fit. -/
  exact_base : ∀ e, AmountsFit e AggTrade.quantity trades →
    f.BaseAmounts (sideSum .buy AggTrade.quantity trades) (sideSum .sell AggTrade.quantity trades)
      (sideSum .buy AggTrade.quantity trades - sideSum .sell AggTrade.quantity trades)
  exact_quote : ∀ e, AmountsFit e (fun t => t.price * t.quantity) trades →
    f.QuoteAmounts (sideSum .buy (fun t => t.price * t.quantity) trades)
      (sideSum .sell (fun t => t.price * t.quantity) trades)
      (sideSum .buy (fun t => t.price * t.quantity) trades -
        sideSum .sell (fun t => t.price * t.quantity) trades)

theorem MinuteFlowBucket.aggressiveSellBase_apply (b : MinuteFlowBucket) (e : AggTrade) :
    (b.apply e).aggressiveSellBase =
      addIf (e.aggressiveSide = .sell) b.aggressiveSellBase e.quantity := by
  unfold apply addIf
  cases e.aggressiveSide <;> rfl

theorem FlowAggregator.sums_figures (f : FlowAggregator) (windowStart : Instant) (minutes : ℕ)
    (trades : List AggTrade) :
    (f.figures windowStart minutes ((minutesOf trades).map (bucketOf trades))).Sums trades := by
  have hbuyBase : decimalContext.total (((minutesOf trades).map (bucketOf trades)).map
      (·.aggressiveBuyBase)) = sideTotal .buy AggTrade.quantity trades :=
    total_bucketOf (fun _ => rfl) (fun _ _ => rfl) trades
  have hsellBase : decimalContext.total (((minutesOf trades).map (bucketOf trades)).map
      (·.aggressiveSellBase)) = sideTotal .sell AggTrade.quantity trades :=
    total_bucketOf (fun _ => rfl) MinuteFlowBucket.aggressiveSellBase_apply trades
  have hbuyQuote : decimalContext.total (((minutesOf trades).map (bucketOf trades)).map
      (·.aggressiveBuyQuote)) = sideTotal .buy AggTrade.quoteNotional trades :=
    total_bucketOf (fun _ => rfl) (fun _ _ => rfl) trades
  have hsellQuote : decimalContext.total (((minutesOf trades).map (bucketOf trades)).map
      (·.aggressiveSellQuote)) = sideTotal .sell AggTrade.quoteNotional trades :=
    total_bucketOf (fun _ => rfl) MinuteFlowBucket.aggressiveSellQuote_apply trades
  have hbase : (f.figures windowStart minutes
      ((minutesOf trades).map (bucketOf trades))).BaseAmounts
        (sideTotal .buy AggTrade.quantity trades) (sideTotal .sell AggTrade.quantity trades)
        (decimalContext.fit (sideTotal .buy AggTrade.quantity trades -
          sideTotal .sell AggTrade.quantity trades)) := by
    rw [← hbuyBase, ← hsellBase]
    exact ⟨rfl, rfl, rfl⟩
  have hquote : (f.figures windowStart minutes
      ((minutesOf trades).map (bucketOf trades))).QuoteAmounts
        (sideTotal .buy AggTrade.quoteNotional trades)
        (sideTotal .sell AggTrade.quoteNotional trades)
        (decimalContext.fit (sideTotal .buy AggTrade.quoteNotional trades -
          sideTotal .sell AggTrade.quoteNotional trades)) := by
    rw [← hbuyQuote, ← hsellQuote]
    exact ⟨rfl, rfl, rfl⟩
  refine ⟨hbase, hquote, fun e hfit => ?_, fun e hfit => ?_⟩
  · rw [hfit.sideTotal_eq, hfit.sideTotal_eq, hfit.fit_sub] at hbase
    exact hbase
  · have hnotional := hfit.quoteNotional
    rw [hnotional.sideTotal_eq, hnotional.sideTotal_eq, hnotional.fit_sub,
      hfit.sideSum_quoteNotional, hfit.sideSum_quoteNotional] at hquote
    exact hquote

/-- Minute bucketing loses nothing. After any sequence of trades, connects and disconnects
the number of retained buckets is within its bound, and every window that is reported as of an
instant no earlier than the ingested trades counts the accepted trades whose time lies in it and
reports their amounts. -/
theorem window_sums_accepted_trades (config : FlowConfig) (acts : List FlowAction) (minutes : ℕ)
    (hminutes : minutes ∈ flowWindowsMinutes) (asOf : Instant)
    (hasOf : ∀ e, FlowAction.ingest e ∈ acts → e.tradeTime ≤ asOf) :
    let h := (FlowHistory.initial config).run acts
    let trades := windowTrades (minuteStart asOf - minutes * minute) (minuteStart asOf) h.accepted
    h.flow.buckets.rows.length ≤ config.maxRetainedBuckets ∧
      ∀ w, h.flow.windowReport minutes asOf = .ok w →
        w.aggregateEventCount = trades.length ∧
        w.underlyingTradeCount = (trades.map AggTrade.underlyingTradeCount).sum ∧
        (w.figures = none ↔ trades = []) ∧ ∀ f ∈ w.figures, f.Sums trades := by
  intro h trades
  have hselected := FlowHistory.selected_run config acts hminutes hasOf
  have hreports := FlowAggregator.reports_of_selected hselected
  refine ⟨(FlowHistory.Bounded.run config acts).2, fun w hw => ?_⟩
  obtain rfl : h.flow.windowSnapshot minutes asOf = w := by
    unfold FlowAggregator.windowReport at hw
    dsimp only at hw
    split at hw
    · exact Except.ok.inj hw
    · cases hw
  refine ⟨hreports.aggregateEventCount, hreports.underlyingTradeCount, ?_, fun f hf => ?_⟩
  · have hfigures := hreports.figures
    rw [← Option.map_eq_none_iff, hfigures]
    split
    · next hempty => exact iff_of_true rfl hempty
    · next hsome => exact iff_of_false nofun hsome
  · have hcount : (h.flow.windowSnapshot minutes asOf).figures =
        if (h.flow.windowSnapshot minutes asOf).aggregateEventCount = 0 then none
        else some (h.flow.figures (minuteStart asOf - minutes * minute) minutes
          (h.flow.selected (minuteStart asOf - minutes * minute) (minuteStart asOf))) := rfl
    rw [hcount, Option.mem_def, Option.ite_none_left_eq_some] at hf
    obtain ⟨-, hf⟩ := hf
    rw [← Option.some.inj hf, hselected]
    exact h.flow.sums_figures _ _ _

/-- The minute after a run in which every trade is counted once. -/
theorem sample_window_sums_accepted_trades :
    ∃ w, ((FlowHistory.initial Sample.flowConfig).run Sample.inOrder).flow.windowReport 1
        120000000 = .ok w ∧
      w.aggregateEventCount = 1 ∧ ∃ f ∈ w.figures, f.BaseAmounts 1 0 1 := by
  set trades := windowTrades (minuteStart 120000000 - (1 : ℕ) * minute) (minuteStart 120000000)
    ((FlowHistory.initial Sample.flowConfig).run Sample.inOrder).accepted with htrades
  have hwindow : trades = [Sample.tradeStream.trade 2] := rfl
  obtain ⟨-, hreported⟩ := window_sums_accepted_trades Sample.flowConfig
    Sample.inOrder 1 (by decide) 120000000 fun e he => by
      simp only [Sample.inOrder, List.mem_cons, List.not_mem_nil, or_false, reduceCtorEq, false_or,
        FlowAction.ingest.injEq] at he
      rcases he with rfl | rfl | rfl <;> decide
  have hw : ((FlowHistory.initial Sample.flowConfig).run Sample.inOrder).flow.windowReport 1
      120000000 = .ok _ := if_pos (by decide +kernel)
  obtain ⟨hcount, -, hnone, hsums⟩ := hreported _ hw
  obtain ⟨f, hf⟩ := Option.ne_none_iff_exists'.1
    fun h => List.cons_ne_nil _ _ (hwindow.symm.trans (hnone.1 h))
  refine ⟨_, hw, hcount, f, hf, ?_⟩
  have hfit : AmountsFit 0 AggTrade.quantity trades := by
    refine ⟨by decide, by decide, fun _ => 1, ?_, by decide⟩
    intro t ht
    rw [hwindow, List.mem_singleton] at ht
    rw [ht]
    decide +kernel
  have hbuy : sideSum .buy AggTrade.quantity trades = 1 := by decide +kernel
  have hsell : sideSum .sell AggTrade.quantity trades = 0 := by decide +kernel
  have hbase := (hsums f hf).exact_base 0 hfit
  rw [← htrades, hbuy, hsell, sub_zero] at hbase
  exact hbase

namespace Sample

def tradeOf (id : ℕ) (quantity : ℚ) (h : 0 < quantity) : AggTrade where
  symbol := "BTCUSDT"
  aggregateTradeId := id
  price := 1
  quantity := quantity
  normalQuantity := none
  firstTradeId := id
  lastTradeId := id
  eventTime := 0
  tradeTime := 30000000
  buyerIsMaker := false
  price_pos := one_pos
  quantity_pos := h
  normal_le := nofun
  first_le_last := le_rfl

/-- Two small trades after a very large one. -/
def dustAfterBulk : List FlowAction :=
  [.markConnected 0 false, .ingest (tradeOf 1 (10 ^ 19) (by norm_num)),
    .ingest (tradeOf 2 (4 / 10 ^ 9) (by norm_num)), .ingest (tradeOf 3 (4 / 10 ^ 9) (by norm_num))]

end Sample

/-- The sum of a very large and two small trades has more digits than the decimal context:
each small trade is rounded away when it is added, and the reported total is not the sum,
not even to eight places. -/
theorem window_total_drops_dust :
    (∀ e, FlowAction.ingest e ∈ Sample.dustAfterBulk → e.tradeTime ≤ 60000000) ∧
      (((FlowHistory.initial Sample.flowConfig).run
        Sample.dustAfterBulk).flow.windowReport 1 60000000).toOption.bind
          (fun w => w.figures.map (·.aggressiveBuyBase)) = some (10 ^ 19) ∧
      money (sideSum .buy AggTrade.quantity
        (windowTrades (minuteStart 60000000 - (1 : ℕ) * minute) (minuteStart 60000000)
          ((FlowHistory.initial Sample.flowConfig).run Sample.dustAfterBulk).accepted)) =
        10 ^ 19 + 1 / 10 ^ 8 := by
  refine ⟨?_, by decide +kernel, by decide +kernel⟩
  intro e he
  simp only [Sample.dustAfterBulk, List.mem_cons, List.not_mem_nil, or_false, reduceCtorEq,
    false_or, FlowAction.ingest.injEq] at he
  rcases he with rfl | rfl | rfl <;> decide

end CandleCraft.Microstructure
