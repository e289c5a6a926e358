import CandleCraft.Microstructure.BookRefinement

/-!
# The report on a reachable book

`snapshot` on a book that any sequence of actions leads to. Its divisors are the mid price,
totals it has found positive and constants. The mid price is positive as long as every
delivered price is one the decimal context can represent; below that the context rounds
the sum of the best prices to zero.
-/

namespace CandleCraft.Microstructure

open Relational PyDecimal

/-! ## Division in the report -/

section Report

variable {c : Context} {mid : ℚ}

theorem regular_rawDistance (price : ℚ) (side : BookSide) :
    Regular (rawDistance c mid price side) := by
  unfold rawDistance
  split
  · exact regular_sub
  · exact regular_sub

theorem regular_distanceBps (boundary : Option ℚ) (side : BookSide) :
    Regular (distanceBps c mid boundary side) := by
  unfold distanceBps
  split
  · exact regular_ok _
  split
  · exact regular_ok _
  next hmid =>
  exact (regular_rawDistance _ _).bind fun _ _ => (regular_div (by linarith)).bind fun _ _ =>
    regular_mul.bind fun _ _ => regular_pure _

theorem regular_quantizeOption (x : Option ℚ) (e : ℤ) : Regular (quantizeOption c x e) := by
  unfold quantizeOption
  split
  · exact regular_ok _
  · exact (regular_quantize e).bind fun q _ => regular_pure _

theorem regular_bandLimits (bandBps : ℕ) : Regular (bandLimits c mid bandBps) :=
  (regular_div (by norm_num)).bind fun _ _ => regular_sub.bind fun _ _ =>
    regular_mul.bind fun _ _ => regular_add.bind fun _ _ => regular_mul.bind fun _ _ =>
      regular_pure _

theorem regular_quoteVolume (levels : List (ℚ × ℚ)) : Regular (quoteVolume c levels) :=
  (regular_mapM fun _ _ => regular_mul).bind fun quotes _ => regular_sum quotes

theorem regular_imbalance (bidQuote askQuote total : ℚ) :
    Regular (imbalance c bidQuote askQuote total) := by
  unfold imbalance
  split
  · next htotal =>
    exact regular_sub.bind fun _ _ => (regular_div htotal.ne').bind fun _ _ => regular_pure _
  · exact regular_pure _

theorem regular_shareOfBand (quote observedBandQuote : ℚ) :
    Regular (shareOfBand c quote observedBandQuote) := by
  unfold shareOfBand
  split
  · next hobserved => exact (regular_div hobserved.ne').bind fun _ _ => regular_pure _
  · exact regular_pure _

theorem regular_bandFigures (bids asks : Side) (furthestBid furthestAsk : Option ℚ)
    (bandBps : ℕ) : Regular (bandFigures c bids asks mid furthestBid furthestAsk bandBps) := by
  refine (regular_bandLimits bandBps).bind fun limits _ => ?_
  refine (regular_quoteVolume _).bind fun bidQuote _ => ?_
  refine (regular_quoteVolume _).bind fun askQuote _ => ?_
  refine regular_add.bind fun total _ => ?_
  refine (regular_imbalance _ _ _).bind fun imbalance _ => ?_
  exact (regular_quantize _).bind fun _ _ => (regular_quantize _).bind fun _ _ =>
    (regular_quantizeOption _ _).bind fun _ _ => regular_pure _

theorem regular_largestConcentration (levels : List (ℚ × ℚ)) (side : BookSide) (bandBps : ℕ)
    (observedBandQuote : ℚ) (hmid : mid ≠ 0) :
    Regular (largestConcentration c levels mid side bandBps observedBandQuote) := by
  refine (regular_mapM fun _ _ => regular_mul.bind fun _ _ => regular_pure _).bind
    fun candidates _ => ?_
  split
  · exact regular_pure _
  refine (regular_rawDistance _ _).bind fun rawDistance _ => ?_
  refine (regular_shareOfBand _ _).bind fun share _ => ?_
  exact (regular_quantize _).bind fun _ _ => (regular_div hmid).bind fun _ _ =>
    regular_mul.bind fun _ _ => (regular_quantize _).bind fun _ _ =>
      (regular_quantizeOption _ _).bind fun _ _ => regular_pure _

theorem mid_pos {bestBid bestAsk total : ℚ} (hbid : c.tiny ≤ bestBid) (hask : c.tiny ≤ bestAsk)
    (htotal : c.add bestBid bestAsk = .ok total) (hmid : c.div total 2 = .ok mid) : 0 < mid := by
  have htwo : 2 * c.tiny ≤ total := by
    rw [Context.finish_ok htotal]
    exact Context.two_tiny_le_fit (by linarith)
  rw [Context.div, if_neg (by norm_num)] at hmid
  rw [Context.finish_ok hmid]
  exact lt_of_lt_of_le Context.tiny_pos (Context.fit_ge (by linarith))

theorem regular_figures {b : Book} {bestBid bestAsk : ℚ} (hbid : c.tiny ≤ bestBid)
    (hask : c.tiny ≤ bestAsk) : Regular (figures c b bestBid bestAsk) := by
  refine regular_add.bind fun total htotal => ?_
  refine (regular_div (by norm_num)).bind fun mid hmid => ?_
  have hpos : 0 < mid := mid_pos hbid hask htotal hmid
  refine regular_sub.bind fun spread _ => ?_
  refine (regular_div hpos.ne').bind fun relative _ => ?_
  refine regular_mul.bind fun spreadBps _ => ?_
  refine (regular_distanceBps _ _).bind fun furthestBid _ => ?_
  refine (regular_distanceBps _ _).bind fun furthestAsk _ => ?_
  refine (regular_mapM fun band _ => regular_bandFigures _ _ _ _ band).bind fun bands _ => ?_
  refine (regular_bandFigures _ _ _ _ _).bind fun outer _ => ?_
  refine (regular_bandLimits _).bind fun limits _ => ?_
  refine (regular_largestConcentration _ _ _ _ hpos.ne').bind fun largestBid _ => ?_
  refine (regular_largestConcentration _ _ _ _ hpos.ne').bind fun largestAsk _ => ?_
  exact (regular_quantize _).bind fun _ _ => (regular_quantizeOption _ _).bind fun _ _ =>
    (regular_quantizeOption _ _).bind fun _ _ => regular_pure _

end Report

/-! ## Reachable books -/

theorem figures_best {c : Context} {b : Book} {bestBid bestAsk : ℚ} {f : BookFigures}
    (h : figures c b bestBid bestAsk = .ok f) : f.bestBid = bestBid ∧ f.bestAsk = bestAsk := by
  unfold figures at h
  iterate 15
    obtain ⟨_, -, h⟩ := Scan.bind_ok h
  cases h
  exact ⟨rfl, rfl⟩

namespace Book

structure WellFormed (b : Book) : Prop where
  synchronized : b.synchronized = true →
    b.bids.rows ≠ [] ∧ b.asks.rows ≠ [] ∧ Uncrossed b.bids b.asks ∧ b.lastUpdateId ≠ none ∧
      b.snapshotInstalled = true ∧ b.buffer = [] ∧ b.needsResync = false
  positive : ∀ level ∈ b.bids.rows ++ b.asks.rows, 0 < level.1 ∧ 0 < level.2
  untrusted : b.snapshotInstalled = false → b.bids.rows = [] ∧ b.asks.rows = []
  bounded : b.buffer.length ≤ b.config.eventBufferSize

/-- The report leaves the book as it is, finds both best prices and never reports them
crossed. -/
structure ReportsUncrossed (asOf : Instant) (b : Book) : Prop where
  unchanged : (b.snapshot asOf).2 = b
  populated : (b.snapshot asOf).1 ≠ .error .emptySide
  ordered : ∀ report f, (b.snapshot asOf).1 = .ok report → report.figures = some f →
    f.bestBid < f.bestAsk

def ReportsDivided (asOf : Instant) (b : Book) : Prop :=
  (b.snapshot asOf).1 ≠ .error (.signal .divisionByZero) ∧
    (b.snapshot asOf).1 ≠ .error (.signal .divisionUndefined)

variable {lower : ℚ} {b : Book}

theorem Sound.wellFormed (h : b.Sound lower) : b.WellFormed where
  synchronized hs :=
    ⟨(h.uncrossed hs).ne_nil.1, (h.uncrossed hs).ne_nil.2, h.uncrossed hs, h.updateId hs,
      h.installed hs, h.drained hs, h.settled hs⟩
  positive := by
    intro level hlevel
    rcases List.mem_append.1 hlevel with hbid | hask
    · exact (h.bids level hbid).2
    · exact (h.asks level hask).2
  untrusted hs := by
    obtain ⟨hbids, hasks⟩ := h.untrusted hs
    rw [hbids, hasks]
    exact ⟨rfl, rfl⟩
  bounded := h.bounded

/-- On a sound book the report is the one for books that are not synchronized, or it is
computed from a best bid below a best ask. -/
theorem Sound.snapshot_cases (h : b.Sound lower) (asOf : Instant) :
    b.snapshot asOf = (.ok (b.unavailable asOf), b) ∨
      ∃ bid ∈ b.bids.rows, ∃ ask ∈ b.asks.rows, bid.1 < ask.1 ∧
        ((∃ s, figures decimalContext b bid.1 ask.1 = .error s ∧
            b.snapshot asOf = (.error (.signal s), b)) ∨
          ∃ f, figures decimalContext b bid.1 ask.1 = .ok f ∧
            b.snapshot asOf = (.ok (b.available asOf f), b)) := by
  by_cases hs : b.synchronized = true
  · right
    obtain ⟨bestBid, hbid, bestAsk, hask, hlt⟩ := h.uncrossed hs
    obtain ⟨bid, hbidMem, rfl⟩ := List.mem_map.1 (List.max?_mem hbid)
    obtain ⟨ask, haskMem, rfl⟩ := List.mem_map.1 (List.min?_mem hask)
    refine ⟨bid, hbidMem, ask, haskMem, hlt, ?_⟩
    rw [Option.mem_def] at hbid hask
    rw [Book.snapshot, if_neg (not_not_intro hs), hbid, hask]
    simp only [if_neg (not_le.2 hlt)]
    -- what follows does not look into the figures
    generalize figures decimalContext b bid.1 ask.1 = computed
    cases computed with
    | error s => exact Or.inl ⟨s, rfl, rfl⟩
    | ok f => exact Or.inr ⟨f, rfl, rfl⟩
  · left
    rw [Book.snapshot, if_pos hs]

theorem Sound.reportsUncrossed (h : b.Sound lower) (asOf : Instant) :
    b.ReportsUncrossed asOf := by
  rcases h.snapshot_cases asOf with
    hout | ⟨bid, -, ask, -, hlt, ⟨s, -, hout⟩ | ⟨figs, hfigs, hout⟩⟩
  · refine ⟨by rw [hout], by rw [hout]; nofun, ?_⟩
    rw [hout]
    rintro report f ⟨rfl⟩ hf
    cases hf
  · refine ⟨by rw [hout], by rw [hout]; nofun, ?_⟩
    rw [hout]
    intro report f hok
    cases hok
  · refine ⟨by rw [hout], by rw [hout]; nofun, ?_⟩
    rw [hout]
    rintro report f ⟨rfl⟩ ⟨rfl⟩
    rw [(figures_best hfigs).1, (figures_best hfigs).2]
    exact hlt

theorem Sound.reportsDivided (h : b.Sound decimalContext.tiny) (asOf : Instant) :
    b.ReportsDivided asOf := by
  rcases h.snapshot_cases asOf with
    hout | ⟨bid, hbid, ask, hask, -, ⟨s, hfigs, hout⟩ | ⟨figs, -, hout⟩⟩
  · exact ⟨by rw [hout]; nofun, by rw [hout]; nofun⟩
  · have hregular := regular_figures (b := b) (h.bids bid hbid).1 (h.asks ask hask).1
    rw [hfigs] at hregular
    constructor
    · rw [hout]
      rintro ⟨⟩
      exact hregular.1 rfl
    · rw [hout]
      rintro ⟨⟩
      exact hregular.2 rfl
  · exact ⟨by rw [hout]; nofun, by rw [hout]; nofun⟩

end Book

/-- When the context rounds the sum of the best prices to zero, so is the spread, and the
report stops at their quotient. -/
theorem figures_underflow {c : Context} {b : Book} {bestBid bestAsk : ℚ} (hbid : 0 ≤ bestBid)
    (hle : bestBid ≤ bestAsk) (hsum : 2 * (bestBid + bestAsk) < c.tiny) :
    figures c b bestBid bestAsk = .error .divisionUndefined := by
  have htotal : c.add bestBid bestAsk = .ok 0 :=
    Context.finish_eq_zero (Context.fit_eq_zero (by linarith) hsum)
  have hmid : c.div 0 2 = .ok 0 := by
    rw [Context.div, if_neg (by norm_num), zero_div]
    exact Context.finish_eq_zero (Context.fit_eq_zero le_rfl (by linarith [c.tiny_pos]))
  have hspread : c.sub bestAsk bestBid = .ok 0 :=
    Context.finish_eq_zero (Context.fit_eq_zero (by linarith) (by linarith))
  have hquotient : c.div 0 0 = .error .divisionUndefined := by
    rw [Context.div, if_pos rfl, if_pos rfl]
  rw [figures, htotal, ok_bind, hmid, ok_bind, hspread, ok_bind, hquotient, error_bind]

namespace Sample

def level (price : ℚ) (h : 0 < price) : DepthLevelUpdate := ⟨price, 1, h, unit_nonneg⟩

/-- An event that changes no level and bridges a snapshot at `5`. -/
def bridge : DepthEvent where
  symbol := "BTCUSDT"
  eventTime := 0
  transactionTime := 0
  firstUpdateId := 4
  finalUpdateId := 6
  previousFinalUpdateId := 3
  bids := []
  asks := []
  first_le_final := bridge_ids

def bootstrap {bid ask : ℚ} (hbid : 0 < bid) (hask : 0 < ask) : List BookAction :=
  [.markConnected false, .installSnapshot ⟨5, 0, 0, [level bid hbid], [level ask hask]⟩ 0,
    .ingest bridge 0]

theorem ofLevels_level {price : ℚ} (h : 0 < price) :
    (Side.ofLevels [level price h]).rows = [(price, 1)] := by
  simp [Side.ofLevels, level, Table.put, Table.empty, Table.insert]

theorem uncrossed_levels {bid ask : ℚ} (hbid : 0 < bid) (hask : 0 < ask) (hlt : bid < ask) :
    Uncrossed (Side.ofLevels [level bid hbid]) (Side.ofLevels [level ask hask]) := by
  refine ⟨bid, ?_, ask, ?_, hlt⟩
  · rw [Side.prices, ofLevels_level]
    rfl
  · rw [Side.prices, ofLevels_level]
    rfl

theorem bootstrap_book {bid ask : ℚ} (hbid : 0 < bid) (hask : 0 < ask) (hlt : bid < ask) :
    ((Book.initial bookConfig).run (bootstrap hbid hask)).synchronized = true ∧
      ((Book.initial bookConfig).run (bootstrap hbid hask)).bids.prices = [bid] ∧
      ((Book.initial bookConfig).run (bootstrap hbid hask)).asks.prices = [ask] := by
  have huncrossed := uncrossed_levels hbid hask hlt
  simp [Book.run, Transition.run, bootstrap, Book.step, Book.installSnapshot, huncrossed,
    Book.reconcileBuffer, Book.ingest, Book.markConnected, Book.clearTrustedBook, Book.initial,
    bookConfig, bridge, Book.applyLevels, Side.apply, Book.replay, Side.prices, ofLevels_level]

theorem bootstrap_above {lower bid ask : ℚ} (hbid : 0 < bid) (hask : 0 < ask) (hb : lower ≤ bid)
    (ha : lower ≤ ask) : ∀ a ∈ bootstrap hbid hask, a.Above lower := by
  simp [bootstrap, BookAction.Above, PricesAbove, DepthEvent.Above, level, bridge, hb, ha]

theorem tiny_le_one : decimalContext.tiny ≤ 1 :=
  zpow_le_one_of_nonpos₀ (by norm_num) (by decide)

end Sample

/-- After any sequence of actions the book is well formed and reports no crossed book, and
when no delivered price is below the smallest positive decimal of the context, the report
divides by no zero. -/
theorem reachable_book_well_formed (config : BookConfig) (acts : List BookAction)
    (asOf : Instant) :
    ((Book.initial config).run acts).WellFormed ∧
      ((Book.initial config).run acts).ReportsUncrossed asOf ∧
      ((∀ a ∈ acts, a.Above decimalContext.tiny) →
        ((Book.initial config).run acts).ReportsDivided asOf) := by
  have hsound : ((Book.initial config).run acts).Sound 0 :=
    Book.Sound.run config fun a _ => a.above_zero
  refine ⟨hsound.wellFormed, hsound.reportsUncrossed asOf, ?_⟩
  intro hacts
  exact (Book.Sound.run config hacts).reportsDivided asOf

/-- A synchronized book with ordinary prices. -/
theorem reachable_book_well_formed_sample :
    ((Book.initial Sample.bookConfig).run
        (Sample.bootstrap Sample.bid_pos Sample.ask_pos)).synchronized = true ∧
      ((Book.initial Sample.bookConfig).run
        (Sample.bootstrap Sample.bid_pos Sample.ask_pos)).ReportsDivided 7 := by
  refine ⟨(Sample.bootstrap_book _ _ (by norm_num)).1, ?_⟩
  exact (reachable_book_well_formed Sample.bookConfig _ 7).2.2 (Sample.bootstrap_above _ _
    (le_trans Sample.tiny_le_one (by norm_num)) (le_trans Sample.tiny_le_one (by norm_num)))

/-- With prices below the smallest positive decimal the book synchronizes, and the report
divides zero by zero. -/
theorem report_divides_by_zero :
    ∃ acts, ((Book.initial Sample.bookConfig).run acts).synchronized = true ∧
      (((Book.initial Sample.bookConfig).run acts).snapshot 0).1 =
        .error (.signal .divisionUndefined) := by
  have htiny := decimalContext.tiny_pos
  have hbid : 0 < decimalContext.tiny / 100 := by positivity
  have hask : 0 < decimalContext.tiny / 10 := by positivity
  have hlt : decimalContext.tiny / 100 < decimalContext.tiny / 10 := by linarith
  obtain ⟨hsync, hbids, hasks⟩ := Sample.bootstrap_book hbid hask hlt
  refine ⟨Sample.bootstrap hbid hask, hsync, ?_⟩
  rw [Book.snapshot, if_neg (not_not_intro hsync), hbids, hasks]
  simp only [List.max?_singleton, List.min?_singleton, if_neg (not_le.2 hlt)]
  rw [figures_underflow hbid.le hlt.le (by linarith)]

end CandleCraft.Microstructure
