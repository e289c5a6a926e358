import CandleCraft.Microstructure.BookInvariant

/-!
# The local book follows the exchange

`Exchange` is the book as the exchange has it after every update id, with the depth
events it publishes and the snapshots it serves. Events reach the local book in any
order, any number of times or not at all. `Book.Follows` says that a book with an
installed snapshot stores, on the near side of its coverage boundaries, the exchange's
book at `last_update_id`. The event that bridges from a snapshot is chosen by its first update id,
so it has to list what changed from there on (`Exchange.Whole`).
-/

namespace CandleCraft.Microstructure

open Relational

/-! ## The exchange -/

def BookSide.Within : BookSide → ℚ → ℚ → Prop
  | .bid, boundary, price => boundary ≤ price
  | .ask, boundary, price => price ≤ boundary

def DepthEvent.levels (e : DepthEvent) : BookSide → List DepthLevelUpdate
  | .bid => e.bids
  | .ask => e.asks

def DepthSnapshot.levels (s : DepthSnapshot) : BookSide → List DepthLevelUpdate
  | .bid => s.bids
  | .ask => s.asks

def previousFinal (start : ℕ) (event : ℕ → DepthEvent) : ℕ → ℕ
  | 0 => start
  | i + 1 => (event i).finalUpdateId

structure Exchange where
  /-- The quantity at a price after the update with the given id. -/
  quantity : BookSide → ℕ → ℚ → ℚ
  /-- The update id the stream starts from. -/
  start : ℕ
  event : ℕ → DepthEvent
  chained : ∀ i, (event i).previousFinalUpdateId = previousFinal start event i
  /-- A listed level has its quantity after the event. -/
  absolute : ∀ i side, ∀ l ∈ (event i).levels side,
    l.quantity = quantity side (event i).finalUpdateId l.price
  /-- A level that changed after the previous event is listed. -/
  complete : ∀ i side id price,
    previousFinal start event i ≤ id → id ≤ (event i).finalUpdateId →
    quantity side id price ≠ quantity side (event i).finalUpdateId price →
    ∃ l ∈ (event i).levels side, l.price = price

namespace Exchange

/-- A level that changed after the first update of an event is listed in it. -/
def Whole (ex : Exchange) : Prop :=
  ∀ i side id price, (ex.event i).firstUpdateId ≤ id → id ≤ (ex.event i).finalUpdateId →
    ex.quantity side id price ≠ ex.quantity side (ex.event i).finalUpdateId price →
    ∃ l ∈ (ex.event i).levels side, l.price = price

/-- So it is when the updates of the events do not overlap. -/
theorem whole_of_lt (ex : Exchange)
    (h : ∀ i, (ex.event i).previousFinalUpdateId < (ex.event i).firstUpdateId) : ex.Whole := by
  intro i side id price hfrom
  have hprevious := h i
  rw [ex.chained i] at hprevious
  exact ex.complete i side id price (hprevious.le.trans hfrom)

/-- The snapshot lists the best levels of each side at its update id: with a level, every better
one. -/
structure Genuine (ex : Exchange) (s : DepthSnapshot) : Prop where
  absolute : ∀ side, ∀ l ∈ s.levels side, l.quantity = ex.quantity side s.lastUpdateId l.price
  top : ∀ side, ∀ l ∈ s.levels side, ∀ price, side.Within l.price price →
    ex.quantity side s.lastUpdateId price ≠ 0 → ∃ l' ∈ s.levels side, l'.price = price

def Delivers (ex : Exchange) (symbol : String) : BookAction → Prop
  | .ingest event _ => event.symbol = symbol → ∃ i, ex.event i = event
  | .installSnapshot book _ => ex.Genuine book
  | _ => True

end Exchange

/-! ## Sides -/

namespace Side

/-- What a side stores for a price with the given quantity. -/
def entry (price quantity : ℚ) : Option (ℚ × ℚ) :=
  if quantity = 0 then none else some (price, quantity)

/-- Updates that list a price with one quantity, and list it if that quantity is new, leave
the side with it. -/
theorem fetch_apply {side : Side} {updates : List DepthLevelUpdate} {price p q : ℚ}
    (h : side.fetch price = entry price p)
    (hlisted : ∀ l ∈ updates, l.price = price → l.quantity = q)
    (hchanged : p ≠ q → ∃ l ∈ updates, l.price = price) :
    (side.apply updates).fetch price = entry price q := by
  induction updates generalizing side p with
  | nil =>
    have heq : p = q := by
      by_contra hne
      obtain ⟨l, hl, -⟩ := hchanged hne
      cases hl
    exact heq ▸ h
  | cons l rest ih =>
    have hrest : ∀ l' ∈ rest, l'.price = price → l'.quantity = q :=
      fun l' hl' => hlisted l' (List.mem_cons_of_mem l hl')
    by_cases hprice : l.price = price
    · -- the level is stored with its new quantity, whatever was there
      refine ih (p := q) ?_ hrest fun hne => absurd rfl hne
      have hq := hlisted l List.mem_cons_self hprice
      dsimp only
      split
      · next hzero =>
        rw [Table.fetch_remove, if_pos hprice.symm, entry, if_pos (hq ▸ hzero)]
      · next hzero =>
        rw [Table.fetch_put, if_pos hprice, entry, if_neg (hq ▸ hzero), hprice, hq]
    · refine ih (p := p) ?_ hrest fun hne => ?_
      · dsimp only
        split
        · rw [Table.fetch_remove, if_neg (Ne.symm hprice), h]
        · rw [Table.fetch_put, if_neg hprice, h]
      · obtain ⟨l', hl', hprice'⟩ := hchanged hne
        rcases List.mem_cons.1 hl' with rfl | hmem
        · exact absurd hprice' hprice
        · exact ⟨l', hmem, hprice'⟩

theorem mem_of_mem_ofLevels {levels : List DepthLevelUpdate} {level : ℚ × ℚ}
    (h : level ∈ (ofLevels levels).rows) : ∃ l ∈ levels, l.price = level.1 := by
  by_contra hnone
  have hfetch : (ofLevels levels).fetch level.1 = entry level.1 0 := by
    rw [ofLevels_eq_apply]
    refine fetch_apply (p := 0) rfl (fun l hl hp => ?_) fun hne => absurd rfl hne
    exact absurd ⟨l, List.mem_of_mem_filter hl, hp⟩ hnone
  rw [Table.fetch_of_mem h] at hfetch
  cases hfetch

theorem exists_min {side : Side} (h : side.rows ≠ []) : ∃ price, side.prices.min? = some price := by
  rw [← Option.ne_none_iff_exists', ne_eq, List.min?_eq_none_iff, prices, List.map_eq_nil_iff]
  exact h

theorem exists_max {side : Side} (h : side.rows ≠ []) : ∃ price, side.prices.max? = some price := by
  rw [← Option.ne_none_iff_exists', ne_eq, List.max?_eq_none_iff, prices, List.map_eq_nil_iff]
  exact h

end Side

theorem Exchange.Genuine.fetch_ofLevels {ex : Exchange} {book : DepthSnapshot}
    (h : ex.Genuine book) (s : BookSide) {level : ℚ × ℚ}
    (hlevel : level ∈ (Side.ofLevels (book.levels s)).rows) {price : ℚ}
    (hprice : s.Within level.1 price) :
    (Side.ofLevels (book.levels s)).fetch price =
      Side.entry price (ex.quantity s book.lastUpdateId price) := by
  rw [Side.ofLevels_eq_apply]
  refine Side.fetch_apply (p := 0) rfl ?_ ?_
  · rintro l hl rfl
    exact h.absolute s l (List.mem_of_mem_filter hl)
  · intro hpresent
    obtain ⟨worst, hworst, hp⟩ := Side.mem_of_mem_ofLevels hlevel
    obtain ⟨l, hl, rfl⟩ := h.top s worst hworst price (hp ▸ hprice) (Ne.symm hpresent)
    refine ⟨l, List.mem_filter.2 ⟨hl, decide_eq_true ?_⟩, rfl⟩
    exact lt_of_le_of_ne l.quantity_nonneg (h.absolute s l hl ▸ hpresent)

/-! ## The simulation -/

namespace Book

def side (b : Book) : BookSide → Side
  | .bid => b.bids
  | .ask => b.asks

/-- `_coverage_bid_floor` and `_coverage_ask_ceiling`. -/
def coverage (b : Book) : BookSide → Option ℚ
  | .bid => b.coverageBidFloor
  | .ask => b.coverageAskCeiling

def TracksAt (ex : Exchange) (id : ℕ) (b : Book) : Prop :=
  b.lastUpdateId = some id ∧ ∀ s, ∃ boundary, b.coverage s = some boundary ∧
    ∀ price, s.Within boundary price →
      (b.side s).fetch price = Side.entry price (ex.quantity s id price)

structure Follows (ex : Exchange) (symbol : String) (b : Book) : Prop where
  symbol_eq : b.config.symbol = symbol
  tracks : b.snapshotInstalled = true → ∃ id, b.TracksAt ex id
  published : ∀ item ∈ b.buffer, ∃ i, ex.event i = item.1

variable {ex : Exchange} {symbol : String} {b : Book}

theorem side_applyLevels (event : DepthEvent) (receivedAt : Instant) (s : BookSide) :
    (b.applyLevels event receivedAt).side s = (b.side s).apply (event.levels s) := by
  cases s <;> rfl

theorem coverage_applyLevels (event : DepthEvent) (receivedAt : Instant) (s : BookSide) :
    (b.applyLevels event receivedAt).coverage s = b.coverage s := by
  cases s <;> rfl

theorem TracksAt.applyLevels {id : ℕ} (h : b.TracksAt ex id) (i : ℕ)
    (hlisted : ∀ side price,
      ex.quantity side id price ≠ ex.quantity side (ex.event i).finalUpdateId price →
      ∃ l ∈ (ex.event i).levels side, l.price = price) (receivedAt : Instant) :
    (b.applyLevels (ex.event i) receivedAt).TracksAt ex (ex.event i).finalUpdateId := by
  refine ⟨rfl, fun s => ?_⟩
  obtain ⟨boundary, hboundary, hagree⟩ := h.2 s
  refine ⟨boundary, by rw [coverage_applyLevels, hboundary], fun price hprice => ?_⟩
  rw [side_applyLevels]
  refine Side.fetch_apply (hagree price hprice) ?_ (hlisted s price)
  rintro l hl rfl
  exact ex.absolute i s l hl

theorem Follows.untrusted {b' : Book} (hsymbol : b'.config.symbol = symbol)
    (hinstalled : b'.snapshotInstalled = false)
    (hbuffer : ∀ item ∈ b'.buffer, ∃ i, ex.event i = item.1) : b'.Follows ex symbol where
  symbol_eq := hsymbol
  tracks := fun h => absurd (hinstalled.symm.trans h) (by decide)
  published := hbuffer

theorem Follows.invalidate (h : b.Follows ex symbol) (reason : BookReason) (gap : Bool) :
    (b.invalidate reason gap).Follows ex symbol :=
  .untrusted h.symbol_eq rfl nofun

theorem Follows.applyLiveEvent (h : b.Follows ex symbol) (i : ℕ) (receivedAt : Instant) :
    (b.applyLiveEvent (ex.event i) receivedAt).2.Follows ex symbol := by
  unfold Book.applyLiveEvent
  split
  · exact h.invalidate _ _
  next current hcurrent =>
  split
  · split <;> exact { h with }
  next hnew =>
  split
  · exact h.invalidate _ _
  next hchain =>
  dsimp only
  have happlied : (b.applyLevels (ex.event i) receivedAt).Follows ex symbol := by
    refine ⟨h.symbol_eq, fun hinstalled => ?_, h.published⟩
    obtain ⟨id, hid⟩ := h.tracks hinstalled
    have hcur : id = current := Option.some.inj (hid.1.symm.trans hcurrent)
    subst hcur
    have hprevious := (ex.chained i).symm.trans (not_not.1 hchain)
    exact ⟨_, hid.applyLevels i
      (fun side price => ex.complete i side id price hprevious.le (by omega)) receivedAt⟩
  split
  · exact happlied
  · exact happlied.invalidate _ _

theorem Follows.replay {items : List (DepthEvent × Instant)} (h : b.Follows ex symbol)
    (hitems : ∀ item ∈ items, ∃ i, ex.event i = item.1) :
    (Book.replay items b).2.Follows ex symbol := by
  induction items generalizing b with
  | nil => exact h
  | cons item rest ih =>
    obtain ⟨i, hi⟩ := hitems item List.mem_cons_self
    have happlied := h.applyLiveEvent i item.2
    rw [hi] at happlied
    unfold Book.replay
    split
    · next invalid hresult =>
      rw [hresult] at happlied
      exact happlied
    · next outcome applied hne hresult =>
      rw [hresult] at happlied
      exact ih happlied fun item' h' => hitems item' (List.mem_cons_of_mem item h')

/-- The bridge starts no later than the snapshot and ends no earlier. -/
theorem Follows.reconcileBuffer (hwhole : ex.Whole) (h : b.Follows ex symbol) :
    b.reconcileBuffer.2.Follows ex symbol := by
  unfold Book.reconcileBuffer
  split
  swap
  · exact h
  next lastUpdateId hinstalled hid =>
  have hfilter : ∀ item ∈ b.buffer.filter fun item =>
      decide (lastUpdateId ≤ item.1.finalUpdateId), ∃ i, ex.event i = item.1 :=
    fun item hitem => h.published item (List.mem_of_mem_filter hitem)
  split
  · exact ⟨h.symbol_eq, h.tracks, nofun⟩
  next bridge remaining hbuffer =>
  rw [hbuffer] at hfilter
  split
  · exact h.invalidate _ _
  next hbridge =>
  obtain ⟨hfirst, hfinal⟩ := not_not.1 hbridge
  obtain ⟨i, hi⟩ := hfilter bridge List.mem_cons_self
  obtain ⟨id, htracks⟩ := h.tracks hinstalled
  have hcur : id = lastUpdateId := Option.some.inj (htracks.1.symm.trans hid)
  subst hcur
  dsimp only
  split
  · exact .untrusted h.symbol_eq rfl nofun
  refine Follows.replay ⟨h.symbol_eq, fun _ => ?_, nofun⟩ fun item hitem =>
    hfilter item (List.mem_cons_of_mem bridge hitem)
  rw [← hi] at hfirst hfinal ⊢
  exact ⟨_, htracks.applyLevels i (fun side price => hwhole i side id price hfirst hfinal) bridge.2⟩

theorem Follows.ingest (hwhole : ex.Whole) (h : b.Follows ex symbol) {event : DepthEvent}
    (hevent : event.symbol = symbol → ∃ i, ex.event i = event) (receivedAt : Instant) :
    (b.ingest event receivedAt).2.Follows ex symbol := by
  unfold Book.ingest
  split
  · exact h
  next hsymbol =>
  obtain ⟨i, rfl⟩ := hevent ((not_not.1 hsymbol).trans h.symbol_eq)
  split
  · exact h.applyLiveEvent i receivedAt
  split
  · exact .untrusted h.symbol_eq rfl nofun
  have hbuffered :
      ({ b with buffer := b.buffer ++ [(ex.event i, receivedAt)] } : Book).Follows ex symbol := by
    refine ⟨h.symbol_eq, h.tracks, fun item hitem => ?_⟩
    rcases List.mem_append.1 hitem with hold | hnew
    · exact h.published item hold
    · rw [List.mem_singleton] at hnew
      exact ⟨i, by rw [hnew]⟩
  split
  · exact hbuffered
  · exact hbuffered.reconcileBuffer hwhole

theorem Follows.installSnapshot (hwhole : ex.Whole) (h : b.Follows ex symbol) {book : DepthSnapshot}
    (hbook : ex.Genuine book) (receivedAt : Instant) :
    (b.installSnapshot book receivedAt).2.Follows ex symbol := by
  unfold Book.installSnapshot
  dsimp only
  split
  · exact h.invalidate _ _
  next huncrossed =>
  obtain ⟨hbids, hasks⟩ := (not_not.1 huncrossed).ne_nil
  refine Follows.reconcileBuffer hwhole ⟨h.symbol_eq, fun _ => ⟨book.lastUpdateId, rfl, ?_⟩, h.published⟩
  rintro (_ | _)
  · obtain ⟨floor, hfloor⟩ := Side.exists_min hbids
    obtain ⟨level, hlevel, rfl⟩ := List.mem_map.1 (List.min?_mem hfloor)
    exact ⟨level.1, hfloor, fun price hprice => hbook.fetch_ofLevels .bid hlevel hprice⟩
  · obtain ⟨ceiling, hceiling⟩ := Side.exists_max hasks
    obtain ⟨level, hlevel, rfl⟩ := List.mem_map.1 (List.max?_mem hceiling)
    exact ⟨level.1, hceiling, fun price hprice => hbook.fetch_ofLevels .ask hlevel hprice⟩

theorem Follows.snapshot (h : b.Follows ex symbol) (asOf : Instant) :
    (b.snapshot asOf).2.Follows ex symbol := by
  unfold Book.snapshot
  split
  · exact h
  split
  · split
    · exact h.invalidate _ _
    · split <;> exact h
  · exact h

theorem Follows.step (hwhole : ex.Whole) (h : b.Follows ex symbol) {a : BookAction}
    (ha : ex.Delivers symbol a) : (b.step a).Follows ex symbol := by
  cases a with
  | ingest event receivedAt => exact h.ingest hwhole ha receivedAt
  | installSnapshot book receivedAt => exact h.installSnapshot hwhole ha receivedAt
  | markConnected | markDisconnected => exact .untrusted h.symbol_eq rfl nofun
  | markBootstrapStarted => exact { h with }
  | markSnapshotFailed => exact .untrusted h.symbol_eq rfl h.published
  | snapshot asOf => exact h.snapshot asOf

theorem Follows.run (hwhole : ex.Whole) (config : BookConfig) {acts : List BookAction}
    (hacts : ∀ a ∈ acts, ex.Delivers config.symbol a) :
    ((Book.initial config).run acts).Follows ex config.symbol :=
  Transition.run_invariant_of_forall Book.step (fun _ _ ha hs => hs.step hwhole ha)
    (.untrusted rfl rfl nofun) hacts

end Book

/-- Whatever is lost, repeated or reordered between the exchange and the local book, a
synchronized book is the exchange's book at `last_update_id`: bids from the coverage floor
up and asks up to the coverage ceiling. -/
theorem synchronized_book_follows_exchange (ex : Exchange) (hwhole : ex.Whole)
    (config : BookConfig) (acts : List BookAction) (hacts : ∀ a ∈ acts, ex.Delivers config.symbol a)
    (hsync : ((Book.initial config).run acts).synchronized = true) :
    ∃ id floor ceiling, ((Book.initial config).run acts).lastUpdateId = some id ∧
      ((Book.initial config).run acts).coverageBidFloor = some floor ∧
      ((Book.initial config).run acts).coverageAskCeiling = some ceiling ∧
      (∀ price, floor ≤ price → ((Book.initial config).run acts).bids.fetch price =
        Side.entry price (ex.quantity .bid id price)) ∧
      ∀ price, price ≤ ceiling → ((Book.initial config).run acts).asks.fetch price =
        Side.entry price (ex.quantity .ask id price) := by
  have hsound : ((Book.initial config).run acts).Sound 0 :=
    Book.Sound.run config fun a _ => a.above_zero
  obtain ⟨id, hid, hsides⟩ := (Book.Follows.run hwhole config hacts).tracks (hsound.installed hsync)
  obtain ⟨floor, hfloor, hbids⟩ := hsides .bid
  obtain ⟨ceiling, hceiling, hasks⟩ := hsides .ask
  exact ⟨id, floor, ceiling, hid, hfloor, hceiling, hbids, hasks⟩

namespace Sample

def bookConfig : BookConfig :=
  ⟨"BTCUSDT", 30, 16, [10, 25], by decide, by decide, by decide⟩

theorem bid_pos : (0 : ℚ) < 100 := by norm_num

theorem ask_pos : (0 : ℚ) < 101 := by norm_num

theorem unit_nonneg : (0 : ℚ) ≤ 1 := by norm_num

theorem double_nonneg : (0 : ℚ) ≤ 2 := by norm_num

theorem treble_nonneg : (0 : ℚ) ≤ 3 := by norm_num

theorem first_ids : 1 ≤ 3 := by decide

/-- The stream of an exchange on which one bid changes at the updates `3` and `7`. The first update
id of the second event is a parameter. -/
def depthEvent (first : ℕ) (hfirst : first ≤ 6) : ℕ → DepthEvent
  | 0 => ⟨"BTCUSDT", 0, 0, 1, 3, 0, [⟨100, 2, bid_pos, double_nonneg⟩], [], first_ids⟩
  | 1 => ⟨"BTCUSDT", 0, 0, first, 6, 3, [], [], hfirst⟩
  | 2 => ⟨"BTCUSDT", 0, 0, 7, 7, 6, [⟨100, 3, bid_pos, treble_nonneg⟩], [], le_rfl⟩
  | i + 3 => ⟨"BTCUSDT", 0, 0, i + 8, i + 8, i + 7, [], [], le_rfl⟩

def bidQuantity (id : ℕ) : ℚ := if id < 3 then 1 else if id < 7 then 2 else 3

def exchangeQuantity : BookSide → ℕ → ℚ → ℚ
  | .bid, id, price => if price = 100 then bidQuantity id else 0
  | .ask, _, price => if price = 101 then 1 else 0

theorem exchangeQuantity_ne {s : BookSide} {m n : ℕ} {price : ℚ}
    (h : exchangeQuantity s m price ≠ exchangeQuantity s n price) :
    s = .bid ∧ price = 100 ∧ bidQuantity m ≠ bidQuantity n := by
  cases s with
  | bid =>
    unfold exchangeQuantity at h
    dsimp only at h
    split_ifs at h with hprice
    · exact ⟨rfl, hprice, h⟩
    · exact absurd rfl h
  | ask => exact absurd rfl h

def exchange (first : ℕ) (hfirst : first ≤ 6) : Exchange where
  quantity := exchangeQuantity
  start := 0
  event := depthEvent first hfirst
  chained := by
    rintro (_ | _ | _ | _ | i) <;> rfl
  absolute := by
    rintro (_ | _ | _ | i) (_ | _) l hl
    case zero.bid | succ.succ.zero.bid =>
      rw [List.mem_singleton.1 hl]
      simp [exchangeQuantity, depthEvent, bidQuantity]
    all_goals cases hl
  complete := by
    intro i s id price hfrom hto hchanged
    obtain ⟨rfl, rfl, hbid⟩ := exchangeQuantity_ne hchanged
    match i with
    | 0 | 2 => exact ⟨_, List.mem_singleton_self _, rfl⟩
    | 1 =>
      have hfrom' : 3 ≤ id := hfrom
      have hto' : id ≤ 6 := hto
      refine absurd ?_ hbid
      simp [bidQuantity, depthEvent, show ¬ id < 3 by omega, show id < 7 by omega]
    | i + 3 =>
      have hfrom' : 7 ≤ id := by
        rcases i with _ | i <;> simp [previousFinal, depthEvent] at hfrom <;> omega
      refine absurd ?_ hbid
      simp [bidQuantity, depthEvent, show ¬ id < 3 by omega, show ¬ id < 7 by omega,
        show ¬ i + 8 < 3 by omega, show ¬ i + 8 < 7 by omega]

theorem exchange_whole {first : ℕ} (hfirst : first ≤ 6) (h : 3 < first) :
    (exchange first hfirst).Whole := by
  refine (exchange first hfirst).whole_of_lt ?_
  rintro (_ | _ | _ | i)
  · exact Nat.one_pos
  · exact h
  · exact Nat.lt_succ_self 6
  · exact Nat.lt_succ_self (i + 7)

theorem bidQuantity_nonneg (id : ℕ) : 0 ≤ bidQuantity id := by
  unfold bidQuantity
  split_ifs <;> norm_num

def genuineSnapshot (id : ℕ) : DepthSnapshot where
  lastUpdateId := id
  eventTime := 0
  transactionTime := 0
  bids := [⟨100, bidQuantity id, bid_pos, bidQuantity_nonneg id⟩]
  asks := [⟨101, 1, ask_pos, unit_nonneg⟩]

theorem genuineSnapshot_genuine {first : ℕ} (hfirst : first ≤ 6) (id : ℕ) :
    (exchange first hfirst).Genuine (genuineSnapshot id) where
  absolute := by
    rintro (_ | _) l hl
    all_goals
      rw [List.mem_singleton.1 hl]
      simp [exchange, exchangeQuantity, genuineSnapshot]
  top := by
    rintro (_ | _) l hl price - hpresent
    all_goals
      refine ⟨_, List.mem_singleton_self _, ?_⟩
      by_contra hne
      exact hpresent (by simp [exchange, exchangeQuantity, Ne.symm hne])

theorem bridge_ids : 4 ≤ 6 := by decide

/-- The bridge arrives twice and before the snapshot. -/
def deliveries : List BookAction :=
  [.markConnected false, .ingest (depthEvent 4 bridge_ids 1) 0,
    .ingest (depthEvent 4 bridge_ids 1) 1, .installSnapshot (genuineSnapshot 5) 2,
    .ingest (depthEvent 4 bridge_ids 2) 3]

theorem overlap_first : 2 ≤ 6 := by decide

/-- The first event is lost, and the second, which lists what changed after it, starts before. -/
def overlapping : List BookAction :=
  [.markConnected false, .ingest (depthEvent 2 overlap_first 1) 0,
    .installSnapshot (genuineSnapshot 2) 1]

end Sample

/-- A book that is bridged from a duplicated event. -/
theorem synchronized_book_follows_exchange_sample :
    ((Book.initial Sample.bookConfig).run Sample.deliveries).synchronized = true ∧
      ∃ id floor ceiling,
        ((Book.initial Sample.bookConfig).run Sample.deliveries).lastUpdateId = some id ∧
        ((Book.initial Sample.bookConfig).run Sample.deliveries).coverageBidFloor = some floor ∧
        ((Book.initial Sample.bookConfig).run Sample.deliveries).coverageAskCeiling =
          some ceiling ∧
        (∀ price, floor ≤ price →
          ((Book.initial Sample.bookConfig).run Sample.deliveries).bids.fetch price =
            Side.entry price (Sample.exchangeQuantity .bid id price)) ∧
        ∀ price, price ≤ ceiling →
          ((Book.initial Sample.bookConfig).run Sample.deliveries).asks.fetch price =
            Side.entry price (Sample.exchangeQuantity .ask id price) := by
  have hsync : ((Book.initial Sample.bookConfig).run Sample.deliveries).synchronized = true := by
    decide +kernel
  refine ⟨hsync, synchronized_book_follows_exchange (Sample.exchange 4 Sample.bridge_ids)
    (Sample.exchange_whole _ (by decide)) Sample.bookConfig _ ?_ hsync⟩
  simp only [Sample.deliveries, List.forall_mem_cons]
  exact ⟨trivial, fun _ => ⟨1, rfl⟩, fun _ => ⟨1, rfl⟩, Sample.genuineSnapshot_genuine _ 5,
    fun _ => ⟨2, rfl⟩, nofun⟩

/-- An event that lists what changed after update `3` bridges from the snapshot at update `2`: the
book is synchronized without the change at update `3`. -/
theorem overlapping_bridge_misses_level :
    (∀ a ∈ Sample.overlapping,
      (Sample.exchange 2 Sample.overlap_first).Delivers Sample.bookConfig.symbol a) ∧
    ((Book.initial Sample.bookConfig).run Sample.overlapping).synchronized = true ∧
    ((Book.initial Sample.bookConfig).run Sample.overlapping).lastUpdateId = some 6 ∧
    ((Book.initial Sample.bookConfig).run Sample.overlapping).coverageBidFloor = some 100 ∧
    ((Book.initial Sample.bookConfig).run Sample.overlapping).bids.fetch 100 = some (100, 1) ∧
    (Sample.exchange 2 Sample.overlap_first).quantity .bid 6 100 = 2 := by
  refine ⟨?_, by decide +kernel, by decide +kernel, by decide +kernel, by decide +kernel,
    by decide +kernel⟩
  simp only [Sample.overlapping, List.forall_mem_cons]
  exact ⟨trivial, fun _ => ⟨1, rfl⟩, Sample.genuineSnapshot_genuine _ 2, nofun⟩

end CandleCraft.Microstructure
