import CandleCraft.Microstructure.Liquidity

/-!
# The invariant of the local book

`Book.Sound` is what every entry point keeps, whatever events and snapshots arrive. A
synchronized book is then never empty on a side and never crossed.
-/

namespace CandleCraft.Microstructure

open Relational PyDecimal

/-! ## Sides -/

/-- Every stored level is positive, and no price is below `lower`. -/
def Side.Above (lower : ℚ) (side : Side) : Prop :=
  ∀ level ∈ side.rows, lower ≤ level.1 ∧ 0 < level.1 ∧ 0 < level.2

theorem Side.ofLevels_eq_apply (levels : List DepthLevelUpdate) :
    ofLevels levels = apply Table.empty (levels.filter fun l => decide (0 < l.quantity)) := by
  unfold ofLevels apply
  refine List.foldl_ext _ _ _ fun s l hl => ?_
  have hpos := of_decide_eq_true (List.mem_filter.1 hl).2
  rw [if_neg hpos.ne']

def PricesAbove (lower : ℚ) (levels : List DepthLevelUpdate) : Prop :=
  ∀ l ∈ levels, lower ≤ l.price

namespace Side.Above

variable {lower : ℚ} {side : Side}

theorem empty : Side.Above lower Table.empty := nofun

theorem apply (h : side.Above lower) {updates : List DepthLevelUpdate}
    (hu : PricesAbove lower updates) : (side.apply updates).Above lower := by
  induction updates generalizing side with
  | nil => exact h
  | cons l rest ih =>
    refine ih ?_ fun l' hl' => hu l' (List.mem_cons_of_mem l hl')
    dsimp only
    split
    · exact fun level hlevel => h level (Table.mem_of_mem_remove hlevel)
    · next hq =>
      intro level hlevel
      rcases Table.mem_put hlevel with rfl | hold
      · exact ⟨hu l List.mem_cons_self, l.price_pos, lt_of_le_of_ne l.quantity_nonneg (Ne.symm hq)⟩
      · exact h level hold

theorem ofLevels {levels : List DepthLevelUpdate} (hl : PricesAbove lower levels) :
    (Side.ofLevels levels).Above lower := by
  rw [ofLevels_eq_apply]
  exact empty.apply fun l hmem => hl l (List.mem_of_mem_filter hmem)

end Side.Above

theorem Uncrossed.ne_nil {bids asks : Side} (h : Uncrossed bids asks) :
    bids.rows ≠ [] ∧ asks.rows ≠ [] := by
  obtain ⟨b, hb, a, ha, -⟩ := h
  constructor
  · rintro hnil
    rw [Side.prices, hnil] at hb
    cases hb
  · rintro hnil
    rw [Side.prices, hnil] at ha
    cases ha

/-! ## The invariant -/

def DepthEvent.Above (lower : ℚ) (e : DepthEvent) : Prop :=
  PricesAbove lower e.bids ∧ PricesAbove lower e.asks

/-- No price the action delivers is below `lower`. -/
def BookAction.Above (lower : ℚ) : BookAction → Prop
  | .ingest event _ => event.Above lower
  | .installSnapshot book _ => PricesAbove lower book.bids ∧ PricesAbove lower book.asks
  | _ => True

theorem BookAction.above_zero (a : BookAction) : a.Above 0 := by
  cases a with
  | ingest event receivedAt => exact ⟨fun l _ => l.price_pos.le, fun l _ => l.price_pos.le⟩
  | installSnapshot book receivedAt =>
    exact ⟨fun l _ => l.price_pos.le, fun l _ => l.price_pos.le⟩
  | _ => trivial

namespace Book

/-- What holds of a book in every reachable state. -/
structure Sound (lower : ℚ) (b : Book) : Prop where
  uncrossed : b.synchronized = true → Uncrossed b.bids b.asks
  updateId : b.synchronized = true → b.lastUpdateId ≠ none
  installed : b.synchronized = true → b.snapshotInstalled = true
  drained : b.synchronized = true → b.buffer = []
  settled : b.synchronized = true → b.needsResync = false
  untrusted : b.snapshotInstalled = false → b.bids = Table.empty ∧ b.asks = Table.empty
  bids : b.bids.Above lower
  asks : b.asks.Above lower
  buffered : ∀ item ∈ b.buffer, DepthEvent.Above lower item.1
  bounded : b.buffer.length ≤ b.config.eventBufferSize

variable {lower : ℚ} {b : Book}

theorem Sound.cleared {b' : Book} (hbids : b'.bids = Table.empty) (hasks : b'.asks = Table.empty)
    (hsync : b'.synchronized = false) (hbuffer : ∀ item ∈ b'.buffer, DepthEvent.Above lower item.1)
    (hsize : b'.buffer.length ≤ b'.config.eventBufferSize) : b'.Sound lower where
  uncrossed := fun h => by simp [hsync] at h
  updateId := fun h => by simp [hsync] at h
  installed := fun h => by simp [hsync] at h
  drained := fun h => by simp [hsync] at h
  settled := fun h => by simp [hsync] at h
  untrusted := fun _ => ⟨hbids, hasks⟩
  bids := hbids ▸ Side.Above.empty
  asks := hasks ▸ Side.Above.empty
  buffered := hbuffer
  bounded := hsize

theorem Sound.initial (config : BookConfig) : (Book.initial config).Sound lower :=
  .cleared rfl rfl rfl nofun (Nat.zero_le _)

theorem Sound.invalidate (reason : BookReason) (gap : Bool) (b : Book) :
    (b.invalidate reason gap).Sound lower :=
  .cleared rfl rfl rfl nofun (Nat.zero_le _)

variable {event : DepthEvent}

theorem Sound.applied (h : b.Sound lower) (hevent : event.Above lower) (receivedAt : Instant)
    (huncrossed : Uncrossed (b.applyLevels event receivedAt).bids (b.applyLevels event receivedAt).asks)
    (hsync : b.synchronized = true) : (b.applyLevels event receivedAt).Sound lower where
  uncrossed := fun _ => huncrossed
  updateId := fun _ => Option.some_ne_none _
  installed := fun _ => h.installed hsync
  drained := fun _ => h.drained hsync
  settled := fun _ => h.settled hsync
  untrusted := fun hf => absurd ((h.installed hsync).symm.trans hf) (by decide)
  bids := h.bids.apply hevent.1
  asks := h.asks.apply hevent.2
  buffered := h.buffered
  bounded := h.bounded

theorem Sound.applyLiveEvent (h : b.Sound lower) (hsync : b.synchronized = true)
    (hevent : event.Above lower) (receivedAt : Instant) :
    (b.applyLiveEvent event receivedAt).2.Sound lower ∧
      ((b.applyLiveEvent event receivedAt).1 ≠ .needsResync →
        (b.applyLiveEvent event receivedAt).2.synchronized = true) := by
  unfold Book.applyLiveEvent
  split
  · exact ⟨.invalidate _ _ _, fun hne => absurd rfl hne⟩
  split
  · refine ⟨?_, fun _ => ?_⟩
    · split <;> exact { h with }
    · split <;> exact hsync
  split
  · exact ⟨.invalidate _ _ _, fun hne => absurd rfl hne⟩
  dsimp only
  split
  · next huncrossed => exact ⟨h.applied hevent receivedAt huncrossed hsync, fun _ => hsync⟩
  · exact ⟨.invalidate _ _ _, fun hne => absurd rfl hne⟩

theorem Sound.replay {items : List (DepthEvent × Instant)} (h : b.Sound lower)
    (hsync : b.synchronized = true) (hitems : ∀ item ∈ items, DepthEvent.Above lower item.1) :
    (Book.replay items b).2.Sound lower := by
  induction items generalizing b with
  | nil => exact h
  | cons item rest ih =>
    obtain ⟨hsound, hlive⟩ :=
      h.applyLiveEvent hsync (hitems item List.mem_cons_self) item.2
    unfold Book.replay
    split
    · next invalid hresult =>
      rw [hresult] at hsound
      exact hsound
    · next outcome applied hne hresult =>
      rw [hresult] at hsound hlive
      exact ih hsound (hlive hne) fun i hi =>
        hitems i (List.mem_cons_of_mem item hi)

theorem Sound.reconcileBuffer (h : b.Sound lower) : b.reconcileBuffer.2.Sound lower := by
  unfold Book.reconcileBuffer
  split
  swap
  · exact h
  next lastUpdateId hinstalled hid =>
  have hfilter : ∀ item ∈ b.buffer.filter fun item =>
      decide (lastUpdateId ≤ item.1.finalUpdateId), DepthEvent.Above lower item.1 :=
    fun item hitem => h.buffered item (List.mem_of_mem_filter hitem)
  split
  · exact { h with drained := fun _ => rfl, buffered := nofun, bounded := Nat.zero_le _ }
  next bridge remaining hbuffer =>
  rw [hbuffer] at hfilter
  split
  · exact .invalidate _ _ _
  dsimp only
  split
  · exact .invalidate _ _ _
  next huncrossed =>
  have hbridge := hfilter bridge List.mem_cons_self
  refine Sound.replay ?_ rfl fun item hitem => hfilter item (List.mem_cons_of_mem bridge hitem)
  exact ⟨fun _ => not_not.1 huncrossed, fun _ => Option.some_ne_none _, fun _ => hinstalled,
    fun _ => rfl, fun _ => rfl, fun hf => absurd (hinstalled.symm.trans hf) (by decide),
    h.bids.apply hbridge.1, h.asks.apply hbridge.2, nofun, Nat.zero_le _⟩

theorem Sound.ingest (h : b.Sound lower) (hevent : event.Above lower)
    (receivedAt : Instant) : (b.ingest event receivedAt).2.Sound lower := by
  unfold Book.ingest
  split
  · exact h
  split
  · next hsync => exact (h.applyLiveEvent hsync hevent receivedAt).1
  next hsync =>
  rw [Bool.not_eq_true] at hsync
  split
  · exact .invalidate _ _ _
  next hroom =>
  have hbuffered : ({ b with buffer := b.buffer ++ [(event, receivedAt)] } : Book).Sound lower := by
    refine { h with drained := fun hs => ?_, buffered := fun item hitem => ?_, bounded := ?_ }
    · exact absurd (hsync.symm.trans hs) (by decide)
    · rcases List.mem_append.1 hitem with hold | hnew
      · exact h.buffered item hold
      · rw [List.mem_singleton] at hnew
        exact hnew ▸ hevent
    · show (b.buffer ++ [(event, receivedAt)]).length ≤ b.config.eventBufferSize
      rw [List.length_append, List.length_singleton]
      omega
  split
  · exact hbuffered
  · exact hbuffered.reconcileBuffer

theorem Sound.installSnapshot (h : b.Sound lower) {book : DepthSnapshot}
    (hbids : PricesAbove lower book.bids) (hasks : PricesAbove lower book.asks)
    (receivedAt : Instant) : (b.installSnapshot book receivedAt).2.Sound lower := by
  unfold Book.installSnapshot
  dsimp only
  split
  · exact .invalidate _ _ _
  · exact Sound.reconcileBuffer ⟨nofun, nofun, nofun, nofun, nofun, nofun, .ofLevels hbids,
      .ofLevels hasks, h.buffered, h.bounded⟩

theorem Sound.snapshot (h : b.Sound lower) (asOf : Instant) :
    (b.snapshot asOf).2.Sound lower := by
  unfold Book.snapshot
  split
  · exact h
  split
  · split
    · exact .invalidate _ _ _
    · split <;> exact h
  · exact h

theorem Sound.step (h : b.Sound lower) {a : BookAction} (ha : a.Above lower) :
    (b.step a).Sound lower := by
  cases a with
  | ingest event receivedAt => exact h.ingest ha receivedAt
  | installSnapshot book receivedAt => exact h.installSnapshot ha.1 ha.2 receivedAt
  | markConnected | markDisconnected => exact .cleared rfl rfl rfl nofun (Nat.zero_le _)
  | markBootstrapStarted => exact { h with }
  | markSnapshotFailed => exact .cleared rfl rfl rfl h.buffered h.bounded
  | snapshot asOf => exact h.snapshot asOf

theorem Sound.run (config : BookConfig) {acts : List BookAction}
    (hacts : ∀ a ∈ acts, a.Above lower) : ((Book.initial config).run acts).Sound lower := by
  exact Transition.run_invariant_of_forall Book.step (I := Sound lower)
    (fun _ _ ha hs => hs.step ha) (.initial config) hacts

end Book

end CandleCraft.Microstructure
