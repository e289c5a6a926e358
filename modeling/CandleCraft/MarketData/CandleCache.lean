import CandleCraft.Candles.Integrity
import CandleCraft.Kernel.Table
import CandleCraft.Kernel.Transition
import Mathlib.Algebra.Order.Floor.Ring
import Mathlib.Tactic.Linarith

/-!
# The cache of closed candles

`MarketDataCache` keeps the candle lists of the exchange until the next close of their interval. The
expiry of a list is worked out from the clock after the fetch, while the list shows the market at
some instant during the fetch. Requests and completed fetches come in any order.
-/

namespace CandleCraft.MarketData

open Candles PyText Relational

section Cache

variable {β : Type*}

/-- A candle of a response: its timestamp and its prices and volumes. -/
structure Candle (β : Type*) where
  timestamp : Stamp
  values : β

/-- The parts of the cache key of `get_klines`. -/
structure KlinesKey where
  exchange : String
  symbol : String
  interval : String
  limit : ℤ
  deriving DecidableEq

def klinesKey (exchange symbol interval : String) (limit : ℤ) : KlinesKey where
  exchange := exchange
  symbol := upper symbol
  interval := strip interval
  limit := limit

/-- An entry of the cache. Times are seconds of the clock. -/
structure CacheEntry (β : Type*) where
  key : KlinesKey
  createdAt : ℚ
  expiresAt : ℚ
  value : List (Candle β)

/-- `MarketDataCache`, as far as candles are concerned. -/
structure MarketDataCache (β : Type*) where
  enabled : Bool
  ttlSeconds : Option ℤ
  maxEntries : ℕ
  entries : Table (CacheEntry β) fun e => e.key
  hits : ℕ := 0
  misses : ℕ := 0
  expired : ℕ := 0
  writes : ℕ := 0

def candlePeriodSeconds (interval : String) : Option ℚ :=
  if interval = "15m" then some 900
  else if interval = "4h" then some 14400
  else if interval = "12h" then some 43200
  else if interval = "1d" then some 86400
  else none

def periodOf (interval : String) : Option ℚ := candlePeriodSeconds (lower (strip interval))

def closedHigherTimeframeTtlSeconds (interval : String) (now : ℚ) : Option ℚ :=
  (periodOf interval).map fun period => period - (now - ⌊now / period⌋ * period)

/-- Whether a list has a candle with the timestamp; a timestamp that cannot be read ends the
search. -/
def hasCandleAt (openAt : ℚ) : List (Candle β) → Bool
  | [] => false
  | c :: rest =>
    match normalizeUtcTimestamp c.timestamp "timestamp" with
    | .error _ => false
    | .ok t => decide ((t : ℚ) / 1000000 = openAt) || hasCandleAt openAt rest

namespace MarketDataCache

variable (cache : MarketDataCache β)

def ttlFor : ℚ :=
  match cache.ttlSeconds with
  | some ttl => max ttl 0
  | none => 60

/-- `_closed_candle_ttl`. The list is kept to the end of the running period if the period before it
is in the list, and for a second otherwise. -/
def closedCandleTtl (interval : String) (value : List (Candle β)) (now : ℚ) : ℚ :=
  match periodOf interval, closedHigherTimeframeTtlSeconds interval now with
  | some period, some remaining =>
    let expectedOpen := ⌊now / period⌋ * period - period
    let cap := (cache.ttlSeconds.map fun ttl => (ttl : ℚ)).getD remaining
    if hasCandleAt expectedOpen value then max 0 (min remaining cap) else min 1 cache.ttlFor
  | _, _ => cache.ttlFor

def serves (key : KlinesKey) (now : ℚ) : Option (CacheEntry β) :=
  if cache.enabled then (cache.entries.fetch key).filter fun e => decide (now < e.expiresAt)
  else none

/-- A request: a hit, or a miss that drops an expired entry. -/
def request (key : KlinesKey) (now : ℚ) : MarketDataCache β :=
  if ¬ cache.enabled then cache
  else
    match cache.entries.fetch key with
    | none => { cache with misses := cache.misses + 1 }
    | some e =>
      if now < e.expiresAt then { cache with hits := cache.hits + 1 }
      else
        { cache with
          entries := cache.entries.remove key
          expired := cache.expired + 1
          misses := cache.misses + 1 }

end MarketDataCache

/-- A fetch: the request that started it, the instant the exchange answered for, and the time the
answer was there. -/
structure Fetch (β : Type*) where
  key : KlinesKey
  startedAt : ℚ
  snapshotAt : ℚ
  completedAt : ℚ
  value : List (Candle β)

namespace MarketDataCache

variable (cache : MarketDataCache β) (fetch : Fetch β)

def entryOf : CacheEntry β where
  key := fetch.key
  createdAt := fetch.startedAt
  expiresAt := fetch.completedAt +
    cache.closedCandleTtl fetch.key.interval fetch.value fetch.completedAt
  value := fetch.value

/-- The end of a fetch: the entry is written, and the oldest entries make room. -/
def complete : MarketDataCache β :=
  if ¬ cache.enabled then cache
  else
    { cache with
      entries := (cache.entries.put (cache.entryOf fetch)).keepLast cache.maxEntries
      writes := cache.writes + 1 }

end MarketDataCache

inductive CacheAction (β : Type*) where
  | request (key : KlinesKey) (now : ℚ)
  | complete (fetch : Fetch β)

def MarketDataCache.step (cache : MarketDataCache β) : CacheAction β → MarketDataCache β
  | .request key now => cache.request key now
  | .complete fetch => cache.complete fetch

end Cache

section Market

variable {β : Type*}

/-- What an exchange shows of the periods of one interval: the final values of a period, and the
values it shows of the running period at an instant. -/
structure Market (β : Type*) where
  final : ℤ → β
  provisional : ℤ → ℚ → β

def periodStamp (period : ℚ) (k : ℤ) (stamp : Stamp) : Prop :=
  ∃ t : Instant, stamp = .instant t ∧ (t : ℚ) / 1000000 = k * period

/-- A response as of an instant: the candles are of periods that had begun, with the final values
of those that had ended. Any of them may be missing. -/
def Market.Shows (market : Market β) (period snapshotAt : ℚ) (value : List (Candle β)) : Prop :=
  ∀ c ∈ value, ∃ k : ℤ, periodStamp period k c.timestamp ∧ k * period ≤ snapshotAt ∧
    c.values = if (k + 1) * period ≤ snapshotAt then market.final k
      else market.provisional k snapshotAt

/-- A fetch whose response shows the market at an instant during the fetch. -/
def Fetch.Observes (market : KlinesKey → Market β) (fetch : Fetch β) : Prop :=
  fetch.startedAt ≤ fetch.snapshotAt ∧ fetch.snapshotAt ≤ fetch.completedAt ∧
  ∀ period, periodOf fetch.key.interval = some period →
    (market fetch.key).Shows period fetch.snapshotAt fetch.value

/-- Exactly one boundary of the interval lies between the snapshot and the completion. -/
def Fetch.Straddles (period : ℚ) (fetch : Fetch β) : Prop :=
  ⌊fetch.completedAt / period⌋ = ⌊fetch.snapshotAt / period⌋ + 1

/-- A straddling fetch that shows the period running at its snapshot, with values that are not
final yet, and completes more than a second before the next boundary into a cache that keeps
candles for more than a second. -/
def MarketDataCache.Pins (settings : MarketDataCache β) (market : Market β) (period : ℚ)
    (fetch : Fetch β) : Prop :=
  fetch.Straddles period ∧
  fetch.completedAt + 1 < (⌊fetch.completedAt / period⌋ + 1) * period ∧
  settings.enabled = true ∧ (∀ ttl ∈ settings.ttlSeconds, 1 < ttl) ∧
  ∃ c ∈ fetch.value, periodStamp period ⌊fetch.snapshotAt / period⌋ c.timestamp ∧
    c.values ≠ market.final ⌊fetch.snapshotAt / period⌋

/-- Every candle whose period had ended at a time has its final values. -/
def Market.FinalBy (market : Market β) (period completedAt : ℚ) (value : List (Candle β)) : Prop :=
  ∀ c ∈ value, ∀ k : ℤ, periodStamp period k c.timestamp → (k + 1) * period ≤ completedAt →
    c.values = market.final k

theorem periodOf_pos {interval : String} {period : ℚ} (h : periodOf interval = some period) :
    0 < period := by
  unfold periodOf candlePeriodSeconds at h
  split_ifs at h
  all_goals
    rw [← Option.some.inj h]
    norm_num

theorem periodStamp_inj {period : ℚ} (hpos : 0 < period) {k k' : ℤ} {stamp : Stamp}
    (h : periodStamp period k stamp) (h' : periodStamp period k' stamp) : k = k' := by
  obtain ⟨t, rfl, ht⟩ := h
  obtain ⟨t', heq, ht'⟩ := h'
  obtain rfl : t = t' := Stamp.instant.inj heq
  have hmul : (k : ℚ) * period = k' * period := ht.symm.trans ht'
  exact_mod_cast mul_right_cancel₀ hpos.ne' hmul

theorem exists_of_hasCandleAt {openAt : ℚ} {value : List (Candle β)}
    (h : hasCandleAt openAt value = true) :
    ∃ c ∈ value, ∃ t : Instant, c.timestamp = .instant t ∧ (t : ℚ) / 1000000 = openAt := by
  induction value with
  | nil => cases h
  | cons c rest ih =>
    rw [hasCandleAt] at h
    split at h
    · cases h
    next t ht =>
      rw [Bool.or_eq_true, decide_eq_true_eq] at h
      rcases h with heq | hrest
      · refine ⟨c, List.mem_cons_self, t, ?_, heq⟩
        unfold normalizeUtcTimestamp at ht
        split at ht
        all_goals cases ht
        next hstamp => exact hstamp
      · obtain ⟨d, hd, hopen⟩ := ih hrest
        exact ⟨d, List.mem_cons_of_mem c hd, hopen⟩

theorem hasCandleAt_of_mem {openAt : ℚ} {value : List (Candle β)}
    (hstamps : ∀ c ∈ value, ∃ t : Instant, c.timestamp = .instant t) {c : Candle β} (hc : c ∈ value)
    {t : Instant} (hstamp : c.timestamp = .instant t) (ht : (t : ℚ) / 1000000 = openAt) :
    hasCandleAt openAt value = true := by
  induction value with
  | nil => cases hc
  | cons d rest ih =>
    obtain ⟨t', hd⟩ := hstamps d List.mem_cons_self
    rw [hasCandleAt, hd]
    dsimp only [normalizeUtcTimestamp]
    rw [Bool.or_eq_true, decide_eq_true_eq]
    rcases List.mem_cons.1 hc with rfl | hc
    · obtain rfl : t = t' := Stamp.instant.inj (hstamp.symm.trans hd)
      exact .inl ht
    · exact .inr (ih (fun e he => hstamps e (List.mem_cons_of_mem _ he)) hc)

end Market

section Expiry

variable {β : Type*} {cache : MarketDataCache β} {fetch : Fetch β} {market : KlinesKey → Market β}
  {period : ℚ}

/-- When a list is kept for more than a second. -/
theorem one_lt_closedCandleTtl_iff (hperiod : periodOf fetch.key.interval = some period) :
    1 < cache.closedCandleTtl fetch.key.interval fetch.value fetch.completedAt ↔
      hasCandleAt (⌊fetch.completedAt / period⌋ * period - period) fetch.value = true ∧
      fetch.completedAt + 1 < (⌊fetch.completedAt / period⌋ + 1) * period ∧
      ∀ ttl ∈ cache.ttlSeconds, 1 < ttl := by
  unfold MarketDataCache.closedCandleTtl closedHigherTimeframeTtlSeconds
  rw [hperiod]
  dsimp only [Option.map_some]
  by_cases hcandle :
      hasCandleAt (⌊fetch.completedAt / period⌋ * period - period) fetch.value = true
  · have hremaining : 1 < period - (fetch.completedAt - ⌊fetch.completedAt / period⌋ * period) ↔
        fetch.completedAt + 1 < (⌊fetch.completedAt / period⌋ + 1) * period := by
      constructor <;> intro h <;> linarith
    rw [if_pos hcandle, lt_max_iff, or_iff_right (not_lt.2 zero_le_one), lt_min_iff, hremaining]
    simp only [hcandle, true_and]
    cases cache.ttlSeconds with
    | none => simpa using hremaining.2
    | some ttl =>
      have hcast : (1 : ℚ) < ttl ↔ 1 < ttl := by exact_mod_cast Iff.rfl
      simp [hcast]
  · rw [if_neg hcandle]
    exact iff_of_false (not_lt.2 (min_le_left 1 _)) fun h => hcandle h.1

/-- A list that is kept for more than a second and whose fetch does not straddle a boundary was
answered in the period in which the fetch completed. -/
theorem Fetch.Observes.same_period (h : fetch.Observes market)
    (hperiod : periodOf fetch.key.interval = some period) (hstraddles : ¬ fetch.Straddles period)
    (hcandle : hasCandleAt (⌊fetch.completedAt / period⌋ * period - period) fetch.value = true) :
    ⌊fetch.snapshotAt / period⌋ = ⌊fetch.completedAt / period⌋ := by
  have hpos := periodOf_pos hperiod
  obtain ⟨-, hle, hshows⟩ := h
  obtain ⟨c, hc, t, hstamp, ht⟩ := exists_of_hasCandleAt hcandle
  obtain ⟨k, ⟨t', hstamp', ht'⟩, hbegun, -⟩ := hshows period hperiod c hc
  obtain rfl : t = t' := Stamp.instant.inj (hstamp.symm.trans hstamp')
  -- The period before the one of the completion had begun at the snapshot.
  have hk : (k : ℚ) * period = (⌊fetch.completedAt / period⌋ - 1) * period := by
    rw [← ht', ht]
    ring
  have hkeq : k = ⌊fetch.completedAt / period⌋ - 1 := by
    have := mul_right_cancel₀ hpos.ne' hk
    exact_mod_cast this
  have hlow : k ≤ ⌊fetch.snapshotAt / period⌋ := by
    rw [Int.le_floor, le_div_iff₀ hpos]
    exact hbegun
  have hhigh : ⌊fetch.snapshotAt / period⌋ ≤ ⌊fetch.completedAt / period⌋ :=
    Int.floor_le_floor (div_le_div_of_nonneg_right hle hpos.le)
  have hne : ⌊fetch.completedAt / period⌋ ≠ ⌊fetch.snapshotAt / period⌋ + 1 := hstraddles
  omega

theorem mul_le_iff_le_floor (hpos : 0 < period) (k : ℤ) (time : ℚ) :
    (k + 1) * period ≤ time ↔ k + 1 ≤ ⌊time / period⌋ := by
  rw [Int.le_floor, le_div_iff₀ hpos]
  push_cast
  exact Iff.rfl

/-- A list that is kept for more than a second has its ended candles final, unless its fetch pins
the running one. -/
theorem Fetch.Observes.final (h : fetch.Observes market)
    (hperiod : periodOf fetch.key.interval = some period) (henabled : cache.enabled = true)
    (hpins : ¬ cache.Pins (market fetch.key) period fetch)
    (httl : 1 < cache.closedCandleTtl fetch.key.interval fetch.value fetch.completedAt) :
    (market fetch.key).FinalBy period fetch.completedAt fetch.value := by
  have hpos := periodOf_pos hperiod
  intro c hc k hk hended
  obtain ⟨hcandle, hroom, hkept⟩ := (one_lt_closedCandleTtl_iff hperiod).1 httl
  obtain ⟨k', hk', -, hvalues⟩ := h.2.2 period hperiod c hc
  obtain rfl := periodStamp_inj hpos hk hk'
  rw [mul_le_iff_le_floor hpos] at hended
  by_cases hstraddles : fetch.Straddles period
  · have hcross : ⌊fetch.completedAt / period⌋ = ⌊fetch.snapshotAt / period⌋ + 1 := hstraddles
    rcases eq_or_lt_of_le (show k ≤ ⌊fetch.snapshotAt / period⌋ by omega) with heq | hlt
    · by_contra hvalue
      exact hpins ⟨hstraddles, hroom, henabled, hkept, c, hc, heq ▸ hk, heq ▸ hvalue⟩
    · rw [hvalues, if_pos ((mul_le_iff_le_floor hpos k _).2 hlt)]
  · rw [← h.same_period hperiod hstraddles hcandle, ← mul_le_iff_le_floor hpos] at hended
    rw [hvalues, if_pos hended]

/-- The list of a fetch that pins the running candle is kept for more than a second with a candle
that had ended and is not final. -/
theorem Fetch.Observes.not_final (h : fetch.Observes market)
    (hperiod : periodOf fetch.key.interval = some period)
    (hpins : cache.Pins (market fetch.key) period fetch) :
    1 < cache.closedCandleTtl fetch.key.interval fetch.value fetch.completedAt ∧
      ¬ (market fetch.key).FinalBy period fetch.completedAt fetch.value := by
  obtain ⟨hstraddles, hroom, -, hkept, c, hc, hk, hvalue⟩ := hpins
  have hcross : ⌊fetch.completedAt / period⌋ = ⌊fetch.snapshotAt / period⌋ + 1 := hstraddles
  constructor
  · refine (one_lt_closedCandleTtl_iff hperiod).2 ⟨?_, hroom, hkept⟩
    obtain ⟨t, hstamp, ht⟩ := hk
    refine hasCandleAt_of_mem (fun d hd => ?_) hc hstamp ?_
    · obtain ⟨-, ⟨t', ht', -⟩, -⟩ := h.2.2 period hperiod d hd
      exact ⟨t', ht'⟩
    · rw [ht, hcross]
      push_cast
      ring
  · intro hfinal
    exact hvalue (hfinal c hc _ hk ((mul_le_iff_le_floor (periodOf_pos hperiod) _ _).2 hcross.ge))

end Expiry

section Runs

variable {β : Type*} {cache : MarketDataCache β} {actions : List (CacheAction β)}

structure MarketDataCache.Sourced (cache settings : MarketDataCache β)
    (actions : List (CacheAction β)) : Prop where
  enabled : cache.enabled = settings.enabled
  ttlSeconds : cache.ttlSeconds = settings.ttlSeconds
  maxEntries : cache.maxEntries = settings.maxEntries
  size : cache.entries.rows.length ≤ settings.maxEntries
  entries : ∀ e ∈ cache.entries.rows,
    ∃ fetch, .complete fetch ∈ actions ∧ e = settings.entryOf fetch

variable {settings : MarketDataCache β}

theorem MarketDataCache.entryOf_congr (h : cache.ttlSeconds = settings.ttlSeconds)
    (fetch : Fetch β) : cache.entryOf fetch = settings.entryOf fetch := by
  unfold entryOf closedCandleTtl ttlFor
  rw [h]

theorem MarketDataCache.Sourced.step (h : cache.Sourced settings actions) {a : CacheAction β}
    (ha : a ∈ actions) : (cache.step a).Sourced settings actions := by
  cases a with
  | request key now =>
    rw [MarketDataCache.step, MarketDataCache.request]
    split
    · exact h
    · split
      · exact { h with }
      · split
        · exact { h with }
        · exact { h with
            size := (List.length_filter_le _ _).trans h.size
            entries := fun e he => h.entries e (Table.mem_of_mem_remove he) }
  | complete fetch =>
    rw [MarketDataCache.step, MarketDataCache.complete]
    split
    · exact h
    · refine { h with size := ?_, entries := fun e he => ?_ }
      · rw [← h.maxEntries]
        dsimp only [Table.keepLast]
        rw [List.length_drop]
        omega
      · rcases Table.mem_put (Table.mem_of_mem_keepLast he) with rfl | he
        · exact ⟨fetch, ha, entryOf_congr h.ttlSeconds fetch⟩
        · exact h.entries e he

theorem MarketDataCache.sourced_run (hempty : settings.entries.rows = [])
    (actions : List (CacheAction β)) :
    (Transition.run MarketDataCache.step settings actions).Sourced settings actions := by
  refine Transition.run_invariant_of_forall MarketDataCache.step
    (I := fun cache : MarketDataCache β => cache.Sourced settings actions)
    (fun _ _ ha h => h.step ha) ⟨rfl, rfl, rfl, ?_, fun e he => ?_⟩ (fun a ha => ha)
  · rw [hempty]
    exact Nat.zero_le _
  · rw [hempty] at he
    cases he

/-- What a completed fetch leaves for its key. -/
theorem MarketDataCache.Sourced.serves_complete (h : cache.Sourced settings actions)
    (henabled : settings.enabled = true) (hbudget : 0 < settings.maxEntries) (fetch : Fetch β)
    (now : ℚ) :
    (cache.complete fetch).serves fetch.key now =
      (some (settings.entryOf fetch)).filter fun e => decide (now < e.expiresAt) := by
  have hon : cache.enabled = true := h.enabled.trans henabled
  have hmem : settings.entryOf fetch ∈ (cache.complete fetch).entries.rows := by
    rw [complete, if_neg (not_not.2 hon), entryOf_congr h.ttlSeconds, h.maxEntries]
    exact Table.mem_keepLast_put h.size hbudget
  have hcomplete : (cache.complete fetch).enabled = true := by
    rw [complete, if_neg (not_not.2 hon)]
    exact hon
  rw [serves, if_pos hcomplete]
  exact congrArg _ (Table.fetch_of_mem hmem)

/-- Along every run of requests and completed fetches from an empty cache, whatever the latencies,
the order and the settings: what is served more than a second after its fetch completed has the
ended candles final unless the fetch pins the running one. The list a fetch leaves is final whenever
it is served then, exactly unless the fetch pins it. -/
theorem served_candles_are_final (settings : MarketDataCache β)
    (hempty : settings.entries.rows = []) (hbudget : 0 < settings.maxEntries)
    {market : KlinesKey → Market β}
    (hactions : ∀ fetch, .complete fetch ∈ actions → fetch.Observes market) :
    (∀ key now e,
      (Transition.run MarketDataCache.step settings actions).serves key now = some e →
      ∃ fetch, .complete fetch ∈ actions ∧ fetch.key = key ∧ e.value = fetch.value ∧
        ∀ period, periodOf key.interval = some period →
          ¬ settings.Pins (market key) period fetch → fetch.completedAt + 1 < now →
            (market key).FinalBy period fetch.completedAt e.value) ∧
    ∀ fetch period, fetch.Observes market → periodOf fetch.key.interval = some period →
      ((∀ now e, fetch.completedAt + 1 < now →
        ((Transition.run MarketDataCache.step settings actions).complete fetch).serves
          fetch.key now = some e →
        (market fetch.key).FinalBy period fetch.completedAt e.value) ↔
        ¬ settings.Pins (market fetch.key) period fetch) := by
  have hsourced := settings.sourced_run hempty actions
  generalize Transition.run MarketDataCache.step settings actions = cache at hsourced
  constructor
  · intro key now e hserved
    unfold MarketDataCache.serves at hserved
    split at hserved
    next hon =>
      obtain ⟨hfetch, hlive⟩ := Option.filter_eq_some_iff.1 hserved
      rw [decide_eq_true_eq] at hlive
      obtain ⟨fetch, hmem, rfl⟩ := hsourced.entries e (Table.mem_of_fetch hfetch)
      have hkey := Table.key_of_fetch hfetch
      change fetch.key = key at hkey
      subst hkey
      refine ⟨fetch, hmem, rfl, rfl, fun period hperiod hpins hlater => ?_⟩
      refine (hactions fetch hmem).final hperiod (hsourced.enabled ▸ hon) hpins ?_
      have hexpires : now < fetch.completedAt +
          settings.closedCandleTtl fetch.key.interval fetch.value fetch.completedAt := hlive
      linarith
    · cases hserved
  · intro fetch period hobserves hperiod
    cases henabled : settings.enabled with
    | false =>
      refine iff_of_true (fun now e _ hserved => ?_) fun hpins => ?_
      · have hoff : cache.enabled = false := hsourced.enabled.trans henabled
        simp [MarketDataCache.serves, MarketDataCache.complete, hoff] at hserved
      · exact Bool.false_ne_true (henabled.symm.trans hpins.2.2.1)
    | true =>
      simp only [hsourced.serves_complete henabled hbudget fetch, Option.filter_some,
        decide_eq_true_eq]
      refine ⟨fun hfinal hpins => ?_, fun hpins now e hlater hserved => ?_⟩
      · obtain ⟨httl, hbad⟩ := hobserves.not_final hperiod hpins
        refine hbad (hfinal (fetch.completedAt + (1 + settings.closedCandleTtl fetch.key.interval
          fetch.value fetch.completedAt) / 2) (settings.entryOf fetch) (by linarith) ?_)
        refine if_pos ?_
        show _ < fetch.completedAt + _
        linarith
      · split at hserved
        next hlive =>
          obtain rfl := Option.some.inj hserved
          refine hobserves.final hperiod henabled hpins ?_
          have hexpires : now < fetch.completedAt +
              settings.closedCandleTtl fetch.key.interval fetch.value fetch.completedAt := hlive
          linarith
        · cases hserved

end Runs

section Samples

def sampleMarket : Market Bool where
  final _ := true
  provisional _ _ := false

def sampleCache : MarketDataCache Bool where
  enabled := true
  ttlSeconds := none
  maxEntries := 2048
  entries := .empty

/-- A fetch of quarters of an hour that is answered for an instant and completed a second later. -/
def sampleFetch (snapshotAt : ℚ) (value : List (Candle Bool)) : Fetch Bool where
  key := klinesKey "bybit" "btcusdt" "15m" 2
  startedAt := snapshotAt
  snapshotAt := snapshotAt
  completedAt := snapshotAt + 1
  value := value

theorem sampleFetch_observes {snapshotAt : ℚ} {value : List (Candle Bool)}
    (h : sampleMarket.Shows 900 snapshotAt value) :
    (sampleFetch snapshotAt value).Observes fun _ => sampleMarket := by
  refine ⟨le_rfl, (lt_add_one snapshotAt).le, fun period hperiod => ?_⟩
  have hquarter : periodOf "15m" = some 900 := by decide +kernel
  obtain rfl : (900 : ℚ) = period := Option.some.inj (hquarter.symm.trans hperiod)
  exact h

/-- The fetch is answered a second after a boundary. -/
def settledFetch : Fetch Bool :=
  sampleFetch 901 [⟨.instant 0, true⟩, ⟨.instant 900000000, false⟩]

theorem settledFetch_observes : settledFetch.Observes fun _ => sampleMarket := by
  refine sampleFetch_observes fun c hc => ?_
  rcases List.mem_cons.1 hc with rfl | hc
  · exact ⟨0, ⟨0, rfl, by norm_num⟩, by norm_num, by norm_num [sampleMarket]⟩
  · obtain rfl := List.mem_singleton.1 hc
    exact ⟨1, ⟨900000000, rfl, by norm_num⟩, by norm_num, by norm_num [sampleMarket]⟩

/-- Its list is served to the end of the running quarter, with the final values of the quarter
before. -/
theorem settled_fetch_is_final :
    ∃ e, (Transition.run MarketDataCache.step sampleCache [.complete settledFetch]).serves
        settledFetch.key 1790 = some e ∧
      ∃ c ∈ e.value, c.timestamp = .instant 0 ∧ c.values = sampleMarket.final 0 := by
  have hserved : (((Transition.run MarketDataCache.step sampleCache
      [.complete settledFetch]).serves settledFetch.key 1790).map
        fun e => e.value.map fun c => c.timestamp) = some [.instant 0, .instant 900000000] := by
    decide +kernel
  obtain ⟨e, he, hstamps⟩ := Option.map_eq_some_iff.1 hserved
  obtain ⟨fetch, hmem, -, -, hfinal⟩ := (served_candles_are_final sampleCache rfl (by decide)
    (fun fetch hmem => by
      obtain rfl : fetch = settledFetch := by simpa using hmem
      exact settledFetch_observes)).1 settledFetch.key 1790 e he
  obtain rfl : fetch = settledFetch := by simpa using hmem
  obtain ⟨c, hc, hstamp⟩ := List.mem_map.1 (hstamps ▸ List.mem_cons_self)
  refine ⟨e, he, c, hc, hstamp, ?_⟩
  refine hfinal 900 (by decide +kernel) ?_ ?_ c hc 0 ⟨0, hstamp, by norm_num⟩ ?_
  · rintro ⟨hstraddles, -⟩
    revert hstraddles
    unfold Fetch.Straddles
    decide +kernel
  · show (901 + 1 : ℚ) + 1 < 1790
    norm_num
  · show ((0 : ℤ) + 1 : ℚ) * 900 ≤ 901 + 1
    norm_num

/-- The fetch is answered half a second before a boundary. -/
def straddlingFetch : Fetch Bool := sampleFetch (1799 / 2) [⟨.instant 0, false⟩]

theorem straddlingFetch_observes : straddlingFetch.Observes fun _ => sampleMarket := by
  refine sampleFetch_observes fun c hc => ?_
  obtain rfl := List.mem_singleton.1 hc
  exact ⟨0, ⟨0, rfl, by norm_num⟩, by norm_num, by norm_num [sampleMarket]⟩

/-- The quarter that was running at the snapshot had ended when the fetch completed, so it passes
for the last closed one: the list is served to the end of the next quarter with its provisional
values. -/
theorem straddling_fetch_is_served :
    straddlingFetch.Observes (fun _ => sampleMarket) ∧
    straddlingFetch.completedAt + 1 < 1790 ∧
    (((sampleCache.step (.complete straddlingFetch)).serves straddlingFetch.key 1790).map
      fun e => e.value.map fun c => (c.timestamp, c.values)) = some [(.instant 0, false)] ∧
    ((0 : ℤ) + 1 : ℚ) * 900 ≤ straddlingFetch.completedAt ∧ sampleMarket.final 0 = true := by
  refine ⟨straddlingFetch_observes, ?_, by decide +kernel, ?_, rfl⟩
  · show (1799 / 2 + 1 : ℚ) + 1 < 1790
    norm_num
  · show ((0 : ℤ) + 1 : ℚ) * 900 ≤ 1799 / 2 + 1
    norm_num

end Samples

end CandleCraft.MarketData
