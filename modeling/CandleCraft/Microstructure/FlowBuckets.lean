import CandleCraft.Kernel.Bounded
import CandleCraft.Microstructure.Flow

/-!
# What the minute buckets hold

Every retained bucket is the result of applying the accepted trades of its minute, in
order, and a bucket is dropped only when it is too old for any reported window. So the
buckets a window selects are the accepted trades of the window, grouped by minute.
-/

namespace CandleCraft.Microstructure

open Relational PyDecimal

/-! ## Minutes -/

def WholeMinute (t : Instant) : Prop := minute ∣ t

theorem minute_pos : 0 < minute := by decide

theorem wholeMinute_minuteStart (t : Instant) : WholeMinute (minuteStart t) :=
  Int.dvd_self_sub_of_emod_eq rfl

theorem le_minuteStart_iff {b t : Instant} (hb : WholeMinute b) : b ≤ minuteStart t ↔ b ≤ t := by
  have key : ∀ b t : ℤ, (60000000 : ℤ) ∣ b → (b ≤ t - t % 60000000 ↔ b ≤ t) := by
    intro b t hb
    omega
  exact key b t hb

theorem minuteStart_lt_iff {b t : Instant} (hb : WholeMinute b) : minuteStart t < b ↔ t < b := by
  rw [← not_le, le_minuteStart_iff hb, not_le]

variable {s t : Instant}

theorem minuteStart_mono (h : s ≤ t) : minuteStart s ≤ minuteStart t := by
  rw [le_minuteStart_iff (wholeMinute_minuteStart s)]
  exact le_trans ((le_minuteStart_iff (wholeMinute_minuteStart s)).1 le_rfl) h

theorem WholeMinute.add_le (hs : WholeMinute s) (ht : WholeMinute t) (h : s < t) :
    s + minute ≤ t := by
  have key : ∀ s t : ℤ, (60000000 : ℤ) ∣ s → (60000000 : ℤ) ∣ t → s < t → s + 60000000 ≤ t := by
    intro s t hs ht h
    omega
  exact key s t hs ht h

theorem WholeMinute.add_length_le {l : List Instant} (hs : WholeMinute s)
    (hst : s ≤ t) (hl : l.Pairwise (· < ·)) (hmem : ∀ k ∈ l, WholeMinute k ∧ s < k ∧ k ≤ t) :
    s + l.length * minute ≤ t := by
  induction l generalizing s with
  | nil => simpa using hst
  | cons k rest ih =>
    obtain ⟨hk, hsk, hkt⟩ := hmem k List.mem_cons_self
    rw [List.pairwise_cons] at hl
    have hrest := ih hk hkt hl.2 fun k' hk' =>
      ⟨(hmem k' (List.mem_cons_of_mem k hk')).1, hl.1 k' hk',
        (hmem k' (List.mem_cons_of_mem k hk')).2.2⟩
    have hstep := hs.add_le hk hsk
    rw [List.length_cons]
    push_cast
    linarith

/-! ## Buckets -/

def bucketOf (trades : List AggTrade) (start : Instant) : MinuteFlowBucket :=
  (trades.filter fun e => decide (minuteStart e.tradeTime = start)).foldl MinuteFlowBucket.apply
    { bucketStart := start }

theorem bucketOf_append (trades : List AggTrade) (e : AggTrade) (start : Instant) :
    bucketOf (trades ++ [e]) start =
      if minuteStart e.tradeTime = start then (bucketOf trades start).apply e
      else bucketOf trades start := by
  unfold bucketOf
  rw [List.filter_append, List.foldl_append]
  split
  · next h => simp [h]
  · next h => simp [h]

theorem bucketStart_bucketOf (trades : List AggTrade) (start : Instant) :
    (bucketOf trades start).bucketStart = start := by
  induction trades using List.reverseRecOn with
  | nil => rfl
  | append_singleton trades e ih =>
    rw [bucketOf_append]
    split
    · exact ih
    · exact ih

variable {trades : List AggTrade}

theorem bucketOf_of_forall {start : Instant} (h : ∀ e ∈ trades, minuteStart e.tradeTime ≠ start) :
    bucketOf trades start = { bucketStart := start } := by
  rw [bucketOf, List.filter_eq_nil_iff.2 fun e he => by simpa using h e he]
  rfl

namespace Buckets

variable {buckets : Buckets}

theorem mem_starts {start : Instant} :
    start ∈ buckets.starts ↔ ∃ b ∈ buckets.rows, b.bucketStart = start :=
  Table.mem_sortedKeys

theorem pairwise_starts (buckets : Buckets) : buckets.starts.Pairwise (· < ·) :=
  Table.pairwise_sortedKeys buckets

variable {b : MinuteFlowBucket}

variable {maxRetained : ℕ}

theorem exists_after_of_pruned (hb : b ∈ buckets.rows)
    (hpruned : b ∉ (buckets.prune maxRetained).rows) :
    ∃ later : List Instant, later.length = maxRetained ∧ later.Pairwise (· < ·) ∧
      ∀ start ∈ later, start ∈ buckets.starts ∧ b.bucketStart < start := by
  obtain ⟨hlength, hlt⟩ := Table.lt_of_pruned hb hpruned
  refine ⟨(Table.prune maxRetained buckets).sortedKeys, ?_, Table.pairwise_sortedKeys _, ?_⟩
  · rw [Table.length_sortedKeys, hlength]
  · intro start hstart
    refine ⟨?_, hlt start hstart⟩
    rw [Table.sortedKeys_prune] at hstart
    exact List.mem_of_mem_drop hstart

theorem mem_of_mem_prune (h : b ∈ (buckets.prune maxRetained).rows) : b ∈ buckets.rows :=
  Table.mem_of_mem_prune h

theorem bucketStart_getD (buckets : Buckets) (start : Instant) :
    ((buckets.fetch start).getD { bucketStart := start }).bucketStart = start := by
  cases h : buckets.fetch start with
  | none => rfl
  | some b => exact Table.key_of_fetch h

theorem mem_record {e : AggTrade} (h : b ∈ (buckets.record e).rows) :
    b = ((buckets.fetch (minuteStart e.tradeTime)).getD
        { bucketStart := minuteStart e.tradeTime }).apply e ∨
      b ∈ buckets.rows ∧ b.bucketStart ≠ minuteStart e.tradeTime := by
  have hfetch := Table.fetch_of_mem h
  rw [record, Table.fetch_put] at hfetch
  split at hfetch
  · exact Or.inl (Option.some.inj hfetch).symm
  · next hne =>
    refine Or.inr ⟨Table.mem_of_fetch hfetch, fun heq => hne ?_⟩
    exact (buckets.bucketStart_getD _).trans heq.symm

theorem mem_starts_record {e : AggTrade} {start : Instant}
    (h : start = minuteStart e.tradeTime ∨ start ∈ buckets.starts) :
    start ∈ (buckets.record e).starts := by
  have hstart := buckets.bucketStart_getD (minuteStart e.tradeTime)
  rw [mem_starts]
  rcases h with rfl | hold
  · have hfetch : (buckets.record e).fetch (minuteStart e.tradeTime) = some
        (((buckets.fetch (minuteStart e.tradeTime)).getD
          { bucketStart := minuteStart e.tradeTime }).apply e) := by
      rw [record, Table.fetch_put]
      exact if_pos hstart
    exact ⟨_, Table.mem_of_fetch hfetch, Table.key_of_fetch hfetch⟩
  · obtain ⟨b, hb, rfl⟩ := mem_starts.1 hold
    have hfetch := Table.fetch_put buckets (((buckets.fetch (minuteStart e.tradeTime)).getD
      { bucketStart := minuteStart e.tradeTime }).apply e) b.bucketStart
    split at hfetch
    · exact ⟨_, Table.mem_of_fetch hfetch, Table.key_of_fetch hfetch⟩
    · rw [Table.fetch_of_mem hb] at hfetch
      exact ⟨b, Table.mem_of_fetch hfetch, rfl⟩

end Buckets

/-! ## The history of an aggregator -/

namespace FlowAggregator

structure Refuses (e : AggTrade) (f f' : FlowAggregator) : Prop where
  config_eq : f'.config = f.config
  buckets_eq : f'.buckets = f.buckets
  id_eq : f'.lastAggregateTradeId = f.lastAggregateTradeId
  time_eq : f'.lastTradeTime = f.lastTradeTime
  /-- Coverage moves for a later id with an earlier time only. -/
  coverage_eq : f'.coverageStart = f.coverageStart ∨
    e.symbol = f.config.symbol ∧
      (∀ previous ∈ f.lastAggregateTradeId, previous < e.aggregateTradeId) ∧
      ∃ last ∈ f.lastTradeTime, e.tradeTime < last

/-- A trade is refused, or it is accepted with a later id than any before and no earlier
time. -/
theorem ingest_cases (e : AggTrade) (f : FlowAggregator) :
    (f.ingest e).1 ≠ .ok true ∧ Refuses e f (f.ingest e).2 ∨
      (∀ previous ∈ f.lastAggregateTradeId, previous < e.aggregateTradeId) ∧
        (∀ last ∈ f.lastTradeTime, last ≤ e.tradeTime) ∧ e.symbol = f.config.symbol ∧
        f.ingest e = (.ok true, (f.noteGap e).accept e) := by
  unfold ingest
  split
  · exact Or.inl ⟨nofun, rfl, rfl, rfl, rfl, Or.inl rfl⟩
  next hsymbol =>
  split
  · left
    refine ⟨by simp, ?_⟩
    split <;> exact ⟨rfl, rfl, rfl, rfl, Or.inl rfl⟩
  next hid =>
  have hlater : ∀ previous ∈ f.lastAggregateTradeId, previous < e.aggregateTradeId := by
    intro previous hprevious
    by_contra hle
    exact hid ((Option.any_eq_true _ _).2 ⟨previous, hprevious, decide_eq_true (not_lt.1 hle)⟩)
  split
  · next last hlast =>
    obtain ⟨hlast, hlt⟩ := Option.filter_eq_some_iff.1 hlast
    exact Or.inl ⟨by simp, rfl, rfl, rfl, rfl,
      Or.inr ⟨not_not.1 hsymbol, hlater, last, hlast, of_decide_eq_true hlt⟩⟩
  · next hnone =>
    refine Or.inr ⟨hlater, fun last hlast => ?_, not_not.1 hsymbol, rfl⟩
    have := Option.filter_eq_none_iff.1 hnone last hlast
    simpa using this

theorem noteGap_fields (e : AggTrade) (f : FlowAggregator) :
    (f.noteGap e).config = f.config ∧ (f.noteGap e).buckets = f.buckets ∧
      (f.noteGap e).connected = f.connected := by
  unfold noteGap
  split <;> exact ⟨rfl, rfl, rfl⟩

end FlowAggregator

namespace FlowHistory

theorem step_ingest_cases (h : FlowHistory) (e : AggTrade) :
    (∃ f', FlowAggregator.Refuses e h.flow f' ∧ h.step (.ingest e) = ⟨f', h.accepted⟩) ∨
      (∀ previous ∈ h.flow.lastAggregateTradeId, previous < e.aggregateTradeId) ∧
        (∀ last ∈ h.flow.lastTradeTime, last ≤ e.tradeTime) ∧
        e.symbol = h.flow.config.symbol ∧
        h.step (.ingest e) = ⟨(h.flow.noteGap e).accept e, h.accepted ++ [e]⟩ := by
  rcases h.flow.ingest_cases e with ⟨hne, hrefuses⟩ | ⟨hid, htime, hsymbol, hingest⟩
  · refine Or.inl ⟨_, hrefuses, ?_⟩
    dsimp only [step]
    split
    · next heq => exact absurd (congrArg Prod.fst heq) hne
    · next heq => rw [heq]
  · refine Or.inr ⟨hid, htime, hsymbol, ?_⟩
    rw [step, hingest]

structure Bucketed (h : FlowHistory) : Prop where
  ordered : h.accepted.Pairwise fun a b => a.tradeTime ≤ b.tradeTime
  latest : ∀ e ∈ h.accepted, ∃ last ∈ h.flow.lastTradeTime, e.tradeTime ≤ last
  attained : ∀ last ∈ h.flow.lastTradeTime, ∃ e ∈ h.accepted, e.tradeTime = last
  filled : ∀ b ∈ h.flow.buckets.rows, b = bucketOf h.accepted b.bucketStart
  populated : ∀ b ∈ h.flow.buckets.rows, ∃ e ∈ h.accepted, minuteStart e.tradeTime = b.bucketStart
  /-- A trade whose bucket is gone is older than the retained minutes. -/
  retained : ∀ e ∈ h.accepted, minuteStart e.tradeTime ∈ h.flow.buckets.starts ∨
    ∀ last ∈ h.flow.lastTradeTime,
      minuteStart e.tradeTime + h.flow.config.maxRetainedBuckets * minute ≤ minuteStart last

variable {h : FlowHistory}

/-- A bucket that is not retained for a minute no earlier than the last one has had no
trades. -/
theorem Bucketed.fetch_getD (hb : h.Bucketed) {t : Instant}
    (ht : ∀ last ∈ h.flow.lastTradeTime, last ≤ t) :
    (h.flow.buckets.fetch (minuteStart t)).getD { bucketStart := minuteStart t } =
      bucketOf h.accepted (minuteStart t) := by
  cases hfetch : h.flow.buckets.fetch (minuteStart t) with
  | some b =>
    have hfilled := hb.filled b (Table.mem_of_fetch hfetch)
    rw [Table.key_of_fetch hfetch] at hfilled
    exact hfilled
  | none =>
    refine (bucketOf_of_forall fun e he heq => ?_).symm
    rcases hb.retained e he with hstored | hgone
    · obtain ⟨b, hmem, hstart⟩ := Buckets.mem_starts.1 hstored
      have hsome := Table.fetch_of_mem hmem
      rw [hstart, heq, hfetch] at hsome
      cases hsome
    · obtain ⟨last, hlast, -⟩ := hb.latest e he
      have hold := hgone last hlast
      have hmono := minuteStart_mono (ht last hlast)
      have hretained : (0 : ℤ) < h.flow.config.maxRetainedBuckets * minute :=
        mul_pos (by have := h.flow.config.retained_ge; unfold maxRetainedMinuteBuckets at this; omega)
          minute_pos
      rw [heq] at hold
      linarith

variable {e : AggTrade}

theorem Bucketed.le_of_mem (hb : h.Bucketed)
    (htime : ∀ last ∈ h.flow.lastTradeTime, last ≤ e.tradeTime) {e' : AggTrade}
    (he' : e' ∈ h.accepted ++ [e]) : e'.tradeTime ≤ e.tradeTime := by
  rcases List.mem_append.1 he' with hold | hnew
  · obtain ⟨last, hlast, hle⟩ := hb.latest e' hold
    exact le_trans hle (htime last hlast)
  · rw [List.mem_singleton.1 hnew]

theorem Bucketed.record (hb : h.Bucketed)
    (htime : ∀ last ∈ h.flow.lastTradeTime, last ≤ e.tradeTime) {b : MinuteFlowBucket}
    (hmem : b ∈ (h.flow.buckets.record e).rows) :
    b = bucketOf (h.accepted ++ [e]) b.bucketStart ∧
      ∃ e' ∈ h.accepted ++ [e], minuteStart e'.tradeTime = b.bucketStart := by
  rcases Buckets.mem_record hmem with rfl | ⟨hold, hne⟩
  · rw [hb.fetch_getD htime]
    have hstart := bucketStart_bucketOf h.accepted (minuteStart e.tradeTime)
    constructor
    · show _ = bucketOf (h.accepted ++ [e]) (bucketOf h.accepted _).bucketStart
      rw [hstart, bucketOf_append, if_pos rfl]
    · exact ⟨e, List.mem_append_right _ List.mem_cons_self, hstart.symm⟩
  · constructor
    · rw [bucketOf_append, if_neg (Ne.symm hne)]
      exact hb.filled b hold
    · obtain ⟨e', he', hstart⟩ := hb.populated b hold
      exact ⟨e', List.mem_append_left _ he', hstart⟩

/-- A bucket that is pruned is at least the retained minutes before the new trade. -/
theorem Bucketed.pruned_le (hb : h.Bucketed)
    (htime : ∀ last ∈ h.flow.lastTradeTime, last ≤ e.tradeTime) {b : MinuteFlowBucket}
    (hmem : b ∈ (h.flow.buckets.record e).rows) {n : ℕ}
    (hpruned : b ∉ ((h.flow.buckets.record e).prune n).rows) :
    b.bucketStart + n * minute ≤ minuteStart e.tradeTime := by
  have hstart : ∀ b' ∈ (h.flow.buckets.record e).rows,
      WholeMinute b'.bucketStart ∧ b'.bucketStart ≤ minuteStart e.tradeTime := by
    intro b' hb'
    obtain ⟨-, e', he', heq⟩ := hb.record htime hb'
    rw [← heq]
    exact ⟨wholeMinute_minuteStart _, minuteStart_mono (hb.le_of_mem htime he')⟩
  obtain ⟨later, rfl, hsorted, hlater⟩ := Buckets.exists_after_of_pruned hmem hpruned
  refine (hstart b hmem).1.add_length_le (hstart b hmem).2 hsorted fun k hk => ?_
  obtain ⟨hk, hlt⟩ := hlater k hk
  obtain ⟨b', hb', rfl⟩ := Buckets.mem_starts.1 hk
  exact ⟨(hstart b' hb').1, hlt, (hstart b' hb').2⟩

theorem Bucketed.accept (hb : h.Bucketed)
    (htime : ∀ last ∈ h.flow.lastTradeTime, last ≤ e.tradeTime) :
    Bucketed ⟨(h.flow.noteGap e).accept e, h.accepted ++ [e]⟩ := by
  obtain ⟨hconfig, hbuckets, -⟩ := h.flow.noteGap_fields e
  have hnew : ((h.flow.noteGap e).accept e).buckets =
      (h.flow.buckets.record e).prune h.flow.config.maxRetainedBuckets := by
    rw [FlowAggregator.accept, hconfig, hbuckets]
  constructor
  · refine List.pairwise_append.2 ⟨hb.ordered, List.pairwise_singleton _ _, fun a ha b hb' => ?_⟩
    rw [List.mem_singleton.1 hb']
    exact hb.le_of_mem htime (List.mem_append_left _ ha)
  · exact fun e' he' => ⟨e.tradeTime, rfl, hb.le_of_mem htime he'⟩
  · rintro last ⟨rfl⟩
    exact ⟨e, List.mem_append_right _ List.mem_cons_self, rfl⟩
  · intro b hmem
    rw [hnew] at hmem
    exact (hb.record htime (Buckets.mem_of_mem_prune hmem)).1
  · intro b hmem
    rw [hnew] at hmem
    exact (hb.record htime (Buckets.mem_of_mem_prune hmem)).2
  · intro e' he'
    show minuteStart e'.tradeTime ∈ ((h.flow.noteGap e).accept e).buckets.starts ∨
      ∀ last ∈ some e.tradeTime, minuteStart e'.tradeTime +
        (h.flow.noteGap e).config.maxRetainedBuckets * minute ≤ minuteStart last
    rw [hnew, hconfig]
    -- a bucket that is there before pruning stays, or pruning shows how old it is
    have hstored : minuteStart e'.tradeTime ∈ (h.flow.buckets.record e).starts →
        minuteStart e'.tradeTime ∈
            ((h.flow.buckets.record e).prune h.flow.config.maxRetainedBuckets).starts ∨
          ∀ last ∈ some e.tradeTime, minuteStart e'.tradeTime +
            h.flow.config.maxRetainedBuckets * minute ≤ minuteStart last := by
      intro hs
      obtain ⟨b, hmem, hstart⟩ := Buckets.mem_starts.1 hs
      rw [← hstart]
      by_cases hkept : b ∈ ((h.flow.buckets.record e).prune h.flow.config.maxRetainedBuckets).rows
      · exact Or.inl (Buckets.mem_starts.2 ⟨b, hkept, rfl⟩)
      · right
        rintro last ⟨rfl⟩
        exact hb.pruned_le htime hmem hkept
    rcases List.mem_append.1 he' with hold | hlast
    · rcases hb.retained e' hold with hs | hgone
      · exact hstored (Buckets.mem_starts_record (Or.inr hs))
      · right
        rintro last ⟨rfl⟩
        obtain ⟨previous, hprevious, -⟩ := hb.latest e' hold
        exact le_trans (hgone previous hprevious) (minuteStart_mono (htime previous hprevious))
    · rw [List.mem_singleton.1 hlast] at hstored ⊢
      exact hstored (Buckets.mem_starts_record (Or.inl rfl))

theorem Bucketed.step (hb : h.Bucketed) (a : FlowAction) : (h.step a).Bucketed := by
  cases a with
  | markConnected | markDisconnected => exact { hb with }
  | ingest e =>
    rcases h.step_ingest_cases e with ⟨f', hr, hstep⟩ | ⟨-, htime, -, hstep⟩
    · rw [hstep]
      refine ⟨hb.ordered, ?_, ?_, ?_, ?_, ?_⟩
      · simpa only [hr.time_eq] using hb.latest
      · simpa only [hr.time_eq] using hb.attained
      · simpa only [hr.buckets_eq] using hb.filled
      · simpa only [hr.buckets_eq] using hb.populated
      · simpa only [hr.buckets_eq, hr.time_eq, hr.config_eq] using hb.retained
    · rw [hstep]
      exact hb.accept htime

theorem Bucketed.initial (config : FlowConfig) : (FlowHistory.initial config).Bucketed where
  ordered := List.Pairwise.nil
  latest := fun _ he => absurd he List.not_mem_nil
  attained := nofun
  filled := fun _ hb => absurd hb List.not_mem_nil
  populated := fun _ hb => absurd hb List.not_mem_nil
  retained := fun _ he => absurd he List.not_mem_nil

theorem Bucketed.run (config : FlowConfig) (acts : List FlowAction) :
    ((FlowHistory.initial config).run acts).Bucketed :=
  Transition.run_invariant FlowHistory.step (I := Bucketed) (fun _ a hb => hb.step a) (.initial config) acts

theorem mem_accepted_run (config : FlowConfig) (acts : List FlowAction) :
    ∀ e ∈ ((FlowHistory.initial config).run acts).accepted, FlowAction.ingest e ∈ acts := by
  refine Transition.run_invariant_of_forall FlowHistory.step
    (I := fun h => ∀ e ∈ h.accepted, FlowAction.ingest e ∈ acts) ?_
    (fun _ he => absurd he List.not_mem_nil) fun a ha => ha
  intro h a ha hinv e he
  cases a with
  | markConnected | markDisconnected => exact hinv e he
  | ingest e' =>
    rcases h.step_ingest_cases e' with ⟨f', -, hstep⟩ | ⟨-, -, -, hstep⟩
    · rw [hstep] at he
      exact hinv e he
    · rw [hstep] at he
      rcases List.mem_append.1 he with hold | hnew
      · exact hinv e hold
      · rw [List.mem_singleton.1 hnew]
        exact ha

end FlowHistory

/-! ## Windows -/

def windowTrades (windowStart windowEnd : Instant) (trades : List AggTrade) : List AggTrade :=
  trades.filter fun e => decide (windowStart ≤ e.tradeTime ∧ e.tradeTime < windowEnd)

def minutesOf (trades : List AggTrade) : List Instant :=
  (trades.map fun e => minuteStart e.tradeTime).dedup

theorem mem_minutesOf {start : Instant} :
    start ∈ minutesOf trades ↔ ∃ e ∈ trades, minuteStart e.tradeTime = start := by
  rw [minutesOf, List.mem_dedup, List.mem_map]

theorem pairwise_minutesOf (h : trades.Pairwise fun a b => a.tradeTime ≤ b.tradeTime) :
    (minutesOf trades).Pairwise (· < ·) := by
  have hle : (trades.map fun e => minuteStart e.tradeTime).Pairwise (· ≤ ·) :=
    List.pairwise_map.2 (h.imp fun hab => minuteStart_mono hab)
  exact (hle.sublist (List.dedup_sublist _)).imp₂ (fun _ _ => lt_of_le_of_ne) (List.nodup_dedup _)

variable {windowStart windowEnd : Instant}

theorem mem_windowTrades {e : AggTrade} : e ∈ windowTrades windowStart windowEnd trades ↔
      e ∈ trades ∧ windowStart ≤ e.tradeTime ∧ e.tradeTime < windowEnd := by
  rw [windowTrades, List.mem_filter, decide_eq_true_eq]

theorem bucketOf_windowTrades {windowStart windowEnd start : Instant} (trades : List AggTrade)
    (hs : WholeMinute windowStart) (he : WholeMinute windowEnd) (hfrom : windowStart ≤ start)
    (hto : start < windowEnd) :
    bucketOf (windowTrades windowStart windowEnd trades) start = bucketOf trades start := by
  unfold bucketOf windowTrades
  rw [List.filter_filter]
  congr 1
  refine List.filter_congr fun e _ => ?_
  by_cases heq : minuteStart e.tradeTime = start
  · have hleft : windowStart ≤ e.tradeTime := (le_minuteStart_iff hs).1 (heq ▸ hfrom)
    have hright : e.tradeTime < windowEnd := (minuteStart_lt_iff he).1 (heq ▸ hto)
    simp [heq, hleft, hright]
  · simp [heq]

theorem FlowHistory.Bucketed.mem_starts {h : FlowHistory} (hb : h.Bucketed) {asOf : Instant}
    (hasOf : ∀ e ∈ h.accepted, e.tradeTime ≤ asOf) {minutes : ℕ}
    (hminutes : minutes < h.flow.config.maxRetainedBuckets) {e : AggTrade} (he : e ∈ h.accepted)
    (hfrom : minuteStart asOf - minutes * minute ≤ minuteStart e.tradeTime) :
    minuteStart e.tradeTime ∈ h.flow.buckets.starts := by
  rcases hb.retained e he with hstored | hgone
  · exact hstored
  · exfalso
    obtain ⟨last, hlast, -⟩ := hb.latest e he
    obtain ⟨e', he', rfl⟩ := hb.attained last hlast
    have hold := hgone _ hlast
    have hmono := minuteStart_mono (hasOf e' he')
    have hlt : (minutes : ℤ) * minute < h.flow.config.maxRetainedBuckets * minute :=
      mul_lt_mul_of_pos_right (by exact_mod_cast hminutes) minute_pos
    linarith

/-- The buckets a window selects are the accepted trades of the window, by minute. -/
theorem FlowHistory.Bucketed.selected {h : FlowHistory} (hb : h.Bucketed)
    (hs : WholeMinute windowStart) (he : WholeMinute windowEnd)
    (hretained : ∀ e ∈ h.accepted, windowStart ≤ e.tradeTime →
      minuteStart e.tradeTime ∈ h.flow.buckets.starts) :
    h.flow.selected windowStart windowEnd =
      (minutesOf (windowTrades windowStart windowEnd h.accepted)).map
        (bucketOf (windowTrades windowStart windowEnd h.accepted)) := by
  have hstarts : (h.flow.buckets.starts.filter fun start =>
      decide (windowStart ≤ start ∧ start < windowEnd)) =
        minutesOf (windowTrades windowStart windowEnd h.accepted) := by
    refine (h.flow.buckets.pairwise_starts.filter _).eq_of_mem_iff
      (pairwise_minutesOf (hb.ordered.filter _)) fun start => ?_
    rw [List.mem_filter, decide_eq_true_eq, mem_minutesOf]
    constructor
    · rintro ⟨hstart, hfrom, hto⟩
      obtain ⟨b, hmem, rfl⟩ := Buckets.mem_starts.1 hstart
      obtain ⟨e, hacc, heq⟩ := hb.populated b hmem
      rw [← heq] at hfrom hto
      exact ⟨e, mem_windowTrades.2 ⟨hacc, (le_minuteStart_iff hs).1 hfrom,
        (minuteStart_lt_iff he).1 hto⟩, heq⟩
    · rintro ⟨e, hmem, rfl⟩
      obtain ⟨hacc, hfrom, hto⟩ := mem_windowTrades.1 hmem
      exact ⟨hretained e hacc hfrom, (le_minuteStart_iff hs).2 hfrom,
        (minuteStart_lt_iff he).2 hto⟩
  rw [FlowAggregator.selected, hstarts, ← List.filterMap_eq_map]
  refine List.filterMap_congr fun start hstart => ?_
  rw [← hstarts, List.mem_filter, decide_eq_true_eq] at hstart
  obtain ⟨hstart, hfrom, hto⟩ := hstart
  obtain ⟨b, hmem, rfl⟩ := Buckets.mem_starts.1 hstart
  rw [Table.fetch_of_mem hmem, Function.comp_apply, bucketOf_windowTrades _ hs he hfrom hto,
    ← hb.filled b hmem]

/-! ## Amounts -/

def sideTotal (side : Aggressor) (amount : AggTrade → ℚ) (trades : List AggTrade) : ℚ :=
  decimalContext.total ((minutesOf trades).map fun start =>
    decimalContext.total (((trades.filter fun e => decide (minuteStart e.tradeTime = start)).filter
      fun e => decide (e.aggressiveSide = side)).map amount))

variable {get : MinuteFlowBucket → ℚ}

variable {amount : AggTrade → ℚ} {count : AggTrade → ℕ}

theorem foldl_apply_amount {side : Aggressor}
    (hget : ∀ b e, get (b.apply e) =
      MinuteFlowBucket.addIf (e.aggressiveSide = side) (get b) (amount e))
    (trades : List AggTrade) (b : MinuteFlowBucket) :
    get (trades.foldl MinuteFlowBucket.apply b) =
      ((trades.filter fun e => decide (e.aggressiveSide = side)).map amount).foldl
        (fun s x => decimalContext.fit (s + x)) (get b) := by
  induction trades generalizing b with
  | nil => rfl
  | cons e rest ih =>
    rw [List.foldl_cons, ih, hget, MinuteFlowBucket.addIf]
    by_cases hside : e.aggressiveSide = side
    · rw [if_pos hside, List.filter_cons_of_pos (by simpa using hside), List.map_cons,
        List.foldl_cons]
    · rw [if_neg hside, List.filter_cons_of_neg (by simpa using hside)]

theorem total_bucketOf {side : Aggressor} (hnew : ∀ start, get { bucketStart := start } = 0)
    (hget : ∀ b e, get (b.apply e) =
      MinuteFlowBucket.addIf (e.aggressiveSide = side) (get b) (amount e))
    (trades : List AggTrade) :
    decimalContext.total (((minutesOf trades).map (bucketOf trades)).map get) =
      sideTotal side amount trades := by
  rw [sideTotal, List.map_map]
  congr 2
  funext start
  rw [Function.comp_apply, bucketOf, foldl_apply_amount hget, hnew]
  rfl

theorem foldl_apply_count {get : MinuteFlowBucket → ℕ}
    (hget : ∀ b e, get (b.apply e) = get b + count e) (trades : List AggTrade)
    (b : MinuteFlowBucket) :
    get (trades.foldl MinuteFlowBucket.apply b) = get b + (trades.map count).sum := by
  induction trades generalizing b with
  | nil => rfl
  | cons e rest ih => rw [List.foldl_cons, ih, hget, List.map_cons, List.sum_cons, add_assoc]

theorem sum_bucketOf {get : MinuteFlowBucket → ℕ}
    (hnew : ∀ start, get { bucketStart := start } = 0)
    (hget : ∀ b e, get (b.apply e) = get b + count e) (trades : List AggTrade) :
    (((minutesOf trades).map (bucketOf trades)).map get).sum = (trades.map count).sum := by
  rw [List.map_map, ← sum_by_key (fun e => minuteStart e.tradeTime) count trades (List.nodup_dedup _)
    fun e he => mem_minutesOf.2 ⟨e, he, rfl⟩]
  congr 2
  funext start
  rw [Function.comp_apply, bucketOf, foldl_apply_count hget, hnew, zero_add]

end CandleCraft.Microstructure
