import CandleCraft.MarketData.SharedFetch

/-!
# Which fetch an observation belongs to

`_capture_by_entry_id` maps the identity of an entry object to the observation of the fetch that
stored it. An identity may be used again once its entry is gone, so the map is right only as long as
every way an entry leaves (expiry, overwriting, eviction) forgets its observation, and the entry
just stored is not itself evicted.
-/

namespace CandleCraft.MarketData

open Relational

variable {κ ν ο : Type*}

def Produced (returned : Table (Returned ν ο) Returned.number) (value : ν) (source : Option ℕ)
    (o : UpstreamObservation ο) : Prop :=
  source = some o.source ∧ ⟨o.source, value, some o.observation⟩ ∈ returned.rows

/-- The observation a result carries is that of the fetch its value comes from. -/
def LocalCacheFetchResult.Sound (returned : Table (Returned ν ο) Returned.number)
    (r : LocalCacheFetchResult ν ο) : Prop :=
  ∀ o, r.retainedUpstream = some o → Produced returned r.value r.source o

namespace EntryStore

/-- Recorded identities are those of stored entries, which hold the value the
observation came with. -/
structure Sound (returned : Table (Returned ν ο) Returned.number) (s : EntryStore κ ν ο) :
    Prop where
  positive : 0 < s.maxEntries
  bounded : s.entries.rows.length ≤ s.maxEntries
  distinct : (s.entries.rows.map LocalEntry.ident).Nodup
  captured : ∀ i o, s.captureByEntryId i = some o →
    ∃ e ∈ s.entries.rows, e.ident = i ∧ Produced returned e.value e.source o

variable {returned : Table (Returned ν ο) Returned.number} {s : EntryStore κ ν ο}

theorem Sound.eq_of_ident (h : s.Sound returned) {e e' : LocalEntry κ ν}
    (he : e ∈ s.entries.rows) (he' : e' ∈ s.entries.rows) (hident : e.ident = e'.ident) :
    e = e' :=
  List.inj_on_of_nodup_map h.distinct he he' hident

theorem Sound.mono {returned returned' : Table (Returned ν ο) Returned.number} (h : s.Sound returned)
    (hsub : ∀ w ∈ returned.rows, w ∈ returned'.rows) : s.Sound returned' :=
  ⟨h.positive, h.bounded, h.distinct, fun i o hi =>
    have ⟨e, he, hident, hsource, hmem⟩ := h.captured i o hi
    ⟨e, he, hident, hsource, hsub _ hmem⟩⟩

theorem forgetEntryCapture_entries (s : EntryStore κ ν ο) (entry : Option (LocalEntry κ ν)) :
    (s.forgetEntryCapture entry).entries = s.entries := by
  cases entry <;> rfl

theorem forgetEntryCapture_maxEntries (s : EntryStore κ ν ο) (entry : Option (LocalEntry κ ν)) :
    (s.forgetEntryCapture entry).maxEntries = s.maxEntries := by
  cases entry <;> rfl

theorem captureByEntryId_forget {entry : Option (LocalEntry κ ν)} {i : ℕ}
    {o : UpstreamObservation ο} (h : (s.forgetEntryCapture entry).captureByEntryId i = some o) :
    s.captureByEntryId i = some o ∧ ∀ e, entry = some e → e.ident ≠ i := by
  cases entry with
  | none => exact ⟨h, nofun⟩
  | some e =>
    by_cases hi : i = e.ident
    · simp [forgetEntryCapture, hi] at h
    · refine ⟨?_, fun e' he' hident => hi ?_⟩
      · simpa [forgetEntryCapture, Function.update_of_ne hi] using h
      · rw [← hident, Option.some.inj he']

theorem Sound.forget (h : s.Sound returned) (entry : Option (LocalEntry κ ν)) :
    (s.forgetEntryCapture entry).Sound returned where
  positive := by rw [forgetEntryCapture_maxEntries]; exact h.positive
  bounded := by
    rw [forgetEntryCapture_entries, forgetEntryCapture_maxEntries]
    exact h.bounded
  distinct := by rw [forgetEntryCapture_entries]; exact h.distinct
  captured := by
    intro i o hi
    rw [forgetEntryCapture_entries]
    exact h.captured i o (captureByEntryId_forget hi).1

theorem foldl_forget (s : EntryStore κ ν ο) (evicted : List (LocalEntry κ ν)) :
    let s' := evicted.foldl (fun s entry => s.forgetEntryCapture (some entry)) s
    s'.entries = s.entries ∧ s'.maxEntries = s.maxEntries ∧
      ∀ i o, s'.captureByEntryId i = some o →
        s.captureByEntryId i = some o ∧ ∀ e ∈ evicted, e.ident ≠ i := by
  induction evicted generalizing s with
  | nil => exact ⟨rfl, rfl, fun i o hi => ⟨hi, nofun⟩⟩
  | cons e evicted ih =>
    obtain ⟨hentries, hmax, hcaptured⟩ := ih (s.forgetEntryCapture (some e))
    refine ⟨hentries, hmax, fun i o hi => ?_⟩
    obtain ⟨hi, hrest⟩ := hcaptured i o hi
    obtain ⟨hi, hhead⟩ := captureByEntryId_forget hi
    exact ⟨hi, List.forall_mem_cons.2 ⟨hhead e rfl, hrest⟩⟩

theorem evict_spec (s : EntryStore κ ν ο) :
    s.evict.entries = s.entries.keepLast s.maxEntries ∧ s.evict.maxEntries = s.maxEntries ∧
      ∀ i o, s.evict.captureByEntryId i = some o → s.captureByEntryId i = some o ∧
        ∀ e ∈ s.entries.rows, e.ident = i → e ∈ (s.entries.keepLast s.maxEntries).rows := by
  obtain ⟨hentries, hmax, hcaptured⟩ := foldl_forget
    { s with entries := s.entries.keepLast s.maxEntries }
    (s.entries.rows.take (s.entries.rows.length - s.maxEntries))
  refine ⟨hentries, hmax, fun i o hi => ?_⟩
  obtain ⟨hi, hkept⟩ := hcaptured i o hi
  refine ⟨hi, fun e he hident => ?_⟩
  rw [← List.take_append_drop (s.entries.rows.length - s.maxEntries) s.entries.rows] at he
  rcases List.mem_append.1 he with he | he
  · exact absurd hident (hkept e he)
  · exact he

variable [DecidableEq κ]

variable {entry : LocalEntry κ ν}

theorem Sound.expire (h : s.Sound returned) {key : κ}
    (hentry : s.entries.fetch key = some entry) (expired misses : ℕ) :
    { s.forgetEntryCapture (some entry) with
      entries := s.entries.remove key, expired, misses }.Sound returned where
  positive := h.positive
  bounded := (List.length_filter_le _ _).trans h.bounded
  distinct := h.distinct.sublist (List.filter_sublist.map _)
  captured := by
    intro i o hi
    change (s.forgetEntryCapture (some entry)).captureByEntryId i = some o at hi
    obtain ⟨hi, hne⟩ := captureByEntryId_forget hi
    obtain ⟨e, he, hident, hproduced⟩ := h.captured i o hi
    refine ⟨e, List.mem_filter.2 ⟨he, decide_eq_true fun hkey => ?_⟩, hident, hproduced⟩
    have hsame := Table.fetch_of_mem he
    rw [hkey, hentry] at hsame
    exact hne entry rfl (Option.some.inj hsame ▸ hident)

theorem Sound.lookup (h : s.Sound returned) (key : κ) (now : ℚ) :
    (s.lookup key now).1.Sound returned ∧
      ∀ r, (s.lookup key now).2 = .served r → r.Sound returned := by
  unfold EntryStore.lookup
  split
  · next entry hentry =>
    split
    · refine ⟨{ h with }, ?_⟩
      rintro r ⟨⟩ o ho
      obtain ⟨e, he, hident, hproduced⟩ := h.captured entry.ident o ho
      exact h.eq_of_ident he (Table.mem_of_fetch hentry) hident ▸ hproduced
    · exact ⟨h.expire hentry _ _, nofun⟩
  · exact ⟨{ h with }, nofun⟩

theorem Sound.distinct_put (h : s.Sound returned)
    (hident : entry.ident ∉ s.entries.rows.map LocalEntry.ident) :
    ((s.entries.put entry).rows.map LocalEntry.ident).Nodup := by
  have hnew : ∀ e ∈ s.entries.rows, e.ident ≠ entry.ident := fun e he heq =>
    hident (List.mem_map.2 ⟨e, he, heq⟩)
  rw [List.nodup_map_iff_inj_on (List.Nodup.of_map _ (s.entries.put entry).nodup)]
  intro e he e' he' heq
  rcases Table.mem_put he with hsame | hold <;> rcases Table.mem_put he' with hsame' | hold'
  · rw [hsame, hsame']
  · exact absurd (heq.symm.trans (congrArg _ hsame)) (hnew e' hold')
  · exact absurd (heq.trans (congrArg _ hsame')) (hnew e hold)
  · exact h.eq_of_ident hold hold' heq

theorem Sound.write (h : s.Sound returned) {upstream : Option (UpstreamObservation ο)}
    (hident : entry.ident ∉ s.entries.rows.map LocalEntry.ident)
    (hupstream : ∀ o, upstream = some o → Produced returned entry.value entry.source o) :
    (s.write entry upstream).Sound returned := by
  let cleared := s.forgetEntryCapture (s.entries.fetch entry.key)
  let filled := { cleared with entries := cleared.entries.put entry }
  have hentries : filled.entries = s.entries.put entry :=
    congrArg (·.put entry) (forgetEntryCapture_entries s _)
  have hmax : filled.maxEntries = s.maxEntries := forgetEntryCapture_maxEntries s _
  obtain ⟨hkept, hkeptMax, hcaptured⟩ := filled.evict_spec
  rw [hentries, hmax] at hkept hcaptured
  rw [hmax] at hkeptMax
  have hstored : entry ∈ filled.evict.entries.rows :=
    hkept ▸ Table.mem_keepLast_put h.bounded h.positive
  -- an observation that is still recorded belongs to an entry under another key
  have hold : ∀ i o, filled.evict.captureByEntryId i = some o →
      ∃ e ∈ filled.evict.entries.rows, e.ident = i ∧ Produced returned e.value e.source o := by
    intro i o hi
    obtain ⟨hi, hlast⟩ := hcaptured i o hi
    obtain ⟨hi, hprevious⟩ := captureByEntryId_forget hi
    obtain ⟨e, he, heident, hproduced⟩ := h.captured i o hi
    have hkey : entry.key ≠ e.key := fun hkey =>
      hprevious e (hkey ▸ Table.fetch_of_mem he) heident
    exact ⟨e, hkept ▸ hlast e (Table.mem_put_of_ne he hkey) heident, heident, hproduced⟩
  have hbase : filled.evict.Sound returned := by
    refine ⟨hkeptMax ▸ h.positive, ?_, ?_, hold⟩
    · rw [hkept, hkeptMax, Table.keepLast, List.length_drop]
      omega
    · rw [hkept]
      exact (h.distinct_put hident).sublist ((List.drop_sublist _ _).map _)
  cases upstream with
  | none => exact { hbase with }
  | some o =>
    refine { hbase with captured := fun i o' hi => ?_ }
    change Function.update filled.evict.captureByEntryId entry.ident (some o) i = some o' at hi
    by_cases hi' : i = entry.ident
    · rw [hi', Function.update_self] at hi
      exact ⟨entry, hstored, hi'.symm, hupstream o' hi⟩
    · rw [Function.update_of_ne hi'] at hi
      exact hold i o' hi

end EntryStore

namespace SharedCache

structure Provenance (s : SharedCache κ ν ο) : Prop where
  sound : s.store.Sound s.returned
  counted : ∀ f ∈ s.fetches.rows, f.number < s.nextFetch
  past : ∀ w ∈ s.returned.rows, w.number < s.nextFetch
  pending : ∀ f ∈ s.fetches.rows, ∀ w ∈ s.returned.rows, w.number ≠ f.number
  results : ∀ task ∈ s.tasks.rows, ∀ r, task.state = .done (some r) → r.Sound s.returned
  served : ∀ r ∈ s.served, r.Sound s.returned

variable {s : SharedCache κ ν ο}

theorem Provenance.withStore (h : s.Provenance)
    {store : EntryStore κ ν ο} (hstore : store.Sound s.returned) : { s with store }.Provenance :=
  { h with sound := hstore }

theorem Provenance.settle (h : s.Provenance) (owner : Option ℕ)
    {result : Option (LocalCacheFetchResult ν ο)}
    (hresult : ∀ r, result = some r → r.Sound s.returned) :
    (s.settle owner result).Provenance := by
  cases owner with
  | none =>
    refine { h with served := fun r hr => ?_ }
    rcases List.mem_append.1 hr with hr | hr
    · exact hresult r (Option.mem_toList.1 hr)
    · exact h.served r hr
  | some t =>
    refine { h with results := fun task htask r hstate => ?_ }
    obtain ⟨old, hold, rfl⟩ := mem_settle.1 htask
    split at hstate
    · exact hresult r (TaskState.done.inj hstate)
    · exact h.results old hold r hstate

theorem Provenance.await (h : s.Provenance) (key : κ) (bind : Bool)
    (owner : Option ℕ) (now : ℚ) (kind : DeliveryKind) :
    (s.await key bind owner now kind).Provenance where
  sound := h.sound
  counted := by
    intro f hf
    rcases Table.mem_put hf with rfl | hf
    · exact Nat.lt_succ_self _
    · exact Nat.lt_succ_of_lt (h.counted f hf)
  past := fun w hw => Nat.lt_succ_of_lt (h.past w hw)
  pending := by
    intro f hf w hw
    rcases Table.mem_put hf with rfl | hf
    · exact (h.past w hw).ne
    · exact h.pending f hf w hw
  results := by
    intro task htask r hstate
    obtain ⟨old, hold, rfl⟩ := mem_await.1 htask
    split at hstate
    · cases hstate
    · exact h.results old hold r hstate
  served := h.served

theorem Provenance.drop (h : s.Provenance) (f : RunningFetch κ) :
    { s with fetches := s.fetches.remove f.number }.Provenance :=
  ⟨h.sound, fun g hg => h.counted g (Table.mem_of_mem_remove hg), h.past,
    fun g hg => h.pending g (Table.mem_of_mem_remove hg), h.results, h.served⟩

variable {f : RunningFetch κ}

/-- The return of an outstanding fetch adds to what fetches have returned. -/
theorem Provenance.record (h : s.Provenance)
    (hf : f ∈ s.fetches.rows) (value : ν) (observation : Option ο) :
    { s with
      fetches := s.fetches.remove f.number
      returned := s.returned.put ⟨f.number, value, observation⟩ }.Provenance := by
  have hsub : ∀ w ∈ s.returned.rows,
      w ∈ (s.returned.put ⟨f.number, value, observation⟩).rows := fun w hw =>
    Table.mem_put_of_ne hw (h.pending f hf w hw).symm
  have hmono : ∀ r : LocalCacheFetchResult ν ο, r.Sound s.returned →
      r.Sound (s.returned.put ⟨f.number, value, observation⟩) := fun r hr o ho =>
    ⟨(hr o ho).1, hsub _ (hr o ho).2⟩
  constructor
  case sound => exact h.sound.mono hsub
  case counted => exact fun g hg => h.counted g (Table.mem_of_mem_remove hg)
  case past =>
    intro w hw
    rcases Table.mem_put hw with rfl | hw
    · exact h.counted f hf
    · exact h.past w hw
  case pending =>
    intro g hg w hw
    obtain ⟨hmem, hne⟩ := List.mem_filter.1 hg
    rcases Table.mem_put hw with rfl | hw
    · exact fun heq => of_decide_eq_true hne heq.symm
    · exact h.pending g hmem w hw
  case results => exact fun task htask r hstate => hmono r (h.results task htask r hstate)
  case served => exact fun r hr => hmono r (h.served r hr)

variable [DecidableEq κ]

theorem Provenance.fetchWithLocalDelivery (h : s.Provenance) (key : κ)
    (bind : Bool) (owner : Option ℕ) (now : ℚ) :
    (s.fetchWithLocalDelivery key bind owner now).Provenance := by
  obtain ⟨hstore, hserved⟩ := h.sound.lookup key now
  unfold SharedCache.fetchWithLocalDelivery
  split
  · split
    · next store result hlookup =>
      rw [hlookup] at hstore hserved
      refine (h.withStore hstore).settle owner fun r hr => ?_
      exact hserved r (congrArg Lookup.served (Option.some.inj hr))
    · next store kind hlookup =>
      rw [hlookup] at hstore
      exact (h.withStore hstore).await key bind owner now kind
  · exact h.await key bind owner now _

theorem Provenance.getOrFetch (h : s.Provenance) (key : κ) (bind : Bool)
    (first second : ℚ) : (s.getOrFetchWithLocalDelivery key bind first second).Provenance := by
  unfold getOrFetchWithLocalDelivery
  split
  · exact h.fetchWithLocalDelivery key bind none second
  split
  · exact { h with }
  split
  · exact h
  refine { h with results := fun task htask r hstate => ?_ }
  rcases Table.mem_put htask with rfl | htask
  · cases hstate
  · exact h.results task htask r hstate

omit [DecidableEq κ] in
theorem produced_upstream {returned : Table (Returned ν ο) Returned.number}
    {value : ν} {observation : Option ο} {o : UpstreamObservation ο}
    (h : (if f.bind then observation.map (UpstreamObservation.mk f.number) else none) = some o) :
    Produced (returned.put ⟨f.number, value, observation⟩) value (some f.number) o := by
  split at h
  · obtain ⟨seen, rfl, rfl⟩ := Option.map_eq_some_iff.1 h
    exact ⟨rfl, Table.mem_put_self _ _⟩
  · cases h

theorem Provenance.finishFetch (h : s.Provenance)
    (hf : f ∈ s.fetches.rows) {outcome : FetchOutcome ν ο}
    (hident : s.allocatable outcome = true) : (s.finishFetch f outcome).Provenance := by
  unfold SharedCache.finishFetch
  cases outcome with
  | failed => exact (h.drop f).settle f.owner nofun
  | unstorable value observation =>
    have hrecord := h.record hf value observation
    dsimp only
    split
    · exact (hrecord.withStore (hrecord.sound.forget _)).settle f.owner nofun
    · exact hrecord.settle f.owner nofun
  | stored value observation expiresAt ident fileRaises =>
    have hrecord := h.record hf value observation
    have hnew : ident ∉ s.store.entries.rows.map LocalEntry.ident := of_decide_eq_true hident
    dsimp only
    split
    · refine (hrecord.withStore (hrecord.sound.write hnew
        fun o ho => produced_upstream ho)).settle f.owner fun r hr o ho => ?_
      cases fileRaises with
      | true => cases hr
      | false =>
        obtain rfl := Option.some.inj hr
        exact produced_upstream ho
    · refine hrecord.settle f.owner fun r hr o ho => ?_
      obtain rfl := Option.some.inj hr
      exact produced_upstream ho

theorem Provenance.runCallback (h : s.Provenance)
    (task : FetchTask κ ν ο) : (s.runCallback task).Provenance := by
  simp only [SharedCache.runCallback]
  split
  · split <;> exact { h with }
  · exact { h with }

theorem Provenance.move {s s' : SharedCache κ ν ο} {a : CallAction κ ν ο} (h : s.Provenance)
    (hmove : s.Move a s') : s'.Provenance := by
  cases hmove with
  | idle => exact h
  | call key bind first second => exact h.getOrFetch key bind first second
  | start task htask hstate now => exact h.fetchWithLocalDelivery _ _ _ now
  | cancel task htask hstate => exact h.settle _ nofun
  | endFetch f hf outcome hident => exact h.finishFetch hf hident
  | callback task htask hscheduled => exact h.runCallback task
  | wait waiters => exact { h with }
  | resume task htask result hstate kind hits waiters =>
    exact { h with
      sound := { h.sound with }
      served := List.forall_mem_cons.2 ⟨h.results task htask result hstate, h.served⟩ }

omit [DecidableEq κ] in
theorem provenance_cache (c : CacheOpening κ ν) : (c.cache ο).Provenance where
  sound :=
    { positive := c.positive
      bounded := by
        change (c.loaded.rows.drop _).length ≤ c.maxEntries
        rw [List.length_drop]
        omega
      distinct := c.distinct.sublist ((List.drop_sublist _ _).map _)
      captured := nofun }
  counted := nofun
  past := nofun
  pending := nofun
  results := nofun
  served := nofun

/-- In every run, every recorded identity is that of a stored entry, and a value
that is served with an observation is the value the fetch that made the
observation returned. -/
theorem observations_match_values (c : CacheOpening κ ν) (acts : List (CallAction κ ν ο)) :
    let s := (c.cache ο).run acts
    (∀ i, s.store.captureByEntryId i ≠ none → i ∈ s.store.entries.rows.map LocalEntry.ident) ∧
      ∀ r ∈ s.served, ∀ o, r.retainedUpstream = some o →
        r.source = some o.source ∧
          s.returned.fetch o.source = some ⟨o.source, r.value, some o.observation⟩ := by
  intro s
  have h : s.Provenance :=
    Transition.run_invariant step (fun s a h => h.move (s.step_move a)) (provenance_cache c) acts
  constructor
  · intro i hi
    obtain ⟨o, ho⟩ := Option.ne_none_iff_exists'.1 hi
    obtain ⟨e, he, hident, -⟩ := h.sound.captured i o ho
    exact List.mem_map.2 ⟨e, he, hident⟩
  · intro r hr o ho
    obtain ⟨hsource, hmem⟩ := h.served r hr o ho
    exact ⟨hsource, Table.fetch_of_mem hmem⟩

def narrowOpening : CacheOpening ℕ ℕ :=
  ⟨true, 1, by decide, .empty, by decide⟩

-- the entry of the key 1 is evicted and its identity 5 used again for the key 3,
-- whose call gives no `bind_upstream`
example : (((narrowOpening.cache ℕ).run
    [.call 1 true 0 0, .start 0 0, .endFetch 0 (.stored 10 (some 50) 100 5 false),
      .call 2 true 0 0, .start 1 0, .endFetch 1 (.stored 20 (some 60) 100 6 false),
      .call 3 false 0 0, .start 2 0, .endFetch 2 (.stored 30 (some 70) 100 5 false),
      .call 3 true 1 1]).served.map fun r => (r.value, r.retainedUpstream)) = [(30, none)] := by
  decide +kernel

end SharedCache

end CandleCraft.MarketData
