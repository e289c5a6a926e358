import CandleCraft.MarketData.SharedFetch

/-!
# One upstream fetch for a key

A call whose entry is fresh goes to `_fetch_with_local_delivery` without a mark in `_inflight`, and
that function reads the clock again. If the entry has expired in between, the call awaits an
upstream fetch that no mark shows, and a second call starts another one. `Steady` excludes this: a
call that finds its entry fresh finds it fresh again.
-/

namespace CandleCraft.MarketData.SharedCache

open Relational

variable {κ ν ο : Type*}

structure Flight (s : SharedCache κ ν ο) : Prop extends s.Marks where
  owned : ∀ f ∈ s.fetches.rows, ∃ task ∈ s.tasks.rows,
    f.owner = some task.number ∧ task.key = f.key ∧ task.state = .fetching
  single : ∀ f ∈ s.fetches.rows, ∀ g ∈ s.fetches.rows, f.owner = g.owner → f = g
  shown : ∀ task ∈ s.tasks.rows, ¬ task.Ended → ⟨task.key, task.number⟩ ∈ s.inflight.rows
  due : ∀ t ∈ s.scheduled, ∃ task ∈ s.tasks.rows, task.number = t ∧ task.Ended

variable {task : FetchTask κ ν ο}

theorem not_ended {state : TaskState ν ο} (h : task.state = state)
    (hstate : ∀ result, state ≠ .done result) : ¬ task.Ended :=
  fun ⟨result, hresult⟩ => hstate result (h.symm.trans hresult)

variable {s : SharedCache κ ν ο}

theorem eq_of_number {task task' : FetchTask κ ν ο}
    (h : task ∈ s.tasks.rows) (h' : task' ∈ s.tasks.rows) (hnumber : task.number = task'.number) :
    task = task' :=
  List.inj_on_of_nodup_map s.tasks.nodup h h' hnumber

theorem Flight.owner_ne_of_created (h : s.Flight) (htask : task ∈ s.tasks.rows)
    (hstate : task.state = .created) :
    ∀ f ∈ s.fetches.rows, f.owner ≠ some task.number := by
  intro f hf howner
  obtain ⟨task', htask', howner', -, hstate'⟩ := h.owned f hf
  have hsame := eq_of_number htask' htask (Option.some.inj (howner'.symm.trans howner))
  rw [hsame, hstate] at hstate'
  cases hstate'

theorem Flight.eq_of_key (h : s.Flight) {f g : RunningFetch κ}
    (hf : f ∈ s.fetches.rows) (hg : g ∈ s.fetches.rows) (hkey : f.key = g.key) : f = g := by
  obtain ⟨task, htask, howner, htkey, hstate⟩ := h.owned f hf
  obtain ⟨task', htask', howner', htkey', hstate'⟩ := h.owned g hg
  have hmark := h.shown task htask (not_ended hstate nofun)
  have hmark' := h.shown task' htask' (not_ended hstate' nofun)
  have hkeys : task.key = task'.key := htkey.trans (hkey.trans htkey'.symm)
  have hsame := congrArg InflightMark.task
    (List.inj_on_of_nodup_map s.inflight.nodup hmark hmark' hkeys)
  exact h.single f hf g hg (howner.trans ((congrArg some hsame).trans howner'.symm))

theorem Flight.withStore (h : s.Flight) (store : EntryStore κ ν ο) : { s with store }.Flight :=
  { h with }

theorem Flight.settle_task {result : Option (LocalCacheFetchResult ν ο)}
    (hmarks : (s.settle (some task.number) result).Marks) (htask : task ∈ s.tasks.rows)
    (howned : ∀ f ∈ s.fetches.rows, ∃ task ∈ s.tasks.rows,
      f.owner = some task.number ∧ task.key = f.key ∧ task.state = .fetching)
    (hsingle : ∀ f ∈ s.fetches.rows, ∀ g ∈ s.fetches.rows, f.owner = g.owner → f = g)
    (hshown : ∀ task ∈ s.tasks.rows, ¬ task.Ended → ⟨task.key, task.number⟩ ∈ s.inflight.rows)
    (hdue : ∀ t ∈ s.scheduled, ∃ task ∈ s.tasks.rows, task.number = t ∧ task.Ended)
    (hfree : ∀ f ∈ s.fetches.rows, f.owner ≠ some task.number) :
    (s.settle (some task.number) result).Flight where
  toMarks := hmarks
  owned := by
    intro f hf
    obtain ⟨owner, howner, hfowner, hkey, hstate⟩ := howned f hf
    have hne : owner.number ≠ task.number := fun hnumber => hfree f hf (hnumber ▸ hfowner)
    exact ⟨owner, mem_settle.2 ⟨owner, howner, if_neg hne⟩, hfowner, hkey, hstate⟩
  single := hsingle
  shown := by
    intro task' htask' hended
    obtain ⟨old, hold, rfl⟩ := mem_settle.1 htask'
    split at hended
    · exact absurd ⟨result, rfl⟩ hended
    · next hne =>
      rw [if_neg hne]
      exact hshown old hold hended
  due := by
    intro t ht
    rcases List.mem_cons.1 ht with rfl | ht
    · exact ⟨_, mem_settle.2 ⟨task, htask, if_pos rfl⟩, rfl, result, rfl⟩
    · obtain ⟨old, hold, hnumber, hended⟩ := hdue t ht
      refine ⟨_, mem_settle.2 ⟨old, hold, rfl⟩, ?_⟩
      split
      · exact ⟨hnumber, result, rfl⟩
      · exact ⟨hnumber, hended⟩

theorem Flight.settle_created (h : s.Flight)
    (htask : task ∈ s.tasks.rows) (hstate : task.state = .created)
    (result : Option (LocalCacheFetchResult ν ο)) :
    (s.settle (some task.number) result).Flight :=
  .settle_task (h.toMarks.settle _ result) htask h.owned h.single h.shown h.due
    (h.owner_ne_of_created htask hstate)

theorem Flight.await (h : s.Flight)
    (htask : task ∈ s.tasks.rows) (hstate : task.state = .created) (bind : Bool) (now : ℚ)
    (kind : DeliveryKind) : (s.await task.key bind (some task.number) now kind).Flight where
  toMarks := h.toMarks.await _ _ _ _ _
  owned := by
    intro f hf
    rcases Table.mem_put hf with rfl | hf
    · exact ⟨_, mem_await.2 ⟨task, htask, if_pos rfl⟩, rfl, rfl, rfl⟩
    · obtain ⟨owner, howner, hfowner, hkey, hfetching⟩ := h.owned f hf
      have hne : some task.number ≠ some owner.number := fun hnumber =>
        h.owner_ne_of_created htask hstate f hf (hfowner.trans hnumber.symm)
      exact ⟨owner, mem_await.2 ⟨owner, howner, if_neg hne⟩, hfowner, hkey, hfetching⟩
  single := by
    have hfree := h.owner_ne_of_created htask hstate
    intro f hf g hg howner
    rcases Table.mem_put hf with rfl | hf <;> rcases Table.mem_put hg with rfl | hg
    · rfl
    · exact absurd howner.symm (hfree g hg)
    · exact absurd howner (hfree f hf)
    · exact h.single f hf g hg howner
  shown := by
    intro task' htask' hended
    obtain ⟨old, hold, rfl⟩ := mem_await.1 htask'
    by_cases hnumber : some task.number = some old.number
    · obtain rfl := eq_of_number htask hold (Option.some.inj hnumber)
      rw [if_pos rfl]
      exact h.shown task htask (not_ended hstate nofun)
    · rw [if_neg hnumber] at hended ⊢
      exact h.shown old hold hended
  due := by
    intro t ht
    obtain ⟨old, hold, hnumber, hended⟩ := h.due t ht
    -- the task that begins has not ended
    have hne : some task.number ≠ some old.number := fun hsame =>
      not_ended hstate nofun (eq_of_number htask hold (Option.some.inj hsame) ▸ hended)
    exact ⟨old, mem_await.2 ⟨old, hold, if_neg hne⟩, hnumber, hended⟩

variable [DecidableEq κ]

/-- A call that finds its entry fresh finds it fresh at its second reading. -/
def Steady (s : SharedCache κ ν ο) : CallAction κ ν ο → Prop
  | .call key _ first second => s.store.fresh key first = true → s.store.fresh key second = true
  | _ => True

instance (s : SharedCache κ ν ο) : ∀ a, Decidable (s.Steady a)
  | .call key _ first second => inferInstanceAs
    (Decidable (s.store.fresh key first = true → s.store.fresh key second = true))
  | .start _ _ | .cancel _ | .endFetch _ _ | .callback _ | .resume _ | .abandon _ =>
    inferInstanceAs (Decidable True)

theorem lookup_of_fresh {store : EntryStore κ ν ο} {key : κ} {now : ℚ}
    (h : store.fresh key now = true) :
    ∃ store' result, store.lookup key now = (store', .served result) := by
  unfold EntryStore.fresh at h
  unfold EntryStore.lookup
  split at h
  · rw [if_pos (of_decide_eq_true h)]
    exact ⟨_, _, rfl⟩
  · cases h

theorem Flight.fetchWithLocalDelivery (h : s.Flight)
    (henabled : s.enabled = true) (htask : task ∈ s.tasks.rows)
    (hstate : task.state = .created) (now : ℚ) :
    (s.fetchWithLocalDelivery task.key task.bind (some task.number) now).Flight := by
  unfold SharedCache.fetchWithLocalDelivery
  rw [if_pos henabled]
  split
  · next store result _ => exact (h.withStore store).settle_created htask hstate _
  · next store kind _ => exact (h.withStore store).await htask hstate _ now kind

theorem Flight.create (h : s.Flight) {key : κ} {bind : Bool}
    (hunmarked : s.inflight.fetch key = none) {waiters : List Waiter}
    (hmarks : { s with
      tasks := s.tasks.put ⟨s.nextTask, key, bind, .created⟩
      inflight := s.inflight.put ⟨key, s.nextTask⟩
      nextTask := s.nextTask + 1
      waiters }.Marks) : { s with
      tasks := s.tasks.put ⟨s.nextTask, key, bind, .created⟩
      inflight := s.inflight.put ⟨key, s.nextTask⟩
      nextTask := s.nextTask + 1
      waiters }.Flight := by
  have hkeep : ∀ task ∈ s.tasks.rows,
      task ∈ (s.tasks.put ⟨s.nextTask, key, bind, .created⟩).rows := fun task htask =>
    Table.mem_put_of_ne htask (h.numbered task htask).ne'
  constructor
  case toMarks => exact hmarks
  case owned =>
    intro f hf
    obtain ⟨task, htask, howner⟩ := h.owned f hf
    exact ⟨task, hkeep task htask, howner⟩
  case single => exact h.single
  case shown =>
    intro task htask hended
    rcases Table.mem_put htask with rfl | htask
    · exact Table.mem_put_self _ _
    · have hmark := h.shown task htask hended
      refine Table.mem_put_of_ne hmark fun hkey => ?_
      have hfetch := Table.fetch_of_mem hmark
      rw [← hkey, hunmarked] at hfetch
      cases hfetch
  case due =>
    intro t ht
    obtain ⟨task, htask, hdue⟩ := h.due t ht
    exact ⟨task, hkeep task htask, hdue⟩

theorem Flight.getOrFetch (h : s.Flight) (henabled : s.enabled = true)
    {key : κ} {bind : Bool} {first second : ℚ}
    (hsteady : s.Steady (.call key bind first second)) :
    (s.getOrFetchWithLocalDelivery key bind first second).Flight := by
  have hmarks := h.toMarks.getOrFetch key bind first second
  unfold getOrFetchWithLocalDelivery at hmarks ⊢
  split
  · next hdirect =>
    have hfresh : s.store.fresh key first = true := hdirect.resolve_left (by simp [henabled])
    obtain ⟨store, result, hlookup⟩ := lookup_of_fresh (hsteady hfresh)
    rw [SharedCache.fetchWithLocalDelivery, if_pos henabled, hlookup]
    exact { h with }
  · next hdirect =>
    rw [if_neg hdirect] at hmarks
    split
    · exact { h with }
    · next hunmarked =>
      rw [hunmarked] at hmarks
      split
      · exact h
      · next hbudget =>
        rw [if_neg hbudget] at hmarks
        exact h.create hunmarked hmarks

omit [DecidableEq κ] in
theorem Flight.finish (h : s.Flight) {f : RunningFetch κ}
    (hf : f ∈ s.fetches.rows) (store : EntryStore κ ν ο) (returned : Table (Returned ν ο) _)
    (result : Option (LocalCacheFetchResult ν ο)) :
    ({ s with fetches := s.fetches.remove f.number, store, returned }.settle f.owner
      result).Flight := by
  have hmarks := h.toMarks.finish hf store returned result
  obtain ⟨task, htask, howner, -, -⟩ := h.owned f hf
  rw [howner] at hmarks ⊢
  refine .settle_task hmarks htask (fun g hg => h.owned g (Table.mem_of_mem_remove hg))
    (fun g hg g' hg' => h.single g (Table.mem_of_mem_remove hg) g' (Table.mem_of_mem_remove hg'))
    h.shown h.due fun g hg hgowner => ?_
  obtain ⟨hmem, hne⟩ := List.mem_filter.1 hg
  exact of_decide_eq_true hne
    (congrArg RunningFetch.number (h.single g hmem f hf (hgowner.trans howner.symm)))

theorem Flight.runCallback (h : s.Flight)
    (htask : task ∈ s.tasks.rows) (hscheduled : task.number ∈ s.scheduled) :
    (s.runCallback task).Flight := by
  have hmarks := h.toMarks.runCallback htask
  have hended : task.Ended := by
    obtain ⟨task', htask', hnumber, hended⟩ := h.due _ hscheduled
    exact eq_of_number htask' htask hnumber ▸ hended
  have hdue : ∀ t ∈ s.scheduled.filter (· ≠ task.number), ∃ task ∈ s.tasks.rows,
      task.number = t ∧ task.Ended := fun t ht => h.due t (List.mem_filter.1 ht).1
  unfold SharedCache.runCallback at hmarks ⊢
  dsimp only at hmarks ⊢
  split
  · next mark hmark =>
    rw [hmark] at hmarks
    dsimp only at hmarks
    split
    · next hnumber =>
      rw [if_pos hnumber] at hmarks
      refine ⟨hmarks, h.owned, h.single, fun other hother hrunning => ?_, hdue⟩
      have hmem := h.shown other hother hrunning
      refine List.mem_filter.2 ⟨hmem, decide_eq_true fun hkey => hrunning ?_⟩
      -- a running task of the key would be this task, which has ended
      have hsame := Table.fetch_of_mem hmem
      rw [show (⟨other.key, other.number⟩ : InflightMark κ).key = task.key from hkey, hmark] at hsame
      obtain rfl := Option.some.inj hsame
      exact eq_of_number htask hother hnumber.symm ▸ hended
    · next hnumber =>
      rw [if_neg hnumber] at hmarks
      exact { h with toMarks := hmarks, due := hdue }
  · next hnone =>
    rw [hnone] at hmarks
    exact { h with toMarks := hmarks, due := hdue }

theorem Flight.move {s s' : SharedCache κ ν ο} {a : CallAction κ ν ο} (h : s.Flight)
    (henabled : s.enabled = true) (hsteady : s.Steady a) (hmove : s.Move a s') : s'.Flight := by
  cases hmove with
  | idle => exact h
  | call key bind first second => exact h.getOrFetch henabled hsteady
  | start task htask hstate now => exact h.fetchWithLocalDelivery henabled htask hstate now
  | cancel task htask hstate => exact h.settle_created htask hstate none
  | endFetch f hf outcome hident =>
    obtain ⟨store, returned, result, heq⟩ := s.finishFetch_eq f outcome
    rw [heq]
    exact h.finish hf store returned result
  | callback task htask hscheduled => exact h.runCallback htask hscheduled
  | wait | resume => exact { h with }

/-! ## Runs -/

omit [DecidableEq κ] in
@[simp]
theorem settle_enabled (s : SharedCache κ ν ο) (owner : Option ℕ)
    (result : Option (LocalCacheFetchResult ν ο)) :
    (s.settle owner result).enabled = s.enabled := by
  cases owner <;> rfl

@[simp]
theorem fetchWithLocalDelivery_enabled (s : SharedCache κ ν ο) (key : κ) (bind : Bool)
    (owner : Option ℕ) (now : ℚ) :
    (s.fetchWithLocalDelivery key bind owner now).enabled = s.enabled := by
  unfold SharedCache.fetchWithLocalDelivery
  split
  · split
    · exact settle_enabled _ _ _
    · rfl
  · rfl

theorem Move.enabled {s s' : SharedCache κ ν ο} {a : CallAction κ ν ο} (hmove : s.Move a s') :
    s'.enabled = s.enabled := by
  cases hmove with
  | idle | wait | resume => rfl
  | call key bind first second =>
    unfold getOrFetchWithLocalDelivery
    split
    · exact fetchWithLocalDelivery_enabled s key bind none second
    · split
      · rfl
      · split <;> rfl
  | start task htask hstate now => exact fetchWithLocalDelivery_enabled s _ _ _ now
  | cancel task htask hstate => exact settle_enabled s _ _
  | endFetch f hf outcome hident =>
    obtain ⟨store, returned, result, heq⟩ := s.finishFetch_eq f outcome
    rw [heq, settle_enabled]
  | callback task htask hscheduled =>
    simp only [SharedCache.runCallback]
    split
    · split <;> rfl
    · rfl

omit [DecidableEq κ] in
theorem flight_cache (c : CacheOpening κ ν) : (c.cache ο).Flight :=
  ⟨marks_cache c, nofun, nofun, nofun, nofun⟩

/-- Along every steady run of an enabled cache, every outstanding fetch is that of
the task its key is marked with. -/
theorem flight_run {c : CacheOpening κ ν} (henabled : c.enabled = true)
    {acts : List (CallAction κ ν ο)} (h : Transition.Disciplined step Steady (c.cache ο) acts) :
    ((c.cache ο).run acts).Flight := by
  refine (h.invariant (I := fun s => s.enabled = true ∧ s.Flight) ?_
    ⟨henabled, flight_cache c⟩).2
  rintro s a hsteady ⟨hon, hflight⟩
  have hmove := s.step_move a
  exact ⟨hmove.enabled.trans hon, hflight.move hon hsteady hmove⟩

/-- In every steady run of an enabled cache, at most one upstream fetch for a key is
outstanding. A key is marked only while the task of the mark has not begun, while
its fetch is outstanding, or until the done callback that is already scheduled for
it takes the mark away. -/
theorem single_flight (c : CacheOpening κ ν) (henabled : c.enabled = true)
    (acts : List (CallAction κ ν ο))
    (hsteady : Transition.Disciplined step Steady (c.cache ο) acts) :
    let s := (c.cache ο).run acts
    (∀ key, (s.fetches.rows.filter fun f => decide (f.key = key)).length ≤ 1) ∧
      ∀ m ∈ s.inflight.rows, ∃ task ∈ s.tasks.rows, task.number = m.task ∧ task.key = m.key ∧
        (task.state = .created ∨
          (task.state = .fetching ∧ ∃ f ∈ s.fetches.rows, f.owner = some m.task) ∨
          (task.Ended ∧ m.task ∈ s.scheduled ∧
            (s.step (.callback m.task)).inflight.fetch m.key = none)) := by
  intro s
  have hflight : s.Flight := flight_run henabled hsteady
  constructor
  · intro key
    have hnodup : (s.fetches.rows.filter fun f => decide (f.key = key)).Nodup :=
      (List.Nodup.of_map _ s.fetches.nodup).filter _
    have hkeys : ∀ f ∈ s.fetches.rows.filter (fun f => decide (f.key = key)),
        f ∈ s.fetches.rows ∧ f.key = key := fun f hf =>
      ⟨(List.mem_filter.1 hf).1, of_decide_eq_true (List.mem_filter.1 hf).2⟩
    match hrows : s.fetches.rows.filter fun f => decide (f.key = key) with
    | [] | [_] => simp [hrows]
    | f :: g :: rest =>
      rw [hrows] at hnodup hkeys
      obtain ⟨hf, hfkey⟩ := hkeys f (by simp)
      obtain ⟨hg, hgkey⟩ := hkeys g (by simp)
      have hsame := hflight.eq_of_key hf hg (hfkey.trans hgkey.symm)
      simp [hsame] at hnodup
  · intro m hm
    obtain ⟨task, htask, hnumber, hkey, hended⟩ := hflight.marked m hm
    refine ⟨task, htask, hnumber, hkey, ?_⟩
    cases hstate : task.state with
    | created => exact .inl rfl
    | fetching => exact .inr (.inl ⟨rfl, hnumber ▸ hflight.awaited task htask hstate⟩)
    | done result =>
      have hscheduled := hended ⟨result, hstate⟩
      exact .inr (.inr ⟨⟨result, hstate⟩, hscheduled,
        hflight.toMarks.callback_clears hm hscheduled⟩)

/-- A cache whose file has one entry, for the key 7, that is fresh until 10. -/
def sampleOpening : CacheOpening ℕ ℕ where
  enabled := true
  maxEntries := 4
  positive := by decide
  loaded := ⟨[⟨7, 100, some 0, 10, 1, none⟩], by decide⟩
  distinct := by decide

/-- Two calls for the key 8 share the fetch of the first one, which fails. -/
def sharedFailure : List (CallAction ℕ ℕ ℕ) :=
  [.call 8 true 1 1, .start 0 2, .call 8 true 3 3, .endFetch 0 .failed]

theorem shared_failure_is_single_flight :
    sampleOpening.enabled = true ∧
      Transition.Disciplined step Steady (sampleOpening.cache ℕ) sharedFailure ∧
      ((sampleOpening.cache ℕ).run sharedFailure).inflight.rows.length = 1 ∧
      ∀ key, (((sampleOpening.cache ℕ).run sharedFailure).fetches.rows.filter
        fun f => decide (f.key = key)).length ≤ 1 :=
  ⟨rfl, by decide +kernel, by decide +kernel,
    (single_flight sampleOpening rfl sharedFailure (by decide +kernel)).1⟩

/-- The entry expires between the two readings of the first call, which fetches
without a mark; the second call finds neither entry nor mark. -/
theorem unmarked_fetch_is_joined :
    sampleOpening.enabled = true ∧
      (((sampleOpening.cache ℕ).run
        [.call 7 true 9 11, .call 7 true 12 12, .start 0 13]).fetches.rows.filter
          fun f => decide (f.key = 7)).length = 2 := by
  decide +kernel

end CandleCraft.MarketData.SharedCache
