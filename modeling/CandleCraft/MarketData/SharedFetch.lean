import Mathlib.Algebra.Order.Field.Rat
import CandleCraft.Kernel.Table
import CandleCraft.Kernel.Transition

/-!
# Shared fetches of the market-data cache

A call is atomic up to its first suspension. A `SharedCache` is the cache object together with what
the event loop holds for it: the tasks, the outstanding upstream fetches, the scheduled done
callbacks and the waiting calls. A run is any list of `CallAction`s; every clock reading is an
argument of the action that reads it.

Entries, observations and results carry the number of the fetch they stem from; the code has no such
field, and no function below reads it. The identity `id(entry)` is a number that no entry stored at
that moment has.
-/

namespace CandleCraft.MarketData

open Relational

section Model

variable {κ ν ο : Type*}

/-- The `CACHE_KIND_*` constants. -/
inductive DeliveryKind
  | hit
  | miss
  | expiryRefetch
  | notApplicable
  deriving DecidableEq, Repr

/-- What `bind_upstream` returned, with the fetch that observed it. -/
structure UpstreamObservation (ο : Type*) where
  source : ℕ
  observation : ο
  deriving DecidableEq

/-- A stored entry. `source` is the fetch whose value it holds; an entry read from
the cache file has none. -/
structure LocalEntry (κ ν : Type*) where
  key : κ
  ident : ℕ
  createdAt : Option ℚ
  expiresAt : ℚ
  value : ν
  source : Option ℕ

structure LocalCacheFetchResult (ν ο : Type*) where
  value : ν
  source : Option ℕ
  deliveryKind : DeliveryKind
  bookkeepingCreatedAt : Option ℚ
  expiresAt : Option ℚ
  retainedUpstream : Option (UpstreamObservation ο)
  fileLoadedEntry : Bool

structure Returned (ν ο : Type*) where
  number : ℕ
  value : ν
  observation : Option ο

/-- An outstanding upstream fetch. `owner` is the task that awaits it, `none` when
the call awaits it itself; `createdAt` and `deliveryKind` are the locals of
`_fetch_with_local_delivery`, `bind` says whether `bind_upstream` was given. -/
structure RunningFetch (κ : Type*) where
  number : ℕ
  key : κ
  owner : Option ℕ
  bind : Bool
  createdAt : ℚ
  deliveryKind : DeliveryKind

/-- A task of the loop; a `done` task without a result was cancelled or raised. -/
inductive TaskState (ν ο : Type*)
  | created
  | fetching
  | done (result : Option (LocalCacheFetchResult ν ο))

/-- `create_task(self._fetch_with_local_delivery(…))`. -/
structure FetchTask (κ ν ο : Type*) where
  number : ℕ
  key : κ
  bind : Bool
  state : TaskState ν ο

/-- An item of `_inflight`. -/
structure InflightMark (κ : Type*) where
  key : κ
  task : ℕ

/-- A call suspended on `asyncio.shield(task)`. `shared` calls found the task
pending, the others created it. -/
structure Waiter where
  task : ℕ
  shared : Bool
  deriving DecidableEq

/-- The entries and what the cache remembers about them. -/
structure EntryStore (κ ν ο : Type*) where
  maxEntries : ℕ
  entries : Table (LocalEntry κ ν) LocalEntry.key
  captureByEntryId : ℕ → Option (UpstreamObservation ο)
  fileLoadedEntryIds : List ℕ
  hits : ℕ
  misses : ℕ
  expired : ℕ
  writes : ℕ

/-- What `_fetch_with_local_delivery` does before its `await fetch()`. -/
inductive Lookup (ν ο : Type*)
  | served (result : LocalCacheFetchResult ν ο)
  | refetch (kind : DeliveryKind)

namespace EntryStore

def forgetEntryCapture (s : EntryStore κ ν ο) : Option (LocalEntry κ ν) → EntryStore κ ν ο
  | none => s
  | some entry =>
    { s with
      captureByEntryId := Function.update s.captureByEntryId entry.ident none
      fileLoadedEntryIds := s.fileLoadedEntryIds.filter (· ≠ entry.ident) }

/-- The loop that pops the oldest entries while there are more than `max_entries`. -/
def evict (s : EntryStore κ ν ο) : EntryStore κ ν ο :=
  let evicted := s.entries.rows.take (s.entries.rows.length - s.maxEntries)
  evicted.foldl (fun s entry => s.forgetEntryCapture (some entry))
    { s with entries := s.entries.keepLast s.maxEntries }

variable [DecidableEq κ]

/-- `existing is not None and existing["expires_at"] > now`. -/
def fresh (s : EntryStore κ ν ο) (key : κ) (now : ℚ) : Bool :=
  match s.entries.fetch key with
  | some entry => decide (now < entry.expiresAt)
  | none => false

def lookup (s : EntryStore κ ν ο) (key : κ) (now : ℚ) : EntryStore κ ν ο × Lookup ν ο :=
  match s.entries.fetch key with
  | some entry =>
    if now < entry.expiresAt then
      ({ s with hits := s.hits + 1 }, .served
        { value := entry.value
          source := entry.source
          deliveryKind := .hit
          bookkeepingCreatedAt := entry.createdAt
          expiresAt := some entry.expiresAt
          retainedUpstream := s.captureByEntryId entry.ident
          fileLoadedEntry := decide (entry.ident ∈ s.fileLoadedEntryIds) })
    else
      let s := { s with expired := s.expired + 1 }
      let s := s.forgetEntryCapture (some entry)
      ({ s with entries := s.entries.remove key, misses := s.misses + 1 }, .refetch .expiryRefetch)
  | none => ({ s with misses := s.misses + 1 }, .refetch .miss)

/-- The assignments after `await fetch()` returned: the entry that is overwritten
loses its observation, the new one is stored, the oldest ones are evicted. -/
def write (s : EntryStore κ ν ο) (entry : LocalEntry κ ν)
    (upstream : Option (UpstreamObservation ο)) : EntryStore κ ν ο :=
  let s := s.forgetEntryCapture (s.entries.fetch entry.key)
  let s := { s with entries := s.entries.put entry }
  let s := s.evict
  let s := match upstream with
    | none => s
    | some o => { s with captureByEntryId := Function.update s.captureByEntryId entry.ident (some o) }
  { s with writes := s.writes + 1 }

end EntryStore

/-- The cache object and the loop around it. `served` has what the calls returned,
the latest first. -/
structure SharedCache (κ ν ο : Type*) where
  enabled : Bool
  store : EntryStore κ ν ο
  inflight : Table (InflightMark κ) InflightMark.key
  tasks : Table (FetchTask κ ν ο) FetchTask.number
  fetches : Table (RunningFetch κ) RunningFetch.number
  nextTask : ℕ
  nextFetch : ℕ
  scheduled : List ℕ
  waiters : List Waiter
  returned : Table (Returned ν ο) Returned.number
  served : List (LocalCacheFetchResult ν ο)

/-- How an outstanding fetch ends: it raises or is cancelled; it returns and the
lifetime or the serialization of its value raises; or it returns and the value is
stored, under an identity the allocator picks, whether or not writing the cache
file raises afterwards. -/
inductive FetchOutcome (ν ο : Type*)
  | failed
  | unstorable (value : ν) (observation : Option ο)
  | stored (value : ν) (observation : Option ο) (expiresAt : ℚ) (ident : ℕ) (fileRaises : Bool)

/-- What can happen next. `first` and `second` are the two readings of the clock a
call makes when its entry is fresh; a task reads it when it starts. -/
inductive CallAction (κ ν ο : Type*)
  | call (key : κ) (bind : Bool) (first second : ℚ)
  | start (task : ℕ) (now : ℚ)
  | cancel (task : ℕ)
  | endFetch (number : ℕ) (outcome : FetchOutcome ν ο)
  | callback (task : ℕ)
  | resume (waiter : Waiter)
  | abandon (waiter : Waiter)

namespace SharedCache

/-- `_inflight` may hold 128 tasks. -/
def inflightBudget : ℕ := 128

/-- The coroutine returns `result` or raises: a call hands it to its caller, a task
is done and its callback is scheduled. -/
def settle (s : SharedCache κ ν ο) (owner : Option ℕ)
    (result : Option (LocalCacheFetchResult ν ο)) : SharedCache κ ν ο :=
  match owner with
  | none => { s with served := result.toList ++ s.served }
  | some t =>
    { s with
      tasks := s.tasks.update (fun task => task.number = t)
        (fun task => { task with state := .done result }) fun _ => rfl
      scheduled := t :: s.scheduled }

/-- The coroutine suspends in `await fetch()`. -/
def await (s : SharedCache κ ν ο) (key : κ) (bind : Bool) (owner : Option ℕ) (now : ℚ)
    (kind : DeliveryKind) : SharedCache κ ν ο :=
  { s with
    fetches := s.fetches.put ⟨s.nextFetch, key, owner, bind, now, kind⟩
    nextFetch := s.nextFetch + 1
    tasks := s.tasks.update (fun task => owner = some task.number)
      (fun task => { task with state := .fetching }) fun _ => rfl }

theorem mem_settle {s : SharedCache κ ν ο} {t : ℕ} {result : Option (LocalCacheFetchResult ν ο)}
    {task : FetchTask κ ν ο} : task ∈ (s.settle (some t) result).tasks.rows ↔
      ∃ old ∈ s.tasks.rows,
        (if old.number = t then { old with state := .done result } else old) = task :=
  List.mem_map

theorem mem_await {s : SharedCache κ ν ο} {key : κ} {bind : Bool} {owner : Option ℕ} {now : ℚ}
    {kind : DeliveryKind} {task : FetchTask κ ν ο} :
    task ∈ (s.await key bind owner now kind).tasks.rows ↔
      ∃ old ∈ s.tasks.rows,
        (if owner = some old.number then { old with state := .fetching } else old) = task :=
  List.mem_map

variable [DecidableEq κ]

def fetchWithLocalDelivery (s : SharedCache κ ν ο) (key : κ) (bind : Bool) (owner : Option ℕ)
    (now : ℚ) : SharedCache κ ν ο :=
  if s.enabled then
    match s.store.lookup key now with
    | (store, .served result) => { s with store }.settle owner (some result)
    | (store, .refetch kind) => { s with store }.await key bind owner now kind
  else s.await key bind owner now .notApplicable

def getOrFetchWithLocalDelivery (s : SharedCache κ ν ο) (key : κ) (bind : Bool)
    (first second : ℚ) : SharedCache κ ν ο :=
  if s.enabled = false ∨ s.store.fresh key first = true then
    s.fetchWithLocalDelivery key bind none second
  else
    match s.inflight.fetch key with
    | some mark => { s with waiters := ⟨mark.task, true⟩ :: s.waiters }
    | none =>
      -- a call beyond the budget raises
      if inflightBudget ≤ s.inflight.rows.length then s
      else
        { s with
          tasks := s.tasks.put ⟨s.nextTask, key, bind, .created⟩
          inflight := s.inflight.put ⟨key, s.nextTask⟩
          nextTask := s.nextTask + 1
          waiters := ⟨s.nextTask, false⟩ :: s.waiters }

/-- The rest of `_fetch_with_local_delivery`, for the fetch `f`. -/
def finishFetch (s : SharedCache κ ν ο) (f : RunningFetch κ) (outcome : FetchOutcome ν ο) :
    SharedCache κ ν ο :=
  let s := { s with fetches := s.fetches.remove f.number }
  let upstream := fun observation : Option ο =>
    if f.bind then observation.map (UpstreamObservation.mk f.number) else none
  match outcome with
  | .failed => s.settle f.owner none
  | .unstorable value observation =>
    let s := { s with returned := s.returned.put ⟨f.number, value, observation⟩ }
    if s.enabled then
      { s with store := s.store.forgetEntryCapture (s.store.entries.fetch f.key) }.settle
        f.owner none
    else s.settle f.owner none
  | .stored value observation expiresAt ident fileRaises =>
    let s := { s with returned := s.returned.put ⟨f.number, value, observation⟩ }
    let result : LocalCacheFetchResult ν ο :=
      { value
        source := some f.number
        deliveryKind := f.deliveryKind
        bookkeepingCreatedAt := if s.enabled then some f.createdAt else none
        expiresAt := if s.enabled then some expiresAt else none
        retainedUpstream := upstream observation
        fileLoadedEntry := false }
    if s.enabled then
      let entry := ⟨f.key, ident, some f.createdAt, expiresAt, value, some f.number⟩
      { s with store := s.store.write entry (upstream observation) }.settle f.owner
        (if fileRaises then none else some result)
    else s.settle f.owner (some result)

/-- The new entry's identity is not that of a stored one. -/
def allocatable (s : SharedCache κ ν ο) : FetchOutcome ν ο → Bool
  | .stored _ _ _ ident _ => decide (ident ∉ s.store.entries.rows.map LocalEntry.ident)
  | _ => true

/-- `done(completed)`: the mark is popped if it is this task. -/
def runCallback (s : SharedCache κ ν ο) (task : FetchTask κ ν ο) : SharedCache κ ν ο :=
  let s := { s with scheduled := s.scheduled.filter (· ≠ task.number) }
  match s.inflight.fetch task.key with
  | some mark =>
    if mark.task = task.number then { s with inflight := s.inflight.remove task.key } else s
  | none => s

/-- A waiting call goes on after its task is done. -/
def resumeWaiter (s : SharedCache κ ν ο) (waiter : Waiter) : SharedCache κ ν ο :=
  match s.tasks.fetch waiter.task with
  | some ⟨_, _, _, .done result⟩ =>
    let s := { s with waiters := s.waiters.erase waiter }
    match result with
    | none => s
    | some result =>
      if waiter.shared then
        { s with
          store := { s.store with hits := s.store.hits + 1 }
          served := { result with deliveryKind := .hit } :: s.served }
      else { s with served := result :: s.served }
  | _ => s

/-- One step of the loop. An action that is not possible changes nothing. -/
def step (s : SharedCache κ ν ο) : CallAction κ ν ο → SharedCache κ ν ο
  | .call key bind first second => s.getOrFetchWithLocalDelivery key bind first second
  | .start t now =>
    match s.tasks.fetch t with
    | some ⟨_, key, bind, .created⟩ => s.fetchWithLocalDelivery key bind (some t) now
    | _ => s
  | .cancel t =>
    match s.tasks.fetch t with
    | some ⟨_, _, _, .created⟩ => s.settle (some t) none
    | _ => s
  | .endFetch number outcome =>
    match s.fetches.fetch number with
    | some f => if s.allocatable outcome then s.finishFetch f outcome else s
    | none => s
  | .callback t =>
    if t ∈ s.scheduled then
      match s.tasks.fetch t with
      | some task => s.runCallback task
      | none => s
    else s
  | .resume waiter => if waiter ∈ s.waiters then s.resumeWaiter waiter else s
  | .abandon waiter => { s with waiters := s.waiters.erase waiter }

/-- What an action can do to the state, with what made it possible. -/
inductive Move (s : SharedCache κ ν ο) : CallAction κ ν ο → SharedCache κ ν ο → Prop
  | idle {a : CallAction κ ν ο} : Move s a s
  | call (key : κ) (bind : Bool) (first second : ℚ) :
    Move s (.call key bind first second) (s.getOrFetchWithLocalDelivery key bind first second)
  | start (task : FetchTask κ ν ο) (htask : task ∈ s.tasks.rows) (hstate : task.state = .created)
    (now : ℚ) : Move s (.start task.number now)
      (s.fetchWithLocalDelivery task.key task.bind (some task.number) now)
  | cancel (task : FetchTask κ ν ο) (htask : task ∈ s.tasks.rows)
    (hstate : task.state = .created) : Move s (.cancel task.number)
      (s.settle (some task.number) none)
  | endFetch (f : RunningFetch κ) (hf : f ∈ s.fetches.rows) (outcome : FetchOutcome ν ο)
    (hident : s.allocatable outcome = true) :
    Move s (.endFetch f.number outcome) (s.finishFetch f outcome)
  | callback (task : FetchTask κ ν ο) (htask : task ∈ s.tasks.rows)
    (hscheduled : task.number ∈ s.scheduled) : Move s (.callback task.number) (s.runCallback task)
  | wait {a : CallAction κ ν ο} (waiters : List Waiter) : Move s a { s with waiters }
  | resume {a : CallAction κ ν ο} (task : FetchTask κ ν ο) (htask : task ∈ s.tasks.rows)
    (result : LocalCacheFetchResult ν ο) (hstate : task.state = .done (some result))
    (kind : DeliveryKind) (hits : ℕ) (waiters : List Waiter) :
    Move s a { s with
      store := { s.store with hits }
      waiters
      served := { result with deliveryKind := kind } :: s.served }

theorem resumeWaiter_move (s : SharedCache κ ν ο) (waiter : Waiter) (a : CallAction κ ν ο) :
    s.Move a (s.resumeWaiter waiter) := by
  unfold resumeWaiter
  split
  · next number key bind result htask =>
    have hmem := Table.mem_of_fetch htask
    cases result with
    | none => exact .wait _
    | some result =>
      dsimp only
      split
      · exact .resume _ hmem result rfl .hit _ _
      · exact .resume _ hmem result rfl result.deliveryKind _ _
  · exact .idle

theorem step_move (s : SharedCache κ ν ο) (a : CallAction κ ν ο) : s.Move a (s.step a) := by
  cases a with
  | call key bind first second => exact .call key bind first second
  | start t now =>
    simp only [step]
    split
    · next number key bind htask =>
      obtain rfl := Table.key_of_fetch htask
      exact .start ⟨number, key, bind, .created⟩ (Table.mem_of_fetch htask) rfl now
    · exact .idle
  | cancel t =>
    simp only [step]
    split
    · next number key bind htask =>
      obtain rfl := Table.key_of_fetch htask
      exact .cancel ⟨number, key, bind, .created⟩ (Table.mem_of_fetch htask) rfl
    · exact .idle
  | endFetch number outcome =>
    simp only [step]
    split
    · next f hf =>
      obtain rfl := Table.key_of_fetch hf
      split
      · next hident => exact .endFetch f (Table.mem_of_fetch hf) outcome hident
      · exact .idle
    · exact .idle
  | callback t =>
    simp only [step]
    split
    · next hscheduled =>
      split
      · next task htask =>
        obtain rfl := Table.key_of_fetch htask
        exact .callback task (Table.mem_of_fetch htask) hscheduled
      · exact .idle
    · exact .idle
  | resume waiter =>
    simp only [step]
    split
    · exact s.resumeWaiter_move waiter _
    · exact .idle
  | abandon waiter => exact .wait _

abbrev run (s : SharedCache κ ν ο) (acts : List (CallAction κ ν ο)) : SharedCache κ ν ο :=
  Transition.run step s acts

end SharedCache

/-- What the constructor and the cache file give: a positive budget and entries that
are distinct objects. -/
structure CacheOpening (κ ν : Type*) where
  enabled : Bool
  maxEntries : ℕ
  positive : 0 < maxEntries
  loaded : Table (LocalEntry κ ν) LocalEntry.key
  distinct : (loaded.rows.map LocalEntry.ident).Nodup

/-- `__init__` with `_load_file`. -/
def CacheOpening.cache (c : CacheOpening κ ν) (ο : Type*) : SharedCache κ ν ο :=
  let entries := c.loaded.keepLast c.maxEntries
  { enabled := c.enabled
    store :=
      { maxEntries := c.maxEntries
        entries
        captureByEntryId := fun _ => none
        fileLoadedEntryIds := entries.rows.map LocalEntry.ident
        hits := 0
        misses := 0
        expired := 0
        writes := 0 }
    inflight := .empty
    tasks := .empty
    fetches := .empty
    nextTask := 0
    nextFetch := 0
    scheduled := []
    waiters := []
    returned := .empty
    served := [] }

/-! ## Marks of tasks that have ended -/

/-- The task has returned, raised or been cancelled. -/
def FetchTask.Ended (task : FetchTask κ ν ο) : Prop :=
  ∃ result, task.state = .done result

namespace SharedCache

/-- What holds of the marks, whatever the clock does. -/
structure Marks (s : SharedCache κ ν ο) : Prop where
  numbered : ∀ task ∈ s.tasks.rows, task.number < s.nextTask
  counted : ∀ f ∈ s.fetches.rows, f.number < s.nextFetch
  marked : ∀ m ∈ s.inflight.rows, ∃ task ∈ s.tasks.rows, task.number = m.task ∧ task.key = m.key ∧
    (task.Ended → m.task ∈ s.scheduled)
  awaited : ∀ task ∈ s.tasks.rows, task.state = .fetching →
    ∃ f ∈ s.fetches.rows, f.owner = some task.number

variable {s : SharedCache κ ν ο}

/-- A task becomes done, and with it leaves the tasks that await a fetch. -/
theorem Marks.settle_task {t : ℕ} {result : Option (LocalCacheFetchResult ν ο)}
    (hnumbered : ∀ task ∈ s.tasks.rows, task.number < s.nextTask)
    (hcounted : ∀ f ∈ s.fetches.rows, f.number < s.nextFetch)
    (hmarked : ∀ m ∈ s.inflight.rows, ∃ task ∈ s.tasks.rows, task.number = m.task ∧
      task.key = m.key ∧ (task.Ended → m.task ∈ s.scheduled))
    (hawaited : ∀ task ∈ s.tasks.rows, task.state = .fetching → task.number ≠ t →
      ∃ f ∈ s.fetches.rows, f.owner = some task.number) :
    (s.settle (some t) result).Marks where
  numbered := by
    intro task htask
    obtain ⟨old, hold, rfl⟩ := mem_settle.1 htask
    have := hnumbered old hold
    split <;> exact this
  counted := hcounted
  marked := by
    intro m hm
    obtain ⟨task, htask, hnumber, hkey, hended⟩ := hmarked m hm
    refine ⟨_, mem_settle.2 ⟨task, htask, rfl⟩, ?_⟩
    split
    · next ht =>
      exact ⟨hnumber, hkey, fun _ => List.mem_cons.2 (.inl (hnumber.symm.trans ht))⟩
    · exact ⟨hnumber, hkey, fun h => List.mem_cons_of_mem t (hended h)⟩
  awaited := by
    intro task htask hstate
    obtain ⟨old, hold, rfl⟩ := mem_settle.1 htask
    split at hstate
    · cases hstate
    · next hne =>
      rw [if_neg hne]
      exact hawaited old hold hstate hne

theorem Marks.settle (h : s.Marks) (owner : Option ℕ)
    (result : Option (LocalCacheFetchResult ν ο)) : (s.settle owner result).Marks := by
  cases owner with
  | none => exact { h with }
  | some t =>
    exact .settle_task h.numbered h.counted h.marked fun task htask hstate _ =>
      h.awaited task htask hstate

theorem Marks.await (h : s.Marks) (key : κ) (bind : Bool)
    (owner : Option ℕ) (now : ℚ) (kind : DeliveryKind) :
    (s.await key bind owner now kind).Marks where
  numbered := by
    intro task htask
    obtain ⟨old, hold, rfl⟩ := mem_await.1 htask
    have := h.numbered old hold
    split <;> exact this
  counted := by
    intro f hf
    rcases Table.mem_put hf with rfl | hf
    · exact Nat.lt_succ_self _
    · exact Nat.lt_succ_of_lt (h.counted f hf)
  marked := by
    intro m hm
    obtain ⟨task, htask, hnumber, hkey, hended⟩ := h.marked m hm
    refine ⟨_, mem_await.2 ⟨task, htask, rfl⟩, ?_⟩
    split
    · refine ⟨hnumber, hkey, ?_⟩
      rintro ⟨result, hresult⟩
      cases hresult
    · exact ⟨hnumber, hkey, hended⟩
  awaited := by
    intro task htask hstate
    obtain ⟨old, hold, rfl⟩ := mem_await.1 htask
    by_cases howner : owner = some old.number
    · rw [if_pos howner]
      exact ⟨_, Table.mem_put_self _ _, howner⟩
    · rw [if_neg howner] at hstate ⊢
      obtain ⟨f, hf, hfowner⟩ := h.awaited old hold hstate
      -- the number of the new fetch is larger than those of the others
      exact ⟨f, Table.mem_put_of_ne hf (h.counted f hf).ne', hfowner⟩

theorem Marks.withStore (h : s.Marks) (store : EntryStore κ ν ο) : { s with store }.Marks :=
  { h with }

theorem Marks.finish (h : s.Marks) {f : RunningFetch κ}
    (hf : f ∈ s.fetches.rows) (store : EntryStore κ ν ο) (returned : Table (Returned ν ο) _)
    (result : Option (LocalCacheFetchResult ν ο)) :
    ({ s with fetches := s.fetches.remove f.number, store, returned }.settle f.owner
      result).Marks := by
  have hcounted : ∀ g ∈ (s.fetches.remove f.number).rows, g.number < s.nextFetch := fun g hg =>
    h.counted g (Table.mem_of_mem_remove hg)
  -- a task that awaits another fetch still does
  have hawaited : ∀ task ∈ s.tasks.rows, task.state = .fetching → f.owner ≠ some task.number →
      ∃ g ∈ (s.fetches.remove f.number).rows, g.owner = some task.number := by
    intro task htask hstate hne
    obtain ⟨g, hg, howner⟩ := h.awaited task htask hstate
    refine ⟨g, List.mem_filter.2 ⟨hg, decide_eq_true fun hnumber => ?_⟩, howner⟩
    rw [List.inj_on_of_nodup_map s.fetches.nodup hg hf hnumber] at howner
    exact hne howner
  cases howner : f.owner with
  | none =>
    exact ⟨h.numbered, hcounted, h.marked, fun task htask hstate =>
      hawaited task htask hstate (by simp [howner])⟩
  | some t =>
    refine .settle_task h.numbered hcounted h.marked fun task htask hstate hne => ?_
    exact hawaited task htask hstate fun ht => hne (Option.some.inj (howner ▸ ht)).symm

variable [DecidableEq κ]

theorem Marks.fetchWithLocalDelivery (h : s.Marks) (key : κ) (bind : Bool)
    (owner : Option ℕ) (now : ℚ) : (s.fetchWithLocalDelivery key bind owner now).Marks := by
  unfold SharedCache.fetchWithLocalDelivery
  split
  · split
    · next store _ _ => exact (h.withStore store).settle owner _
    · next store _ _ => exact (h.withStore store).await key bind owner now _
  · exact h.await key bind owner now _

theorem Marks.getOrFetch (h : s.Marks) (key : κ) (bind : Bool)
    (first second : ℚ) : (s.getOrFetchWithLocalDelivery key bind first second).Marks := by
  unfold getOrFetchWithLocalDelivery
  split
  · exact h.fetchWithLocalDelivery key bind none second
  split
  · exact { h with }
  split
  · exact h
  have hkeep : ∀ task ∈ s.tasks.rows,
      task ∈ (s.tasks.put ⟨s.nextTask, key, bind, .created⟩).rows := fun task htask =>
    Table.mem_put_of_ne htask (h.numbered task htask).ne'
  constructor
  case numbered =>
    intro task htask
    rcases Table.mem_put htask with rfl | htask
    · exact Nat.lt_succ_self _
    · exact Nat.lt_succ_of_lt (h.numbered task htask)
  case counted => exact h.counted
  case marked =>
    intro m hm
    rcases Table.mem_put hm with rfl | hm
    · refine ⟨⟨s.nextTask, key, bind, .created⟩, Table.mem_put_self _ _, rfl, rfl, ?_⟩
      rintro ⟨result, hresult⟩
      cases hresult
    · obtain ⟨task, htask, hm⟩ := h.marked m hm
      exact ⟨task, hkeep task htask, hm⟩
  case awaited =>
    intro task htask hstate
    rcases Table.mem_put htask with rfl | htask
    · cases hstate
    · exact h.awaited task htask hstate

theorem finishFetch_eq (s : SharedCache κ ν ο) (f : RunningFetch κ) (outcome : FetchOutcome ν ο) :
    ∃ store returned result, s.finishFetch f outcome =
      { s with fetches := s.fetches.remove f.number, store, returned }.settle f.owner result := by
  unfold finishFetch
  cases outcome with
  | failed => exact ⟨_, _, _, rfl⟩
  | unstorable value observation => dsimp only; split <;> exact ⟨_, _, _, rfl⟩
  | stored value observation expiresAt ident fileRaises =>
    dsimp only; split <;> exact ⟨_, _, _, rfl⟩

theorem Marks.runCallback (h : s.Marks) {task : FetchTask κ ν ο}
    (htask : task ∈ s.tasks.rows) : (s.runCallback task).Marks := by
  -- marks of other tasks stay as they are
  have hother : ∀ m ∈ s.inflight.rows, m.task ≠ task.number → ∃ task' ∈ s.tasks.rows,
      task'.number = m.task ∧ task'.key = m.key ∧
        (task'.Ended → m.task ∈ s.scheduled.filter (· ≠ task.number)) := by
    intro m hm hne
    obtain ⟨task', htask', hnumber, hkey, hended⟩ := h.marked m hm
    exact ⟨task', htask', hnumber, hkey, fun he =>
      List.mem_filter.2 ⟨hended he, decide_eq_true hne⟩⟩
  -- the mark of this task is under its own key
  have hown : ∀ m ∈ s.inflight.rows, m.task = task.number → m.key = task.key := by
    intro m hm hnumber
    obtain ⟨task', htask', hnumber', hkey, _⟩ := h.marked m hm
    rw [← hkey, List.inj_on_of_nodup_map s.tasks.nodup htask' htask (hnumber'.trans hnumber)]
  unfold SharedCache.runCallback
  dsimp only
  split
  · next mark hmark =>
    split
    · refine ⟨h.numbered, h.counted, fun m hm => ?_, h.awaited⟩
      obtain ⟨hm, hkey⟩ := List.mem_filter.1 hm
      exact hother m hm fun hnumber => of_decide_eq_true hkey (hown m hm hnumber)
    · next hne =>
      refine ⟨h.numbered, h.counted, fun m hm => hother m hm fun hnumber => hne ?_, h.awaited⟩
      have hsame := Table.fetch_of_mem hm
      rw [hown m hm hnumber, hmark] at hsame
      rw [Option.some.inj hsame, hnumber]
  · next hnone =>
    refine ⟨h.numbered, h.counted, fun m hm => hother m hm fun hnumber => ?_, h.awaited⟩
    have hsame := Table.fetch_of_mem hm
    rw [hown m hm hnumber, hnone] at hsame
    cases hsame

theorem Marks.move {s s' : SharedCache κ ν ο} {a : CallAction κ ν ο} (h : s.Marks)
    (hmove : s.Move a s') : s'.Marks := by
  cases hmove with
  | idle => exact h
  | call key bind first second => exact h.getOrFetch key bind first second
  | start task htask hstate now => exact h.fetchWithLocalDelivery _ _ _ now
  | cancel task htask hstate => exact h.settle _ _
  | endFetch f hf outcome hident =>
    obtain ⟨store, returned, result, heq⟩ := s.finishFetch_eq f outcome
    rw [heq]
    exact h.finish hf store returned result
  | callback task htask hscheduled => exact h.runCallback htask
  | wait | resume => exact { h with }

omit [DecidableEq κ] in
theorem marks_cache (c : CacheOpening κ ν) : (c.cache ο).Marks :=
  ⟨nofun, nofun, nofun, nofun⟩

/-- In every run, a mark belongs to a task that has not ended or whose callback is
scheduled. -/
theorem marks_run (c : CacheOpening κ ν) (acts : List (CallAction κ ν ο)) :
    ((c.cache ο).run acts).Marks :=
  Transition.run_invariant step (fun s a h => h.move (s.step_move a)) (marks_cache c) acts

theorem Marks.callback_clears (h : s.Marks) {m : InflightMark κ}
    (hm : m ∈ s.inflight.rows) (hscheduled : m.task ∈ s.scheduled) :
    (s.step (.callback m.task)).inflight.fetch m.key = none := by
  obtain ⟨task, htask, hnumber, hkey, _⟩ := h.marked m hm
  have hfetch : s.tasks.fetch m.task = some task := hnumber ▸ Table.fetch_of_mem htask
  have hmark : s.inflight.fetch task.key = some m := hkey ▸ Table.fetch_of_mem hm
  simp only [SharedCache.step, if_pos hscheduled, hfetch, SharedCache.runCallback, hmark,
    if_pos hnumber.symm]
  rw [Table.fetch_remove, if_pos hkey.symm]

end SharedCache

end Model

end CandleCraft.MarketData
