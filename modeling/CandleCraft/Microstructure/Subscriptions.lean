import CandleCraft.Kernel.Table
import CandleCraft.Kernel.Transition
import Mathlib.Data.Finset.Filter
import Mathlib.Data.Finset.Lattice.Basic
import Mathlib.Data.Finset.SDiff

/-!
# Acknowledged subscriptions

`StreamEvidence` keeps the requests that are not acknowledged, the last request of every symbol, and
the symbols whose subscription was acknowledged. An acknowledgement counts for the symbols whose
last request it answers.

The exchange applies the requests of a connection in order and acknowledges a request after it has
applied it, each at most once. A reset drops the subscriptions and the requests under way.
-/

namespace CandleCraft.Microstructure.Subscription

open Relational Transition

inductive Method where
  | subscribe
  | unsubscribe
  deriving DecidableEq

/-- An entry of `pending`. -/
structure Request where
  id : ℤ
  method : Method
  symbols : Finset String
  deriving DecidableEq

/-- What `is_subscription_ack` looks at in a decoded message. -/
structure ControlPayload where
  /-- The field `id`, if it is an integer. -/
  id : Option ℤ
  /-- There is a field `result`, and it is null. -/
  nullResult : Bool
  hasCode : Bool
  hasError : Bool

/-- `is_subscription_ack`; the payload is absent when the message is not a JSON object. -/
def isSubscriptionAck (payload : Option ControlPayload) (requestId : ℤ) : Bool :=
  match payload with
  | none => false
  | some p => decide (p.id = some requestId) && p.nullResult && !p.hasCode && !p.hasError

/-- The fields of `StreamEvidence` for the subscriptions. -/
structure Tracker where
  pending : Table Request Request.id
  subscriptionVersions : String → Option ℤ
  acknowledged : Finset String
  ackCount : ℕ
  requestCount : ℕ

namespace Tracker

/-- `__init__`. -/
def initial : Tracker := ⟨Table.empty, fun _ => none, ∅, 0, 0⟩

def reset (t : Tracker) : Tracker :=
  { t with pending := Table.empty, subscriptionVersions := fun _ => none, acknowledged := ∅ }

def requested (t : Tracker) (requestId : ℤ) (method : Method) (symbols : List String) : Tracker :=
  let pending := if 128 ≤ t.pending.rows.length then t.pending.keepLast (t.pending.rows.length - 1)
    else t.pending
  { t with
    pending := pending.put ⟨requestId, method, symbols.toFinset⟩
    subscriptionVersions := fun s =>
      if s ∈ symbols then some requestId else t.subscriptionVersions s
    requestCount := t.requestCount + 1 }

def control (t : Tracker) (payload : Option ControlPayload) : Tracker :=
  match t.pending.rows.find? fun r => isSubscriptionAck payload r.id with
  | none => t
  | some r =>
    let symbols := r.symbols.filter fun s => t.subscriptionVersions s = some r.id
    { t with
      pending := t.pending.remove r.id
      acknowledged :=
        match r.method with
        | .subscribe => t.acknowledged ∪ symbols
        | .unsubscribe => t.acknowledged \ symbols
      ackCount := t.ackCount + 1 }

def retain (t : Tracker) (desired : List String) : Tracker :=
  { t with
    subscriptionVersions := fun s => if s ∈ desired then t.subscriptionVersions s else none
    acknowledged := t.acknowledged.filter fun s => s ∈ desired }

end Tracker

def Request.apply (r : Request) (subscribed : Finset String) : Finset String :=
  match r.method with
  | .subscribe => subscribed ∪ r.symbols
  | .unsubscribe => subscribed \ r.symbols

/-- The evidence and the exchange: the requests under way, the applied requests that the exchange has
not acknowledged, and the subscriptions. -/
structure Link where
  tracker : Tracker
  inFlight : List Request
  applied : List ℤ
  subscribed : Finset String

inductive LinkAction where
  | request (requestId : ℤ) (method : Method) (symbols : List String)
  | apply
  | control (payload : Option ControlPayload)
  | reset
  | retain (desired : List String)

namespace Link

/-- Nothing has happened yet. -/
def initial : Link := ⟨.initial, [], [], ∅⟩

def step (l : Link) : LinkAction → Link
  | .request requestId method symbols =>
    { l with
      tracker := l.tracker.requested requestId method symbols
      inFlight := l.inFlight ++ [⟨requestId, method, symbols.toFinset⟩] }
  | .apply =>
    match l.inFlight with
    | [] => l
    | r :: rest =>
      { l with inFlight := rest, applied := r.id :: l.applied, subscribed := r.apply l.subscribed }
  | .control payload =>
    { l with
      tracker := l.tracker.control payload
      applied := l.applied.filter fun requestId => !isSubscriptionAck payload requestId }
  | .reset => { l with tracker := l.tracker.reset, inFlight := [], subscribed := ∅ }
  | .retain desired => { l with tracker := l.tracker.retain desired }

/-- The identifier of a request is new, and fewer than 128 requests are pending. An acknowledgement
is for a request that the exchange has applied and not acknowledged. -/
def Permitted (l : Link) : LinkAction → Prop
  | .request requestId _ _ => l.tracker.pending.rows.length < 128 ∧
      requestId ∉ l.tracker.pending.rows.map Request.id ∧ requestId ∉ l.applied
  | .control payload => ∀ requestId, isSubscriptionAck payload requestId = true →
      requestId ∈ l.applied
  | _ => True

/-- The subscriptions after the requests under way are applied. -/
def eventually (l : Link) : Finset String :=
  l.inFlight.foldl (fun subscribed r => r.apply subscribed) l.subscribed

/-- The last request of a symbol decides about it, and an acknowledged symbol is one whose last
request was a `SUBSCRIBE` unless an `UNSUBSCRIBE` is pending. -/
structure Sound (l : Link) : Prop where
  flight_nodup : (l.inFlight.map Request.id).Nodup
  flight_pending : ∀ r ∈ l.inFlight, r ∈ l.tracker.pending.rows
  flight_unapplied : ∀ r ∈ l.inFlight, r.id ∉ l.applied
  promised : ∀ r ∈ l.tracker.pending.rows, ∀ s ∈ r.symbols,
    l.tracker.subscriptionVersions s = some r.id → r.method = .subscribe → s ∈ l.eventually
  kept : ∀ s ∈ l.tracker.acknowledged, s ∈ l.eventually ∨ ∃ r ∈ l.tracker.pending.rows,
    s ∈ r.symbols ∧ l.tracker.subscriptionVersions s = some r.id ∧ r.method = .unsubscribe

variable {l : Link}

theorem mem_apply_of_notMem {r : Request} {s : String} (h : s ∉ r.symbols)
    (subscribed : Finset String) : s ∈ r.apply subscribed ↔ s ∈ subscribed := by
  unfold Request.apply
  split
  · simp [h]
  · simp [h]

theorem eventually_request (l : Link) (requestId : ℤ) (method : Method) (symbols : List String) :
    (l.step (.request requestId method symbols)).eventually =
      Request.apply ⟨requestId, method, symbols.toFinset⟩ l.eventually := by
  rw [eventually, step, List.foldl_append]
  rfl

theorem eventually_apply (l : Link) : (l.step .apply).eventually = l.eventually := by
  rw [step]
  split
  · rfl
  · next r rest hflight => rw [eventually, eventually, hflight, List.foldl_cons]

theorem pending_request {requestId : ℤ} {method : Method} {symbols : List String}
    (h : l.Permitted (.request requestId method symbols)) :
    (l.step (.request requestId method symbols)).tracker.pending =
      l.tracker.pending.put ⟨requestId, method, symbols.toFinset⟩ := by
  rw [step, Tracker.requested]
  rw [if_neg (not_le.2 h.1)]

theorem Sound.request {requestId : ℤ} {method : Method} {symbols : List String} (hl : l.Sound)
    (h : l.Permitted (.request requestId method symbols)) :
    (l.step (.request requestId method symbols)).Sound := by
  set new : Request := ⟨requestId, method, symbols.toFinset⟩ with hnew
  have hfresh : ∀ r ∈ l.tracker.pending.rows, r.id ≠ requestId := fun r hr hid =>
    h.2.1 (List.mem_map.2 ⟨r, hr, hid⟩)
  have hold : ∀ r ∈ l.tracker.pending.rows, r ∈ (l.tracker.pending.put new).rows :=
    fun r hr => Table.mem_put_of_ne hr (hfresh r hr).symm
  have hsymbols : ∀ s, s ∈ new.symbols ↔ s ∈ symbols := fun s => List.mem_toFinset
  refine ⟨?_, fun r hr => ?_, fun r hr => ?_, fun r hr s hs hversion hmethod => ?_, fun s hs => ?_⟩
  · change ((l.inFlight ++ [new]).map Request.id).Nodup
    rw [List.map_append, List.nodup_append]
    refine ⟨hl.flight_nodup, List.nodup_singleton _, fun a ha b hb hab => ?_⟩
    obtain ⟨r, hr, rfl⟩ := List.mem_map.1 ha
    exact hfresh r (hl.flight_pending r hr) (hab.trans (List.mem_singleton.1 hb))
  · rw [pending_request h]
    rcases List.mem_append.1 hr with hr | hr
    · exact hold r (hl.flight_pending r hr)
    · rw [List.mem_singleton.1 hr]
      exact Table.mem_put_self _ _
  · rcases List.mem_append.1 hr with hr | hr
    · exact hl.flight_unapplied r hr
    · rw [List.mem_singleton.1 hr]
      exact h.2.2
  · rw [pending_request h] at hr
    rw [eventually_request]
    change (if s ∈ symbols then some requestId else l.tracker.subscriptionVersions s) = _ at hversion
    by_cases hmem : s ∈ symbols
    · rw [if_pos hmem] at hversion
      rcases Table.mem_put hr with rfl | hr
      -- the new request is the latest for its symbols; for the others nothing changes
      · rw [Request.apply, hmethod]
        exact Finset.mem_union_right _ hs
      · exact absurd (Option.some.inj hversion).symm (hfresh r hr)
    · rw [if_neg hmem] at hversion
      rw [mem_apply_of_notMem fun hs => hmem ((hsymbols s).1 hs)]
      rcases Table.mem_put hr with rfl | hr
      · exact absurd ((hsymbols s).1 hs) hmem
      · exact hl.promised r hr s hs hversion hmethod
  · rw [pending_request h, eventually_request]
    change s ∈ _ ∨ ∃ r ∈ (l.tracker.pending.put new).rows, s ∈ r.symbols ∧
      (if s ∈ symbols then some requestId else l.tracker.subscriptionVersions s) = some r.id ∧
        r.method = .unsubscribe
    by_cases hmem : s ∈ symbols
    · rw [if_pos hmem]
      cases method with
      | subscribe => exact .inl (Finset.mem_union_right _ ((hsymbols s).2 hmem))
      | unsubscribe => exact .inr ⟨new, Table.mem_put_self _ _, (hsymbols s).2 hmem, rfl, rfl⟩
    · rw [if_neg hmem, mem_apply_of_notMem fun hs => hmem ((hsymbols s).1 hs)]
      refine (hl.kept s hs).imp_right ?_
      rintro ⟨r, hr, hrest⟩
      exact ⟨r, hold r hr, hrest⟩

theorem Sound.apply (hl : l.Sound) : (l.step .apply).Sound := by
  have heventually := l.eventually_apply
  rw [step] at heventually ⊢
  split at heventually
  · exact hl
  · next r rest hflight =>
    have hnodup := hl.flight_nodup
    rw [hflight, List.map_cons, List.nodup_cons] at hnodup
    have hrest : ∀ a ∈ rest, a ∈ l.inFlight := fun a ha => by
      rw [hflight]
      exact List.mem_cons_of_mem _ ha
    refine ⟨hnodup.2, fun a ha => hl.flight_pending a (hrest a ha), fun a ha hmem => ?_, ?_, ?_⟩
    · rcases List.mem_cons.1 hmem with hid | hmem
      · exact hnodup.1 (List.mem_map.2 ⟨a, ha, hid⟩)
      · exact hl.flight_unapplied a (hrest a ha) hmem
    · rw [heventually]
      exact hl.promised
    · rw [heventually]
      exact hl.kept

theorem Sound.control {payload : Option ControlPayload} (hl : l.Sound)
    (h : l.Permitted (.control payload)) : (l.step (.control payload)).Sound := by
  have hunapplied : ∀ r ∈ l.inFlight,
      r.id ∉ l.applied.filter fun requestId => !isSubscriptionAck payload requestId :=
    fun r hr hmem => hl.flight_unapplied r hr (List.mem_filter.1 hmem).1
  rw [step, Tracker.control]
  split
  · exact { hl with flight_unapplied := hunapplied }
  · next r hfind =>
    have hr := List.mem_of_find?_eq_some hfind
    have hack : isSubscriptionAck payload r.id = true := (List.find?_some hfind :)
    have happlied : r.id ∈ l.applied := h r.id hack
    -- Identifiers are distinct, so only the acknowledged request leaves.
    have hstays : ∀ a ∈ l.tracker.pending.rows, a ≠ r → a ∈ (l.tracker.pending.remove r.id).rows := by
      refine fun a ha hne => List.mem_filter.2 ⟨ha, decide_eq_true fun hid => hne ?_⟩
      exact List.inj_on_of_nodup_map l.tracker.pending.nodup ha hr hid
    refine ⟨hl.flight_nodup, fun a ha => ?_, hunapplied, fun a ha => ?_, fun s hs => ?_⟩
    · refine hstays a (hl.flight_pending a ha) fun hne => hl.flight_unapplied a ha ?_
      rw [hne]
      exact happlied
    · exact hl.promised a (Table.mem_of_mem_remove ha)
    · have hother : s ∈ l.tracker.acknowledged →
          (s ∈ r.symbols.filter (fun s => l.tracker.subscriptionVersions s = some r.id) →
            r.method ≠ .unsubscribe) →
          s ∈ l.eventually ∨ ∃ a ∈ (l.tracker.pending.remove r.id).rows, s ∈ a.symbols ∧
            l.tracker.subscriptionVersions s = some a.id ∧ a.method = .unsubscribe := by
        intro hack hmethod
        refine (hl.kept s hack).imp_right ?_
        rintro ⟨a, ha, hmem, hversion, hunsubscribe⟩
        refine ⟨a, hstays a ha ?_, hmem, hversion, hunsubscribe⟩
        rintro rfl
        exact hmethod (Finset.mem_filter.2 ⟨hmem, hversion⟩) hunsubscribe
      cases hmethod : r.method with
      | subscribe =>
        simp only [hmethod, Finset.mem_union] at hs
        rcases hs with hs | hs
        · exact hother hs fun _ => by rw [hmethod]; simp
        · obtain ⟨hmem, hversion⟩ := Finset.mem_filter.1 hs
          exact .inl (hl.promised r hr s hmem hversion hmethod)
      | unsubscribe =>
        simp only [hmethod, Finset.mem_sdiff] at hs
        exact hother hs.1 fun hmem => absurd hmem hs.2

theorem Sound.reset (l : Link) : (l.step .reset).Sound where
  flight_nodup := List.nodup_nil
  flight_pending := fun _ hr => absurd hr List.not_mem_nil
  flight_unapplied := fun _ hr => absurd hr List.not_mem_nil
  promised := fun _ hr => absurd hr List.not_mem_nil
  kept := fun s hs => absurd hs (Finset.notMem_empty s)

theorem Sound.retain (hl : l.Sound) (desired : List String) : (l.step (.retain desired)).Sound := by
  refine { hl with promised := fun r hr s hs hversion => ?_, kept := fun s hs => ?_ }
  · change (if s ∈ desired then l.tracker.subscriptionVersions s else none) = _ at hversion
    by_cases hmem : s ∈ desired
    · rw [if_pos hmem] at hversion
      exact hl.promised r hr s hs hversion
    · rw [if_neg hmem] at hversion
      cases hversion
  · obtain ⟨hack, hmem⟩ := Finset.mem_filter.1 hs
    change s ∈ l.eventually ∨ ∃ r ∈ l.tracker.pending.rows, s ∈ r.symbols ∧
      (if s ∈ desired then l.tracker.subscriptionVersions s else none) = some r.id ∧ _
    rw [if_pos hmem]
    exact hl.kept s hack

theorem sound_step (l : Link) (a : LinkAction) (h : l.Permitted a) (hl : l.Sound) :
    (l.step a).Sound := by
  cases a with
  | request requestId method symbols => exact hl.request h
  | apply => exact hl.apply
  | control payload => exact hl.control h
  | reset => exact Sound.reset l
  | retain desired => exact hl.retain desired

theorem sound_initial : initial.Sound := Sound.reset initial

/-- Whenever no request is pending, every acknowledged symbol is subscribed at the exchange. -/
theorem acknowledged_symbols_are_subscribed {acts : List LinkAction}
    (h : Disciplined step Permitted initial acts)
    (hpending : (run step initial acts).tracker.pending.rows = []) :
    ∀ s ∈ (run step initial acts).tracker.acknowledged, s ∈ (run step initial acts).subscribed := by
  have hsound : (run step initial acts).Sound := h.invariant sound_step sound_initial
  have hflight : (run step initial acts).inFlight = [] := by
    refine List.eq_nil_iff_forall_not_mem.2 fun r hr => ?_
    have hmem := hsound.flight_pending r hr
    rw [hpending] at hmem
    exact List.not_mem_nil hmem
  intro s hs
  rcases hsound.kept s hs with hs | ⟨r, hr, -⟩
  · rw [eventually, hflight] at hs
    exact hs
  · rw [hpending] at hr
    exact absurd hr List.not_mem_nil

def sampleAck (requestId : ℤ) : Option ControlPayload := some ⟨some requestId, true, false, false⟩

/-- A symbol is dropped and added again; the acknowledgements come in the opposite order. -/
def sampleActions : List LinkAction :=
  [.request 1 .unsubscribe ["BTCUSDT"], .retain [], .request 2 .subscribe ["BTCUSDT"], .apply,
    .apply, .control (sampleAck 2), .control (sampleAck 1)]

theorem isSubscriptionAck_sampleAck {requestId other : ℤ}
    (h : isSubscriptionAck (sampleAck requestId) other = true) : other = requestId := by
  simpa [isSubscriptionAck, sampleAck, eq_comm] using h

theorem readded_symbol_is_subscribed :
    "BTCUSDT" ∈ (run step initial sampleActions).tracker.acknowledged ∧
      "BTCUSDT" ∈ (run step initial sampleActions).subscribed := by
  have hack : "BTCUSDT" ∈ (run step initial sampleActions).tracker.acknowledged := by decide +kernel
  refine ⟨hack, acknowledged_symbols_are_subscribed ?_ (by decide) _ hack⟩
  refine ⟨⟨by decide, by decide, by decide⟩, trivial, ⟨by decide, by decide, by decide⟩, trivial,
    trivial, fun requestId h => ?_, fun requestId h => ?_, trivial⟩
  · rw [isSubscriptionAck_sampleAck h]
    decide
  · rw [isSubscriptionAck_sampleAck h]
    decide

end Link

end CandleCraft.Microstructure.Subscription
