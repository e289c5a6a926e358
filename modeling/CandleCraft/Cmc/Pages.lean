import Mathlib.Algebra.BigOperators.Group.List.Basic
import Mathlib.Tactic.Linarith
import Mathlib.Tactic.Ring

/-!
# Paginated acquisition

`pages` asks the provider for one page after the other and marks the page that completes the family.
The loop counts the items as if all earlier pages were full, and compares the count with a total
only on the pages that declare one.
-/

namespace CandleCraft.Cmc

section Model

inductive Endpoint where
  | listings | map | historicalListings | exchanges | exchangePairs | cryptoPairs | liquidations
  | exchangeLiquidations | cryptoLiquidations | globalMetrics | fearGreed | altcoin | categories
  | category | keyInfo
  deriving DecidableEq

/-- The part of `Contract` that pagination depends on. -/
structure Contract where
  rowsKey : Option String := none
  paginated : Bool := false
  pageMax : ℤ := 100

def contract : Endpoint → Contract
  | .listings => { paginated := true, pageMax := 5000 }
  | .map => { paginated := true, pageMax := 5000 }
  | .historicalListings => { paginated := true, pageMax := 5000 }
  | .exchanges => ⟨"exchanges", true, 5000⟩
  | .exchangePairs => ⟨"market_pairs", true, 5000⟩
  | .cryptoPairs => ⟨"market_pairs", true, 5000⟩
  | .liquidations => {}
  | .exchangeLiquidations => ⟨"exchanges", true, 250⟩
  | .cryptoLiquidations => ⟨"cryptocurrencies", true, 250⟩
  | .globalMetrics => {}
  | .fearGreed => {}
  | .altcoin => {}
  | .categories => { paginated := true, pageMax := 5000 }
  | .category => ⟨"coins", true, 1000⟩
  | .keyInfo => {}

/-- A value of a response where a number or a flag is expected. -/
inductive Field where
  | missing
  | bool (value : Bool)
  | int (value : ℤ)
  | other
  deriving DecidableEq

/-- An item of a page; `ρ` is what is not looked at. -/
inductive Item (ρ : Type) where
  | object (id marketId : Field) (content : ρ)
  | other (content : ρ)

/-- The data of a response. The rows of an object are the list under the key of the contract. -/
inductive PageData (ρ : Type) where
  | list (items : List (Item ρ))
  | object (rows : Option (List (Item ρ))) (hasMore numMarketPairs : Field)
  | other

/-- What `get` returns for a page. -/
structure Fetch (ρ : Type) where
  data : PageData ρ
  error : Option String := none

/-- What `pages` makes of it. -/
structure Page (ρ : Type) extends Fetch ρ where
  paginationComplete : Option Bool := none

variable {ρ φ : Type}

def rows (endpoint : Endpoint) : PageData ρ → Option (List (Item ρ))
  | .list items => some items
  | .object rows _ _ => if (contract endpoint).rowsKey.isSome then rows else none
  | .other => none

def pageIdentity (endpoint : Endpoint) : Item ρ → Field
  | .object id marketId _ =>
    match endpoint with
    | .map => id
    | .exchangePairs => marketId
    | .cryptoPairs => marketId
    | _ => .missing
  | .other _ => .missing

def identityBearing (endpoint : Endpoint) : Bool :=
  endpoint = .map || endpoint = .exchangePairs || endpoint = .cryptoPairs

def Field.identity? : Field → Option ℤ
  | .int n => if 0 < n then some n else none
  | _ => none

def hasMore : PageData ρ → Field
  | .object _ more _ => more
  | _ => .missing

def count (endpoint : Endpoint) : PageData ρ → Field
  | .object _ _ total =>
    if endpoint = .exchangePairs ∨ endpoint = .cryptoPairs then total else .missing
  | _ => .missing

/-- What the loop remembers: the fingerprints and identities it has seen, the declared total, and the
offset of the next page. -/
structure Progress (φ : Type) where
  seen : List φ := []
  identities : List ℤ := []
  declaredCount : Option ℤ := none
  offset : ℤ

def newIdentities (endpoint : Endpoint) (identities : List ℤ) (items : List (Item ρ)) :
    Option (List ℤ) :=
  if identityBearing endpoint then
    let keys := items.filterMap fun item => (pageIdentity endpoint item).identity?
    if keys.length = items.length ∧ keys.Nodup ∧ ∀ key ∈ keys, key ∉ identities then
      some (identities ++ keys)
    else none
  else some identities

/-- The total after a page; a declared one must be valid and stay the same. -/
def newCount (declared : Option ℤ) : Field → Except String (Option ℤ × Option ℤ)
  | .missing => .ok (none, declared)
  | .int n =>
    if n < 0 ∨ (∃ m ∈ declared, n ≠ m) then .error "pagination_total_changed_or_invalid"
    else .ok (some n, some n)
  | _ => .error "pagination_total_changed_or_invalid"

variable [DecidableEq φ] (fingerprint : List (Item ρ) → φ) (endpoint : Endpoint) (limit : ℤ)

/-- The checks of one page: an error, or the progress and whether the family is complete. -/
def readPage (s : Progress φ) (fetch : Fetch ρ) : Except String (Progress φ × Bool) :=
  match fetch.error with
  | some error => .error error
  | none =>
    match rows endpoint fetch.data with
    | none => .error "pagination_contract"
    | some items =>
      if fingerprint items ∈ s.seen then .error "repeated_pagination_page"
      else match newIdentities endpoint s.identities items with
        | none => .error "duplicate_or_invalid_page_identity"
        | some identities =>
          match newCount s.declaredCount (count endpoint fetch.data) with
          | .error error => .error error
          | .ok (total, declared) =>
            let more := hasMore fetch.data
            let consumed := s.offset + items.length
            let progress : Progress φ :=
              ⟨fingerprint items :: s.seen, identities, declared, s.offset + limit⟩
            if limit < items.length then .error "pagination_count_conflict"
            else match total with
              | some total =>
                if total < consumed ∨ (more = .bool false ∧ consumed < total) ∨
                    (more = .bool true ∧ total ≤ consumed) ∨
                    (consumed < total ∧ items.length < limit) then
                  .error "pagination_count_conflict"
                else .ok (progress, consumed = total)
              | none =>
                .ok (progress, more = .bool false || (more = .missing && items.length < limit))

/-- The loop of `pages` over the responses that are left. -/
def pagesFrom (s : Progress φ) : List (Fetch ρ) → List (Page ρ)
  | [] => []
  | fetch :: rest =>
    match readPage fingerprint endpoint limit s fetch with
    | .error error => [⟨⟨fetch.data, some error⟩, none⟩]
    | .ok (_, true) => [⟨fetch, some true⟩]
    | .ok (progress, false) =>
      ⟨fetch, if rest.isEmpty then some false else none⟩ :: pagesFrom progress rest

/-- `pages`, with the responses that `get` gives for the pages it may ask for. -/
def pages (start : ℤ) (fetches : List (Fetch ρ)) : Except String (List (Page ρ)) :=
  if (contract endpoint).paginated = false ∨ fetches.length < 1 ∨ 20 < fetches.length then
    .error "invalid pagination request"
  else if limit < 1 ∨ (contract endpoint).pageMax < limit then
    .error "page limit outside official contract"
  else if start < 1 then .error "start must be 1-based"
  else .ok (pagesFrom fingerprint endpoint limit { offset := start - 1 } fetches)

end Model

section Step

variable {ρ φ : Type} [DecidableEq φ] {fingerprint : List (Item ρ) → φ} {endpoint : Endpoint}
variable {declared total next : Option ℤ}
  {limit : ℤ} {s s' : Progress φ} {fetch : Fetch ρ} {complete : Bool}

def items (endpoint : Endpoint) (fetch : Fetch ρ) : List (Item ρ) :=
  (rows endpoint fetch.data).getD []

def identities (endpoint : Endpoint) (fetch : Fetch ρ) : List ℤ :=
  (items endpoint fetch).filterMap fun item => (pageIdentity endpoint item).identity?

/-- A page without a total that ends the family. -/
def EndsOpen (endpoint : Endpoint) (limit : ℤ) (fetch : Fetch ρ) : Prop :=
  hasMore fetch.data = .bool false ∨
    (hasMore fetch.data = .missing ∧ ((items endpoint fetch).length : ℤ) < limit)

/-- What a page that raises no error has been checked for. -/
structure Accepted (endpoint : Endpoint) (limit : ℤ) (s s' : Progress φ) (fetch : Fetch ρ)
    (complete : Bool) : Prop where
  error : fetch.error = none
  offset : s'.offset = s.offset + limit
  length : ((items endpoint fetch).length : ℤ) ≤ limit
  identities : newIdentities endpoint s.identities (items endpoint fetch) = some s'.identities
  count : ∃ total, newCount s.declaredCount (count endpoint fetch.data) = .ok (total, s'.declaredCount) ∧
    (∀ n ∈ total, (complete = true ∧ s.offset + (items endpoint fetch).length = n) ∨
      (complete = false ∧ ((items endpoint fetch).length : ℤ) = limit)) ∧
    (total = none → (complete = true ↔ EndsOpen endpoint limit fetch))

theorem readPage_ok (h : readPage fingerprint endpoint limit s fetch = .ok (s', complete)) :
    Accepted endpoint limit s s' fetch complete := by
  unfold readPage at h
  split at h
  · cases h
  next herror =>
  split at h
  · cases h
  next pageItems hrows =>
  split at h
  · cases h
  split at h
  · cases h
  next keys hkeys =>
  split at h
  · cases h
  next total declared hcount =>
  have hitems : items endpoint fetch = pageItems := by rw [items, hrows, Option.getD_some]
  dsimp only at h
  split at h
  · cases h
  next hlength =>
  split at h
  · split at h
    · cases h
    -- a page with a declared total, and one without
    next total hconflict =>
    cases h
    refine ⟨herror, rfl, by rw [hitems]; omega, by rw [hitems]; exact hkeys, some total, hcount, ?_,
      by simp⟩
    rintro n ⟨⟩
    rw [hitems]
    by_cases hlast : s.offset + pageItems.length = total
    · exact .inl ⟨decide_eq_true hlast, hlast⟩
    · exact .inr ⟨decide_eq_false hlast, by omega⟩
  · cases h
    refine ⟨herror, rfl, by rw [hitems]; omega, by rw [hitems]; exact hkeys, none, hcount, by simp, ?_⟩
    intro _
    unfold EndsOpen
    rw [hitems]
    simp

theorem newIdentities_nodup {known next : List ℤ} (hknown : known.Nodup)
    (h : newIdentities endpoint known (items endpoint fetch) = some next)
    (hbearing : identityBearing endpoint = true) :
    next.Nodup ∧ next = known ++ identities endpoint fetch := by
  unfold newIdentities at h
  rw [if_pos hbearing] at h
  dsimp only at h
  split at h
  · next hkeys =>
    cases h
    obtain ⟨-, hnodup, hfresh⟩ := hkeys
    refine ⟨List.nodup_append.2 ⟨hknown, hnodup, ?_⟩, rfl⟩
    rintro key hold key' hnew rfl
    exact hfresh key hnew hold
  · cases h

theorem newCount_missing
    (h : newCount declared .missing = .ok (total, next)) : total = none ∧ next = declared := by
  cases h
  exact ⟨rfl, rfl⟩

theorem newCount_declared {field : Field} (hfield : field ≠ .missing)
    (h : newCount declared field = .ok (total, next)) :
    ∃ n, field = .int n ∧ total = some n ∧ next = some n ∧ ∀ m ∈ declared, n = m := by
  unfold newCount at h
  split at h
  · exact absurd rfl hfield
  · next n =>
    split at h
    · cases h
    · next hvalid =>
      cases h
      push Not at hvalid
      exact ⟨n, rfl, rfl, rfl, hvalid.2⟩
  · cases h

end Step

section Run

variable {ρ φ : Type} [DecidableEq φ] {fingerprint : List (Item ρ) → φ} {endpoint : Endpoint}
variable {fetch : Fetch ρ}
  {limit : ℤ} {s : Progress φ} {fetches : List (Fetch ρ)}

def Complete (pages : List (Page ρ)) : Prop :=
  ∃ page ∈ pages.getLast?, page.paginationComplete = some true

/-- The first page completes the family, or it is accepted and the rest does. -/
theorem complete_cases {rest : List (Fetch ρ)}
    (h : Complete (pagesFrom fingerprint endpoint limit s (fetch :: rest))) :
    (∃ s', Accepted endpoint limit s s' fetch true ∧
      pagesFrom fingerprint endpoint limit s (fetch :: rest) = [⟨fetch, some true⟩]) ∨
    ∃ s' flag, Accepted endpoint limit s s' fetch false ∧
      Complete (pagesFrom fingerprint endpoint limit s' rest) ∧
      pagesFrom fingerprint endpoint limit s (fetch :: rest) =
        ⟨fetch, flag⟩ :: pagesFrom fingerprint endpoint limit s' rest := by
  rw [pagesFrom] at h ⊢
  cases hread : readPage fingerprint endpoint limit s fetch with
  | error error => simp [hread, Complete] at h
  | ok result =>
    obtain ⟨s', _ | _⟩ := result
    · refine .inr ⟨s', _, readPage_ok hread, ?_, rfl⟩
      rw [hread] at h
      cases rest with
      | nil => simp [Complete, pagesFrom] at h
      | cons next rest =>
        -- the loop goes on, so that the last page is one of the rest
        obtain ⟨page, hpage, hflag⟩ := h
        refine ⟨page, ?_, hflag⟩
        cases hout : pagesFrom fingerprint endpoint limit s' (next :: rest) with
        | nil =>
          rw [pagesFrom] at hout
          split at hout <;> cases hout
        | cons first others =>
          dsimp only at hpage
          rwa [hout, List.getLast?_cons_cons] at hpage
    · exact .inl ⟨s', readPage_ok hread, rfl⟩

/-- No page of a completed family is an error, and no identity occurs twice. -/
theorem complete_sound (hidentities : s.identities.Nodup)
    (h : Complete (pagesFrom fingerprint endpoint limit s fetches)) :
    (∀ page ∈ pagesFrom fingerprint endpoint limit s fetches, page.error = none) ∧
      (identityBearing endpoint = true →
        (s.identities ++ (pagesFrom fingerprint endpoint limit s fetches).flatMap fun page =>
          identities endpoint page.toFetch).Nodup) := by
  induction fetches generalizing s with
  | nil => simp [Complete, pagesFrom] at h
  | cons fetch rest ih =>
    rcases complete_cases h with ⟨s', haccepted, hout⟩ | ⟨s', flag, haccepted, hrest, hout⟩
    · rw [hout]
      refine ⟨by simp [haccepted.error], fun hbearing => ?_⟩
      obtain ⟨hnodup, heq⟩ := newIdentities_nodup hidentities haccepted.identities hbearing
      simpa [heq] using hnodup
    · rw [hout]
      have hnodup : s'.identities.Nodup := by
        have hkeys := haccepted.identities
        by_cases hbearing : identityBearing endpoint = true
        · exact (newIdentities_nodup hidentities hkeys hbearing).1
        · rw [newIdentities, if_neg hbearing] at hkeys
          exact Option.some.inj hkeys ▸ hidentities
      obtain ⟨herror, hdistinct⟩ := ih hnodup hrest
      refine ⟨by simpa [haccepted.error] using herror, fun hbearing => ?_⟩
      have heq := (newIdentities_nodup hidentities haccepted.identities hbearing).2
      simpa [heq, List.append_assoc] using hdistinct hbearing

def received (endpoint : Endpoint) (pages : List (Page ρ)) : ℤ :=
  (pages.map fun page => ((items endpoint page.toFetch).length : ℤ)).sum

omit [DecidableEq φ] in
theorem full_of_accepted {s' : Progress φ} (h : Accepted endpoint limit s s' fetch false) :
    ((items endpoint fetch).length : ℤ) = limit ∨
      (count endpoint fetch.data = .missing ∧ hasMore fetch.data ≠ .missing) := by
  obtain ⟨total, hcount, hdeclared, hopen⟩ := h.count
  cases total with
  | some n =>
    rcases hdeclared n rfl with ⟨hcomplete, -⟩ | ⟨-, hlength⟩
    · cases hcomplete
    · exact .inl hlength
  | none =>
    have hmissing : count endpoint fetch.data = .missing := by
      by_contra hne
      obtain ⟨n, -, htotal, -⟩ := newCount_declared hne hcount
      cases htotal
    have hnot : ¬ EndsOpen endpoint limit fetch := fun hends => by simpa using (hopen rfl).2 hends
    unfold EndsOpen at hnot
    push Not at hnot
    by_cases hnone : hasMore fetch.data = .missing
    · exact .inl (le_antisymm h.length (hnot.2 hnone))
    · exact .inr ⟨hmissing, hnone⟩

omit [DecidableEq φ] in
theorem declared_of_accepted {s' : Progress φ} {complete : Bool}
    (h : Accepted endpoint limit s s' fetch complete) {n : ℤ}
    (hn : s.declaredCount = some n ∨ count endpoint fetch.data = .int n) :
    s'.declaredCount = some n := by
  obtain ⟨total, hcount, -⟩ := h.count
  by_cases hmissing : count endpoint fetch.data = .missing
  · rw [hmissing] at hcount hn
    exact (newCount_missing hcount).2.trans (hn.resolve_right (by simp))
  · obtain ⟨m, hfield, -, hnext, hagree⟩ := newCount_declared hmissing hcount
    obtain rfl : m = n := by
      rcases hn with hn | hn
      · exact hagree n hn
      · rw [hfield] at hn
        exact Field.int.inj hn
    exact hnext

/-- The pages of a completed family: an earlier page is full or announces more without a total, and a
total on the last page is the one that was declared before and is reached if the earlier pages are
full. -/
theorem complete_pages (h : Complete (pagesFrom fingerprint endpoint limit s fetches)) :
    ∃ earlier last, pagesFrom fingerprint endpoint limit s fetches = earlier ++ [last] ∧
      (∀ page ∈ earlier, ((items endpoint page.toFetch).length : ℤ) = limit ∨
        (count endpoint page.data = .missing ∧ hasMore page.data ≠ .missing)) ∧
      (count endpoint last.data ≠ .missing → ∃ m, count endpoint last.data = .int m ∧
        s.offset + limit * earlier.length + (items endpoint last.toFetch).length = m ∧
        ∀ n, (s.declaredCount = some n ∨ ∃ page ∈ earlier, count endpoint page.data = .int n) →
          m = n) := by
  induction fetches generalizing s with
  | nil => simp [Complete, pagesFrom] at h
  | cons fetch rest ih =>
    rcases complete_cases h with ⟨s', haccepted, hout⟩ | ⟨s', flag, haccepted, hrest, hout⟩
    · refine ⟨[], _, hout, by simp, fun hne => ?_⟩
      obtain ⟨total, hcount, hdeclared, -⟩ := haccepted.count
      obtain ⟨m, hfield, htotal, -, hagree⟩ := newCount_declared hne hcount
      rcases hdeclared m htotal with ⟨-, heq⟩ | ⟨hfalse, -⟩
      · exact ⟨m, hfield, by simpa using heq, fun n hn => hagree n (by simpa using hn)⟩
      · cases hfalse
    · obtain ⟨earlier, last, hpages, hfull, htotal⟩ := ih hrest
      refine ⟨⟨fetch, flag⟩ :: earlier, last, by rw [hout, hpages]; rfl,
        List.forall_mem_cons.2 ⟨full_of_accepted haccepted, hfull⟩, fun hne => ?_⟩
      obtain ⟨m, hfield, heq, hagree⟩ := htotal hne
      refine ⟨m, hfield, ?_, fun n hn => hagree n ?_⟩
      · rw [haccepted.offset] at heq
        rw [List.length_cons, ← heq]
        push_cast
        ring
      · rw [List.exists_mem_cons_iff, ← or_assoc] at hn
        exact hn.imp_left (declared_of_accepted haccepted)

/-- Every page but the last holds the limit of items, and the items received from the start on reach
every declared total. -/
structure Whole (endpoint : Endpoint) (limit start : ℤ) (out : List (Page ρ)) : Prop where
  full : ∀ page ∈ out.dropLast, ((items endpoint page.toFetch).length : ℤ) = limit
  total : ∀ page ∈ out, ∀ n, count endpoint page.data = .int n →
    start - 1 + received endpoint out = n

/-- The provider says that more pages follow, and declares no total, only on full pages; and a last
page without a total ends at a total that was declared before. -/
structure Announces (endpoint : Endpoint) (limit start : ℤ) (out : List (Page ρ)) : Prop where
  full : ∀ page ∈ out.dropLast, count endpoint page.data = .missing →
    hasMore page.data ≠ .missing → ((items endpoint page.toFetch).length : ℤ) = limit
  repeats : ∀ last ∈ out.getLast?, count endpoint last.data = .missing →
    ∀ page ∈ out.dropLast, ∀ n, count endpoint page.data = .int n →
      start - 1 + limit * (out.length - 1) + (items endpoint last.toFetch).length = n

/-- For every sequence of responses: if the last page is marked complete, no page is an error and the
identities are distinct. Every earlier page holds exactly the limit of items and the items received
from the start on reach every declared total if and only if further pages are announced only after
full ones and a last page without a total ends at the declared one. -/
theorem completed_family {start : ℤ} {out : List (Page ρ)}
    (h : pages fingerprint endpoint limit start fetches = .ok out) (hcomplete : Complete out) :
    (∀ page ∈ out, page.error = none) ∧
      (identityBearing endpoint = true →
        (out.flatMap fun page => identities endpoint page.toFetch).Nodup) ∧
      (Whole endpoint limit start out ↔ Announces endpoint limit start out) := by
  unfold pages at h
  split_ifs at h
  cases h
  obtain ⟨herror, hdistinct⟩ := complete_sound List.nodup_nil hcomplete
  refine ⟨herror, hdistinct, ?_⟩
  obtain ⟨earlier, last, hout, hearlier, hlast⟩ := complete_pages hcomplete
  rw [hout]
  -- the items of full pages
  have hreceived (hfull : ∀ page ∈ earlier, ((items endpoint page.toFetch).length : ℤ) = limit) :
      received endpoint (earlier ++ [last]) =
        limit * earlier.length + (items endpoint last.toFetch).length := by
    unfold received
    rw [List.map_append, List.sum_append, List.map_congr_left hfull]
    simp [mul_comm]
  constructor
  · rintro ⟨hfull, htotal⟩
    refine ⟨fun page hpage _ _ => hfull page hpage, fun last' hlast' hmissing page hpage n hn => ?_⟩
    rw [List.dropLast_concat] at hfull hpage
    rw [List.getLast?_concat] at hlast'
    obtain rfl := Option.some.inj hlast'
    have hsum := htotal page (List.mem_append_left _ hpage) n hn
    rw [hreceived hfull] at hsum
    rw [← hsum, List.length_append, List.length_singleton]
    push_cast
    ring
  · rintro ⟨hmore, hrepeats⟩
    rw [List.dropLast_concat] at hmore
    have hfull : ∀ page ∈ earlier, ((items endpoint page.toFetch).length : ℤ) = limit :=
      fun page hpage => (hearlier page hpage).elim id fun hopen => hmore page hpage hopen.1 hopen.2
    refine ⟨by rwa [List.dropLast_concat], fun page hpage n hn => ?_⟩
    rw [hreceived hfull]
    by_cases hmissing : count endpoint last.data = .missing
    · rcases List.mem_append.1 hpage with hpage | hpage
      · have hsum := hrepeats last (by simp) hmissing page (by simpa using hpage) n hn
        rw [List.length_append, List.length_singleton] at hsum
        rw [← hsum]
        push_cast
        ring
      · rw [List.mem_singleton.1 hpage, hmissing] at hn
        cases hn
    · obtain ⟨m, hfield, heq, hagree⟩ := hlast hmissing
      obtain rfl : m = n := by
        rcases List.mem_append.1 hpage with hpage | hpage
        · exact hagree n (.inr ⟨page, hpage, hn⟩)
        · rw [List.mem_singleton.1 hpage, hfield] at hn
          exact Field.int.inj hn
      rw [← heq]
      ring

/-- A page of exchange pairs with the market ids from `first` on. -/
def samplePage (first size : ℕ) (hasMore total : Field) : Fetch Unit where
  data := .object (some ((List.range' first size).map fun n => .object .missing (.int n) ())) hasMore
    total

def sampleFingerprint (items : List (Item Unit)) : List ℤ :=
  items.filterMap fun item => (pageIdentity .exchangePairs item).identity?

/-- What the samples are looked at for: the numbers of items and the mark of the last page. -/
def summary (out : Except String (List (Page Unit))) : Option (List ℕ × Option Bool) :=
  out.toOption.map fun pages =>
    (pages.map fun page => (items .exchangePairs page.toFetch).length,
      pages.getLast?.bind Page.paginationComplete)

/-- Two full pages and a shorter one that repeat the total. -/
def sampleFamily : List (Fetch Unit) :=
  [samplePage 1 2 (.bool true) (.int 5), samplePage 3 2 .missing (.int 5),
    samplePage 5 1 (.bool false) (.int 5)]

theorem announced_family_is_complete :
    ∃ out, pages sampleFingerprint .exchangePairs 2 1 sampleFamily = .ok out ∧
      Whole .exchangePairs 2 1 out := by
  have hpages : pages sampleFingerprint .exchangePairs 2 1 sampleFamily =
      .ok (pagesFrom sampleFingerprint .exchangePairs 2 { offset := 0 } sampleFamily) := rfl
  have hcomplete : Complete (pagesFrom sampleFingerprint .exchangePairs 2 { offset := 0 }
      sampleFamily) :=
    ⟨⟨samplePage 5 1 (.bool false) (.int 5), some true⟩, rfl, rfl⟩
  refine ⟨_, hpages, (completed_family hpages hcomplete).2.2.2 ⟨?_, ?_⟩⟩
  · have hcounts : ∀ page ∈ (pagesFrom sampleFingerprint .exchangePairs 2 { offset := 0 }
        sampleFamily).dropLast, count .exchangePairs page.data = .int 5 := by decide +kernel
    intro page hpage hmissing
    cases (hcounts page hpage).symm.trans hmissing
  · rintro last ⟨⟩ hmissing
    cases hmissing

/-- Two families that are marked complete. The first page of the one holds one item of two and says
that more follow, so that an item is skipped. The first page of the other declares six items; the
second declares no total and ends the family at four. -/
theorem incomplete_families_are_marked_complete :
    summary (pages sampleFingerprint .exchangePairs 2 1
      [samplePage 1 1 (.bool true) .missing, samplePage 3 1 (.bool false) .missing]) =
      some ([1, 1], some true) ∧
    summary (pages sampleFingerprint .exchangePairs 2 1
      [samplePage 1 2 (.bool true) (.int 6), samplePage 3 2 (.bool false) .missing]) =
      some ([2, 2], some true) := by
  decide +kernel

end Run

end CandleCraft.Cmc
