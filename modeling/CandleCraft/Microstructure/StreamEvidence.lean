import CandleCraft.Microstructure.Flow
import Mathlib.Data.Finset.Dedup

/-!
# Metadata leases of the streamed symbols

`StreamEvidence` admits a symbol while the exchange metadata lists it and is no older than its
lease. Admission is looked up when a symbol is queried, when the metadata is replaced and when the
desired symbols change; a callback is called when the value differs from the last one. The Unicode
tables are parameters.
-/

namespace CandleCraft.Microstructure

open PyText

def metadataMaxAgeSeconds : ℤ := 300

def second : ℤ := 1000000

/-! ## Exchange metadata -/

/-- What `set_metadata` needs to know about characters. -/
structure UnicodeTables where
  isAlnum : Char → Bool
  upper : String → String
  /-- `unicodedata.normalize("NFKC", s).casefold()`. -/
  foldCase : String → String

/-- A row of the exchange's contract list; a field is absent when it is not a text. -/
structure MetadataRow where
  symbol : String
  pair : Option String
  baseAsset : Option String
  quoteAsset : Option String
  marginAsset : Option String
  contractType : Option String
  status : Option String

/-- `matches_usdt_perpetual(symbol)`. -/
def matchesUsdtPerpetual (unicode : UnicodeTables) (symbol : String) : Bool :=
  decide (symbol ≠ "") && symbol.toList.all unicode.isAlnum && decide (4 < symbol.length) &&
    decide (symbol = unicode.upper symbol) && "USDT".toList.isSuffixOf symbol.toList

def MetadataRow.tradable (unicode : UnicodeTables) (row : MetadataRow) : Bool :=
  matchesUsdtPerpetual unicode row.symbol && decide (row.pair = some row.symbol) &&
    decide (row.baseAsset = some (String.ofList (row.symbol.toList.take (row.symbol.length - 4)))) &&
    decide (row.quoteAsset = some "USDT") && decide (row.marginAsset = some "USDT") &&
    decide (row.contractType = some "PERPETUAL") && decide (row.status = some "TRADING")

/-- The texts of `metadata_issue` and of the other reasons. -/
inductive IdentityReason where
  | malformedOrEmptyExchangeMetadata
  | metadataAcquisitionUnverified
  | exchangeMetadataStaleOrFuture
  | metadataAcquisitionRegressed
  | conflictingMetadataAcquisition
  | exchangeMetadataNormalizationCollision
  | notVerifiedBinanceUsdmContract
  deriving DecidableEq

def listedContracts (unicode : UnicodeTables) (rows : List MetadataRow) :
    Finset String × Finset String :=
  let symbols := rows.map MetadataRow.symbol
  let collides (symbol : String) : Bool :=
    decide (1 < symbols.countP fun s => decide (unicode.foldCase s = unicode.foldCase symbol))
  ((((rows.filter (·.tradable unicode)).map MetadataRow.symbol).filter
    fun s => !collides s).toFinset, (symbols.filter collides).toFinset)

/-! ## Evidence -/

/-- A call of `_on_admission_change`. -/
structure AdmissionCall where
  symbol : String
  valid : Bool
  /-- The clock when it is called. -/
  instant : Instant
  deriving DecidableEq

structure StreamEvidence where
  clock : Instant
  desired : List String
  admission : String → Option Bool
  latestMetadataAt : Option Instant
  latestIdentity : Option (Finset String × Finset String)
  contracts : Option (Finset String)
  rejections : Finset String
  metadataAt : Option Instant
  metadataIssue : Option IdentityReason
  rejectedEventTimeCount : ℕ
  calls : List AdmissionCall

namespace StreamEvidence

/-- `__init__`. -/
def initial (clock : Instant) : StreamEvidence where
  clock := clock
  desired := []
  admission := fun _ => none
  latestMetadataAt := none
  latestIdentity := none
  contracts := none
  rejections := ∅
  metadataAt := none
  metadataIssue := none
  rejectedEventTimeCount := 0
  calls := []

/-- `_identity_reason`. -/
def currentReason (symbol : String) (e : StreamEvidence) : Option IdentityReason :=
  match e.contracts with
  | none => none
  | some contracts =>
    if e.metadataIssue ≠ none then e.metadataIssue
    else if symbol ∉ contracts then
      if symbol ∈ e.rejections then some .exchangeMetadataNormalizationCollision
      else some .notVerifiedBinanceUsdmContract
    else
      match e.metadataAt with
      | none => some .metadataAcquisitionUnverified
      | some metadataAt =>
        if 0 ≤ e.clock - metadataAt ∧ e.clock - metadataAt ≤ metadataMaxAgeSeconds * second then none
        else some .exchangeMetadataStaleOrFuture

/-- `_on_admission_change`. -/
def call (symbol : String) (valid : Bool) (e : StreamEvidence) : StreamEvidence :=
  { e with calls := e.calls ++ [⟨symbol, valid, e.clock⟩] }

/-- What `identity_reason` does beside its result. -/
def observe (e : StreamEvidence) (symbol : String) : StreamEvidence :=
  let valid := (e.currentReason symbol).isNone
  if e.contracts ≠ none ∧ symbol ∈ e.desired ∧ e.admission symbol ≠ some valid then
    { e with admission := Function.update e.admission symbol (some valid) }.call symbol valid
  else e

def identityReason (symbol : String) (e : StreamEvidence) : Option IdentityReason × StreamEvidence :=
  (e.currentReason symbol, e.observe symbol)

def observeDesired (e : StreamEvidence) : StreamEvidence := e.desired.foldl observe e

/-- What `set_metadata` writes. The rows are absent when the payload is not a list of rows. -/
def replaceMetadata (unicode : UnicodeTables) (rows : Option (List (Option MetadataRow)))
    (acquiredAt : Option Instant) (e : StreamEvidence) : StreamEvidence :=
  let listed := (rows.getD []).length
  let malformed := decide (listed = 0 ∨ 10000 < listed)
  let used := if malformed then [] else (rows.getD []).reduceOption
  let identity := listedContracts unicode used
  let found : Option IdentityReason :=
    match acquiredAt with
    | none => some .metadataAcquisitionUnverified
    | some acquiredAt =>
      if e.clock < acquiredAt then some .exchangeMetadataStaleOrFuture
      else if e.latestMetadataAt.any fun latest => decide (acquiredAt < latest) then
        some .metadataAcquisitionRegressed
      else if e.latestMetadataAt = some acquiredAt ∧ e.latestIdentity ≠ some identity then
        some .conflictingMetadataAcquisition
      else if malformed then some .malformedOrEmptyExchangeMetadata
      else none
  { e with
    contracts := some identity.1
    rejections := identity.2
    metadataAt := acquiredAt
    metadataIssue := found
    latestMetadataAt := if found = none then acquiredAt else e.latestMetadataAt
    latestIdentity := if found = none then some identity else e.latestIdentity }

def setMetadata (unicode : UnicodeTables) (rows : Option (List (Option MetadataRow)))
    (acquiredAt : Option Instant) (e : StreamEvidence) : StreamEvidence :=
  (e.observeDesired.replaceMetadata unicode rows acquiredAt).observeDesired

/-- `retain`, with the fields that play a role here. -/
def retain (desired : List String) (e : StreamEvidence) : StreamEvidence :=
  { e with
    desired := desired
    admission := fun s => if s ∈ desired then e.admission s else none }.observeDesired

def acceptsEventTimes (symbol : String) (timestamps : List Instant) (maxAge : ℚ)
    (e : StreamEvidence) : Bool × StreamEvidence :=
  if timestamps.all fun t => decide (0 ≤ e.clock - t ∧ ((e.clock - t : ℤ) : ℚ) ≤ maxAge * second) then
    (true, e)
  else
    (false, ({ e with rejectedEventTimeCount := e.rejectedEventTimeCount + 1 }.call symbol
      false).call symbol true)

end StreamEvidence

/-- What can happen to the evidence. The clock moves in any way. -/
inductive EvidenceAction where
  | setMetadata (rows : Option (List (Option MetadataRow))) (acquiredAt : Option Instant)
  | retain (desired : List String)
  | query (symbol : String)
  | acceptsEventTimes (symbol : String) (timestamps : List Instant) (maxAge : ℚ)
  | moveClock (clock : Instant)

namespace StreamEvidence

def step (unicode : UnicodeTables) (e : StreamEvidence) : EvidenceAction → StreamEvidence
  | .setMetadata rows acquiredAt => e.setMetadata unicode rows acquiredAt
  | .retain desired => e.retain desired
  | .query symbol => (e.identityReason symbol).2
  | .acceptsEventTimes symbol timestamps maxAge => (e.acceptsEventTimes symbol timestamps maxAge).2
  | .moveClock clock => { e with clock := clock }

abbrev run (unicode : UnicodeTables) (e : StreamEvidence) (acts : List EvidenceAction) :
    StreamEvidence :=
  Transition.run (step unicode) e acts

/-! ## Looking a symbol up -/

variable {e : StreamEvidence} {s t : String}

theorem observe_fields (e : StreamEvidence) (s t : String) :
    (e.observe s).currentReason t = e.currentReason t ∧ (e.observe s).contracts = e.contracts ∧
      (e.observe s).desired = e.desired := by
  unfold observe
  dsimp only
  split <;> exact ⟨rfl, rfl, rfl⟩

theorem observe_admission (hcontracts : e.contracts ≠ none) (hdesired : s ∈ e.desired) :
    (e.observe s).admission s = some (e.currentReason s).isNone := by
  unfold observe
  dsimp only
  split
  · exact Function.update_self s _ _
  · next hsame =>
    by_contra hne
    exact hsame ⟨hcontracts, hdesired, hne⟩

theorem observe_admission_of_ne (h : t ≠ s) : (e.observe s).admission t = e.admission t := by
  unfold observe
  dsimp only
  split
  · exact Function.update_of_ne h _ _
  · rfl

theorem foldl_observe_fields (symbols : List String) (e : StreamEvidence) (t : String) :
    (symbols.foldl observe e).currentReason t = e.currentReason t ∧
      (symbols.foldl observe e).contracts = e.contracts ∧
      (symbols.foldl observe e).desired = e.desired := by
  induction symbols generalizing e with
  | nil => exact ⟨rfl, rfl, rfl⟩
  | cons s rest ih =>
    obtain ⟨hreason, hcontracts, hdesired⟩ := ih (e.observe s)
    obtain ⟨hreason', hcontracts', hdesired'⟩ := e.observe_fields s t
    exact ⟨hreason.trans hreason', hcontracts.trans hcontracts', hdesired.trans hdesired'⟩

theorem observeDesired_admission (hcontracts : e.contracts ≠ none) (hdesired : s ∈ e.desired) :
    e.observeDesired.admission s = some (e.currentReason s).isNone := by
  have hfold : ∀ (symbols : List String) (e : StreamEvidence), e.contracts ≠ none →
      s ∈ e.desired → s ∈ symbols ∨ e.admission s = some (e.currentReason s).isNone →
        (symbols.foldl observe e).admission s = some (e.currentReason s).isNone := by
    intro symbols
    induction symbols with
    | nil =>
      intro e _ _ h
      exact h.resolve_left List.not_mem_nil
    | cons t rest ih =>
      intro e hcontracts hdesired h
      obtain ⟨hreason, hcontracts', hdesired'⟩ := e.observe_fields t s
      rw [List.foldl_cons, ← hreason]
      refine ih (e.observe t) (hcontracts' ▸ hcontracts) (hdesired' ▸ hdesired) ?_
      rw [hreason]
      by_cases hst : s = t
      · rw [← hst]
        exact .inr (observe_admission hcontracts hdesired)
      · rw [observe_admission_of_ne hst]
        exact h.imp_left fun hmem => (List.mem_cons.1 hmem).resolve_left hst
  exact hfold e.desired e hcontracts hdesired (.inl hdesired)

/-! ## Calls -/

/-- Between the two states the admission of the symbol has changed by calls only. -/
def Announces (symbol : String) (e e' : StreamEvidence) : Prop :=
  ∃ new, e'.calls = e.calls ++ new ∧ ∀ valid, e'.admission symbol = some valid →
    e.admission symbol = some valid ∨ ∃ t, ⟨symbol, valid, t⟩ ∈ new

theorem Announces.of_le {e e' : StreamEvidence} (hcalls : ∃ new, e'.calls = e.calls ++ new)
    (h : ∀ valid, e'.admission s = some valid → e.admission s = some valid) : Announces s e e' := by
  obtain ⟨new, hnew⟩ := hcalls
  exact ⟨new, hnew, fun valid hvalid => .inl (h valid hvalid)⟩

theorem Announces.of_same {e e' : StreamEvidence} (hcalls : ∃ new, e'.calls = e.calls ++ new)
    (h : e'.admission s = e.admission s) : Announces s e e' :=
  .of_le hcalls fun _ hvalid => h ▸ hvalid

theorem Announces.refl (e : StreamEvidence) : Announces s e e :=
  .of_same ⟨[], (List.append_nil _).symm⟩ rfl

theorem Announces.trans {e₁ e₂ e₃ : StreamEvidence} (h : Announces s e₁ e₂)
    (h' : Announces s e₂ e₃) : Announces s e₁ e₃ := by
  obtain ⟨new, hnew, hcalled⟩ := h
  obtain ⟨new', hnew', hcalled'⟩ := h'
  refine ⟨new ++ new', by rw [hnew', hnew, List.append_assoc], fun valid hvalid => ?_⟩
  rcases hcalled' valid hvalid with hvalid | ⟨t, ht⟩
  · refine (hcalled valid hvalid).imp_right ?_
    rintro ⟨t, ht⟩
    exact ⟨t, List.mem_append_left _ ht⟩
  · exact .inr ⟨t, List.mem_append_right _ ht⟩

theorem announces_observe (e : StreamEvidence) (s t : String) : Announces s e (e.observe t) := by
  by_cases hst : s = t
  · subst hst
    unfold observe
    dsimp only
    split
    · refine ⟨[⟨s, (e.currentReason s).isNone, e.clock⟩], rfl, fun valid hvalid => .inr ?_⟩
      have hupdate : some (e.currentReason s).isNone = some valid :=
        (Function.update_self s _ e.admission).symm.trans hvalid
      rw [Option.some.inj hupdate]
      exact ⟨e.clock, List.mem_singleton_self _⟩
    · exact .refl e
  · refine .of_same ?_ (observe_admission_of_ne hst)
    unfold observe
    dsimp only
    split
    · exact ⟨_, rfl⟩
    · exact ⟨[], (List.append_nil _).symm⟩

theorem announces_observeDesired (e : StreamEvidence) (s : String) :
    Announces s e e.observeDesired := by
  have hfold : ∀ (symbols : List String) (e : StreamEvidence),
      Announces s e (symbols.foldl observe e) := by
    intro symbols
    induction symbols with
    | nil => exact fun e => .refl e
    | cons t rest ih => exact fun e => (announces_observe e s t).trans (ih _)
  exact hfold e.desired e

variable {a : EvidenceAction}

/-- A symbol that is dropped loses its admission, which is no new one. -/
theorem announces_step (unicode : UnicodeTables) (e : StreamEvidence) (a : EvidenceAction) :
    Announces s e (e.step unicode a) := by
  cases a with
  | setMetadata rows acquiredAt =>
    refine (announces_observeDesired e s).trans (.trans ?_ (announces_observeDesired _ s))
    exact .of_same ⟨[], (List.append_nil _).symm⟩ rfl
  | retain desired =>
    refine .trans ?_ (announces_observeDesired _ s)
    refine .of_le ⟨[], (List.append_nil _).symm⟩ fun valid hvalid => ?_
    change (if s ∈ desired then e.admission s else none) = some valid at hvalid
    split_ifs at hvalid
    exact hvalid
  | query symbol => exact announces_observe e s symbol
  | acceptsEventTimes symbol timestamps maxAge =>
    refine .of_same ?_ ?_
    · unfold step acceptsEventTimes
      dsimp only
      split
      · exact ⟨[], (List.append_nil _).symm⟩
      · exact ⟨_, List.append_assoc _ _ _⟩
    · unfold step acceptsEventTimes
      dsimp only
      split <;> rfl
  | moveClock clock => exact .of_same ⟨[], (List.append_nil _).symm⟩ rfl

theorem announces_run (unicode : UnicodeTables) (e : StreamEvidence) (acts : List EvidenceAction) :
    Announces s e (e.run unicode acts) :=
  Transition.run_invariant (step unicode) (I := Announces s e)
    (fun e' a h => h.trans (announces_step unicode e' a)) (.refl e) acts

/-! ## Lapses -/

theorem observeDesired_fields (e : StreamEvidence) (s : String) :
    e.observeDesired.currentReason s = e.currentReason s ∧
      e.observeDesired.contracts = e.contracts ∧ e.observeDesired.desired = e.desired :=
  foldl_observe_fields e.desired e s

theorem contracts_step (unicode : UnicodeTables) (a : EvidenceAction) (h : e.contracts ≠ none) :
    (e.step unicode a).contracts ≠ none := by
  cases a with
  | setMetadata rows acquiredAt =>
    rw [step, setMetadata, (observeDesired_fields _ "").2.1]
    exact Option.some_ne_none _
  | retain desired =>
    rw [step, retain, (observeDesired_fields _ "").2.1]
    exact h
  | query symbol =>
    rw [step, identityReason, (e.observe_fields symbol "").2.1]
    exact h
  | acceptsEventTimes symbol timestamps maxAge =>
    unfold step acceptsEventTimes
    dsimp only
    split <;> exact h
  | moveClock clock => exact h

/-- Before there is metadata no admission is recorded. -/
def Unrecorded (e : StreamEvidence) : Prop := e.contracts = none → ∀ s, e.admission s = none

theorem Unrecorded.observe (h : e.Unrecorded) (s : String) : (e.observe s).Unrecorded := by
  intro hnone t
  rw [(e.observe_fields s t).2.1] at hnone
  have hsame : e.observe s = e := if_neg fun hcond => hcond.1 hnone
  rw [hsame]
  exact h hnone t

theorem Unrecorded.observeDesired (h : e.Unrecorded) : e.observeDesired.Unrecorded := by
  have hfold : ∀ (symbols : List String) (e : StreamEvidence), e.Unrecorded →
      (symbols.foldl StreamEvidence.observe e).Unrecorded := by
    intro symbols
    induction symbols with
    | nil => exact fun _ h => h
    | cons s rest ih => exact fun e h => ih _ (h.observe s)
  exact hfold e.desired e h

theorem Unrecorded.step (unicode : UnicodeTables) (h : e.Unrecorded) (a : EvidenceAction) :
    (e.step unicode a).Unrecorded := by
  cases a with
  | setMetadata rows acquiredAt =>
    refine Unrecorded.observeDesired fun hnone => ?_
    cases hnone
  | retain desired =>
    refine Unrecorded.observeDesired fun hnone s => ?_
    show (if s ∈ desired then e.admission s else none) = none
    rw [h hnone s, ite_self]
  | query symbol => exact h.observe symbol
  | acceptsEventTimes symbol timestamps maxAge =>
    unfold StreamEvidence.step acceptsEventTimes
    dsimp only
    split
    · exact h
    · exact fun hnone s => h hnone s
  | moveClock clock => exact fun hnone s => h hnone s

theorem Unrecorded.run (unicode : UnicodeTables) (clock : Instant) (acts : List EvidenceAction) :
    ((initial clock).run unicode acts).Unrecorded :=
  Transition.run_invariant (StreamEvidence.step unicode) (I := Unrecorded)
    (fun _ a h => h.step unicode a) (fun _ _ => rfl) acts

theorem contracts_of_reason (h : e.currentReason s ≠ none) : e.contracts ≠ none := by
  intro hnone
  rw [currentReason, hnone] at h
  exact h rfl

/-- The action looks the symbol up, and its lease has expired or is invalid: in the state the
action finds, or in the one in which `set_metadata` leaves it. -/
def Lapses (unicode : UnicodeTables) (symbol : String) (e : StreamEvidence) :
    EvidenceAction → Prop
  | .setMetadata rows acquiredAt =>
    e.currentReason symbol ≠ none ∨
      (e.setMetadata unicode rows acquiredAt).currentReason symbol ≠ none
  | .retain _ => e.currentReason symbol ≠ none
  | .query s => s = symbol ∧ e.currentReason symbol ≠ none
  | _ => False

/-- The symbol is desired when the action looks symbols up. -/
def DesiredAt (symbol : String) (e : StreamEvidence) : EvidenceAction → Prop
  | .retain desired => symbol ∈ desired
  | _ => symbol ∈ e.desired

theorem Lapses.recorded {unicode : UnicodeTables}
    (h : Lapses unicode s e a) (hdesired : DesiredAt s e a) :
    ∃ m : StreamEvidence, Announces s e m ∧ m.admission s = some false ∧
      Announces s m (e.step unicode a) := by
  have hnot : ∀ {e : StreamEvidence}, e.currentReason s ≠ none →
      (e.currentReason s).isNone = false := by
    intro e h
    rw [Option.isNone_eq_false_iff, Option.isSome_iff_ne_none]
    exact h
  cases a with
  | setMetadata rows acquiredAt =>
    have hreplace : Announces s e.observeDesired
        (e.observeDesired.replaceMetadata unicode rows acquiredAt) :=
      .of_same ⟨[], (List.append_nil _).symm⟩ rfl
    rcases h with hbefore | hafter
    · refine ⟨e.observeDesired, announces_observeDesired e s, ?_,
        hreplace.trans (announces_observeDesired _ s)⟩
      rw [observeDesired_admission (contracts_of_reason hbefore) hdesired, hnot hbefore]
    · refine ⟨e.setMetadata unicode rows acquiredAt, announces_step unicode e (.setMetadata rows acquiredAt),
        ?_, .refl _⟩
      rw [setMetadata, (observeDesired_fields _ s).1] at hafter
      rw [setMetadata, observeDesired_admission (contracts_of_reason hafter), hnot hafter]
      exact (observeDesired_fields e s).2.2.symm ▸ hdesired
  | retain desired =>
    refine ⟨e.retain desired, announces_step unicode e (.retain desired), ?_, .refl _⟩
    have hreason : ({ e with
        desired := desired
        admission := fun s => if s ∈ desired then e.admission s else none } :
          StreamEvidence).currentReason s ≠ none := h
    rw [retain, observeDesired_admission (contracts_of_reason hreason) hdesired, hnot hreason]
  | query symbol =>
    obtain ⟨rfl, hreason⟩ := h
    refine ⟨e.observe symbol, announces_observe e symbol symbol, ?_, .refl _⟩
    rw [observe_admission (contracts_of_reason hreason) hdesired, hnot hreason]
  | acceptsEventTimes | moveClock => exact h.elim

theorem Lapses.contracts {unicode : UnicodeTables}
    (h : Lapses unicode s e a) : (e.step unicode a).contracts ≠ none := by
  cases a with
  | setMetadata rows acquiredAt =>
    rw [step, setMetadata, (observeDesired_fields _ s).2.1]
    exact Option.some_ne_none _
  | retain desired => exact contracts_step unicode _ (contracts_of_reason h)
  | query symbol => exact contracts_step unicode _ (contracts_of_reason h.2)
  | acceptsEventTimes | moveClock => exact h.elim

theorem Announces.called {e e' : StreamEvidence} {valid : Bool} (h : Announces s e e')
    (hbefore : e.admission s ≠ some valid) (hafter : e'.admission s = some valid) :
    ∃ new, e'.calls = e.calls ++ new ∧ ∃ t, (⟨s, valid, t⟩ : AdmissionCall) ∈ new := by
  obtain ⟨new, hnew, hcalled⟩ := h
  exact ⟨new, hnew, (hcalled valid hafter).resolve_left hbefore⟩

end StreamEvidence

open StreamEvidence

/-- Between two queries that report a desired symbol admitted, every lapse of its lease that was
looked up while it was desired has been announced: the callback was called with `False` and after
that with `True` before the later query returned. -/
theorem lapses_are_announced (unicode : UnicodeTables) (clock : Instant) (symbol : String)
    (before between : List EvidenceAction)
    (hdesired : symbol ∈ ((initial clock).run unicode before).desired)
    (hdesired_last :
      symbol ∈ ((initial clock).run unicode (before ++ .query symbol :: between)).desired)
    (hfirst : (((initial clock).run unicode before).identityReason symbol).1 = none)
    (hlast : (((initial clock).run unicode (before ++ .query symbol :: between)).identityReason
      symbol).1 = none)
    (hlapse : ∃ pre a post, between = pre ++ a :: post ∧
      Lapses unicode symbol ((initial clock).run unicode (before ++ .query symbol :: pre)) a ∧
      DesiredAt symbol ((initial clock).run unicode (before ++ .query symbol :: pre)) a) :
    ∃ new, (((initial clock).run unicode (before ++ .query symbol :: between)).identityReason
        symbol).2.calls =
          ((initial clock).run unicode (before ++ [.query symbol])).calls ++ new ∧
      ∃ t t', [⟨symbol, false, t⟩, ⟨symbol, true, t'⟩].Sublist new := by
  obtain ⟨pre, a, post, rfl, hlapse, hlooked⟩ := hlapse
  have hunrecorded := Unrecorded.run unicode clock before
  set start := (initial clock).run unicode before with hstart
  set first := start.observe symbol with hfirst_eq
  have hrun : ∀ acts, (initial clock).run unicode (before ++ .query symbol :: acts) =
      first.run unicode acts := fun acts => by
    rw [run, Transition.run_append]
    rfl
  rw [hrun] at hlapse hlooked hdesired_last hlast ⊢
  rw [hrun []]
  -- at the first report no lapse is recorded
  have hunlapsed : first.admission symbol ≠ some false := by
    by_cases hcontracts : start.contracts = none
    · rw [hunrecorded.observe symbol ((start.observe_fields symbol symbol).2.1.trans hcontracts)]
      exact (Option.some_ne_none _).symm
    · have hreason : start.currentReason symbol = none := hfirst
      rw [hfirst_eq, observe_admission hcontracts hdesired, hreason]
      decide
  obtain ⟨m, hm, hlapsed, hm'⟩ := hlapse.recorded hlooked
  obtain ⟨new, hnew, t, ht⟩ := ((announces_run unicode first pre).trans hm).called hunlapsed
    hlapsed
  -- from the lapse to the later report
  set last := first.run unicode (pre ++ a :: post) with hlast_eq
  have hlast_run : last = ((first.run unicode pre).step unicode a).run unicode post := by
    rw [hlast_eq, run, Transition.run_append]
    rfl
  have hcontracts : last.contracts ≠ none := by
    rw [hlast_run]
    exact Transition.run_invariant (step unicode) (I := fun e => e.contracts ≠ none)
      (fun _ b h => contracts_step unicode b h) hlapse.contracts post
  have hadmitted : (last.observe symbol).admission symbol = some true := by
    have hreason : last.currentReason symbol = none := hlast
    rw [observe_admission hcontracts hdesired_last, hreason]
    rfl
  have hrest : Announces symbol m (last.observe symbol) := by
    refine hm'.trans (.trans ?_ (announces_observe last symbol symbol))
    rw [hlast_run]
    exact announces_run unicode _ post
  obtain ⟨new', hnew', t', ht'⟩ := hrest.called (by rw [hlapsed]; decide) hadmitted
  refine ⟨new ++ new', ?_, t, t', ?_⟩
  · show (last.observe symbol).calls = first.calls ++ (new ++ new')
    rw [hnew', hnew, List.append_assoc]
  · exact (List.singleton_sublist.2 ht).append (List.singleton_sublist.2 ht')

namespace Sample

def asciiTables : UnicodeTables := ⟨Char.isAlphanum, upper, lower⟩

def btcRow : MetadataRow :=
  ⟨"BTCUSDT", some "BTCUSDT", some "BTC", some "USDT", some "USDT", some "PERPETUAL",
    some "TRADING"⟩

def listing (acquiredAt : Instant) : EvidenceAction :=
  .setMetadata (some [some btcRow]) (some acquiredAt)

def admitted : List EvidenceAction := [.retain ["BTCUSDT"], listing 0]

/-- The lease expires and is renewed, without a query. -/
def renewedLate : List EvidenceAction := [.moveClock 400000000, listing 400000000]

/-- The lease expires and is renewed while the symbol is not desired. -/
def renewedWhileDropped : List EvidenceAction :=
  [.retain [], .moveClock 400000000, .query "BTCUSDT", listing 400000000, .retain ["BTCUSDT"]]

end Sample

/-- The lease of a quiet stream expires and is renewed. -/
theorem sample_lapse_is_announced :
    ∃ new, (((initial 0).run Sample.asciiTables (Sample.admitted ++ .query "BTCUSDT" ::
        Sample.renewedLate)).identityReason "BTCUSDT").2.calls =
          ((initial 0).run Sample.asciiTables (Sample.admitted ++ [.query "BTCUSDT"])).calls ++ new ∧
      ∃ t t', [⟨"BTCUSDT", false, t⟩, ⟨"BTCUSDT", true, t'⟩].Sublist new := by
  refine lapses_are_announced Sample.asciiTables 0 "BTCUSDT" Sample.admitted Sample.renewedLate
    (by decide +kernel) (by decide +kernel) (by decide +kernel) (by decide +kernel)
    ⟨[.moveClock 400000000], Sample.listing 400000000, [], rfl, .inl (by decide +kernel), ?_⟩
  show "BTCUSDT" ∈ ((initial 0).run _ _).desired
  decide +kernel

/-- A symbol that is dropped while its lease lapses, and a query looks the lapse up, comes
back without a call with `False`. -/
theorem dropped_lapse_is_silent :
    (((initial 0).run Sample.asciiTables Sample.admitted).identityReason "BTCUSDT").1 = none ∧
      Lapses Sample.asciiTables "BTCUSDT" ((initial 0).run Sample.asciiTables
        (Sample.admitted ++ [.query "BTCUSDT", .retain [], .moveClock 400000000]))
        (.query "BTCUSDT") ∧
      "BTCUSDT" ∈ ((initial 0).run Sample.asciiTables
        (Sample.admitted ++ .query "BTCUSDT" :: Sample.renewedWhileDropped)).desired ∧
      (((initial 0).run Sample.asciiTables (Sample.admitted ++ .query "BTCUSDT" ::
        Sample.renewedWhileDropped)).identityReason "BTCUSDT").1 = none ∧
      ∀ c ∈ (((initial 0).run Sample.asciiTables (Sample.admitted ++ .query "BTCUSDT" ::
        Sample.renewedWhileDropped)).identityReason "BTCUSDT").2.calls, c.valid = true := by
  refine ⟨by decide +kernel, ⟨rfl, by decide +kernel⟩, by decide +kernel, by decide +kernel, ?_⟩
  decide +kernel

end CandleCraft.Microstructure
