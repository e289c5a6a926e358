import CandleCraft.Basic
import CandleCraft.Kernel.Text
import CandleCraft.Kernel.Transition
import Mathlib.Algebra.Order.Floor.Ring
import Mathlib.Data.Rat.Floor
import Mathlib.Tactic.Linarith

/-!
# The origin decisions of a runtime epoch

`evaluate_symbol_origin` grants a symbol of a run its origin, or says why not, and
`persist_blocked_symbol_origin` records a refusal. Both insert at most one row for a run and a
symbol.

A timestamp is the instant that it denotes, or `none` when it does not parse. Instants are compared
after they were cut to seconds.
-/

namespace CandleCraft.Runtime.Origin

open PyText

section Times

/-- `parse_utc` of the timestamp of an instant. -/
def parseUtc (value : Option ℚ) : Option ℤ := value.map fun seconds => ⌊seconds * 1000000⌋

def isoUtc (value : ℤ) : ℤ := value - value % 1000000

def comparableUtc (value : Option ℚ) : Option ℤ := (parseUtc value).map isoUtc

/-- `strictly_after`, for a text that parses and the text of a cutoff. -/
def strictlyAfter (value : ℤ) (cutoff : Option ℤ) : Bool :=
  match cutoff with
  | none => false
  | some cutoff => decide (cutoff < value)

/-- The texts of two instants are in the order of the instants, where they differ. -/
theorem lt_of_comparableUtc {value : Option ℚ} {cutoff : ℚ} {text : ℤ}
    (hvalue : comparableUtc value = some text)
    (hafter : strictlyAfter text (comparableUtc (some cutoff)) = true) :
    ∃ seconds, value = some seconds ∧ cutoff < seconds := by
  cases value with
  | none => cases hvalue
  | some seconds =>
    refine ⟨seconds, rfl, ?_⟩
    have htext : isoUtc ⌊seconds * 1000000⌋ = text := Option.some.inj hvalue
    have hlt : isoUtc ⌊cutoff * 1000000⌋ < text := of_decide_eq_true hafter
    -- both are whole seconds, so that they are at least a second apart
    have hwhole : ⌊cutoff * 1000000⌋ + 1 ≤ ⌊seconds * 1000000⌋ := by
      unfold isoUtc at htext hlt
      omega
    have hle : (⌊cutoff * 1000000⌋ : ℚ) + 1 ≤ ⌊seconds * 1000000⌋ := by exact_mod_cast hwhole
    have hcutoff := Int.lt_floor_add_one (cutoff * 1000000)
    have hseconds := Int.floor_le (seconds * 1000000)
    linarith

end Times

section Rows

/-- `RuntimeEpochIdentity`, as it is configured. -/
structure EpochIdentity where
  epochId : String
  cutoff : ℚ

/-- `RuntimeEpochRecord`, as it is stored. -/
structure EpochRecord where
  epochId : String
  cutoffAt : Option ℤ

def EpochIdentity.record (identity : EpochIdentity) : EpochRecord :=
  ⟨identity.epochId, comparableUtc (some identity.cutoff)⟩

/-- A row of `runtime_operational_runs`. -/
structure RunRow where
  runId : String
  runtimeEpochId : String
  registeredAt : Option ℤ
  deriving DecidableEq

inductive OriginStatus where
  | granted
  | blocked
  deriving DecidableEq

/-- A row of `runtime_operational_origins`. -/
structure OriginRow where
  originId : String
  runtimeEpochId : String
  runId : String
  symbol : String
  evaluationCompletedAt : Option ℤ
  decisionCutoffAt : Option ℤ
  producerObservedAt : Option ℤ
  originKind : String
  status : OriginStatus
  blockReason : Option String
  createdAt : Option ℤ
  deriving DecidableEq

/-- The columns of `UNIQUE(run_id, symbol)`. -/
def OriginRow.key (row : OriginRow) : String × String := (row.runId, row.symbol)

/-- The table `runtime_operational_origins` with its constraints. -/
structure Origins where
  rows : List OriginRow
  ids : (rows.map OriginRow.originId).Nodup
  keys : (rows.map OriginRow.key).Nodup

/-- What a transaction raises. -/
inductive OriginError where
  /-- `RuntimeEpochOriginError`. -/
  | required (field : String)
  /-- `sqlite3.IntegrityError`. -/
  | integrity
  deriving DecidableEq

namespace Origins

/-- `SELECT * FROM runtime_operational_origins WHERE run_id = ? AND symbol = ?`. -/
def existing (origins : Origins) (key : String × String) : Option OriginRow :=
  origins.rows.find? fun row => decide (row.key = key)

/-- `INSERT INTO runtime_operational_origins`. -/
def insert (origins : Origins) (row : OriginRow) : Except OriginError Origins :=
  if hfresh : row.originId ∉ origins.rows.map OriginRow.originId ∧
      row.key ∉ origins.rows.map OriginRow.key then
    .ok {
      rows := origins.rows ++ [row]
      ids := by
        rw [List.map_append, List.map_singleton]
        exact List.nodup_append_comm.1 (List.nodup_cons.2 ⟨hfresh.1, origins.ids⟩)
      keys := by
        rw [List.map_append, List.map_singleton]
        exact List.nodup_append_comm.1 (List.nodup_cons.2 ⟨hfresh.2, origins.keys⟩) }
  else .error .integrity

theorem insert_rows {origins origins' : Origins} {row : OriginRow}
    (h : origins.insert row = .ok origins') : origins'.rows = origins.rows ++ [row] := by
  unfold insert at h
  split at h
  · cases h
    rfl
  · cases h

theorem eq_of_key (origins : Origins) {row row' : OriginRow} (hrow : row ∈ origins.rows)
    (hrow' : row' ∈ origins.rows) (hkey : row.key = row'.key) : row = row' :=
  List.inj_on_of_nodup_map origins.keys hrow hrow' hkey

variable {key : String × String} {origins : Origins}

theorem existing_some {row : OriginRow} (h : origins.existing key = some row) :
    row ∈ origins.rows ∧ row.key = key :=
  ⟨List.mem_of_find?_eq_some h, of_decide_eq_true (List.find?_some h :)⟩

theorem existing_none (h : origins.existing key = none) : ∀ row ∈ origins.rows, row.key ≠ key :=
  fun row hrow hkey => List.find?_eq_none.1 h row hrow (decide_eq_true hkey)

end Origins

end Rows

section Decisions

/-- `SymbolOriginDecision`. -/
structure Decision where
  granted : Bool
  originId : Option String
  runId : String
  symbol : String
  reason : String
  evaluationCompletedAt : Option ℤ := none
  decisionCutoffAt : Option ℤ := none
  producerObservedAt : Option ℤ := none
  originKind : String := "unspecified"
  deriving DecidableEq

def blocked (runId symbol reason : String) : Decision where
  granted := false
  originId := none
  runId := runId
  symbol := symbol
  reason := reason

/-- The arguments of `evaluate_symbol_origin`. -/
structure Request where
  runId : String
  symbol : String
  evaluationKind : String
  evaluationCompletedAt : Option ℚ
  decisionCutoffAt : Option ℚ
  producerObservedAt : Option ℚ

def Request.key (request : Request) : String × String :=
  (strip request.runId, upper (strip request.symbol))

def requiredText (value field : String) : Except OriginError String :=
  if strip value = "" ∨ upper (strip value) = NA then .error (.required field)
  else .ok (strip value)

/-- The kind of an evaluation: `str(evaluation_kind or UNSPECIFIED).strip().lower()`, or the
unspecified one. -/
def evaluationKind (kind : String) : String :=
  if lower (strip kind) = "" then "unspecified" else lower (strip kind)

/-- The checks of `evaluate_symbol_origin` on the kind and the times of an evaluation, with the
reason for a block or the times as they are stored. -/
def screen (epoch : EpochRecord) (run : RunRow) (request : Request) :
    Except String (ℤ × ℤ × ℤ) :=
  let kind := evaluationKind request.evaluationKind
  if kind ≠ "live_scan" then .error ("evaluation_kind_not_live:" ++ kind)
  else
    match comparableUtc request.evaluationCompletedAt, comparableUtc request.decisionCutoffAt,
      comparableUtc request.producerObservedAt with
    | none, _, _ => .error "evaluation_completed_at_missing"
    | some _, none, _ => .error "decision_cutoff_at_missing"
    | some _, some _, none => .error "producer_observed_at_missing"
    | some evaluationAt, some cutoffAt, some producerAt =>
      if ¬ strictlyAfter evaluationAt epoch.cutoffAt then
        .error "evaluation_not_after_epoch_cutoff"
      else if ¬ strictlyAfter cutoffAt epoch.cutoffAt then
        .error "decision_cutoff_not_after_epoch_cutoff"
      else if ¬ strictlyAfter producerAt epoch.cutoffAt then
        .error "producer_observation_not_after_epoch_cutoff"
      else if (run.registeredAt.any fun registeredAt => decide (evaluationAt < registeredAt)) then
        .error "evaluation_before_run_registration"
      else if evaluationAt < cutoffAt then .error "decision_cutoff_after_evaluation"
      else .ok (evaluationAt, cutoffAt, producerAt)

def decisionOfRow (row : OriginRow) : Decision :=
  match row.status with
  | .granted =>
    { granted := true
      originId := some row.originId
      runId := row.runId
      symbol := row.symbol
      reason := NA
      evaluationCompletedAt := row.evaluationCompletedAt
      decisionCutoffAt := row.decisionCutoffAt
      producerObservedAt := row.producerObservedAt
      originKind := row.originKind }
  | .blocked =>
    blocked row.runId row.symbol <|
      match row.blockReason with
      | none => "origin_previously_blocked"
      | some reason => if reason = "" then "origin_previously_blocked" else reason

/-- `evaluate_symbol_origin`; `fresh` is `uuid4().hex`. -/
def evaluateSymbolOrigin (epoch : EpochRecord) (runs : List RunRow) (origins : Origins)
    (request : Request) (fresh : String) : Except OriginError (Origins × Decision) := do
  let runId ← requiredText request.runId "run_id"
  let symbol := upper (strip request.symbol)
  if symbol = "" then .ok (origins, blocked runId "UNKNOWN" "missing_symbol")
  else
    match runs.find? fun run => decide (run.runId = runId) with
    | none => .ok (origins, blocked runId symbol "run_not_registered")
    | some run =>
      if run.runtimeEpochId ≠ epoch.epochId then
        .ok (origins, blocked runId symbol "run_epoch_mismatch")
      else
        match screen epoch run request with
        | .error reason => .ok (origins, blocked runId symbol reason)
        | .ok (evaluationAt, cutoffAt, producerAt) =>
          match origins.existing (runId, symbol) with
          | some row => .ok (origins, decisionOfRow row)
          | none => do
            let origins ← origins.insert {
              originId := fresh
              runtimeEpochId := epoch.epochId
              runId := runId
              symbol := symbol
              evaluationCompletedAt := some evaluationAt
              decisionCutoffAt := some cutoffAt
              producerObservedAt := some producerAt
              originKind := "live_fresh"
              status := .granted
              blockReason := none
              createdAt := some evaluationAt }
            .ok (origins, {
              granted := true
              originId := some fresh
              runId := runId
              symbol := symbol
              reason := NA
              evaluationCompletedAt := some evaluationAt
              decisionCutoffAt := some cutoffAt
              producerObservedAt := some producerAt
              originKind := "live_fresh" })

def persistBlockedSymbolOrigin (epoch : EpochRecord) (origins : Origins) (decision : Decision)
    (fresh : String) : Except OriginError Origins :=
  if decision.granted = true ∨ decision.originId ≠ none then .ok origins
  else
    match origins.existing (decision.runId, decision.symbol) with
    | some _ => .ok origins
    | none =>
      origins.insert {
        originId := fresh
        runtimeEpochId := epoch.epochId
        runId := decision.runId
        symbol := decision.symbol
        evaluationCompletedAt := decision.evaluationCompletedAt
        decisionCutoffAt := decision.decisionCutoffAt
        producerObservedAt := decision.producerObservedAt
        originKind := decision.originKind
        status := .blocked
        blockReason := some decision.reason
        createdAt := decision.evaluationCompletedAt }

end Decisions

section Grants

variable {request : Request}

variable {origins origins' : Origins} {identity : EpochIdentity} {decision : Decision}
  {runs : List RunRow}

/-- The times of an evaluation that passes the checks are after the cutoff. -/
theorem screen_ok {run : RunRow} {times : ℤ × ℤ × ℤ}
    (h : screen identity.record run request = .ok times) :
    (∃ seconds, request.evaluationCompletedAt = some seconds ∧ identity.cutoff < seconds) ∧
    (∃ seconds, request.decisionCutoffAt = some seconds ∧ identity.cutoff < seconds) ∧
    ∃ seconds, request.producerObservedAt = some seconds ∧ identity.cutoff < seconds := by
  unfold screen at h
  dsimp only at h
  split at h
  · cases h
  · split at h
    · cases h
    · cases h
    · cases h
    next evaluationAt cutoffAt producerAt hevaluation hcutoff hproducer =>
      split at h
      · cases h
      next hevaluationAfter =>
        split at h
        · cases h
        next hcutoffAfter =>
          split at h
          · cases h
          next hproducerAfter =>
            rw [not_not] at hevaluationAfter hcutoffAfter hproducerAfter
            exact ⟨lt_of_comparableUtc hevaluation hevaluationAfter,
              lt_of_comparableUtc hcutoff hcutoffAfter,
              lt_of_comparableUtc hproducer hproducerAfter⟩

theorem requiredText_ok {value field text : String} (h : requiredText value field = .ok text) :
    text = strip value := by
  unfold requiredText at h
  split at h
  · cases h
  · exact (Except.ok.inj h).symm

/-- What an evaluation can do: refuse, or pass the checks and find the row of its run and symbol, or
insert it. -/
theorem evaluate_cases {epoch : EpochRecord} {fresh : String}
    (h : evaluateSymbolOrigin epoch runs origins request fresh = .ok (origins', decision)) :
    (origins' = origins ∧ decision.granted = false) ∨
    (∃ run times, screen epoch run request = .ok times) ∧
      ((∃ row, origins.existing request.key = some row ∧ origins' = origins ∧
          decision = decisionOfRow row) ∨
        origins.existing request.key = none ∧ decision.originId = some fresh ∧
          ∃ row, origins.insert row = .ok origins' ∧ row.key = request.key ∧
            row.status = .granted ∧ row.originId = fresh) := by
  unfold evaluateSymbolOrigin at h
  obtain ⟨runId, hrun, h⟩ := Scan.bind_ok h
  obtain rfl := requiredText_ok hrun
  dsimp only at h
  split at h
  · cases h
    exact .inl ⟨rfl, rfl⟩
  · split at h
    · cases h
      exact .inl ⟨rfl, rfl⟩
    next run _ =>
      split at h
      · cases h
        exact .inl ⟨rfl, rfl⟩
      · split at h
        · cases h
          exact .inl ⟨rfl, rfl⟩
        next evaluationAt cutoffAt producerAt hscreen =>
          -- every check has passed: the row that is there decides, or a new one is inserted
          refine .inr ⟨⟨run, _, hscreen⟩, ?_⟩
          split at h
          next row hexisting =>
            cases h
            exact .inl ⟨row, hexisting, rfl, rfl⟩
          next hnone =>
            obtain ⟨inserted, hinsert, h⟩ := Scan.bind_ok h
            cases h
            exact .inr ⟨hnone, rfl, _, hinsert, rfl, rfl, rfl⟩

theorem decisionOfRow_granted {row : OriginRow} (h : (decisionOfRow row).granted = true) :
    row.status = .granted ∧ (decisionOfRow row).originId = some row.originId := by
  unfold decisionOfRow at h ⊢
  cases hstatus : row.status with
  | granted => exact ⟨rfl, rfl⟩
  | blocked => rw [hstatus] at h; cases h

/-- A grant is that of the row of its run and symbol, which was there or is inserted now. -/
theorem grant_cases {fresh : String}
    (h : evaluateSymbolOrigin identity.record runs origins request fresh = .ok (origins', decision))
    (hgranted : decision.granted = true) :
    (∃ run times, screen identity.record run request = .ok times) ∧
    (∀ row ∈ origins.rows, row.key = request.key →
      row.status = .granted ∧ decision.originId = some row.originId) ∧
    ∃ row ∈ origins'.rows, row.key = request.key ∧ row.status = .granted ∧
      decision.originId = some row.originId := by
  rcases evaluate_cases h with ⟨-, hrefused⟩ | ⟨hscreen, hcases⟩
  · rw [hrefused] at hgranted
    cases hgranted
  · refine ⟨hscreen, ?_⟩
    rcases hcases with ⟨row, hexisting, rfl, rfl⟩ | ⟨hnone, hid, row, hinsert, hkey, hstatus, rfl⟩
    · obtain ⟨hrow, hkey⟩ := Origins.existing_some hexisting
      obtain ⟨hstatus, hid⟩ := decisionOfRow_granted hgranted
      refine ⟨fun other hother hsame => ?_, row, hrow, hkey, hstatus, hid⟩
      rw [origins'.eq_of_key hother hrow (hsame.trans hkey.symm)]
      exact ⟨hstatus, hid⟩
    · refine ⟨fun other hother hsame => absurd hsame (Origins.existing_none hnone other hother),
        row, ?_, hkey, hstatus, hid⟩
      rw [Origins.insert_rows hinsert]
      exact List.mem_append_right _ List.mem_cons_self

end Grants

section Runs

/-- The transactions on the origins, each with the epoch and the runs that it reads. A transaction
that raises is rolled back. -/
inductive Transaction where
  | evaluate (identity : EpochIdentity) (runs : List RunRow) (request : Request) (fresh : String)
  | persistBlocked (identity : EpochIdentity) (decision : Decision) (fresh : String)

def step (origins : Origins) : Transaction → Origins
  | .evaluate identity runs request fresh =>
    match evaluateSymbolOrigin identity.record runs origins request fresh with
    | .ok (origins', _) => origins'
    | .error _ => origins
  | .persistBlocked identity decision fresh =>
    match persistBlockedSymbolOrigin identity.record origins decision fresh with
    | .ok origins' => origins'
    | .error _ => origins

structure Grant where
  identity : EpochIdentity
  request : Request
  originId : Option String

def grantOf (origins : Origins) : Transaction → Option Grant
  | .evaluate identity runs request fresh =>
    match evaluateSymbolOrigin identity.record runs origins request fresh with
    | .ok (_, decision) =>
      if decision.granted then some ⟨identity, request, decision.originId⟩ else none
    | .error _ => none
  | .persistBlocked _ _ _ => none

def grants : Origins → List Transaction → List Grant
  | _, [] => []
  | origins, t :: ts => (grantOf origins t).toList ++ grants (step origins t) ts

theorem rows_step (origins : Origins) (t : Transaction) :
    origins.rows <+: (step origins t).rows := by
  have hinsert : ∀ {row origins'}, origins.insert row = .ok origins' →
      origins.rows <+: origins'.rows := by
    intro row origins' h
    rw [Origins.insert_rows h]
    exact List.prefix_append _ _
  cases t with
  | evaluate identity runs request fresh =>
    unfold step
    dsimp only
    split
    next origins' decision h =>
      rcases evaluate_cases h with ⟨rfl, -⟩ | ⟨-, ⟨row, -, rfl, -⟩ | ⟨-, -, row, hrow, -⟩⟩
      · exact List.prefix_rfl
      · exact List.prefix_rfl
      · exact hinsert hrow
    next => exact List.prefix_rfl
  | persistBlocked identity decision fresh =>
    unfold step
    dsimp only
    split
    next origins' h =>
      unfold persistBlockedSymbolOrigin at h
      split at h
      · cases h
        exact List.prefix_rfl
      · split at h
        · cases h
          exact List.prefix_rfl
        · exact hinsert h
    next => exact List.prefix_rfl

theorem rows_run (origins : Origins) (ts : List Transaction) :
    origins.rows <+: (Transition.run step origins ts).rows := by
  induction ts generalizing origins with
  | nil => exact List.prefix_rfl
  | cons t ts ih => exact (rows_step origins t).trans (ih (step origins t))

/-- What a grant says about the rows before and after its transaction. -/
structure Granted (origins origins' : Origins) (grant : Grant) : Prop where
  passed : ∃ run times, screen grant.identity.record run grant.request = .ok times
  before : ∀ row ∈ origins.rows, row.key = grant.request.key →
    row.status = .granted ∧ grant.originId = some row.originId
  after : ∃ row ∈ origins'.rows, row.key = grant.request.key ∧ row.status = .granted ∧
    grant.originId = some row.originId

variable {origins : Origins}

theorem granted_of_mem_grantOf {t : Transaction} {grant : Grant}
    (h : grantOf origins t = some grant) : Granted origins (step origins t) grant := by
  cases t with
  | persistBlocked identity decision fresh => cases h
  | evaluate identity runs request fresh =>
    unfold grantOf at h
    unfold step
    dsimp only at h ⊢
    split at h
    next origins' decision heval =>
      split at h
      next hgranted =>
        cases h
        obtain ⟨hscreen, hbefore, hafter⟩ := grant_cases heval hgranted
        exact ⟨hscreen, hbefore, hafter⟩
      · cases h
    · cases h

theorem granted_of_mem_grants {ts : List Transaction} {grant : Grant}
    (h : grant ∈ grants origins ts) : Granted origins (Transition.run step origins ts) grant := by
  induction ts generalizing origins with
  | nil => cases h
  | cons t ts ih =>
    rw [Transition.run_cons]
    rcases List.mem_append.1 h with hhead | htail
    · have hgranted := granted_of_mem_grantOf (Option.mem_toList.1 hhead)
      obtain ⟨row, hrow, hkey⟩ := hgranted.after
      exact ⟨hgranted.passed, hgranted.before, row, (rows_run _ ts).subset hrow, hkey⟩
    · have hgranted := ih htail
      exact ⟨hgranted.passed,
        fun row hrow => hgranted.before row ((rows_step origins t).subset hrow), hgranted.after⟩

/-- For every sequence of transactions on a table of origins: the rows stay as they are and others
come after them, a run and a symbol have one row, no evaluation is granted that finds a blocked row,
the grants of a run and a symbol have one origin, and the times of a grant are after the cutoff of
its epoch. -/
theorem origin_decisions_are_final (origins : Origins) (ts : List Transaction) :
    origins.rows <+: (Transition.run step origins ts).rows ∧
    (∀ row ∈ (Transition.run step origins ts).rows, ∀ row' ∈ (Transition.run step origins ts).rows,
      row.key = row'.key → row = row') ∧
    (∀ grant ∈ grants origins ts, ∀ row ∈ origins.rows, row.key = grant.request.key →
      row.status = .granted) ∧
    (∀ grant ∈ grants origins ts, ∃ originId, grant.originId = some originId ∧
      ∀ other ∈ grants origins ts, other.request.key = grant.request.key →
        other.originId = some originId) ∧
    ∀ grant ∈ grants origins ts,
      (∃ seconds, grant.request.evaluationCompletedAt = some seconds ∧
        grant.identity.cutoff < seconds) ∧
      (∃ seconds, grant.request.decisionCutoffAt = some seconds ∧
        grant.identity.cutoff < seconds) ∧
      ∃ seconds, grant.request.producerObservedAt = some seconds ∧
        grant.identity.cutoff < seconds := by
  refine ⟨rows_run origins ts, fun row hrow row' hrow' => Origins.eq_of_key _ hrow hrow',
    fun grant hgrant row hrow hkey => ((granted_of_mem_grants hgrant).before row hrow hkey).1,
    fun grant hgrant => ?_, fun grant hgrant => ?_⟩
  · obtain ⟨row, hrow, hkey, -, hid⟩ := (granted_of_mem_grants hgrant).after
    refine ⟨row.originId, hid, fun other hother hsame => ?_⟩
    obtain ⟨row', hrow', hkey', -, hid'⟩ := (granted_of_mem_grants hother).after
    rw [hid', Origins.eq_of_key _ hrow' hrow (hkey'.trans (hsame.trans hkey.symm))]
  · obtain ⟨run, times, hscreen⟩ := (granted_of_mem_grants hgrant).passed
    exact screen_ok hscreen

-- Half a second after the cutoff is the same second, and the next one is granted once.
example :
    let identity : EpochIdentity := ⟨"epoch", 21 / 2⟩
    let evaluate := fun (seconds : ℚ) fresh => Transaction.evaluate identity
      [⟨"run", "epoch", some 10000000⟩]
      ⟨"run", "btcusdt", "live_scan", some seconds, some seconds, some seconds⟩ fresh
    (grants ⟨[], List.nodup_nil, List.nodup_nil⟩
      [evaluate (109 / 10) "a", evaluate (111 / 10) "b", evaluate 12 "c"]).map Grant.originId =
        [some "b", some "b"] := by
  decide +kernel

end Runs

end CandleCraft.Runtime.Origin
