import CandleCraft.Kernel.Decimal
import CandleCraft.Outbox.Protocol

/-!
# What counts as evidence of a transmission

`adapt_telegram_send_result` decides what the sender's record of one provider response proves;
`normalize_transport_outcome` looks at the decision again. The record is a Python dictionary with
values of any type, and whatever proves neither an acknowledgment nor the absence of a transmission
is `UNCERTAIN`.
-/

namespace CandleCraft.Outbox

open PyText

section Values

inductive PyFloat where
  | finite (value : ℚ)
  | infinite (negative : Bool)
  | nan
  deriving DecidableEq

/-- A value of a provider record. `other` is a value of any type not listed. -/
inductive PyValue where
  | none
  | bool (value : Bool)
  | int (value : ℤ)
  | float (value : PyFloat)
  | text (value : String)
  | other
  deriving DecidableEq

def PyValue.Absent (value : PyValue) : Prop :=
  value = .none ∨ value = .text "" ∨ value = .text NA

instance (value : PyValue) : Decidable value.Absent :=
  inferInstanceAs (Decidable (_ ∨ _ ∨ _))

/-- `_positive_int`: neither a boolean nor a float is one. -/
def PyValue.PositiveInt : PyValue → Prop
  | .int n => 0 < n
  | _ => False

instance : DecidablePred PyValue.PositiveInt
  | .int n => inferInstanceAs (Decidable (0 < n))
  | .none | .bool _ | .float _ | .text _ | .other => isFalse id

/-- The status codes that the adapter accepts, if one is given. -/
def PyValue.httpStatus : PyValue → Option (Option ℤ)
  | .none => some Option.none
  | .int n => if 100 ≤ n ∧ n ≤ 599 then some (some n) else Option.none
  | _ => Option.none

/-- The delays that the adapter accepts, if one is given, in microseconds. An integer that no
`float` can hold makes `math.isfinite` raise. -/
def PyValue.delay : PyValue → Option (Option ℤ)
  | .none => some Option.none
  | .int n => if 0 ≤ n ∧ n < 2 ^ 1024 - 2 ^ 970 then some (some (n * 1000000)) else Option.none
  | .float (.finite q) =>
    if 0 ≤ q then some (some (PyDecimal.roundHalfEven (q * 1000000))) else Option.none
  | _ => Option.none

/-- `_valid_sent_at`, together with the instant; `parseIso` reads a text that names its offset. -/
def PyValue.sentAt (parseIso : String → Option Instant) : PyValue → Option (Option Instant)
  | .none => some Option.none
  | .text s => (parseIso s).map some
  | _ => Option.none

end Values

/-- `TelegramTransportRequest`. -/
structure TransportRequest where
  eventId : ℤ
  reservationId : ℤ
  eventKey : String
  attemptId : String
  partId : ℤ
  partIndex : ℤ
  partCount : ℤ
  payloadText : String
  payloadHash : String
  destinationChatId : String
  destinationKind : String
  messageHash : String

/-- A dictionary of the sender; a missing key reads as `None`. -/
structure ProviderRecord where
  get : String → PyValue

/-- `TelegramSendResult`. `telegramResults` is missing if it is not a tuple, and an entry of it if
it is not a dictionary. -/
structure SendResult where
  status : String
  telegramResults : Option (List (Option ProviderRecord)) := some []
  errorMessage : String := NA
  deliveryState : String := NA

inductive SenderReturn where
  | foreign
  | result (r : SendResult)

/-- The functions of the standard library that the adapter calls. -/
structure Library where
  sha256 : String → String
  parseIso : String → Option Instant

section Adapter

variable (lib : Library) (request : TransportRequest)

/-- `_valid_request`. -/
def TransportRequest.Valid : Prop :=
  (∀ n ∈ [request.eventId, request.reservationId, request.partId, request.partIndex,
    request.partCount], 0 < n) ∧ request.partIndex ≤ request.partCount ∧
  (∀ text ∈ [request.eventKey, request.attemptId, request.messageHash, request.destinationChatId],
    strip text ≠ "" ∧ text ≠ NA) ∧
  request.destinationKind ∈ ["public_chat", "signal_channel"] ∧
  strip request.payloadText ≠ "" ∧ request.payloadText.length ≤ 4096 ∧
  request.payloadHash = lib.sha256 request.payloadText

instance : Decidable (request.Valid lib) :=
  inferInstanceAs (Decidable (_ ∧ _ ∧ _ ∧ _ ∧ _ ∧ _ ∧ _))

def outcome (state category : String) (httpStatus : Option ℤ := none) : TransportOutcome where
  deliveryState := state
  httpStatus := httpStatus
  errorCategory := some category
  error := some category

variable (r : SendResult) (raw : ProviderRecord) (httpStatus : Option ℤ)

/-- The part of the adapter for a result that claims success. -/
def adaptSuccess : TransportOutcome :=
  let unverified := outcome "UNCERTAIN" "adapter_unverified_success" httpStatus
  match raw.get "message_id", raw.get "chat_id", (raw.get "sent_at").sentAt lib.parseIso with
  | .int messageId, .int chatId, some sentAt =>
    if httpStatus = some 200 ∧ 0 < messageId ∧ chatId ≠ 0 ∧
        toString chatId = request.destinationChatId ∧ (PyValue.text r.errorMessage).Absent ∧
        (raw.get "error").Absent ∧ (raw.get "error_category").Absent ∧
        raw.get "rate_limited" = .bool false ∧ raw.get "retry_after" = .none then
      { deliveryState := "SENT"
        httpStatus := httpStatus
        telegramMessageId := some (toString messageId)
        telegramChatId := some (toString chatId)
        sentAt := sentAt }
    else unverified
  | _, _, _ => unverified

/-- The connection failed before anything was transmitted. -/
def NeverTransmitted : Prop :=
  raw.get "delivery_state" = .text "RETRYABLE" ∧ httpStatus = none ∧
  raw.get "error_category" = .text "connect_failure_before_transmission" ∧
  raw.get "rate_limited" = .bool false ∧ raw.get "retry_after" = .none

instance : Decidable (NeverTransmitted raw httpStatus) :=
  inferInstanceAs (Decidable (_ ∧ _ ∧ _ ∧ _ ∧ _))

/-- The provider refused the message for its rate. -/
def RateLimited : Prop :=
  raw.get "delivery_state" = .text "RETRYABLE" ∧ httpStatus = some 429 ∧
  raw.get "error_category" = .text "telegram_rate_limited" ∧ raw.get "rate_limited" = .bool true

instance : Decidable (RateLimited raw httpStatus) :=
  inferInstanceAs (Decidable (_ ∧ _ ∧ _ ∧ _))

/-- The provider refused the message for good. -/
def PermanentlyRejected : Prop :=
  raw.get "delivery_state" = .text "FAILED_FINAL" ∧
  (∃ status ∈ httpStatus, 400 ≤ status ∧ status < 500 ∧ status ≠ 408 ∧ status ≠ 429) ∧
  raw.get "error_category" = .text "telegram_permanent_rejection" ∧
  raw.get "rate_limited" = .bool false ∧ raw.get "retry_after" = .none

instance : Decidable (PermanentlyRejected raw httpStatus) :=
  inferInstanceAs (Decidable (_ ∧ _ ∧ _ ∧ _ ∧ _))

/-- The part of the adapter for a result that does not claim success. -/
def adaptFailure : TransportOutcome :=
  if r.status ≠ "failed" ∨ ∃ key ∈ ["message_id", "chat_id", "sent_at"], ¬ (raw.get key).Absent then
    outcome "UNCERTAIN" "adapter_contradictory_failure" httpStatus
  else if ∃ status ∈ httpStatus, 500 ≤ status ∧ status ≤ 599 then
    outcome "UNCERTAIN" "http_5xx_uncertain_acceptance" httpStatus
  else if raw.get "error" ≠ .text r.errorMessage ∨ (raw.get "error").Absent then
    outcome "UNCERTAIN" "adapter_inconsistent_failure_evidence" httpStatus
  else if NeverTransmitted raw httpStatus then
    outcome "RETRYABLE" "connect_failure_before_transmission"
  else if RateLimited raw httpStatus ∧ (raw.get "retry_after").delay.isSome then
    { outcome "RETRYABLE" "telegram_rate_limited" (some 429) with
      rateLimited := true
      retryAfter := (raw.get "retry_after").delay.getD none }
  else if PermanentlyRejected raw httpStatus then
    outcome "FAILED_FINAL" "telegram_permanent_rejection" httpStatus
  else outcome "UNCERTAIN" "adapter_unconfirmed_transmission" httpStatus

def adaptState : TransportOutcome :=
  if .text r.deliveryState ≠ raw.get "delivery_state" ∨ .text r.status ≠ raw.get "status" then
    outcome "UNCERTAIN" "adapter_sender_provider_state_mismatch" httpStatus
  else if raw.get "delivery_state" = .text "SENT" ∧ r.status = "sent" then
    adaptSuccess lib request r raw httpStatus
  else adaptFailure r raw httpStatus

def adaptRecord : TransportOutcome :=
  if ¬ (raw.get "part_number").PositiveInt ∨ ¬ (raw.get "total_parts").PositiveInt ∨
      raw.get "part_number" ≠ .int request.partIndex ∨
      raw.get "total_parts" ≠ .int request.partCount then
    outcome "UNCERTAIN" "adapter_part_identity_mismatch"
  else
    match (raw.get "http_status").httpStatus with
    | none => outcome "UNCERTAIN" "adapter_invalid_http_status"
    | some httpStatus => adaptState lib request r raw httpStatus

def adaptTelegramSendResult : SenderReturn → TransportOutcome
  | .foreign => outcome "UNCERTAIN" "adapter_invalid_result_or_request"
  | .result r =>
    if ¬ request.Valid lib then outcome "UNCERTAIN" "adapter_invalid_result_or_request"
    else
      match r.telegramResults with
      | some [some raw] => adaptRecord lib request r raw
      | some [none] => outcome "UNCERTAIN" "adapter_invalid_provider_record"
      | _ => outcome "UNCERTAIN" "adapter_expected_one_part_result"

end Adapter

section Kinds

variable {lib : Library} {request : TransportRequest}

/-- An acknowledgment of the requested part: status 200, a positive message id, the chat of the
request, and no sign of an error. -/
structure Acknowledged (request : TransportRequest) (r : SendResult) (raw : ProviderRecord)
    (messageId chatId : ℤ) : Prop where
  partNumber : raw.get "part_number" = .int request.partIndex
  totalParts : raw.get "total_parts" = .int request.partCount
  httpStatus : raw.get "http_status" = .int 200
  messageId : raw.get "message_id" = .int messageId ∧ 0 < messageId
  chatId : raw.get "chat_id" = .int chatId ∧ toString chatId = request.destinationChatId
  noError : (raw.get "error").Absent ∧ (raw.get "error_category").Absent ∧
    (PyValue.text r.errorMessage).Absent
  notLimited : raw.get "rate_limited" = .bool false ∧ raw.get "retry_after" = .none

inductive Adapted (request : TransportRequest) : SenderReturn → TransportOutcome → Prop
  | uncertain (result : SenderReturn) (category : String) (httpStatus : Option ℤ) :
      Adapted request result (outcome "UNCERTAIN" category httpStatus)
  | rejected (result : SenderReturn) (category : String) (httpStatus : Option ℤ) :
      Adapted request result (outcome "FAILED_FINAL" category httpStatus)
  | sent {r : SendResult} {raw : ProviderRecord} {messageId chatId : ℤ}
      (hrecord : r.telegramResults = some [some raw])
      (hevidence : Acknowledged request r raw messageId chatId) (sentAt : Option Instant) :
      Adapted request (.result r)
        { deliveryState := "SENT"
          httpStatus := some 200
          telegramMessageId := some (toString messageId)
          telegramChatId := some (toString chatId)
          sentAt := sentAt }
  | unsent {r : SendResult} {raw : ProviderRecord}
      (hrecord : r.telegramResults = some [some raw]) (hstatus : raw.get "http_status" = .none)
      (hevidence : NeverTransmitted raw none) :
      Adapted request (.result r) (outcome "RETRYABLE" "connect_failure_before_transmission")
  | limited {r : SendResult} {raw : ProviderRecord}
      (hrecord : r.telegramResults = some [some raw]) (hstatus : raw.get "http_status" = .int 429)
      (hevidence : RateLimited raw (some 429)) (delay : Option ℤ) :
      Adapted request (.result r)
        { outcome "RETRYABLE" "telegram_rate_limited" (some 429) with
          rateLimited := true
          retryAfter := delay }

def PyValue.ofStatus : Option ℤ → PyValue
  | Option.none => .none
  | some n => .int n

theorem httpStatus_eq_some {value : PyValue} {status : Option ℤ}
    (h : value.httpStatus = some status) : value = .ofStatus status := by
  cases value with
  | none =>
    cases h
    rfl
  | int n =>
    rw [PyValue.httpStatus, Option.ite_none_right_eq_some] at h
    cases h.2
    rfl
  | _ => cases h

variable {r : SendResult} {raw : ProviderRecord} {httpStatus : Option ℤ}

theorem adapted_success (hrecord : r.telegramResults = some [some raw])
    (hpart : raw.get "part_number" = .int request.partIndex)
    (htotal : raw.get "total_parts" = .int request.partCount)
    (hstatus : (raw.get "http_status").httpStatus = some httpStatus) :
    Adapted request (.result r) (adaptSuccess lib request r raw httpStatus) := by
  unfold adaptSuccess
  split
  · next messageId chatId sentAt hmessage hchat _ =>
    split
    · next hproof =>
      obtain ⟨rfl, hpositive, -, hdestination, hmessageError, herror, hcategory, hlimited⟩ := hproof
      exact .sent hrecord ⟨hpart, htotal, httpStatus_eq_some hstatus, ⟨hmessage, hpositive⟩,
        ⟨hchat, hdestination⟩, ⟨herror, hcategory, hmessageError⟩, hlimited⟩ sentAt
    · exact .uncertain _ _ _
  · exact .uncertain _ _ _

theorem adapted_failure (hrecord : r.telegramResults = some [some raw])
    (hstatus : (raw.get "http_status").httpStatus = some httpStatus) :
    Adapted request (.result r) (adaptFailure r raw httpStatus) := by
  unfold adaptFailure
  split
  · exact .uncertain _ _ _
  split
  · exact .uncertain _ _ _
  split
  · exact .uncertain _ _ _
  split
  · next hunsent =>
    obtain rfl := hunsent.2.1
    exact .unsent hrecord (httpStatus_eq_some hstatus) hunsent
  split
  · next hlimited =>
    obtain rfl := hlimited.1.2.1
    exact .limited hrecord (httpStatus_eq_some hstatus) hlimited.1 _
  split
  · exact .rejected _ _ _
  · exact .uncertain _ _ _

theorem adapted (lib : Library) (request : TransportRequest) (result : SenderReturn) :
    Adapted request result (adaptTelegramSendResult lib request result) := by
  unfold adaptTelegramSendResult
  split
  · exact .uncertain _ _ _
  split
  · exact .uncertain _ _ _
  split
  · next raw hrecord =>
    unfold adaptRecord
    split
    · exact .uncertain _ _ _
    next hidentity =>
    rw [not_or, not_or, not_or, not_not, not_not, not_not, not_not] at hidentity
    obtain ⟨-, -, hpart, htotal⟩ := hidentity
    split
    · exact .uncertain _ _ _
    next httpStatus hstatus =>
    unfold adaptState
    split
    · exact .uncertain _ _ _
    split
    · exact adapted_success hrecord hpart htotal hstatus
    · exact adapted_failure hrecord hstatus
  · exact .uncertain _ _ _
  · exact .uncertain _ _ _

end Kinds

section Normalization

theorem normalize_settled {o : TransportOutcome}
    (h : o.deliveryState = "UNCERTAIN" ∨ o.deliveryState = "FAILED_FINAL") :
    normalizeTransportOutcome (.outcome o) = o := by
  have huncertain : upper (strip "UNCERTAIN") = "UNCERTAIN" := by decide
  have hfinal : upper (strip "FAILED_FINAL") = "FAILED_FINAL" := by decide
  unfold normalizeTransportOutcome
  dsimp only
  rcases h with h | h
  · rw [h, huncertain]
    rfl
  · rw [h, hfinal]
    rfl

theorem normalize_cases (o : TransportOutcome) :
    normalizeTransportOutcome (.outcome o) = o ∨
    (normalizeTransportOutcome (.outcome o)).deliveryState = "UNCERTAIN" := by
  unfold normalizeTransportOutcome
  dsimp only
  split
  · unfold TransportOutcome.normalizeSent
    dsimp only
    split
    · exact Or.inr rfl
    split
    · exact Or.inr rfl
    split
    · exact Or.inr rfl
    split
    · exact Or.inr rfl
    split
    · exact Or.inr rfl
    · exact Or.inl rfl
  · unfold TransportOutcome.normalizeRetryable
    split
    · exact Or.inl rfl
    split
    · exact Or.inr rfl
    · exact Or.inl rfl
  · exact Or.inl rfl
  · exact Or.inl rfl
  · exact Or.inr rfl

theorem normalize_normalize (raw : RawOutcome) :
    normalizeTransportOutcome (.outcome (normalizeTransportOutcome raw)) =
      normalizeTransportOutcome raw := by
  cases raw with
  | malformed typeName => exact normalize_settled (Or.inl rfl)
  | outcome o =>
    rcases normalize_cases o with h | h
    · rw [h, h]
    · exact normalize_settled (Or.inl h)

/-- The text of a positive number is none of the texts that stand for a missing message id. -/
theorem strip_toString_pos {n : ℤ} (h : 0 < n) :
    ¬ (strip (toString n) = "" ∨ strip (toString n) = NA ∨ strip (toString n) = "None" ∨
      strip (toString n) = "0") := by
  obtain ⟨k, rfl⟩ := Int.eq_ofNat_of_zero_le h.le
  have hrepr : toString (k : ℤ) = Nat.repr k := rfl
  have hdigits : ∀ c ∈ (Nat.repr k).toList, c.isDigit = true := by
    intro c hc
    rw [Nat.toList_repr] at hc
    exact Nat.isDigit_of_mem_toDigits (by norm_num) le_rfl hc
  have hstrip : strip (Nat.repr k) = Nat.repr k := by
    refine strip_eq_self fun c hc => ?_
    exact isSpace_of_isDigit (hdigits c hc)
  rw [hrepr, hstrip]
  rintro (hempty | hna | hnone | hzero)
  · have hne : (Nat.repr k).toList ≠ [] := by
      rw [Nat.toList_repr]
      exact Nat.toDigits_ne_nil
    exact hne (by rw [hempty]; rfl)
  · rw [hna] at hdigits
    exact absurd (hdigits 'N' (by decide)) (by decide)
  · rw [hnone] at hdigits
    exact absurd (hdigits 'N' (by decide)) (by decide)
  · have hk : Nat.ofDigitChars 10 (Nat.toDigits 10 k) 0 = 0 := by
      rw [← Nat.toList_repr, hzero]
      decide
    rw [Nat.ofDigitChars_toDigits (by norm_num) le_rfl] at hk
    rw [hk] at h
    exact lt_irrefl _ h

end Normalization

section Stability

variable {request : TransportRequest} {result : SenderReturn} {o : TransportOutcome}

theorem Adapted.normalize_eq (h : Adapted request result o) :
    normalizeTransportOutcome (.outcome o) = o := by
  have hsent : upper (strip "SENT") = "SENT" := by decide
  have hretryable : upper (strip "RETRYABLE") = "RETRYABLE" := by decide
  cases h with
  | uncertain => exact normalize_settled (Or.inl rfl)
  | rejected => exact normalize_settled (Or.inr rfl)
  | sent _ hevidence _ =>
    unfold normalizeTransportOutcome
    dsimp only
    rw [hsent]
    change TransportOutcome.normalizeSent _ = _
    unfold TransportOutcome.normalizeSent
    dsimp only [Option.getD_some]
    rw [if_neg (strip_toString_pos hevidence.messageId.2)]
    rfl
  | unsent | limited =>
    unfold normalizeTransportOutcome outcome
    dsimp only
    rw [hretryable]
    rfl

theorem Adapted.acknowledged (h : Adapted request result o) (hstate : o.deliveryState = "SENT") :
    ∃ r raw messageId chatId, result = .result r ∧ r.telegramResults = some [some raw] ∧
      Acknowledged request r raw messageId chatId := by
  cases h with
  | sent hrecord hevidence _ => exact ⟨_, _, _, _, rfl, hrecord, hevidence⟩
  | uncertain | rejected | unsent | limited => simp [outcome] at hstate

theorem Adapted.retryable (h : Adapted request result o)
    (hstate : o.deliveryState = "RETRYABLE") :
    ∃ r raw, result = .result r ∧ r.telegramResults = some [some raw] ∧
      (raw.get "http_status" = .none ∧ NeverTransmitted raw none ∨
        raw.get "http_status" = .int 429 ∧ RateLimited raw (some 429)) := by
  cases h with
  | uncertain | rejected => simp [outcome] at hstate
  | sent => simp at hstate
  | unsent hrecord hstatus hevidence => exact ⟨_, _, rfl, hrecord, Or.inl ⟨hstatus, hevidence⟩⟩
  | limited hrecord hstatus hevidence _ => exact ⟨_, _, rfl, hrecord, Or.inr ⟨hstatus, hevidence⟩⟩

theorem Adapted.state (h : Adapted request result o) :
    o.deliveryState ∈ ["SENT", "RETRYABLE", "UNCERTAIN", "FAILED_FINAL"] := by
  cases h <;> simp [outcome]

end Stability

/-- For whatever the sender returns, the adapter gives a fixed point of the normalization. It is
`SENT` only on an acknowledgment of the requested part, `RETRYABLE` only if nothing was transmitted
or the provider limits the rate, and otherwise `UNCERTAIN` or `FAILED_FINAL`. Normalizing twice is
normalizing once. -/
theorem evidence_is_stable (lib : Library) (request : TransportRequest) (result : SenderReturn) :
    let o := adaptTelegramSendResult lib request result
    normalizeTransportOutcome (.outcome o) = o ∧
    (∀ raw : RawOutcome, normalizeTransportOutcome (.outcome (normalizeTransportOutcome raw)) =
      normalizeTransportOutcome raw) ∧
    (o.deliveryState = "SENT" →
      ∃ r raw messageId chatId, result = .result r ∧ r.telegramResults = some [some raw] ∧
        Acknowledged request r raw messageId chatId) ∧
    (o.deliveryState = "RETRYABLE" →
      ∃ r raw, result = .result r ∧ r.telegramResults = some [some raw] ∧
        (raw.get "http_status" = .none ∧ NeverTransmitted raw none ∨
          raw.get "http_status" = .int 429 ∧ RateLimited raw (some 429))) ∧
    o.deliveryState ∈ ["SENT", "RETRYABLE", "UNCERTAIN", "FAILED_FINAL"] := by
  have h := adapted lib request result
  exact ⟨h.normalize_eq, normalize_normalize, h.acknowledged, h.retryable, h.state⟩

def sampleRequest : TransportRequest where
  eventId := 1
  reservationId := 1
  eventKey := "k"
  attemptId := "x"
  partId := 1
  partIndex := 1
  partCount := 1
  payloadText := "a"
  payloadHash := "h"
  destinationChatId := "-100"
  destinationKind := "public_chat"
  messageHash := "m"

def sampleResult (status state error : String) (fields : List (String × PyValue)) : SenderReturn :=
  .result
    { status := status
      deliveryState := state
      errorMessage := error
      telegramResults := some [some ⟨fun key => (fields.lookup key).getD .none⟩] }

-- An acknowledgment is believed, one for another chat is not, and a refusal for the rate is retried.
example :
    let lib : Library := ⟨fun _ => "h", fun _ => none⟩
    let part := [("part_number", .int 1), ("total_parts", .int 1)]
    let acknowledged (chat : ℤ) := sampleResult "sent" "SENT" NA (part ++
      [("delivery_state", .text "SENT"), ("status", .text "sent"), ("http_status", .int 200),
        ("message_id", .int 7), ("chat_id", .int chat), ("rate_limited", .bool false)])
    let limited := sampleResult "failed" "RETRYABLE" "slow down" (part ++
      [("delivery_state", .text "RETRYABLE"), ("status", .text "failed"), ("http_status", .int 429),
        ("error", .text "slow down"), ("error_category", .text "telegram_rate_limited"),
        ("rate_limited", .bool true), ("retry_after", .int 3)])
    (adaptTelegramSendResult lib sampleRequest (acknowledged (-100))).deliveryState = "SENT" ∧
    (adaptTelegramSendResult lib sampleRequest (acknowledged 5)).deliveryState = "UNCERTAIN" ∧
    (adaptTelegramSendResult lib sampleRequest limited).retryAfter = some 3000000 := by
  decide +kernel

end CandleCraft.Outbox
