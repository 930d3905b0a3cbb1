import WechatBot.GeweErrors

/-!
# A request to the provider

`post_text`, from how the HTTP library ends the request over its status, its body and its
envelope to what the sender makes of it. The bodies, the JSON reader and the contract of the
answer are parameters.
-/
namespace WechatBot.GeweClient

open PyData GeweErrors

/-- How the HTTP library ends a request. An exception that is no `RequestError` is `raised`. -/
inductive HttpResult (β : Type) where
  | failed (error : HttpxError)
  | raised
  | cancelled
  | response (statusCode : Int) (body : β)

structure PostTextResponse where
  ret : Int
  msg : Str
  data : Option SentTextData
  deriving DecidableEq, Repr

/-- An exception of `response.json()`: a ValueError, or any other. -/
inductive JsonError where
  | invalid
  | other
  deriving DecidableEq, Repr

/-- `response.json()` and `PostTextResponse.model_validate`. -/
structure Contract (β : Type) where
  json : β → Except JsonError Json
  modelValidate : Json → Option PostTextResponse

def isRetryableStatus (code : Int) : Bool :=
  decide (code = 408 ∨ code = 425 ∨ code = 429 ∨ 500 ≤ code ∧ code ≤ 599)

def isTimeout (error : HttpxError) : Bool :=
  decide (error ∈ [.connectTimeout, .readTimeout, .writeTimeout, .poolTimeout])

def isNetworkError (error : HttpxError) : Bool :=
  decide (error ∈ [.connectError, .readError, .writeError, .closeError])

def transportError (error : HttpxError) : GeWeClientError :=
  if isTimeout error then .transport (some error) true
  else .transport (some error) (isNetworkError error || decide (error = .remoteProtocolError))

section Post

variable {β : Type} (contract : Contract β)

/-- `_post`; a call that returns nothing ends like the error it passes on. -/
def post : HttpResult β → Except PostOutcome PostTextResponse
  | .failed error => .error (.geweError (transportError error))
  | .raised => .error .unexpected
  | .cancelled => .error .cancelled
  | .response statusCode body =>
    if statusCode < 200 ∨ 300 ≤ statusCode then
      .error (.geweError (.http statusCode (isRetryableStatus statusCode)))
    else
      match contract.json body with
      | .error .invalid => .error (.geweError (.protocol false))
      | .error .other => .error .unexpected
      | .ok payload =>
        match contract.modelValidate payload with
        | none => .error (.geweError (.protocol false))
        | some parsed =>
          if parsed.ret ≠ 200 then .error (.geweError (.api parsed.ret (isRetryableStatus parsed.ret)))
          else .ok parsed

def requireData (response : PostTextResponse) : Except PostOutcome SentTextData :=
  match response.data with
  | none => .error (.geweError (.protocol false))
  | some data => .ok data

def postText (result : HttpResult β) : PostOutcome :=
  match post contract result >>= requireData with
  | .error outcome => outcome
  | .ok data => .sent data

/-- The documentation of the library: no connection was made for the request. -/
def connectionMade : HttpxError → Bool
  | .connectTimeout | .connectError | .poolTimeout | .proxyError | .unsupportedProtocol => false
  | _ => true

/-- The request has not reached the provider. -/
def NeverReached (result : HttpResult β) : Prop :=
  ∃ error, result = .failed error ∧ connectionMade error = false

/-- The provider has answered with an envelope that rejects the request. -/
def Rejected (result : HttpResult β) : Prop :=
  ∃ statusCode body payload parsed, result = .response statusCode body ∧ 200 ≤ statusCode ∧
    statusCode < 300 ∧ contract.json body = .ok payload ∧
    contract.modelValidate payload = some parsed ∧ parsed.ret ≠ 200

/-- An answer outside 2xx whose status counts as retryable. -/
def RetryableStatus (result : HttpResult β) : Prop :=
  ∃ statusCode body, result = .response statusCode body ∧
    (statusCode < 200 ∨ 300 ≤ statusCode) ∧ isRetryableStatus statusCode = true

end Post

section Classification

variable {β : Type} {contract : Contract β} {result : HttpResult β}

/-- The cause of a transport error decides, not its `retryable`. -/
theorem retryable_transport (error : HttpxError) :
    (PostOutcome.geweError (transportError error)).Retryable ↔
      error ∈ [.connectError, .connectTimeout, .poolTimeout] := by
  cases error <;> decide

theorem dispositionOf_retryable (retryable : Bool) :
    dispositionOf retryable = .RETRYABLE ↔ retryable = true := by
  cases retryable <;> decide

theorem retryable_http (statusCode : Int) (retryable : Bool) :
    (PostOutcome.geweError (.http statusCode retryable)).Retryable ↔ retryable = true :=
  dispositionOf_retryable retryable

theorem not_retryable_protocol (retryable : Bool) :
    ¬ (PostOutcome.geweError (.protocol retryable)).Retryable := by
  intro h
  cases h

theorem postText_error {outcome : PostOutcome} (h : post contract result = .error outcome) :
    postText contract result = outcome := by
  rw [postText, h]
  rfl

theorem postText_ok {response : PostTextResponse} (h : post contract result = .ok response) :
    ¬ (postText contract result).Retryable := by
  intro hretryable
  rw [postText, h] at hretryable
  cases hdata : response.data with
  | none =>
    have hmissing : requireData response = .error (.geweError (.protocol false)) := by
      rw [requireData, hdata]
    have hout : (Except.ok response : Except PostOutcome PostTextResponse) >>= requireData =
        .error (.geweError (.protocol false)) := hmissing
    rw [hout] at hretryable
    exact not_retryable_protocol false hretryable
  | some data =>
    have hpresent : requireData response = .ok data := by rw [requireData, hdata]
    have hout : (Except.ok response : Except PostOutcome PostTextResponse) >>= requireData =
        .ok data := hpresent
    rw [hout] at hretryable
    exact hretryable

/-- The three ways to a retryable failure. -/
theorem postText_retryable (h : (postText contract result).Retryable) :
    NeverReached result ∨ Rejected contract result ∨ RetryableStatus result := by
  cases result with
  | failed error =>
    rw [postText_error (rfl : post contract (.failed error) = _), retryable_transport] at h
    left
    refine ⟨error, rfl, ?_⟩
    simp only [List.mem_cons, List.not_mem_nil, or_false] at h
    rcases h with rfl | rfl | rfl <;> rfl
  | raised => exact False.elim h
  | cancelled => exact False.elim h
  | response statusCode body =>
    right
    by_cases hstatus : statusCode < 200 ∨ 300 ≤ statusCode
    · right
      have hpost : post contract (.response statusCode body) =
          .error (.geweError (.http statusCode (isRetryableStatus statusCode))) := by
        rw [post, if_pos hstatus]
      rw [postText_error hpost, retryable_http] at h
      exact ⟨statusCode, body, rfl, hstatus, h⟩
    · left
      cases hpost : post contract (.response statusCode body) with
      | ok response => exact absurd h (postText_ok hpost)
      | error outcome =>
        rw [postText_error hpost] at h
        rw [post, if_neg hstatus] at hpost
        cases hjson : contract.json body with
        | error error =>
          rw [hjson] at hpost
          cases error with
          | invalid =>
            cases hpost
            exact absurd h (not_retryable_protocol false)
          | other =>
            cases hpost
            exact False.elim h
        | ok payload =>
          rw [hjson] at hpost
          cases hparsed : contract.modelValidate payload with
          | none =>
            simp only [hparsed] at hpost
            cases hpost
            exact absurd h (not_retryable_protocol false)
          | some parsed =>
            simp only [hparsed] at hpost
            have hret : parsed.ret ≠ 200 := by
              intro hret
              rw [if_neg (not_not.mpr hret)] at hpost
              cases hpost
            exact ⟨statusCode, body, payload, parsed, rfl, by omega, by omega, hjson, hparsed, hret⟩

theorem postText_retryableStatus (h : RetryableStatus result) :
    (postText contract result).Retryable := by
  obtain ⟨statusCode, body, rfl, hstatus, hretryable⟩ := h
  have hpost : post contract (.response statusCode body) =
      .error (.geweError (.http statusCode (isRetryableStatus statusCode))) := by
    rw [post, if_pos hstatus]
  rw [postText_error hpost, retryable_http]
  exact hretryable

/-- A send is classified as retryable only where the provider has not got it or has rejected
it, unless a status outside 2xx says otherwise. -/
theorem retryable_only_unsent (contract : Contract β) (result : HttpResult β) :
    ((postText contract result).Retryable → NeverReached result ∨ Rejected contract result) ↔
      ¬ RetryableStatus result := by
  constructor
  · intro hsafe hstatus
    have hunsent := hsafe (postText_retryableStatus hstatus)
    obtain ⟨statusCode, body, rfl, houtside, -⟩ := hstatus
    rcases hunsent with ⟨error, heq, -⟩ | ⟨_, _, _, _, heq, hlow, hhigh, -⟩
    · cases heq
    · cases heq
      omega
  · intro hstatus hretryable
    rcases postText_retryable hretryable with hunsent | hrejected | hfound
    · exact .inl hunsent
    · exact .inr hrejected
    · exact absurd hfound hstatus

end Classification

section Sample

/-- A body is its document, and no document is an envelope. -/
def sampleContract : Contract Json := ⟨.ok, fun _ => none⟩

/-- The gateway of the provider gives up while the provider still works on the request. -/
theorem gateway_timeout_retried :
    classifyGeweError (.http 504 (isRetryableStatus 504)) = (.RETRYABLE, "GEWE_HTTP_504") ∧
      postText sampleContract (.response 504 .null) = .geweError (.http 504 true) ∧
      ¬ ∀ result : HttpResult Json, (postText sampleContract result).Retryable →
        NeverReached result ∨ Rejected sampleContract result := by
  refine ⟨by decide +kernel, rfl, ?_⟩
  intro hclaim
  rcases hclaim (.response 504 .null) rfl with ⟨error, heq, -⟩ | ⟨_, _, _, _, heq, -, hhigh, -⟩
  · cases heq
  · cases heq
    exact absurd hhigh (by decide)

end Sample

end WechatBot.GeweClient
