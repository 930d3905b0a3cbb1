import WechatBot.PyData

/-!
# Provider errors and their disposition

The exceptions a `post_text` call can end with and `_classify_gewe_error`.
-/
namespace WechatBot.GeweErrors

open PyData

/-- The request errors of the HTTP library, by class. -/
inductive HttpxError where
  | connectTimeout | readTimeout | writeTimeout | poolTimeout
  | connectError | readError | writeError | closeError
  | localProtocolError | remoteProtocolError
  | proxyError | unsupportedProtocol | decodingError | tooManyRedirects
  deriving DecidableEq, Repr

/-- `base` is a `GeWeClientError` of none of the four subclasses. The cause of a
transport error is its `__cause__`. -/
inductive GeWeClientError where
  | transport (cause : Option HttpxError) (retryable : Bool)
  | http (statusCode : Int) (retryable : Bool)
  | api (ret : Int) (retryable : Bool)
  | protocol (retryable : Bool)
  | base (retryable : Bool)
  deriving DecidableEq, Repr

inductive Disposition where
  | RETRYABLE | FINAL | UNKNOWN
  deriving DecidableEq, Repr

def dispositionOf (retryable : Bool) : Disposition := if retryable then .RETRYABLE else .FINAL

def classifyGeweError : GeWeClientError → Disposition × String
  | .protocol _ => (.UNKNOWN, "GEWE_RESPONSE_UNKNOWN")
  | .transport cause _ =>
    if cause ∈ [some .connectError, some .connectTimeout, some .poolTimeout] then
      (.RETRYABLE, "GEWE_CONNECT_FAILED")
    else (.UNKNOWN, "GEWE_TRANSPORT_UNKNOWN")
  | .http statusCode retryable => (dispositionOf retryable, "GEWE_HTTP_" ++ toString statusCode)
  | .api ret retryable => (dispositionOf retryable, "GEWE_API_" ++ toString ret)
  | .base retryable => (dispositionOf retryable, "GEWE_SEND_FAILED")

structure SentTextData where
  toWxid : Str
  createTime : Int
  msgId : Str
  newMsgId : Str
  messageType : Int
  deriving DecidableEq, Repr

/-- How a `post_text` call ends while its worker lives. -/
inductive PostOutcome where
  | sent (result : SentTextData)
  | geweError (error : GeWeClientError)
  | cancelled
  | unexpected
  deriving DecidableEq, Repr

/-- The call ended with an error that the sender takes for a refusal before the send. -/
def PostOutcome.Retryable : PostOutcome → Prop
  | .geweError error => (classifyGeweError error).1 = .RETRYABLE
  | _ => False

instance (outcome : PostOutcome) : Decidable outcome.Retryable := by
  unfold PostOutcome.Retryable
  split <;> infer_instance

end WechatBot.GeweErrors
