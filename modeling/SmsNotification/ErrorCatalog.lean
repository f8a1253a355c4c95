import SmsNotification.Service

/-!
`error-catalog.ts` and `AppErrorFilter`: the codes, texts and statuses of the errors raised on
purpose, and the HTTP response that a settled request gets.
-/

namespace SmsNotification

inductive ErrorCode
  | smsIdempotencyKeyRequired
  | smsIdempotencyKeyTooLong
  | smsIdempotencyConflict
  | smsMessageTooLong
  | smsMessageNotFound
  | smsQueuePublishFailed
  | smsRequeueNotEligible
  | smsRequeueConflict
  | queueUnsupportedJob
  | queueInvalidJobPayload
  | providerPriorityEmpty
  | providerNoneConfigured
  | providerUnknown
  | providerNotRegistered
  | providerDuplicate
  | rateLimitStoreInvalidResponse
  | rateLimitNotConfigured
  | retryInvalidConfiguration
  | webhookTwilioSignatureInvalid
  | webhookTwilioPayloadInvalid
  | webhookBirdSignatureInvalid
  | webhookBirdPayloadInvalid
  deriving DecidableEq, Repr

namespace ErrorCode

def value : ErrorCode → String
  | smsIdempotencyKeyRequired => "SMS_IDEMPOTENCY_KEY_REQUIRED"
  | smsIdempotencyKeyTooLong => "SMS_IDEMPOTENCY_KEY_TOO_LONG"
  | smsIdempotencyConflict => "SMS_IDEMPOTENCY_CONFLICT"
  | smsMessageTooLong => "SMS_MESSAGE_TOO_LONG"
  | smsMessageNotFound => "SMS_MESSAGE_NOT_FOUND"
  | smsQueuePublishFailed => "SMS_QUEUE_PUBLISH_FAILED"
  | smsRequeueNotEligible => "SMS_REQUEUE_NOT_ELIGIBLE"
  | smsRequeueConflict => "SMS_REQUEUE_CONFLICT"
  | queueUnsupportedJob => "QUEUE_UNSUPPORTED_JOB"
  | queueInvalidJobPayload => "QUEUE_INVALID_JOB_PAYLOAD"
  | providerPriorityEmpty => "PROVIDER_PRIORITY_EMPTY"
  | providerNoneConfigured => "PROVIDER_NONE_CONFIGURED"
  | providerUnknown => "PROVIDER_UNKNOWN"
  | providerNotRegistered => "PROVIDER_NOT_REGISTERED"
  | providerDuplicate => "PROVIDER_DUPLICATE"
  | rateLimitStoreInvalidResponse => "RATE_LIMIT_STORE_INVALID_RESPONSE"
  | rateLimitNotConfigured => "RATE_LIMIT_NOT_CONFIGURED"
  | retryInvalidConfiguration => "RETRY_INVALID_CONFIGURATION"
  | webhookTwilioSignatureInvalid => "WEBHOOK_TWILIO_SIGNATURE_INVALID"
  | webhookTwilioPayloadInvalid => "WEBHOOK_TWILIO_PAYLOAD_INVALID"
  | webhookBirdSignatureInvalid => "WEBHOOK_BIRD_SIGNATURE_INVALID"
  | webhookBirdPayloadInvalid => "WEBHOOK_BIRD_PAYLOAD_INVALID"

end ErrorCode

namespace HttpStatus

def accepted : Nat := 202
def noContent : Nat := 204
def badRequest : Nat := 400
def forbidden : Nat := 403
def notFound : Nat := 404
def conflict : Nat := 409
def internalServerError : Nat := 500

end HttpStatus

structure ErrorDefinition where
  message : String
  httpStatus : Nat
  deriving DecidableEq, Repr

def idempotencyKeyHeader : String := "X-Idempotency-Key"

def idempotencyKeyMaxLength : Nat := 255

def errorCatalog : ErrorCode → ErrorDefinition
  | .smsIdempotencyKeyRequired =>
      ⟨idempotencyKeyHeader ++ " header is required.", HttpStatus.badRequest⟩
  | .smsIdempotencyKeyTooLong =>
      ⟨idempotencyKeyHeader ++ " must be shorter than or equal to " ++
        toString idempotencyKeyMaxLength ++ " characters.", HttpStatus.badRequest⟩
  | .smsIdempotencyConflict =>
      ⟨"A request with this idempotency key is already being processed.", HttpStatus.conflict⟩
  | .smsMessageTooLong =>
      ⟨"message must be shorter than or equal to the configured maximum length.",
        HttpStatus.badRequest⟩
  | .smsMessageNotFound => ⟨"SMS message was not found.", HttpStatus.notFound⟩
  | .smsQueuePublishFailed =>
      ⟨"SMS request was persisted, but queue publication failed.",
        HttpStatus.internalServerError⟩
  | .smsRequeueNotEligible =>
      ⟨"Only messages in FATAL_FAILURE can be requeued.", HttpStatus.conflict⟩
  | .smsRequeueConflict => ⟨"SMS message is no longer eligible for requeue.", HttpStatus.conflict⟩
  | .queueUnsupportedJob => ⟨"Unsupported SMS job.", HttpStatus.internalServerError⟩
  | .queueInvalidJobPayload =>
      ⟨"SMS job payload must contain a valid messageId UUID.", HttpStatus.internalServerError⟩
  | .providerPriorityEmpty =>
      ⟨"SMS_PROVIDER_PRIORITY must contain at least one provider.",
        HttpStatus.internalServerError⟩
  | .providerNoneConfigured => ⟨"No SMS provider is configured.", HttpStatus.internalServerError⟩
  | .providerUnknown => ⟨"Unknown SMS provider.", HttpStatus.internalServerError⟩
  | .providerNotRegistered => ⟨"SMS provider is not registered.", HttpStatus.internalServerError⟩
  | .providerDuplicate =>
      ⟨"More than one SMS provider is registered under the same name.",
        HttpStatus.internalServerError⟩
  | .rateLimitStoreInvalidResponse =>
      ⟨"Rate-limit store returned an unexpected response.", HttpStatus.internalServerError⟩
  | .rateLimitNotConfigured =>
      ⟨"SMS provider has no valid rate limit configured.", HttpStatus.internalServerError⟩
  | .retryInvalidConfiguration =>
      ⟨"Retry attempt and base delay must be greater than or equal to 1.",
        HttpStatus.internalServerError⟩
  | .webhookTwilioSignatureInvalid =>
      ⟨"Invalid Twilio webhook signature.", HttpStatus.forbidden⟩
  | .webhookTwilioPayloadInvalid =>
      ⟨"Twilio callback is missing MessageSid or MessageStatus.", HttpStatus.badRequest⟩
  | .webhookBirdSignatureInvalid => ⟨"Invalid Bird webhook signature.", HttpStatus.forbidden⟩
  | .webhookBirdPayloadInvalid =>
      ⟨"Bird webhook is missing the event type or sms id.", HttpStatus.badRequest⟩

inductive ErrorDetail
  | text (value : String)
  | number (value : Nat)
  deriving DecidableEq, Repr

namespace AppError

/-- The code that the constructor of each error class passes to `super`. -/
def code : AppError → ErrorCode
  | smsMessageTooLong _ => .smsMessageTooLong
  | idempotencyConflict => .smsIdempotencyConflict
  | queuePublishFailed => .smsQueuePublishFailed
  | smsMessageNotFound => .smsMessageNotFound
  | requeueNotEligible => .smsRequeueNotEligible
  | requeueConflict => .smsRequeueConflict
  | invalidRetryConfiguration _ _ => .retryInvalidConfiguration
  | rateLimitNotConfigured _ => .rateLimitNotConfigured
  | providerNotRegistered _ => .providerNotRegistered
  | invalidTwilioSignature => .webhookTwilioSignatureInvalid
  | invalidTwilioPayload => .webhookTwilioPayloadInvalid
  | invalidBirdSignature => .webhookBirdSignatureInvalid
  | invalidBirdPayload => .webhookBirdPayloadInvalid

def details : AppError → Option (List (String × ErrorDetail))
  | smsMessageTooLong maxLength => some [("maxLength", .number maxLength)]
  | invalidRetryConfiguration parameter value =>
      some [("parameter", .text parameter), ("value", .number value)]
  | rateLimitNotConfigured provider => some [("provider", .text provider)]
  | providerNotRegistered provider => some [("provider", .text provider)]
  | _ => none

def httpStatus (error : AppError) : Nat :=
  (errorCatalog error.code).httpStatus

theorem message_catalog (error : AppError) : error.message = (errorCatalog error.code).message := by
  cases error <;> rfl

theorem code_details_injective {error other : AppError} (code : error.code = other.code)
    (details : error.details = other.details) : error = other := by
  cases error <;> cases other <;> cases code <;> cases details <;> rfl

end AppError

structure ErrorResponseDto where
  statusCode : Nat
  error : String
  code : ErrorCode
  message : String
  details : Option (List (String × ErrorDetail))
  deriving DecidableEq, Repr

/-- The entries of `STATUS_CODES` of `node:http` for the error statuses of the catalog. -/
def statusCodes : List (Nat × String) :=
  [(HttpStatus.badRequest, "Bad Request"), (HttpStatus.forbidden, "Forbidden"),
    (HttpStatus.notFound, "Not Found"), (HttpStatus.conflict, "Conflict"),
    (HttpStatus.internalServerError, "Internal Server Error")]

theorem statusCodes_errorCatalog (code : ErrorCode) :
    ∃ text, statusCodes.lookup (errorCatalog code).httpStatus = some text := by
  cases code <;> exact ⟨_, rfl⟩

inductive HttpBody
  | accepted (response : SendSmsResponse)
  | error (response : ErrorResponseDto)
  /-- What Nest's own handling sends for an error that is no `HttpException`. -/
  | unexpected (statusCode : Nat) (message : String)
  | empty
  deriving DecidableEq

structure HttpResponse where
  statusCode : Nat
  body : HttpBody
  deriving DecidableEq

structure FilterLog where
  code : ErrorCode
  details : Option (List (String × ErrorDetail))
  text : String
  deriving DecidableEq

/-- `AppErrorFilter.catch`: what it logs and what it responds. -/
def AppErrorFilter.catch (error : AppError) : Option FilterLog × HttpResponse :=
  let statusCode := error.httpStatus
  let body : ErrorResponseDto := {
    statusCode := statusCode
    error := (statusCodes.lookup statusCode).getD "Error"
    code := error.code
    message := error.message
    details := error.details }
  (if statusCode ≥ HttpStatus.internalServerError then
      some ⟨error.code, error.details, error.message⟩ else none,
    ⟨statusCode, .error body⟩)

/-- An error that the service did not raise is not the filter's: it keeps Nest's default handling. -/
def Failure.response (defaultHandling : Failure → HttpResponse) : Failure → HttpResponse
  | app error => (AppErrorFilter.catch error).2
  | error => defaultHandling error

/-- Nest answers an error that it does not know as an internal one. -/
def HidesUnknownErrors (defaultHandling : Failure → HttpResponse) : Prop :=
  ∀ error, (defaultHandling error).statusCode = HttpStatus.internalServerError

/-- The `HttpCode` of the route that makes the call; executions of jobs have none. -/
def Call.httpCode : Call → Option Nat
  | send _ _ => some HttpStatus.accepted
  | requeue _ => some HttpStatus.accepted
  | dispatch _ => none
  | twilio _ => some HttpStatus.noContent
  | bird _ _ => some HttpStatus.noContent

def Answer.body : Answer → HttpBody
  | accepted response => .accepted response
  | noContent => .empty

def Call.respond (defaultHandling : Failure → HttpResponse) (request : Call)
    (result : Except Failure Answer) : Option HttpResponse :=
  request.httpCode.map fun statusCode =>
    match result with
    | .ok answer => ⟨statusCode, answer.body⟩
    | .error error => error.response defaultHandling

def Call.documented : Call → List Nat
  | send _ _ => [HttpStatus.accepted, HttpStatus.badRequest, HttpStatus.conflict,
      HttpStatus.internalServerError]
  | requeue _ => [HttpStatus.accepted, HttpStatus.notFound, HttpStatus.conflict,
      HttpStatus.internalServerError]
  | dispatch _ => []
  | twilio _ => [HttpStatus.noContent, HttpStatus.badRequest, HttpStatus.forbidden]
  | bird _ _ => [HttpStatus.noContent, HttpStatus.badRequest, HttpStatus.forbidden]

end SmsNotification
