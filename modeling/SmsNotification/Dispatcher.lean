import SmsNotification.SmsService

/-!
`SmsDispatcherService`: the claim, the provider loop with its retries, and the dead letter.
-/

namespace SmsNotification

open Concurrency

def nonDispatchableStatuses : List SmsStatus :=
  [.sent, .delivered, .undelivered, .rejected, .failed, .fatalFailure]

/-- `baseDelayMs * 2 ** (attempt - 1)`. Where the double overflows, the exact number stands for
`Infinity`: a timer treats all that is above its limit alike. -/
def calculateExponentialBackoff (attempt baseDelayMs : Nat) : Except Failure Nat :=
  if attempt < 1 then .error (.app (.invalidRetryConfiguration "attempt" attempt))
  else if baseDelayMs < 1 then .error (.app (.invalidRetryConfiguration "baseDelayMs" baseDelayMs))
  else .ok (baseDelayMs * 2 ^ (attempt - 1))

namespace SmsDispatcherService

/-- How the attempts at one provider end: the dispatch is over, or the next provider follows. -/
inductive ProviderOutcome
  | sent
  | exhausted (lastError : String)

def throttle (providerName : String) : Action Unit :=
  call (.throttle providerName)

def sendWithProvider (message : SmsMessage) (providerName : String) : Action SendSmsResult :=
  tryCatch
    (call (.sendSms providerName
      { «to» := message.recipientPhone, body := message.messageBody, referenceId := message.id }))
    fun error => pure {
      success := false
      error := some (error.message?.getD ("Provider " ++ providerName ++ " threw an error."))
      isRetryable := true }

/-- The inner loop from attempt `providerAttempt` on; `remaining` counts the attempts up to
`maxRetries`. -/
def attemptProvider (config : Config) (message : SmsMessage) (providerName : String) :
    (remaining providerAttempt : Nat) → (lastError : String) → Action ProviderOutcome
  | 0, _, lastError => pure (.exhausted lastError)
  | remaining + 1, providerAttempt, _ => do
      SmsService.incrementAttempts message.id
      throttle providerName
      let result ← sendWithProvider message providerName
      if result.success then do
        SmsService.markSent message.id providerName result.providerMessageId
        pure .sent
      else
        let lastError := result.error.getD "SMS provider returned an unsuccessful response."
        if !result.isRetryable || providerAttempt ≥ config.maxRetries then
          pure (.exhausted lastError)
        else
          match calculateExponentialBackoff providerAttempt config.retryBaseDelayMs with
          | .error error => throw error
          | .ok backoff => do
              sleep (Js.mathMax (result.retryAfterMs.getD (.finite 0)) (.finite backoff))
              attemptProvider config message providerName remaining (providerAttempt + 1) lastError

def giveUp (message : SmsMessage) (lastProviderName lastError : String) : Action Unit := do
  SmsService.markFatalFailure message.id lastProviderName lastError
  QueueService.enqueueDeadLetter message.id

def dispatchProviders (config : Config) (message : SmsMessage) :
    (providers : List String) → (lastProviderName lastError : String) → Action Unit
  | [], lastProviderName, lastError => giveUp message lastProviderName lastError
  | providerName :: rest, _, lastError => do
      match ← attemptProvider config message providerName config.maxRetries 1 lastError with
      | .sent => pure ()
      | .exhausted lastError => dispatchProviders config message rest providerName lastError

def dispatchAcrossProviders (config : Config) (message : SmsMessage) : Action Unit :=
  dispatchProviders config message config.providers (config.providers.head?.getD "unknown")
    "No SMS provider is configured."

def dispatch (config : Config) (messageId : MessageId) : Action Unit := do
  match ← SmsService.findById messageId with
  | none => throw (.app .smsMessageNotFound)
  | some message =>
      if nonDispatchableStatuses.contains message.status then pure ()
      else do
        let claimed ← SmsService.markProcessing message.id
        if !claimed then do
          -- re-read for the log entry only
          let _ ← SmsService.findById message.id
          pure ()
        else dispatchAcrossProviders config message

end SmsDispatcherService

end SmsNotification
