import SmsNotification.World

/-!
`SmsService`, `IdempotencyService` and `QueueService`. Each method is the program that its source
awaits, call by call; `try`, `catch` and `finally` keep their places.
-/

namespace SmsNotification

open Concurrency

/-- The configuration the modelled services read, with the bounds of `env.validation`. -/
structure Config where
  maxMessageLength : Nat
  maxRetries : Nat
  retryBaseDelayMs : Nat
  jobAttempts : Nat
  /-- The names of `ProviderRegistryService.getProviders`, in order. -/
  providers : List String
  caseMapping : Js.CaseMapping
  maxRetries_pos : 1 ≤ maxRetries
  retryBaseDelayMs_pos : 1 ≤ retryBaseDelayMs
  jobAttempts_pos : 1 ≤ jobAttempts

/-- The defaults of `configuration.ts`, under the mapping of ASCII. -/
def Config.defaults (providers : List String) : Config where
  maxMessageLength := 1600
  maxRetries := 3
  retryBaseDelayMs := 2000
  jobAttempts := 3
  providers := providers
  caseMapping := Js.asciiCase
  maxRetries_pos := by decide
  retryBaseDelayMs_pos := by decide
  jobAttempts_pos := by decide

structure SendSmsResponse where
  messageId : MessageId
  status : SmsStatus
  createdAt : Date
  deriving DecidableEq, Repr

structure SmsStatusResponse where
  messageId : MessageId
  status : SmsStatus
  attempts : Nat
  selectedProvider : Option String
  providerMessageId : Option String
  createdAt : Date
  sentAt : Option Date
  deliveredAt : Option Date
  failedAt : Option Date
  deriving DecidableEq, Repr

def newDate : Action Date := call .newDate

def sleep (milliseconds : Js.Number) : Action Unit := call (.sleep milliseconds)

namespace IdempotencyService

def getMessageId (idempotencyKey : String) : Action (Option MessageId) :=
  call (.getMessageId idempotencyKey)

def storeMessageId (idempotencyKey : String) (messageId : MessageId) : Action Unit :=
  call (.storeMessageId idempotencyKey messageId)

def deleteMessageId (idempotencyKey : String) : Action Unit :=
  call (.deleteMessageId idempotencyKey)

def acquireLock (idempotencyKey : String) : Action (Option IdempotencyLock) :=
  call (.acquireLock idempotencyKey)

def releaseLock (lock : IdempotencyLock) : Action Unit :=
  call (.releaseLock lock)

end IdempotencyService

namespace QueueService

def enqueueSms (config : Config) (messageId : MessageId) : Action Unit :=
  call (.enqueueSms messageId config.jobAttempts)

def requeueSms (config : Config) (messageId : MessageId) : Action Unit :=
  call (.requeueSms messageId config.jobAttempts)

def enqueueDeadLetter (messageId : MessageId) : Action Unit :=
  call (.enqueueDeadLetter messageId)

end QueueService

namespace SmsService

def findById (messageId : MessageId) : Action (Option SmsMessage) :=
  call (.findById messageId)

def findByIdempotencyKey (idempotencyKey : String) : Action (Option SmsMessage) :=
  call (.findByIdempotencyKey idempotencyKey)

def findByProviderMessageId (provider providerMessageId : String) : Action (Option SmsMessage) :=
  call (.findByProviderMessageId provider providerMessageId)

def toStatusResponse (message : SmsMessage) : SmsStatusResponse where
  messageId := message.id
  status := message.status
  attempts := message.attempts
  selectedProvider := message.selectedProvider
  providerMessageId := message.providerMessageId
  createdAt := message.createdAt
  sentAt := message.sentAt
  deliveredAt := message.deliveredAt
  failedAt := message.failedAt

def getMessageStatus (messageId : MessageId) : Action SmsStatusResponse := do
  match ← findById messageId with
  | none => throw (.app .smsMessageNotFound)
  | some message => pure (toStatusResponse message)

def createQueuedMessage (idempotencyKey : String) (dto : SendSmsDto) : Action SmsMessage :=
  call (.createQueuedMessage idempotencyKey dto)

def applyDeliveryStatus (params : ApplyDeliveryStatusParams) : Action Bool :=
  call (.update (.applyDeliveryStatus params))

def markProcessing (messageId : MessageId) : Action Bool :=
  call (.update (.markProcessing messageId))

def incrementAttempts (messageId : MessageId) : Action Unit := do
  let _ ← call (.update (.incrementAttempts messageId))

def markSent (messageId : MessageId) (selectedProvider : String)
    (providerMessageId : Option String) : Action Unit := do
  let sentAt ← newDate
  let _ ← call (.update (.markSent messageId selectedProvider providerMessageId sentAt))

def markFatalFailure (messageId : MessageId) (selectedProvider lastError : String) :
    Action Unit := do
  let failedAt ← newDate
  let _ ← call (.update (.markFatalFailure messageId selectedProvider lastError failedAt))

def markQueuePublishFailed (messageId : MessageId) : Action Unit := do
  let failedAt ← newDate
  let _ ← call (.update (.markQueuePublishFailed messageId failedAt))

def transitionFatalFailureToQueued (messageId : MessageId) : Action Bool :=
  call (.update (.transitionFatalFailureToQueued messageId))

def restoreFatalFailureAfterRequeueFailure (message : SmsMessage) (enqueueError : String) :
    Action Unit := do
  let failedAt ← match message.failedAt with
    | some failedAt => pure failedAt
    | none => newDate
  let _ ← call (.update (.restoreFatalFailure message.id message.selectedProvider
    (requeuePublishFailedError ++ ": " ++ enqueueError) failedAt))

def toErrorMessage (error : Failure) : String :=
  error.message?.getD "Unknown error"

def isUniqueViolation (error : Failure) : Bool :=
  error = .uniqueViolation

def toResponse (message : SmsMessage) : SendSmsResponse where
  messageId := message.id
  status := message.status
  createdAt := message.createdAt

def validateMessageLength (config : Config) (message : String) : Action Unit :=
  if Js.utf16Length message > config.maxMessageLength then
    throw (.app (.smsMessageTooLong config.maxMessageLength))
  else pure ()

def findFromIdempotencyCache (idempotencyKey : String) : Action (Option SmsMessage) := do
  match ← IdempotencyService.getMessageId idempotencyKey with
  | none => pure none
  | some cachedMessageId =>
      match ← findById cachedMessageId with
      | some message => pure (some message)
      | none => do
          IdempotencyService.deleteMessageId idempotencyKey
          pure none

def waitForMessageCreatedByConcurrentRequest (idempotencyKey : String) :
    (attempts : Nat) → Action (Option SmsMessage)
  | 0 => pure none
  | attempts + 1 => do
      sleep (.finite 50)
      match ← findByIdempotencyKey idempotencyKey with
      | some message => do
          IdempotencyService.storeMessageId idempotencyKey message.id
          pure (some message)
      | none => waitForMessageCreatedByConcurrentRequest idempotencyKey attempts

def findExistingAfterUniqueViolation (idempotencyKey : String) (error : Failure) :
    Action (Option SmsMessage) :=
  if isUniqueViolation error then do
    match ← findByIdempotencyKey idempotencyKey with
    | some existingMessage => pure (some existingMessage)
    | none => throw error
  else pure none

/-- The private `releaseLock`: a failure to release is only logged. -/
def releaseLock (lock : IdempotencyLock) : Action Unit :=
  tryCatch (IdempotencyService.releaseLock lock) fun _ => pure ()

/-- `enqueueSms` with the `catch` that compensates a failed publication. -/
def publishQueuedMessage (config : Config) (message : SmsMessage) : Action Unit :=
  tryCatch (QueueService.enqueueSms config message.id) fun _ => do
    markQueuePublishFailed message.id
    throw (.app .queuePublishFailed)

/-- The body of the `try` that runs under the lock. -/
def createUnderLock (config : Config) (idempotencyKey : String) (dto : SendSmsDto) :
    Action SendSmsResponse := do
  match ← findByIdempotencyKey idempotencyKey with
  | some messageAfterLock => do
      IdempotencyService.storeMessageId idempotencyKey messageAfterLock.id
      pure (toResponse messageAfterLock)
  | none => do
      let message ← createQueuedMessage idempotencyKey dto
      publishQueuedMessage config message
      IdempotencyService.storeMessageId idempotencyKey message.id
      pure (toResponse message)

/-- The `catch` of that `try`. -/
def recoverUnderLock (idempotencyKey : String) (error : Failure) : Action SendSmsResponse := do
  match ← findExistingAfterUniqueViolation idempotencyKey error with
  | some existingAfterUniqueViolation => do
      IdempotencyService.storeMessageId idempotencyKey existingAfterUniqueViolation.id
      pure (toResponse existingAfterUniqueViolation)
  | none => throw error

def sendSmsRequest (config : Config) (idempotencyKey : String) (dto : SendSmsDto) :
    Action SendSmsResponse := do
  validateMessageLength config dto.message
  match ← findFromIdempotencyCache idempotencyKey with
  | some cachedMessage => pure (toResponse cachedMessage)
  | none =>
      match ← findByIdempotencyKey idempotencyKey with
      | some existingMessage => do
          IdempotencyService.storeMessageId idempotencyKey existingMessage.id
          pure (toResponse existingMessage)
      | none =>
          match ← IdempotencyService.acquireLock idempotencyKey with
          | none =>
              match ← waitForMessageCreatedByConcurrentRequest idempotencyKey 20 with
              | some messageCreatedByConcurrentRequest =>
                  pure (toResponse messageCreatedByConcurrentRequest)
              | none => throw (.app .idempotencyConflict)
          | some lock =>
              (tryCatch (createUnderLock config idempotencyKey dto)
                (recoverUnderLock idempotencyKey)).finallyDo (releaseLock lock)

def requeue (config : Config) (messageId : MessageId) : Action SendSmsResponse := do
  match ← findById messageId with
  | none => throw (.app .smsMessageNotFound)
  | some message =>
      if message.status ≠ .fatalFailure then
        throw (.app .requeueNotEligible)
      else do
        let transitioned ← transitionFatalFailureToQueued messageId
        if !transitioned then
          throw (.app .requeueConflict)
        else do
          tryCatch (QueueService.requeueSms config messageId) fun error => do
            restoreFatalFailureAfterRequeueFailure message (toErrorMessage error)
            throw (.app .queuePublishFailed)
          pure { messageId := message.id, status := .queued, createdAt := message.createdAt }

end SmsService

end SmsNotification
