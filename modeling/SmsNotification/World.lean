import Mathlib.Logic.Function.Basic
import SmsNotification.Concurrency.Pool
import SmsNotification.Js
import SmsNotification.Message

/-!
Everything outside one Node process: the table, Redis, the BullMQ queues, the providers and the
clock. `exec` gives one awaited operation its meaning; what the environment decides comes in as a
`Choice`, so a run is replayed by listing its choices.
-/

namespace SmsNotification

open Concurrency

inductive AppError
  | smsMessageTooLong (maxMessageLength : Nat)
  | idempotencyConflict
  | queuePublishFailed
  | smsMessageNotFound
  | requeueNotEligible
  | requeueConflict
  | invalidRetryConfiguration (parameter : String) (value : Nat)
  | rateLimitNotConfigured (provider : String)
  | providerNotRegistered (provider : String)
  | invalidTwilioSignature
  | invalidTwilioPayload
  | invalidBirdSignature
  | invalidBirdPayload
  deriving DecidableEq, Repr

def AppError.message : AppError → String
  | smsMessageTooLong _ =>
      "message must be shorter than or equal to the configured maximum length."
  | idempotencyConflict => "A request with this idempotency key is already being processed."
  | queuePublishFailed => "SMS request was persisted, but queue publication failed."
  | smsMessageNotFound => "SMS message was not found."
  | requeueNotEligible => "Only messages in FATAL_FAILURE can be requeued."
  | requeueConflict => "SMS message is no longer eligible for requeue."
  | invalidRetryConfiguration _ _ =>
      "Retry attempt and base delay must be greater than or equal to 1."
  | rateLimitNotConfigured _ => "SMS provider has no valid rate limit configured."
  | providerNotRegistered _ => "SMS provider is not registered."
  | invalidTwilioSignature => "Invalid Twilio webhook signature."
  | invalidTwilioPayload => "Twilio callback is missing MessageSid or MessageStatus."
  | invalidBirdSignature => "Invalid Bird webhook signature."
  | invalidBirdPayload => "Bird webhook is missing the event type or sms id."

/-- What an awaited call can throw. `rejection` is an infrastructure failure, with the message of
the thrown value when that is an `Error`. -/
inductive Failure
  | app (error : AppError)
  | uniqueViolation
  | rejection (message : Option String)
  deriving DecidableEq, Repr

/-- `error.message` for the values that are instances of `Error`. -/
def Failure.message? : Failure → Option String
  | app error => some error.message
  | uniqueViolation =>
      some "duplicate key value violates unique constraint \"UQ_sms_messages_idempotency_key\""
  | rejection message => message

structure IdempotencyLock where
  key : String
  token : Nat
  deriving DecidableEq, Repr

structure SendSmsOptions where
  «to» : String
  body : String
  referenceId : MessageId
  deriving DecidableEq, Repr

structure SendSmsResult where
  success : Bool
  providerMessageId : Option String := none
  error : Option String := none
  isRetryable : Bool
  retryAfterMs : Option Js.Number := none
  deriving DecidableEq

inductive LogLevel
  | info
  | warn
  | error
  deriving DecidableEq, Repr

inductive LogValue
  | text (value : String)
  | flag (value : Bool)
  | message (id : MessageId)
  | status (value : SmsStatus)
  | inherited (property : String)
  deriving DecidableEq, Repr

structure LogEntry where
  level : LogLevel
  fields : List (String × LogValue)
  text : String
  deriving DecidableEq, Repr

/-- The calls that the services await, and the calls on the clock, the timer and the logger. -/
inductive Op
  | findById (messageId : MessageId)
  | findByIdempotencyKey (idempotencyKey : String)
  | findByProviderMessageId (provider providerMessageId : String)
  | createQueuedMessage (idempotencyKey : String) (dto : SendSmsDto)
  | update (statement : Update)
  | getMessageId (idempotencyKey : String)
  | storeMessageId (idempotencyKey : String) (messageId : MessageId)
  | deleteMessageId (idempotencyKey : String)
  | acquireLock (idempotencyKey : String)
  | releaseLock (lock : IdempotencyLock)
  | claimBirdWebhook (webhookId : String)
  | releaseBirdWebhook (webhookId : String)
  | enqueueSms (messageId : MessageId) (attempts : Nat)
  | requeueSms (messageId : MessageId) (attempts : Nat)
  | enqueueDeadLetter (messageId : MessageId)
  | throttle (provider : String)
  | sendSms (provider : String) (options : SendSmsOptions)
  | newDate
  | sleep (milliseconds : Js.Number)
  | log (entry : LogEntry)
  deriving DecidableEq

/-- An `UPDATE` replies whether it affected a row. -/
abbrev Op.Reply : Op → Type
  | findById _ => Option SmsMessage
  | findByIdempotencyKey _ => Option SmsMessage
  | findByProviderMessageId _ _ => Option SmsMessage
  | createQueuedMessage _ _ => SmsMessage
  | update _ => Bool
  | getMessageId _ => Option MessageId
  | storeMessageId _ _ => Unit
  | deleteMessageId _ => Unit
  | acquireLock _ => Option IdempotencyLock
  | releaseLock _ => Unit
  | claimBirdWebhook _ => Bool
  | releaseBirdWebhook _ => Unit
  | enqueueSms _ _ => Unit
  | requeueSms _ _ => Unit
  | enqueueDeadLetter _ => Unit
  | throttle _ => Unit
  | sendSms _ _ => SendSmsResult
  | newDate => Date
  | sleep _ => Unit
  | log _ => Unit

/-- The clock, the timer and the logger never reject. -/
def Op.fallible : Op → Bool
  | newDate => false
  | sleep _ => false
  | log _ => false
  | _ => true

abbrev Action (α : Type) := Program Op Op.Reply Failure α

abbrev call (op : Op) : Action op.Reply := Program.perform op

inductive JobState
  | waiting
  | delayed
  | active (pid : Nat)
  | completed
  | failed
  deriving DecidableEq, Repr

/-- A `send-sms` job. Its id is the message id, or a fresh one when it comes from a requeue;
`attemptsMade` counts its finished executions. -/
structure Job where
  messageId : MessageId
  fromRequeue : Bool
  attempts : Nat
  attemptsMade : Nat := 0
  state : JobState := .waiting
  deriving DecidableEq, Repr

structure World where
  messages : Table
  /-- `sms:idempotency:{key}` -/
  cache : String → Option MessageId
  /-- `sms:idempotency-lock:{key}`, with the owner's token -/
  locks : String → Option Nat
  /-- `sms:webhook:bird:{webhookId}` -/
  claims : String → Bool
  jobs : List Job
  deadLetters : List MessageId

def World.initial : World where
  messages := .empty
  cache _ := none
  locks _ := none
  claims _ := false
  jobs := []
  deadLetters := []

/-- What the environment contributes to an operation that executes: the generated id, the clock,
the random token, the row picked among several and the provider's answer. -/
structure Hint where
  id : MessageId := 0
  date : Date := 0
  token : Nat := 0
  index : Nat := 0
  sms : SendSmsResult := { success := false, isRetryable := false }

/-- An operation is answered, or rejected without an effect, or takes effect while its reply is
lost and the caller sees a rejection. -/
inductive Choice
  | answered (hint : Hint)
  | rejected (message : Option String)
  | lost (hint : Hint) (message : Option String)

def Choice.isAnswered : Choice → Bool
  | answered _ => true
  | _ => false

def Choice.isExecuted : Choice → Bool
  | rejected _ => false
  | _ => true

def Choice.isLost : Choice → Bool
  | lost _ _ => true
  | _ => false

abbrev World.Outcome (op : Op) := Completion op.Reply Failure World

/-- BullMQ ignores a job whose id already exists; the id of an initial job is its message. -/
def World.addJob (world : World) (job : Job) : World × Bool :=
  if !job.fromRequeue && world.jobs.any fun other =>
      !other.fromRequeue && other.messageId == job.messageId then
    (world, false)
  else
    ({ world with jobs := world.jobs ++ [job] }, true)

def World.perform (world : World) (hint : Hint) : (op : Op) → Option (World.Outcome op)
  | .findById id => some ⟨.ok (world.messages.findById id), world, false⟩
  | .findByIdempotencyKey key => some ⟨.ok (world.messages.findByIdempotencyKey key), world, false⟩
  | .findByProviderMessageId provider providerMessageId =>
      match world.messages.findByProviderMessageId provider providerMessageId with
      | [] => some ⟨.ok none, world, false⟩
      | row :: rows => (row :: rows)[hint.index]?.map fun row => ⟨.ok (some row), world, false⟩
  | .createQueuedMessage key dto =>
      let row := queuedMessage hint.id hint.date key dto
      if newId : row.id ∉ world.messages.rows.map SmsMessage.id then
        if newKey : row.idempotencyKey ∉ world.messages.rows.map SmsMessage.idempotencyKey then
          some ⟨.ok row, { world with messages := world.messages.insert row newId newKey }, true⟩
        else some ⟨.error .uniqueViolation, world, false⟩
      else none
  | .update statement =>
      let affected := world.messages.affected statement
      some ⟨.ok affected, { world with messages := world.messages.update statement }, affected⟩
  | .getMessageId key => some ⟨.ok (world.cache key), world, false⟩
  | .storeMessageId key id =>
      some ⟨.ok (), { world with cache := Function.update world.cache key (some id) }, true⟩
  | .deleteMessageId key =>
      some ⟨.ok (), { world with cache := Function.update world.cache key none }, true⟩
  | .acquireLock key =>
      match world.locks key with
      | some _ => some ⟨.ok none, world, false⟩
      | none => some ⟨.ok (some ⟨key, hint.token⟩),
          { world with locks := Function.update world.locks key (some hint.token) }, true⟩
  | .releaseLock lock =>
      if world.locks lock.key = some lock.token then
        some ⟨.ok (), { world with locks := Function.update world.locks lock.key none }, true⟩
      else some ⟨.ok (), world, false⟩
  | .claimBirdWebhook webhookId =>
      if world.claims webhookId then some ⟨.ok false, world, false⟩
      else some ⟨.ok true,
        { world with claims := Function.update world.claims webhookId true }, true⟩
  | .releaseBirdWebhook webhookId =>
      some ⟨.ok (), { world with claims := Function.update world.claims webhookId false }, true⟩
  | .enqueueSms id attempts =>
      let added := world.addJob { messageId := id, fromRequeue := false, attempts := attempts }
      some ⟨.ok (), added.1, added.2⟩
  | .requeueSms id attempts =>
      let added := world.addJob { messageId := id, fromRequeue := true, attempts := attempts }
      some ⟨.ok (), added.1, added.2⟩
  | .enqueueDeadLetter id =>
      some ⟨.ok (), { world with deadLetters := world.deadLetters ++ [id] }, true⟩
  | .throttle _ => some ⟨.ok (), world, false⟩
  | .sendSms _ _ => some ⟨.ok hint.sms, world, false⟩
  | .newDate => some ⟨.ok hint.date, world, false⟩
  | .sleep _ => some ⟨.ok (), world, false⟩
  | .log _ => some ⟨.ok (), world, false⟩

def World.exec (world : World) (op : Op) : Choice → Option (World.Outcome op)
  | .answered hint => world.perform hint op
  | .rejected message =>
      if op.fallible then some ⟨.error (.rejection message), world, false⟩ else none
  | .lost hint message =>
      if op.fallible then
        (world.perform hint op).map fun outcome =>
          ⟨.error (.rejection message), outcome.world, outcome.effective⟩
      else none

end SmsNotification
