import SmsNotification.Dispatcher
import SmsNotification.Webhooks

/-!
The running service: any number of HTTP requests and job executions whose awaited operations
interleave, the life of a BullMQ job, and the expiry of Redis keys.
-/

namespace SmsNotification

open Concurrency

/-- What a process was started for. A `dispatch` is one execution of a `send-sms` job. -/
inductive Call
  | send (idempotencyKey : String) (dto : SendSmsDto)
  | requeue (messageId : MessageId)
  | dispatch (messageId : MessageId)
  | twilio (callback : TwilioStatusCallback)
  | bird (webhookId : String) (event : BirdDeliveryEvent)
  deriving DecidableEq

/-- The answer to the caller: `202` with a body, `204`, or nothing for a job. -/
inductive Answer
  | accepted (response : SendSmsResponse)
  | noContent
  deriving DecidableEq

def Call.program (config : Config) : Call → Action Answer
  | send idempotencyKey dto => do
      let response ← SmsService.sendSmsRequest config idempotencyKey dto
      pure (.accepted response)
  | requeue messageId => do
      let response ← SmsService.requeue config messageId
      pure (.accepted response)
  | dispatch messageId => do
      SmsDispatcherService.dispatch config messageId
      pure .noContent
  | twilio callback => do
      TwilioWebhookService.handleVerified config.caseMapping (some callback)
      pure .noContent
  | bird webhookId event => do
      BirdWebhookService.handleVerified config.caseMapping webhookId (some event)
      pure .noContent

def Call.isDispatch : Call → Bool
  | dispatch _ => true
  | _ => false

/-- The job after an execution: a rejection is retried until the attempts are used up. -/
def Job.settled (job : Job) : Except Failure Answer → Job
  | .ok _ => { job with attemptsMade := job.attemptsMade + 1, state := .completed }
  | .error _ => { job with
      attemptsMade := job.attemptsMade + 1
      state := if job.attemptsMade + 1 < job.attempts then .delayed else .failed }

def upcoming {α : Type} : Action α → Option Op
  | .settled _ => none
  | .await .newDate next => upcoming (next (.ok 0))
  | .await (.sleep _) next => upcoming (next (.ok ()))
  | .await (.log _) next => upcoming (next (.ok ()))
  | .await op _ => some op

abbrev Service := Pool Op Op.Reply Failure Call Answer World

namespace Service

def initial : Service where
  world := .initial
  processes := []
  history := []

/-- One step of the system: a request arrives, a worker takes a job, a process executes the
operation it awaits, BullMQ records the end of an execution or hands a stalled job out again, or a
Redis key expires. -/
inductive Event
  | request (call : Call)
  | execute (job : Nat)
  | resume (pid : Nat) (choice : Choice)
  | settle (job : Nat)
  | stall (job : Nat)
  | expireCache (idempotencyKey : String)
  | expireLock (idempotencyKey : String)
  | expireClaim (webhookId : String)

def setJob (service : Service) (index : Nat) (job : Job) : Service :=
  { service with world := { service.world with jobs := service.world.jobs.set index job } }

def result (service : Service) (pid : Nat) : Option (Except Failure Answer) :=
  service.processes[pid]?.bind fun process => process.program.result

def step (config : Config) (service : Service) : Event → Option Service
  | .request call =>
      if call.isDispatch then none else some (service.spawn call (call.program config))
  | .execute index => do
      let job ← service.world.jobs[index]?
      if job.state = .waiting ∨ job.state = .delayed then
        let call := Call.dispatch job.messageId
        some ((service.setJob index
          { job with state := .active service.processes.length }).spawn call (call.program config))
      else none
  | .resume pid choice => service.resume World.exec pid choice
  | .settle index => do
      let job ← service.world.jobs[index]?
      match job.state with
      | .active pid => do
          let result ← service.result pid
          some (service.setJob index (job.settled result))
      | _ => none
  | .stall index => do
      let job ← service.world.jobs[index]?
      match job.state with
      | .active _ => some (service.setJob index { job with state := .waiting })
      | _ => none
  | .expireCache key => some { service with
      world := { service.world with cache := Function.update service.world.cache key none } }
  | .expireLock key => some { service with
      world := { service.world with locks := Function.update service.world.locks key none } }
  | .expireClaim webhookId => some { service with
      world := { service.world with
        claims := Function.update service.world.claims webhookId false } }

def executes (service : Service) : Event → Option Op
  | .resume pid choice => if choice.isExecuted then service.awaits pid else none
  | _ => none

/-- The operation that takes effect in an event although its caller sees a rejection. -/
def loses (service : Service) : Event → Option Op
  | .resume pid choice => if choice.isLost then service.awaits pid else none
  | _ => none

def Event.answers (pid count : Nat) : List Event :=
  List.replicate count (.resume pid (.answered {}))

def Event.sends (idempotencyKey : String) : Event :=
  .request (.send idempotencyKey { «to» := "+15550100", message := "hello", metadata := none })

def Event.reports (messageSid messageStatus : String) : Event :=
  .request (.twilio
    { messageSid := messageSid, messageStatus := messageStatus, errorCode := none })

def Event.accepts (pid : Nat) (providerMessageId : String) : Event :=
  .resume pid (.answered { sms := {
    success := true, providerMessageId := some providerMessageId, isRetryable := false } })

end Service

end SmsNotification
