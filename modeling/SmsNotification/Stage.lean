import SmsNotification.Service

/-!
The protocol of the service: for each process a ghost stage that says what the process has learned
and may still do. Stages forget retry counters and texts; they keep what decides the fate of a row.
-/

namespace SmsNotification

open Concurrency

inductive Stage
  -- `sendSmsRequest`
  | requesting (key : String)
  | cached (key : String) (id : MessageId)
  | holding (key : String) (id : MessageId)
  | creator (key : String) (id : MessageId)
  | published (key : String) (id : MessageId)
  | unpublished (key : String) (id : MessageId)
  | refused
  -- `requeue`
  | administering (id : MessageId)
  | eligible (snapshot : SmsMessage)
  | reopened (snapshot : SmsMessage)
  | restoring (snapshot : SmsMessage) (enqueueError : String)
  | requeued (id : MessageId)
  -- `dispatch`
  | dispatching (id : MessageId)
  | loaded (id : MessageId)
  | skipping (id : MessageId)
  | sending (id : MessageId)
  | counted (id : MessageId)
  | throttled (id : MessageId)
  | accepted (id : MessageId) (provider : String) (providerMessageId : Option String)
  | dead (id : MessageId)
  | aborted (id : MessageId)
  -- delivery callbacks, with the Bird claim they hold
  | claiming (webhookId : String) (event : BirdDeliveryEvent)
  | duplicate (webhookId : String)
  | receiving (claim : Option String) (callback : DeliveryStatusCallback)
  | resolved (claim : Option String) (callback : DeliveryStatusCallback) (id : MessageId)
  | skipped (claim : Option String) (id : MessageId)
  | processed (claim : Option String)
  | failing (webhookId : String)
  | finished
  deriving DecidableEq

namespace Stage

def DeliveryParams (callback : DeliveryStatusCallback) (id : MessageId)
    (params : ApplyDeliveryStatusParams) : Prop :=
  ∃ status allowedPreviousStatuses eventAt,
    callback.status = .status status ∧
    allowedPreviousStatusesFor status = some allowedPreviousStatuses ∧
    (callback.eventAt = some eventAt ∨ callback.eventAt = none) ∧
    params = DeliveryStatusService.updateParams id status allowedPreviousStatuses
      callback.lastError eventAt

def AllowedUpdate (stage : Stage) : Update → Prop
  | .markProcessing id => stage = .loaded id
  | .incrementAttempts id => stage = .sending id
  | .markSent id provider providerMessageId _ => stage = .accepted id provider providerMessageId
  | .markFatalFailure id _ _ _ => stage = .sending id
  | .markQueuePublishFailed id _ => ∃ key, stage = .unpublished key id
  | .transitionFatalFailureToQueued id => ∃ snapshot, stage = .eligible snapshot ∧ snapshot.id = id
  | .restoreFatalFailure id selectedProvider lastError failedAt =>
      ∃ snapshot enqueueError, stage = .restoring snapshot enqueueError ∧ snapshot.id = id ∧
        selectedProvider = snapshot.selectedProvider ∧
        lastError = requeuePublishFailedError ++ ": " ++ enqueueError ∧
        (snapshot.failedAt = some failedAt ∨ snapshot.failedAt = none)
  | .applyDeliveryStatus params =>
      ∃ claim callback id, stage = .resolved claim callback id ∧ DeliveryParams callback id params

def isFailing : Stage → Bool
  | failing _ => true
  | _ => false

def Allowed (stage : Stage) : Op → Prop
  | .findById id => (∃ key, stage = .cached key id) ∨ stage = .administering id ∨
      stage = .dispatching id ∨ stage = .skipping id ∨ ∃ claim, stage = .skipped claim id
  | .findByIdempotencyKey key => stage = .requesting key
  | .findByProviderMessageId provider providerMessageId =>
      ∃ claim callback, stage = .receiving claim callback ∧ callback.provider = provider ∧
        callback.providerMessageId = providerMessageId
  | .createQueuedMessage key _ => stage = .requesting key
  | .update statement => stage.AllowedUpdate statement
  | .getMessageId key => stage = .requesting key
  | .storeMessageId key id => stage = .holding key id ∨ stage = .published key id
  | .deleteMessageId key => stage = .requesting key
  | .acquireLock key => stage = .requesting key
  | .releaseLock _ => (∃ key, stage = .requesting key) ∨ (∃ key id, stage = .holding key id) ∨
      (∃ key id, stage = .published key id) ∨ stage = .refused
  | .claimBirdWebhook webhookId => ∃ event, stage = .claiming webhookId event
  | .releaseBirdWebhook webhookId => stage = .failing webhookId
  | .enqueueSms id _ => ∃ key, stage = .creator key id
  | .requeueSms id _ => ∃ snapshot, stage = .reopened snapshot ∧ snapshot.id = id
  | .enqueueDeadLetter id => stage = .dead id
  | .throttle _ => ∃ id, stage = .counted id
  | .sendSms _ options => stage = .throttled options.referenceId
  | .newDate => stage.isFailing = false
  | .sleep _ => stage.isFailing = false
  | .log _ => stage.isFailing = false

/-- What an answer tells by itself, whatever the world it was given in. -/
def Answers : (op : Op) → op.Reply → Prop
  | .findById id, some row => row.id = id
  | .findByIdempotencyKey key, some row => row.idempotencyKey = key
  | .findByProviderMessageId provider providerMessageId, some row =>
      row.selectedProvider = some provider ∧ row.providerMessageId = some providerMessageId
  | .createQueuedMessage key _, row => row.idempotencyKey = key
  | _, _ => True

/-- Only an insert reports a unique violation; every other error is a rejected call. -/
def Replies (op : Op) : Except Failure op.Reply → Prop
  | .ok answer => Answers op answer
  | .error error => op.fallible = true ∧
      ((∃ message, error = .rejection message) ∨
        error = .uniqueViolation ∧ ∃ key dto, op = .createQueuedMessage key dto)

def failed : Option String → Stage
  | some webhookId => .failing webhookId
  | none => .finished

def found (claim : Option String) (callback : DeliveryStatusCallback) (id : MessageId) : Stage :=
  match callback.status with
  | .inherited _ => .processed claim
  | .status status =>
      if (allowedPreviousStatusesFor status).isSome then .resolved claim callback id
      else .processed claim

def birdEvent (caseMapping : Js.CaseMapping) (webhookId : String) (event : BirdDeliveryEvent) :
    Stage :=
  match mapBirdEventType caseMapping event.type with
  | none => .processed (some webhookId)
  | some status =>
      .receiving (some webhookId) (BirdWebhookService.deliveryCallback caseMapping event status)

def nextFindById (stage : Stage) (reply : Except Failure (Option SmsMessage)) : Stage :=
  match stage, reply with
  | .cached key _, .ok (some message) => .holding key message.id
  | .cached key _, _ => .requesting key
  | .administering _, .ok (some message) =>
      if message.status = .fatalFailure then .eligible message else .finished
  | .administering _, _ => .finished
  | .dispatching id, .ok (some message) =>
      if nonDispatchableStatuses.contains message.status then .finished else .loaded id
  | .dispatching _, .ok none => .finished
  | .dispatching id, .error _ => .aborted id
  | .skipping _, _ => .finished
  | .skipped claim _, .ok _ => .processed claim
  | .skipped claim _, .error _ => failed claim
  | stage, _ => stage

def nextUpdate (stage : Stage) (statement : Update) (reply : Except Failure Bool) : Stage :=
  match statement, reply with
  | .markProcessing id, .ok true => .sending id
  | .markProcessing id, .ok false => .skipping id
  | .markProcessing id, .error _ => .aborted id
  | .incrementAttempts id, .ok _ => .counted id
  | .incrementAttempts id, .error _ => .aborted id
  | .markSent _ _ _ _, .ok _ => .finished
  | .markSent id _ _ _, .error _ => .aborted id
  | .markFatalFailure id _ _ _, .ok _ => .dead id
  | .markFatalFailure id _ _ _, .error _ => .aborted id
  | .markQueuePublishFailed _ _, _ => .refused
  | .transitionFatalFailureToQueued _, reply =>
      match stage, reply with
      | .eligible snapshot, .ok true => .reopened snapshot
      | _, _ => .finished
  | .restoreFatalFailure _ _ _ _, _ => .finished
  | .applyDeliveryStatus _, reply =>
      match stage, reply with
      | .resolved claim _ _, .ok true => .processed claim
      | .resolved claim _ id, .ok false => .skipped claim id
      | .resolved claim _ _, .error _ => failed claim
      | stage, _ => stage

def next (caseMapping : Js.CaseMapping) (stage : Stage) :
    (op : Op) → Except Failure op.Reply → Stage
  | .findById _, reply => stage.nextFindById reply
  | .findByIdempotencyKey key, .ok (some message) => .holding key message.id
  | .findByProviderMessageId _ _, reply =>
      match stage, reply with
      | .receiving claim _, .ok none => .processed claim
      | .receiving claim callback, .ok (some message) => found claim callback message.id
      | .receiving claim _, .error _ => failed claim
      | stage, _ => stage
  | .createQueuedMessage key _, .ok message => .creator key message.id
  | .update statement, reply => stage.nextUpdate statement reply
  | .getMessageId key, .ok (some id) => .cached key id
  | .claimBirdWebhook webhookId, reply =>
      match stage, reply with
      | .claiming _ event, .ok true => birdEvent caseMapping webhookId event
      | _, .ok false => .duplicate webhookId
      | _, _ => .finished
  | .releaseBirdWebhook _, _ => .finished
  | .enqueueSms _ _, reply =>
      match stage, reply with
      | .creator key id, .ok _ => .published key id
      | .creator key id, .error _ => .unpublished key id
      | stage, _ => stage
  | .requeueSms _ _, reply =>
      match stage, reply with
      | .reopened snapshot, .ok _ => .requeued snapshot.id
      | .reopened snapshot, .error error => .restoring snapshot (SmsService.toErrorMessage error)
      | stage, _ => stage
  | .enqueueDeadLetter _, _ => .finished
  | .throttle _, reply =>
      match stage, reply with
      | .counted id, .ok _ => .throttled id
      | .counted id, .error _ => .aborted id
      | stage, _ => stage
  | .sendSms provider options, .ok result =>
      if result.success then .accepted options.referenceId provider result.providerMessageId
      else .sending options.referenceId
  | .sendSms _ options, .error _ => .sending options.referenceId
  | _, _ => stage

abbrev protocol (caseMapping : Js.CaseMapping) : Protocol Op Op.Reply Failure where
  Stage := Stage
  allowed := Allowed
  replies := Replies
  next := next caseMapping

def start (caseMapping : Js.CaseMapping) : Call → Stage
  | .send key _ => .requesting key
  | .requeue id => .administering id
  | .dispatch id => .dispatching id
  | .twilio callback =>
      match mapTwilioStatus caseMapping callback.messageStatus with
      | none => .processed none
      | some status =>
          .receiving none (TwilioWebhookService.deliveryCallback caseMapping callback status)
  | .bird webhookId event => .claiming webhookId event

def Settles : Call → Stage → Except Failure Answer → Prop
  | .send key _, stage, .ok answer => ∃ response, answer = .accepted response ∧
      (stage = .holding key response.messageId ∨ stage = .published key response.messageId)
  | .send key _, stage, .error _ => stage = .requesting key ∨ (∃ id, stage = .holding key id) ∨
      (∃ id, stage = .published key id) ∨ stage = .refused
  | .requeue id, stage, .ok _ => stage = .requeued id
  | .requeue _, stage, .error _ => stage = .finished
  | .dispatch _, stage, .ok _ => stage = .finished
  | .dispatch id, stage, .error _ => stage = .finished ∨ stage = .aborted id
  | .twilio _, stage, .ok _ => stage = .processed none
  | .twilio _, stage, .error _ => stage = .finished
  | .bird webhookId _, stage, .ok _ =>
      stage = .processed (some webhookId) ∨ stage = .duplicate webhookId
  | .bird _ _, stage, .error _ => stage = .finished

end Stage

end SmsNotification
