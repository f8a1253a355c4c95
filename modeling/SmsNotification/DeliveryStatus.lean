import SmsNotification.SmsService

/-!
The provider vocabularies, the progression policy for delivery callbacks and
`DeliveryStatusService.apply`, which looks a message up and updates it under that policy.
-/

namespace SmsNotification

open Concurrency

/-- What a lookup in one of the status tables yields. The tables are object literals, so a name
that `Object.prototype` defines yields an inherited member instead of a status. -/
inductive MappedStatus
  | status (value : SmsStatus)
  | inherited (property : String)
  deriving DecidableEq, Repr

def objectPrototypeProperties : List String :=
  ["constructor", "__defineGetter__", "__defineSetter__", "hasOwnProperty", "__lookupGetter__",
    "__lookupSetter__", "isPrototypeOf", "propertyIsEnumerable", "toString", "valueOf",
    "__proto__", "toLocaleString"]

def objectLookup (table : List (String × SmsStatus)) (property : String) : Option MappedStatus :=
  match table.lookup property with
  | some status => some (.status status)
  | none => if objectPrototypeProperties.contains property then some (.inherited property) else none

def twilioStatusMap : List (String × SmsStatus) :=
  [("sent", .sent), ("delivered", .delivered), ("undelivered", .undelivered), ("failed", .failed),
    ("canceled", .rejected)]

def birdEventStatusMap : List (String × SmsStatus) :=
  [("sms.sent", .sent), ("sms.delivered", .delivered), ("sms.undelivered", .undelivered),
    ("sms.failed", .failed), ("sms.rejected", .rejected), ("sms.expired", .undelivered)]

def mapTwilioStatus (caseMapping : Js.CaseMapping) (status : String) : Option MappedStatus :=
  objectLookup twilioStatusMap (caseMapping.toLowerCase (Js.trim status))

def mapBirdEventType (caseMapping : Js.CaseMapping) (eventType : String) : Option MappedStatus :=
  objectLookup birdEventStatusMap (caseMapping.toLowerCase (Js.trim eventType))

def deliveryTerminalStatuses : List SmsStatus := [.delivered, .undelivered, .rejected, .failed]

def deliveryFailureStatuses : List SmsStatus := [.undelivered, .rejected, .failed]

def isDeliveryFailureStatus (status : SmsStatus) : Bool :=
  deliveryFailureStatuses.contains status

def allowedPreviousStatusesFor (status : SmsStatus) : Option (List SmsStatus) :=
  if status = .sent then some [.queued, .processing]
  else if status = .delivered then
    some ([.queued, .processing, .sent] ++ deliveryFailureStatuses)
  else if deliveryFailureStatuses.contains status then some [.queued, .processing, .sent]
  else none

inductive SkippedCallbackReason
  | duplicate
  | conflict
  | ignored
  deriving DecidableEq, Repr

def classifySkippedCallback (currentStatus incomingStatus : SmsStatus) : SkippedCallbackReason :=
  if currentStatus = incomingStatus then .duplicate
  else if deliveryTerminalStatuses.contains currentStatus &&
      deliveryTerminalStatuses.contains incomingStatus then .conflict
  else .ignored

structure DeliveryStatusCallback where
  provider : String
  providerMessageId : String
  status : MappedStatus
  externalStatus : String
  eventAt : Option Date
  lastError : Option String
  deriving DecidableEq, Repr

inductive DeliveryStatusOutcome
  | updated
  | duplicate
  | ignored
  | conflict
  | notFound
  deriving DecidableEq, Repr

namespace DeliveryStatusService

def log (level : LogLevel) (event : String) (fields : List (String × LogValue)) (text : String) :
    Action Unit :=
  call (.log { level := level, fields := ("event", .text event) :: fields, text := text })

def logStatus : MappedStatus → LogValue
  | .status value => .status value
  | .inherited property => .inherited property

def logNotFound (callback : DeliveryStatusCallback) : Action Unit :=
  log .warn "WEBHOOK_MESSAGE_NOT_FOUND"
    [("provider", .text callback.provider),
      ("providerMessageId", .text callback.providerMessageId),
      ("externalStatus", .text callback.externalStatus)]
    "Delivery callback referenced an unknown provider message id"

def messageFields (callback : DeliveryStatusCallback) (messageId : MessageId)
    (previousStatus : SmsStatus) : List (String × LogValue) :=
  [("provider", .text callback.provider), ("messageId", .message messageId),
    ("providerMessageId", .text callback.providerMessageId),
    ("previousStatus", .status previousStatus), ("newStatus", logStatus callback.status),
    ("externalStatus", .text callback.externalStatus)]

def buildTimestamps (status : SmsStatus) (eventAt : Date) (params : ApplyDeliveryStatusParams) :
    ApplyDeliveryStatusParams :=
  if status = .delivered then { params with deliveredAt := some (some eventAt), failedAt := some none }
  else if isDeliveryFailureStatus status then { params with failedAt := some (some eventAt) }
  else { params with sentAtWhenMissing := some eventAt }

def updateParams (messageId : MessageId) (status : SmsStatus)
    (allowedPreviousStatuses : List SmsStatus) (lastError : Option String) (eventAt : Date) :
    ApplyDeliveryStatusParams :=
  buildTimestamps status eventAt {
    messageId := messageId
    status := status
    allowedPreviousStatuses := allowedPreviousStatuses
    lastError := lastError }

def logSkippedCallback (callback : DeliveryStatusCallback) (status : SmsStatus)
    (messageId : MessageId) (previousStatus : SmsStatus) : Action DeliveryStatusOutcome := do
  let latestMessage ← SmsService.findById messageId
  let currentStatus := (latestMessage.map SmsMessage.status).getD previousStatus
  match classifySkippedCallback currentStatus status with
  | .conflict => do
      log .warn "WEBHOOK_STATUS_CONFLICT" (messageFields callback messageId currentStatus)
        "Conflicting terminal delivery callback ignored to protect the recorded outcome"
      pure .conflict
  | .duplicate => do
      log .info "WEBHOOK_DUPLICATE" (messageFields callback messageId currentStatus)
        "Delivery callback repeated a status that is already recorded"
      pure .duplicate
  | .ignored => do
      log .info "WEBHOOK_STATUS_IGNORED" (messageFields callback messageId currentStatus)
        "Delivery callback ignored because it would regress the recorded status"
      pure .ignored

def eventDate (callback : DeliveryStatusCallback) : Action Date :=
  match callback.eventAt with
  | some eventAt => pure eventAt
  | none => newDate

def updateFound (callback : DeliveryStatusCallback) (message : SmsMessage) (status : SmsStatus)
    (allowedPreviousStatuses : List SmsStatus) : Action DeliveryStatusOutcome := do
  let eventAt ← eventDate callback
  let updated ← SmsService.applyDeliveryStatus
    (updateParams message.id status allowedPreviousStatuses callback.lastError eventAt)
  if updated then do
    log .info "WEBHOOK_STATUS_UPDATED" (messageFields callback message.id message.status)
      "SMS delivery status updated from provider callback"
    pure .updated
  else logSkippedCallback callback status message.id message.status

def ignoreStatus (callback : DeliveryStatusCallback) (message : SmsMessage) :
    Action DeliveryStatusOutcome := do
  log .warn "WEBHOOK_STATUS_IGNORED" (messageFields callback message.id message.status)
    "Delivery callback mapped to a status that cannot be applied from a webhook"
  pure .ignored

def apply (callback : DeliveryStatusCallback) : Action DeliveryStatusOutcome := do
  match ← SmsService.findByProviderMessageId callback.provider callback.providerMessageId with
  | none => do
      logNotFound callback
      pure .notFound
  | some message =>
      match callback.status with
      | .inherited _ => ignoreStatus callback message
      | .status status =>
          match allowedPreviousStatusesFor status with
          | none => ignoreStatus callback message
          | some allowedPreviousStatuses =>
              updateFound callback message status allowedPreviousStatuses

end DeliveryStatusService

end SmsNotification
