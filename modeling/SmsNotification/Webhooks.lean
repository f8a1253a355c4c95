import SmsNotification.DeliveryStatus

/-!
`TwilioWebhookService` and `BirdWebhookService` from a verified request on: the diagnostic codes
they derive from a payload, the deduplication of Bird deliveries and the processing of an event.
-/

namespace SmsNotification

open Concurrency

def maxDiagnosticCodeLength : Nat := 64

def isCodeChar (char : Char) : Bool :=
  ('A' ≤ char && char ≤ 'Z') || ('0' ≤ char && char ≤ '9')

/-- `replace(/[^A-Z0-9]+/g, '_')`; `inRun` tells that the previous character was replaced. -/
def collapseRuns : (inRun : Bool) → List Char → List Char
  | _, [] => []
  | inRun, char :: rest =>
      if isCodeChar char then char :: collapseRuns false rest
      else if inRun then collapseRuns true rest
      else '_' :: collapseRuns true rest

/-- `replace(/^_+|_+$/g, '')`. -/
def stripUnderscores (chars : List Char) : List Char :=
  ((chars.dropWhile (· == '_')).reverse.dropWhile (· == '_')).reverse

def sanitizeDiagnosticCode (caseMapping : Js.CaseMapping) (value : String) : String :=
  let sanitized := stripUnderscores
    (collapseRuns false (caseMapping.toUpperCase (Js.trim value)).toList)
  if sanitized.length = 0 then "UNKNOWN"
  else String.ofList (sanitized.take maxDiagnosticCodeLength)

structure TwilioStatusCallback where
  messageSid : String
  messageStatus : String
  errorCode : Option String
  deriving DecidableEq, Repr

structure BirdDeliveryEvent where
  type : String
  smsId : String
  occurredAt : Option Date
  errorCode : Option String
  deriving DecidableEq, Repr

def buildTwilioLastError (caseMapping : Js.CaseMapping) (callback : TwilioStatusCallback) :
    String :=
  match callback.errorCode.filter (· != "") with
  | some errorCode => "TWILIO_ERROR_" ++ sanitizeDiagnosticCode caseMapping errorCode
  | none => "TWILIO_STATUS_" ++ sanitizeDiagnosticCode caseMapping callback.messageStatus

/-- What follows the first dot of an event type, or all of it when it has none. -/
def eventSuffix (type : String) : String :=
  if type.toList.contains '.' then
    String.ofList ((type.toList.dropWhile (· != '.')).drop 1)
  else type

def buildBirdLastError (caseMapping : Js.CaseMapping) (event : BirdDeliveryEvent) : String :=
  match event.errorCode.filter (· != "") with
  | some errorCode => "BIRD_" ++ sanitizeDiagnosticCode caseMapping errorCode
  | none => "BIRD_" ++ sanitizeDiagnosticCode caseMapping (eventSuffix event.type)

def buildLastError (status : MappedStatus) (providerError : String) : Option String :=
  if status = .status .delivered ∨ status = .status .sent then none else some providerError

namespace TwilioWebhookService

def log (event : String) (level : LogLevel) (callback : TwilioStatusCallback) (text : String) :
    Action Unit :=
  DeliveryStatusService.log level event
    [("provider", .text "twilio"), ("providerMessageId", .text callback.messageSid),
      ("externalStatus", .text callback.messageStatus)] text

def deliveryCallback (caseMapping : Js.CaseMapping) (callback : TwilioStatusCallback)
    (status : MappedStatus) : DeliveryStatusCallback where
  provider := "twilio"
  providerMessageId := callback.messageSid
  status := status
  externalStatus := callback.messageStatus
  eventAt := none
  lastError := buildLastError status (buildTwilioLastError caseMapping callback)

/-- `handle` after the signature was accepted; `none` is a payload without the needed fields. -/
def handleVerified (caseMapping : Js.CaseMapping) : Option TwilioStatusCallback → Action Unit
  | none => do
      DeliveryStatusService.log .warn "WEBHOOK_PAYLOAD_INVALID" [("provider", .text "twilio")]
        "Rejected Twilio callback without MessageSid or MessageStatus"
      throw (.app .invalidTwilioPayload)
  | some callback => do
      log "WEBHOOK_RECEIVED" .info callback "Twilio delivery callback received"
      match mapTwilioStatus caseMapping callback.messageStatus with
      | none =>
          log "WEBHOOK_STATUS_IGNORED" .info callback
            "Twilio callback carries no actionable delivery status"
      | some status => do
          let _ ← DeliveryStatusService.apply (deliveryCallback caseMapping callback status)

end TwilioWebhookService

namespace BirdWebhookService

def claimBirdWebhook (webhookId : String) : Action Bool :=
  call (.claimBirdWebhook webhookId)

def releaseBirdWebhook (webhookId : String) : Action Unit :=
  call (.releaseBirdWebhook webhookId)

def deliveryCallback (caseMapping : Js.CaseMapping) (event : BirdDeliveryEvent)
    (status : MappedStatus) : DeliveryStatusCallback where
  provider := "bird"
  providerMessageId := event.smsId
  status := status
  externalStatus := event.type
  eventAt := event.occurredAt
  lastError := buildLastError status (buildBirdLastError caseMapping event)

def processEvent (caseMapping : Js.CaseMapping) (event : BirdDeliveryEvent) : Action Unit :=
  match mapBirdEventType caseMapping event.type with
  | none =>
      DeliveryStatusService.log .info "WEBHOOK_STATUS_IGNORED"
        [("provider", .text "bird"), ("providerMessageId", .text event.smsId),
          ("externalStatus", .text event.type)]
        "Bird event carries no actionable delivery status"
  | some status => do
      let _ ← DeliveryStatusService.apply (deliveryCallback caseMapping event status)

def releaseClaim (webhookId : String) : Action Unit :=
  tryCatch (releaseBirdWebhook webhookId) fun error =>
    call (.log {
      level := .warn
      fields := [("provider", .text "bird"), ("webhookId", .text webhookId),
        ("err", .text (error.message?.getD "Unknown error"))]
      text := "Failed to release Bird webhook deduplication claim" })

/-- `handle` after the signature was accepted; `none` is a payload without the needed fields. -/
def handleVerified (caseMapping : Js.CaseMapping) (webhookId : String) :
    Option BirdDeliveryEvent → Action Unit
  | none => do
      DeliveryStatusService.log .warn "WEBHOOK_PAYLOAD_INVALID"
        [("provider", .text "bird"), ("webhookId", .text webhookId)]
        "Rejected Bird webhook without an event type or sms id"
      throw (.app .invalidBirdPayload)
  | some event => do
      let fields : List (String × LogValue) :=
        [("provider", .text "bird"), ("webhookId", .text webhookId),
          ("providerMessageId", .text event.smsId), ("externalStatus", .text event.type)]
      DeliveryStatusService.log .info "WEBHOOK_RECEIVED" fields "Bird delivery event received"
      let claimed ← claimBirdWebhook webhookId
      if !claimed then
        DeliveryStatusService.log .info "WEBHOOK_DUPLICATE" fields
          "Bird webhook delivery was already processed"
      else
        tryCatch (processEvent caseMapping event) fun error => do
          releaseClaim webhookId
          throw error

end BirdWebhookService

end SmsNotification
