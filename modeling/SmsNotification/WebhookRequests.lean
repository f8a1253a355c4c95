import SmsNotification.Webhooks

/-!
A webhook request up to the point where it is verified and its callback is known: the two signature
verifiers, the extraction of the fields a callback needs, and the `handle` of both services.
-/

namespace SmsNotification

open Concurrency

/-- The SDK's receiver; `none` when `unwrap` throws. -/
abbrev BirdWebhookUnwrapper := (payload : String) → (headers : List (String × String)) →
  Option Js.Value

/-- What the webhook services read from the configuration, call in an SDK or take from the runtime. -/
structure WebhookConfig where
  birdSecret : Option String
  birdToleranceSeconds : Option Int
  twilioAuthToken : Option String
  publicBaseUrl : Option String
  clientFactory : (secret : String) → BirdWebhookUnwrapper
  validateRequest : (authToken signature url : String) → (params : Js.Value) → Bool
  /-- `new Date(text)`, `none` when it is invalid -/
  parseDate : String → Option Date
  caseMapping : Js.CaseMapping

def WebhookConfig.secret (config : WebhookConfig) : String := config.birdSecret.getD ""

def WebhookConfig.toleranceSeconds (config : WebhookConfig) : Int :=
  config.birdToleranceSeconds.getD 300

def birdWebhookIdHeader : String := "webhook-id"

def birdWebhookTimestampHeader : String := "webhook-timestamp"

def birdWebhookSignatureHeader : String := "webhook-signature"

def readText (text : String) : Option String :=
  if (Js.trim text).length > 0 then some (Js.trim text) else none

def readHeader (config : WebhookConfig) (headers : Js.Record) (name : String) : Option String :=
  match (headers.get name).orElse (headers.get (config.caseMapping.toLowerCase name)) with
  | .string value => readText value
  | .array (.string value :: _) => readText value
  | _ => none

inductive BirdVerificationFailure
  | secretNotConfigured
  | missingRawBody
  | missingHeaders
  | invalidTimestamp
  | timestampOutOfTolerance
  | invalidSignature
  deriving DecidableEq, Repr

def BirdVerificationFailure.text : BirdVerificationFailure → String
  | secretNotConfigured => "SECRET_NOT_CONFIGURED"
  | missingRawBody => "MISSING_RAW_BODY"
  | missingHeaders => "MISSING_HEADERS"
  | invalidTimestamp => "INVALID_TIMESTAMP"
  | timestampOutOfTolerance => "TIMESTAMP_OUT_OF_TOLERANCE"
  | invalidSignature => "INVALID_SIGNATURE"

inductive BirdVerificationResult
  | ok (webhookId : String) (event : Js.Value)
  | failed (reason : BirdVerificationFailure)

structure BirdSignatureVerifier (config : WebhookConfig) where
  unwrapper : Option BirdWebhookUnwrapper
  built : ∀ client, unwrapper = some client → client = config.clientFactory config.secret

namespace BirdSignatureVerifier

variable {config : WebhookConfig}

def initial (config : WebhookConfig) : BirdSignatureVerifier config where
  unwrapper := none
  built := by simp

def getUnwrapper (verifier : BirdSignatureVerifier config) :
    BirdWebhookUnwrapper × BirdSignatureVerifier config :=
  match verifier.unwrapper with
  | some client => (client, verifier)
  | none =>
      let client := config.clientFactory config.secret
      (client, { unwrapper := some client, built := by simp [client] })

def verifyTimestamp (config : WebhookConfig) (now : Date) (webhookTimestamp : String) :
    Option BirdVerificationFailure :=
  match Js.parseInt webhookTimestamp with
  | none => some .invalidTimestamp
  | some timestampSeconds =>
      let toleranceSeconds := config.toleranceSeconds
      let nowSeconds := now / 1000
      if (Js.distance nowSeconds timestampSeconds).all fun seconds => seconds > toleranceSeconds then
        some .timestampOutOfTolerance
      else none

/-- `now` is what `Date.now()` answers. -/
def verify (verifier : BirdSignatureVerifier config) (now : Date) (rawBody : Option Js.Buffer)
    (headers : Js.Record) : BirdVerificationResult × BirdSignatureVerifier config :=
  if config.secret = "" then (.failed .secretNotConfigured, verifier)
  else match rawBody.filter (·.length ≠ 0) with
  | none => (.failed .missingRawBody, verifier)
  | some rawBody =>
      match readHeader config headers birdWebhookIdHeader,
        readHeader config headers birdWebhookTimestampHeader,
        readHeader config headers birdWebhookSignatureHeader with
      | some webhookId, some webhookTimestamp, some webhookSignature =>
          match verifyTimestamp config now webhookTimestamp with
          | some failure => (.failed failure, verifier)
          | none =>
              let (unwrapper, verifier) := verifier.getUnwrapper
              match unwrapper rawBody.text [(birdWebhookIdHeader, webhookId),
                (birdWebhookTimestampHeader, webhookTimestamp),
                (birdWebhookSignatureHeader, webhookSignature)] with
              | some event => (.ok webhookId event, verifier)
              | none => (.failed .invalidSignature, verifier)
      | _, _, _ => (.failed .missingHeaders, verifier)

end BirdSignatureVerifier

def buildPublicWebhookUrl (publicBaseUrl route : String) : String :=
  String.ofList (publicBaseUrl.toList.reverse.dropWhile (· == '/')).reverse ++
    "/api/v1/webhooks/" ++ route

def buildTwilioStatusCallbackUrl (publicBaseUrl : String) : String :=
  buildPublicWebhookUrl publicBaseUrl "twilio"

def TwilioSignatureVerifier.verify (config : WebhookConfig) (signature : Option String)
    (params : Js.Value) : Bool :=
  match config.twilioAuthToken.filter (· != ""), signature.filter (· != "") with
  | some authToken, some signature =>
      config.validateRequest authToken signature
        (buildTwilioStatusCallbackUrl (config.publicBaseUrl.getD "")) params
  | _, _ => false

/-- A value as a record, which an array is not. -/
def toRecord : Js.Value → Option Js.Record
  | .object fields => some fields
  | _ => none

def TwilioStatusCallback.readString (payload : Js.Record) (field : String) : Option String :=
  match payload.get field with
  | .string value => readText value
  | .number text => text
  | _ => none

def extractTwilioStatusCallback (payload : Js.Value) : Option TwilioStatusCallback := do
  let record ← toRecord payload
  let readString := TwilioStatusCallback.readString record
  let messageSid ← (readString "MessageSid" <|> readString "SmsSid").filter (· != "")
  let messageStatus ← (readString "MessageStatus" <|> readString "SmsStatus").filter (· != "")
  pure {
    messageSid := messageSid
    messageStatus := messageStatus
    errorCode := readString "ErrorCode" }

def BirdDeliveryEvent.readString (record : Js.Record) (field : String) : Option String :=
  match record.get field with
  | .string value => readText value
  | _ => none

def extractBirdDeliveryEvent (config : WebhookConfig) (event : Js.Value) :
    Option BirdDeliveryEvent := do
  let record ← toRecord event
  let type ← BirdDeliveryEvent.readString record "type"
  let data ← toRecord (record.get "data")
  let smsId ← BirdDeliveryEvent.readString data "sms_id"
  pure {
    type := type
    smsId := smsId
    occurredAt := (BirdDeliveryEvent.readString record "timestamp").bind config.parseDate
    errorCode := (toRecord (data.get "error")).bind fun error =>
      BirdDeliveryEvent.readString error "code" }

def TwilioWebhookService.handle (config : WebhookConfig) (signature : Option String)
    (body : Js.Value) : Action Unit :=
  if TwilioSignatureVerifier.verify config signature body then
    TwilioWebhookService.handleVerified config.caseMapping (extractTwilioStatusCallback body)
  else do
    DeliveryStatusService.log .warn "WEBHOOK_SIGNATURE_INVALID"
      [("provider", .text "twilio"),
        ("signaturePresent", .flag (signature.any (· != "")))]
      "Rejected Twilio callback with an invalid signature"
    throw (.app .invalidTwilioSignature)

/-- What `handle` goes on with after the verification. -/
def BirdWebhookService.handleVerification (config : WebhookConfig) :
    BirdVerificationResult → Action Unit
  | .ok webhookId event =>
      BirdWebhookService.handleVerified config.caseMapping webhookId
        (extractBirdDeliveryEvent config event)
  | .failed reason => do
      DeliveryStatusService.log .warn "WEBHOOK_SIGNATURE_INVALID"
        [("provider", .text "bird"), ("reason", .text reason.text)]
        "Rejected Bird webhook that failed verification"
      throw (.app .invalidBirdSignature)

def BirdWebhookService.handle {config : WebhookConfig} (verifier : BirdSignatureVerifier config)
    (now : Date) (rawBody : Option Js.Buffer) (headers : Js.Record) :
    Action Unit × BirdSignatureVerifier config :=
  let (verification, verifier) := verifier.verify now rawBody headers
  (handleVerification config verification, verifier)

end SmsNotification
