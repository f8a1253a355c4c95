import SmsNotification.Concurrency.Recording
import SmsNotification.ProviderErrors
import SmsNotification.WebhookRequests

/-!
`TwilioProvider` and `BirdProvider`: one call of the vendor's client for a message, and what it comes
back with as a `SendSmsResult`, whatever the client throws.
-/

namespace SmsNotification

open Concurrency

/-- What the strategies read: the configuration, `Number` on a text, and message ids as texts. -/
structure ProviderSettings where
  get : String → Option String
  toNumber : String → Js.Number
  text : MessageId → String
  text_injective : Function.Injective text

/-- `configService.get<string>(key) ?? ''`. -/
def ProviderSettings.read (settings : ProviderSettings) (key : String) : String :=
  (settings.get key).getD ""

def ProviderSettings.configured : ProviderSettings where
  get _ := some "+15550199"
  toNumber _ := .notANumber
  text id := String.ofList (List.replicate id 'i')
  text_injective := by
    intro first second same
    have lengths := congrArg (fun text : String => text.toList.length) same
    simpa using lengths

structure TwilioMessage where
  «to» : String
  «from» : String
  body : String
  statusCallback : Option String
  deriving DecidableEq, Repr

structure BirdMessage where
  «to» : String
  «from» : String
  text : String
  category : String
  deriving DecidableEq, Repr

/-- What a strategy awaits: `this.client`, the client factory and the client itself. -/
inductive SdkOp
  | hasClient (providerName : String)
  | clientFactory (providerName : String)
  | keepClient (providerName : String)
  | messagesCreate (message : TwilioMessage)
  | smsSend (message : BirdMessage) (idempotencyKey : String)
  deriving DecidableEq

/-- A message that the vendor takes gets an id from it. -/
abbrev SdkOp.Reply : SdkOp → Type
  | hasClient _ => Bool
  | clientFactory _ => Unit
  | keepClient _ => Unit
  | messagesCreate _ => String
  | smsSend _ _ => String

abbrev Strategy (α : Type) := Program SdkOp SdkOp.Reply Js.Thrown α

abbrev sdk (op : SdkOp) : Strategy op.Reply := Program.perform op

def getClient (providerName : String) : Strategy Unit := do
  if ← sdk (.hasClient providerName) then pure ()
  else do
    sdk (.clientFactory providerName)
    sdk (.keepClient providerName)

/-- The `catch` of both strategies. -/
def SendSmsResult.failed (normalizedError : NormalizedProviderError) : SendSmsResult where
  success := false
  error := some normalizedError.message
  isRetryable := normalizedError.isRetryable
  retryAfterMs := normalizedError.retryAfterMs

def SendSmsResult.sent (id : String) : SendSmsResult where
  success := true
  providerMessageId := some id
  isRetryable := false

namespace TwilioProvider

def providerName : String := "twilio"

def resolveStatusCallbackUrl (settings : ProviderSettings) : Option String :=
  let publicBaseUrl := settings.read "webhooks.publicBaseUrl"
  if publicBaseUrl ≠ "" then some (buildTwilioStatusCallbackUrl publicBaseUrl) else none

def message (settings : ProviderSettings) (options : SendSmsOptions) : TwilioMessage where
  «to» := options.to
  «from» := settings.read "TWILIO_PHONE_NUMBER"
  body := options.body
  statusCallback := resolveStatusCallbackUrl settings

def sendSms (settings : ProviderSettings) (options : SendSmsOptions) : Strategy SendSmsResult :=
  let accountSid := settings.read "TWILIO_ACCOUNT_SID"
  let authToken := settings.read "TWILIO_AUTH_TOKEN"
  let «from» := settings.read "TWILIO_PHONE_NUMBER"
  if accountSid = "" ∨ authToken = "" ∨ «from» = "" then
    pure {
      success := false
      error := some "Twilio configuration is incomplete."
      isRetryable := false }
  else
    tryCatch
      (do
        getClient providerName
        let sid ← sdk (.messagesCreate (message settings options))
        pure (.sent sid))
      fun error => pure (.failed (normalizeTwilioError settings.toNumber error))

end TwilioProvider

namespace BirdProvider

def providerName : String := "bird"

def message (settings : ProviderSettings) (options : SendSmsOptions) : BirdMessage where
  «to» := options.to
  «from» := settings.read "BIRD_ORIGINATOR"
  text := options.body
  category := "transactional"

def idempotencyKey (settings : ProviderSettings) (options : SendSmsOptions) : String :=
  "sms:" ++ settings.text options.referenceId ++ ":" ++ providerName

def sendSms (settings : ProviderSettings) (options : SendSmsOptions) : Strategy SendSmsResult :=
  let apiKey := settings.read "BIRD_API_KEY"
  let originator := settings.read "BIRD_ORIGINATOR"
  if apiKey = "" ∨ originator = "" then
    pure {
      success := false
      error := some "Bird configuration is incomplete."
      isRetryable := false }
  else
    tryCatch
      (do
        getClient providerName
        let id ← sdk (.smsSend (message settings options) (idempotencyKey settings options))
        pure (.sent id))
      fun error => pure (.failed (normalizeBirdError settings.toNumber error))

end BirdProvider

inductive SmsProviderName
  | twilio
  | bird
  deriving DecidableEq, Repr

namespace SmsProviderName

def value : SmsProviderName → String
  | twilio => TwilioProvider.providerName
  | bird => BirdProvider.providerName

def ofValue (providerName : String) : Option SmsProviderName :=
  [twilio, bird].find? fun name => name.value = providerName

theorem ofValue_eq_some {providerName : String} {name : SmsProviderName}
    (known : ofValue providerName = some name) : name.value = providerName := by
  have found := List.find?_some known
  simpa using found

end SmsProviderName

structure ProviderCall where
  provider : SmsProviderName
  options : SendSmsOptions
  deriving DecidableEq

namespace ProviderCall

def strategy (settings : ProviderSettings) (call : ProviderCall) : Strategy SendSmsResult :=
  match call.provider with
  | .twilio => TwilioProvider.sendSms settings call.options
  | .bird => BirdProvider.sendSms settings call.options

/-- What the call may ask of the vendor's client, and the client's answer. -/
def exchange (settings : ProviderSettings) (call : ProviderCall)
    (reply : Except Js.Thrown String) : Exchange SdkOp SdkOp.Reply Js.Thrown :=
  match call.provider with
  | .twilio => ⟨.messagesCreate (TwilioProvider.message settings call.options), reply⟩
  | .bird => ⟨.smsSend (BirdProvider.message settings call.options)
      (BirdProvider.idempotencyKey settings call.options), reply⟩

end ProviderCall

theorem BirdProvider.idempotencyKey_injective {settings : ProviderSettings}
    {options options' : SendSmsOptions}
    (same : idempotencyKey settings options = idempotencyKey settings options') :
    options.referenceId = options'.referenceId := by
  have texts : settings.text options.referenceId = settings.text options'.referenceId := by
    simpa [idempotencyKey, String.append_left_inj, String.append_right_inj] using same
  exact settings.text_injective texts

def SdkOp.isSend : SdkOp → Bool
  | messagesCreate _ => true
  | smsSend _ _ => true
  | _ => false

def SdkOp.vendor : SdkOp → Option SmsProviderName
  | messagesCreate _ => some .twilio
  | smsSend _ _ => some .bird
  | _ => none

theorem SdkOp.isSend_of_vendor {op : SdkOp} {provider : SmsProviderName}
    (vendor : op.vendor = some provider) : op.isSend = true := by
  cases op <;> first | rfl | cases vendor

theorem ProviderCall.exchange_vendor {settings : ProviderSettings} (call : ProviderCall)
    (reply : Except Js.Thrown String) :
    (call.exchange settings reply).op.vendor = some call.provider := by
  obtain ⟨provider, options⟩ := call
  cases provider <;> rfl

inductive ProviderStage
  | calling (call : ProviderCall)
  | called (call : ProviderCall) (reply : Except Js.Thrown String)

namespace ProviderStage

def Allowed (settings : ProviderSettings) : ProviderStage → SdkOp → Prop
  | calling call, op => op.isSend = true → ∀ reply, op = (call.exchange settings reply).op
  | called _ _, _ => False

def next (stage : ProviderStage) : (op : SdkOp) → Except Js.Thrown op.Reply → ProviderStage
  | .messagesCreate _, reply =>
      match stage with
      | calling call => called call reply
      | stage => stage
  | .smsSend _ _, reply =>
      match stage with
      | calling call => called call reply
      | stage => stage
  | _, _ => stage

abbrev protocol (settings : ProviderSettings) : Protocol SdkOp SdkOp.Reply Js.Thrown where
  Stage := ProviderStage
  allowed := Allowed settings
  replies _ _ := True
  next := next

/-- The call never throws, and it tells of success exactly when the vendor took the message. -/
def Settles (call : ProviderCall) : ProviderStage → Except Js.Thrown SendSmsResult → Prop
  | calling own, result => own = call ∧ ∃ failure, result = .ok failure ∧ failure.success = false
  | called own (.ok id), result => own = call ∧ result = .ok (.sent id)
  | called own (.error _), result =>
      own = call ∧ ∃ failure, result = .ok failure ∧ failure.success = false

end ProviderStage

def sendsIn (entries : List (Entry SdkOp SdkOp.Reply Js.Thrown)) :
    List (Exchange SdkOp SdkOp.Reply Js.Thrown) :=
  (entries.filter fun entry => entry.op.isSend).map Entry.exchange

def ProviderStage.Records (settings : ProviderSettings) (call : ProviderCall)
    (entries : List (Entry SdkOp SdkOp.Reply Js.Thrown)) : ProviderStage → Prop
  | calling own => own = call ∧ sendsIn entries = []
  | called own reply => own = call ∧ sendsIn entries = [call.exchange settings reply]

section Conformance

variable {settings : ProviderSettings}

theorem exchange_of_op {call : ProviderCall} {op : SdkOp} (reply : Except Js.Thrown op.Reply)
    (sends : op.isSend = true) (own : ∀ reply, op = (call.exchange settings reply).op) :
    ∃ reply', (⟨op, reply⟩ : Exchange SdkOp SdkOp.Reply Js.Thrown) =
        call.exchange settings reply' ∧
      (ProviderStage.calling call).next op reply = .called call reply' := by
  obtain ⟨provider, options⟩ := call
  cases provider with
  | twilio =>
      cases own (.ok "")
      exact ⟨reply, rfl, rfl⟩
  | bird =>
      cases own (.ok "")
      exact ⟨reply, rfl, rfl⟩

theorem legal_records {call : ProviderCall}
    {entries : List (Entry SdkOp SdkOp.Reply Js.Thrown)}
    (legal : (ProviderStage.protocol settings).Legal (.calling call) entries) :
    ProviderStage.Records settings call entries
      ((ProviderStage.protocol settings).reached (.calling call) entries) := by
  apply legal.relates (fun stage entries => ProviderStage.Records settings call entries stage)
  · exact ⟨rfl, rfl⟩
  · rintro stage entries ⟨pid, op, reply, effective⟩ records allowed _
    change ProviderStage.Records settings call _ (stage.next op reply)
    cases stage with
    | called => exact absurd allowed id
    | calling own =>
        obtain ⟨rfl, none⟩ := records
        by_cases sends : op.isSend = true
        · obtain ⟨reply', exchanged, called⟩ :=
            exchange_of_op reply sends (allowed sends)
          rw [called]
          refine ⟨rfl, ?_⟩
          simp only [sendsIn, List.map_eq_nil_iff] at none
          simp [sendsIn, none, sends, Entry.exchange, exchanged]
        · have silent : (ProviderStage.calling own).next op reply = .calling own := by
            cases op <;> first | rfl | exact absurd rfl sends
          rw [silent]
          refine ⟨rfl, ?_⟩
          simp only [sendsIn, List.map_eq_nil_iff] at none ⊢
          simp [none, sends]

theorem countP_vendor (entries : List (Entry SdkOp SdkOp.Reply Js.Thrown))
    (provider : SmsProviderName) :
    entries.countP (fun entry => entry.op.vendor = some provider) =
      (sendsIn entries).countP fun exchange => exchange.op.vendor = some provider := by
  rw [sendsIn, List.countP_map, List.countP_filter]
  apply List.countP_congr
  intro entry _
  constructor
  · intro vendor
    have sends := SdkOp.isSend_of_vendor (of_decide_eq_true vendor)
    exact (Bool.and_eq_true _ _).mpr ⟨vendor, sends⟩
  · intro both
    exact ((Bool.and_eq_true _ _).mp both).1

theorem ProviderStage.Records.vendor_le {call : ProviderCall}
    {entries : List (Entry SdkOp SdkOp.Reply Js.Thrown)} {stage : ProviderStage}
    (records : stage.Records settings call entries) (provider : SmsProviderName) :
    entries.countP (fun entry => entry.op.vendor = some provider) ≤
      if call.provider = provider then 1 else 0 := by
  rw [countP_vendor]
  cases stage with
  | calling own =>
      rw [records.2]
      exact Nat.zero_le _
  | called own reply =>
      rw [records.2, List.countP_singleton, ProviderCall.exchange_vendor]
      simp

theorem getClient_calls {call : ProviderCall} (providerName : String) :
    (getClient providerName).Follows (ProviderStage.protocol settings)
      (fun stage _ => stage = .calling call) (.calling call) := by
  have silent : ∀ op : SdkOp, op.isSend = false →
      (ProviderStage.calling call).Allowed settings op := by
    intro op silent sends
    rw [silent] at sends
    cases sends
  refine ⟨silent _ rfl, ?_⟩
  rintro (error | cached) _
  · rfl
  · cases cached with
    | true => rfl
    | false =>
        refine ⟨silent _ rfl, ?_⟩
        rintro (error | _) _
        · rfl
        · refine ⟨silent _ rfl, ?_⟩
          rintro (error | _) _ <;> rfl

theorem strategy_settles (call : ProviderCall) :
    (call.strategy settings).Follows (ProviderStage.protocol settings)
      (ProviderStage.Settles call) (.calling call) := by
  obtain ⟨provider, options⟩ := call
  cases provider with
  | twilio =>
      simp only [ProviderCall.strategy, TwilioProvider.sendSms]
      split
      · exact ⟨rfl, _, rfl, rfl⟩
      · simp only [Program.follows_tryCatch, Program.follows_bind]
        apply (getClient_calls _).mono
        rintro stage (error | _) rfl
        · exact ⟨rfl, _, rfl, rfl⟩
        · refine ⟨fun _ _ => rfl, ?_⟩
          rintro (error | sid) _
          · exact ⟨rfl, _, rfl, rfl⟩
          · exact ⟨rfl, rfl⟩
  | bird =>
      simp only [ProviderCall.strategy, BirdProvider.sendSms]
      split
      · exact ⟨rfl, _, rfl, rfl⟩
      · simp only [Program.follows_tryCatch, Program.follows_bind]
        apply (getClient_calls _).mono
        rintro stage (error | _) rfl
        · exact ⟨rfl, _, rfl, rfl⟩
        · refine ⟨fun _ _ => rfl, ?_⟩
          rintro (error | id) _
          · exact ⟨rfl, _, rfl, rfl⟩
          · exact ⟨rfl, rfl⟩

end Conformance

/-- Twilio is asked to report to the very URL whose signature its webhook verifies. -/
theorem statusCallback_verifies {settings : ProviderSettings} {config : WebhookConfig}
    {options : SendSmsOptions} {url signature authToken : String} {params : Js.Value}
    (same : config.publicBaseUrl = settings.get "webhooks.publicBaseUrl")
    (reports : (TwilioProvider.message settings options).statusCallback = some url)
    (token : config.twilioAuthToken = some authToken) (configured : authToken ≠ "")
    (signed : signature ≠ "") :
    TwilioSignatureVerifier.verify config (some signature) params =
      config.validateRequest authToken signature url params := by
  have built : buildTwilioStatusCallbackUrl (config.publicBaseUrl.getD "") = url := by
    simp only [TwilioProvider.message, TwilioProvider.resolveStatusCallbackUrl] at reports
    split at reports
    · rw [same]
      exact Option.some.inj reports
    · cases reports
  have kept : ∀ text : String, text ≠ "" → (some text).filter (· != "") = some text := by
    intro text present
    simp [Option.filter, present]
  rw [TwilioSignatureVerifier.verify, token, kept authToken configured, kept signature signed]
  simp only [built]

end SmsNotification
