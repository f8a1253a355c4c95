import SmsNotification.CallbackEffect
import SmsNotification.Concurrency.Coupling
import SmsNotification.WebhookRollback

/-!
What a callback may depend on. Two callbacks that agree on the fields the services read, handled
over rows that agree on their delivery columns, do the same, whatever else differs.
-/

namespace Js

/-- `value?.first?.second`, which is `undefined` below anything that is not a record. -/
def Value.read : Value → List String → Value
  | value, [] => value
  | .object fields, field :: path => (Record.get fields field).read path
  | _, _ :: _ => .undefined

def Value.AgreeOn (paths : List (List String)) (first second : Value) : Prop :=
  ∀ path ∈ paths, first.read path = second.read path

end Js

namespace SmsNotification

open Concurrency

def birdFields : List (List String) :=
  [["type"], ["timestamp"], ["data", "sms_id"], ["data", "error", "code"]]

def twilioFields : List (List String) :=
  [["MessageSid"], ["SmsSid"], ["MessageStatus"], ["SmsStatus"], ["ErrorCode"]]

section Extraction

variable {config : WebhookConfig} {first second : Js.Value}

def birdText : Js.Value → Option String
  | .string value => readText value
  | _ => none

theorem birdText_get (record : Js.Record) (field : String) :
    BirdDeliveryEvent.readString record field = birdText (Js.Record.get record field) := rfl

theorem extractBirdDeliveryEvent_read (event : Js.Value) :
    extractBirdDeliveryEvent config event = (birdText (event.read ["type"])).bind fun type =>
      (birdText (event.read ["data", "sms_id"])).bind fun smsId => some {
        type := type
        smsId := smsId
        occurredAt := (birdText (event.read ["timestamp"])).bind config.parseDate
        errorCode := birdText (event.read ["data", "error", "code"]) } := by
  have absent : birdText Js.Value.undefined = none := rfl
  cases event with
  | object fields =>
      cases data : Js.Record.get fields "data" with
      | object inner =>
          cases failure : Js.Record.get inner "error" <;>
            simp [extractBirdDeliveryEvent, toRecord, Js.Value.read, data, failure, birdText_get,
              absent]
      | _ => simp [extractBirdDeliveryEvent, toRecord, Js.Value.read, data, absent]
  | _ => rfl

theorem extractBirdDeliveryEvent_agree (agree : Js.Value.AgreeOn birdFields first second) :
    extractBirdDeliveryEvent config first = extractBirdDeliveryEvent config second := by
  rw [extractBirdDeliveryEvent_read, extractBirdDeliveryEvent_read]
  rw [agree ["type"] (by simp [birdFields]), agree ["timestamp"] (by simp [birdFields]),
    agree ["data", "sms_id"] (by simp [birdFields]),
    agree ["data", "error", "code"] (by simp [birdFields])]

def twilioText : Js.Value → Option String
  | .string value => readText value
  | .number text => text
  | _ => none

theorem twilioText_get (record : Js.Record) (field : String) :
    TwilioStatusCallback.readString record field = twilioText (Js.Record.get record field) := rfl

theorem extractTwilioStatusCallback_read (payload : Js.Value) :
    extractTwilioStatusCallback payload =
      ((twilioText (payload.read ["MessageSid"]) <|>
        twilioText (payload.read ["SmsSid"])).filter (· != "")).bind fun messageSid =>
      ((twilioText (payload.read ["MessageStatus"]) <|>
        twilioText (payload.read ["SmsStatus"])).filter (· != "")).bind fun messageStatus => some {
          messageSid := messageSid
          messageStatus := messageStatus
          errorCode := twilioText (payload.read ["ErrorCode"]) } := by
  cases payload with
  | object fields =>
      simp [extractTwilioStatusCallback, toRecord, Js.Value.read, twilioText_get]
  | _ => rfl

theorem extractTwilioStatusCallback_agree (agree : Js.Value.AgreeOn twilioFields first second) :
    extractTwilioStatusCallback first = extractTwilioStatusCallback second := by
  rw [extractTwilioStatusCallback_read, extractTwilioStatusCallback_read]
  rw [agree ["MessageSid"] (by simp [twilioFields]), agree ["SmsSid"] (by simp [twilioFields]),
    agree ["MessageStatus"] (by simp [twilioFields]),
    agree ["SmsStatus"] (by simp [twilioFields]), agree ["ErrorCode"] (by simp [twilioFields])]

end Extraction

/-- The columns of a row that a callback may depend on. -/
structure DeliveryColumns where
  id : MessageId
  status : SmsStatus
  selectedProvider : Option String
  providerMessageId : Option String
  lastError : Option String
  sentAt : Option Date
  deliveredAt : Option Date
  failedAt : Option Date
  deriving DecidableEq

def SmsMessage.deliveryColumns (row : SmsMessage) : DeliveryColumns where
  id := row.id
  status := row.status
  selectedProvider := row.selectedProvider
  providerMessageId := row.providerMessageId
  lastError := row.lastError
  sentAt := row.sentAt
  deliveredAt := row.deliveredAt
  failedAt := row.failedAt

theorem Update.run_deliveryColumns (statement : Update) {first second : SmsMessage}
    (same : first.deliveryColumns = second.deliveryColumns) :
    (statement.run first).deliveryColumns = (statement.run second).deliveryColumns := by
  simp only [SmsMessage.deliveryColumns, DeliveryColumns.mk.injEq] at same
  obtain ⟨id, status, provider, external, lastError, sentAt, deliveredAt, failedAt⟩ := same
  unfold run
  rw [id, status]
  split
  · cases statement <;> simp [set, SmsMessage.deliveryColumns, *]
  · simp [SmsMessage.deliveryColumns, *]

def World.Alike (first second : World) : Prop :=
  first.messages.rows.map SmsMessage.deliveryColumns =
      second.messages.rows.map SmsMessage.deliveryColumns ∧
    first.claims = second.claims

section Tables

variable {first second : Table}

theorem Table.findById_alike (id : MessageId)
    (alike : first.rows.map SmsMessage.deliveryColumns =
      second.rows.map SmsMessage.deliveryColumns) :
    (first.findById id).map SmsMessage.deliveryColumns =
      (second.findById id).map SmsMessage.deliveryColumns := by
  have columns : ∀ table : Table, (table.findById id).map SmsMessage.deliveryColumns =
      (table.rows.map SmsMessage.deliveryColumns).find? fun columns => columns.id == id := by
    intro table
    rw [List.find?_map]
    rfl
  rw [columns, columns, alike]

theorem Table.findByProviderMessageId_alike (provider providerMessageId : String)
    (alike : first.rows.map SmsMessage.deliveryColumns =
      second.rows.map SmsMessage.deliveryColumns) :
    (first.findByProviderMessageId provider providerMessageId).map SmsMessage.deliveryColumns =
      (second.findByProviderMessageId provider providerMessageId).map
        SmsMessage.deliveryColumns := by
  have columns : ∀ table : Table,
      (table.findByProviderMessageId provider providerMessageId).map SmsMessage.deliveryColumns =
        (table.rows.map SmsMessage.deliveryColumns).filter fun columns =>
          columns.selectedProvider == some provider &&
            columns.providerMessageId == some providerMessageId := by
    intro table
    rw [List.filter_map]
    rfl
  rw [columns, columns, alike]

theorem Table.update_alike (statement : Update)
    (alike : first.rows.map SmsMessage.deliveryColumns =
      second.rows.map SmsMessage.deliveryColumns) :
    (first.update statement).rows.map SmsMessage.deliveryColumns =
      (second.update statement).rows.map SmsMessage.deliveryColumns := by
  simp only [update]
  generalize first.rows = rows at alike ⊢
  generalize second.rows = others at alike ⊢
  induction rows generalizing others with
  | nil =>
      cases others with
      | nil => rfl
      | cons other others => simp at alike
  | cons row rows ih =>
      cases others with
      | nil => simp at alike
      | cons other others =>
          simp only [List.map_cons, List.cons.injEq] at alike
          obtain ⟨same, rest⟩ := alike
          simp only [List.map_cons, List.cons.injEq]
          exact ⟨statement.run_deliveryColumns same, ih others rest⟩

theorem Table.affected_alike (statement : Update)
    (alike : first.rows.map SmsMessage.deliveryColumns =
      second.rows.map SmsMessage.deliveryColumns) :
    first.affected statement = second.affected statement := by
  have found := findById_alike statement.messageId alike
  unfold affected
  cases row : first.findById statement.messageId with
  | none =>
      rw [row, Option.map_none, eq_comm, Option.map_eq_none_iff] at found
      rw [found]
  | some row' =>
      rw [row] at found
      obtain ⟨other, present, same⟩ := Option.map_eq_some_iff.mp found.symm
      have status : other.status = row'.status := congrArg DeliveryColumns.status same
      rw [present]
      simp only [status]

end Tables

def SameFound : Except Failure (Option SmsMessage) → Except Failure (Option SmsMessage) → Prop
  | .ok row, .ok other =>
      row.map SmsMessage.deliveryColumns = other.map SmsMessage.deliveryColumns
  | .error error, .error other => error = other
  | _, _ => False

def Similar : (op : Op) → Except Failure op.Reply → Except Failure op.Reply → Prop
  | .findById _, first, second => SameFound first second
  | .findByProviderMessageId _ _, first, second => SameFound first second
  | _, first, second => first = second

def Op.isCallback : Op → Bool
  | .findById _ => true
  | .findByProviderMessageId _ _ => true
  | .update _ => true
  | .claimBirdWebhook _ => true
  | .releaseBirdWebhook _ => true
  | .newDate => true
  | .log _ => true
  | _ => false

abbrev callbackCoupling : Coupling Op Op.Reply Failure where
  allowed op := op.isCallback = true
  related := Similar

theorem similar_refl (op : Op) (reply : Except Failure op.Reply) : Similar op reply reply := by
  cases op <;> cases reply <;> rfl

namespace World

variable {first second : World} {op : Op} {hint : Hint} {left right : World.Outcome op}

theorem perform_alike (allowed : op.isCallback = true) (alike : first.Alike second)
    (performed : first.perform hint op = some left)
    (performed' : second.perform hint op = some right) :
    Similar op left.reply right.reply ∧ left.world.Alike right.world := by
  obtain ⟨rows, claims⟩ := alike
  cases op with
  | findById id =>
      simp only [perform, Option.some.injEq] at performed performed'
      subst performed performed'
      exact ⟨Table.findById_alike id rows, rows, claims⟩
  | findByProviderMessageId provider providerMessageId =>
      have found := Table.findByProviderMessageId_alike provider providerMessageId rows
      simp only [perform] at performed performed'
      generalize first.messages.findByProviderMessageId provider providerMessageId = matching
        at found performed
      generalize second.messages.findByProviderMessageId provider providerMessageId = others
        at found performed'
      cases matching with
      | nil =>
          cases others with
          | cons other others => simp at found
          | nil =>
              simp only [Option.some.injEq] at performed performed'
              subst performed performed'
              exact ⟨rfl, rows, claims⟩
      | cons row matching =>
          cases others with
          | nil => simp at found
          | cons other others =>
              obtain ⟨chosen, picked, rfl⟩ := Option.map_eq_some_iff.mp performed
              obtain ⟨chosen', picked', rfl⟩ := Option.map_eq_some_iff.mp performed'
              have position := congrArg (fun columns => columns[hint.index]?) found
              simp only [List.getElem?_map, picked, picked', Option.map_some,
                Option.some.injEq] at position
              exact ⟨congrArg some position, rows, claims⟩
  | update statement =>
      simp only [perform, Option.some.injEq] at performed performed'
      subst performed performed'
      exact ⟨congrArg Except.ok (Table.affected_alike statement rows),
        Table.update_alike statement rows, claims⟩
  | claimBirdWebhook webhookId =>
      simp only [perform, claims] at performed performed'
      split at performed
      · rename_i held
        rw [if_pos held] at performed'
        simp only [Option.some.injEq] at performed performed'
        subst performed performed'
        exact ⟨rfl, rows, claims⟩
      · rename_i free
        rw [if_neg free] at performed'
        simp only [Option.some.injEq] at performed performed'
        subst performed performed'
        exact ⟨rfl, rows, rfl⟩
  | releaseBirdWebhook webhookId =>
      simp only [perform, claims, Option.some.injEq] at performed performed'
      subst performed performed'
      exact ⟨rfl, rows, rfl⟩
  | newDate | log =>
      simp only [perform, Option.some.injEq] at performed performed'
      subst performed performed'
      exact ⟨rfl, rows, claims⟩
  | _ => exact Bool.noConfusion allowed

end World

theorem callbackCoupling_sound : callbackCoupling.Sound World.exec World.Alike := by
  intro first second op choice left right allowed alike executed executed'
  cases choice with
  | answered hint => exact World.perform_alike allowed alike executed executed'
  | rejected message =>
      simp only [World.exec] at executed executed'
      split at executed
      · rename_i fallible
        simp only [fallible, if_true, Option.some.injEq] at executed executed'
        subst executed executed'
        exact ⟨similar_refl op _, alike⟩
      · simp at executed
  | lost hint message =>
      simp only [World.exec] at executed executed'
      split at executed
      · rename_i fallible
        rw [if_pos fallible] at executed'
        obtain ⟨inner, performed, rfl⟩ := Option.map_eq_some_iff.mp executed
        obtain ⟨inner', performed', rfl⟩ := Option.map_eq_some_iff.mp executed'
        have same := World.perform_alike allowed alike performed performed'
        exact ⟨similar_refl op _, same.2⟩
      · simp at executed

section Programs

variable {config : WebhookConfig}

abbrev Action.Agrees {α : Type} (first second : Action α) : Prop :=
  first.Coupled callbackCoupling Eq second

theorem call_agrees {op : Op} (allowed : op.isCallback = true)
    (same : ∀ reply other, Similar op reply other → reply = other) :
    (call op).Agrees (call op) :=
  Program.coupled_await allowed fun reply other related =>
    Program.coupled_settled (same reply other related)

theorem pure_agrees {α : Type} (value : α) : (pure value : Action α).Agrees (pure value) :=
  Program.coupled_settled rfl

theorem throw_agrees {α : Type} (error : Failure) :
    (throw error : Action α).Agrees (throw error) :=
  Program.coupled_settled rfl

theorem log_agrees {level : LogLevel} {event text : String} {fields : List (String × LogValue)} :
    (DeliveryStatusService.log level event fields text).Agrees
      (DeliveryStatusService.log level event fields text) :=
  call_agrees rfl fun _ _ related => related

theorem found_agrees {β : Type} {rest : Option SmsMessage → Action β}
    (follow : ∀ row other : Option SmsMessage,
      row.map SmsMessage.deliveryColumns = other.map SmsMessage.deliveryColumns →
        (rest row).Agrees (rest other))
    {reply other : Except Failure (Option SmsMessage)} (same : SameFound reply other) :
    Program.Both callbackCoupling Eq rest rest reply other := by
  cases reply with
  | error error =>
      cases other with
      | error other => exact congrArg Except.error same
      | ok other => exact same.elim
  | ok row =>
      cases other with
      | error other => exact same.elim
      | ok other => exact follow row other same

theorem findById_agrees {β : Type} (id : MessageId) {rest : Option SmsMessage → Action β}
    (follow : ∀ row other : Option SmsMessage,
      row.map SmsMessage.deliveryColumns = other.map SmsMessage.deliveryColumns →
        (rest row).Agrees (rest other)) :
    (SmsService.findById id >>= rest).Agrees (SmsService.findById id >>= rest) := by
  refine Program.Coupled.bind ?_
  exact Program.coupled_await rfl fun _ _ same =>
    Program.coupled_settled (found_agrees follow same)

theorem findByProviderMessageId_agrees {β : Type} (provider providerMessageId : String)
    {rest : Option SmsMessage → Action β}
    (follow : ∀ row other : Option SmsMessage,
      row.map SmsMessage.deliveryColumns = other.map SmsMessage.deliveryColumns →
        (rest row).Agrees (rest other)) :
    (SmsService.findByProviderMessageId provider providerMessageId >>= rest).Agrees
      (SmsService.findByProviderMessageId provider providerMessageId >>= rest) := by
  refine Program.Coupled.bind ?_
  exact Program.coupled_await rfl fun _ _ same =>
    Program.coupled_settled (found_agrees follow same)

theorem logSkippedCallback_agrees (callback : DeliveryStatusCallback) (status : SmsStatus)
    (id : MessageId) (previousStatus : SmsStatus) :
    (DeliveryStatusService.logSkippedCallback callback status id previousStatus).Agrees
      (DeliveryStatusService.logSkippedCallback callback status id previousStatus) := by
  refine findById_agrees id fun row other same => ?_
  have current : row.map SmsMessage.status = other.map SmsMessage.status := by
    have statuses := congrArg (Option.map DeliveryColumns.status) same
    rw [Option.map_map, Option.map_map] at statuses
    exact statuses
  simp only [current]
  split <;> exact log_agrees.seq fun _ => pure_agrees _

theorem updateFound_agrees (callback : DeliveryStatusCallback) {message other : SmsMessage}
    (status : SmsStatus) (allowedPreviousStatuses : List SmsStatus)
    (same : message.deliveryColumns = other.deliveryColumns) :
    (DeliveryStatusService.updateFound callback message status allowedPreviousStatuses).Agrees
      (DeliveryStatusService.updateFound callback other status allowedPreviousStatuses) := by
  have id : message.id = other.id := congrArg DeliveryColumns.id same
  have previous : message.status = other.status := congrArg DeliveryColumns.status same
  unfold DeliveryStatusService.updateFound
  rw [id, previous]
  refine Program.Coupled.seq ?_ fun eventAt => ?_
  · unfold DeliveryStatusService.eventDate
    split
    · exact pure_agrees _
    · exact call_agrees rfl fun _ _ related => related
  · refine Program.Coupled.seq ?_ fun updated => ?_
    · exact call_agrees rfl fun _ _ related => related
    · split
      · exact log_agrees.seq fun _ => pure_agrees _
      · exact logSkippedCallback_agrees callback status other.id other.status

theorem ignoreStatus_agrees (callback : DeliveryStatusCallback) {message other : SmsMessage}
    (same : message.deliveryColumns = other.deliveryColumns) :
    (DeliveryStatusService.ignoreStatus callback message).Agrees
      (DeliveryStatusService.ignoreStatus callback other) := by
  have id : message.id = other.id := congrArg DeliveryColumns.id same
  have previous : message.status = other.status := congrArg DeliveryColumns.status same
  unfold DeliveryStatusService.ignoreStatus
  rw [id, previous]
  exact log_agrees.seq fun _ => pure_agrees _

theorem apply_agrees (callback : DeliveryStatusCallback) :
    (DeliveryStatusService.apply callback).Agrees (DeliveryStatusService.apply callback) := by
  refine findByProviderMessageId_agrees _ _ fun row other same => ?_
  cases row with
  | none =>
      cases other with
      | some other => simp at same
      | none => exact log_agrees.seq fun _ => pure_agrees _
  | some message =>
      cases other with
      | none => simp at same
      | some other =>
          have columns : message.deliveryColumns = other.deliveryColumns := Option.some.inj same
          simp only
          split
          · exact ignoreStatus_agrees callback columns
          · split
            · exact ignoreStatus_agrees callback columns
            · exact updateFound_agrees callback _ _ columns

theorem twilio_agrees (caseMapping : Js.CaseMapping) (callback : Option TwilioStatusCallback) :
    (TwilioWebhookService.handleVerified caseMapping callback).Agrees
      (TwilioWebhookService.handleVerified caseMapping callback) := by
  cases callback with
  | none => exact log_agrees.seq fun _ => throw_agrees _
  | some callback =>
      refine log_agrees.seq fun _ => ?_
      split
      · exact log_agrees
      · exact (apply_agrees _).seq fun _ => pure_agrees _

theorem processEvent_agrees (caseMapping : Js.CaseMapping) (event : BirdDeliveryEvent) :
    (BirdWebhookService.processEvent caseMapping event).Agrees
      (BirdWebhookService.processEvent caseMapping event) := by
  unfold BirdWebhookService.processEvent
  split
  · exact log_agrees
  · exact (apply_agrees _).seq fun _ => pure_agrees _

theorem releaseClaim_agrees (webhookId : String) :
    (BirdWebhookService.releaseClaim webhookId).Agrees
      (BirdWebhookService.releaseClaim webhookId) := by
  refine Program.Coupled.guarded ?_ fun error => ?_
  · exact call_agrees rfl fun _ _ related => related
  · exact call_agrees rfl fun _ _ related => related

theorem bird_agrees (caseMapping : Js.CaseMapping) (webhookId : String)
    (event : Option BirdDeliveryEvent) :
    (BirdWebhookService.handleVerified caseMapping webhookId event).Agrees
      (BirdWebhookService.handleVerified caseMapping webhookId event) := by
  cases event with
  | none => exact log_agrees.seq fun _ => throw_agrees _
  | some event =>
      refine log_agrees.seq fun _ => ?_
      refine Program.Coupled.seq ?_ fun claimed => ?_
      · exact call_agrees rfl fun _ _ related => related
      · split
        · exact log_agrees
        · refine (processEvent_agrees caseMapping event).guarded fun error => ?_
          exact (releaseClaim_agrees webhookId).seq fun _ => throw_agrees error

end Programs

inductive Delivery (config : WebhookConfig)
  | bird (verifier : BirdSignatureVerifier config) (now : Date) (rawBody : Option Js.Buffer)
      (headers : Js.Record)
  | twilio (signature : Option String) (body : Js.Value)

def BirdVerificationResult.Agree : BirdVerificationResult → BirdVerificationResult → Prop
  | .ok webhookId event, .ok otherId other =>
      webhookId = otherId ∧ event.AgreeOn birdFields other
  | .failed reason, .failed other => reason = other
  | _, _ => False

namespace Delivery

variable {config : WebhookConfig}

def handle : Delivery config → Action Unit
  | bird verifier now rawBody headers =>
      (BirdWebhookService.handle verifier now rawBody headers).1
  | twilio signature body => TwilioWebhookService.handle config signature body

/-- Two requests of one service whose verification has the same outcome and whose payloads agree on
what the service reads. An invalid signature is either present in both or in none. -/
def Agree : Delivery config → Delivery config → Prop
  | bird verifier now rawBody headers, bird verifier' now' rawBody' headers' =>
      (verifier.verify now rawBody headers).1.Agree (verifier'.verify now' rawBody' headers').1
  | twilio signature body, twilio signature' body' =>
      TwilioSignatureVerifier.verify config signature body =
          TwilioSignatureVerifier.verify config signature' body' ∧
        (signature.any (· != "")) = signature'.any (· != "") ∧ body.AgreeOn twilioFields body'
  | _, _ => False

theorem handle_agrees {first second : Delivery config} (agree : first.Agree second) :
    first.handle.Agrees second.handle := by
  cases first with
  | bird verifier now rawBody headers =>
      cases second with
      | twilio => exact agree.elim
      | bird verifier' now' rawBody' headers' =>
          simp only [Agree] at agree
          simp only [handle, BirdWebhookService.handle]
          generalize (verifier.verify now rawBody headers).1 = verification at agree ⊢
          generalize (verifier'.verify now' rawBody' headers').1 = verification' at agree ⊢
          cases verification <;> cases verification'
          case ok.ok =>
            obtain ⟨rfl, fields⟩ := agree
            simp only [BirdWebhookService.handleVerification]
            rw [extractBirdDeliveryEvent_agree fields]
            exact bird_agrees _ _ _
          case failed.failed =>
            obtain rfl := agree
            exact log_agrees.seq fun _ => throw_agrees _
          all_goals exact agree.elim
  | twilio signature body =>
      cases second with
      | bird => exact agree.elim
      | twilio signature' body' =>
          obtain ⟨verified, presence, fields⟩ := agree
          simp only [handle, TwilioWebhookService.handle]
          rw [verified, presence, extractTwilioStatusCallback_agree fields]
          split
          · exact twilio_agrees _ _
          · exact log_agrees.seq fun _ => throw_agrees _

end Delivery

/-- Two callbacks that agree on what the services read, handled in worlds that agree on the delivery
columns and with the same answers of the environment, issue the same operations one by one, with the
same statements, commands and log entries, have the same outcome and leave the same delivery
columns, whatever other processes do in between that keeps the worlds in agreement. -/
theorem callbacks_ignore_private_data {config : WebhookConfig} {first second : Delivery config}
    {left right : World} {steps others : List WebhookStep} {result other : Except Failure Unit}
    (agree : first.Agree second) (alike : left.Alike right)
    (settles : first.handle.Settles World.exec steps result)
    (settles' : second.handle.Settles World.exec others other)
    (parallel : Parallel World.Alike left right steps others) :
    result = other ∧ steps.map OwnStep.op = others.map OwnStep.op ∧
      (OwnStep.final left steps).Alike (OwnStep.final right others) :=
  (Delivery.handle_agrees agree).settles callbackCoupling_sound settles settles' alike parallel

def sentTo (phone : String) (messageBody : String) : World where
  messages := {
    rows := [{ queuedMessage 1 0 phone
        { «to» := phone, message := messageBody, metadata := none } with
      status := .sent
      selectedProvider := some "twilio"
      providerMessageId := some "SM1" }]
    primaryKey := List.nodup_singleton _
    uniqueIdempotencyKey := List.nodup_singleton _ }
  cache _ := none
  locks _ := none
  claims _ := false
  jobs := []
  deadLetters := []

def deliveredTo (phone : String) : Delivery (.admitting .null) :=
  .twilio (some "signature") (.object [("MessageSid", .string "SM1"),
    ("MessageStatus", .string "delivered"), ("To", .string phone)])

theorem answering_choice {steps : List WebhookStep}
    (choices : ∀ step ∈ steps, ∃ record, step.choice = answering {} record step.op)
    {position : Nat} {step : WebhookStep} (found : steps[position]? = some step) : step.choice = .answered {} := by
  obtain ⟨record, choice⟩ := choices step (List.mem_of_getElem? found)
  exact choice

theorem callbacks_ignore_private_data_phone : ∃ steps others : List WebhookStep,
    (deliveredTo "+15550100").handle.Settles World.exec steps (.ok ()) ∧
    (deliveredTo "+15550199").handle.Settles World.exec others (.ok ()) ∧ steps.length = 5 ∧
    steps.map OwnStep.op = others.map OwnStep.op ∧
    (OwnStep.final (sentTo "+15550100" "hello") steps).Alike
      (OwnStep.final (sentTo "+15550199" "goodbye") others) := by
  obtain ⟨ran, runs, result, length⟩ : ∃ ran,
      (deliveredTo "+15550100").handle.run World.exec (answering {})
        (sentTo "+15550100" "hello") [] = some ran ∧ ran.result = .ok () ∧ ran.trace.length = 5 := ⟨_, rfl, rfl, rfl⟩
  obtain ⟨ran', runs', result'⟩ : ∃ ran,
      (deliveredTo "+15550199").handle.run World.exec (answering {})
        (sentTo "+15550199" "goodbye") [] = some ran ∧ ran.result = .ok () := ⟨_, rfl, rfl⟩
  obtain ⟨steps, settles, exchanges, choices, alone⟩ := Program.settles_of_run runs
  obtain ⟨others, settles', _, choices', alone'⟩ := Program.settles_of_run runs'
  rw [result] at settles
  rw [result'] at settles'
  have agree : (deliveredTo "+15550100").Agree (deliveredTo "+15550199") := by
    refine ⟨rfl, rfl, ?_⟩
    intro path member
    simp only [twilioFields, List.mem_cons, List.not_mem_nil, or_false] at member
    rcases member with rfl | rfl | rfl | rfl | rfl <;> rfl
  have alike : (sentTo "+15550100" "hello").Alike (sentTo "+15550199" "goodbye") := ⟨rfl, rfl⟩
  have same := callbacks_ignore_private_data agree alike settles settles'
    (alone.parallel alone' fun position step other found found' =>
      (answering_choice choices found).trans (answering_choice choices' found').symm)
  refine ⟨steps, others, settles, settles', ?_, same.2⟩
  have counted := congrArg List.length exchanges
  simpa [length] using counted.symm

end SmsNotification
