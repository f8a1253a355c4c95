import SmsNotification.Statements

/-!
Whether a callback writes the row it identified. It looks a row up by provider and external id and
updates it by id, so the row is the one it means as long as no statement gives the row another
identity in between.
-/

namespace SmsNotification

open Concurrency

def Call.identifier : Call → Option (String × String)
  | twilio callback => some ("twilio", callback.messageSid)
  | bird _ event => some ("bird", event.smsId)
  | _ => none

def SmsMessage.identity (row : SmsMessage) : Option String × Option String :=
  (row.selectedProvider, row.providerMessageId)

def isApplying {α : Type} (id : MessageId) (program : Action α) : Bool :=
  match upcoming program with
  | some (.update (.applyDeliveryStatus params)) => params.messageId = id
  | _ => false

namespace Stage

variable {caseMapping : Js.CaseMapping} {stage stage' : Stage} {op : Op}

theorem Delivers.identifier {call : Call} {callback : DeliveryStatusCallback} {claim : Option String}
    (delivers : Delivers caseMapping call callback claim) :
    call.identifier = some (callback.provider, callback.providerMessageId) := by
  cases claim with
  | none =>
      obtain ⟨received, status, rfl, _, rfl⟩ := delivers
      rfl
  | some webhookId =>
      obtain ⟨event, status, rfl, _, rfl⟩ := delivers
      rfl

theorem DeliveryParams.refuses_fatal {callback : DeliveryStatusCallback} {id : MessageId}
    {params : ApplyDeliveryStatusParams} (issued : DeliveryParams callback id params) :
    (Update.applyDeliveryStatus params).guard .fatalFailure = false := by
  obtain ⟨status, allowedPreviousStatuses, eventAt, _, policy, _, rfl⟩ := issued
  unfold DeliveryStatusService.updateParams DeliveryStatusService.buildTimestamps
  cases status <;>
    simp_all [allowedPreviousStatusesFor, deliveryFailureStatuses, isDeliveryFailureStatus,
      Update.guard] <;>
    subst policy <;> simp

theorem resolved_isApplying {claim : Option String} {callback : DeliveryStatusCallback}
    {id : MessageId} {request : Call} {program : Action Answer}
    (follows : program.Follows (protocol caseMapping) (Settles request)
      (.resolved claim callback id)) : isApplying id program = true := by
  obtain ⟨op, next, allowed, fallible⟩ := upcoming_allowed follows (by
    intro result settles
    cases request <;> cases result <;> simp [Settles] at settles)
  cases op with
  | update statement =>
      cases statement with
      | applyDeliveryStatus params =>
          obtain ⟨_, _, _, same, issued⟩ := allowed
          cases same
          simpa [isApplying, next] using issued.messageId
      | _ => simp [Allowed, AllowedUpdate] at allowed
  | newDate | sleep | log => simp [Op.fallible] at fallible
  | _ => simp [Allowed] at allowed

theorem resolved_source {world : World} {choice : Choice} {outcome : World.Outcome op}
    {claim : Option String} {callback : DeliveryStatusCallback} {id : MessageId}
    (transition : Transition caseMapping stage op outcome.reply (.resolved claim callback id))
    (executed : world.exec op choice = some outcome) :
    stage = .resolved claim callback id ∨
      (∀ statement, op ≠ .update statement) ∧ ∃ row, world.messages.findById id = some row ∧
        row.identity = (some callback.provider, some callback.providerMessageId) := by
  generalize answer : outcome.reply = reply at transition
  cases transition with
  | quiet infallible => exact Or.inl rfl
  | found =>
      obtain ⟨found, provider, external⟩ := World.exec_findByProviderMessageId executed answer
      exact Or.inr ⟨by simp, _, found, Prod.ext provider external⟩
  | stored source => simp at source
  | unlocked allowed => simp [Allowed] at allowed

end Stage

def Op.statement? : Op → Option Update
  | .update statement => some statement
  | _ => none

/-- A callback of the process is about to update the row, which it knows by another provider or
external id. -/
def mistakes (row : SmsMessage) (process : Process Op Op.Reply Failure Call Answer) : Bool :=
  isApplying row.id process.program && process.tag.identifier.any fun identifier =>
    row.identity ≠ (some identifier.1, some identifier.2)

namespace Service

variable {config : Config} {service following : Service} {stages stages' : List Stage}
  {event : Event}

/-- A statement leaves a row in a status other than `FATAL_FAILURE` under another provider or
external id than that of a callback which has found the row and is about to update it. -/
def reidentifies (service : Service) (event : Event) : Bool :=
  match service.executes event with
  | some (.update statement) =>
      (service.world.messages.findById statement.messageId).any fun row =>
        (statement.run row).status ≠ .fatalFailure &&
          service.processes.any (mistakes (statement.run row))
  | _ => false

def Targets (callback : DeliveryStatusCallback) (row : SmsMessage) : Prop :=
  row.identity = (some callback.provider, some callback.providerMessageId) ∨
    row.status = .fatalFailure

def Aimed (service : Service) (stages : List Stage) : Prop :=
  ∀ (pid : Nat) (claim : Option String) (callback : DeliveryStatusCallback) (id : MessageId),
    stages[pid]? = some (.resolved claim callback id) →
    ∃ row, service.world.messages.findById id = some row ∧ Targets callback row

theorem Staged.applying (staged : Staged config stages service) {pid : Nat}
    {claim : Option String} {callback : DeliveryStatusCallback} {id : MessageId}
    (found : stages[pid]? = some (.resolved claim callback id)) :
    ∃ process ∈ service.processes, isApplying id process.program = true ∧
      process.tag.identifier = some (callback.provider, callback.providerMessageId) := by
  obtain ⟨process, present, follows⟩ := staged.tracked.process found
  have called : service.call pid = some process.tag := by simp [Service.call, present]
  have delivers : Stage.Delivers config.caseMapping process.tag callback claim :=
    staged.serves pid _ _ called found
  exact ⟨process, List.mem_of_getElem? present, Stage.resolved_isApplying follows,
    delivers.identifier⟩

theorem Moves.targets (moves : Moves config service stages event following stages')
    (staged : Staged config stages service) (kept : service.reidentifies event = false) {pid : Nat}
    {claim : Option String} {callback : DeliveryStatusCallback} {id : MessageId} {row : SmsMessage}
    (found : stages[pid]? = some (.resolved claim callback id))
    (present : service.world.messages.findById id = some row) (targets : Targets callback row) :
    ∃ after, following.world.messages.findById id = some after ∧ Targets callback after := by
  obtain ⟨after, present', same⟩ := moves.row staged present
  refine ⟨after, present', ?_⟩
  rcases same with rfl | ⟨statement, executed, _, rfl⟩
  · exact targets
  by_cases fatal : (statement.run row).status = .fatalFailure
  · exact Or.inr fatal
  by_cases selects : row.id = statement.messageId
  · left
    obtain ⟨process, member, applying, identified⟩ := staged.applying found
    have identifies : row.id = id := Table.findById_id present
    by_contra other
    have mistaken : mistakes (statement.run row) process = true := by
      simp [mistakes, identifies, applying, identified, other]
    have broken : service.reidentifies event = true := by
      simp only [reidentifies, executed, ← selects, identifies, present, Option.any_some]
      simp only [Bool.and_eq_true, List.any_eq_true]
      exact ⟨by simpa using fatal, process, member, mistaken⟩
    rw [kept] at broken
    simp at broken
  · have unchanged : statement.run row = row := if_neg fun selected => selects selected.1
    rw [unchanged]
    exact targets

theorem Moves.aimed (moves : Moves config service stages event following stages')
    (staged : Staged config stages service) (aimed : Aimed service stages)
    (kept : service.reidentifies event = false) : Aimed following stages' := by
  intro pid claim callback id found'
  have before : stages[pid]? = some (.resolved claim callback id) →
      ∃ row, following.world.messages.findById id = some row ∧ Targets callback row := by
    intro found
    obtain ⟨row, present, targets⟩ := aimed pid claim callback id found
    exact moves.targets staged kept found present targets
  rcases moves.trace staged found' with ⟨_, earlier | ⟨_, initial⟩⟩ |
    ⟨choice, stage, op, outcome, resumes, found, awaits, transition, executed, _⟩
  · exact before earlier
  · simp [Stage.isInitial] at initial
  · rcases Stage.resolved_source transition executed with rfl | ⟨noUpdate, row, present, same⟩
    · exact before found
    · obtain ⟨after, present', unchanged⟩ := moves.row staged present
      refine ⟨after, present', Or.inl ?_⟩
      rcases unchanged with rfl | ⟨statement, updates, _, _⟩
      · exact same
      · simp only [resumes, executes, awaits] at updates
        split at updates
        · exact absurd (Option.some.inj updates) (noUpdate statement)
        · simp at updates

/-- A callback that is about to change a row finds there the provider and the external id it
carries, in every run in which no row is reidentified under a callback. -/
theorem callback_targets_identified {pid : Nat} {request : Call} {provider providerMessageId : String}
    {statement : Update} {row : SmsMessage}
    (reaches : Reaches (step config) (fun service event => service.reidentifies event = false)
      initial service)
    (called : service.call pid = some request)
    (carries : request.identifier = some (provider, providerMessageId))
    (awaits : service.awaits pid = some (.update statement))
    (found : service.world.messages.findById statement.messageId = some row)
    (selected : statement.guard row.status = true) :
    row.selectedProvider = some provider ∧ row.providerMessageId = some providerMessageId := by
  obtain ⟨stages, staged, aimed⟩ := invariant Aimed reaches (by simp [Aimed])
    (fun _ _ _ _ _ staged aimed kept moves => moves.aimed staged aimed kept)
  obtain ⟨other, stage, called', present, serves, allowed⟩ := staged.awaits awaits
  rw [called, Option.some.injEq] at called'
  subst called'
  have callback : ∃ params, statement = .applyDeliveryStatus params := by
    cases stage <;> cases request <;> simp [Call.identifier] at carries <;>
      simp [Stage.Serves] at serves <;> cases statement <;>
      simp_all [Stage.Allowed, Stage.AllowedUpdate]
  obtain ⟨params, rfl⟩ := callback
  obtain ⟨claim, callback, id, rfl, issued⟩ := allowed
  have delivers : Stage.Delivers config.caseMapping request callback claim := serves
  have identified := delivers.identifier
  rw [carries, Option.some.injEq, Prod.mk.injEq] at identified
  obtain ⟨rfl, rfl⟩ := identified
  obtain ⟨target, there, targets⟩ := aimed pid claim callback id present
  have same : target = row := by
    rw [← issued.messageId] at there
    exact Option.some.inj (there.symm.trans found)
  subst same
  rcases targets with identity | fatal
  · exact Prod.mk.inj identity
  · rw [fatal, issued.refuses_fatal] at selected
    simp at selected

/-- The provider reports the delivery of a message that was sent once. -/
theorem callback_targets_identified_delivered : ∃ service row,
    Reaches (step (.defaults ["twilio"])) (fun service event => service.reidentifies event = false)
      initial service ∧
    service.world.messages.findById 0 = some row ∧ row.status = .sent ∧
    row.selectedProvider = some "twilio" ∧ row.providerMessageId = some "SM1" := by
  obtain ⟨service, reaches, found⟩ := execute_exists (step (.defaults ["twilio"]))
    (fun service event => service.reidentifies event = false) initial
    ([Event.sends "key"] ++ Event.answers 0 8 ++ [.execute 0] ++ Event.answers 1 4 ++
      [Event.accepts 1 "SM1"] ++ Event.answers 1 2 ++ [Event.reports "SM1" "delivered"] ++
      Event.answers 2 3)
    (fun service => service.awaits 2 = some (.update (.applyDeliveryStatus {
        messageId := 0
        status := .delivered
        allowedPreviousStatuses := [.queued, .processing, .sent, .undelivered, .rejected, .failed]
        lastError := none
        deliveredAt := some (some 0)
        failedAt := some none })) &&
      service.call 2 = some (.twilio
        { messageSid := "SM1", messageStatus := "delivered", errorCode := none }) &&
      (service.world.messages.findById 0).any fun row => row.status = .sent)
    (by decide)
  simp only [Bool.and_eq_true, decide_eq_true_eq, Option.any_eq_true] at found
  obtain ⟨⟨awaits, called⟩, row, present, sent⟩ := found
  exact ⟨service, row, reaches, present, sent,
    callback_targets_identified reaches called rfl awaits present (by rw [sent]; rfl)⟩

/-- Two executions of the job overlap. The receipt for the first send finds the row, the second
execution records its own send, and the receipt is applied to it. -/
theorem callback_mistaken : ∃ service pid statement row,
    Reaches (step (.defaults ["twilio"])) (fun _ _ => True) initial service ∧
    service.call pid = some (.twilio
      { messageSid := "SM1", messageStatus := "delivered", errorCode := none }) ∧
    service.awaits pid = some (.update statement) ∧
    service.world.messages.findById statement.messageId = some row ∧
    statement.guard row.status = true ∧ (statement.run row).status = .delivered ∧
    row.providerMessageId = some "SM2" := by
  obtain ⟨service, reaches, found⟩ := execute_exists (step (.defaults ["twilio"])) (fun _ _ => True)
    initial
    ([Event.sends "key"] ++ Event.answers 0 8 ++ [.execute 0] ++ Event.answers 1 2 ++
      [.stall 0, .execute 0] ++ Event.answers 2 4 ++ Event.answers 1 2 ++
      [Event.accepts 1 "SM1"] ++ Event.answers 1 2 ++ [Event.reports "SM1" "delivered"] ++
      Event.answers 3 3 ++ [Event.accepts 2 "SM2"] ++ Event.answers 2 2)
    (fun service => (service.call 3 = some (.twilio
        { messageSid := "SM1", messageStatus := "delivered", errorCode := none })) &&
      ((service.awaits 3).bind Op.statement?).any fun statement =>
        (service.world.messages.findById statement.messageId).any fun row =>
          statement.guard row.status && (statement.run row).status = .delivered &&
            row.providerMessageId = some "SM2")
    (by decide)
  simp only [Bool.and_eq_true, decide_eq_true_eq, Option.any_eq_true,
    Option.bind_eq_some_iff] at found
  obtain ⟨called, statement, ⟨op, awaits, updates⟩, row, present, ⟨selected, delivered⟩, external⟩ :=
    found
  cases op with
  | update other =>
      cases updates
      exact ⟨service, 3, statement, row, reaches, called, awaits, present, selected, delivered,
        external⟩
  | _ => simp [Op.statement?] at updates

end Service

end SmsNotification
