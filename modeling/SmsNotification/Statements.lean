import SmsNotification.Moves

/-!
The statements that the processes of the service issue, and what a step does to the table. A
callback can issue three kinds of update; the other statements are fixed in the source.
-/

namespace SmsNotification

open Concurrency

namespace SmsStatus

def isOpen (status : SmsStatus) : Bool := status = .queued || status = .processing

def isFailure (status : SmsStatus) : Bool :=
  isDeliveryFailureStatus status || status = .fatalFailure

end SmsStatus

def DeliveryStatusCallback.WellFormed (callback : DeliveryStatusCallback) : Prop :=
  ∃ error, callback.lastError = buildLastError callback.status error

theorem Stage.Delivers.wellFormed {caseMapping : Js.CaseMapping} {call : Call}
    {callback : DeliveryStatusCallback} {claim : Option String}
    (delivers : Stage.Delivers caseMapping call callback claim) : callback.WellFormed := by
  cases claim with
  | none =>
      obtain ⟨received, status, _, _, rfl⟩ := delivers
      exact ⟨buildTwilioLastError caseMapping received, rfl⟩
  | some webhookId =>
      obtain ⟨event, status, _, _, rfl⟩ := delivers
      exact ⟨buildBirdLastError caseMapping event, rfl⟩

namespace Stage

theorem buildTimestamps_fields (status : SmsStatus) (eventAt : Date)
    (params : ApplyDeliveryStatusParams) :
    let stamped := DeliveryStatusService.buildTimestamps status eventAt params
    stamped.messageId = params.messageId ∧ stamped.status = params.status ∧
      stamped.allowedPreviousStatuses = params.allowedPreviousStatuses ∧
      stamped.lastError = params.lastError := by
  unfold DeliveryStatusService.buildTimestamps
  split
  · exact ⟨rfl, rfl, rfl, rfl⟩
  · split <;> exact ⟨rfl, rfl, rfl, rfl⟩

section UpdateParams

variable (id : MessageId) (status : SmsStatus) (allowedPreviousStatuses : List SmsStatus)
  (lastError : Option String) (eventAt : Date)

theorem updateParams_messageId : (DeliveryStatusService.updateParams id status
    allowedPreviousStatuses lastError eventAt).messageId = id :=
  (buildTimestamps_fields status eventAt _).1

theorem updateParams_status : (DeliveryStatusService.updateParams id status
    allowedPreviousStatuses lastError eventAt).status = status :=
  (buildTimestamps_fields status eventAt _).2.1

theorem updateParams_allowed : (DeliveryStatusService.updateParams id status
    allowedPreviousStatuses lastError eventAt).allowedPreviousStatuses = allowedPreviousStatuses :=
  (buildTimestamps_fields status eventAt _).2.2.1

end UpdateParams

theorem DeliveryParams.lastError {callback : DeliveryStatusCallback} {id : MessageId}
    {params : ApplyDeliveryStatusParams} (issued : DeliveryParams callback id params) :
    params.lastError = callback.lastError := by
  obtain ⟨status, allowedPreviousStatuses, eventAt, _, _, _, rfl⟩ := issued
  exact (buildTimestamps_fields status eventAt _).2.2.2

theorem DeliveryParams.messageId {callback : DeliveryStatusCallback} {id : MessageId}
    {params : ApplyDeliveryStatusParams} (issued : DeliveryParams callback id params) :
    params.messageId = id := by
  obtain ⟨status, allowedPreviousStatuses, eventAt, _, _, _, rfl⟩ := issued
  exact updateParams_messageId id status allowedPreviousStatuses callback.lastError eventAt

end Stage

inductive DeliveryUpdate (id : MessageId) : ApplyDeliveryStatusParams → Prop
  | sent (eventAt : Date) : DeliveryUpdate id {
      messageId := id
      status := .sent
      allowedPreviousStatuses := [.queued, .processing]
      lastError := none
      sentAtWhenMissing := some eventAt }
  | delivered (eventAt : Date) : DeliveryUpdate id {
      messageId := id
      status := .delivered
      allowedPreviousStatuses := [.queued, .processing, .sent, .undelivered, .rejected, .failed]
      lastError := none
      deliveredAt := some (some eventAt)
      failedAt := some none }
  | failure {status : SmsStatus} (failed : isDeliveryFailureStatus status = true)
      (error : String) (eventAt : Date) : DeliveryUpdate id {
      messageId := id
      status := status
      allowedPreviousStatuses := [.queued, .processing, .sent]
      lastError := some error
      failedAt := some (some eventAt) }

theorem DeliveryStatusCallback.WellFormed.update {callback : DeliveryStatusCallback}
    {id : MessageId} {params : ApplyDeliveryStatusParams} (wellFormed : callback.WellFormed)
    (issued : Stage.DeliveryParams callback id params) : DeliveryUpdate id params := by
  obtain ⟨status, allowedPreviousStatuses, eventAt, mapped, policy, _, rfl⟩ := issued
  obtain ⟨error, lastError⟩ := wellFormed
  rw [lastError, mapped]
  cases status with
  | sent =>
      cases policy
      exact .sent eventAt
  | delivered =>
      cases policy
      exact .delivered eventAt
  | undelivered =>
      cases policy
      exact .failure rfl error eventAt
  | rejected =>
      cases policy
      exact .failure rfl error eventAt
  | failed =>
      cases policy
      exact .failure rfl error eventAt
  | queued => cases policy
  | processing => cases policy
  | fatalFailure => cases policy

/-- A statement as the service issues it: the updates of callbacks follow the policy. -/
def Update.Issued : Update → Prop
  | .applyDeliveryStatus params => ∃ id, DeliveryUpdate id params
  | _ => True

/-- The statements that write a status without a condition on the status before. -/
def Update.isUnguardedStatus : Update → Bool
  | .markSent _ _ _ _ => true
  | .markFatalFailure _ _ _ _ => true
  | .markQueuePublishFailed _ _ => true
  | .restoreFatalFailure _ _ _ _ => true
  | _ => false

theorem Stage.AllowedUpdate.issued {caseMapping : Js.CaseMapping} {call : Call} {stage : Stage}
    {statement : Update} (allowed : stage.AllowedUpdate statement)
    (serves : stage.Serves caseMapping call) : statement.Issued := by
  cases statement with
  | applyDeliveryStatus params =>
      obtain ⟨claim, callback, id, rfl, issued⟩ := allowed
      have delivers : Stage.Delivers caseMapping call callback claim := serves
      exact ⟨id, delivers.wellFormed.update issued⟩
  | _ => trivial

namespace Service

variable {config : Config} {service following : Service} {stages stages' : List Stage}
  {event : Event}

theorem Moves.messages (moves : Moves config service stages event following stages')
    (staged : Staged config stages service) :
    (following.world.messages = service.world.messages ∧
      ∀ statement, service.executes event ≠ some (.update statement)) ∨
    (∃ statement, service.executes event = some (.update statement) ∧ statement.Issued ∧
      following.world.messages = service.world.messages.update statement) ∨
    ∃ id createdAt key dto newId newKey,
      service.executes event = some (.createQueuedMessage key dto) ∧
      following.world.messages =
        service.world.messages.insert (queuedMessage id createdAt key dto) newId newKey := by
  cases moves with
  | @resume pid choice stage _ op outcome _ found awaits allowed _ executed world _ _ =>
      rw [world]
      simp only [executes]
      rcases World.exec_cases executed with ⟨same, _, rejected, _⟩ | ⟨_, _, _, _, _, reply⟩
      · simp [same, rejected]
      have runs : choice.isExecuted = true := by
        cases choice <;> simp_all [Choice.isAnswered, Choice.isLost, Choice.isExecuted]
      rw [if_pos runs, awaits]
      cases op with
      | update statement =>
          obtain ⟨request, _, serves⟩ := staged.call found
          have issued := Stage.AllowedUpdate.issued allowed serves
          rcases World.exec_update executed with ⟨_, _, rejected, _⟩ | ⟨same, _⟩
          · simp [runs] at rejected
          · exact Or.inr (Or.inl ⟨statement, rfl, issued, by rw [same]⟩)
      | createQueuedMessage key dto =>
          rcases World.exec_createQueuedMessage executed with
            ⟨same, _⟩ | ⟨id, createdAt, newId, newKey, same, _⟩
          · exact Or.inl ⟨by rw [same], by simp⟩
          · exact Or.inr (Or.inr ⟨id, createdAt, key, dto, newId, newKey, rfl, by rw [same]⟩)
      | _ =>
          rcases World.exec_messages executed with same | ⟨_, same, _⟩ | ⟨_, _, _, _, _, _, same, _⟩
          · exact Or.inl ⟨same, by simp⟩
          · simp at same
          · simp at same
  | _ => exact Or.inl ⟨rfl, by simp [executes]⟩

theorem Moves.row (moves : Moves config service stages event following stages')
    (staged : Staged config stages service) {id : MessageId} {row : SmsMessage}
    (found : service.world.messages.findById id = some row) :
    ∃ after, following.world.messages.findById id = some after ∧ (after = row ∨
      ∃ statement, service.executes event = some (.update statement) ∧ statement.Issued ∧
        after = statement.run row) := by
  rcases moves.messages staged with ⟨same, _⟩ | ⟨statement, executed, issued, updated⟩ |
    ⟨_, _, _, _, newId, newKey, _, inserted⟩
  · exact ⟨row, by rw [same]; exact found, Or.inl rfl⟩
  · refine ⟨statement.run row, ?_, Or.inr ⟨statement, executed, issued, rfl⟩⟩
    rw [updated, Table.findById_update, found]
    rfl
  · exact ⟨row, by rw [inserted]; exact Table.findById_insert_some found, Or.inl rfl⟩

theorem Moves.keeps_row (moves : Moves config service stages event following stages')
    (staged : Staged config stages service) {id : MessageId} {row : SmsMessage}
    (found : service.world.messages.findById id = some row) :
    ∃ after, following.world.messages.findById id = some after ∧
      after.idempotencyKey = row.idempotencyKey := by
  obtain ⟨after, present, same⟩ := moves.row staged found
  refine ⟨after, present, ?_⟩
  rcases same with rfl | ⟨statement, _, _, rfl⟩
  · rfl
  · exact statement.run_idempotencyKey row

theorem Moves.update (moves : Moves config service stages event following stages')
    (staged : Staged config stages service) {statement : Update}
    (executed : service.executes event = some (.update statement)) :
    following.world.messages = service.world.messages.update statement := by
  rcases moves.messages staged with ⟨_, noUpdate⟩ | ⟨other, same, _, updated⟩ |
    ⟨_, _, _, _, _, _, same, _⟩
  · exact absurd executed (noUpdate statement)
  · rw [executed] at same
    simp only [Option.some.injEq, Op.update.injEq] at same
    rw [same]
    exact updated
  · simp [executed] at same

end Service

end SmsNotification
