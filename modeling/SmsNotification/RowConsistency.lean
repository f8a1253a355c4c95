import SmsNotification.Statements

/-!
The columns of a row agree with its status in every reachable state. Nine statements write the
columns, most of them without looking at the row; the predicate `Consistent` survives each of them
from every status its caller can meet.
-/

namespace SmsNotification

open Concurrency

/-- What the columns of a row say about its status. -/
structure SmsMessage.Consistent (row : SmsMessage) : Prop where
  failedAt : row.failedAt.isSome = row.status.isFailure
  lastError : row.lastError.isSome = row.status.isFailure
  sent : row.status = .sent → row.sentAt.isSome
  unsent : row.status.isOpen ∨ row.status = .fatalFailure →
    row.sentAt = none ∧ row.providerMessageId = none
  delivered : row.status = .delivered → row.deliveredAt.isSome

theorem queuedMessage_consistent (id : MessageId) (createdAt : Date) (key : String)
    (dto : SendSmsDto) : (queuedMessage id createdAt key dto).Consistent := by
  constructor <;> simp [queuedMessage, SmsStatus.isFailure, isDeliveryFailureStatus,
    deliveryFailureStatuses]

theorem DeliveryUpdate.set_consistent {id : MessageId} {params : ApplyDeliveryStatusParams}
    {row : SmsMessage} (issued : DeliveryUpdate id params) (consistent : row.Consistent)
    (guarded : (Update.applyDeliveryStatus params).guard row.status = true) :
    ((Update.applyDeliveryStatus params).set row).Consistent := by
  obtain ⟨failedAt, lastError, sent, unsent, delivered⟩ := consistent
  cases issued with
  | sent eventAt =>
      -- the statement leaves `failedAt` alone, and a guarded row has none
      have opened : row.status.isFailure = false := by
        simp only [Update.guard, List.contains_cons] at guarded
        cases status : row.status <;> simp_all [SmsStatus.isFailure, isDeliveryFailureStatus,
          deliveryFailureStatuses]
      rw [opened] at failedAt
      constructor <;> simp_all [Update.set, SmsStatus.isFailure, isDeliveryFailureStatus,
        deliveryFailureStatuses, SmsStatus.isOpen]
  | delivered eventAt =>
      constructor <;> simp [Update.set, SmsStatus.isFailure, isDeliveryFailureStatus,
        deliveryFailureStatuses, SmsStatus.isOpen]
  | @failure status failed error eventAt =>
      cases status <;> simp [isDeliveryFailureStatus, deliveryFailureStatuses] at failed
      all_goals
        constructor <;> simp [Update.set, SmsStatus.isFailure, isDeliveryFailureStatus,
          deliveryFailureStatuses, SmsStatus.isOpen]

theorem Update.Issued.run_consistent {statement : Update} {row : SmsMessage}
    (issued : statement.Issued) (consistent : row.Consistent) :
    (statement.run row).Consistent := by
  unfold Update.run
  split
  · rename_i selected
    have guarded := selected.2
    have ⟨failedAt, lastError, sent, unsent, delivered⟩ := consistent
    cases statement with
    | markProcessing id =>
        have opened : row.status.isOpen = true := guarded
        have noFailure : row.status.isFailure = false := by
          cases status : row.status <;> simp_all [SmsStatus.isFailure, isDeliveryFailureStatus,
            deliveryFailureStatuses, SmsStatus.isOpen]
        have blank := unsent (Or.inl opened)
        rw [noFailure] at failedAt
        constructor <;> simp_all [Update.set, SmsStatus.isFailure, isDeliveryFailureStatus,
          deliveryFailureStatuses]
    | incrementAttempts id => exact ⟨failedAt, lastError, sent, unsent, delivered⟩
    | applyDeliveryStatus params =>
        obtain ⟨id, update⟩ := issued
        exact update.set_consistent consistent guarded
    | markSent | markFatalFailure | markQueuePublishFailed | transitionFatalFailureToQueued
    | restoreFatalFailure =>
        constructor <;> simp [Update.set, SmsStatus.isFailure, isDeliveryFailureStatus,
          deliveryFailureStatuses, SmsStatus.isOpen]
  · exact consistent

namespace Service

variable {config : Config} {service following : Service} {stages stages' : List Stage}
  {event : Event}

def RowsConsistent (service : Service) : Prop :=
  ∀ id row, service.world.messages.findById id = some row → row.Consistent

theorem Moves.rowsConsistent (moves : Moves config service stages event following stages')
    (staged : Staged config stages service) (consistent : service.RowsConsistent) :
    following.RowsConsistent := by
  intro id row found
  rcases moves.messages staged with ⟨same, _⟩ | ⟨statement, _, issued, updated⟩ |
    ⟨newId, createdAt, key, dto, _, _, _, inserted⟩
  · rw [same] at found
    exact consistent id row found
  · rw [updated] at found
    obtain ⟨before, present, rfl⟩ := Table.findById_update_some found
    exact issued.run_consistent (consistent id before present)
  · rw [inserted, Table.findById_insert] at found
    split at found
    · simp only [Option.some.injEq] at found
      exact found ▸ queuedMessage_consistent newId createdAt key dto
    · exact consistent id row found

/-- Row consistency in every reachable state, under any interleaving, redelivery and lost reply.
A lookup by external id therefore never finds a row that is still to be sent or has failed
fatally. -/
theorem rows_consistent
    (reaches : Reaches (step config) (fun _ _ => True) initial service) :
    (∀ row ∈ service.world.messages.rows, row.Consistent) ∧
      ∀ provider providerMessageId choice outcome row,
        service.world.exec (.findByProviderMessageId provider providerMessageId) choice =
            some outcome →
          outcome.reply = .ok (some row) →
          row.status ≠ .queued ∧ row.status ≠ .processing ∧ row.status ≠ .fatalFailure := by
  obtain ⟨stages, _, consistent⟩ := invariant (fun service _ => service.RowsConsistent)
    reaches (fun id row found => by simp [initial, World.initial, Table.empty, Table.findById] at found)
    (fun _ _ _ _ _ staged consistent _ moves => moves.rowsConsistent staged consistent)
  have everyRow : ∀ row ∈ service.world.messages.rows, row.Consistent := fun row member =>
    consistent row.id row (Table.mem_findById member)
  refine ⟨everyRow, ?_⟩
  intro provider providerMessageId choice outcome row executed answered
  obtain ⟨found, _, external⟩ := World.exec_findByProviderMessageId executed answered
  have rowConsistent := consistent row.id row found
  have sent : ¬ (row.status.isOpen = true ∨ row.status = .fatalFailure) := by
    intro unsent
    have absent := (rowConsistent.unsent unsent).2
    rw [external] at absent
    simp at absent
  refine ⟨?_, ?_, ?_⟩ <;> intro status <;> exact sent (by simp [status, SmsStatus.isOpen])

/-- A message that is sent and then reported delivered is consistent in its last state. -/
theorem rows_consistent_delivered : ∃ service row,
    Reaches (step (.defaults ["twilio"])) (fun _ _ => True) initial service ∧
      row ∈ service.world.messages.rows ∧ row.status = .delivered ∧ row.Consistent := by
  obtain ⟨service, reaches, found⟩ := execute_exists
    (step (.defaults ["twilio"])) (fun _ _ => True) initial
    ([Event.sends "key"] ++
      Event.answers 0 8 ++ [.execute 0] ++ Event.answers 1 4 ++ [Event.accepts 1 "SM1"] ++
      Event.answers 1 2 ++
      [Event.reports "SM1" "delivered"] ++
      Event.answers 2 5)
    (fun service => service.world.messages.rows.any fun row => row.status = .delivered)
    (by decide)
  obtain ⟨row, member, status⟩ := List.any_eq_true.mp found
  exact ⟨service, row, reaches, member, by simpa using status,
    (rows_consistent reaches).1 row member⟩

end Service

end SmsNotification
