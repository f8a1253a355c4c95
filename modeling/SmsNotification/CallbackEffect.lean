import SmsNotification.Effects
import SmsNotification.Progression

/-!
A callback that is handled alone, as a function of the table. Callbacks only move a row further, so a
callback that was applied to a row finds it closed from then on, whatever others do to it.
-/

namespace SmsNotification

open Concurrency

namespace DeliveryStatusCallback

variable {callback : DeliveryStatusCallback} {table : Table} {choice : Nat}

def rows (callback : DeliveryStatusCallback) (table : Table) : List SmsMessage :=
  table.findByProviderMessageId callback.provider callback.providerMessageId

/-- The row that a callback finds. The database is free in which of several it returns, so `choice`
decides. -/
def found (callback : DeliveryStatusCallback) (choice : Nat) (table : Table) : Option SmsMessage :=
  (callback.rows table)[choice % (callback.rows table).length]?

def policy (callback : DeliveryStatusCallback) : Option (SmsStatus × List SmsStatus) :=
  match callback.status with
  | .inherited _ => none
  | .status status => (allowedPreviousStatusesFor status).map fun allowed => (status, allowed)

/-- What a callback that is handled alone, at the time `now`, makes of the table. -/
def effect (callback : DeliveryStatusCallback) (choice : Nat) (now : Date) (table : Table) : Table :=
  match callback.found choice table, callback.policy with
  | some row, some (status, allowed) =>
      table.update (.applyDeliveryStatus (DeliveryStatusService.updateParams row.id status allowed
        callback.lastError (callback.eventAt.getD now)))
  | _, _ => table

def Spent (callback : DeliveryStatusCallback) (choice : Nat) (table : Table) : Prop :=
  ∀ row status allowed, callback.found choice table = some row →
    callback.policy = some (status, allowed) → allowed.contains row.status = false

theorem policy_some {status : SmsStatus} {allowed : List SmsStatus}
    (decided : callback.policy = some (status, allowed)) :
    callback.status = .status status ∧ allowedPreviousStatusesFor status = some allowed := by
  unfold policy at decided
  cases mapped : callback.status with
  | inherited property => simp [mapped] at decided
  | status value =>
      simp only [mapped, Option.map_eq_some_iff, Prod.mk.injEq] at decided
      obtain ⟨statuses, follows, rfl, rfl⟩ := decided
      exact ⟨rfl, follows⟩

theorem policy_issued {status : SmsStatus} {allowed : List SmsStatus}
    (wellFormed : callback.WellFormed) (decided : callback.policy = some (status, allowed))
    (id : MessageId) (now : Date) :
    DeliveryUpdate id (DeliveryStatusService.updateParams id status allowed callback.lastError
      (callback.eventAt.getD now)) := by
  obtain ⟨mapped, follows⟩ := policy_some decided
  refine wellFormed.update ⟨status, allowed, callback.eventAt.getD now, mapped, follows, ?_, rfl⟩
  cases callback.eventAt with
  | none => exact Or.inr rfl
  | some eventAt => exact Or.inl rfl

theorem found_update (params : ApplyDeliveryStatusParams) :
    callback.found choice (table.update (.applyDeliveryStatus params)) =
      (callback.found choice table).map (Update.applyDeliveryStatus params).run := by
  simp only [found, rows, Table.findByProviderMessageId_update, List.length_map, List.getElem?_map]

theorem effect_cases (wellFormed : callback.WellFormed) (choice : Nat) (now : Date)
    (table : Table) : callback.effect choice now table = table ∨ ∃ id params,
      DeliveryUpdate id params ∧
        callback.effect choice now table = table.update (.applyDeliveryStatus params) := by
  unfold effect
  cases callback.found choice table with
  | none => exact Or.inl rfl
  | some row =>
      cases decided : callback.policy with
      | none => exact Or.inl rfl
      | some target => exact Or.inr ⟨row.id, _, policy_issued wellFormed decided row.id now, rfl⟩

end DeliveryStatusCallback

/-- How far a message has come. A callback moves it further or leaves it alone. -/
def SmsStatus.progress : SmsStatus → Nat
  | .queued | .processing => 0
  | .sent => 1
  | .undelivered | .rejected | .failed => 2
  | .delivered | .fatalFailure => 3

theorem allowedPreviousStatusesFor_progress {status : SmsStatus} {allowed : List SmsStatus}
    (policy : allowedPreviousStatusesFor status = some allowed) (before : SmsStatus) :
    allowed.contains before = true ↔ before.progress < status.progress := by
  cases status with
  | queued | processing | fatalFailure => cases policy
  | sent | delivered | undelivered | rejected | failed =>
      cases policy
      cases before <;> decide

theorem DeliveryUpdate.policy {id : MessageId} {params : ApplyDeliveryStatusParams}
    (issued : DeliveryUpdate id params) :
    allowedPreviousStatusesFor params.status = some params.allowedPreviousStatuses := by
  cases issued with
  | sent eventAt => rfl
  | delivered eventAt => rfl
  | @failure status failed error eventAt =>
      cases status <;> first | rfl | cases failed

theorem DeliveryUpdate.progress {id : MessageId} {params : ApplyDeliveryStatusParams}
    (issued : DeliveryUpdate id params) (row : SmsMessage) :
    row.status.progress ≤ ((Update.applyDeliveryStatus params).run row).status.progress := by
  unfold Update.run
  split
  next applied =>
    have further := (allowedPreviousStatusesFor_progress issued.policy row.status).mp applied.2
    exact Nat.le_of_lt further
  next => exact Nat.le_refl _

theorem DeliveryUpdate.reaches {row : SmsMessage} {params : ApplyDeliveryStatusParams}
    (issued : DeliveryUpdate row.id params) :
    params.status.progress ≤ ((Update.applyDeliveryStatus params).run row).status.progress := by
  cases applied : (Update.applyDeliveryStatus params).guard row.status with
  | true => rw [(issued.run_status applied).1]
  | false =>
      have closed := allowedPreviousStatusesFor_progress issued.policy row.status
      have refused : params.allowedPreviousStatuses.contains row.status = false := applied
      rw [refused] at closed
      rw [DeliveryUpdate.run_skipped applied]
      simp only [Bool.false_eq_true, false_iff, Nat.not_lt] at closed
      exact closed

namespace DeliveryStatusCallback

variable {callback : DeliveryStatusCallback} {table : Table} {choice : Nat}

theorem spent_iff : callback.Spent choice table ↔ ∀ row status allowed,
    callback.found choice table = some row → callback.policy = some (status, allowed) →
      status.progress ≤ row.status.progress := by
  unfold Spent
  refine forall_congr' fun row => forall_congr' fun status => forall_congr' fun allowed =>
    imp_congr_right fun _ => imp_congr_right fun decided => ?_
  have progress := allowedPreviousStatusesFor_progress (policy_some decided).2 row.status
  rw [← Bool.not_eq_true, progress, Nat.not_lt]

theorem Spent.kept (spent : callback.Spent choice table) {other : DeliveryStatusCallback}
    (wellFormed : other.WellFormed) (otherChoice : Nat) (now : Date) :
    callback.Spent choice (other.effect otherChoice now table) := by
  rcases effect_cases wellFormed otherChoice now table with same | ⟨id, params, issued, updated⟩
  · rw [same]
    exact spent
  · rw [updated, spent_iff]
    intro row status allowed found decided
    rw [found_update] at found
    obtain ⟨before, present, rfl⟩ := Option.map_eq_some_iff.mp found
    have closed := spent_iff.mp spent before status allowed present decided
    exact Nat.le_trans closed (issued.progress before)

theorem spent_after (wellFormed : callback.WellFormed) (choice : Nat) (now : Date)
    (table : Table) : callback.Spent choice (callback.effect choice now table) := by
  unfold effect
  cases present : callback.found choice table with
  | none =>
      intro row status allowed found
      simp [present] at found
  | some before =>
      cases decided : callback.policy with
      | none =>
          intro row status allowed _ policy
          simp [decided] at policy
      | some target =>
          obtain ⟨status, allowed⟩ := target
          have issued := policy_issued wellFormed decided before.id now
          rw [spent_iff]
          intro row status' allowed' found decided'
          rw [decided] at decided'
          cases decided'
          rw [found_update, present] at found
          cases found
          have reached := issued.reaches
          rw [Stage.updateParams_status] at reached
          exact reached

theorem Spent.idle (spent : callback.Spent choice table) (now : Date) :
    callback.effect choice now table = table := by
  unfold effect
  cases present : callback.found choice table with
  | none => rfl
  | some row =>
      cases decided : callback.policy with
      | none => rfl
      | some target =>
          obtain ⟨status, allowed⟩ := target
          refine Table.update_of_not_affected ?_
          have member : row ∈ callback.rows table := List.mem_of_getElem? present
          have stored := (Table.findByProviderMessageId_mem member).1
          have closed := spent row status allowed present decided
          simp only [Table.affected, Update.messageId, Stage.updateParams_messageId, stored,
            Update.guard, Stage.updateParams_allowed]
          exact closed

end DeliveryStatusCallback

def answering (hint : Hint) : Surroundings := fun _ _ => .answered hint

section Handling

variable {callback : DeliveryStatusCallback} {choice : Nat} {hint : Hint} {world : World}
  {record : Record}

theorem yields_answering (op : Op) {post : Except Failure op.Reply → World → Record → Prop}
    (holds : ∃ outcome, world.perform hint op = some outcome ∧
      post outcome.reply outcome.world (record ++ [⟨op, outcome.reply⟩])) :
    (call op).Yields World.exec (answering hint) post world record :=
  yields_answered op rfl holds

theorem World.perform_found
    (picks : hint.index = choice % (callback.rows world.messages).length) :
    world.perform hint
        (.findByProviderMessageId callback.provider callback.providerMessageId) =
      some ⟨.ok (callback.found choice world.messages), world, false⟩ := by
  simp only [World.perform, DeliveryStatusCallback.found, ← picks]
  unfold DeliveryStatusCallback.rows at picks ⊢
  cases rows : world.messages.findByProviderMessageId callback.provider
      callback.providerMessageId with
  | nil => rfl
  | cons row rest =>
      have below : hint.index < (row :: rest).length := by
        rw [picks, rows]
        exact Nat.mod_lt _ (Nat.succ_pos _)
      simp [List.getElem?_eq_getElem below]

theorem World.perform_claimed {webhookId : String} (held : world.claims webhookId = true) :
    world.perform hint (.claimBirdWebhook webhookId) = some ⟨.ok false, world, false⟩ := by
  simp [World.perform, held]

theorem World.perform_unclaimed {webhookId : String} (free : world.claims webhookId = false) :
    world.perform hint (.claimBirdWebhook webhookId) = some ⟨.ok true,
      { world with claims := Function.update world.claims webhookId true }, true⟩ := by
  simp [World.perform, free]

namespace DeliveryStatusService

theorem log_yields {level : LogLevel} {event : String} {fields : List (String × LogValue)}
    {text : String} {post : Except Failure Unit → World → Record → Prop}
    (holds : ∀ record, post (.ok ()) world record) :
    (log level event fields text).Yields World.exec (answering hint) post world record :=
  yields_answering (.log _) ⟨_, rfl, holds _⟩

theorem ignoreStatus_yields {message : SmsMessage} :
    (ignoreStatus callback message).Yields World.exec (answering hint)
      (fun result following _ => result = .ok .ignored ∧ following = world) world record := by
  unfold ignoreStatus
  rw [Program.yields_bind]
  exact log_yields fun _ => by simp

theorem eventDate_yields {post : Except Failure Date → World → Record → Prop}
    (holds : ∀ record, post (.ok (callback.eventAt.getD hint.date)) world record) :
    (eventDate callback).Yields World.exec (answering hint) post world record := by
  unfold eventDate
  cases eventAt : callback.eventAt with
  | some date =>
      rw [eventAt] at holds
      exact (Program.yields_pure date).mpr (holds record)
  | none =>
      rw [eventAt] at holds
      exact yields_answering .newDate ⟨_, rfl, holds _⟩

theorem logSkippedCallback_yields {status previousStatus : SmsStatus} {id : MessageId} :
    (logSkippedCallback callback status id previousStatus).Yields World.exec (answering hint)
      (fun result following _ => (∃ outcome, result = .ok outcome) ∧ following = world)
      world record := by
  unfold logSkippedCallback SmsService.findById
  rw [Program.yields_bind]
  refine yields_answering (.findById id) ⟨_, rfl, ?_⟩
  simp only
  split <;>
    · rw [Program.yields_bind]
      exact log_yields fun _ => by simp

theorem updateFound_yields {message : SmsMessage} {status : SmsStatus} {allowed : List SmsStatus} :
    (updateFound callback message status allowed).Yields World.exec (answering hint)
      (fun result following _ => (∃ outcome, result = .ok outcome) ∧
        following = { world with messages := world.messages.update (.applyDeliveryStatus
          (updateParams message.id status allowed callback.lastError
            (callback.eventAt.getD hint.date))) })
      world record := by
  unfold updateFound SmsService.applyDeliveryStatus
  rw [Program.yields_bind]
  refine eventDate_yields fun record => ?_
  simp only [Program.yields_bind]
  refine yields_answering (.update _) ⟨_, rfl, ?_⟩
  simp only
  split
  · rw [Program.yields_bind]
    exact log_yields fun _ => by simp
  · exact logSkippedCallback_yields

theorem apply_yields
    (picks : hint.index = choice % (callback.rows world.messages).length) :
    (apply callback).Yields World.exec (answering hint)
      (fun result following _ => (∃ outcome, result = .ok outcome) ∧
        following = { world with messages := callback.effect choice hint.date world.messages })
      world record := by
  unfold apply SmsService.findByProviderMessageId
  rw [Program.yields_bind]
  refine yields_answering _ ⟨_, World.perform_found picks, ?_⟩
  unfold DeliveryStatusCallback.effect DeliveryStatusCallback.policy
  cases callback.found choice world.messages with
  | none =>
      simp only [logNotFound, Program.yields_bind]
      exact log_yields fun _ => by simp
  | some row =>
      cases callback.status with
      | inherited property =>
          refine ignoreStatus_yields.mono ?_
          rintro result following _ ⟨rfl, rfl⟩
          exact ⟨⟨_, rfl⟩, rfl⟩
      | status status =>
          simp only
          cases allowedPreviousStatusesFor status with
          | none =>
              refine ignoreStatus_yields.mono ?_
              rintro result following _ ⟨rfl, rfl⟩
              exact ⟨⟨_, rfl⟩, rfl⟩
          | some allowed => exact updateFound_yields

end DeliveryStatusService

end Handling

end SmsNotification
