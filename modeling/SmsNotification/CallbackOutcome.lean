import SmsNotification.Progression

/-!
Any set of callbacks for one message, handled concurrently. Their handlers form a pool of their
own; the row is at all times what the executed updates make of the first one, so the theorems about
sequences of updates decide the outcome.
-/

namespace SmsNotification

open Concurrency

structure DeliveryStatusCallback.Reports (provider providerMessageId : String)
    (callback : DeliveryStatusCallback) : Prop where
  provider : callback.provider = provider
  providerMessageId : callback.providerMessageId = providerMessageId
  status : ∃ status, callback.status = .status status ∧
    (status = .sent ∨ status = .delivered ∨ isDeliveryFailureStatus status = true)
  wellFormed : callback.WellFormed

inductive Progress
  | receiving
  | resolved (id : MessageId)
  | affected (id : MessageId)
  | skipped (id : MessageId)
  | ignored
  deriving DecidableEq

structure CallbackStage where
  callback : DeliveryStatusCallback
  progress : Progress
  deriving DecidableEq

namespace CallbackStage

def Allowed (stage : CallbackStage) : Op → Prop
  | .findByProviderMessageId provider providerMessageId =>
      stage.progress = .receiving ∧ stage.callback.provider = provider ∧
        stage.callback.providerMessageId = providerMessageId
  | .update statement => ∃ id params, stage.progress = .resolved id ∧
      statement = .applyDeliveryStatus params ∧ Stage.DeliveryParams stage.callback id params
  | .findById id => stage.progress = .skipped id
  | .newDate => True
  | .log _ => True
  | _ => False

/-- Nothing rejects here but an insert. -/
def Replies (op : Op) (reply : Except Failure op.Reply) : Prop :=
  Stage.Replies op reply ∧ ∀ message, reply ≠ .error (.rejection message)

def found (callback : DeliveryStatusCallback) (id : MessageId) : Progress :=
  match callback.status with
  | .inherited _ => .ignored
  | .status status =>
      if (allowedPreviousStatusesFor status).isSome then .resolved id else .ignored

def advance (stage : CallbackStage) : (op : Op) → Except Failure op.Reply → Progress
  | .findByProviderMessageId _ _, .ok (some row) => found stage.callback row.id
  | .findByProviderMessageId _ _, .ok none => .ignored
  | .update statement, .ok true => .affected statement.messageId
  | .update statement, .ok false => .skipped statement.messageId
  | _, _ => stage.progress

abbrev protocol : Protocol Op Op.Reply Failure where
  Stage := CallbackStage
  allowed := Allowed
  replies := Replies
  next stage op reply := { stage with progress := stage.advance op reply }

def Settles (callback : DeliveryStatusCallback) (stage : CallbackStage) :
    Except Failure DeliveryStatusOutcome → Prop
  | .ok outcome => stage.callback = callback ∧
      (outcome = .updated ∧ (∃ id, stage.progress = .affected id) ∨
        outcome ≠ .updated ∧ ((∃ id, stage.progress = .skipped id) ∨ stage.progress = .ignored))
  | .error _ => False

theorem follows_call {op : Op} {stage : CallbackStage}
    {post : CallbackStage → Except Failure op.Reply → Prop} (allowed : stage.Allowed op)
    (answered : ∀ answer, Stage.Answers op answer →
      post { stage with progress := stage.advance op (.ok answer) } (.ok answer)) :
    (call op).Follows protocol post stage := by
  refine ⟨allowed, ?_⟩
  intro reply possible
  cases reply with
  | ok answer => exact answered answer possible.1
  | error error =>
      rcases possible.1.2 with ⟨message, rfl⟩ | ⟨_, key, dto, rfl⟩
      · exact absurd rfl (possible.2 message)
      · exact allowed.elim

end CallbackStage

namespace DeliveryStatusService

open CallbackStage

variable {callback : DeliveryStatusCallback}

theorem log_follows {level : LogLevel} {event text : String} {fields : List (String × LogValue)}
    {stage : CallbackStage} {post : CallbackStage → Except Failure Unit → Prop}
    (logged : post stage (.ok ())) :
    (log level event fields text).Follows CallbackStage.protocol post stage :=
  follows_call trivial fun _ _ => logged

theorem logSkippedCallback_follows {status previousStatus : SmsStatus} {id : MessageId} :
    (logSkippedCallback callback status id previousStatus).Follows CallbackStage.protocol
      (Settles callback) ⟨callback, .skipped id⟩ := by
  simp only [logSkippedCallback, SmsService.findById, Program.follows_bind]
  apply follows_call
  · rfl
  · intro row _
    simp only [Program.then_ok]
    split <;> simp only [Program.follows_bind] <;> apply log_follows <;>
      exact ⟨rfl, Or.inr ⟨by simp, Or.inl ⟨id, rfl⟩⟩⟩

theorem updateFound_follows {message : SmsMessage} {status : SmsStatus}
    {allowedPreviousStatuses : List SmsStatus} (known : callback.status = .status status)
    (allowed : allowedPreviousStatusesFor status = some allowedPreviousStatuses) :
    (updateFound callback message status allowedPreviousStatuses).Follows CallbackStage.protocol
      (Settles callback) ⟨callback, .resolved message.id⟩ := by
  have rest : ∀ {eventAt : Date}, (callback.eventAt = some eventAt ∨ callback.eventAt = none) →
      Program.Follows CallbackStage.protocol (Settles callback) (do
        let updated ← SmsService.applyDeliveryStatus
          (updateParams message.id status allowedPreviousStatuses callback.lastError eventAt)
        if updated then do
          log .info "WEBHOOK_STATUS_UPDATED" (messageFields callback message.id message.status)
            "SMS delivery status updated from provider callback"
          pure .updated
        else logSkippedCallback callback status message.id message.status)
      ⟨callback, .resolved message.id⟩ := by
    intro eventAt source
    have issued : Stage.DeliveryParams callback message.id
        (updateParams message.id status allowedPreviousStatuses callback.lastError eventAt) :=
      ⟨status, allowedPreviousStatuses, eventAt, known, allowed, source, rfl⟩
    simp only [SmsService.applyDeliveryStatus, Program.follows_bind]
    apply follows_call
    · exact ⟨message.id, _, rfl, rfl, issued⟩
    · intro updated _
      have same : (updateParams message.id status allowedPreviousStatuses callback.lastError
          eventAt).messageId = message.id := by
        simp only [updateParams, buildTimestamps]
        split
        · rfl
        · split <;> rfl
      cases updated with
      | true =>
          simp only [Program.then_ok, if_true, Program.follows_bind]
          exact log_follows ⟨rfl, Or.inl ⟨rfl, _, rfl⟩⟩
      | false =>
          simp only [Program.then_ok, advance, Update.messageId, same]
          exact logSkippedCallback_follows
  simp only [updateFound, eventDate, Program.follows_bind]
  cases source : callback.eventAt with
  | some eventAt => exact rest (Or.inl source)
  | none => exact follows_call trivial fun eventAt _ => rest (Or.inr source)

theorem apply_follows : (apply callback).Follows CallbackStage.protocol (Settles callback)
    ⟨callback, .receiving⟩ := by
  have ignored : ∀ message, (ignoreStatus callback message).Follows CallbackStage.protocol
      (Settles callback) ⟨callback, .ignored⟩ := by
    intro message
    simp only [ignoreStatus, Program.follows_bind]
    exact log_follows ⟨rfl, Or.inr ⟨by simp, Or.inr rfl⟩⟩
  simp only [apply, SmsService.findByProviderMessageId, Program.follows_bind]
  apply follows_call
  · exact ⟨rfl, rfl, rfl⟩
  · intro row _
    cases row with
    | none =>
        simp only [Program.then_ok, logNotFound, Program.follows_bind]
        exact log_follows ⟨rfl, Or.inr ⟨by simp, Or.inr rfl⟩⟩
    | some message =>
        simp only [Program.then_ok, advance, CallbackStage.found]
        cases known : callback.status with
        | inherited property => exact ignored message
        | status status =>
            simp only
            cases allowed : allowedPreviousStatusesFor status with
            | none => exact ignored message
            | some allowedPreviousStatuses => exact updateFound_follows known allowed

end DeliveryStatusService

abbrev Callbacks :=
  Pool Op Op.Reply Failure DeliveryStatusCallback DeliveryStatusOutcome World

def update? (entry : Entry Op Op.Reply Failure) : Option ApplyDeliveryStatusParams :=
  match entry.op with
  | .update (.applyDeliveryStatus params) => some params
  | _ => none

def updates (history : List (Entry Op Op.Reply Failure)) : List ApplyDeliveryStatusParams :=
  history.filterMap update?

namespace Callbacks

def receive (world : World) (received : List DeliveryStatusCallback) : Callbacks where
  world := world
  processes := received.map fun callback => ⟨callback, DeliveryStatusService.apply callback⟩
  history := []

structure Event where
  pid : Nat
  hint : Hint

def step (callbacks : Callbacks) (event : Event) : Option Callbacks :=
  callbacks.resume (fun world op hint => world.perform hint op) event.pid event.hint

def result (callbacks : Callbacks) (pid : Nat) : Option (Except Failure DeliveryStatusOutcome) :=
  callbacks.processes[pid]?.bind fun process => process.program.result

def finished (callbacks : Callbacks) : Bool :=
  callbacks.processes.all fun process => process.program.result.isSome

def tookEffect (pid : Nat) (entry : Entry Op Op.Reply Failure) : Bool :=
  entry.pid = pid && (update? entry).isSome && entry.effective

/-- What the callbacks `received` make of `row`, as far as the executed updates have it. -/
structure Outcome (row : SmsMessage) (received : List DeliveryStatusCallback)
    (executed : List ApplyDeliveryStatusParams) (final : SmsMessage) : Prop where
  closed : row.status = .delivered ∨ row.status = .fatalFailure → final = row
  delivered : row.status ≠ .delivered → row.status ≠ .fatalFailure →
    (∃ callback ∈ received, callback.status = .status .delivered) →
    ∃ callback ∈ received, ∃ params eventAt,
      executed.find? (·.status = .delivered) = some params ∧
      Stage.DeliveryParams callback row.id params ∧ params.deliveredAt = some (some eventAt) ∧
      final.status = .delivered ∧ final.deliveredAt = some eventAt ∧ final.failedAt = none ∧
      final.lastError = none
  failed : isDeliveryFailureStatus row.status = true →
    (∀ callback ∈ received, callback.status ≠ .status .delivered) → final = row
  failure : row.status.isOpen = true ∨ row.status = .sent →
    (∀ callback ∈ received, callback.status ≠ .status .delivered) →
    (∃ callback ∈ received, ∃ status, callback.status = .status status ∧
      isDeliveryFailureStatus status = true) →
    ∃ callback ∈ received, ∃ params eventAt,
      executed.find? (isDeliveryFailureStatus ·.status) = some params ∧
      Stage.DeliveryParams callback row.id params ∧ params.failedAt = some (some eventAt) ∧
      final.status = params.status ∧ final.failedAt = some eventAt ∧
      final.lastError = params.lastError
  sent : (∀ callback ∈ received, callback.status = .status .sent) →
    (row.status.isOpen = true → received ≠ [] → final.status = .sent) ∧
      (row.status = .sent → final = row)

structure Effect (row after : SmsMessage) (entry : Entry Op Op.Reply Failure) : Prop where
  effective : entry.effective = true ↔ after.status ≠ row.status
  unchanged : entry.effective = false → after = row
  sentAt : after.sentAt ≠ row.sentAt → row.sentAt = none ∧ entry.effective = true ∧
    ∃ params, update? entry = some params ∧ params.status = .sent ∧
      after.sentAt = params.sentAtWhenMissing

variable {world : World} {row : SmsMessage} {provider providerMessageId : String}
  {received : List DeliveryStatusCallback} {callbacks following : Callbacks}
  {stages : List CallbackStage}

/-- The only row with the external id is what the executed updates made of the first one, and the
handlers of this row are as far as the history tells. -/
structure Handled (row : SmsMessage) (provider providerMessageId : String)
    (received : List DeliveryStatusCallback) (callbacks : Callbacks)
    (stages : List CallbackStage) : Prop where
  tracked : Pool.Tracked CallbackStage.protocol CallbackStage.Settles stages callbacks
  owners : stages.map CallbackStage.callback = received
  present : callbacks.world.messages.findByProviderMessageId provider providerMessageId =
    [row.afterUpdates (updates callbacks.history)]
  resolved : ∀ stage ∈ stages, stage.progress ≠ .ignored ∧
    ∀ id, stage.progress = .resolved id ∨ stage.progress = .affected id ∨
      stage.progress = .skipped id → id = row.id
  executed : ∀ (pid : Nat) (stage : CallbackStage), stages[pid]? = some stage →
    (∃ id, stage.progress = .affected id ∨ stage.progress = .skipped id) →
    ∃ entry ∈ callbacks.history, entry.pid = pid ∧ ∃ params, update? entry = some params ∧
      Stage.DeliveryParams stage.callback row.id params
  recorded : ∀ entry ∈ callbacks.history, ∀ params, update? entry = some params →
    ∃ stage, stages[entry.pid]? = some stage ∧ Stage.DeliveryParams stage.callback row.id params ∧
      stage.progress = if entry.effective then .affected row.id else .skipped row.id

theorem updates_append (history : List (Entry Op Op.Reply Failure))
    (entry : Entry Op Op.Reply Failure) :
    updates (history ++ [entry]) = updates history ++ (update? entry).toList := by
  rw [updates, List.filterMap_append]
  cases executed : update? entry <;> simp [updates, executed]

theorem Handled.owner (handled : Handled row provider providerMessageId received callbacks stages)
    {pid : Nat} {stage : CallbackStage} (found : stages[pid]? = some stage) :
    received[pid]? = some stage.callback := by
  simp [← handled.owners, found]

theorem Handled.findById
    (handled : Handled row provider providerMessageId received callbacks stages) :
    callbacks.world.messages.findById row.id =
      some (row.afterUpdates (updates callbacks.history)) := by
  have member : row.afterUpdates (updates callbacks.history) ∈
      callbacks.world.messages.findByProviderMessageId provider providerMessageId := by
    rw [handled.present]
    exact List.mem_singleton.mpr rfl
  have found := (Table.findByProviderMessageId_mem member).1
  rwa [SmsMessage.afterUpdates_id] at found

section Reports

variable (reports : ∀ callback ∈ received, callback.Reports provider providerMessageId)
include reports

theorem Handled.reported
    (handled : Handled row provider providerMessageId received callbacks stages) {pid : Nat}
    {stage : CallbackStage} (found : stages[pid]? = some stage) :
    stage.callback.Reports provider providerMessageId :=
  reports _ (List.mem_of_getElem? (handled.owner found))

theorem Handled.issued (handled : Handled row provider providerMessageId received callbacks stages) :
    ∀ params ∈ updates callbacks.history, DeliveryUpdate row.id params := by
  intro params member
  obtain ⟨entry, present, executed⟩ := List.mem_filterMap.mp member
  obtain ⟨stage, found, issued, _⟩ := handled.recorded entry present params executed
  exact (handled.reported reports found).wellFormed.update issued

end Reports

theorem found_reports {callback : DeliveryStatusCallback} {id : MessageId}
    (reports : callback.Reports provider providerMessageId) :
    CallbackStage.found callback id = .resolved id := by
  obtain ⟨status, mapped, known⟩ := reports.status
  simp only [CallbackStage.found, mapped]
  have applicable : (allowedPreviousStatusesFor status).isSome = true := by
    cases status <;> simp [isDeliveryFailureStatus, deliveryFailureStatuses] at known <;> rfl
  rw [if_pos applicable]

section Step

variable {pid : Nat} {stage : CallbackStage} {entry : Entry Op Op.Reply Failure}

theorem Handled.quiet (handled : Handled row provider providerMessageId received callbacks stages)
    (found : stages[pid]? = some stage)
    (messages : following.world.messages = callbacks.world.messages)
    (history : following.history = callbacks.history ++ [entry]) (noUpdate : update? entry = none)
    {progress : Progress}
    (advanced : progress = stage.progress ∨
      stage.progress = .receiving ∧ progress = .resolved row.id)
    (tracked : Pool.Tracked CallbackStage.protocol CallbackStage.Settles
      (stages.set pid { stage with progress := progress }) following) :
    Handled row provider providerMessageId received following
      (stages.set pid { stage with progress := progress }) where
  tracked := tracked
  owners := by
    rw [map_set_same CallbackStage.callback found]
    · exact handled.owners
    · rfl
  present := by
    rw [messages, history, updates_append, noUpdate]
    simpa using handled.present
  resolved := by
    intro other member
    rcases List.mem_or_eq_of_mem_set member with earlier | rfl
    · exact handled.resolved other earlier
    · rcases advanced with rfl | ⟨_, rfl⟩
      · exact handled.resolved stage (List.mem_of_getElem? found)
      · simp
  executed := by
    intro other stage' present ended
    have earlier : ∃ before, stages[other]? = some before ∧ before.callback = stage'.callback ∧
        ∃ id, before.progress = .affected id ∨ before.progress = .skipped id := by
      rcases getElem?_set_cases present with ⟨rfl, rfl⟩ | ⟨_, before⟩
      · rcases advanced with rfl | ⟨_, rfl⟩
        · exact ⟨stage, found, rfl, ended⟩
        · simp at ended
      · exact ⟨stage', before, rfl, ended⟩
    obtain ⟨before, present, same, ended⟩ := earlier
    obtain ⟨entry', member, byPid, params, executed, issued⟩ :=
      handled.executed other before present ended
    exact ⟨entry', by rw [history]; exact List.mem_append_left _ member, byPid, params, executed,
      same ▸ issued⟩
  recorded := by
    intro entry' member params executed
    rw [history] at member
    rcases List.mem_append.mp member with earlier | new
    · obtain ⟨before, present, issued, progress'⟩ := handled.recorded entry' earlier params executed
      by_cases same : entry'.pid = pid
      · rw [same, found, Option.some.injEq] at present
        subst present
        rcases advanced with rfl | ⟨receiving, _⟩
        · refine ⟨stage, ?_, issued, progress'⟩
          rw [same, List.getElem?_set_self (List.getElem?_eq_some_iff.mp found).1]
        · rw [receiving] at progress'
          split at progress' <;> simp at progress'
      · exact ⟨before, by rw [List.getElem?_set_ne (Ne.symm same)]; exact present, issued, progress'⟩
    · simp only [List.mem_singleton] at new
      subst new
      simp [noUpdate] at executed

theorem Handled.update (handled : Handled row provider providerMessageId received callbacks stages)
    {params : ApplyDeliveryStatusParams} (found : stages[pid]? = some stage)
    (resolved : stage.progress = .resolved row.id)
    (issued : Stage.DeliveryParams stage.callback row.id params)
    (messages : following.world.messages =
      callbacks.world.messages.update (.applyDeliveryStatus params))
    (history : following.history = callbacks.history ++ [entry])
    (executed : update? entry = some params) (byPid : entry.pid = pid)
    (tracked : Pool.Tracked CallbackStage.protocol CallbackStage.Settles
      (stages.set pid { stage with
        progress := if entry.effective then .affected row.id else .skipped row.id }) following) :
    Handled row provider providerMessageId received following
      (stages.set pid { stage with
        progress := if entry.effective then .affected row.id else .skipped row.id }) where
  tracked := tracked
  owners := by
    rw [map_set_same CallbackStage.callback found]
    · exact handled.owners
    · rfl
  present := by
    rw [messages, Table.findByProviderMessageId_update, handled.present, history, updates_append,
      executed]
    simp [SmsMessage.afterUpdates_concat]
  resolved := by
    intro other member
    rcases List.mem_or_eq_of_mem_set member with earlier | rfl
    · exact handled.resolved other earlier
    · cases entry.effective <;> simp
  executed := by
    intro other stage' present ended
    rcases getElem?_set_cases present with ⟨rfl, rfl⟩ | ⟨_, before⟩
    · exact ⟨entry, by simp [history], byPid, params, executed, issued⟩
    · obtain ⟨entry', member, same⟩ := handled.executed other stage' before ended
      exact ⟨entry', by simp [history, member], same⟩
  recorded := by
    intro entry' member params' executed'
    rw [history] at member
    have below := (List.getElem?_eq_some_iff.mp found).1
    rcases List.mem_append.mp member with earlier | new
    · obtain ⟨before, present, issued', progress⟩ :=
        handled.recorded entry' earlier params' executed'
      have different : entry'.pid ≠ pid := by
        intro same
        rw [same, found, Option.some.injEq] at present
        rw [← present, resolved] at progress
        split at progress <;> simp at progress
      exact ⟨before, by rw [List.getElem?_set_ne (Ne.symm different)]; exact present, issued',
        progress⟩
    · simp only [List.mem_singleton] at new
      subst new
      rw [executed, Option.some.injEq] at executed'
      subst executed'
      refine ⟨{ stage with
        progress := if entry'.effective then .affected row.id else .skipped row.id }, ?_, issued,
        rfl⟩
      rw [byPid, List.getElem?_set_self below]

theorem Handled.step (handled : Handled row provider providerMessageId received callbacks stages)
    (reports : ∀ callback ∈ received, callback.Reports provider providerMessageId) {event : Event}
    (stepped : callbacks.step event = some following) :
    ∃ stages' entry, Handled row provider providerMessageId received following stages' ∧
      following.history = callbacks.history ++ [entry] ∧
      (update? entry = none ∧ entry.effective = false ∨
        ∃ params, update? entry = some params ∧ DeliveryUpdate row.id params ∧
          entry.effective = (Update.applyDeliveryStatus params).guard
            (row.afterUpdates (updates callbacks.history)).status) := by
  have possible : ∀ (world : World) (op : Op) (hint : Hint) (outcome : World.Outcome op),
      world.perform hint op = some outcome → CallbackStage.Replies op outcome.reply := by
    intro world op hint outcome performed
    refine ⟨World.perform_replies performed, ?_⟩
    intro message rejected
    have executed : world.exec op (.answered hint) = some outcome := performed
    have answered := World.exec_rejection executed rejected
    simp [Choice.isAnswered] at answered
  obtain ⟨stage, op, outcome, found, _, allowed, performed, world, history, _, tracked⟩ :=
    handled.tracked.resume possible stepped
  have member := List.mem_of_getElem? found
  have reported := handled.reported reports found
  cases op with
  | findByProviderMessageId askedProvider askedId =>
      obtain ⟨receiving, rfl, rfl⟩ := allowed
      simp only [World.perform, reported.provider, reported.providerMessageId,
        handled.present] at performed
      obtain ⟨chosen, picked, rfl⟩ := Option.map_eq_some_iff.mp performed
      have same := List.mem_singleton.mp (List.mem_of_getElem? picked)
      subst same
      have advanced : stage.advance (.findByProviderMessageId stage.callback.provider
          stage.callback.providerMessageId)
          (.ok (some (row.afterUpdates (updates callbacks.history)))) = .resolved row.id := by
        simp [CallbackStage.advance, found_reports reported]
      exact ⟨_, _, handled.quiet found (by rw [world]) history rfl (Or.inr ⟨receiving, advanced⟩)
        tracked, history, Or.inl ⟨rfl, rfl⟩⟩
  | update statement =>
      obtain ⟨id, params, resolved, rfl, issued⟩ := allowed
      have same := (handled.resolved stage member).2 id (Or.inl resolved)
      subst same
      have update := reported.wellFormed.update issued
      simp only [World.perform, Option.some.injEq] at performed
      subst performed
      have affected : callbacks.world.messages.affected (.applyDeliveryStatus params) =
          (Update.applyDeliveryStatus params).guard
            (row.afterUpdates (updates callbacks.history)).status := by
        simp [Table.affected, Update.messageId, update.messageId, handled.findById]
      have advanced : stage.advance (.update (.applyDeliveryStatus params))
          (.ok (callbacks.world.messages.affected (.applyDeliveryStatus params))) =
          if callbacks.world.messages.affected (.applyDeliveryStatus params) then
            .affected row.id else .skipped row.id := by
        cases callbacks.world.messages.affected (.applyDeliveryStatus params) <;>
          simp [CallbackStage.advance, Update.messageId, update.messageId]
      simp only [advanced] at tracked
      exact ⟨_, _, handled.update found resolved issued (by rw [world]) history rfl rfl tracked,
        history, Or.inr ⟨params, rfl, update, affected⟩⟩
  | findById | newDate | log =>
      simp only [World.perform, Option.some.injEq] at performed
      subst performed
      exact ⟨_, _, handled.quiet found (by rw [world]) history rfl (Or.inl rfl) tracked, history,
        Or.inl ⟨rfl, rfl⟩⟩
  | _ => exact allowed.elim

end Step

theorem receive_handled
    (found : world.messages.findByProviderMessageId provider providerMessageId = [row]) :
    Handled row provider providerMessageId received (receive world received)
      (received.map fun callback => ⟨callback, .receiving⟩) where
  tracked := by
    constructor
    · simp [receive]
    · intro pid stage process staged present
      simp only [receive, List.getElem?_map, Option.map_eq_some_iff] at staged present
      obtain ⟨callback, at_pid, rfl⟩ := staged
      obtain ⟨other, same, rfl⟩ := present
      rw [at_pid, Option.some.injEq] at same
      exact same ▸ DeliveryStatusService.apply_follows
  owners := by simp [Function.comp_def]
  present := found
  resolved := by simp
  executed := by
    intro pid stage staged ended
    simp only [List.getElem?_map, Option.map_eq_some_iff] at staged
    obtain ⟨callback, _, rfl⟩ := staged
    simp at ended
  recorded := by simp [receive]

section Runs

variable (handled : Handled row provider providerMessageId received callbacks stages)
include handled

theorem Handled.source {params : ApplyDeliveryStatusParams}
    (member : params ∈ updates callbacks.history) :
    ∃ callback ∈ received, Stage.DeliveryParams callback row.id params := by
  obtain ⟨entry, present, executed⟩ := List.mem_filterMap.mp member
  obtain ⟨stage, found, issued, _⟩ := handled.recorded entry present params executed
  exact ⟨stage.callback, List.mem_of_getElem? (handled.owner found), issued⟩

theorem Handled.complete (finished : callbacks.finished = true)
    {callback : DeliveryStatusCallback} (member : callback ∈ received) :
    ∃ params ∈ updates callbacks.history, Stage.DeliveryParams callback row.id params := by
  rw [← handled.owners] at member
  obtain ⟨stage, staged, rfl⟩ := List.mem_map.mp member
  obtain ⟨pid, found⟩ := List.mem_iff_getElem?.mp staged
  obtain ⟨process, present, _⟩ := handled.tracked.process found
  have settled := List.all_eq_true.mp finished process (List.mem_of_getElem? present)
  obtain ⟨result, settled⟩ := Option.isSome_iff_exists.mp settled
  obtain ⟨stage', found', settles⟩ := handled.tracked.result present settled
  rw [found, Option.some.injEq] at found'
  subst found'
  have ended : ∃ id, stage.progress = .affected id ∨ stage.progress = .skipped id := by
    cases result with
    | error error => exact settles.elim
    | ok outcome =>
        rcases settles.2 with ⟨_, id, affected⟩ | ⟨_, ⟨id, skipped⟩ | ignored⟩
        · exact ⟨id, Or.inl affected⟩
        · exact ⟨id, Or.inr skipped⟩
        · exact absurd ignored (handled.resolved stage staged).1
  obtain ⟨entry, recorded, _, params, executed, issued⟩ := handled.executed pid stage found ended
  exact ⟨params, List.mem_filterMap.mpr ⟨entry, recorded, executed⟩, issued⟩

theorem Handled.updated {pid : Nat} {result : Except Failure DeliveryStatusOutcome}
    (settled : callbacks.result pid = some result) :
    ∃ outcome, result = .ok outcome ∧
      (outcome = .updated ↔ ∃ entry ∈ callbacks.history, tookEffect pid entry = true) := by
  obtain ⟨process, present, settled⟩ := Option.bind_eq_some_iff.mp settled
  obtain ⟨stage, found, settles⟩ := handled.tracked.result present settled
  cases result with
  | error error => exact settles.elim
  | ok outcome =>
      refine ⟨outcome, rfl, ?_⟩
      constructor
      · rintro rfl
        have affected : ∃ id, stage.progress = .affected id := by
          rcases settles.2 with ⟨_, affected⟩ | ⟨other, _⟩
          · exact affected
          · exact absurd rfl other
        obtain ⟨id, affected⟩ := affected
        obtain ⟨entry, recorded, byPid, params, executed, _⟩ :=
          handled.executed pid stage found ⟨id, Or.inl affected⟩
        obtain ⟨stage', found', _, progress⟩ := handled.recorded entry recorded params executed
        rw [byPid, found, Option.some.injEq] at found'
        subst found'
        refine ⟨entry, recorded, ?_⟩
        rw [affected] at progress
        cases effective : entry.effective with
        | true => simp [tookEffect, byPid, executed, effective]
        | false => simp [effective] at progress
      · rintro ⟨entry, recorded, took⟩
        simp only [tookEffect, Bool.and_eq_true, decide_eq_true_eq] at took
        obtain ⟨⟨byPid, isUpdate⟩, effective⟩ := took
        obtain ⟨params, executed⟩ := Option.isSome_iff_exists.mp isUpdate
        obtain ⟨stage', found', _, progress⟩ := handled.recorded entry recorded params executed
        rw [byPid, found, Option.some.injEq] at found'
        subst found'
        rw [if_pos effective] at progress
        rcases settles.2 with ⟨updated, _⟩ | ⟨_, ⟨id, skipped⟩ | ignored⟩
        · exact updated
        · simp [progress] at skipped
        · simp [progress] at ignored

end Runs

theorem params_status {callback : DeliveryStatusCallback} {id : MessageId}
    {params : ApplyDeliveryStatusParams} (issued : Stage.DeliveryParams callback id params) :
    callback.status = .status params.status := by
  obtain ⟨status, allowedPreviousStatuses, eventAt, mapped, _, _, rfl⟩ := issued
  rw [mapped]
  simp only [DeliveryStatusService.updateParams, DeliveryStatusService.buildTimestamps]
  split
  · rfl
  · split <;> rfl

theorem Handled.outcome (handled : Handled row provider providerMessageId received callbacks stages)
    (reports : ∀ callback ∈ received, callback.Reports provider providerMessageId)
    (finished : callbacks.finished = true) :
    Outcome row received (updates callbacks.history)
      (row.afterUpdates (updates callbacks.history)) := by
  have issued := handled.issued reports
  -- the first update with a property of its status, when some callback has that property
  have first : ∀ (p : SmsStatus → Bool) (callback : DeliveryStatusCallback) (status : SmsStatus),
      callback ∈ received → callback.status = .status status → p status = true →
      ∃ params, (updates callbacks.history).find? (p ·.status) = some params ∧
        ∃ callback ∈ received, Stage.DeliveryParams callback row.id params := by
    intro p callback status member mapped holds
    obtain ⟨params, executed, source⟩ := handled.complete finished member
    have same : status = params.status := by simpa [mapped] using params_status source
    have matching : ((updates callbacks.history).find? (p ·.status)).isSome = true :=
      List.find?_isSome.mpr ⟨params, executed, same ▸ holds⟩
    obtain ⟨params, found⟩ := Option.isSome_iff_exists.mp matching
    exact ⟨params, found, handled.source (List.mem_of_find?_eq_some found)⟩
  have undelivered : (∀ callback ∈ received, callback.status ≠ .status .delivered) →
      ∀ params ∈ updates callbacks.history, params.status ≠ .delivered := by
    intro none params executed same
    obtain ⟨callback, member, source⟩ := handled.source executed
    exact none callback member (by rw [params_status source, same])
  constructor
  · exact SmsMessage.afterUpdates_closed issued
  · rintro notDelivered notFatal ⟨callback, member, mapped⟩
    obtain ⟨params, found, source, present, execution⟩ :=
      first (decide <| · = .delivered) callback .delivered member mapped rfl
    obtain ⟨eventAt, date, final⟩ :=
      SmsMessage.afterUpdates_delivered issued notDelivered notFatal found
    exact ⟨source, present, params, eventAt, found, execution, date, final⟩
  · intro failed none
    exact SmsMessage.afterUpdates_failed issued failed (undelivered none)
  · rintro unsettled none ⟨callback, member, status, mapped, failed⟩
    obtain ⟨params, found, source, present, execution⟩ :=
      first isDeliveryFailureStatus callback status member mapped failed
    obtain ⟨eventAt, date, final⟩ :=
      SmsMessage.afterUpdates_failure issued unsettled (undelivered none) found
    exact ⟨source, present, params, eventAt, found, execution, date, final⟩
  · intro all
    have onlySent : ∀ params ∈ updates callbacks.history, params.status = .sent := by
      intro params executed
      obtain ⟨callback, member, source⟩ := handled.source executed
      have mapped := all callback member
      rw [params_status source] at mapped
      simpa using mapped
    obtain ⟨opened, already⟩ := SmsMessage.afterUpdates_sent issued onlySent
    refine ⟨?_, already⟩
    intro status nonempty
    obtain ⟨callback, member⟩ := List.exists_mem_of_ne_nil received nonempty
    obtain ⟨params, executed, _⟩ := handled.complete finished member
    exact opened status (List.ne_nil_of_mem executed)

theorem Handled.effect (handled : Handled row provider providerMessageId received callbacks stages)
    (reports : ∀ callback ∈ received, callback.Reports provider providerMessageId) {event : Event}
    (stepped : callbacks.step event = some following) :
    ∃ entry, following.history = callbacks.history ++ [entry] ∧
      Effect (row.afterUpdates (updates callbacks.history))
        (row.afterUpdates (updates following.history)) entry := by
  obtain ⟨stages', entry, _, history, effect⟩ := handled.step reports stepped
  refine ⟨entry, history, ?_⟩
  rw [history, updates_append]
  rcases effect with ⟨noUpdate, ineffective⟩ | ⟨params, executed, update, effective⟩
  · rw [noUpdate]
    constructor <;> simp [ineffective]
  · have update : DeliveryUpdate (row.afterUpdates (updates callbacks.history)).id params := by
      simpa using update
    rw [executed, Option.toList_some, SmsMessage.afterUpdates_concat]
    constructor
    · rw [effective]
      constructor
      · intro applied
        obtain ⟨status, changed⟩ := update.run_status applied
        rw [status]
        exact changed
      · intro changed
        by_contra skipped
        exact changed (by rw [DeliveryUpdate.run_skipped (by simpa using skipped)])
    · intro ineffective
      exact DeliveryUpdate.run_skipped (effective ▸ ineffective)
    · intro changed
      obtain ⟨missing, sent, filled⟩ := update.run_sentAt changed
      refine ⟨missing, ?_, params, executed, sent, filled⟩
      rw [effective]
      by_contra skipped
      exact changed (by rw [DeliveryUpdate.run_skipped (by simpa using skipped)])

/-- The outcome of any list of callbacks for one message, under any interleaving of their handlers.
External ids are unique per provider, so the lookup finds one row. -/
theorem callbacks_outcome
    (found : world.messages.findByProviderMessageId provider providerMessageId = [row])
    (reports : ∀ callback ∈ received, callback.Reports provider providerMessageId)
    (reaches : Reaches step (fun _ _ => True) (receive world received) callbacks) :
    ∃ final, callbacks.world.messages.findById row.id = some final ∧
      (callbacks.finished = true → Outcome row received (updates callbacks.history) final) ∧
      final.attempts = row.attempts ∧ final.selectedProvider = row.selectedProvider ∧
      final.providerMessageId = row.providerMessageId ∧
      (∀ pid result, callbacks.result pid = some result → ∃ outcome, result = .ok outcome ∧
        (outcome = .updated ↔ ∃ entry ∈ callbacks.history, tookEffect pid entry = true)) ∧
      ∀ event following, callbacks.step event = some following →
        ∃ after entry, following.world.messages.findById row.id = some after ∧
          following.history = callbacks.history ++ [entry] ∧ Effect final after entry := by
  obtain ⟨stages, handled⟩ := reaches.invariant
    (fun callbacks => ∃ stages, Handled row provider providerMessageId received callbacks stages)
    ⟨_, receive_handled found⟩ (fun _ _ _ ⟨stages, handled⟩ _ stepped => by
      obtain ⟨stages', _, handled', _⟩ := handled.step reports stepped
      exact ⟨stages', handled'⟩)
  obtain ⟨attempts, selected, external⟩ :=
    SmsMessage.afterUpdates_columns (handled.issued reports)
  refine ⟨_, handled.findById, handled.outcome reports, attempts, selected, external,
    fun _ _ => handled.updated, ?_⟩
  intro event following stepped
  obtain ⟨stages', _, handled', _⟩ := handled.step reports stepped
  obtain ⟨entry, history, effect⟩ := handled.effect reports stepped
  exact ⟨_, entry, handled'.findById, history, effect⟩

def acceptedMessage : SmsMessage :=
  (Update.markSent 0 "twilio" (some "SM") 1).set
    (queuedMessage 0 0 "key" { «to» := "+15550100", message := "hello", metadata := none })

def acceptedWorld : World :=
  { World.initial with messages := Table.empty.insert acceptedMessage (by decide) (by decide) }

def reportOf (status : SmsStatus) (error : String) : DeliveryStatusCallback where
  provider := "twilio"
  providerMessageId := "SM"
  status := .status status
  externalStatus := error
  eventAt := some 5
  lastError := buildLastError (.status status) error

theorem reportOf_reports (status : SmsStatus) (error : String)
    (known : status = .sent ∨ status = .delivered ∨ isDeliveryFailureStatus status = true) :
    (reportOf status error).Reports "twilio" "SM" :=
  ⟨rfl, rfl, ⟨status, rfl, known⟩, error, rfl⟩

/-- An undelivered report and a delivered one whose lookups both come before their updates. -/
theorem callbacks_outcome_upgrade : ∃ callbacks,
    Reaches step (fun _ _ => True)
        (receive acceptedWorld [reportOf .delivered "delivered", reportOf .undelivered "30003"])
        callbacks ∧
      callbacks.finished = true ∧ ∃ final,
        callbacks.world.messages.findById 0 = some final ∧ final.status = .delivered ∧
          final.deliveredAt = some 5 ∧ final.failedAt = none := by
  obtain ⟨callbacks, reaches, finished⟩ := execute_exists step (fun _ _ => True)
    (receive acceptedWorld [reportOf .delivered "delivered", reportOf .undelivered "30003"])
    [⟨0, {}⟩, ⟨1, {}⟩, ⟨1, {}⟩, ⟨1, {}⟩, ⟨0, {}⟩, ⟨0, {}⟩]
    (fun callbacks => callbacks.finished && updates callbacks.history ==
      [DeliveryStatusService.updateParams 0 .undelivered [.queued, .processing, .sent]
          (some "30003") 5,
        DeliveryStatusService.updateParams 0 .delivered
          [.queued, .processing, .sent, .undelivered, .rejected, .failed] none 5])
    (by decide)
  simp only [Bool.and_eq_true, beq_iff_eq] at finished
  obtain ⟨finished, executed⟩ := finished
  have reports : ∀ callback ∈ [reportOf .delivered "delivered", reportOf .undelivered "30003"],
      callback.Reports "twilio" "SM" := by
    intro callback member
    simp only [List.mem_cons, List.not_mem_nil, or_false] at member
    rcases member with rfl | rfl
    · exact reportOf_reports _ _ (Or.inr (Or.inl rfl))
    · exact reportOf_reports _ _ (Or.inr (Or.inr rfl))
  have found : acceptedWorld.messages.findByProviderMessageId "twilio" "SM" = [acceptedMessage] := by
    decide
  obtain ⟨final, present, outcome, _⟩ := callbacks_outcome found reports reaches
  have delivered := (outcome finished).delivered (by decide) (by decide)
    ⟨_, List.mem_cons_self, rfl⟩
  obtain ⟨_, _, params, eventAt, first, _, date, status, deliveredAt, failedAt, _⟩ := delivered
  refine ⟨callbacks, reaches, finished, final, present, status, ?_, failedAt⟩
  rw [executed] at first
  cases first
  cases date
  exact deliveredAt

end Callbacks

end SmsNotification
