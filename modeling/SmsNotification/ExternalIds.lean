import SmsNotification.CallbackTarget
import SmsNotification.Concurrency.Recording
import SmsNotification.Systems

/-!
Where external ids come from. Callbacks find a message by the id that its provider gave it; no row
ever carries an id that this provider did not return for a send of this very message.
-/

namespace SmsNotification

open Concurrency

def AcceptedAs (history : List (Entry Op Op.Reply Failure)) (id : MessageId)
    (provider externalId : String) : Prop :=
  ∃ entry ∈ history, ∃ options result,
    entry.exchange = ⟨.sendSms provider options, .ok result⟩ ∧ options.referenceId = id ∧
      result.success = true ∧ result.providerMessageId = some externalId

theorem AcceptedAs.later {history : List (Entry Op Op.Reply Failure)} {id : MessageId}
    {provider externalId : String} (accepted : AcceptedAs history id provider externalId)
    (entry : Entry Op Op.Reply Failure) :
    AcceptedAs (history ++ [entry]) id provider externalId := by
  obtain ⟨earlier, member, options, result, exchanged⟩ := accepted
  exact ⟨earlier, List.mem_append_left _ member, options, result, exchanged⟩

theorem Update.identity_source {statement : Update} {row : SmsMessage} {externalId : String}
    (external : (statement.run row).providerMessageId = some externalId) :
    (statement.run row).identity = row.identity ∨
      ∃ provider sentAt, statement = .markSent row.id provider (some externalId) sentAt ∧
        (statement.run row).identity = (some provider, some externalId) := by
  unfold Update.run at external ⊢
  split at external
  · rename_i selected
    rw [if_pos selected]
    cases statement with
    | markSent id selectedProvider providerMessageId sentAt =>
        have same : row.id = id := selected.1
        simp only [Update.set] at external
        subst same external
        exact Or.inr ⟨selectedProvider, sentAt, rfl, rfl⟩
    | markProcessing | incrementAttempts | markQueuePublishFailed | applyDeliveryStatus =>
        exact Or.inl rfl
    | markFatalFailure | transitionFatalFailureToQueued | restoreFatalFailure =>
        simp [Update.set] at external
  · rename_i other
    exact Or.inl (by rw [if_neg other])

namespace Stage

variable {caseMapping : Js.CaseMapping} {stage : Stage} {op : Op}

theorem accepted_source {reply : Except Failure op.Reply} {id : MessageId} {provider : String}
    {providerMessageId : Option String}
    (transition : Transition caseMapping stage op reply (.accepted id provider providerMessageId)) :
    stage = .accepted id provider providerMessageId ∨
      ∃ options result, (⟨op, reply⟩ : Exchange Op Op.Reply Failure) =
          ⟨.sendSms provider options, .ok result⟩ ∧
        options.referenceId = id ∧ result.success = true ∧
        result.providerMessageId = providerMessageId := by
  cases transition with
  | quiet infallible => exact Or.inl rfl
  | accepted references success => exact Or.inr ⟨_, _, rfl, references, success, rfl⟩
  | stored source => simp at source
  | unlocked allowed => simp [Allowed] at allowed

end Stage

namespace Service

variable {config : Config} {service following : Service}

def stageDiscipline (config : Config) :
    Discipline (system config (fun _ _ _ => True)
      (fun service world => world.messages = service.world.messages)) where
  protocol := Stage.protocol config.caseMapping
  start := Stage.start config.caseMapping
  settles := Stage.Settles
  conforms := program_conforms
  replies _ _ _ _ executed := World.exec_replies executed

def stageOf (config : Config) (service : Service) (pid : Nat) : Option Stage :=
  (stageDiscipline config).stage service pid

/-- The external ids that rows carry, that dispatches are about to write and that callbacks have
found are all ids that the providers gave. -/
structure Traceable (config : Config) (service : Service) : Prop where
  rows : ∀ id row externalId, service.world.messages.findById id = some row →
    row.providerMessageId = some externalId →
    ∃ provider, row.identity = (some provider, some externalId) ∧
      AcceptedAs service.history id provider externalId
  accepted : ∀ pid id provider externalId,
    stageOf config service pid = some (.accepted id provider (some externalId)) →
    AcceptedAs service.history id provider externalId
  resolved : ∀ pid claim callback id,
    stageOf config service pid = some (.resolved claim callback id) →
    AcceptedAs service.history id callback.provider callback.providerMessageId

theorem Traceable.quiet (traceable : Traceable config service)
    (messages : following.world.messages = service.world.messages)
    (history : following.history = service.history)
    (stages : ∀ pid, stageOf config following pid = stageOf config service pid ∨
      ∃ call, stageOf config following pid = some (Stage.start config.caseMapping call)) :
    Traceable config following := by
  have earlier : ∀ pid stage, stage.isInitial = false →
      stageOf config following pid = some stage → stageOf config service pid = some stage := by
    intro pid stage later staged
    rcases stages pid with same | ⟨call, starts⟩
    · rw [← same]
      exact staged
    · rw [starts, Option.some.injEq] at staged
      rw [← staged, Stage.start_isInitial] at later
      cases later
  constructor
  · rw [messages, history]
    exact traceable.rows
  · intro pid id provider externalId staged
    rw [history]
    exact traceable.accepted pid id provider externalId (earlier pid _ rfl staged)
  · intro pid claim callback id staged
    rw [history]
    exact traceable.resolved pid claim callback id (earlier pid _ rfl staged)

theorem Traceable.operation (traceable : Traceable config service) {pid : Nat} {choice : Choice}
    {stage : Stage} {op : Op} {outcome : World.Outcome op}
    (staged : stageOf config service pid = some stage) (allowed : stage.Allowed op)
    (possible : Stage.Replies op outcome.reply)
    (executed : service.world.exec op choice = some outcome)
    (world : following.world = outcome.world)
    (history : following.history =
      service.history ++ [⟨pid, op, outcome.reply, outcome.effective⟩])
    (stages : ∀ other, stageOf config following other =
      if other = pid then some (stage.next config.caseMapping op outcome.reply)
      else stageOf config service other) :
    Traceable config following := by
  have transition := Stage.transition config.caseMapping allowed possible
  have later : ∀ {id provider externalId}, AcceptedAs service.history id provider externalId →
      AcceptedAs following.history id provider externalId := by
    intro id provider externalId accepted
    rw [history]
    exact accepted.later _
  constructor
  · intro id row externalId found external
    rw [world] at found
    rcases World.exec_messages executed with same | ⟨statement, rfl, same⟩ |
      ⟨key, dto, newId, createdAt, freshId, freshKey, rfl, same⟩
    · rw [same] at found
      obtain ⟨provider, identity, accepted⟩ := traceable.rows id row externalId found external
      exact ⟨provider, identity, later accepted⟩
    · rw [same] at found
      obtain ⟨before, present, rfl⟩ := Table.findById_update_some found
      rcases Update.identity_source external with kept | ⟨provider, sentAt, rfl, identity⟩
      · have carried : before.providerMessageId = some externalId :=
          (congrArg Prod.snd kept).symm.trans external
        obtain ⟨provider, identity, accepted⟩ :=
          traceable.rows id before externalId present carried
        exact ⟨provider, kept.trans identity, later accepted⟩
      · -- the statement of a dispatch that the provider accepted
        have about : before.id = id := Table.findById_id present
        rw [about] at allowed
        have accepted : stage = .accepted id provider (some externalId) := allowed
        exact ⟨provider, identity,
          later (traceable.accepted pid id provider externalId (accepted ▸ staged))⟩
    · rw [same, Table.findById_insert] at found
      split at found
      · cases found
        simp [queuedMessage] at external
      · obtain ⟨provider, identity, accepted⟩ := traceable.rows id row externalId found external
        exact ⟨provider, identity, later accepted⟩
  · intro other id provider externalId accepts
    rw [stages] at accepts
    split at accepts
    · simp only [Option.some.injEq] at accepts
      rw [accepts] at transition
      rcases Stage.accepted_source transition with same | ⟨options, result, exchanged, named⟩
      · exact later (traceable.accepted pid id provider externalId (same ▸ staged))
      · rw [history]
        exact ⟨_, List.mem_append_right _ (List.mem_singleton_self _), options, result,
          exchanged, named⟩
    · exact later (traceable.accepted other id provider externalId accepts)
  · intro other claim callback id resolves
    rw [stages] at resolves
    split at resolves
    · simp only [Option.some.injEq] at resolves
      rw [resolves] at transition
      rcases Stage.resolved_source transition executed with same | ⟨_, row, found, identity⟩
      · exact later (traceable.resolved pid claim callback id (same ▸ staged))
      · obtain ⟨provider, identity', accepted⟩ :=
          traceable.rows id row _ found (congrArg Prod.snd identity)
        rw [identity, Prod.mk.injEq, Option.some.injEq] at identity'
        rw [identity'.1]
        exact later accepted
    · exact later (traceable.resolved other claim callback id resolves)

theorem traceable_reached {permitted : Service → Event → Prop}
    (reaches : Reaches (step config) permitted initial service) :
    (stageDiscipline config).Obeyed service ∧ Traceable config service := by
  have initially : Traceable config initial := by
    constructor
    · intro id row externalId found
      simp [initial, World.initial, Table.findById, Table.empty] at found
    · intro pid id provider externalId staged
      simp [stageOf, Discipline.stage, initial] at staged
    · intro pid claim callback id staged
      simp [stageOf, Discipline.stage, initial] at staged
  apply Discipline.invariant (stageDiscipline config) (fun service => service) (Traceable config) reaches
    (initial_obeyed _) initially
  · intro service event following _ stepped
    exact steps stepped (fun _ _ _ => trivial) fun _ disturbed => disturbed.messages
  · intro service following _ _ traceable effect
    cases effect with
    | quiet messages history stages =>
        apply traceable.quiet messages history
        intro pid
        rcases stages pid with ⟨same, _⟩ | ⟨_, call, _, starts⟩
        · exact Or.inl same
        · exact Or.inr ⟨call, starts⟩
    | operation admitted staged awaits allowed possible executed world history stages tags =>
        exact traceable.operation staged allowed possible executed world history stages

theorem serves_reached {permitted : Service → Event → Prop}
    (reaches : Reaches (step config) permitted initial service) {pid : Nat} {stage : Stage}
    (staged : stageOf config service pid = some stage) :
    ∃ call, service.tagOf pid = some call ∧ stage.Serves config.caseMapping call := by
  have obeyed := (traceable_reached reaches).1
  obtain ⟨process, found, rfl⟩ := Option.map_eq_some_iff.mp staged
  have tagged : service.tagOf pid = some process.tag := by simp [Pool.tagOf, found]
  refine ⟨process.tag, tagged, ?_⟩
  apply (obeyed.legal pid process.tag tagged).relates
    (fun stage _ => Stage.Serves config.caseMapping process.tag stage)
    (Stage.serves_start config.caseMapping process.tag)
  intro stage entries entry serves allowed possible
  exact Stage.serves_next serves (Stage.transition config.caseMapping allowed possible)

/-- In every run a row that carries an external id has a selected provider, and this provider returned
the id for a send of this very message; and a callback is only ever about to update a message that its
provider accepted under the id the callback names, even when the row has changed since. -/
theorem external_ids_traceable {permitted : Service → Event → Prop}
    (reaches : Reaches (step config) permitted initial service) :
    (∀ id row externalId, service.world.messages.findById id = some row →
      row.providerMessageId = some externalId →
      ∃ provider, row.selectedProvider = some provider ∧
        AcceptedAs service.history id provider externalId) ∧
    ∀ pid params, service.awaits pid = some (.update (.applyDeliveryStatus params)) →
      ∃ call provider externalId, service.tagOf pid = some call ∧
        call.identifier = some (provider, externalId) ∧
        AcceptedAs service.history params.messageId provider externalId := by
  obtain ⟨obeyed, traceable⟩ := traceable_reached reaches
  constructor
  · intro id row externalId found external
    obtain ⟨provider, identity, accepted⟩ := traceable.rows id row externalId found external
    exact ⟨provider, congrArg Prod.fst identity, accepted⟩
  · intro pid params awaits
    obtain ⟨stage, staged, claim, callback, id, rfl, issued⟩ := obeyed.awaits awaits
    obtain ⟨call, tagged, serves⟩ := serves_reached reaches staged
    refine ⟨call, callback.provider, callback.providerMessageId, tagged, ?_, ?_⟩
    · exact Stage.Delivers.identifier serves
    · rw [issued.messageId]
      exact traceable.resolved pid claim callback id staged

/-- Twilio accepts a message and reports on it; the callback is about to update the row. -/
theorem external_id_traceable : ∃ (service : Service) (params : ApplyDeliveryStatusParams),
    service.awaits 2 = some (.update (.applyDeliveryStatus params)) ∧
    AcceptedAs service.history params.messageId "twilio" "SM1" := by
  obtain ⟨service, reaches, found⟩ := execute_exists (step (.defaults ["twilio"]))
    (fun _ _ => True) initial
    ([Event.sends "key"] ++ Event.answers 0 8 ++ [.execute 0] ++ Event.answers 1 4 ++
      [Event.accepts 1 "SM1"] ++ Event.answers 1 2 ++ [Event.reports "SM1" "delivered"] ++
      Event.answers 2 3)
    (fun service => service.awaits 2 = some (.update (.applyDeliveryStatus {
        messageId := 0
        status := .delivered
        allowedPreviousStatuses := [.queued, .processing, .sent, .undelivered, .rejected, .failed]
        lastError := none
        deliveredAt := some (some 0)
        failedAt := some none })) &&
      service.tagOf 2 = some (.twilio
        { messageSid := "SM1", messageStatus := "delivered", errorCode := none }))
    (by decide)
  simp only [Bool.and_eq_true, decide_eq_true_eq] at found
  obtain ⟨call, provider, externalId, tagged, named, accepted⟩ :=
    (external_ids_traceable reaches).2 2 _ found.1
  rw [found.2] at tagged
  cases tagged
  cases named
  exact ⟨service, _, found.1, accepted⟩

end Service

end SmsNotification
