import SmsNotification.AttemptsCount

/-!
What becomes of a message whose request was told that no job was published for it. The request
records the failure whatever the row has become, so it must not be claimed in the meantime: until a
dispatch claims it nothing is sent for the message, and after that nobody may still record the
failure.
-/

namespace SmsNotification

open Concurrency

theorem buildTwilioLastError_ne (caseMapping : Js.CaseMapping) (callback : TwilioStatusCallback) :
    buildTwilioLastError caseMapping callback ≠ queuePublishFailedError := by
  intro same
  have texts := congrArg String.toList same
  unfold buildTwilioLastError at texts
  split at texts <;> simp [queuePublishFailedError] at texts

theorem buildBirdLastError_ne (caseMapping : Js.CaseMapping) (event : BirdDeliveryEvent) :
    buildBirdLastError caseMapping event ≠ queuePublishFailedError := by
  intro same
  have texts := congrArg String.toList same
  unfold buildBirdLastError at texts
  split at texts <;> simp [queuePublishFailedError] at texts

theorem buildLastError_ne {status : MappedStatus} {error : String}
    (other : error ≠ queuePublishFailedError) :
    buildLastError status error ≠ some queuePublishFailedError := by
  unfold buildLastError
  split
  · simp
  · simpa using other

def isCompensating {α : Type} (id : MessageId) (program : Action α) : Bool :=
  match upcoming program with
  | some (.update (.markQueuePublishFailed other _)) => other = id
  | _ => false

def SmsMessage.isRefused (row : SmsMessage) : Bool :=
  row.status = .failed && row.lastError = some queuePublishFailedError

theorem SmsMessage.refused_run {row : SmsMessage} {statement : Update}
    (refused : (statement.run row).isRefused = true) :
    row.isRefused = true ∨ statement.messageId = row.id ∧
      ((∃ failedAt, statement = .markQueuePublishFailed row.id failedAt) ∨
        ∃ params, statement = .applyDeliveryStatus params ∧
          params.lastError = some queuePublishFailedError) := by
  unfold Update.run at refused
  split at refused
  · rename_i selected
    cases statement <;> simp_all [isRefused, Update.set, Update.messageId]
  · exact Or.inl refused

namespace Stage

variable {caseMapping : Js.CaseMapping} {stage stage' : Stage} {op : Op} {id : MessageId}

theorem Delivers.lastError_ne {call : Call} {callback : DeliveryStatusCallback}
    {claim : Option String} (delivers : Delivers caseMapping call callback claim) :
    callback.lastError ≠ some queuePublishFailedError := by
  cases claim with
  | none =>
      obtain ⟨received, status, _, _, rfl⟩ := delivers
      exact buildLastError_ne (buildTwilioLastError_ne caseMapping received)
  | some webhookId =>
      obtain ⟨event, status, _, _, rfl⟩ := delivers
      exact buildLastError_ne (buildBirdLastError_ne caseMapping event)

def isCreating (id : MessageId) : Stage → Bool
  | creator _ other => other = id
  | unpublished _ other => other = id
  | _ => false

def isPublisher (id : MessageId) : Stage → Bool
  | creator _ other => other = id
  | _ => false

def isBeyond (id : MessageId) : Stage → Bool
  | sending other => other = id
  | counted other => other = id
  | throttled other => other = id
  | accepted other _ _ => other = id
  | dead other => other = id
  | eligible snapshot => snapshot.id = id
  | reopened snapshot => snapshot.id = id
  | restoring snapshot _ => snapshot.id = id
  | resolved _ _ other => other = id
  | _ => false

theorem initial_creating (stage : Stage) (initial : stage.isInitial = true) :
    stage.isCreating id = false := by
  cases stage <;> simp_all [isInitial, isCreating]

theorem initial_publisher (stage : Stage) (initial : stage.isInitial = true) :
    stage.isPublisher id = false := by
  cases stage <;> simp_all [isInitial, isPublisher]

theorem initial_beyond (stage : Stage) (initial : stage.isInitial = true) :
    stage.isBeyond id = false := by
  cases stage <;> simp_all [isInitial, isBeyond]

theorem publisher_creating (publisher : stage.isPublisher id = true) :
    stage.isCreating id = true := by
  cases stage <;> simp_all [isPublisher, isCreating]

theorem creating_next {world : World} {choice : Choice} {outcome : World.Outcome op}
    (transition : Transition caseMapping stage op outcome.reply stage')
    (executed : world.exec op choice = some outcome) (creating : stage'.isCreating id = true) :
    stage.isCreating id = true ∨ world.messages.findById id = none ∧
      ∃ row, outcome.world.messages.findById id = some row := by
  generalize answer : outcome.reply = reply at transition
  cases transition with
  | quiet | stored | unlocked => exact Or.inl creating
  | notPublished => exact Or.inl creating
  | created =>
      right
      obtain rfl := of_decide_eq_true creating
      rcases World.exec_createQueuedMessage executed with
        ⟨_, _, _, rejected⟩ | ⟨fresh, createdAt, newId, newKey, same, _, ⟨_, reply⟩ | ⟨_, _, reply⟩⟩
      · simp [rejected] at answer
      · rw [answer, Except.ok.injEq] at reply
        rw [reply, same]
        exact ⟨Table.findById_eq_none.mpr newId, _, Table.findById_inserted newId newKey⟩
      · simp [reply] at answer
  | _ => simp [isCreating] at creating

theorem publisher_next {world : World} {choice : Choice} {outcome : World.Outcome op}
    (transition : Transition caseMapping stage op outcome.reply stage')
    (executed : world.exec op choice = some outcome) (publisher : stage'.isPublisher id = true) :
    (stage.isPublisher id = true ∧ op.job? = none) ∨ world.messages.findById id = none := by
  rcases creating_next transition executed (publisher_creating publisher) with
    creating | ⟨absent, _⟩
  · left
    generalize outcome.reply = reply at transition
    cases transition with
    | quiet infallible =>
        refine ⟨publisher, ?_⟩
        cases op <;> simp [Op.fallible] at infallible <;> rfl
    | stored | unlocked => exact ⟨publisher, rfl⟩
    | created => simp [isCreating] at creating
    | _ => simp [isPublisher] at publisher
  · exact Or.inr absent

theorem beyond_next {world : World} {choice : Choice} {outcome : World.Outcome op}
    (transition : Transition caseMapping stage op outcome.reply stage')
    (executed : world.exec op choice = some outcome) (beyond : stage'.isBeyond id = true) :
    stage.isBeyond id = true ∨
      (op = .update (.markProcessing id) ∧ outcome.effective = true) ∨
      ∃ row, world.messages.findById id = some row ∧
        (row.status = .fatalFailure ∨ row.providerMessageId.isSome = true) := by
  generalize answer : outcome.reply = reply at transition
  cases transition with
  | quiet | stored | unlocked => exact Or.inl beyond
  | @eligible other row same fatal =>
      obtain rfl := of_decide_eq_true beyond
      have found := World.exec_findById executed answer
      exact Or.inr (Or.inr ⟨row, same ▸ found, Or.inl fatal⟩)
  | @claimed other =>
      obtain rfl : other = id := of_decide_eq_true beyond
      refine Or.inr (Or.inl ⟨rfl, ?_⟩)
      rcases World.exec_update executed with
        ⟨_, _, _, _, rejected⟩ | ⟨_, effective, ⟨_, reply⟩ | ⟨_, _, reply⟩⟩
      · simp [rejected] at answer
      · rw [answer, Except.ok.injEq] at reply
        rw [effective, ← reply]
      · simp [reply] at answer
  | found =>
      obtain rfl := of_decide_eq_true beyond
      obtain ⟨found, _, external⟩ := World.exec_findByProviderMessageId executed answer
      exact Or.inr (Or.inr ⟨_, found, Or.inr (by simp [external])⟩)
  | reopened | notRequeued | counted | throttled | fatal =>
      left
      simp_all [isBeyond]
  | accepted same | notAccepted same =>
      left
      simp_all [isBeyond]
  | _ => simp [isBeyond] at beyond

theorem AllowedUpdate.unclaimed {statement : Update} (allowed : stage.AllowedUpdate statement)
    (before : stage.isBeyond statement.messageId = false) :
    (∃ id, statement = .markProcessing id ∧ stage = .loaded id) ∨
      ∃ id failedAt key, statement = .markQueuePublishFailed id failedAt ∧
        stage = .unpublished key id := by
  cases statement with
  | markProcessing id => exact Or.inl ⟨id, rfl, allowed⟩
  | markQueuePublishFailed id failedAt =>
      obtain ⟨key, rfl⟩ := allowed
      exact Or.inr ⟨id, failedAt, key, rfl, rfl⟩
  | applyDeliveryStatus params =>
      obtain ⟨claim, callback, id, rfl, issued⟩ := allowed
      simp [isBeyond, Update.messageId, issued.messageId] at before
  | transitionFatalFailureToQueued id =>
      obtain ⟨snapshot, rfl, rfl⟩ := allowed
      simp [isBeyond, Update.messageId] at before
  | restoreFatalFailure id provider lastError failedAt =>
      obtain ⟨snapshot, enqueueError, rfl, rfl, _⟩ := allowed
      simp [isBeyond, Update.messageId] at before
  | _ =>
      cases allowed
      simp [isBeyond, Update.messageId] at before

theorem unpublished_isCompensating {key : String} {request : Call} {program : Action Answer}
    (follows : program.Follows (protocol caseMapping) (Settles request) (.unpublished key id)) :
    isCompensating id program = true := by
  obtain ⟨op, next, allowed, fallible⟩ := upcoming_allowed follows (by
    intro result settles
    cases request <;> cases result <;> simp [Settles] at settles)
  cases op with
  | update statement =>
      cases statement with
      | markQueuePublishFailed other failedAt =>
          obtain ⟨_, same⟩ := allowed
          cases same
          simp [isCompensating, next]
      | _ => simp [Allowed, AllowedUpdate] at allowed
  | newDate | sleep | log => simp [Op.fallible] at fallible
  | _ => simp [Allowed] at allowed

theorem sends_beyond (allowed : stage.Allowed op) (sends : op.isSendOf id = true) :
    stage.isBeyond id = true := by
  cases op with
  | sendSms provider options =>
      obtain rfl := allowed
      exact sends
  | _ => simp [Op.isSendOf] at sends

end Stage

namespace Service

variable {config : Config} {service following : Service} {stages stages' : List Stage}
  {event : Event} {id : MessageId}

/-- A dispatch claims a message whose request is about to record that no job was published. -/
def claimsUnpublished (service : Service) (event : Event) : Bool :=
  match service.executes event with
  | some (.update (.markProcessing id)) =>
      service.world.messages.affected (.markProcessing id) &&
        service.processes.any fun process => isCompensating id process.program
  | _ => false

def Dispatchable (id : MessageId) (service : Service) (stages : List Stage) : Prop :=
  (∃ job ∈ service.world.jobs, job.messageId = id) ∨ 0 < stages.countP (Stage.isArmed id)

structure Untaken (id : MessageId) (service : Service) (stages : List Stage) : Prop where
  row : ∀ row, service.world.messages.findById id = some row → row.providerMessageId = none ∧
    (row.status = .queued ∨ row.isRefused = true ∧ stages.countP (Stage.isCreating id) = 0)
  beyond : stages.countP (Stage.isBeyond id) = 0
  unsent : service.sends id = 0

structure Taken (id : MessageId) (service : Service) (stages : List Stage) : Prop where
  row : ∃ row, service.world.messages.findById id = some row ∧ row.isRefused = false
  created : stages.countP (Stage.isCreating id) = 0

/-- One request at most creates a message, and no job of the message is there before the request
has published it; the message is unclaimed, or nobody will record that it has no job. -/
structure Fenced (id : MessageId) (service : Service) (stages : List Stage) : Prop where
  once : stages.countP (Stage.isCreating id) ≤ 1
  present : 0 < stages.countP (Stage.isCreating id) ∨ Dispatchable id service stages →
    ∃ row, service.world.messages.findById id = some row
  published : Dispatchable id service stages → stages.countP (Stage.isPublisher id) = 0
  phase : Untaken id service stages ∨ Taken id service stages

theorem countP_publisher_le :
    stages.countP (Stage.isPublisher id) ≤ stages.countP (Stage.isCreating id) :=
  List.countP_mono_left fun _ _ publisher => Stage.publisher_creating publisher

theorem Moves.countP_le (moves : Moves config service stages event following stages')
    {p : Stage → Bool} (initially : ∀ stage, stage.isInitial = true → p stage = false)
    (kept : ∀ (pid : Nat) (choice : Choice) (stage stage' : Stage) (op : Op)
      (outcome : World.Outcome op), event = .resume pid choice → service.awaits pid = some op →
      Stage.Transition config.caseMapping stage op outcome.reply stage' →
      service.world.exec op choice = some outcome → p stage' = true → p stage = true) :
    stages'.countP p ≤ stages.countP p := by
  rcases moves.history with ⟨_, requests, rfl⟩ |
    ⟨pid, choice, stage, op, outcome, stage', resumes, found, awaits, transition, executed, _, _, rfl⟩
  · rw [List.countP_append, Stage.countP_start initially]
    omega
  · exact countP_set_le p found (kept pid choice stage stage' op outcome resumes awaits transition
      executed)

theorem Moves.creating_le (moves : Moves config service stages event following stages')
    {row : SmsMessage} (found : service.world.messages.findById id = some row) :
    stages'.countP (Stage.isCreating id) ≤ stages.countP (Stage.isCreating id) := by
  refine moves.countP_le Stage.initial_creating ?_
  intro pid choice stage stage' op outcome _ _ transition executed creating
  rcases Stage.creating_next transition executed creating with before | ⟨absent, _⟩
  · exact before
  · simp [found] at absent

theorem Moves.publisher_le (moves : Moves config service stages event following stages')
    {row : SmsMessage} (found : service.world.messages.findById id = some row) :
    stages'.countP (Stage.isPublisher id) ≤ stages.countP (Stage.isPublisher id) := by
  refine moves.countP_le Stage.initial_publisher ?_
  intro pid choice stage stage' op outcome _ _ transition executed publisher
  rcases Stage.publisher_next transition executed publisher with ⟨before, _⟩ | absent
  · exact before
  · simp [found] at absent

theorem Moves.creating (moves : Moves config service stages event following stages')
    (creating : 0 < stages'.countP (Stage.isCreating id)) :
    0 < stages.countP (Stage.isCreating id) ∨
      ∃ row, following.world.messages.findById id = some row := by
  rcases moves.history with ⟨_, requests, rfl⟩ |
    ⟨pid, choice, stage, op, outcome, stage', _, found, _, transition, executed, world, _, rfl⟩
  · rw [List.countP_append, Stage.countP_start Stage.initial_creating] at creating
    exact Or.inl creating
  · by_cases entered : stage'.isCreating id = true
    · rcases Stage.creating_next transition executed entered with before | ⟨_, inserted⟩
      · exact Or.inl (List.countP_pos_iff.mpr ⟨stage, List.mem_of_getElem? found, before⟩)
      · rw [world]
        exact Or.inr inserted
    · have fewer := countP_set_le (Stage.isCreating id) found
        (fun now : stage'.isCreating id = true => absurd now entered)
      exact Or.inl (by omega)

theorem Moves.dispatchable (moves : Moves config service stages event following stages')
    (dispatchable : Dispatchable id following stages') : Dispatchable id service stages ∨
    ∃ pid choice stage op outcome stage' job, stages[pid]? = some stage ∧ stage.Allowed op ∧
      Stage.Transition config.caseMapping stage op outcome.reply stage' ∧
      service.world.exec op choice = some outcome ∧ stages' = stages.set pid stage' ∧
      op.job? = some job ∧ job.messageId = id := by
  rcases dispatchable with ⟨job, member, same⟩ | armed
  · rcases moves.jobs member with ⟨before, present, sameId, _⟩ |
      ⟨pid, choice, stage, op, outcome, stage', _, found, allowed, publication, transition,
        executed, _, stagesEq⟩
    · exact Or.inl (Or.inl ⟨before, present, sameId.trans same⟩)
    · exact Or.inr ⟨pid, choice, stage, op, outcome, stage', job, found, allowed, transition,
        executed, stagesEq, publication, same⟩
  · left
    rcases moves.armed_le id with fewer | ⟨index, job, _, found, same, _⟩
    · exact Or.inr (by omega)
    · exact Or.inl ⟨job, List.mem_of_getElem? found, same⟩

theorem Fenced.creator (fenced : Fenced id service stages) {pid : Nat} {key : String}
    (found : stages[pid]? = some (.creator key id)) :
    0 < stages.countP (Stage.isCreating id) ∧
      ∃ row, service.world.messages.findById id = some row := by
  have creating : 0 < stages.countP (Stage.isCreating id) :=
    List.countP_pos_iff.mpr ⟨_, List.mem_of_getElem? found, by simp [Stage.isCreating]⟩
  exact ⟨creating, fenced.present (Or.inl creating)⟩

theorem Fenced.taken (fenced : Fenced id service stages) {pid : Nat} {stage : Stage}
    (found : stages[pid]? = some stage) (beyond : stage.isBeyond id = true) :
    Taken id service stages := by
  rcases fenced.phase with untaken | taken
  · have none := List.countP_eq_zero.mp untaken.beyond stage (List.mem_of_getElem? found)
    exact absurd beyond none
  · exact taken

theorem Moves.present_fenced (moves : Moves config service stages event following stages')
    (staged : Staged config stages service) (fenced : Fenced id service stages)
    (needed : 0 < stages'.countP (Stage.isCreating id) ∨ Dispatchable id following stages') :
    ∃ row, following.world.messages.findById id = some row := by
  have kept : (∃ row, service.world.messages.findById id = some row) →
      ∃ row, following.world.messages.findById id = some row := by
    rintro ⟨row, found⟩
    obtain ⟨after, present, _⟩ := moves.row staged found
    exact ⟨after, present⟩
  rcases needed with creating | dispatchable
  · rcases moves.creating creating with before | inserted
    · exact kept (fenced.present (Or.inl before))
    · exact inserted
  · rcases moves.dispatchable dispatchable with before |
      ⟨pid, choice, stage, op, outcome, stage', job, found, allowed, _, _, _, publication, same⟩
    · exact kept (fenced.present (Or.inr before))
    · cases op with
      | enqueueSms other attempts =>
          obtain rfl := Option.some.inj publication
          obtain rfl : other = id := same
          obtain ⟨key, rfl⟩ := allowed
          exact kept (fenced.creator found).2
      | requeueSms other attempts =>
          obtain rfl := Option.some.inj publication
          obtain rfl : other = id := same
          obtain ⟨snapshot, rfl, rfl⟩ := allowed
          obtain ⟨row, present, _⟩ := (fenced.taken found (by simp [Stage.isBeyond])).row
          exact kept ⟨row, present⟩
      | _ => simp [Op.job?] at publication

theorem Moves.published_fenced (moves : Moves config service stages event following stages')
    (fenced : Fenced id service stages) (dispatchable : Dispatchable id following stages') :
    stages'.countP (Stage.isPublisher id) = 0 := by
  have bound : stages.countP (Stage.isPublisher id) ≤ stages.countP (Stage.isCreating id) :=
    countP_publisher_le
  rcases moves.dispatchable dispatchable with before |
    ⟨pid, choice, stage, op, outcome, stage', job, found, allowed, transition, executed, rfl,
      publication, same⟩
  · obtain ⟨row, present⟩ := fenced.present (Or.inr before)
    have fewer := moves.publisher_le present
    have none := fenced.published before
    omega
  · cases op with
    | enqueueSms other attempts =>
        obtain rfl := Option.some.inj publication
        obtain rfl : other = id := same
        obtain ⟨key, rfl⟩ := allowed
        obtain ⟨row, present⟩ := (fenced.creator found).2
        -- the one request that creates the message publishes its job here
        have moved := countP_set_add (y := stage') (Stage.isPublisher other) found
        have once := fenced.once
        rw [if_pos (by simp [Stage.isPublisher]), if_neg] at moved
        · omega
        · intro publisher
          rcases Stage.publisher_next transition executed publisher with ⟨_, quiet⟩ | absent
          · simp [Op.job?] at quiet
          · simp [present] at absent
    | requeueSms other attempts =>
        obtain rfl := Option.some.inj publication
        obtain rfl : other = id := same
        obtain ⟨snapshot, rfl, rfl⟩ := allowed
        have taken := fenced.taken found (by simp [Stage.isBeyond])
        obtain ⟨row, present, _⟩ := taken.row
        have fewer := moves.publisher_le present
        have none := taken.created
        omega
    | _ => simp [Op.job?] at publication

theorem Moves.once_fenced (moves : Moves config service stages event following stages')
    (fenced : Fenced id service stages) : stages'.countP (Stage.isCreating id) ≤ 1 := by
  have once := fenced.once
  cases found : service.world.messages.findById id with
  | some row =>
      have fewer := moves.creating_le found
      omega
  | none =>
      have none : stages.countP (Stage.isCreating id) = 0 := by
        by_contra creating
        obtain ⟨row, present⟩ := fenced.present (Or.inl (by omega))
        simp [found] at present
      rcases moves.history with ⟨_, requests, rfl⟩ | ⟨_, _, stage, _, _, stage', _, here, _, _, _, _, _, rfl⟩
      · rw [List.countP_append, Stage.countP_start Stage.initial_creating]
        omega
      · have moved := countP_set_add (y := stage') (Stage.isCreating id) here
        split at moved <;> split at moved <;> omega

theorem Moves.taken (moves : Moves config service stages event following stages')
    (staged : Staged config stages service) (fenced : Fenced id service stages)
    (kept : service.claimsUnpublished event = false)
    (executed : service.executes event = some (.update (.markProcessing id)))
    (affected : service.world.messages.affected (.markProcessing id) = true) :
    Taken id following stages' := by
  obtain ⟨pid, choice, stage, outcome, stage', _, _, _, present, allowed, _⟩ :=
    moves.executed executed
  obtain rfl : stage = .loaded id := allowed
  have armed : Dispatchable id service stages :=
    Or.inr (List.countP_pos_iff.mpr
      ⟨_, List.mem_of_getElem? present, by simp [Stage.isArmed, Stage.isCommitted]⟩)
  obtain ⟨row, found⟩ := fenced.present (Or.inr armed)
  have published := fenced.published armed
  have alone : stages.countP (Stage.isCreating id) = 0 := by
    rw [List.countP_eq_zero]
    intro other member creating
    obtain ⟨creator, here⟩ := List.mem_iff_getElem?.mp member
    cases other <;> simp [Stage.isCreating] at creating
    case creator key other =>
      have none := List.countP_eq_zero.mp published _ member
      simp [Stage.isPublisher, creating] at none
    case unpublished key other =>
      subst creating
      obtain ⟨process, there, follows⟩ := staged.tracked.process here
      have compensates := Stage.unpublished_isCompensating follows
      have claims : service.claimsUnpublished event = true := by
        simp only [claimsUnpublished, executed, affected, Bool.true_and, List.any_eq_true]
        exact ⟨process, List.mem_of_getElem? there, compensates⟩
      simp [kept] at claims
  have fewer := moves.creating_le found
  have opened : row.status = .queued ∨ row.status = .processing := by
    simpa [Table.affected, Update.messageId, found, Update.guard] using affected
  have identified : row.id = id := Table.findById_id found
  refine { row := ⟨(Update.markProcessing id).run row, ?_, ?_⟩, created := by omega }
  · rw [moves.update staged executed, Table.findById_update, found]
    rfl
  · rcases opened with status | status <;>
      simp [Update.run, Update.messageId, Update.guard, Update.set, SmsMessage.isRefused, identified,
        status]

theorem Taken.step (taken : Taken id service stages)
    (moves : Moves config service stages event following stages')
    (staged : Staged config stages service) : Taken id following stages' := by
  obtain ⟨row, found, unrefused⟩ := taken.row
  have created := taken.created
  have fewer := moves.creating_le found
  obtain ⟨after, present, same⟩ := moves.row staged found
  refine { row := ⟨after, present, ?_⟩, created := by omega }
  rcases same with rfl | ⟨statement, executed, _, rfl⟩
  · exact unrefused
  by_contra refused
  rw [Bool.not_eq_false] at refused
  have identified : row.id = id := Table.findById_id found
  obtain ⟨pid, _, stage, _, _, _, _, _, here, allowed, _⟩ := moves.executed executed
  rcases SmsMessage.refused_run refused with before | ⟨_, ⟨failedAt, rfl⟩ | ⟨params, rfl, text⟩⟩
  · simp [unrefused] at before
  · obtain ⟨key, rfl⟩ := allowed
    have none := List.countP_eq_zero.mp created _ (List.mem_of_getElem? here)
    simp [Stage.isCreating, identified] at none
  · obtain ⟨claim, callback, other, rfl, issued⟩ := allowed
    obtain ⟨request, _, serves⟩ := staged.call here
    have delivers : Stage.Delivers config.caseMapping request callback claim := serves
    exact delivers.lastError_ne (issued.lastError.symm.trans text)

theorem Untaken.beyond_step (untaken : Untaken id service stages)
    (moves : Moves config service stages event following stages')
    (unclaimed : ¬ (service.executes event = some (.update (.markProcessing id)) ∧
      service.world.messages.affected (.markProcessing id) = true)) :
    stages'.countP (Stage.isBeyond id) = 0 := by
  have none := untaken.beyond
  have fewer : stages'.countP (Stage.isBeyond id) ≤ stages.countP (Stage.isBeyond id) := by
    refine moves.countP_le Stage.initial_beyond ?_
    intro pid choice stage stage' op outcome resumes awaits transition executed beyond
    rcases Stage.beyond_next transition executed beyond with
      before | ⟨rfl, effective⟩ | ⟨row, found, moved⟩
    · exact before
    · rcases World.exec_update executed with ⟨_, ineffective, _⟩ | ⟨_, affected, answered⟩
      · simp [effective] at ineffective
      · have ran : choice.isExecuted = true := by
          cases choice <;> simp_all [Choice.isAnswered, Choice.isLost, Choice.isExecuted]
        refine absurd ⟨?_, affected.symm.trans effective⟩ unclaimed
        simp [resumes, executes, ran, awaits]
    · obtain ⟨external, status⟩ := untaken.row row found
      rcases moved with fatal | known
      · rcases status with queued | ⟨refused, _⟩
        · simp [fatal] at queued
        · simp [SmsMessage.isRefused, fatal] at refused
      · simp [external] at known
  omega

theorem Untaken.unsent_step (untaken : Untaken id service stages)
    (moves : Moves config service stages event following stages')
    (staged : Staged config stages service) : following.sends id = 0 := by
  have before := untaken.unsent
  rcases moves.history with ⟨same, _⟩ | ⟨pid, _, stage, op, _, _, _, found, awaits, _, _, _, history, _⟩
  · rw [sends, same]
    exact before
  · obtain ⟨_, stage', _, found', _, allowed⟩ := staged.awaits awaits
    rw [found, Option.some.injEq] at found'
    subst found'
    have silent : op.isSendOf id = false := by
      by_contra sends
      have beyond := Stage.sends_beyond allowed (by simpa using sends)
      have none := List.countP_eq_zero.mp untaken.beyond stage (List.mem_of_getElem? found)
      exact absurd beyond none
    rw [sends, history, List.countP_append, List.countP_singleton, ← sends, before]
    simp [silent]

theorem Untaken.row_step (untaken : Untaken id service stages) (fenced : Fenced id service stages)
    (moves : Moves config service stages event following stages')
    (staged : Staged config stages service)
    (unclaimed : ¬ (service.executes event = some (.update (.markProcessing id)) ∧
      service.world.messages.affected (.markProcessing id) = true))
    {after : SmsMessage} (found' : following.world.messages.findById id = some after) :
    after.providerMessageId = none ∧ (after.status = .queued ∨
      after.isRefused = true ∧ stages'.countP (Stage.isCreating id) = 0) := by
  have before : service.world.messages.findById id = some after →
      after.providerMessageId = none ∧ (after.status = .queued ∨
        after.isRefused = true ∧ stages'.countP (Stage.isCreating id) = 0) := by
    intro found
    have fewer := moves.creating_le found
    obtain ⟨external, queued | ⟨refused, created⟩⟩ := untaken.row after found
    · exact ⟨external, Or.inl queued⟩
    · exact ⟨external, Or.inr ⟨refused, by omega⟩⟩
  rcases moves.messages staged with ⟨same, _⟩ | ⟨statement, executed, _, updated⟩ |
    ⟨newId, createdAt, key, dto, _, _, _, inserted⟩
  · rw [same] at found'
    exact before found'
  · by_cases other : id ≠ statement.messageId
    · rw [updated, Table.findById_update_of_ne other] at found'
      exact before found'
    have selects : id = statement.messageId := not_not.mp other
    obtain ⟨pid, _, stage, outcome, stage', _, _, _, here, allowed, transition, performed, rfl⟩ :=
      moves.executed executed
    have none := List.countP_eq_zero.mp untaken.beyond stage (List.mem_of_getElem? here)
    rcases Stage.AllowedUpdate.unclaimed allowed (by simpa [← selects] using none) with
      ⟨_, rfl, rfl⟩ | ⟨_, failedAt, key, rfl, rfl⟩
    · obtain rfl : id = _ := selects
      have unaffected : service.world.messages.affected (.markProcessing id) = false := by
        by_contra affected
        exact unclaimed ⟨executed, by simpa using affected⟩
      rw [updated, Table.update_of_not_affected unaffected] at found'
      exact before found'
    · obtain rfl : id = _ := selects
      rw [updated] at found'
      obtain ⟨row, found, rfl⟩ := Table.findById_update_some found'
      have identified : row.id = id := Table.findById_id found
      have external := (untaken.row row found).1
      have moved := countP_set_add (y := stage') (Stage.isCreating id) here
      have once := fenced.once
      have settled : stage'.isCreating id = false := by
        generalize outcome.reply = reply at transition
        cases transition with
        | quiet infallible => simp [Op.fallible] at infallible
        | publishFailed => rfl
        | failed _ handles | failedClaim _ handles => simp [Stage.Handles] at handles
      rw [if_pos (by simp [Stage.isCreating]), if_neg (by simp [settled])] at moved
      refine ⟨?_, Or.inr ⟨?_, by omega⟩⟩
      · simpa [Update.run, Update.messageId, Update.guard, Update.set, identified] using external
      · simp [Update.run, Update.messageId, Update.guard, Update.set, identified,
          SmsMessage.isRefused]
  · rw [inserted, Table.findById_insert] at found'
    split at found'
    · obtain rfl := Option.some.inj found'
      exact ⟨rfl, Or.inl rfl⟩
    · exact before found'

theorem Moves.fenced (moves : Moves config service stages event following stages')
    (staged : Staged config stages service) (fenced : Fenced id service stages)
    (kept : service.claimsUnpublished event = false) : Fenced id following stages' := by
  refine { once := moves.once_fenced fenced,
           present := moves.present_fenced staged fenced,
           published := moves.published_fenced fenced, phase := ?_ }
  rcases fenced.phase with untaken | taken
  · by_cases claimed : service.executes event = some (.update (.markProcessing id)) ∧
        service.world.messages.affected (.markProcessing id) = true
    · exact Or.inr (moves.taken staged fenced kept claimed.1 claimed.2)
    · exact Or.inl {
        row := fun _ found' => untaken.row_step fenced moves staged claimed found'
        beyond := untaken.beyond_step moves claimed
        unsent := untaken.unsent_step moves staged }
  · exact Or.inr (taken.step moves staged)

/-- If no dispatch claims a message whose request is about to record that no job was published, the
record is made of a queued row, and a row that tells it was never sent. -/
theorem publish_failure_unsent
    (reaches : Reaches (step config) (fun service event => service.claimsUnpublished event = false)
      initial service) :
    (∀ pid id failedAt row, service.awaits pid = some (.update (.markQueuePublishFailed id failedAt)) →
      service.world.messages.findById id = some row → row.status = .queued) ∧
    ∀ id row, service.world.messages.findById id = some row → row.status = .failed →
      row.lastError = some queuePublishFailedError → service.sends id = 0 := by
  have fenced : ∀ id, ∃ stages, Staged config stages service ∧ Fenced id service stages := by
    intro id
    refine invariant (Fenced id) reaches ?_
      (fun _ _ _ _ _ staged fenced kept moves => moves.fenced staged fenced kept)
    exact {
      once := by simp
      present := by simp [Dispatchable, initial, World.initial]
      published := by simp
      phase := Or.inl { row := fun _ found => by simp [initial, World.initial, Table.empty,
                          Table.findById] at found
                        beyond := rfl
                        unsent := rfl } }
  constructor
  · intro pid id failedAt row awaits found
    obtain ⟨stages, staged, fenced⟩ := fenced id
    obtain ⟨_, stage, _, here, _, key, rfl⟩ := staged.awaits awaits
    have creating : 0 < stages.countP (Stage.isCreating id) :=
      List.countP_pos_iff.mpr ⟨_, List.mem_of_getElem? here, by simp [Stage.isCreating]⟩
    rcases fenced.phase with untaken | taken
    · rcases (untaken.row row found).2 with queued | ⟨_, created⟩
      · exact queued
      · omega
    · have created := taken.created
      omega
  · intro id row found failed text
    obtain ⟨stages, staged, fenced⟩ := fenced id
    rcases fenced.phase with untaken | taken
    · exact untaken.unsent
    · obtain ⟨other, found', unrefused⟩ := taken.row
      rw [found, Option.some.injEq] at found'
      subst found'
      simp [SmsMessage.isRefused, failed, text] at unrefused

/-- The reply of the publication is lost, the failure is recorded, and then a worker takes the job
and leaves it. -/
theorem publish_failure_unsent_lost : ∃ service row,
    Reaches (step (.defaults ["twilio"])) (fun service event =>
      service.claimsUnpublished event = false) initial service ∧
    service.world.messages.findById 0 = some row ∧ row.isRefused = true ∧ service.sends 0 = 0 := by
  obtain ⟨service, reaches, found⟩ := execute_exists (step (.defaults ["twilio"]))
    (fun service event => service.claimsUnpublished event = false) initial
    ([Event.sends "key"] ++ Event.answers 0 5 ++ [.resume 0 (.lost {} none)] ++
      Event.answers 0 2 ++ [.execute 0] ++ Event.answers 1 1)
    (fun service => (service.world.messages.findById 0).any fun row =>
      row.status = .failed && row.lastError = some queuePublishFailedError)
    (by decide)
  simp only [Option.any_eq_true, Bool.and_eq_true, decide_eq_true_eq] at found
  obtain ⟨row, present, failed, text⟩ := found
  exact ⟨service, row, reaches, present, by simp [SmsMessage.isRefused, failed, text],
    (publish_failure_unsent reaches).2 0 row present failed text⟩

/-- The reply of the publication is lost, a worker sends the message, and the request records over
`SENT` that the message was not queued. -/
theorem publish_failure_overwrites : ∃ service row,
    Reaches (step (.defaults ["twilio"])) (fun _ _ => True) initial service ∧
    service.world.messages.findById 0 = some row ∧ row.status = .failed ∧
    row.lastError = some queuePublishFailedError ∧
    service.history.any (succeeds 0) = true := by
  obtain ⟨service, reaches, found⟩ := execute_exists (step (.defaults ["twilio"])) (fun _ _ => True)
    initial
    ([Event.sends "key"] ++ Event.answers 0 5 ++ [.resume 0 (.lost {} none), .execute 0] ++
      Event.answers 1 4 ++ [Event.accepts 1 "SM1"] ++ Event.answers 1 2 ++ Event.answers 0 2)
    (fun service => service.history.any (succeeds 0) &&
      (service.world.messages.findById 0).any fun row =>
        row.status = .failed && row.lastError = some queuePublishFailedError)
    (by decide)
  simp only [Option.any_eq_true, Bool.and_eq_true, decide_eq_true_eq] at found
  obtain ⟨success, row, present, failed, text⟩ := found
  exact ⟨service, row, reaches, present, failed, text, success⟩

end Service

end SmsNotification
