import SmsNotification.Statements

/-!
Requeues against fatal failures. Every `FATAL_FAILURE` of a message is worth one requeue: the
transition takes it from the row, the job or the restored row keeps it, and only a
`markFatalFailure` adds one.
-/

namespace SmsNotification

open Concurrency

def Job.isRequeueOf (id : MessageId) (job : Job) : Bool := job.fromRequeue && job.messageId == id

def World.requeueJobs (world : World) (id : MessageId) : Nat := world.jobs.countP (Job.isRequeueOf id)

def World.isFatal (world : World) (id : MessageId) : Bool :=
  (world.messages.findById id).any fun row => row.status = .fatalFailure

def World.fatalRows (world : World) (id : MessageId) : Nat := if world.isFatal id then 1 else 0

def Op.isFatalWrite (id : MessageId) : Op → Bool
  | .update (.markFatalFailure other _ _ _) => other = id
  | _ => false

def Op.isRequeueSms (id : MessageId) : Op → Bool
  | .requeueSms other _ => other = id
  | _ => false

theorem Op.job?_isRequeueOf {op : Op} {job : Job} (id : MessageId) (publication : op.job? = some job) :
    job.isRequeueOf id = op.isRequeueSms id := by
  cases op <;> simp only [Op.job?, Option.some.injEq, reduceCtorEq] at publication
  all_goals
    subst publication
    simp only [Job.isRequeueOf, Op.isRequeueSms, Bool.false_and, Bool.true_and, beq_eq_decide]

def Stage.isReopening (id : MessageId) : Stage → Bool
  | reopened snapshot => snapshot.id = id
  | restoring snapshot _ => snapshot.id = id
  | _ => false

namespace World

variable {world : World} {op : Op} {choice : Choice} {outcome : World.Outcome op} {id : MessageId}

theorem fatalRows_same (same : outcome.world.messages = world.messages) :
    outcome.world.fatalRows id = world.fatalRows id := by
  rw [fatalRows, isFatal, same, fatalRows, isFatal]

theorem isFatal_insert {row : SmsMessage} {newId newKey} (queued : row.status = .queued) :
    isFatal { world with messages := world.messages.insert row newId newKey } id = true →
      world.isFatal id = true := by
  simp only [isFatal, Table.findById_insert]
  by_cases same : id = row.id
  · simp [same, queued]
  · simp [same]

theorem isFatal_iff : world.isFatal id = true ↔
    ∃ row, world.messages.findById id = some row ∧ row.status = .fatalFailure := by
  simp [isFatal, Option.any_eq_true]

theorem isFatal_update {statement : Update} (issued : statement.Issued)
    (fatal : isFatal { world with messages := world.messages.update statement } id = true) :
    world.isFatal id = true ∨
      (world.messages.affected statement = true ∧
        Op.isFatalWrite id (.update statement) = true) ∨
      ∃ provider error date, statement = .restoreFatalFailure id provider error date := by
  obtain ⟨row, found, status⟩ := isFatal_iff.mp fatal
  obtain ⟨before, present, rfl⟩ := Table.findById_update_some found
  by_cases selected : before.id = statement.messageId ∧ statement.guard before.status = true
  · obtain ⟨same, guarded⟩ := selected
    have identified : statement.messageId = id := same.symm.trans (Table.findById_id present)
    have affected : world.messages.affected statement = true := by
      simp [Table.affected, identified, present, guarded]
    rw [Update.run, if_pos ⟨same, guarded⟩] at status
    cases statement with
    | incrementAttempts other => exact Or.inl (isFatal_iff.mpr ⟨before, present, status⟩)
    | markFatalFailure other provider error date =>
        exact Or.inr (Or.inl ⟨affected, by simpa [Op.isFatalWrite, Update.messageId] using identified⟩)
    | restoreFatalFailure other provider error date =>
        cases identified
        exact Or.inr (Or.inr ⟨provider, error, date, rfl⟩)
    | applyDeliveryStatus params =>
        obtain ⟨other, update⟩ := issued
        cases update with
        | failure failed => cases status; simp [isDeliveryFailureStatus, deliveryFailureStatuses] at failed
        | _ => cases status
    | _ => cases status
  · rw [Update.run, if_neg selected] at status
    exact Or.inl (isFatal_iff.mpr ⟨before, present, status⟩)

theorem isFatal_transition (affected : world.messages.affected (.transitionFatalFailureToQueued id) = true) :
    world.isFatal id = true ∧ isFatal { world with
      messages := world.messages.update (.transitionFatalFailureToQueued id) } id = false := by
  simp only [Table.affected, Update.messageId] at affected
  cases found : world.messages.findById id with
  | none => simp [found] at affected
  | some row =>
      have fatal : row.status = .fatalFailure := by simpa [found, Update.guard] using affected
      have identified : row.id = id := Table.findById_id found
      refine ⟨isFatal_iff.mpr ⟨row, found, fatal⟩, ?_⟩
      simp [isFatal, Table.findById_update, found, Update.run, identified, Update.messageId,
        Update.guard, fatal, Update.set]

theorem exec_requeueSms {attempts : Nat} {outcome : World.Outcome (.requeueSms id attempts)}
    (executed : world.exec (.requeueSms id attempts) choice = some outcome) :
    (outcome.reply = .ok () ∧ outcome.effective = true) ∨
      ∃ error, outcome.reply = .error error ∧
        (choice.isLost = false → outcome.effective = false) := by
  rcases exec_cases executed with
    ⟨_, effective, _, message, reply⟩ | ⟨hint, inner, performed, _, effective, reply⟩
  · exact Or.inr ⟨_, reply, fun _ => effective⟩
  · simp only [perform, Option.some.injEq] at performed
    subst performed
    rcases reply with ⟨_, reply⟩ | ⟨lost, message, reply⟩
    · exact Or.inl ⟨reply, by simp [effective, addJob]⟩
    · exact Or.inr ⟨_, reply, by simp [lost]⟩

theorem exec_requeueJobs (executed : world.exec op choice = some outcome) :
    outcome.world.requeueJobs id = world.requeueJobs id +
      if outcome.effective && op.isRequeueSms id then 1 else 0 := by
  cases op with
  | requeueSms other attempts =>
      rcases exec_cases executed with
        ⟨same, effective, _⟩ | ⟨hint, inner, performed, same, effective, _⟩
      · simp [same, effective]
      · simp only [perform, Option.some.injEq] at performed
        subst performed
        rw [same, effective]
        simp [requeueJobs, addJob, List.countP_append, List.countP_singleton, Job.isRequeueOf,
          Op.isRequeueSms]
  | _ =>
      rcases exec_jobs executed with same | ⟨job, publication, _, same⟩
      · simp [requeueJobs, same, Op.isRequeueSms]
      · have initial := Op.job?_isRequeueOf id publication
        simp [requeueJobs, same, Op.isRequeueSms, initial]

end World

namespace Stage

variable {caseMapping : Js.CaseMapping} {stage stage' : Stage} {op : Op} {world : World}
  {choice : Choice} {outcome : World.Outcome op} {id : MessageId}

theorem reopening_next {reply : Except Failure op.Reply}
    (transition : Transition caseMapping stage op reply stage')
    (reopening : stage'.isReopening id = true) : stage.isReopening id = true ∨
      ∃ snapshot, stage = .eligible snapshot ∧ snapshot.id = id ∧ stage' = .reopened snapshot := by
  cases transition with
  | quiet | stored | unlocked => exact Or.inl reopening
  | notRequeued => exact Or.inl reopening
  | @reopened snapshot => exact Or.inr ⟨snapshot, rfl, by simpa [isReopening] using reopening, rfl⟩
  | _ => simp [isReopening] at reopening

theorem reopened_takes {snapshot : SmsMessage}
    (transition : Transition caseMapping (.eligible snapshot) op outcome.reply (.reopened snapshot))
    (executed : world.exec op choice = some outcome) :
    world.fatalRows snapshot.id = 1 ∧ outcome.world.fatalRows snapshot.id = 0 := by
  generalize answer : outcome.reply = reply at transition
  cases transition with
  | reopened =>
      rcases World.exec_update executed with ⟨_, _, _, _, rejected⟩ | ⟨same, _, ⟨_, replied⟩ | ⟨_, _, lost⟩⟩
      · simp [rejected] at answer
      · rw [replied, Except.ok.injEq] at answer
        obtain ⟨before, after⟩ := World.isFatal_transition answer
        constructor
        · rw [World.fatalRows, if_pos before]
        · rw [World.fatalRows, same, after]
          rfl
      · simp [lost] at answer

theorem fatal_source (id : MessageId) (transition : Transition caseMapping stage op outcome.reply stage')
    (allowed : stage.Allowed op) (executed : world.exec op choice = some outcome)
    (issued : ∀ statement, op = .update statement → statement.Issued)
    (fatal : outcome.world.isFatal id = true) :
    world.isFatal id = true ∨ (outcome.effective && op.isFatalWrite id) = true ∨
      stage.isReopening id = true ∧ stage'.isReopening id = false := by
  cases op with
  | update statement =>
      rcases World.exec_update executed with ⟨same, _⟩ | ⟨same, effective, _⟩
      · rw [same] at fatal
        exact Or.inl fatal
      · rw [same] at fatal
        rcases World.isFatal_update (issued statement rfl) fatal with
          before | ⟨affected, written⟩ | ⟨provider, error, date, rfl⟩
        · exact Or.inl before
        · exact Or.inr (Or.inl (by simp [effective, affected, written]))
        · obtain ⟨snapshot, enqueueError, rfl, same, _⟩ := allowed
          refine Or.inr (Or.inr ⟨by simpa [isReopening] using same, ?_⟩)
          generalize outcome.reply = reply at transition
          cases transition with
          | quiet infallible => simp [Op.fallible] at infallible
          | restored => rfl
          | failed => rfl
          | failedClaim => rfl
  | createQueuedMessage key dto =>
      rcases World.exec_createQueuedMessage executed with ⟨same, _⟩ | ⟨_, _, newId, newKey, same, _⟩
      · rw [same] at fatal
        exact Or.inl fatal
      · rw [same] at fatal
        exact Or.inl (World.isFatal_insert rfl fatal)
  | _ =>
      have same := World.exec_messages_other executed (by simp) (by simp)
      rw [World.isFatal, same] at fatal
      exact Or.inl fatal

theorem publication_balance {other : MessageId} {attempts : Nat}
    {outcome : World.Outcome (.requeueSms other attempts)}
    (transition : Transition caseMapping stage (.requeueSms other attempts) outcome.reply stage')
    (allowed : stage.Allowed (.requeueSms other attempts))
    (executed : world.exec (.requeueSms other attempts) choice = some outcome)
    (answers : other = id → choice.isLost = false) :
    (if outcome.effective && Op.isRequeueSms id (.requeueSms other attempts) then 1 else 0) +
        (if stage'.isReopening id then 1 else 0) ≤ if stage.isReopening id then 1 else 0 := by
  obtain ⟨snapshot, rfl, rfl⟩ := allowed
  generalize answer : outcome.reply = reply at transition
  cases transition with
  | quiet infallible => simp [Op.fallible] at infallible
  | requeued =>
      by_cases same : snapshot.id = id
      · simp [isReopening, Op.isRequeueSms, same]
        split <;> omega
      · simp [isReopening, Op.isRequeueSms, same]
  | notRequeued =>
      by_cases same : snapshot.id = id
      · rcases World.exec_requeueSms executed with ⟨replied, _⟩ | ⟨_, _, ineffective⟩
        · simp [replied] at answer
        · simp [isReopening, same, ineffective (answers same)]
      · simp [isReopening, Op.isRequeueSms, same]
  | failed _ handles => simp [Handles] at handles
  | failedClaim _ handles => simp [Handles] at handles

/-- One operation keeps the balance of its process: what a requeue holds, the row and the jobs
together are worth no more than before, unless a dispatch has failed for good. -/
theorem requeue_balance (id : MessageId) (transition : Transition caseMapping stage op outcome.reply stage')
    (allowed : stage.Allowed op) (executed : world.exec op choice = some outcome)
    (issued : ∀ statement, op = .update statement → statement.Issued)
    (answers : op.isRequeueSms id = true → choice.isLost = false) :
    outcome.world.requeueJobs id + (if stage'.isReopening id then 1 else 0) +
        outcome.world.fatalRows id ≤
      world.requeueJobs id + (if stage.isReopening id then 1 else 0) + world.fatalRows id +
        if outcome.effective && op.isFatalWrite id then 1 else 0 := by
  rw [World.exec_requeueJobs executed]
  by_cases publication : ∃ other attempts, op = .requeueSms other attempts
  · obtain ⟨other, attempts, rfl⟩ := publication
    have balance := publication_balance transition allowed executed
      (fun same : other = id => answers (by simp [Op.isRequeueSms, same]))
    rw [World.fatalRows_same (World.exec_messages_other executed (by simp) (by simp))]
    omega
  · have noJob : op.isRequeueSms id = false := by
      cases op <;> simp_all [Op.isRequeueSms]
    have held : stage'.isReopening id = true → stage.isReopening id = true ∨
        world.fatalRows id = 1 ∧ outcome.world.fatalRows id = 0 := by
      intro reopening
      rcases reopening_next transition reopening with before | ⟨snapshot, rfl, rfl, rfl⟩
      · exact Or.inl before
      · exact Or.inr (reopened_takes transition executed)
    have paid := fatal_source id transition allowed executed issued
    simp only [World.fatalRows, noJob, Bool.and_false] at held ⊢
    grind

end Stage

namespace Service

variable {config : Config} {service following : Service} {stages stages' : List Stage}
  {event : Event} {id : MessageId}

def publishing (service : Service) (id : MessageId) : Nat :=
  service.processes.countP fun process => process.program.awaited.any (Op.isRequeueSms id)

def fatalWrites (service : Service) (id : MessageId) : Nat :=
  service.history.countP fun entry => entry.effective && entry.op.isFatalWrite id

def publications (service : Service) (pid : Nat) (id : MessageId) : Nat :=
  (service.trace pid).countP fun entry => entry.effective && entry.op.isRequeueSms id

def WithinBudget (id : MessageId) (service : Service) (stages : List Stage) : Prop :=
  service.world.requeueJobs id + stages.countP (Stage.isReopening id) +
    service.world.fatalRows id ≤ service.fatalWrites id

theorem setJob_requeueJobs {index : Nat} {before after : Job}
    (found : service.world.jobs[index]? = some before)
    (sameId : after.messageId = before.messageId)
    (sameOrigin : after.fromRequeue = before.fromRequeue) :
    (service.setJob index after).world.requeueJobs id = service.world.requeueJobs id := by
  have replaced := countP_set_add (y := after) (Job.isRequeueOf id) found
  have same : after.isRequeueOf id = before.isRequeueOf id := by
    simp [Job.isRequeueOf, sameId, sameOrigin]
  rw [same] at replaced
  simp only [World.requeueJobs, setJob]
  omega

/-- A publication for a requeue of the message adds its job although it rejects. -/
def losesRequeue (id : MessageId) (service : Service) (event : Event) : Bool :=
  (service.loses event).any (Op.isRequeueSms id)

theorem losesRequeue_lost {pid : Nat} {choice : Choice} {op : Op}
    (answers : service.losesRequeue id (.resume pid choice) = false)
    (awaits : service.awaits pid = some op) (publication : op.isRequeueSms id = true) :
    choice.isLost = false := by
  cases lost : choice.isLost with
  | false => rfl
  | true => simp [losesRequeue, loses, awaits, lost, publication] at answers

theorem isReopening_initial (stage : Stage) (initial : stage.isInitial = true) :
    stage.isReopening id = false := by
  cases stage <;> simp_all [Stage.isInitial, Stage.isReopening]

theorem Moves.withinBudget (moves : Moves config service stages event following stages')
    (staged : Staged config stages service) (answers : service.losesRequeue id event = false)
    (within : WithinBudget id service stages) : WithinBudget id following stages' := by
  unfold WithinBudget at within ⊢
  cases moves with
  | @resume pid choice stage stage' op outcome _ found awaits allowed transition executed world
      history calls =>
      obtain ⟨request, _, serves⟩ := staged.call found
      have balance := Stage.requeue_balance id transition allowed executed
        (fun statement same => by subst same; exact Stage.AllowedUpdate.issued allowed serves)
        (losesRequeue_lost answers awaits)
      have counted := countP_set_add (y := stage') (Stage.isReopening id) found
      have written : following.fatalWrites id = service.fatalWrites id +
          if outcome.effective && op.isFatalWrite id then 1 else 0 := by
        rw [fatalWrites, history, List.countP_append, List.countP_singleton]
        rfl
      rw [world, written]
      omega
  | @request request =>
      have idle : [Stage.start config.caseMapping request].countP (Stage.isReopening id) = 0 :=
        Stage.countP_start (isReopening_initial) [request]
      rw [List.countP_append, idle]
      exact within
  | @execute index job found _ =>
      have idle : [Stage.dispatching job.messageId].countP (Stage.isReopening id) = 0 := rfl
      have same : (service.setJob index
          { job with state := .active service.processes.length }).world.requeueJobs id =
            service.world.requeueJobs id := setJob_requeueJobs found rfl rfl
      rw [List.countP_append, idle]
      exact same ▸ within
  | @settle index job pid result found _ _ =>
      have same : (service.setJob index (job.settled result)).world.requeueJobs id =
          service.world.requeueJobs id :=
        setJob_requeueJobs found (by cases result <;> rfl) (by cases result <;> rfl)
      rw [same]
      exact within
  | @stall index job pid found _ =>
      have same : (service.setJob index { job with state := .waiting }).world.requeueJobs id =
          service.world.requeueJobs id := setJob_requeueJobs found rfl rfl
      rw [same]
      exact within
  | _ => exact within

def Publishes (id : MessageId) (stage : Stage)
    (trace : List (Entry Op Op.Reply Failure)) : Prop :=
  trace.countP (fun entry => entry.effective && entry.op.isRequeueSms id) =
    if stage = .requeued id then 1 else 0

theorem requeued_next {caseMapping : Js.CaseMapping} {stage stage' : Stage} {op : Op}
    {world : World} {choice : Choice} {outcome : World.Outcome op}
    (transition : Stage.Transition caseMapping stage op outcome.reply stage')
    (executed : world.exec op choice = some outcome)
    (answers : op.isRequeueSms id = true → choice.isLost = false) :
    (if stage = .requeued id then 1 else 0) +
        (if outcome.effective && op.isRequeueSms id then 1 else 0) =
      if stage' = .requeued id then 1 else 0 := by
  generalize answer : outcome.reply = reply at transition
  cases transition with
  | quiet infallible => cases op <;> simp_all [Op.isRequeueSms, Op.fallible]
  | @requeued snapshot =>
      rcases World.exec_requeueSms executed with ⟨_, effective⟩ | ⟨_, rejected, _⟩
      · simp [Op.isRequeueSms, effective]
      · simp [rejected] at answer
  | @notRequeued snapshot =>
      rcases World.exec_requeueSms executed with ⟨replied, _⟩ | ⟨_, _, ineffective⟩
      · simp [replied] at answer
      · by_cases publication : snapshot.id = id
        · simp [ineffective (answers (by simp [Op.isRequeueSms, publication]))]
        · simp [Op.isRequeueSms, publication]
  | stored source => rcases source with rfl | rfl <;> simp [Op.isRequeueSms]
  | failed allowed handles | failedClaim allowed handles =>
      rcases handles with ⟨_, rfl⟩ | ⟨_, _, rfl⟩ | ⟨_, rfl⟩ <;>
        cases op <;> simp_all [Stage.Allowed, Op.isRequeueSms]
  | _ => simp [Op.isRequeueSms]

theorem publishes_initial (stage : Stage) (initial : stage.isInitial = true) :
    Publishes id stage [] := by
  cases stage <;> simp_all [Stage.isInitial, Publishes]

theorem publishes_next {caseMapping : Js.CaseMapping} {stage stage' : Stage} {op : Op}
    {world : World} {choice : Choice} {outcome : World.Outcome op} {pid : Nat}
    {trace : List (Entry Op Op.Reply Failure)}
    (transition : Stage.Transition caseMapping stage op outcome.reply stage')
    (executed : world.exec op choice = some outcome)
    (answers : op.isRequeueSms id = true → choice.isLost = false)
    (publishes : Publishes id stage trace) :
    Publishes id stage' (trace ++ [⟨pid, op, outcome.reply, outcome.effective⟩]) := by
  have next := requeued_next transition executed answers
  simp only [Publishes, List.countP_append, List.countP_singleton] at publishes ⊢
  omega

theorem Staged.publishing (staged : Staged config stages service) (id : MessageId) :
    service.publishing id ≤ stages.countP (Stage.isReopening id) := by
  refine countP_le_positions staged.length.symm ?_
  intro pid process stage found staged' awaits
  have follows := staged.tracked.follows pid stage process staged' found
  cases program : process.program with
  | settled result => simp [program, Program.awaited] at awaits
  | await op rest =>
      rw [program] at awaits follows
      have publication : op.isRequeueSms id = true := by simpa [Program.awaited] using awaits
      cases op with
      | requeueSms other attempts =>
          obtain ⟨snapshot, rfl, same⟩ := follows.1
          simpa [Stage.isReopening, same, Op.isRequeueSms] using publication
      | _ => simp [Op.isRequeueSms] at publication

/-- Requeue never multiplies jobs: there are at most as many requeue jobs and publications under way
as dispatches of the message have failed for good, and a requeue that succeeds has published one job
itself. -/
theorem requeues_within_failures
    (reaches : Reaches (step config) (fun service event => service.losesRequeue id event = false)
      initial service) :
    service.world.requeueJobs id + service.publishing id ≤ service.fatalWrites id ∧
    ∀ pid answer, service.call pid = some (.requeue id) → service.result pid = some (.ok answer) →
      service.publications pid id = 1 := by
  constructor
  · obtain ⟨stages, staged, within⟩ := invariant (WithinBudget id) reaches (Nat.le_refl 0)
      (fun _ _ _ _ _ staged within answers moves => moves.withinBudget staged answers within)
    have publishing := staged.publishing id
    unfold WithinBudget at within
    omega
  · intro pid answer called settled
    obtain ⟨stages, staged, publishes⟩ := invariant (Traced (Publishes id)) reaches (by simp [Traced])
      (fun _ _ _ _ _ staged traced answers moves => moves.traced staged traced publishes_initial
        fun _ _ _ _ _ _ resumes awaits transition executed publishes => publishes_next transition
          executed (losesRequeue_lost (resumes ▸ answers) awaits) publishes)
    obtain ⟨request, stage, called', found, settles⟩ := staged.result settled
    rw [called] at called'
    cases called'
    have requeued : stage = .requeued id := settles
    have counted := publishes pid stage found
    rw [Publishes, if_pos requeued] at counted
    exact counted

/-- A message fails for good and is requeued. -/
theorem requeues_within_failures_published : ∃ service,
    Reaches (step (.defaults ["twilio"])) (fun service event => service.losesRequeue 0 event = false)
      initial service ∧ service.call 2 = some (.requeue 0) ∧
    service.world.requeueJobs 0 + service.publishing 0 = service.fatalWrites 0 ∧
    service.fatalWrites 0 = 1 ∧ service.publications 2 0 = 1 := by
  obtain ⟨service, reaches, found⟩ := execute_exists (step (.defaults ["twilio"]))
    (fun service event => service.losesRequeue 0 event = false) initial
    ([Event.sends "key"] ++ Event.answers 0 8 ++ [.execute 0] ++ Event.answers 1 8 ++
      [.request (.requeue 0)] ++ Event.answers 2 3)
    (fun service => service.call 2 = some (.requeue 0) && (service.result 2).any Except.isOk &&
      service.world.requeueJobs 0 == 1 && service.fatalWrites 0 == 1)
    (by decide)
  simp only [Bool.and_eq_true, decide_eq_true_eq, Option.any_eq_true, beq_iff_eq] at found
  obtain ⟨⟨⟨called, result, settled, succeeded⟩, jobs⟩, writes⟩ := found
  obtain ⟨bound, published⟩ := requeues_within_failures reaches
  refine ⟨service, reaches, called, by omega, writes, ?_⟩
  cases result with
  | ok answer => exact published 2 answer called settled
  | error error => simp [Except.isOk, Except.toBool] at succeeded

end Service

end SmsNotification
