import SmsNotification.IdempotentCreation
import SmsNotification.SendEpochs

/-!
Whether a message that is to be sent has a job. A row is opened by a process that then publishes a
job, and a dispatch gives a job up only once it has closed the row; a rejected call makes BullMQ
repeat the job, but not after its last execution. The condition `strands` on a step names the
rejections that nothing repairs.
-/

namespace SmsNotification

open Concurrency

def Job.isLast (job : Job) : Bool := job.attempts ≤ job.attemptsMade + 1

def Call.isOf (row : SmsMessage) : Call → Bool
  | send key _ => key = row.idempotencyKey
  | requeue id => id = row.id
  | dispatch id => id = row.id
  | _ => false

def Job.isPending (job : Job) : Bool :=
  match job.state with
  | .waiting => true
  | .delayed => true
  | .active _ => true
  | _ => false

namespace Stage

variable {caseMapping : Js.CaseMapping} {stage stage' : Stage} {op : Op} {id : MessageId}

def publishes (id : MessageId) : Stage → Bool
  | creator _ other => other = id
  | unpublished _ other => other = id
  | reopened snapshot => snapshot.id = id
  | restoring snapshot _ => snapshot.id = id
  | _ => false

/-- The dispatch has not recorded an outcome, and it is repeated if it is given up; `last` tells
that it is the last execution of its job. -/
def upholds (id : MessageId) (last : Bool) : Stage → Bool
  | dispatching other => other = id
  | loaded other => other = id
  | sending other => other = id
  | counted other => other = id
  | throttled other => other = id
  | accepted other _ _ => other = id
  | aborted other => other = id && !last
  | _ => false

def isPublication (id : MessageId) : Op → Bool
  | .enqueueSms other _ => other = id
  | .requeueSms other _ => other = id
  | _ => false

def isCompensation (id : MessageId) : Update → Bool
  | .markQueuePublishFailed other _ => other = id
  | .restoreFatalFailure other _ _ _ => other = id
  | _ => false

theorem publishes_next {reply : Except Failure op.Reply}
    (transition : Transition caseMapping stage op reply stage')
    (publishes : stage.publishes id = true) :
    stage'.publishes id = true ∨ (isPublication id op = true ∧ ∃ answer, reply = .ok answer) ∨
      ∃ statement, op = .update statement ∧ isCompensation id statement = true := by
  cases transition with
  | quiet | stored | unlocked => exact Or.inl publishes
  | published | requeued => exact Or.inr (Or.inl ⟨publishes, _, rfl⟩)
  | notPublished | notRequeued => exact Or.inl publishes
  | publishFailed | restored => exact Or.inr (Or.inr ⟨_, rfl, publishes⟩)
  | failed _ handles | failedClaim _ handles =>
      rcases handles with ⟨callback, rfl⟩ | ⟨callback, id, rfl⟩ | ⟨id, rfl⟩ <;>
        simp [Stage.publishes] at publishes
  | _ => simp [Stage.publishes] at publishes

/-- Executed like this, the operation makes its dispatch reject and leaves the row to be sent;
`claimed` tells that the dispatch has executed its claim. -/
def abandons (claimed : Bool) (choice : Choice) : Op → Bool
  | .findById _ => !claimed && !choice.isAnswered
  | .update (.markProcessing _) => !choice.isAnswered
  | .update (.incrementAttempts _) => !choice.isAnswered
  | .throttle _ => !choice.isAnswered
  | .update (.markSent _ _ _ _) => !choice.isExecuted
  | .update (.markFatalFailure _ _ _ _) => !choice.isExecuted
  | _ => false

end Stage

def Table.Closed (table : Table) (id : MessageId) : Prop :=
  ∀ row, table.findById id = some row → row.status.isOpen = false

theorem nonDispatchable_closed {status : SmsStatus} :
    nonDispatchableStatuses.contains status = !status.isOpen := by
  cases status <;> rfl

section Closing

variable {world : World} {choice : Choice} {statement : Update} {id : MessageId}

theorem closed_written {outcome : World.Outcome (.update statement)}
    (executed : world.exec (.update statement) choice = some outcome)
    (same : statement.messageId = id) (unguarded : statement.isUnguardedStatus = true) :
    (choice.isExecuted = false ∧ ∃ error, outcome.reply = .error error) ∨
      outcome.world.messages.Closed id := by
  rcases World.exec_update executed with ⟨_, _, unexecuted, _, rejected⟩ | ⟨updated, _⟩
  · exact Or.inl ⟨unexecuted, _, rejected⟩
  · right
    rw [updated]
    intro row found
    obtain ⟨before, present, rfl⟩ := Table.findById_update_some found
    have selected : before.id = statement.messageId := (Table.findById_id present).trans same.symm
    cases statement <;> simp only [Update.isUnguardedStatus, Bool.false_eq_true] at unguarded
    all_goals simp [Update.run, selected, Update.guard, Update.set, SmsStatus.isOpen]

theorem closed_unclaimed {outcome : World.Outcome (.update (.markProcessing id))}
    (executed : world.exec (.update (.markProcessing id)) choice = some outcome)
    (answered : outcome.reply = .ok false) : outcome.world.messages.Closed id := by
  rcases World.exec_update executed with ⟨_, _, _, _, reply⟩ | ⟨same, _, ⟨_, reply⟩ | ⟨_, _, reply⟩⟩
  · simp [reply] at answered
  · have unaffected : world.messages.affected (.markProcessing id) = false := by
      simpa [reply] using answered
    rw [same]
    intro row found
    rw [Table.update_of_not_affected unaffected] at found
    simp only [Table.affected, Update.messageId, found] at unaffected
    exact unaffected
  · simp [reply] at answered

theorem closed_found {outcome : World.Outcome (.findById id)} {found : Option SmsMessage}
    (executed : world.exec (.findById id) choice = some outcome)
    (answered : outcome.reply = .ok found)
    (closed : ∀ row, found = some row → row.status.isOpen = false) :
    outcome.world.messages.Closed id := by
  intro row present
  rw [World.exec_messages_other executed (by simp) (by simp),
    World.exec_findById executed answered] at present
  exact closed row present

end Closing

namespace Stage

variable {caseMapping : Js.CaseMapping} {stage stage' : Stage} {op : Op} {id : MessageId}

theorem upholds_next {world : World} {choice : Choice} {outcome : World.Outcome op} {last : Bool}
    (transition : Transition caseMapping stage op outcome.reply stage')
    (executed : world.exec op choice = some outcome) (upholds : stage.upholds id last = true) :
    stage'.upholds id last = true ∨ outcome.world.messages.Closed id ∨
      last = true ∧ ∀ claimed, (stage = .dispatching id → claimed = false) →
        abandons claimed choice op = true := by
  generalize answer : outcome.reply = reply at transition
  have rejected : ∀ {error : Failure}, outcome.reply = .error error →
      (∀ key dto, op ≠ .createQueuedMessage key dto) → choice.isAnswered = false := by
    intro error failed noInsert
    by_contra answered
    exact World.exec_answered executed (by simpa using answered) noInsert error failed
  cases transition with
  | quiet => exact Or.inl upholds
  | stored source => rcases source with rfl | rfl <;> simp [Stage.upholds] at upholds
  | unlocked allowed =>
      rcases allowed with ⟨_, rfl⟩ | ⟨_, _, rfl⟩ | ⟨_, _, rfl⟩ | rfl <;>
        simp [Stage.upholds] at upholds
  | failed _ handles | failedClaim _ handles =>
      rcases handles with ⟨_, rfl⟩ | ⟨_, _, rfl⟩ | ⟨_, rfl⟩ <;> simp [Stage.upholds] at upholds
  | loaded | claimed | counted | throttled | accepted | notAccepted =>
      left
      simp_all [Stage.upholds]
  | @notDispatchable other row _ closed =>
      obtain rfl : other = id := by simpa [Stage.upholds] using upholds
      refine Or.inr (Or.inl (closed_found executed answer ?_))
      rintro found ⟨⟩
      rw [nonDispatchable_closed] at closed
      simpa using closed
  | @missing other =>
      obtain rfl : other = id := by simpa [Stage.upholds] using upholds
      exact Or.inr (Or.inl (closed_found executed answer (by simp)))
  | @notClaimed other =>
      obtain rfl : other = id := by simpa [Stage.upholds] using upholds
      exact Or.inr (Or.inl (closed_unclaimed executed answer))
  | loadFailed | claimFailed | countFailed | throttleFailed =>
      have failed := rejected answer (by simp)
      cases last with
      | false =>
          left
          simpa [Stage.upholds] using upholds
      | true =>
          refine Or.inr (Or.inr ⟨rfl, ?_⟩)
          intro claimed unclaimed
          simp_all [abandons, Stage.upholds]
  | @sentFailed other _ _ _ _ | @fatalFailed other _ _ _ _ =>
      obtain rfl : other = id := by simpa [Stage.upholds] using upholds
      rcases closed_written executed rfl rfl with ⟨unexecuted, _⟩ | closed
      · cases last with
        | false =>
            left
            simp [Stage.upholds]
        | true => exact Or.inr (Or.inr ⟨rfl, fun _ _ => by simp [abandons, unexecuted]⟩)
      · exact Or.inr (Or.inl closed)
  | @sent other _ _ _ _ | @fatal other _ _ _ _ =>
      obtain rfl : other = id := by simpa [Stage.upholds] using upholds
      rcases closed_written executed rfl rfl with ⟨_, _, rejected⟩ | closed
      · simp [rejected] at answer
      · exact Or.inr (Or.inl closed)
  | _ => simp [Stage.upholds] at upholds

theorem dispatching_next {reply : Except Failure op.Reply}
    (transition : Transition caseMapping stage op reply (.dispatching id)) :
    stage = .dispatching id ∧ op.fallible = false := by
  cases transition with
  | quiet infallible => exact ⟨rfl, infallible⟩
  | stored source => simp at source
  | unlocked allowed => simp [Allowed] at allowed

def opensUnanswered (id : MessageId) (choice : Choice) : Op → Bool
  | .createQueuedMessage _ _ => match choice with
      | .lost hint _ => hint.id = id
      | _ => false
  | .update (.transitionFatalFailureToQueued other) => other = id && choice.isLost
  | _ => false

def uncompensated (id : MessageId) (choice : Choice) : Op → Bool
  | .update statement => isCompensation id statement && !choice.isExecuted
  | _ => false

theorem publishes_of_opens {world : World} {choice : Choice} {outcome : World.Outcome op}
    (transition : Transition caseMapping stage op outcome.reply stage')
    (executed : world.exec op choice = some outcome) (ran : choice.isExecuted = true)
    (answers : opensUnanswered id choice op = false)
    (opens : (op = .update (.transitionFatalFailureToQueued id) ∧
        world.messages.affected (.transitionFatalFailureToQueued id) = true) ∨
      ∃ key dto, op = .createQueuedMessage key dto ∧ world.messages.findById id = none ∧
        ∃ row, outcome.world.messages.findById id = some row) :
    stage'.publishes id = true := by
  generalize answer : outcome.reply = reply at transition
  rcases opens with ⟨rfl, affected⟩ | ⟨key, dto, rfl, absent, row, present⟩
  · rcases World.exec_update executed with
      ⟨_, _, unexecuted, _⟩ | ⟨_, _, ⟨_, replied⟩ | ⟨lost, _⟩⟩
    · simp [ran] at unexecuted
    · rw [answer, affected] at replied
      subst replied
      cases transition with
      | quiet infallible => simp [Op.fallible] at infallible
      | reopened => simp [Stage.publishes]
      | notReopened failed => simp at failed
    · simp [opensUnanswered, lost] at answers
  · rcases World.exec_createQueuedMessage executed with
      ⟨same, _⟩ | ⟨fresh, createdAt, newId, newKey, same, _, ⟨_, replied⟩ | ⟨lost, _⟩⟩
    · rw [same, absent] at present
      simp at present
    · rw [same] at present
      have identified := Table.findById_insert_new newId newKey absent present
      rw [answer] at replied
      subst replied
      cases transition with
      | quiet infallible => simp [Op.fallible] at infallible
      | created => simp [Stage.publishes, identified]
    · cases choice with
      | lost hint message =>
          have identified := World.exec_lost_insert executed absent present
          simp [opensUnanswered, identified] at answers
      | _ => simp [Choice.isLost] at lost

end Stage

namespace Service

variable {config : Config} {service following : Service} {stages stages' : List Stage}
  {event : Event} {id : MessageId}

def lastExecution (service : Service) (pid : Nat) (id : MessageId) : Bool :=
  service.world.jobs.any fun job =>
    job.messageId = id && job.state = .active pid && job.isLast

def hasClaimed (service : Service) (pid : Nat) : Bool :=
  service.history.any fun entry => entry.pid = pid && match entry.op with
    | .update (.markProcessing _) => true
    | _ => false

def hasWaiting (service : Service) (id : MessageId) : Bool :=
  service.world.jobs.any fun job =>
    job.messageId = id && (job.state = .waiting || job.state = .delayed)

/-- Whether the step rejects a call, or loses a reply, while no job waits that could make it good:
the message is opened unanswered or, while it is to be sent, the failure of a publication is not
recorded or a job is given up in its last execution. -/
def strands (id : MessageId) (service : Service) : Event → Bool
  | .resume pid choice => match service.awaits pid with
      | some op => !service.hasWaiting id && (Stage.opensUnanswered id choice op ||
          service.isOpen id && (Stage.uncompensated id choice op ||
            service.lastExecution pid id && Stage.abandons (service.hasClaimed pid) choice op))
      | none => false
  | _ => false

def Upheld (stages : List Stage) (id : MessageId) (job : Job) : Prop :=
  job.messageId = id ∧ (job.state = .waiting ∨ job.state = .delayed ∨
    ∃ (pid : Nat) (stage : Stage), job.state = .active pid ∧ stages[pid]? = some stage ∧
      stage.upholds id job.isLast = true)

/-- Some process will publish a job of the message, or some job upholds it. -/
def Supported (service : Service) (stages : List Stage) (id : MessageId) : Prop :=
  (∃ (pid : Nat) (stage : Stage), stages[pid]? = some stage ∧ stage.publishes id = true) ∨
    ∃ job ∈ service.world.jobs, Upheld stages id job

def Sourced (service : Service) : Prop :=
  ∀ job ∈ service.world.jobs, job.fromRequeue = false →
    ∃ key, service.Owns key job.messageId ∧
      ∃ entry ∈ service.history, service.enqueues key entry = true

structure Supports (id : MessageId) (service : Service) (stages : List Stage) : Prop where
  idempotent : Idempotent service stages
  sourced : service.Sourced
  unclaimed : ∀ (pid : Nat) (other : MessageId), stages[pid]? = some (.dispatching other) →
    service.hasClaimed pid = false
  supported : ¬ service.world.messages.Closed id → service.Supported stages id

theorem Moves.opens (moves : Moves config service stages event following stages')
    (staged : Staged config stages service) (closed : service.world.messages.Closed id)
    (opened : ¬ following.world.messages.Closed id) :
    service.executes event = some (.update (.transitionFatalFailureToQueued id)) ∧
        service.world.messages.affected (.transitionFatalFailureToQueued id) = true ∨
      ∃ key dto, service.executes event = some (.createQueuedMessage key dto) ∧
        service.world.messages.findById id = none := by
  unfold Table.Closed at opened
  push Not at opened
  obtain ⟨row, found, opened⟩ := opened
  simp only [ne_eq, Bool.not_eq_false] at opened
  rcases moves.messages staged with ⟨same, _⟩ | ⟨statement, executed, issued, updated⟩ |
    ⟨fresh, createdAt, key, dto, newId, newKey, executed, inserted⟩
  · rw [same] at found
    have shut := closed row found
    simp [opened] at shut
  · rw [updated] at found
    obtain ⟨before, present, rfl⟩ := Table.findById_update_some found
    have shut := closed before present
    unfold Update.run at opened
    split at opened
    · rename_i selected
      rw [issued.set_isOpen selected.2, shut] at opened
      have same : before.id = id := Table.findById_id present
      cases statement with
      | transitionFatalFailureToQueued other =>
          obtain rfl : id = other := same.symm.trans selected.1
          exact Or.inl ⟨executed, by simp [Table.affected, Update.messageId, present, selected.2]⟩
      | _ => simp [Update.epoch] at opened
    · simp [shut] at opened
  · rw [inserted, Table.findById_insert] at found
    split at found
    · rename_i same
      refine Or.inr ⟨key, dto, executed, ?_⟩
      rw [same]
      exact Table.findById_eq_none.mpr newId
    · have shut := closed row found
      simp [opened] at shut

theorem Moves.sourced (moves : Moves config service stages event following stages')
    (staged : Staged config stages service) (supports : Supports id service stages) :
    following.Sourced := by
  intro job member initial
  rcases moves.jobs member with ⟨before, present, sameId, sameOrigin⟩ |
    ⟨pid, choice, stage, op, outcome, _, rfl, found, allowed, publication, _, _, history, _⟩
  · obtain ⟨key, owns, entry, recorded, enqueues⟩ :=
      supports.sourced before present (sameOrigin.trans initial)
    rw [sameId] at owns
    have sameCall := moves.keeps_call (staged.recorded entry recorded)
    refine ⟨key, moves.owns staged owns, entry, moves.keeps_entry recorded, ?_⟩
    simpa only [Service.enqueues, sameCall] using enqueues
  · cases op <;> simp only [Op.job?, Option.some.injEq, reduceCtorEq] at publication
    · subst publication
      obtain ⟨key, rfl⟩ := allowed
      obtain ⟨request, called, dto, rfl⟩ := staged.call found
      have owns := supports.idempotent.knows pid _ key _ found (Or.inr (Or.inr (Or.inl rfl)))
      have below := (List.getElem?_eq_some_iff.mp found).1
      rw [staged.length] at below
      refine ⟨key, moves.owns staged owns, ⟨pid, .enqueueSms _ _, outcome.reply, outcome.effective⟩,
        ?_, ?_⟩
      · rw [history]
        exact List.mem_append_right _ (List.mem_singleton.mpr rfl)
      · simp [Service.enqueues, moves.keeps_call below, called]
    · subst publication
      simp at initial

theorem Moves.unclaimed (moves : Moves config service stages event following stages')
    (staged : Staged config stages service) (supports : Supports id service stages) {pid : Nat}
    {other : MessageId} (found : stages'[pid]? = some (.dispatching other)) :
    following.hasClaimed pid = false := by
  rcases moves.history with ⟨same, requests, rfl⟩ |
    ⟨resumed, choice, stage, op, outcome, after, _, present, _, transition, _, _, history, rfl⟩
  · rw [List.getElem?_append] at found
    rw [hasClaimed, same]
    split at found
    · exact supports.unclaimed pid other found
    · -- the process is new
      rename_i fresh
      rw [List.any_eq_false]
      intro entry recorded
      have below := staged.recorded entry recorded
      rw [← staged.length] at below
      have different : entry.pid ≠ pid := by omega
      simp [different]
  · rw [hasClaimed, history, List.any_append]
    rcases getElem?_set_cases found with ⟨rfl, rfl⟩ | ⟨different, kept⟩
    · have quiet := Stage.dispatching_next transition
      have before := supports.unclaimed pid other (quiet.1 ▸ present)
      rw [hasClaimed] at before
      rw [before]
      cases op <;> simp [Op.fallible] at quiet <;> simp
    · have before := supports.unclaimed pid other kept
      rw [hasClaimed] at before
      simp [before, Ne.symm different]

theorem Upheld.append {job : Job} (upheld : Upheld stages id job) (more : List Stage) :
    Upheld (stages ++ more) id job := by
  obtain ⟨same, waiting | delayed | ⟨pid, stage, active, found, upholds⟩⟩ := upheld
  · exact ⟨same, Or.inl waiting⟩
  · exact ⟨same, Or.inr (Or.inl delayed)⟩
  · have below := (List.getElem?_eq_some_iff.mp found).1
    refine ⟨same, Or.inr (Or.inr ⟨pid, stage, active, ?_, upholds⟩)⟩
    rw [List.getElem?_append_left below]
    exact found

theorem Supported.setJob (supported : service.Supported stages id) {index : Nat} {before after : Job}
    (found : service.world.jobs[index]? = some before) {more : List Stage}
    (jobs : following.world.jobs = service.world.jobs.set index after)
    (upheld : Upheld stages id before → Upheld (stages ++ more) id after) :
    following.Supported (stages ++ more) id := by
  rcases supported with ⟨pid, stage, present, publishes⟩ | ⟨job, member, upholds⟩
  · have below := (List.getElem?_eq_some_iff.mp present).1
    exact Or.inl ⟨pid, stage, by rw [List.getElem?_append_left below]; exact present, publishes⟩
  · obtain ⟨position, present⟩ := List.mem_iff_getElem?.mp member
    have below := (List.getElem?_eq_some_iff.mp found).1
    right
    by_cases same : position = index
    · subst same
      rw [found, Option.some.injEq] at present
      subst present
      exact ⟨after, by rw [jobs]; exact List.mem_set below after, upheld upholds⟩
    · refine ⟨job, ?_, upholds.append more⟩
      rw [jobs]
      refine List.mem_of_getElem? (i := position) ?_
      rw [List.getElem?_set_ne (Ne.symm same)]
      exact present

theorem Upheld.settled (staged : Staged config stages service) {job : Job} {pid : Nat}
    {result : Except Failure Answer} (active : job.state = .active pid)
    (settled : service.result pid = some result) (upheld : Upheld stages id job) :
    Upheld stages id (job.settled result) := by
  obtain ⟨same, waiting | delayed | ⟨other, stage, state, found, upholds⟩⟩ := upheld
  · simp [active] at waiting
  · simp [active] at delayed
  · obtain rfl : pid = other := by simpa [active] using state
    obtain ⟨request, stage', _, present, settles⟩ := staged.result settled
    rw [found, Option.some.injEq] at present
    subst present
    cases stage with
    | aborted other =>
        simp only [Stage.upholds, Bool.and_eq_true, decide_eq_true_eq, Bool.not_eq_true'] at upholds
        obtain ⟨_, more⟩ := upholds
        simp only [Job.isLast, decide_eq_false_iff_not, not_le] at more
        cases result with
        | ok answer => cases request <;> simp [Stage.Settles] at settles
        | error error => exact ⟨same, Or.inr (Or.inl (by simp [Job.settled, more]))⟩
    | dispatching | loaded | sending | counted | throttled | accepted =>
        cases request <;> cases result <;> simp [Stage.Settles] at settles
    | _ => simp [Stage.upholds] at upholds

theorem Supports.unpublished (supports : Supports id service stages) {pid : Nat} {key : String}
    (found : stages[pid]? = some (.creator key id)) :
    ∀ job ∈ service.world.jobs, job.fromRequeue = false → job.messageId ≠ id := by
  rintro job member initial rfl
  obtain ⟨other, ⟨row, present, sameKey⟩, entry, recorded, enqueues⟩ :=
    supports.sourced job member initial
  obtain ⟨row', present', rfl⟩ :=
    supports.idempotent.knows pid _ key _ found (Or.inr (Or.inr (Or.inl rfl)))
  rw [present, Option.some.injEq] at present'
  subst present' sameKey
  have published : 0 < service.history.countP (service.enqueues row.idempotencyKey) :=
    List.countP_pos_iff.mpr ⟨entry, recorded, enqueues⟩
  have creating : 0 < stages.countP (Stage.isCreator row.idempotencyKey) :=
    List.countP_pos_iff.mpr ⟨_, List.mem_of_getElem? found, by simp [Stage.isCreator]⟩
  have bound := supports.idempotent.enqueued row.idempotencyKey
  have once := supports.idempotent.created row.idempotencyKey
  omega

section Resume

variable {pid : Nat} {choice : Choice} {before after : Stage} {op : Op}
  {outcome : World.Outcome op}

theorem strands_resume (kept : service.strands id (.resume pid choice) = false)
    (awaits : service.awaits pid = some op) (unsupplied : service.hasWaiting id = false) :
    Stage.opensUnanswered id choice op = false ∧ (service.isOpen id = true →
      Stage.uncompensated id choice op = false ∧ ¬ (service.lastExecution pid id = true ∧
        Stage.abandons (service.hasClaimed pid) choice op = true)) := by
  simpa [strands, awaits, unsupplied] using kept

theorem isOpen_of_not_closed (opened : ¬ service.world.messages.Closed id) :
    service.isOpen id = true := by
  by_contra shut
  refine opened fun row found => ?_
  simpa [isOpen, found] using shut

theorem Supported.waiting (executed : service.world.exec op choice = some outcome)
    (world : following.world = outcome.world) (waiting : service.hasWaiting id = true) :
    following.Supported stages' id := by
  obtain ⟨job, member, waits⟩ := List.any_eq_true.mp waiting
  simp only [Bool.and_eq_true, Bool.or_eq_true, decide_eq_true_eq] at waits
  obtain ⟨same, state⟩ := waits
  refine Or.inr ⟨job, by rw [world]; exact World.exec_keeps_job executed member, same, ?_⟩
  rcases state with waiting | delayed
  · exact Or.inl waiting
  · exact Or.inr (Or.inl delayed)

theorem Supports.publication (supports : Supports id service stages)
    (found : stages[pid]? = some before) (allowed : before.Allowed op)
    (executed : service.world.exec op choice = some outcome) {answer : op.Reply}
    (answered : outcome.reply = .ok answer) (publication : Stage.isPublication id op = true) :
    ∃ job ∈ outcome.world.jobs, job.messageId = id ∧ job.state = .waiting := by
  obtain ⟨job, added, same, waiting⟩ :
      ∃ job, op.job? = some job ∧ job.messageId = id ∧ job.state = .waiting := by
    cases op <;> simp [Stage.isPublication] at publication <;> exact ⟨_, rfl, publication, rfl⟩
  refine ⟨job, ?_, same, waiting⟩
  have fresh : job.fromRequeue = false → ∀ other ∈ service.world.jobs,
      other.fromRequeue = false → other.messageId ≠ job.messageId := by
    intro initial
    cases op <;> simp only [Op.job?, Option.some.injEq, reduceCtorEq] at added
    · obtain ⟨key, rfl⟩ := allowed
      subst added
      obtain rfl : _ = id := same
      exact supports.unpublished found
    · subst added
      simp at initial
  rw [World.exec_publication executed added answered fresh]
  exact List.mem_append_right _ (List.mem_singleton.mpr rfl)

theorem Supports.publisher (supports : Supports id service stages)
    (found : stages[pid]? = some before) (allowed : before.Allowed op)
    (transition : Stage.Transition config.caseMapping before op outcome.reply after)
    (executed : service.world.exec op choice = some outcome)
    (compensated : Stage.uncompensated id choice op = false)
    (opened : ¬ outcome.world.messages.Closed id) (publishes : before.publishes id = true) :
    after.publishes id = true ∨ ∃ job ∈ outcome.world.jobs, job.messageId = id ∧
      job.state = .waiting := by
  rcases Stage.publishes_next transition publishes with
    still | ⟨publication, answer, answered⟩ | ⟨statement, rfl, compensation⟩
  · exact Or.inl still
  · exact Or.inr (supports.publication found allowed executed answered publication)
  · have ran : choice.isExecuted = true := by
      simpa [Stage.uncompensated, compensation] using compensated
    have selects : statement.messageId = id ∧ statement.isUnguardedStatus = true := by
      cases statement <;> simp [Stage.isCompensation] at compensation
      all_goals exact ⟨compensation, rfl⟩
    rcases closed_written executed selects.1 selects.2 with ⟨unexecuted, _⟩ | closed
    · simp [ran] at unexecuted
    · exact absurd closed opened

theorem Supports.upheld (supports : Supports id service stages)
    (found : stages[pid]? = some before)
    (transition : Stage.Transition config.caseMapping before op outcome.reply after)
    (executed : service.world.exec op choice = some outcome)
    (sustained : ¬ (service.lastExecution pid id = true ∧
      Stage.abandons (service.hasClaimed pid) choice op = true))
    (opened : ¬ outcome.world.messages.Closed id) {job : Job} (member : job ∈ service.world.jobs)
    (upheld : Upheld stages id job) : Upheld (stages.set pid after) id job := by
  have below := (List.getElem?_eq_some_iff.mp found).1
  obtain ⟨same, waiting | delayed | ⟨other, stage, active, present, upholds⟩⟩ := upheld
  · exact ⟨same, Or.inl waiting⟩
  · exact ⟨same, Or.inr (Or.inl delayed)⟩
  · refine ⟨same, Or.inr (Or.inr ?_)⟩
    by_cases own : other = pid
    · subst own
      rw [found, Option.some.injEq] at present
      subst present
      rcases Stage.upholds_next transition executed upholds with still | closed | ⟨last, abandons⟩
      · exact ⟨other, after, active, by simp [below], still⟩
      · exact absurd closed opened
      · -- the last execution gives up before it has closed the row
        have lastExecution : service.lastExecution other id = true :=
          List.any_eq_true.mpr ⟨job, member, by simp [same, active, last]⟩
        refine absurd ⟨lastExecution, abandons _ ?_⟩ sustained
        rintro rfl
        exact supports.unclaimed other id found
    · refine ⟨other, stage, active, ?_, upholds⟩
      rw [List.getElem?_set_ne (Ne.symm own)]
      exact present

theorem Supported.resume (supports : Supports id service stages)
    (found : stages[pid]? = some before) (allowed : before.Allowed op)
    (transition : Stage.Transition config.caseMapping before op outcome.reply after)
    (executed : service.world.exec op choice = some outcome)
    (world : following.world = outcome.world)
    (compensated : Stage.uncompensated id choice op = false)
    (sustained : ¬ (service.lastExecution pid id = true ∧
      Stage.abandons (service.hasClaimed pid) choice op = true))
    (opened : ¬ following.world.messages.Closed id) (supported : service.Supported stages id) :
    following.Supported (stages.set pid after) id := by
  have below := (List.getElem?_eq_some_iff.mp found).1
  unfold Supported
  rw [world] at opened ⊢
  rcases supported with ⟨other, stage, present, publishes⟩ | ⟨job, member, upheld⟩
  · by_cases own : other = pid
    · subst own
      rw [found, Option.some.injEq] at present
      subst present
      rcases supports.publisher found allowed transition executed compensated opened publishes with
        still | ⟨job, member, same, waiting⟩
      · exact Or.inl ⟨other, after, by simp [below], still⟩
      · exact Or.inr ⟨job, member, same, Or.inl waiting⟩
    · refine Or.inl ⟨other, stage, ?_, publishes⟩
      rw [List.getElem?_set_ne (Ne.symm own)]
      exact present
  · exact Or.inr ⟨job, World.exec_keeps_job executed member,
      supports.upheld found transition executed sustained opened member upheld⟩

end Resume

theorem Supported.append (supported : service.Supported stages id) (more : List Stage) :
    service.Supported (stages ++ more) id := by
  rcases supported with ⟨pid, stage, present, publishes⟩ | ⟨job, member, upheld⟩
  · have below := (List.getElem?_eq_some_iff.mp present).1
    exact Or.inl ⟨pid, stage, by rw [List.getElem?_append_left below]; exact present, publishes⟩
  · exact Or.inr ⟨job, member, upheld.append more⟩

theorem Upheld.executed (staged : Staged config stages service) {job : Job}
    (same : job.messageId = id) : Upheld (stages ++ [.dispatching job.messageId]) id
      { job with state := .active service.processes.length } := by
  refine ⟨same, Or.inr (Or.inr ⟨_, .dispatching job.messageId, rfl, ?_, by simp [Stage.upholds, same]⟩)⟩
  rw [← staged.length]
  simp

theorem Moves.supported (moves : Moves config service stages event following stages')
    (staged : Staged config stages service) (supports : Supports id service stages)
    (kept : service.strands id event = false) (opened : ¬ following.world.messages.Closed id) :
    following.Supported stages' id := by
  by_cases closed : service.world.messages.Closed id
  · have opens := moves.opens staged closed opened
    cases moves with
    | @resume pid choice before after op outcome _ found awaits _ transition executed world _ _ =>
        by_cases waiting : service.hasWaiting id = true
        · exact .waiting executed world waiting
        have below := (List.getElem?_eq_some_iff.mp found).1
        have answers := (strands_resume kept awaits (by simpa using waiting)).1
        refine Or.inl ⟨pid, after, by simp [below], ?_⟩
        simp only [executes] at opens
        split at opens
        · rename_i ran
          rw [awaits] at opens
          refine Stage.publishes_of_opens transition executed ran answers ?_
          rcases opens with ⟨same, affected⟩ | ⟨key, dto, same, absent⟩
          · exact Or.inl ⟨Option.some.inj same, affected⟩
          · refine Or.inr ⟨key, dto, Option.some.inj same, absent, ?_⟩
            rw [← world]
            by_contra missing
            refine opened fun row present => ?_
            exact absurd ⟨row, present⟩ missing
        · simp at opens
    | _ => simp [executes] at opens
  · have supported := supports.supported closed
    cases moves with
    | resume found awaits allowed transition executed world _ _ =>
        by_cases waiting : service.hasWaiting id = true
        · exact .waiting executed world waiting
        · have unsupplied : service.hasWaiting id = false := by simpa using waiting
          obtain ⟨compensated, sustained⟩ :=
            (strands_resume kept awaits unsupplied).2 (isOpen_of_not_closed closed)
          exact supported.resume supports found allowed transition executed world compensated
            sustained opened
    | request _ => exact supported.append _
    | execute found _ =>
        exact supported.setJob found rfl fun upheld => .executed staged upheld.1
    | @settle index job pid result found active settled =>
        have stays : (service.setJob index (job.settled result)).Supported (stages ++ []) id :=
          supported.setJob found rfl fun upheld => (upheld.settled staged active settled).append []
        simpa using stays
    | @stall index job pid found _ =>
        have stays :
            (service.setJob index { job with state := .waiting }).Supported (stages ++ []) id :=
          supported.setJob found rfl fun upheld => ⟨upheld.1, Or.inl rfl⟩
        simpa using stays
    | _ => exact supported

theorem Moves.supports (moves : Moves config service stages event following stages')
    (staged : Staged config stages service) (supports : Supports id service stages)
    (kept : service.strands id event = false) : Supports id following stages' where
  idempotent := moves.idempotent staged supports.idempotent
  sourced := moves.sourced staged supports
  unclaimed _ _ found := moves.unclaimed staged supports found
  supported opened := moves.supported staged supports kept opened

theorem initial_supports : Supports id initial [] where
  idempotent := initial_idempotent
  sourced job member := by simp [initial, World.initial] at member
  unclaimed pid other found := by simp at found
  supported opened := by
    refine absurd ?_ opened
    intro row found
    simp [initial, World.initial, Table.findById, Table.empty] at found

/-- No request for the message, and no execution of a job of it, is between two of its steps. -/
def rests (service : Service) (row : SmsMessage) : Bool :=
  service.processes.all fun process => !process.tag.isOf row || process.program.result.isSome

theorem rests_result {row : SmsMessage} (rests : service.rests row = true) {pid : Nat}
    {request : Call} (called : service.call pid = some request) (concerns : request.isOf row = true) :
    ∃ result, service.result pid = some result := by
  obtain ⟨process, found, rfl⟩ := Option.map_eq_some_iff.mp called
  have settled := List.all_eq_true.mp rests process (List.mem_of_getElem? found)
  simp only [concerns, Bool.not_true, Bool.false_or, Option.isSome_iff_exists] at settled
  obtain ⟨result, settled⟩ := settled
  exact ⟨result, by simp [Service.result, found, settled]⟩

theorem Supports.unsettled (supports : Supports id service stages)
    (staged : Staged config stages service) {row : SmsMessage}
    (found : service.world.messages.findById id = some row) {pid : Nat} {stage : Stage}
    (present : stages[pid]? = some stage) (publishes : stage.publishes id = true) :
    service.rests row = false := by
  by_contra rests
  simp only [Bool.not_eq_false] at rests
  have identified : row.id = id := Table.findById_id found
  have keyed : ∀ {key : String}, stage.Knows key id → key = row.idempotencyKey := by
    intro key knows
    obtain ⟨row', found', rfl⟩ := supports.idempotent.knows pid stage key id present knows
    rw [found, Option.some.injEq] at found'
    rw [found']
  obtain ⟨request, called, serves⟩ := staged.call present
  have concerns : request.isOf row = true := by
    cases stage <;> simp only [Stage.publishes, decide_eq_true_eq, Bool.false_eq_true] at publishes
    case creator key other | unpublished key other =>
      obtain ⟨dto, rfl⟩ := serves
      exact decide_eq_true (keyed (by simp [Stage.Knows, publishes]))
    case reopened snapshot | restoring snapshot error =>
      obtain rfl : request = .requeue snapshot.id := serves
      simp [Call.isOf, identified, publishes]
  obtain ⟨result, settled⟩ := rests_result rests called concerns
  obtain ⟨request', stage', called', present', settles⟩ := staged.result settled
  rw [present, Option.some.injEq] at present'
  subst present'
  cases stage <;> simp only [Stage.publishes, Bool.false_eq_true] at publishes
  all_goals cases request' <;> cases result <;> simp [Stage.Settles] at settles

theorem Upheld.isPending {job : Job} (upheld : Upheld stages id job) : job.isPending = true := by
  obtain ⟨_, state | state | ⟨_, _, state, _⟩⟩ := upheld <;> simp [Job.isPending, state]

/-- In a run without the rejections that `strands` names, a message that is to be sent, and that no
process is working on, has a job that BullMQ will execute. -/
theorem not_stranded {row : SmsMessage}
    (reaches : Reaches (step config) (fun service event => service.strands id event = false) initial
      service)
    (found : service.world.messages.findById id = some row)
    (opened : row.status = .queued ∨ row.status = .processing) (rests : service.rests row = true) :
    ∃ job ∈ service.world.jobs, job.messageId = id ∧ job.isPending = true := by
  obtain ⟨stages, staged, supports⟩ := invariant (Supports id) reaches initial_supports
    (fun _ _ _ _ _ staged supports kept moves => moves.supports staged supports kept)
  have unclosed : ¬ service.world.messages.Closed id := by
    intro closed
    have shut := closed row found
    rcases opened with queued | processing
    · simp [queued, SmsStatus.isOpen] at shut
    · simp [processing, SmsStatus.isOpen] at shut
  rcases supports.supported unclosed with ⟨pid, stage, present, publishes⟩ | ⟨job, member, upheld⟩
  · have unsettled := supports.unsettled staged found present publishes
    simp [rests] at unsettled
  · exact ⟨job, member, upheld.1, upheld.isPending⟩

/-- An execution of a job rejects after its claim, and the job waits for its retry. -/
theorem not_stranded_retried : ∃ service row,
    Reaches (step (.defaults ["twilio"])) (fun service event => service.strands 0 event = false)
      initial service ∧
    service.world.messages.findById 0 = some row ∧ row.status = .processing ∧
    service.rests row = true ∧
    ∃ job ∈ service.world.jobs, job.messageId = 0 ∧ job.isPending = true := by
  obtain ⟨service, reaches, found⟩ := execute_exists
    (step (.defaults ["twilio"])) (fun service event => service.strands 0 event = false) initial
    ([Event.sends "key"] ++ Event.answers 0 8 ++ [.execute 0] ++ Event.answers 1 2 ++
      [.resume 1 (.rejected none), .settle 0])
    (fun service => (service.world.messages.findById 0).any fun row =>
      row.status = .processing && service.rests row)
    (by decide)
  simp only [Bool.and_eq_true, Option.any_eq_true, decide_eq_true_eq] at found
  obtain ⟨row, present, processing, rests⟩ := found
  exact ⟨service, row, reaches, present, processing, rests,
    not_stranded reaches present (Or.inr processing) rests⟩

/-- The count of attempts rejects in every execution of the only job: the message stays
`PROCESSING`, which neither a job nor an administrator can move on. -/
theorem stranded : ∃ service row,
    Reaches (step (.defaults ["twilio"])) (fun _ _ => True) initial service ∧
    service.world.messages.findById 0 = some row ∧ row.status = .processing ∧
    service.rests row = true ∧ ∀ job ∈ service.world.jobs, job.isPending = false := by
  obtain ⟨service, reaches, found⟩ := execute_exists
    (step (.defaults ["twilio"])) (fun _ _ => True) initial
    ([Event.sends "key"] ++ Event.answers 0 8 ++
      [.execute 0] ++ Event.answers 1 2 ++ [.resume 1 (.rejected none), .settle 0] ++
      [.execute 0] ++ Event.answers 2 2 ++ [.resume 2 (.rejected none), .settle 0] ++
      [.execute 0] ++ Event.answers 3 2 ++ [.resume 3 (.rejected none), .settle 0])
    (fun service => ((service.world.messages.findById 0).any fun row =>
      row.status = .processing && service.rests row) &&
        service.world.jobs.all fun job => !job.isPending)
    (by decide)
  simp only [Bool.and_eq_true, Option.any_eq_true, decide_eq_true_eq, List.all_eq_true,
    Bool.not_eq_true'] at found
  obtain ⟨⟨row, present, processing, rests⟩, abandoned⟩ := found
  exact ⟨service, row, reaches, present, processing, rests, abandoned⟩

end Service

end SmsNotification
