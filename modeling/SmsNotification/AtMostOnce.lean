import SmsNotification.Statements

/-!
How often a message is accepted by a provider when the executions of its jobs do not overlap. Each
acceptance is either recorded by `markSent` or still held by the one dispatch that may go on; once
recorded, only the compensation of a requeue can open the row again.
-/

namespace SmsNotification

open Concurrency

namespace Stage

variable {caseMapping : Js.CaseMapping} {stage stage' : Stage} {op : Op} {id : MessageId}

def isCommitted (id : MessageId) : Stage → Bool
  | loaded other => other = id
  | sending other => other = id
  | counted other => other = id
  | throttled other => other = id
  | accepted other _ _ => other = id
  | _ => false

def isArmed (id : MessageId) : Stage → Bool
  | dispatching other => other = id
  | stage => stage.isCommitted id

def isAccepted (id : MessageId) : Stage → Bool
  | accepted other _ _ => other = id
  | _ => false

def isSuccess (id : MessageId) : (op : Op) → Except Failure op.Reply → Bool
  | .sendSms _ options, .ok result => options.referenceId = id && result.success
  | _, _ => false

def isMark (id : MessageId) : Op → Bool
  | .update (.markSent other _ _ _) => other = id
  | _ => false

def FindsOpen (id : MessageId) (op : Op) (reply : Except Failure op.Reply) : Prop :=
  match op, reply with
  | .findById other, .ok (some row) => other = id ∧ row.status.isOpen = true
  | _, _ => False

theorem committed_armed (committed : stage.isCommitted id = true) : stage.isArmed id = true := by
  cases stage <;> simp_all [isArmed, isCommitted]

theorem start_armed {request : Call} (notDispatch : request.isDispatch = false) :
    (start caseMapping request).isArmed id = false := by
  cases request with
  | dispatch other => simp [Call.isDispatch] at notDispatch
  | twilio callback =>
      simp only [start]
      split <;> rfl
  | _ => rfl

theorem initial_committed (stage : Stage) (initial : stage.isInitial = true) :
    stage.isCommitted id = false := by
  cases stage <;> simp_all [isInitial, isCommitted]

theorem initial_accepted (stage : Stage) (initial : stage.isInitial = true) :
    stage.isAccepted id = false := by
  cases stage <;> simp_all [isInitial, isAccepted]

theorem accepted_committed (accepted : stage.isAccepted id = true) :
    stage.isCommitted id = true := by
  cases stage <;> simp_all [isAccepted, isCommitted]

theorem committed_next {reply : Except Failure op.Reply}
    (transition : Transition caseMapping stage op reply stage')
    (committed : stage'.isCommitted id = true) :
    stage.isCommitted id = true ∨ FindsOpen id op reply := by
  cases transition with
  | quiet | stored | unlocked => exact Or.inl committed
  | claimed | counted | throttled | accepted | notAccepted =>
      left
      simp_all [isCommitted]
  | loaded same opened =>
      right
      have found := of_decide_eq_true committed
      refine ⟨found, ?_⟩
      cases status : SmsMessage.status _ <;> simp_all [nonDispatchableStatuses, SmsStatus.isOpen]
  | _ => simp [isCommitted] at committed

theorem armed_next {reply : Except Failure op.Reply}
    (transition : Transition caseMapping stage op reply stage')
    (armed : stage'.isArmed id = true) : stage.isArmed id = true := by
  cases transition with
  | quiet | stored | unlocked => exact armed
  | loaded | claimed | counted | throttled | accepted | notAccepted =>
      simp_all [isArmed, isCommitted]
  | _ => simp [isArmed, isCommitted] at armed

theorem mark_accepted (allowed : stage.Allowed op) (mark : isMark id op = true) :
    stage.isAccepted id = true := by
  cases op with
  | update statement =>
      cases statement <;> simp only [isMark, Bool.false_eq_true] at mark
      obtain rfl := allowed
      exact mark
  | _ => simp [isMark] at mark

theorem isMark_cases (mark : isMark id op = true) :
    ∃ provider externalId sentAt, op = .update (.markSent id provider externalId sentAt) := by
  cases op with
  | update statement =>
      cases statement <;> simp only [isMark, Bool.false_eq_true, decide_eq_true_eq] at mark
      subst mark
      exact ⟨_, _, _, rfl⟩
  | _ => simp [isMark] at mark

theorem mark_next {provider : String} {externalId : Option String} {sentAt : Date}
    {reply : Except Failure Bool}
    (transition : Transition caseMapping stage (.update (.markSent id provider externalId sentAt))
      reply stage') : stage.isCommitted id = true ∧ stage'.isCommitted id = false := by
  cases transition with
  | quiet infallible => simp [Op.fallible] at infallible
  | sent | sentFailed => simp [isCommitted]
  | failed allowed handles | failedClaim allowed handles =>
      obtain rfl := allowed
      simp [Handles] at handles

theorem accepted_next (id : MessageId) {reply : Except Failure op.Reply}
    (transition : Transition caseMapping stage op reply stage') :
    (if stage'.isAccepted id then 1 else 0) + (if isMark id op then 1 else 0) =
      (if stage.isAccepted id then 1 else 0) + (if isSuccess id op reply then 1 else 0) := by
  cases transition with
  | quiet infallible => cases op <;> simp_all [isMark, isSuccess, Op.fallible]
  | accepted same success => simp [isAccepted, isMark, isSuccess, same, success]
  | @notAccepted _ _ _ reply _ failure =>
      cases reply with
      | error error => simp [isAccepted, isMark, isSuccess]
      | ok result => simp [isAccepted, isMark, isSuccess, failure]
  | failed allowed handles | failedClaim allowed handles =>
      have unaccepted : stage.isAccepted id = false := by
        rcases handles with ⟨_, rfl⟩ | ⟨_, _, rfl⟩ | ⟨_, rfl⟩ <;> rfl
      have unmarked : isMark id op = false := by
        by_contra mark
        simp [mark_accepted allowed (by simpa using mark)] at unaccepted
      rw [unaccepted, unmarked]
      simp [isSuccess, isAccepted]
  | _ => simp [isAccepted, isMark, isSuccess]

end Stage

/-- A row that only a requeue could open again, if its status allowed one. -/
def SmsMessage.IsSealed (row : SmsMessage) : Prop := row.status = .sent ∨ row.status = .failed

/-- The statements that select a row whatever its status, and do not seal it. -/
def Update.unseals (id : MessageId) : Update → Bool
  | .markFatalFailure other _ _ _ => other = id
  | .restoreFatalFailure other _ _ _ => other = id
  | .applyDeliveryStatus params => params.messageId = id
  | _ => false

theorem SmsMessage.IsSealed.run {row : SmsMessage} (isSealed : row.IsSealed) {statement : Update}
    (kept : statement.unseals row.id = false) : (statement.run row).IsSealed := by
  unfold Update.run
  split
  · rename_i selected
    obtain ⟨same, guarded⟩ := selected
    rcases isSealed with status | status
    all_goals
      cases statement <;>
        simp_all [Update.unseals, Update.guard, Update.set, Update.messageId, IsSealed]
  · exact isSealed

theorem markSent_status {row : SmsMessage} {provider : String} {externalId : Option String}
    {sentAt : Date} :
    ((Update.markSent row.id provider externalId sentAt).run row).status = .sent := by
  simp [Update.run, Update.messageId, Update.guard, Update.set]

def Call.isCallback : Call → Bool
  | twilio _ => true
  | bird _ _ => true
  | _ => false

namespace Service

variable {config : Config} {service following : Service} {stages stages' : List Stage}
  {event : Event} {id : MessageId}

def succeeds (id : MessageId) (entry : Entry Op Op.Reply Failure) : Bool :=
  Stage.isSuccess id entry.op entry.reply

def marks (id : MessageId) (entry : Entry Op Op.Reply Failure) : Bool := Stage.isMark id entry.op

/-- The steps of a run without callbacks in which the executions for one message do not overlap,
writes to the table succeed and a publication that rejects has added no job. -/
def sequential (service : Service) : Event → Bool
  | .request call => !call.isCallback
  | .execute index => service.world.jobs[index]?.all fun job => service.processes.all fun process =>
      process.tag ≠ .dispatch job.messageId || process.program.result.isSome
  | .resume pid choice => match service.awaits pid with
      | some (.update _) => choice.isAnswered
      | some (.createQueuedMessage _ _) => choice.isAnswered
      | some (.enqueueSms _ _) => !choice.isLost
      | some (.requeueSms _ _) => !choice.isLost
      | some (.enqueueDeadLetter _) => !choice.isLost
      | _ => true
  | _ => true

/-- A requeue that could not publish its job restores `FATAL_FAILURE` after the message was sent. -/
def unsends (id : MessageId) (service : Service) : Event → Bool
  | .resume pid _ => match service.awaits pid with
      | some (.update (.restoreFatalFailure other _ _ _)) =>
          other = id && service.history.any (marks id)
      | _ => false
  | _ => false

def SentOnce (id : MessageId) (service : Service) : Prop :=
  (service.history.any (marks id) = true →
    ∀ row, service.world.messages.findById id = some row →
      row.status ≠ .fatalFailure ∧ row.status ≠ .queued) ∧
  service.history.countP (succeeds id) ≤ 1

structure Single (id : MessageId) (service : Service) (stages : List Stage) : Prop where
  noCallbacks : ∀ (pid : Nat) (request : Call), service.call pid = some request →
    request.isCallback = false
  armed : stages.countP (Stage.isArmed id) ≤ 1
  present : ∀ (pid : Nat) (stage : Stage), stages[pid]? = some stage →
    stage.isCommitted id = true → ∃ row, service.world.messages.findById id = some row
  balance : service.history.countP (succeeds id) =
    stages.countP (Stage.isAccepted id) + service.history.countP (marks id)
  marked : service.history.countP (marks id) = 0 ∨
    service.history.countP (marks id) = 1 ∧ stages.countP (Stage.isCommitted id) = 0 ∧
      ∃ row, service.world.messages.findById id = some row ∧ row.IsSealed

theorem Single.committed_le (single : Single id service stages) :
    stages.countP (Stage.isCommitted id) ≤ 1 := by
  have armed := single.armed
  have bound : stages.countP (Stage.isCommitted id) ≤ stages.countP (Stage.isArmed id) :=
    List.countP_mono_left fun _ _ committed => Stage.committed_armed committed
  omega

theorem countP_accepted_le :
    stages.countP (Stage.isAccepted id) ≤ stages.countP (Stage.isCommitted id) :=
  List.countP_mono_left fun _ _ accepted => Stage.accepted_committed accepted

theorem Single.sentOnce (single : Single id service stages) : service.SentOnce id := by
  have balance := single.balance
  have committed := single.committed_le
  have accepted : stages.countP (Stage.isAccepted id) ≤ stages.countP (Stage.isCommitted id) :=
    countP_accepted_le
  constructor
  · intro marked row found
    have positive : 0 < service.history.countP (marks id) := by
      rw [List.countP_pos_iff]
      simpa using marked
    rcases single.marked with none | ⟨_, _, row', found', status⟩
    · omega
    · rw [found, Option.some.injEq] at found'
      subst found'
      rcases status with status | status <;> simp [status]
  · rcases single.marked with none | ⟨once, uncommitted, _⟩
    · omega
    · omega

theorem Moves.noCallbacks (moves : Moves config service stages event following stages')
    (single : Single id service stages) (admitted : service.sequential event = true) {pid : Nat}
    {request : Call} (called : following.call pid = some request) : request.isCallback = false := by
  cases moves with
  | resume _ _ _ _ _ _ _ calls =>
      rw [calls] at called
      exact single.noCallbacks pid request called
  | request _ =>
      rcases call_spawn called with before | ⟨_, rfl⟩
      · exact single.noCallbacks pid request before
      · simpa [sequential] using admitted
  | execute _ _ =>
      rcases call_spawn called with before | ⟨_, rfl⟩
      · exact single.noCallbacks pid request before
      · rfl
  | _ => exact single.noCallbacks pid request called

theorem Staged.unarmed (staged : Staged config stages service) (rests : ∀ process ∈ service.processes,
      process.tag = .dispatch id → process.program.result.isSome = true) :
    stages.countP (Stage.isArmed id) = 0 := by
  rw [List.countP_eq_zero]
  intro stage member armed
  obtain ⟨pid, found⟩ := List.mem_iff_getElem?.mp member
  obtain ⟨request, called, serves⟩ := staged.call found
  have dispatches : request = .dispatch id := by
    cases stage <;> simp only [Stage.isArmed, Stage.isCommitted, decide_eq_true_eq,
      Bool.false_eq_true] at armed <;> subst armed <;> exact serves
  subst dispatches
  obtain ⟨process, present, same⟩ := Option.map_eq_some_iff.mp called
  obtain ⟨result, settled⟩ := Option.isSome_iff_exists.mp
    (rests process (List.mem_of_getElem? present) same)
  obtain ⟨stage', found', settles⟩ := staged.tracked.result present settled
  rw [found, Option.some.injEq] at found'
  subst found'
  rw [same] at settles
  cases result with
  | ok answer =>
      obtain rfl := settles
      simp [Stage.isArmed, Stage.isCommitted] at armed
  | error error => rcases settles with rfl | rfl <;> simp [Stage.isArmed, Stage.isCommitted] at armed

theorem Moves.armed_le (moves : Moves config service stages event following stages')
    (id : MessageId) :
    stages'.countP (Stage.isArmed id) ≤ stages.countP (Stage.isArmed id) ∨
    ∃ index job, event = .execute index ∧ service.world.jobs[index]? = some job ∧
      job.messageId = id ∧
      stages'.countP (Stage.isArmed id) ≤ stages.countP (Stage.isArmed id) + 1 := by
  cases moves with
  | resume found _ _ transition _ _ _ _ =>
      exact Or.inl (countP_set_le (Stage.isArmed id) found (Stage.armed_next transition))
  | @request request notDispatch =>
      rw [List.countP_append, List.countP_singleton, Stage.start_armed notDispatch]
      exact Or.inl (by simp)
  | @execute index job found _ =>
      rw [List.countP_append, List.countP_singleton]
      by_cases same : job.messageId = id
      · exact Or.inr ⟨index, job, rfl, found, same, by split <;> omega⟩
      · exact Or.inl (by simp [Stage.isArmed, same])
  | _ => exact Or.inl (Nat.le_refl _)

theorem Moves.armed (moves : Moves config service stages event following stages')
    (staged : Staged config stages service) (before : stages.countP (Stage.isArmed id) ≤ 1)
    (rests : ∀ index job, event = .execute index → service.world.jobs[index]? = some job →
      job.messageId = id → ∀ process ∈ service.processes, process.tag = .dispatch id →
        process.program.result.isSome = true) : stages'.countP (Stage.isArmed id) ≤ 1 := by
  rcases moves.armed_le id with fewer | ⟨index, job, started, found, same, more⟩
  · omega
  · have none := staged.unarmed (rests index job started found same)
    omega

theorem FindsOpen.row {world : World} {choice : Choice} {op : Op} {outcome : World.Outcome op}
    (executed : world.exec op choice = some outcome)
    (finds : Stage.FindsOpen id op outcome.reply) :
    ∃ row, world.messages.findById id = some row ∧ row.status.isOpen = true := by
  unfold Stage.FindsOpen at finds
  split at finds
  · rename_i other row answered
    obtain ⟨rfl, opened⟩ := finds
    exact ⟨row, World.exec_findById executed answered, opened⟩
  · exact finds.elim

theorem Moves.present (moves : Moves config service stages event following stages')
    (staged : Staged config stages service)
    (earlier : ∀ (pid : Nat) (stage : Stage), stages[pid]? = some stage →
      stage.isCommitted id = true → ∃ row, service.world.messages.findById id = some row)
    {pid : Nat} {stage : Stage} (found : stages'[pid]? = some stage)
    (committed : stage.isCommitted id = true) :
    ∃ row, following.world.messages.findById id = some row := by
  have kept : (∃ row, service.world.messages.findById id = some row) →
      ∃ row, following.world.messages.findById id = some row := by
    rintro ⟨row, present⟩
    obtain ⟨after, present', _⟩ := moves.keeps_row staged present
    exact ⟨after, present'⟩
  refine kept ?_
  rcases moves.history with ⟨_, requests, rfl⟩ |
    ⟨other, choice, before, op, outcome, after, _, found', _, transition, executed, _, _, rfl⟩
  · rw [List.getElem?_append] at found
    split at found
    · exact earlier pid stage found committed
    · obtain ⟨request, _, rfl⟩ := List.mem_map.mp (List.mem_of_getElem? found)
      have idle : (Stage.start config.caseMapping request).isCommitted id = false :=
        Stage.initial_committed _ (Stage.start_isInitial config.caseMapping request)
      simp [idle] at committed
  · rcases getElem?_set_cases found with ⟨_, rfl⟩ | ⟨_, same⟩
    · rcases Stage.committed_next transition committed with loaded | finds
      · exact earlier other before found' loaded
      · obtain ⟨row, present, _⟩ := FindsOpen.row executed finds
        exact ⟨row, present⟩
    · exact earlier pid stage same committed

theorem Moves.balance (moves : Moves config service stages event following stages')
    (single : Single id service stages) : following.history.countP (succeeds id) =
      stages'.countP (Stage.isAccepted id) + following.history.countP (marks id) := by
  have before := single.balance
  rcases moves.history with ⟨same, requests, rfl⟩ |
    ⟨pid, choice, stage, op, outcome, after, _, found, _, transition, _, _, history, rfl⟩
  · rw [same, List.countP_append, Stage.countP_start Stage.initial_accepted]
    omega
  · have moved := countP_set_add (y := after) (Stage.isAccepted id) found
    have next := Stage.accepted_next id transition
    have succeeds : Service.succeeds id ⟨pid, op, outcome.reply, outcome.effective⟩ =
        Stage.isSuccess id op outcome.reply := rfl
    have marks : Service.marks id ⟨pid, op, outcome.reply, outcome.effective⟩ =
        Stage.isMark id op := rfl
    rw [history, List.countP_append, List.countP_append, List.countP_singleton,
      List.countP_singleton, succeeds, marks]
    omega

theorem Moves.keeps_sealed (moves : Moves config service stages event following stages')
    (staged : Staged config stages service) (single : Single id service stages)
    (kept : service.unsends id event = false) (marked : 0 < service.history.countP (marks id))
    (uncommitted : stages.countP (Stage.isCommitted id) = 0) {row : SmsMessage}
    (found : service.world.messages.findById id = some row) (isSealed : row.IsSealed) :
    ∃ after, following.world.messages.findById id = some after ∧ after.IsSealed := by
  obtain ⟨after, present, same⟩ := moves.row staged found
  refine ⟨after, present, ?_⟩
  rcases same with rfl | ⟨statement, executed, _, rfl⟩
  · exact isSealed
  · refine isSealed.run ?_
    rw [Table.findById_id found]
    obtain ⟨pid, choice, stage, _, _, rfl, _, awaits, present, allowed, _⟩ := moves.executed executed
    by_contra unseals
    cases statement <;> simp [Update.unseals] at unseals
    case markFatalFailure other provider lastError failedAt =>
      obtain rfl := allowed
      have none := List.countP_eq_zero.mp uncommitted _ (List.mem_of_getElem? present)
      simp [Stage.isCommitted, unseals] at none
    case restoreFatalFailure other provider lastError failedAt =>
      obtain ⟨entry, recorded, mark⟩ := List.countP_pos_iff.mp marked
      have unmarked : ∀ entry ∈ service.history, marks id entry = false := by
        simpa [unsends, awaits, unseals] using kept
      simp [unmarked entry recorded] at mark
    case applyDeliveryStatus params =>
      obtain ⟨claim, callback, other, rfl, _⟩ := allowed
      obtain ⟨request, called, serves⟩ := staged.call present
      have noCallback := single.noCallbacks pid request called
      have claims := Stage.Delivers.claims serves
      cases claim with
      | none =>
          obtain ⟨received, rfl⟩ := claims
          simp [Call.isCallback] at noCallback
      | some webhookId =>
          obtain ⟨received, rfl⟩ := claims
          simp [Call.isCallback] at noCallback

theorem Moves.marked (moves : Moves config service stages event following stages')
    (staged : Staged config stages service) (single : Single id service stages)
    (admitted : service.sequential event = true) (kept : service.unsends id event = false) :
    following.history.countP (marks id) = 0 ∨ following.history.countP (marks id) = 1 ∧
      stages'.countP (Stage.isCommitted id) = 0 ∧
        ∃ row, following.world.messages.findById id = some row ∧ row.IsSealed := by
  rcases moves.history with ⟨same, requests, rfl⟩ |
    ⟨pid, choice, before, op, outcome, after, rfl, found, awaits, transition, executed, world,
      history, rfl⟩
  · rw [same, List.countP_append, Stage.countP_start Stage.initial_committed]
    rcases single.marked with none | ⟨once, uncommitted, row, present, isSealed⟩
    · exact Or.inl none
    · exact Or.inr ⟨once, by omega,
        moves.keeps_sealed staged single kept (by omega) uncommitted present isSealed⟩
  · have entryMarks : marks id ⟨pid, op, outcome.reply, outcome.effective⟩ = Stage.isMark id op :=
      rfl
    have moved := countP_set_add (y := after) (Stage.isCommitted id) found
    rw [history, List.countP_append, List.countP_singleton, entryMarks]
    by_cases mark : Stage.isMark id op = true
    · obtain ⟨provider, externalId, sentAt, rfl⟩ := Stage.isMark_cases mark
      have answered : choice.isAnswered = true := by simpa [sequential, awaits] using admitted
      obtain ⟨committed, uncommitted⟩ := Stage.mark_next transition
      have bound := single.committed_le
      rw [if_pos committed, uncommitted] at moved
      simp only [Bool.false_eq_true, if_false] at moved
      rcases single.marked with none | ⟨_, excluded, _⟩
      · rw [none, if_pos mark]
        refine Or.inr ⟨rfl, by omega, ?_⟩
        obtain ⟨row, present⟩ := single.present pid before found committed
        obtain rfl : row.id = id := Table.findById_id present
        refine ⟨(Update.markSent row.id provider externalId sentAt).run row, ?_,
          Or.inl markSent_status⟩
        rw [world, World.exec_update_messages executed answered, Table.findById_update, present]
        rfl
      · omega
    · rw [if_neg mark]
      rcases single.marked with none | ⟨once, excluded, row, present, isSealed⟩
      · exact Or.inl (by omega)
      · refine Or.inr ⟨by omega, ?_,
          moves.keeps_sealed staged single kept (by omega) excluded present isSealed⟩
        have idle := List.countP_eq_zero.mp excluded before (List.mem_of_getElem? found)
        have uncommitted : ¬ after.isCommitted id = true := by
          intro committed
          rcases Stage.committed_next transition committed with earlier | finds
          · exact idle earlier
          · obtain ⟨row', present', opened⟩ := FindsOpen.row executed finds
            rw [present, Option.some.injEq] at present'
            subst present'
            rcases isSealed with status | status <;> simp [status, SmsStatus.isOpen] at opened
        rw [if_neg idle, if_neg uncommitted] at moved
        omega

theorem Moves.single (moves : Moves config service stages event following stages')
    (staged : Staged config stages service) (single : Single id service stages)
    (admitted : service.sequential event = true) (kept : service.unsends id event = false) :
    Single id following stages' where
  noCallbacks _ _ called := moves.noCallbacks single admitted called
  armed := by
    refine moves.armed staged single.armed ?_
    rintro index job rfl found rfl
    simpa [sequential, found, or_iff_not_imp_left] using admitted
  present _ _ found committed := moves.present staged single.present found committed
  balance := moves.balance single
  marked := moves.marked staged single admitted kept

theorem initial_single : Single id initial [] where
  noCallbacks pid request called := by simp [call, initial] at called
  armed := by simp
  present pid stage found := by simp at found
  balance := rfl
  marked := Or.inl rfl

theorem Moves.unsends (moves : Moves config service stages event following stages')
    (single : Single id service stages) (admitted : service.sequential event = true)
    (unsends : service.unsends id event = true) : ¬ following.SentOnce id := by
  rintro ⟨stays, _⟩
  cases moves with
  | @resume pid choice _ _ op outcome _ found awaits _ _ executed world history _ =>
      simp only [Service.unsends, awaits] at unsends
      split at unsends
      · rename_i other provider lastError failedAt restore
        simp only [Option.some.injEq] at restore
        subst restore
        simp only [Bool.and_eq_true, decide_eq_true_eq] at unsends
        obtain ⟨rfl, marked⟩ := unsends
        have answered : choice.isAnswered = true := by simpa [sequential, awaits] using admitted
        have positive : 0 < service.history.countP (marks other) := by
          rw [List.countP_pos_iff]
          simpa using marked
        obtain ⟨row, present⟩ : ∃ row, service.world.messages.findById other = some row := by
          rcases single.marked with none | ⟨_, _, row, present, _⟩
          · omega
          · exact ⟨row, present⟩
        obtain rfl : row.id = other := Table.findById_id present
        have after : following.world.messages.findById row.id =
            some ((Update.restoreFatalFailure row.id provider lastError failedAt).run row) := by
          rw [world, World.exec_update_messages executed answered, Table.findById_update, present]
          rfl
        have later := stays (by rw [history, List.any_append, marked, Bool.true_or]) _ after
        simp [Update.run, Update.messageId, Update.guard, Update.set] at later
      · simp at unsends
  | _ => simp [Service.unsends] at unsends

/-- In every run in which no requeue restores a message after `markSent`, a message is accepted at
most once and stays sent; and a step that restores one breaks this. -/
theorem accepted_at_most_once
    (reaches : Reaches (step config) (fun service event => service.sequential event = true ∧
      service.unsends id event = false) initial service) :
    service.SentOnce id ∧ ∀ event following, service.sequential event = true →
      step config service event = some following →
      (following.SentOnce id ↔ service.unsends id event = false) := by
  obtain ⟨stages, staged, single⟩ := invariant (Single id) reaches initial_single
    (fun _ _ _ _ _ staged single permitted moves =>
      moves.single staged single permitted.1 permitted.2)
  refine ⟨single.sentOnce, ?_⟩
  intro event following admitted stepped
  obtain ⟨stages', moves, staged'⟩ := step_moves staged stepped
  constructor
  · intro once
    by_contra unsends
    exact moves.unsends single admitted (by simpa using unsends) once
  · intro kept
    exact (moves.single staged single admitted kept).sentOnce

/-- The job of a message whose dead letter could not be published is retried while a requeue is
under way, and sends; the job of the requeue finds the message sent. -/
theorem accepted_at_most_once_requeued : ∃ service,
    Reaches (step (.defaults ["twilio"])) (fun service event => service.sequential event = true ∧
      service.unsends 0 event = false) initial service ∧
    service.history.any (marks 0) = true ∧ service.world.jobs.length = 2 ∧
    service.SentOnce 0 := by
  obtain ⟨service, reaches, found⟩ := execute_exists
    (step (.defaults ["twilio"])) (fun service event => service.sequential event = true ∧
      service.unsends 0 event = false) initial
    ([Event.sends "key"] ++ Event.answers 0 8 ++
      [.execute 0] ++ Event.answers 1 7 ++ [.resume 1 (.rejected none), .settle 0,
        .request (.requeue 0)] ++ Event.answers 2 2 ++
      [.execute 0] ++ Event.answers 3 4 ++ [Event.accepts 3 "SM1"] ++ Event.answers 3 2 ++
      Event.answers 2 1 ++ [.settle 0, .execute 1] ++ Event.answers 4 1 ++ [.settle 1])
    (fun service => service.history.any (marks 0) && service.world.jobs.length = 2)
    (by decide)
  simp only [Bool.and_eq_true, decide_eq_true_eq] at found
  exact ⟨service, reaches, found.1, found.2, (accepted_at_most_once reaches).1⟩

/-- The requeue cannot publish its job and restores `FATAL_FAILURE` over the row that the retried job
has sent; the next requeue sends the message again. -/
theorem accepted_twice : ∃ middle final row,
    Reaches (step (.defaults ["twilio"])) (fun service event => service.sequential event = true)
      initial middle ∧
    middle.history.any (marks 0) = true ∧
    middle.world.messages.findById 0 = some row ∧ row.status = .fatalFailure ∧
    Reaches (step (.defaults ["twilio"])) (fun service event => service.sequential event = true)
      middle final ∧
    final.history.countP (succeeds 0) = 2 := by
  obtain ⟨middle, reaches, found⟩ := execute_exists
    (step (.defaults ["twilio"])) (fun service event => service.sequential event = true) initial
    ([Event.sends "key"] ++ Event.answers 0 8 ++
      [.execute 0] ++ Event.answers 1 7 ++ [.resume 1 (.rejected none), .settle 0,
        .request (.requeue 0)] ++ Event.answers 2 2 ++
      [.execute 0] ++ Event.answers 3 4 ++ [Event.accepts 3 "SM1"] ++ Event.answers 3 2 ++
      [.resume 2 (.rejected none)] ++ Event.answers 2 1 ++ [.settle 0])
    (fun service => service.history.any (marks 0) &&
      ((service.world.messages.findById 0).any fun row => row.status = .fatalFailure) &&
        (execute (step (.defaults ["twilio"])) (fun service event => service.sequential event = true)
          ([.request (.requeue 0)] ++ Event.answers 4 3 ++ [.execute 1] ++ Event.answers 5 4 ++
            [Event.accepts 5 "SM2"]) service).any fun final =>
              final.history.countP (succeeds 0) = 2)
    (by decide)
  simp only [Bool.and_eq_true, Option.any_eq_true, decide_eq_true_eq] at found
  obtain ⟨⟨marked, row, present, fatal⟩, final, executed, twice⟩ := found
  exact ⟨middle, final, row, reaches, marked, present, fatal, execute_reaches _ executed, twice⟩

end Service

end SmsNotification
