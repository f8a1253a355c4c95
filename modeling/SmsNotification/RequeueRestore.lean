import SmsNotification.RowConsistency

/-!
A requeue whose publication fails gives the row back as it was. The restore writes `NULL` and a
snapshot without looking at the row, so this rests on what a `FATAL_FAILURE` row can hold.
-/

namespace SmsNotification

open Concurrency

def publicationError : Entry Op Op.Reply Failure → Option Failure
  | ⟨_, .requeueSms _ _, .error error, _⟩ => some error
  | _ => none

/-- The database refused the restore: an error, and not one that hides an executed statement. -/
def refusesRestore : Entry Op Op.Reply Failure → Bool
  | ⟨_, .update (.restoreFatalFailure _ _ _ _), .error _, false⟩ => true
  | _ => false

namespace SmsMessage

def reopened (row : SmsMessage) : SmsMessage :=
  (Update.transitionFatalFailureToQueued row.id).run row

def publicationFailed (row : SmsMessage) (error : Failure) : SmsMessage :=
  { row with
    lastError := some (requeuePublishFailedError ++ ": " ++ SmsService.toErrorMessage error) }

/-- The restore undoes the transition, up to the error it records. -/
theorem Consistent.restored {row : SmsMessage} {failedAt : Date} {error : Failure}
    (consistent : row.Consistent) (fatal : row.status = .fatalFailure)
    (stamp : row.failedAt = some failedAt ∨ row.failedAt = none) :
    (Update.restoreFatalFailure row.id row.selectedProvider
      (requeuePublishFailedError ++ ": " ++ SmsService.toErrorMessage error) failedAt).run
        row.reopened = row.publicationFailed error := by
  obtain ⟨unsent, external⟩ := consistent.unsent (Or.inr fatal)
  have stamped : row.failedAt = some failedAt := by
    rcases stamp with stamped | absent
    · exact stamped
    · have failed := consistent.failedAt
      rw [absent, fatal] at failed
      exact absurd failed (by decide)
  obtain ⟨id, key, phone, body, metadata, status, attempts, provider, providerMessageId, lastError,
    sentAt, deliveredAt, failedAt', createdAt⟩ := row
  simp only at fatal unsent external stamped
  subst fatal unsent external stamped
  simp [reopened, publicationFailed, Update.run, Update.set, Update.messageId, Update.guard]

end SmsMessage

section Requeue

variable {row current : SmsMessage} {trace : List (Entry Op Op.Reply Failure)}
  {entry : Entry Op Op.Reply Failure}

def Unpublished (trace : List (Entry Op Op.Reply Failure)) : Prop :=
  ∀ entry ∈ trace, publicationError entry = none

theorem Unpublished.concat (unpublished : Unpublished trace)
    (neutral : publicationError entry = none) : Unpublished (trace ++ [entry]) := by
  intro other member
  rcases List.mem_append.mp member with earlier | new
  · exact unpublished other earlier
  · rw [List.mem_singleton.mp new]
    exact neutral

theorem publicationError_concat {other : Entry Op Op.Reply Failure} {error : Failure}
    (neutral : publicationError entry = none) (member : other ∈ trace ++ [entry])
    (published : publicationError other = some error) : other ∈ trace := by
  rcases List.mem_append.mp member with earlier | new
  · exact earlier
  · rw [List.mem_singleton.mp new, neutral] at published
    simp at published

/-- What a requeue of `row` has come to: its trace, and the row as it is now. -/
def Requeues (row : SmsMessage) (trace : List (Entry Op Op.Reply Failure)) (current : SmsMessage) :
    Stage → Prop
  | .administering id => Unpublished trace ∧ id = row.id ∧ current = row
  | .eligible snapshot => Unpublished trace ∧ snapshot = row ∧ current = row
  | .reopened snapshot => Unpublished trace ∧ snapshot = row ∧ current = row.reopened
  | .restoring snapshot enqueueError => snapshot = row ∧ current = row.reopened ∧
      ∃ error, enqueueError = SmsService.toErrorMessage error ∧
        ∀ entry ∈ trace, ∀ other, publicationError entry = some other → other = error
  | .requeued _ => Unpublished trace
  | .finished => Unpublished trace ∨ (∃ entry ∈ trace, refusesRestore entry = true) ∨
      ∀ entry ∈ trace, ∀ error, publicationError entry = some error →
        current = row.publicationFailed error
  | _ => False

theorem Requeues.quiet {stage : Stage} (requeues : Requeues row trace current stage)
    (neutral : publicationError entry = none) :
    Requeues row (trace ++ [entry]) current stage := by
  cases stage with
  | administering id =>
      obtain ⟨before, same⟩ := requeues
      exact ⟨before.concat neutral, same⟩
  | eligible snapshot | reopened snapshot =>
      obtain ⟨before, same⟩ := requeues
      exact ⟨before.concat neutral, same⟩
  | restoring snapshot enqueueError =>
      obtain ⟨same, reopened, error, text, unique⟩ := requeues
      refine ⟨same, reopened, error, text, ?_⟩
      intro other member rejected published
      exact unique other (publicationError_concat neutral member published) rejected published
  | requeued id => exact Unpublished.concat requeues neutral
  | finished =>
      rcases requeues with before | ⟨refusal, member, refuses⟩ | failed
      · exact Or.inl (before.concat neutral)
      · exact Or.inr (Or.inl ⟨refusal, List.mem_append_left _ member, refuses⟩)
      · right
        right
        intro other member error published
        exact failed other (publicationError_concat neutral member published) error published
  | _ => exact requeues.elim

/-- A requeue that is over after a rejected publication has restored its row, unless the database
refused it. The stage `restoring` settles nothing. -/
theorem Requeues.settled {stage : Stage} {id : MessageId} {result : Except Failure Answer}
    {publication : Entry Op Op.Reply Failure} {error : Failure}
    (requeues : Requeues row trace current stage) (settles : Stage.Settles (.requeue id) stage result)
    (accepted : ∀ entry ∈ trace, refusesRestore entry = false) (member : publication ∈ trace)
    (failed : publicationError publication = some error) :
    current = row.publicationFailed error := by
  have rejected : ¬Unpublished trace := by
    intro unpublished
    rw [unpublished publication member] at failed
    simp at failed
  cases result with
  | ok answer =>
      obtain rfl : stage = .requeued id := settles
      exact absurd requeues rejected
  | error refusal =>
      obtain rfl : stage = .finished := settles
      rcases requeues with unpublished | ⟨entry, entered, refuses⟩ | restored
      · exact absurd unpublished rejected
      · rw [accepted entry entered] at refuses
        simp at refuses
      · exact restored publication member error failed

variable {caseMapping : Js.CaseMapping} {stage stage' : Stage} {op : Op} {world : World}
  {choice : Choice} {outcome : World.Outcome op} {pid : Nat}

theorem exec_sameRow (executed : world.exec op choice = some outcome)
    (noUpdate : ∀ statement, op ≠ .update statement)
    (noInsert : ∀ key dto, op ≠ .createQueuedMessage key dto)
    (found : world.messages.findById row.id = some current) :
    outcome.world.messages.findById row.id = some current := by
  rw [World.exec_messages_other executed noUpdate noInsert]
  exact found

theorem Requeues.next (requeues : Requeues row trace current stage) (consistent : row.Consistent)
    (fatal : row.status = .fatalFailure)
    (transition : stage.Transition caseMapping op outcome.reply stage')
    (executed : world.exec op choice = some outcome)
    (found : world.messages.findById row.id = some current) :
    ∃ after, outcome.world.messages.findById row.id = some after ∧
      Requeues row (trace ++ [⟨pid, op, outcome.reply, outcome.effective⟩]) after stage' := by
  generalize answer : outcome.reply = reply at transition ⊢
  cases transition with
  | quiet infallible =>
      have neutral : (∀ statement, op ≠ .update statement) ∧
          (∀ key dto, op ≠ .createQueuedMessage key dto) ∧
          ∀ reply effective, publicationError ⟨pid, op, reply, effective⟩ = none := by
        cases op <;> simp_all [Op.fallible, publicationError]
      obtain ⟨noUpdate, noInsert, entry⟩ := neutral
      exact ⟨current, exec_sameRow executed noUpdate noInsert found, requeues.quiet (entry _ _)⟩
  | @eligible id message =>
      obtain ⟨before, rfl, rfl⟩ := requeues
      have read := World.exec_findById executed answer
      rw [found, Option.some.injEq] at read
      exact ⟨current, exec_sameRow executed (by simp) (by simp) found, before.concat rfl,
        read.symm, rfl⟩
  | notEligible =>
      obtain ⟨before, _, _⟩ := requeues
      exact ⟨current, exec_sameRow executed (by simp) (by simp) found, Or.inl (before.concat rfl)⟩
  | @reopened snapshot =>
      obtain ⟨before, rfl, rfl⟩ := requeues
      rcases World.exec_update executed with ⟨_, _, _, message, rejected⟩ | ⟨same, _⟩
      · rw [answer] at rejected
        simp at rejected
      · refine ⟨current.reopened, ?_, before.concat rfl, rfl, rfl⟩
        rw [same, Table.findById_update, found]
        rfl
  | @notReopened snapshot _ refused =>
      obtain ⟨before, _, _⟩ := requeues
      rcases World.exec_update executed with ⟨same, _⟩ | ⟨same, _⟩
      · exact ⟨current, by rw [same]; exact found, Or.inl (before.concat rfl)⟩
      · refine ⟨(Update.transitionFatalFailureToQueued snapshot.id).run current, ?_,
          Or.inl (before.concat rfl)⟩
        rw [same, Table.findById_update, found]
        rfl
  | requeued =>
      obtain ⟨before, _, _⟩ := requeues
      exact ⟨current, exec_sameRow executed (by simp) (by simp) found, before.concat rfl⟩
  | @notRequeued snapshot attempts error =>
      obtain ⟨before, rfl, rfl⟩ := requeues
      refine ⟨_, exec_sameRow executed (by simp) (by simp) found, rfl, rfl, error, rfl, ?_⟩
      intro entry member other published
      rcases List.mem_append.mp member with earlier | new
      · rw [before entry earlier] at published
        simp at published
      · rw [List.mem_singleton.mp new] at published
        simpa [publicationError] using published.symm
  | @restored snapshot enqueueError failedAt _ stamp =>
      obtain ⟨rfl, rfl, error, rfl, unique⟩ := requeues
      rcases World.exec_update executed with ⟨same, effective, _, _, rejected⟩ | ⟨same, _⟩
      · refine ⟨_, by rw [same]; exact found, Or.inr (Or.inl ⟨_, List.mem_concat_self, ?_⟩)⟩
        rw [← answer, rejected, effective]
        rfl
      · refine ⟨snapshot.publicationFailed error, ?_, Or.inr (Or.inr ?_)⟩
        · rw [same, Table.findById_update, found]
          exact congrArg some (consistent.restored fatal stamp)
        · intro entry member other published
          rw [unique entry (publicationError_concat rfl member published) other published]
  | stored source =>
      rcases source with rfl | rfl <;> exact requeues.elim
  | unlocked allowed =>
      rcases allowed with ⟨_, rfl⟩ | ⟨_, _, rfl⟩ | ⟨_, _, rfl⟩ | rfl <;> exact requeues.elim
  | failed _ handles | failedClaim _ handles =>
      rcases handles with ⟨_, rfl⟩ | ⟨_, _, rfl⟩ | ⟨_, rfl⟩ <;> exact requeues.elim
  | _ => exact requeues.elim

end Requeue

namespace Service

variable {config : Config} {service following : Service} {stages stages' : List Stage}
  {event : Event} {pid : Nat} {id : MessageId} {row : SmsMessage}

/-- No other process writes the row: what it executes is no update, or selects another row or
none. -/
def writtenOnlyBy (pid : Nat) (id : MessageId) (service : Service) : Event → Bool
  | .resume other choice =>
      match service.executes (.resume other choice) with
      | some (.update statement) => other = pid || statement.messageId ≠ id ||
          !service.world.messages.affected statement
      | _ => true
  | _ => true

def Requeueing (pid : Nat) (row : SmsMessage) (service : Service) (stages : List Stage) : Prop :=
  service.call pid = some (.requeue row.id) ∧ ∃ stage current, stages[pid]? = some stage ∧
    service.world.messages.findById row.id = some current ∧
    Requeues row (service.trace pid) current stage

theorem Moves.other_row (moves : Moves config service stages event following stages')
    (staged : Staged config stages service) {current : SmsMessage}
    (alone : service.writtenOnlyBy pid id event = true)
    (elsewhere : ∀ choice, event ≠ .resume pid choice)
    (found : service.world.messages.findById id = some current) :
    following.world.messages.findById id = some current := by
  obtain ⟨after, present, same⟩ := moves.row staged found
  rw [present]
  rcases same with rfl | ⟨statement, executed, _, rfl⟩
  · rfl
  · cases event with
    | resume other choice =>
        have different : other ≠ pid := by
          rintro rfl
          exact elsewhere choice rfl
        simp only [writtenOnlyBy, executed, different, decide_false, Bool.false_or] at alone
        have identified : current.id = id := Table.findById_id found
        rw [Update.run, if_neg]
        rintro ⟨selected, guarded⟩
        have target : statement.messageId = id := selected.symm.trans identified
        simp [Table.affected, target, found, guarded] at alone
    | _ => simp [executes] at executed

theorem Moves.grows (moves : Moves config service stages event following stages') {choice : Choice}
    (resumes : event = .resume pid choice) : following.history ≠ service.history := by
  cases moves with
  | resume _ _ _ _ _ _ history => simp [history]
  | _ => simp at resumes

theorem Moves.requeueing (moves : Moves config service stages event following stages')
    (staged : Staged config stages service) (consistent : row.Consistent)
    (fatal : row.status = .fatalFailure)
    (alone : service.writtenOnlyBy pid row.id event = true)
    (requeueing : Requeueing pid row service stages) : Requeueing pid row following stages' := by
  obtain ⟨called, stage, current, staged', found, requeues⟩ := requeueing
  have below := (List.getElem?_eq_some_iff.mp staged').1
  refine ⟨(moves.keeps_call (call_below called)).trans called, ?_⟩
  rcases moves.history with ⟨same, requests, rfl⟩ |
    ⟨other, choice, before, op, outcome, stage', rfl, staged'', _, transition, executed, world,
      history, rfl⟩
  · refine ⟨stage, current, by rw [List.getElem?_append_left below, staged'], ?_, ?_⟩
    · refine moves.other_row staged alone ?_ found
      intro choice resumes
      exact moves.grows resumes same
    · rw [Service.trace, same, ← Service.trace]
      exact requeues
  · by_cases mine : other = pid
    · subst mine
      rw [staged', Option.some.injEq] at staged''
      subst staged''
      obtain ⟨after, present, next⟩ := requeues.next consistent fatal transition executed found
      refine ⟨stage', after, List.getElem?_set_self below, by rw [world]; exact present, ?_⟩
      have grown : following.trace other =
          service.trace other ++ [⟨other, op, outcome.reply, outcome.effective⟩] := by
        simp [Service.trace, history]
      rw [grown]
      exact next
    · refine ⟨stage, current, by rw [List.getElem?_set_ne mine, staged'], ?_, ?_⟩
      · refine moves.other_row staged alone ?_ found
        rintro _ ⟨⟩
        exact mine rfl
      · have same : following.trace pid = service.trace pid := by
          simp [Service.trace, history, mine]
        rw [same]
        exact requeues

def AdministersAfresh : Service → List Stage → Prop :=
  Traced fun stage trace => ∀ id, stage = .administering id → Unpublished trace

theorem Moves.administersAfresh (moves : Moves config service stages event following stages')
    (staged : Staged config stages service) (fresh : AdministersAfresh service stages) :
    AdministersAfresh following stages' := by
  refine moves.traced staged fresh ?_ ?_
  · intro stage _ id _ entry member
    simp at member
  · rintro pid choice stage stage' op outcome _ _ transition _ relates id rfl
    generalize outcome.reply = reply at transition ⊢
    cases transition with
    | quiet infallible =>
        refine (relates id rfl).concat ?_
        cases op <;> simp_all [Op.fallible, publicationError]
    | stored source => simp at source
    | unlocked allowed => simp [Stage.Allowed] at allowed

theorem Staged.requeueing (staged : Staged config stages service)
    (fresh : AdministersAfresh service stages) (called : service.call pid = some (.requeue row.id))
    (awaits : service.awaits pid = some (.findById row.id))
    (found : service.world.messages.findById row.id = some row) :
    Requeueing pid row service stages := by
  obtain ⟨request, stage, called', found', serves, allowed⟩ := staged.awaits awaits
  rw [called, Option.some.injEq] at called'
  subst called'
  have first : stage = .administering row.id := by
    rcases allowed with ⟨key, rfl⟩ | rfl | rfl | rfl | ⟨claim, rfl⟩
    · simp [Stage.Serves] at serves
    · rfl
    · simp [Stage.Serves] at serves
    · simp [Stage.Serves] at serves
    · cases claim <;> simp [Stage.Serves, Stage.Claims] at serves
  subst first
  exact ⟨called, _, row, found', found, fresh pid _ found' row.id rfl, rfl, rfl⟩

/-- A requeue that is over after its publication rejected leaves the row as it found it, but for
the error, and eligible again: in every reachable state, from its first read on, as long as no
other process writes the row and the database does not refuse the restore. -/
theorem failed_requeue_restores {final : Service}
    (reaches : Reaches (step config) (fun _ _ => True) initial service)
    (called : service.call pid = some (.requeue id))
    (awaits : service.awaits pid = some (.findById id))
    (found : service.world.messages.findById id = some row) (fatal : row.status = .fatalFailure)
    (later : Reaches (step config)
      (fun service event => service.writtenOnlyBy pid id event = true) service final)
    {attempts : Nat} {error : Failure} {published : Bool}
    (rejected : ⟨pid, .requeueSms id attempts, .error error, published⟩ ∈ final.history)
    {result : Except Failure Answer} (settled : final.result pid = some result)
    (accepted : ∀ entry ∈ final.history, entry.pid = pid → refusesRestore entry = false) :
    final.world.messages.findById id = some { row with
      lastError := some ("REQUEUE_PUBLISH_FAILED" ++ ": " ++ SmsService.toErrorMessage error) } ∧
    final.world.messages.affected (.transitionFatalFailureToQueued id) = true := by
  have identified : row.id = id := Table.findById_id found
  subst identified
  have consistent : row.Consistent :=
    (rows_consistent reaches).1 row (Table.findById_mem found).1
  obtain ⟨stages, staged, fresh⟩ := invariant AdministersAfresh reaches
    (fun pid stage found => by simp at found)
    (fun _ _ _ _ _ staged fresh _ moves => moves.administersAfresh staged fresh)
  obtain ⟨stages', staged', called', stage, current, found', present, requeues⟩ :=
    invariant_from (Requeueing pid row) later staged (staged.requeueing fresh called awaits found)
      (fun _ _ _ _ _ staged requeueing alone moves =>
        moves.requeueing staged consistent fatal alone requeueing)
  have settles : Stage.Settles (.requeue row.id) stage result := by
    obtain ⟨request, other, called'', found'', settles⟩ := staged'.result settled
    rw [called', Option.some.injEq] at called''
    rw [found', Option.some.injEq] at found''
    subst called'' found''
    exact settles
  have failed : ⟨pid, .requeueSms row.id attempts, .error error, published⟩ ∈ final.trace pid := by
    simp [Service.trace, rejected]
  have unrefused : ∀ entry ∈ final.trace pid, refusesRestore entry = false := by
    intro entry member
    simp only [Service.trace, List.mem_filter, decide_eq_true_eq] at member
    exact accepted entry member.1 member.2
  have same := requeues.settled settles unrefused failed rfl
  subst same
  refine ⟨present, ?_⟩
  simp [Table.affected, Update.messageId, present, SmsMessage.publicationFailed, Update.guard, fatal]

def isDownPublication : Entry Op Op.Reply Failure → Bool
  | ⟨2, .requeueSms 0 _, .error (.rejection (some message)), _⟩ => message = "down"
  | _ => false

/-- A message that failed for good is requeued while the queue is down. -/
theorem failed_requeue_restores_down : ∃ (service final : Service) (row : SmsMessage),
    Reaches (step (.defaults ["twilio"])) (fun _ _ => True) initial service ∧
    service.world.messages.findById 0 = some row ∧ row.status = .fatalFailure ∧
    Reaches (step (.defaults ["twilio"]))
      (fun service event => service.writtenOnlyBy 2 0 event = true) service final ∧
    final.result 2 = some (.error (.app .queuePublishFailed)) ∧
    final.world.messages.findById 0 =
      some { row with lastError := some "REQUEUE_PUBLISH_FAILED: down" } := by
  obtain ⟨service, reaches, found⟩ := execute_exists (step (.defaults ["twilio"]))
    (fun _ _ => True) initial
    ([Event.sends "key"] ++ Event.answers 0 8 ++ [.execute 0] ++ Event.answers 1 8 ++
      [.request (.requeue 0)])
    (fun service => service.call 2 = some (.requeue 0) &&
      service.awaits 2 = some (.findById 0) &&
      ((service.world.messages.findById 0).any fun row => row.status = .fatalFailure) &&
      (execute (step (.defaults ["twilio"]))
        (fun service event => service.writtenOnlyBy 2 0 event = true)
        (Event.answers 2 2 ++ [.resume 2 (.rejected (some "down"))] ++ Event.answers 2 1)
        service).any fun final =>
          final.history.any isDownPublication &&
          final.result 2 = some (.error (.app .queuePublishFailed)) &&
          final.history.all fun entry => !refusesRestore entry)
    (by decide)
  simp only [Bool.and_eq_true, Option.any_eq_true, List.any_eq_true, List.all_eq_true,
    Bool.not_eq_true', decide_eq_true_eq] at found
  obtain ⟨⟨⟨called, awaits⟩, row, present, fatal⟩, final, executed,
    ⟨⟨publication, member, rejects⟩, settled⟩, accepted⟩ := found
  have later := execute_reaches _ executed
  unfold isDownPublication at rejects
  split at rejects
  · simp only [decide_eq_true_eq] at rejects
    subst rejects
    have restored := failed_requeue_restores reaches called awaits present fatal later member
      settled (fun entry member _ => accepted entry member)
    exact ⟨service, final, row, reaches, present, fatal, later, settled, restored.1⟩
  · simp at rejects

end Service

end SmsNotification
