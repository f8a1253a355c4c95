import SmsNotification.AtMostOnce
import SmsNotification.Concurrency.Balance
import SmsNotification.Footprints
import SmsNotification.Systems

/-!
The publications on the queues. Each is owed by one statement on the table: the insert of a message,
the reopening of a failed one, the mark that no provider took it. The books of all three balance.
-/

namespace SmsNotification

open Concurrency

inductive Publication
  | sendSms (messageId : MessageId)
  | requeuedSms (messageId : MessageId)
  | failedSms (messageId : MessageId)
  deriving DecidableEq

def Publication.isJob : Publication → Bool
  | failedSms _ => false
  | _ => true

def Job.publication (job : Job) : Publication :=
  if job.fromRequeue then .requeuedSms job.messageId else .sendSms job.messageId

def Op.publishes : Op → Option Publication
  | enqueueSms id _ => some (.sendSms id)
  | requeueSms id _ => some (.requeuedSms id)
  | enqueueDeadLetter id => some (.failedSms id)
  | _ => none

def Op.published (op : Op) (effective : Bool) : Option Publication :=
  if effective then op.publishes else none

/-- The publication that the process owes once it has seen this reply. -/
def Op.commits : (op : Op) → Except Failure op.Reply → Option Publication
  | .createQueuedMessage _ _, .ok row => some (.sendSms row.id)
  | .update (.transitionFatalFailureToQueued id), .ok true => some (.requeuedSms id)
  | .update (.markFatalFailure id _ _ _), .ok _ => some (.failedSms id)
  | _, _ => none

/-- A process publishes what it owes, at once, and nothing else. -/
abbrev publicationProtocol : Protocol Op Op.Reply Failure :=
  .ofObligations Op.publishes Op.commits Stage.Replies

def Op.isPublishing : Op → Bool
  | enqueueSms _ _ => true
  | requeueSms _ _ => true
  | enqueueDeadLetter _ => true
  | createQueuedMessage _ _ => true
  | update (.transitionFatalFailureToQueued _) => true
  | update (.markFatalFailure _ _ _ _) => true
  | _ => false

section Conformance

variable {config : Config} {α : Type} {program : Action α} {owed : Option Publication}

theorem publishing_call {op : Op}
    {post : Option Publication → Except Failure op.Reply → Prop} (allowed : op.publishes = owed)
    (answered : ∀ reply, Stage.Replies op reply → post (op.commits reply) reply) :
    (call op).Follows publicationProtocol post owed :=
  ⟨allowed, answered⟩

theorem publishes_none {op : Op} (other : op.isPublishing = false) : op.publishes = none := by
  cases op <;> first | rfl | simp [Op.isPublishing] at other

theorem commits_none {op : Op} (other : op.isPublishing = false)
    (reply : Except Failure op.Reply) : op.commits reply = none := by
  cases op with
  | createQueuedMessage => simp [Op.isPublishing] at other
  | update statement =>
      cases statement <;> first
        | (rcases reply with _ | _ <;> rfl)
        | simp [Op.isPublishing] at other
  | _ => rcases reply with _ | _ <;> rfl

theorem quiet_follows (idle : program.AtMost Op.isPublishing 0) :
    program.Follows publicationProtocol (fun owed _ => owed = none) none :=
  idle.owesNothing (fun _ other => publishes_none other)
    fun _ reply other => commits_none other reply

theorem quiet_call {op : Op} (other : op.isPublishing = false) :
    (call op).AtMost Op.isPublishing 0 :=
  Program.atMost_perform (by simp [other])

theorem beyondLookup_of_publishing (op : Op) (publishing : op.isPublishing = true) :
    op.beyondLookup = true := by
  cases op <;> simp_all [Op.isPublishing, Op.beyondLookup]

theorem beyondAttempt_of_publishing {row : SmsMessage} (op : Op)
    (publishing : op.isPublishing = true) : op.beyondAttempt row = true := by
  cases op with
  | update statement => cases statement <;> simp_all [Op.isPublishing, Op.beyondAttempt]
  | _ => simp_all [Op.isPublishing, Op.beyondAttempt]

section Dispatch

open SmsDispatcherService

theorem giveUp_publications {message : SmsMessage} {lastProviderName lastError : String} :
    (giveUp message lastProviderName lastError).Follows publicationProtocol
      (fun owed _ => owed = none) none := by
  simp only [giveUp, SmsService.markFatalFailure, newDate, QueueService.enqueueDeadLetter,
    Program.follows_bind]
  refine publishing_call rfl ?_
  rintro (error | failedAt) _
  · rfl
  · simp only [Program.then_ok, Program.follows_bind]
    refine publishing_call rfl ?_
    rintro (error | affected) _
    · rfl
    · exact publishing_call rfl fun reply _ => rfl

theorem dispatchProviders_publications {message : SmsMessage} (providers : List String)
    (lastProviderName lastError : String) :
    (dispatchProviders config message providers lastProviderName lastError).Follows
      publicationProtocol (fun owed _ => owed = none) none := by
  induction providers generalizing lastProviderName lastError with
  | nil => exact giveUp_publications
  | cons provider rest ih =>
      simp only [dispatchProviders, Program.follows_bind]
      have tries : (attemptProvider config message provider config.maxRetries 1 lastError).AtMost
          Op.isPublishing 0 :=
        (attemptProvider_attempt provider _ _ _).part beyondAttempt_of_publishing
      refine (quiet_follows tries).mono ?_
      rintro owed (error | outcome) rfl
      · rfl
      · cases outcome with
        | sent => rfl
        | exhausted lastError => exact ih provider lastError

theorem dispatch_publications (id : MessageId) :
    (dispatch config id).Follows publicationProtocol (fun owed _ => owed = none) none := by
  simp only [dispatch, SmsService.findById, Program.follows_bind]
  refine publishing_call rfl ?_
  rintro (error | _ | message) _
  · rfl
  · rfl
  · simp only [Program.then_ok, SmsService.markProcessing]
    split
    · rfl
    · simp only [Program.follows_bind]
      refine publishing_call rfl ?_
      rintro (error | claimed) _
      · rfl
      · simp only [Program.then_ok]
        split
        · exact quiet_follows ((quiet_call rfl).idle_bind fun _ => Program.atMost_pure _)
        · exact dispatchProviders_publications _ _ _

end Dispatch

section Requests

variable {key : String} {dto : SendSmsDto}

open SmsService

theorem publishQueuedMessage_publications {message : SmsMessage} :
    (publishQueuedMessage config message).Follows publicationProtocol (fun owed _ => owed = none)
      (some (.sendSms message.id)) := by
  simp only [publishQueuedMessage, QueueService.enqueueSms, Program.follows_tryCatch]
  refine publishing_call rfl ?_
  rintro (error | _) _
  · have marks : (markQueuePublishFailed message.id).AtMost Op.isPublishing 0 :=
      (quiet_call rfl).idle_bind fun _ => (quiet_call rfl).idle_bind fun _ => Program.atMost_pure _
    exact quiet_follows (marks.idle_bind fun _ => Program.atMost_throw _)
  · rfl

theorem createUnderLock_publications :
    (createUnderLock config key dto).Follows publicationProtocol (fun owed _ => owed = none)
      none := by
  have answers : ∀ (id : MessageId) (response : SendSmsResponse),
      (do IdempotencyService.storeMessageId key id
          pure response : Action SendSmsResponse).Follows publicationProtocol
        (fun owed _ => owed = none) none :=
    fun id response => quiet_follows ((quiet_call rfl).idle_bind fun _ => Program.atMost_pure _)
  simp only [createUnderLock, findByIdempotencyKey, Program.follows_bind]
  refine publishing_call rfl ?_
  rintro (error | _ | message) _
  · rfl
  · simp only [Program.then_ok, createQueuedMessage, Program.follows_bind]
    refine publishing_call rfl ?_
    rintro (error | message) _
    · rfl
    · simp only [Program.then_ok, Program.follows_bind]
      refine publishQueuedMessage_publications.mono ?_
      rintro owed (error | _) rfl
      · rfl
      · exact answers message.id (toResponse message)
  · exact answers message.id (toResponse message)

theorem sendSmsRequest_publications :
    (sendSmsRequest config key dto).Follows publicationProtocol (fun owed _ => owed = none)
      none := by
  simp only [sendSmsRequest, validateMessageLength]
  split
  · rfl
  simp only [Program.follows_bind, Program.follows_pure, Program.then_ok]
  refine (quiet_follows (findFromIdempotencyCache_lookup.part beyondLookup_of_publishing)).mono ?_
  rintro owed (error | _ | message) rfl
  · rfl
  · simp only [Program.then_ok, findByIdempotencyKey, Program.follows_bind]
    refine publishing_call rfl ?_
    rintro (error | _ | message) _
    · rfl
    · simp only [Program.then_ok, IdempotencyService.acquireLock, Program.follows_bind]
      refine publishing_call rfl ?_
      rintro (error | _ | lock) _
      · rfl
      · simp only [Program.then_ok, Program.follows_bind]
        refine (quiet_follows ((waitForMessageCreatedByConcurrentRequest_lookup 20).part
          beyondLookup_of_publishing)).mono ?_
        rintro owed (error | _ | message) rfl <;> rfl
      · simp only [Program.then_ok, Program.follows_finallyDo, Program.follows_tryCatch]
        have released : ∀ result : Except Failure SendSmsResponse,
            (releaseLock lock).Follows publicationProtocol
              (Program.Then _ (fun owed _ => owed = none) fun _ => .settled result) none := by
          intro result
          have idle : (releaseLock lock).AtMost Op.isPublishing 0 :=
            (quiet_call rfl).tryCatch_idle fun _ => Program.atMost_pure _
          refine (quiet_follows idle).mono ?_
          rintro owed (error | _) rfl <;> rfl
        refine createUnderLock_publications.mono ?_
        rintro owed (error | response) rfl
        · refine (quiet_follows ((recoverUnderLock_lookup error).part
            beyondLookup_of_publishing)).mono ?_
          rintro owed result rfl
          exact released result
        · exact released _
    · exact quiet_follows ((quiet_call rfl).idle_bind fun _ => Program.atMost_pure _)
  · rfl

theorem requeue_publications (id : MessageId) :
    (requeue config id).Follows publicationProtocol (fun owed _ => owed = none) none := by
  simp only [requeue, findById, Program.follows_bind]
  refine publishing_call rfl ?_
  rintro (error | _ | message) _
  · rfl
  · rfl
  · simp only [Program.then_ok, transitionFatalFailureToQueued]
    split
    · rfl
    · simp only [Program.follows_bind]
      refine publishing_call rfl ?_
      rintro (error | _ | _) _
      · rfl
      · rfl
      · simp only [Program.then_ok, Bool.not_true, Bool.false_eq_true, if_false,
          QueueService.requeueSms, Program.follows_bind, Program.follows_tryCatch]
        refine publishing_call rfl ?_
        rintro (error | _) _
        · have restores : (restoreFatalFailureAfterRequeueFailure message
              (toErrorMessage error)).AtMost Op.isPublishing 0 := by
            unfold restoreFatalFailureAfterRequeueFailure
            cases message.failedAt with
            | none =>
                exact (quiet_call rfl).idle_bind fun _ =>
                  (quiet_call rfl).idle_bind fun _ => Program.atMost_pure _
            | some failedAt => exact (quiet_call rfl).idle_bind fun _ => Program.atMost_pure _
          refine (quiet_follows (restores.idle_bind fun _ => Program.atMost_throw _)).mono ?_
          rintro owed (error | _) rfl <;> rfl
        · rfl

end Requests

theorem callback_quiet {caseMapping : Js.CaseMapping} {call : Call} {stage : Stage} {op : Op}
    (callback : call.isCallback = true) (serves : stage.Serves caseMapping call)
    (allowed : stage.Allowed op) : op.isPublishing = false := by
  cases op with
  | createQueuedMessage key dto =>
      cases allowed
      obtain ⟨_, rfl⟩ := serves
      cases callback
  | enqueueSms id attempts =>
      obtain ⟨key, rfl⟩ := allowed
      obtain ⟨_, rfl⟩ := serves
      cases callback
  | requeueSms id attempts =>
      obtain ⟨snapshot, rfl, _⟩ := allowed
      cases serves
      cases callback
  | enqueueDeadLetter id =>
      cases allowed
      cases serves
      cases callback
  | update statement =>
      cases statement with
      | transitionFatalFailureToQueued id =>
          obtain ⟨snapshot, rfl, _⟩ := allowed
          cases serves
          cases callback
      | markFatalFailure id =>
          cases allowed
          cases serves
          cases callback
      | _ => rfl
  | _ => rfl

theorem program_publications (request : Call) :
    (request.program config).Follows publicationProtocol (fun owed _ => owed = none) none := by
  cases request with
  | send key dto =>
      simp only [Call.program, Program.follows_bind]
      refine sendSmsRequest_publications.mono ?_
      rintro owed (error | response) rfl <;> rfl
  | requeue id =>
      simp only [Call.program, Program.follows_bind]
      refine (requeue_publications id).mono ?_
      rintro owed (error | response) rfl <;> rfl
  | dispatch id =>
      simp only [Call.program, Program.follows_bind]
      refine (dispatch_publications id).mono ?_
      rintro owed (error | _) rfl <;> rfl
  | _ =>
      refine Call.follows_of_stages _ (fun _ owed => owed = none) rfl
        (fun _ _ possible => possible) ?_ ?_ ?_
      · rintro stage _ op serves rfl allowed
        exact publishes_none (callback_quiet rfl serves allowed)
      · rintro stage _ op reply following serves rfl allowed _ _
        exact commits_none (callback_quiet rfl serves allowed) reply
      · exact fun _ _ _ _ related _ => related

end Conformance

def publishedIn (history : List (Entry Op Op.Reply Failure)) : List Publication :=
  history.filterMap fun entry => entry.op.published entry.effective

theorem publishedIn_concat (history : List (Entry Op Op.Reply Failure))
    (entry : Entry Op Op.Reply Failure) : publishedIn (history ++ [entry]) =
      publishedIn history ++ (entry.op.published entry.effective).toList := by
  rw [publishedIn, List.filterMap_append]
  cases published : entry.op.published entry.effective <;> simp [publishedIn, published]

namespace World

variable {world : World} {op : Op} {choice : Choice} {outcome : World.Outcome op}

theorem exec_published (executed : world.exec op choice = some outcome) :
    outcome.world.jobs.map Job.publication = world.jobs.map Job.publication ++
        (op.published outcome.effective).toList.filter Publication.isJob ∧
      outcome.world.deadLetters.map .failedSms = world.deadLetters.map .failedSms ++
        (op.published outcome.effective).toList.filter fun publication => !publication.isJob := by
  rcases exec_cases executed with ⟨same, effective, _⟩ | ⟨hint, inner, performed, same, effective, _⟩
  · rw [same, effective]
    simp [Op.published]
  · rw [same, effective]
    cases op <;> simp only [perform] at performed
    all_goals grind [addJob, Op.published, Op.publishes, Job.publication, Publication.isJob]

end World

namespace Service

variable {config : Config} {service following : Service}

structure QueuesAccounted (service : Service) : Prop where
  jobs : service.world.jobs.map Job.publication =
    (publishedIn service.history).filter Publication.isJob
  deadLetters : service.world.deadLetters.map .failedSms =
    (publishedIn service.history).filter fun publication => !publication.isJob

def KeepsQueues (service : Service) (world : World) : Prop :=
  world.jobs.map Job.origin = service.world.jobs.map Job.origin ∧
    world.deadLetters = service.world.deadLetters

def publicationDiscipline (config : Config) :
    Discipline (system config (fun _ _ _ => True) KeepsQueues) :=
  .ofObligations Op.publishes Op.commits Stage.Replies _ program_publications
    fun _ _ _ _ executed => World.exec_replies executed

theorem queuesAccounted_reached {permitted : Service → Event → Prop}
    (reaches : Reaches (step config) permitted initial service) :
    (publicationDiscipline config).Obeyed service ∧ QueuesAccounted service := by
  refine Discipline.invariant _ id QueuesAccounted reaches (initial_obeyed _) ?_ ?_ ?_
  · exact ⟨rfl, rfl⟩
  · intro service event following _ stepped
    exact steps stepped (fun _ _ _ => trivial)
      fun _ disturbed => ⟨disturbed.jobs, disturbed.deadLetters⟩
  · rintro service following _ _ ⟨jobs, deadLetters⟩ effect
    cases effect with
    | quiet keeps history =>
        obtain ⟨origins, letters⟩ := keeps
        have same : following.world.jobs.map Job.publication =
            service.world.jobs.map Job.publication := by
          have origin : Job.publication = (fun origin : MessageId × Bool × Nat =>
              if origin.2.1 then Publication.requeuedSms origin.1 else .sendSms origin.1) ∘
                Job.origin := rfl
          rw [origin, ← List.map_map, ← List.map_map]
          exact congrArg _ origins
        refine ⟨?_, ?_⟩
        · rw [same, history, jobs]
        · rw [letters, history, deadLetters]
    | operation _ _ _ _ _ executed world history =>
        obtain ⟨published, letters⟩ := World.exec_published executed
        refine ⟨?_, ?_⟩
        · rw [world, published, jobs, history, publishedIn_concat, List.filter_append]
        · rw [world, letters, deadLetters, history, publishedIn_concat, List.filter_append]

/-- The queues hold what was published and nothing else. A statement that commits to a publication and
is answered as done is followed by one attempt at it, which is then the next thing its process
awaits, and no publication is attempted without a statement that committed to it. -/
theorem publications_balance {permitted : Service → Event → Prop}
    (reaches : Reaches (step config) permitted initial service) :
    service.world.jobs.map Job.publication =
        (publishedIn service.history).filter Publication.isJob ∧
      service.world.deadLetters.map .failedSms =
        (publishedIn service.history).filter (fun publication => !publication.isJob) ∧
      ∀ publication : Publication,
        service.history.countP (fun entry => entry.op.commits entry.reply = some publication) =
          service.history.countP (fun entry => entry.op.publishes = some publication) +
            service.processes.countP fun process =>
              process.program.awaited.any fun op => op.publishes = some publication := by
  obtain ⟨obeyed, accounted⟩ := queuesAccounted_reached reaches
  exact ⟨accounted.jobs, accounted.deadLetters, fun publication =>
    Discipline.obligations_balance obeyed publication⟩

/-- The only provider refuses for good, and the dead letter is still owed. -/
theorem dead_letter_owed : ∃ service : Service, service.world.deadLetters = [] ∧
    service.history.countP (fun entry => entry.op.commits entry.reply = some (.failedSms 0)) =
      1 := by
  obtain ⟨service, reaches, found⟩ := execute_exists
    (step (.defaults ["twilio"])) (fun _ _ => True) initial
    ([Event.sends "key"] ++ Event.answers 0 6 ++ [.execute 0] ++ Event.answers 1 7)
    (fun service => service.world.deadLetters = [] &&
      service.history.countP (fun entry => entry.op.publishes = some (.failedSms 0)) == 0 &&
      service.processes.countP (fun process =>
        process.program.awaited.any fun op => op.publishes = some (.failedSms 0)) == 1)
    (by decide)
  simp only [Bool.and_eq_true, decide_eq_true_eq, beq_iff_eq] at found
  obtain ⟨⟨empty, none⟩, waiting⟩ := found
  have balance := (publications_balance reaches).2.2 (.failedSms 0)
  exact ⟨service, empty, by omega⟩

end Service

end SmsNotification
