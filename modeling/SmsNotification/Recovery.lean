import SmsNotification.DispatchPolicy
import SmsNotification.Footprints

/-!
A fatal failure is never final: whatever the other calls are in the middle of, one requeue and one
execution of its job take the message through the providers again.
-/

namespace SmsNotification

open Concurrency

section Runs

variable {surroundings : Surroundings} {world : World} {row : SmsMessage}

def Choice.smsReply : Choice → ProviderReply
  | answered hint => .ok hint.sms
  | rejected message => .error (.rejection message)
  | lost _ message => .error (.rejection message)

theorem exec_sendSms {provider : String} {options : SendSmsOptions} {choice : Choice}
    {completion : World.Outcome (.sendSms provider options)}
    (executed : world.exec (.sendSms provider options) choice = some completion) :
    completion.reply = choice.smsReply := by
  cases choice with
  | answered hint =>
      cases executed
      rfl
  | rejected message =>
      cases executed
      rfl
  | lost hint message =>
      cases executed
      rfl

def Op.writesOther (id : MessageId) : Op → Bool
  | update statement => statement.messageId ≠ id
  | createQueuedMessage _ _ => true
  | _ => false

def World.KeepsOthers (id : MessageId) (world following : World) : Prop :=
  ∀ other, other ≠ id → following.messages.findById other = world.messages.findById other

theorem World.KeepsOthers.exec {id : MessageId} {first : World} {op : Op} {choice : Choice}
    {completion : World.Outcome op} (kept : first.KeepsOthers id world)
    (own : op.writesOther id = false) (executed : world.exec op choice = some completion) :
    first.KeepsOthers id completion.world := by
  intro other different
  rw [← kept other different]
  rcases World.exec_messages executed with
    same | ⟨statement, rfl, same⟩ | ⟨key, dto, _, _, _, _, rfl, _⟩
  · rw [same]
  · rw [same]
    apply Table.findById_update_of_ne
    have selected : statement.messageId = id := by simpa [Op.writesOther] using own
    rw [selected]
    exact different
  · cases own

theorem Op.beyondAttempt_of_writesOther {op : Op} (writes : op.writesOther row.id = true) :
    op.beyondAttempt row = true := by
  cases op with
  | update statement =>
      have other : statement.messageId ≠ row.id := by simpa [Op.writesOther] using writes
      cases statement with
      | incrementAttempts id => simpa [Op.beyondAttempt, Update.messageId] using other
      | markSent id => simpa [Op.beyondAttempt, Update.messageId] using other
      | _ => rfl
  | createQueuedMessage key dto => rfl
  | _ => cases writes

theorem call_own {id : MessageId} {op : Op} (own : op.writesOther id = false) :
    (call op).AtMost (Op.writesOther id) 0 :=
  Program.atMost_perform (by simp [own])

theorem dispatchProviders_own (config : Config) (message : SmsMessage) (providers : List String)
    (lastProvider lastError : String) :
    (SmsDispatcherService.dispatchProviders config message providers lastProvider
      lastError).AtMost (Op.writesOther message.id) 0 := by
  induction providers generalizing lastProvider lastError with
  | nil =>
      have marks : (SmsService.markFatalFailure message.id lastProvider lastError).AtMost
          (Op.writesOther message.id) 0 := by
        apply (call_own rfl).idle_bind
        intro failedAt
        apply Program.AtMost.idle_bind (call_own (by simp [Op.writesOther, Update.messageId]))
        intro affected
        exact Program.atMost_pure _
      exact marks.idle_bind fun _ => call_own rfl
  | cons provider providers ih =>
      have attempts : (SmsDispatcherService.attemptProvider config message provider
          config.maxRetries 1 lastError).AtMost (Op.writesOther message.id) 0 := by
        apply (attemptProvider_attempt provider config.maxRetries 1 lastError).part
        intro op writes
        exact Op.beyondAttempt_of_writesOther writes
      rw [SmsDispatcherService.dispatchProviders]
      apply attempts.idle_bind
      intro outcome
      cases outcome with
      | sent => exact Program.atMost_pure _
      | exhausted lastError => exact ih provider lastError

def Ends (row : SmsMessage) (world following : World) (calls : List (String × ProviderReply))
    (accepted : Bool) : Prop :=
  if accepted then following.deadLetters = world.deadLetters ∧ ∃ provider last date,
    calls.getLast? = some (provider, .ok last) ∧
    following.messages.findById row.id = some { row with
      status := .sent
      attempts := row.attempts + calls.length
      selectedProvider := some provider
      providerMessageId := last.providerMessageId
      lastError := none
      sentAt := some date
      failedAt := none }
  else following.deadLetters = world.deadLetters ++ [row.id] ∧ ∃ provider lastError date,
    following.messages.findById row.id = some { row with
      status := .fatalFailure
      attempts := row.attempts + calls.length
      selectedProvider := some provider
      providerMessageId := none
      lastError := some lastError
      sentAt := none
      failedAt := some date }

/-- What a dispatch that runs alone makes of its row, by the replies of the providers: retries and
failover go by these replies, and so does the end. -/
def Dispatches (config : Config) (surroundings : Surroundings) (row : SmsMessage)
    (world following : World) : Prop :=
  ∃ calls accepted, Failover.Calls verdict config.maxRetries config.providers calls accepted ∧
    (∀ call ∈ calls, ∃ record,
      call.2 = (surroundings record (.sendSms call.1 (sendOptions row))).smsReply) ∧
    world.KeepsOthers row.id following ∧ Ends row world following calls accepted

theorem dispatch_calls (config : Config) (row : SmsMessage) (healthy : Healthy surroundings)
    (found : world.messages.findById row.id = some row)
    (claimable : row.status = .queued ∨ row.status = .processing) :
    (Call.program config (.dispatch row.id)).Yields World.exec surroundings
      (fun result following after => result = .ok .noContent ∧ ∃ calls accepted,
        Failover.Calls verdict config.maxRetries config.providers calls accepted ∧
        attempts after = calls.flatMap (exchanges row) ∧
        world.KeepsOthers row.id following ∧ Ends row world following calls accepted)
      world [] := by
  obtain ⟨dispatchable, guarded⟩ := claimable_dispatches claimable
  have own : (Update.markProcessing row.id).messageId = row.id := rfl
  have affected : world.messages.affected (.markProcessing row.id) = true := by
    simp [Table.affected, own, found, guarded]
  let middle : World := { world with messages := world.messages.update (.markProcessing row.id) }
  have claimed : middle.messages.findById row.id =
      some ((Update.markProcessing row.id).set row) := by
    simp [middle, Table.findById_update, found, Update.run, own, guarded]
  have before : world.KeepsOthers row.id middle :=
    fun other different => Table.findById_update_of_ne different
  simp only [Call.program, SmsDispatcherService.dispatch, SmsService.findById,
    SmsService.markProcessing, Program.yields_bind]
  refine yields_call (.findById row.id) (healthy _ _ rfl) fun hint => ⟨_, rfl, ?_⟩
  simp only [found, dispatchable, Bool.false_eq_true, if_false, Program.yields_bind]
  refine yields_call (.update (.markProcessing row.id)) (healthy _ _ rfl)
    fun hint => ⟨_, rfl, ?_⟩
  simp only [affected, Bool.not_true, Bool.false_eq_true, if_false,
    SmsDispatcherService.dispatchAcrossProviders]
  obtain ⟨ran, runs, resolved, calls, accepted, follows, called, outcome⟩ :=
    dispatchProviders_yields healthy config.providers _ _ claimed
  -- the row that was found is the one dispatched, so every write from here on names its id
  have others : world.KeepsOthers row.id ran.world := by
    refine Program.run_keeps (world.KeepsOthers row.id)
      (dispatchProviders_own config row config.providers _ _) before ?_ runs
    intro earlier op choice completion own kept executed
    exact kept.exec own executed
  refine ⟨ran, runs, ?_⟩
  rw [resolved]
  refine (Program.yields_pure _).mpr ⟨rfl, calls, accepted, follows, ?_, others, ?_⟩
  · simpa [attempts, Op.isAttempt] using called
  · cases accepted with
    | true => exact outcome
    | false =>
        obtain ⟨same, date, fatal⟩ := outcome
        exact ⟨same, _, _, date, fatal⟩

theorem dispatch_runs (config : Config) (row : SmsMessage) (healthy : Healthy surroundings)
    (found : world.messages.findById row.id = some row)
    (claimable : row.status = .queued ∨ row.status = .processing) :
    (Call.program config (.dispatch row.id)).Yields World.exec surroundings
      (fun result following _ =>
        result = .ok .noContent ∧ Dispatches config surroundings row world following)
      world [] := by
  obtain ⟨ran, runs, ended, calls, accepted, follows, called, outcome⟩ :=
    dispatch_calls config row healthy found claimable
  refine ⟨ran, runs, ended, calls, accepted, follows, ?_, outcome⟩
  rintro ⟨provider, reply⟩ member
  have made : (⟨.sendSms provider (sendOptions row), reply⟩ : Exchange Op Op.Reply Failure) ∈
      attempts ran.trace := by
    rw [called]
    exact List.mem_flatMap.mpr ⟨(provider, reply), member, by simp [exchanges]⟩
  rcases Program.run_exchanges runs (List.mem_filter.mp made).1 with
    none | ⟨_, before, completion, executed, same⟩
  · cases none
  · exact ⟨before, same.trans (exec_sendSms executed)⟩

theorem requeue_runs (config : Config) {row : SmsMessage} (healthy : Healthy surroundings)
    (found : world.messages.findById row.id = some row) (fatal : row.status = .fatalFailure) :
    (Call.program config (.requeue row.id)).Yields World.exec surroundings
      (fun result following _ =>
        result = .ok (.accepted ⟨row.id, .queued, row.createdAt⟩) ∧
        following = { world with
          messages := world.messages.update (.transitionFatalFailureToQueued row.id)
          jobs := world.jobs ++
            [{ messageId := row.id, fromRequeue := true, attempts := config.jobAttempts }] })
      world [] := by
  have affected : world.messages.affected (.transitionFatalFailureToQueued row.id) = true := by
    have own : (Update.transitionFatalFailureToQueued row.id).messageId = row.id := rfl
    simp [Table.affected, own, found, Update.guard, fatal]
  simp only [Call.program, SmsService.requeue, SmsService.findById,
    SmsService.transitionFatalFailureToQueued, Program.yields_bind]
  refine yields_call (.findById row.id) (healthy _ _ rfl) fun hint => ⟨_, rfl, ?_⟩
  simp only [found, fatal, ne_eq, not_true, if_false, Program.yields_bind]
  refine yields_call (.update (.transitionFatalFailureToQueued row.id)) (healthy _ _ rfl)
    fun hint => ⟨_, rfl, ?_⟩
  simp only [affected, Bool.not_true, Bool.false_eq_true, if_false, Program.yields_bind,
    Program.yields_tryCatch, QueueService.requeueSms]
  refine yields_call (.requeueSms row.id config.jobAttempts) (healthy _ _ rfl)
    fun hint => ⟨_, rfl, ?_⟩
  simp [World.addJob]

end Runs

namespace Service

variable {service : Service} {row : SmsMessage}

theorem spawned_runs (config : Config) (service : Service) (tag : Call)
    {surroundings : Surroundings} {program : Action Answer}
    {ran : Ran Op Op.Reply Failure Answer World}
    (runs : program.run World.exec surroundings service.world [] = some ran) :
    ∃ final, Reaches (step config)
        (fun _ event => ∃ choice, event = .resume service.processes.length choice)
        (service.spawn tag program) final ∧
      final.world = ran.world ∧
      final.processes = service.processes ++ [⟨tag, .settled ran.result⟩] := by
  have found : (service.spawn tag program).processes[service.processes.length]? =
      some ⟨tag, program⟩ := by
    simp [Pool.spawn]
  obtain ⟨final, reaches, world, processes, _⟩ := Pool.reaches_run found runs
  refine ⟨final, ?_, world, ?_⟩
  · apply reaches.embed
    intro state choice next _ resumed
    exact ⟨.resume service.processes.length choice, ⟨choice, rfl⟩, resumed⟩
  · rw [processes]
    simp [Pool.spawn]

/-- A job that waits for a worker is executed with no step of any other call: where its message may
be dispatched, the row ends as the replies of the providers say. -/
theorem waiting_job_runs (config : Config) (service : Service) (row : SmsMessage)
    {surroundings : Surroundings} {index : Nat} {job : Job}
    (listed : service.world.jobs[index]? = some job) (own : job.messageId = row.id)
    (ready : job.state = .waiting ∨ job.state = .delayed)
    (found : service.world.messages.findById row.id = some row)
    (claimable : row.status = .queued ∨ row.status = .processing)
    (healthy : Healthy surroundings) :
    ∃ final, Reaches (step config)
        (fun _ event => event = .execute index ∨
          ∃ choice, event = .resume service.processes.length choice) service final ∧
      final.processes = service.processes ++ [⟨.dispatch row.id, .settled (.ok .noContent)⟩] ∧
      Dispatches config surroundings row service.world final.world := by
  let taken := service.setJob index { job with state := .active service.processes.length }
  have present : taken.world.messages.findById row.id = some row := found
  obtain ⟨ran, runs, result, outcome⟩ := dispatch_runs config row healthy present claimable
  obtain ⟨final, dispatches, world, processes⟩ :=
    spawned_runs config taken (.dispatch row.id) runs
  have executed : step config service (.execute index) =
      some (taken.spawn (.dispatch row.id) (Call.program config (.dispatch row.id))) := by
    simp [step, listed, ready, own, taken]
  have starts : Reaches (step config)
      (fun _ event => event = .execute index ∨
        ∃ choice, event = .resume service.processes.length choice) service
      (taken.spawn (.dispatch row.id) (Call.program config (.dispatch row.id))) :=
    .step .refl (Or.inl rfl) executed
  refine ⟨final, ?_, ?_, ?_⟩
  · apply starts.trans
    apply dispatches.mono
    intro _ _ resumed
    exact Or.inr resumed
  · rw [processes, result]
    rfl
  · rw [world]
    exact outcome

def repairs (service : Service) (id : MessageId) (event : Event) : Prop :=
  event = .request (.requeue id) ∨ event = .execute service.world.jobs.length ∨
    ∃ pid choice, service.processes.length ≤ pid ∧ event = .resume pid choice

/-- From every state of the service a message that failed for good can be taken up again. As long as
the database, Redis and the queues answer, the requeue succeeds and its job ends as the replies of
the providers say, with no step of any other call, and no other call or row is touched. -/
theorem fatal_failures_recoverable (config : Config) {requeuing dispatching : Surroundings}
    (found : service.world.messages.findById row.id = some row)
    (fatal : row.status = .fatalFailure) (healthy : Healthy requeuing)
    (healthy' : Healthy dispatching) :
    ∃ final, Reaches (step config) (fun _ => service.repairs row.id) service final ∧
      final.processes = service.processes ++
        [⟨.requeue row.id, .settled (.ok (.accepted ⟨row.id, .queued, row.createdAt⟩))⟩,
          ⟨.dispatch row.id, .settled (.ok .noContent)⟩] ∧
      Dispatches config dispatching ((Update.transitionFatalFailureToQueued row.id).set row)
        service.world final.world := by
  obtain ⟨ran, runs, result, left⟩ := requeue_runs config healthy found fatal
  obtain ⟨middle, requeues, world, processes⟩ :=
    spawned_runs config service (.requeue row.id) runs
  rw [left] at world
  rw [result] at processes
  have listed : middle.world.jobs[service.world.jobs.length]? =
      some { messageId := row.id, fromRequeue := true, attempts := config.jobAttempts } := by
    rw [world]
    simp
  have reopened : middle.world.messages.findById row.id =
      some ((Update.transitionFatalFailureToQueued row.id).set row) := by
    rw [world]
    simp [Table.findById_update, found, Update.run, Update.messageId, Update.guard, fatal]
  obtain ⟨final, dispatches, settled, outcome⟩ :=
    waiting_job_runs config middle ((Update.transitionFatalFailureToQueued row.id).set row)
      listed rfl (Or.inl rfl) reopened (Or.inl rfl) healthy'
  refine ⟨final, ?_, ?_, ?_⟩
  · have asked : step config service (.request (.requeue row.id)) =
        some (service.spawn (.requeue row.id) (Call.program config (.requeue row.id))) := rfl
    have onward : Reaches (step config) (fun _ => service.repairs row.id)
        (service.spawn (.requeue row.id) (Call.program config (.requeue row.id))) middle := by
      apply requeues.mono
      rintro _ _ ⟨choice, rfl⟩
      exact Or.inr (Or.inr ⟨_, choice, Nat.le_refl _, rfl⟩)
    have reopens : Reaches (step config) (fun _ => service.repairs row.id) service middle :=
      Reaches.trans (.step .refl (Or.inl rfl) asked) onward
    apply reopens.trans
    apply dispatches.mono
    rintro _ _ (rfl | ⟨choice, rfl⟩)
    · exact Or.inr (Or.inl rfl)
    · refine Or.inr (Or.inr ⟨_, choice, ?_, rfl⟩)
      rw [processes, List.length_append]
      omega
  · rw [settled, processes, List.append_assoc]
    rfl
  · have unchanged : middle.world.deadLetters = service.world.deadLetters := by rw [world]
    obtain ⟨calls, accepted, follows, replied, others, ended⟩ := outcome
    have kept : service.world.KeepsOthers row.id final.world := by
      intro other different
      rw [others other different, world]
      exact Table.findById_update_of_ne different
    refine ⟨calls, accepted, follows, replied, kept, ?_⟩
    unfold Ends at ended ⊢
    rw [unchanged] at ended
    exact ended

/-- The provider refuses a message while another request holds its lock; requeued, it is sent. -/
theorem refused_message_recovered : ∃ (service final : Service) (row : SmsMessage),
    Reaches (step (.defaults ["twilio"])) (fun _ _ => True) initial service ∧
    service.world.messages.findById 0 = some row ∧ row.status = .fatalFailure ∧
    service.awaits 2 = some (.findByIdempotencyKey "other") ∧
    final.awaits 2 = some (.findByIdempotencyKey "other") ∧
    Reaches (step (.defaults ["twilio"])) (fun _ => service.repairs 0) service final ∧
    ∃ sent, final.world.messages.findById 0 = some sent ∧ sent.status = .sent := by
  let accepting : Surroundings := fun _ _ => .answered { sms := {
    success := true, providerMessageId := some "SM1", isRetryable := false } }
  obtain ⟨service, reaches, found⟩ := execute_exists
    (step (.defaults ["twilio"])) (fun _ _ => True) initial
    ([Event.sends "key"] ++ Event.answers 0 8 ++ [.execute 0] ++ Event.answers 1 8 ++
      [Event.sends "other"] ++ Event.answers 2 3)
    (fun service => (service.world.messages.findById 0).any (fun row =>
        row.id = 0 && row.status = .fatalFailure) &&
      service.awaits 2 = some (.findByIdempotencyKey "other"))
    (by decide)
  simp only [Bool.and_eq_true, Option.any_eq_true, decide_eq_true_eq] at found
  obtain ⟨⟨row, present, identified, fatal⟩, waiting⟩ := found
  rw [← identified] at present ⊢
  obtain ⟨final, repaired, processes, calls, accepted, follows, replied, _, ended⟩ :=
    fatal_failures_recoverable (.defaults ["twilio"]) present fatal
      (fun _ _ _ => rfl : Healthy accepting) (fun _ _ _ => rfl : Healthy accepting)
  have accepts : accepted = true := by
    apply follows.accepts
    · intro none
      cases none
    · intro call member
      obtain ⟨record, same⟩ := replied call member
      rw [same]
      rfl
  subst accepts
  obtain ⟨_, provider, last, date, _, sent⟩ := ended
  have below : 2 < service.processes.length := by
    by_contra above
    have none : service.processes[2]? = none := List.getElem?_eq_none (by omega)
    simp [Pool.awaits, none] at waiting
  refine ⟨service, final, row, reaches, present, fatal, waiting, ?_, repaired, _, sent, rfl⟩
  rw [Pool.awaits, processes, List.getElem?_append_left below]
  exact waiting

end Service

end SmsNotification
