import Mathlib.Data.Fintype.EquivFin
import SmsNotification.ProviderBounds
import SmsNotification.Systems

/-!
Outside the rate limiter no call waits for another one. Each performs a bounded number of operations
whatever the others do, and it comes to its end when its own operations are answered. The wait in
`throttle` is a single operation here, of which it is assumed that it is answered.
-/

namespace SmsNotification

open Concurrency

/-- The most operations that a call performs: a request that finds its key locked looks twenty times
for the row, sleeping before each look, and stores what it found. -/
def Call.operations (config : Config) : Call → Nat
  | send _ _ => 46
  | requeue _ => 5
  | dispatch _ => 5 + config.providers.length * (4 * config.maxRetries + 1)
  | twilio _ => 6
  | bird _ _ => 9

section Performs

variable {α β : Type} {program : Action α} {budget more : Nat}

abbrev Performs (program : Action α) (budget : Nat) : Prop :=
  program.AtMost (fun _ => true) budget

theorem performs_call {op : Op} (positive : 1 ≤ budget) : Performs (call op) budget :=
  Program.atMost_perform fun _ => positive

theorem performs_bind {rest : α → Action β} (first : Performs program budget)
    (second : ∀ value, Performs (rest value) more) : Performs (program >>= rest) (more + budget) := by
  rw [Nat.add_comm]
  exact first.bind second

theorem performs_call_bind {op : Op} {rest : op.Reply → Action β}
    (answered : ∀ answer, Performs (rest answer) budget) :
    Performs (call op >>= rest) (budget + 1) :=
  performs_bind (performs_call (Nat.le_refl 1)) answered

theorem performs_tryCatch {handler : Failure → Action α} (first : Performs program budget)
    (second : ∀ error, Performs (handler error) more) :
    Performs (tryCatch program handler) (more + budget) := by
  rw [Nat.add_comm]
  exact first.tryCatch second

theorem performs_finallyDo {cleanup : Action Unit} (first : Performs program budget)
    (second : Performs cleanup more) : Performs (program.finallyDo cleanup) (more + budget) := by
  rw [Nat.add_comm]
  exact first.finallyDo second

end Performs

section Requests

variable {config : Config} {message : SmsMessage}

open SmsService

theorem findFromIdempotencyCache_performs (key : String) :
    Performs (findFromIdempotencyCache key) 3 := by
  apply performs_call_bind
  rintro (_ | cachedMessageId)
  · exact Program.atMost_pure _
  · apply performs_call_bind
    rintro (_ | message)
    · apply performs_call_bind
      intro _
      exact Program.atMost_pure _
    · exact Program.atMost_pure _

theorem waitForMessageCreatedByConcurrentRequest_performs (key : String) (attempts : Nat) :
    Performs (waitForMessageCreatedByConcurrentRequest key attempts) (2 * attempts + 1) := by
  induction attempts with
  | zero => exact Program.atMost_pure _
  | succ attempts ih =>
      apply performs_call_bind
      intro _
      apply performs_call_bind
      rintro (_ | message)
      · exact ih
      · apply performs_call_bind
        intro _
        exact Program.atMost_pure _

theorem markQueuePublishFailed_performs (id : MessageId) :
    Performs (markQueuePublishFailed id) 2 := by
  apply performs_call_bind
  intro failedAt
  apply performs_call_bind
  intro _
  exact Program.atMost_pure _

theorem publishQueuedMessage_performs : Performs (publishQueuedMessage config message) 3 := by
  apply performs_tryCatch (performs_call (Nat.le_refl 1))
  intro _
  exact (markQueuePublishFailed_performs message.id).bind_idle fun _ => Program.atMost_throw _

theorem createUnderLock_performs (key : String) (dto : SendSmsDto) :
    Performs (createUnderLock config key dto) 6 := by
  apply performs_call_bind
  rintro (_ | messageAfterLock)
  · apply performs_call_bind
    intro message
    apply performs_bind publishQueuedMessage_performs
    intro _
    apply performs_call_bind
    intro _
    exact Program.atMost_pure _
  · apply performs_call_bind
    intro _
    exact Program.atMost_pure _

theorem releaseLock_performs (lock : IdempotencyLock) : Performs (releaseLock lock) 1 := by
  apply performs_tryCatch (performs_call (Nat.le_refl 1))
  intro _
  exact Program.atMost_pure _

theorem recoverUnderLock_performs (key : String) (error : Failure) :
    Performs (recoverUnderLock key error) 2 := by
  have finds : Performs (findExistingAfterUniqueViolation key error) 1 := by
    unfold findExistingAfterUniqueViolation
    split
    · apply performs_call_bind
      rintro (_ | existingMessage)
      · exact Program.atMost_throw _
      · exact Program.atMost_pure _
    · exact Program.atMost_pure _
  apply performs_bind finds
  rintro (_ | existing)
  · exact Program.atMost_throw _
  · apply performs_call_bind
    intro _
    exact Program.atMost_pure _

theorem sendSmsRequest_performs (key : String) (dto : SendSmsDto) :
    Performs (sendSmsRequest config key dto) 46 := by
  have validates : Performs (validateMessageLength config dto.message) 0 := by
    unfold validateMessageLength
    split
    · exact Program.atMost_throw _
    · exact Program.atMost_pure _
  apply validates.idle_bind
  intro _
  apply performs_bind (findFromIdempotencyCache_performs key)
  rintro (_ | cachedMessage)
  · apply performs_call_bind
    rintro (_ | existingMessage)
    · apply performs_call_bind
      rintro (_ | lock)
      · have waits := waitForMessageCreatedByConcurrentRequest_performs key 20
        apply waits.bind_idle
        rintro (_ | concurrent)
        · exact Program.atMost_throw _
        · exact Program.atMost_pure _
      · have creates : Performs
            (tryCatch (createUnderLock config key dto) (recoverUnderLock key)) 8 :=
          performs_tryCatch (createUnderLock_performs key dto) (recoverUnderLock_performs key)
        have ends := performs_finallyDo creates (releaseLock_performs lock)
        exact ends.mono (by omega)
    · apply performs_call_bind
      intro _
      exact Program.atMost_pure _
  · exact Program.atMost_pure _

theorem restoreFatalFailure_performs (enqueueError : String) :
    Performs (restoreFatalFailureAfterRequeueFailure message enqueueError) 2 := by
  have marks : ∀ failedAt, Performs (do
      let _ ← call (.update (.restoreFatalFailure message.id message.selectedProvider
        (requeuePublishFailedError ++ ": " ++ enqueueError) failedAt))
      pure ()) 1 := by
    intro failedAt
    apply performs_call_bind
    intro _
    exact Program.atMost_pure _
  cases failed : message.failedAt with
  | some failedAt =>
      simp only [restoreFatalFailureAfterRequeueFailure, failed]
      exact (marks failedAt).mono (by omega)
  | none =>
      simp only [restoreFatalFailureAfterRequeueFailure, failed]
      apply performs_call_bind
      exact marks

theorem requeue_performs (id : MessageId) : Performs (requeue config id) 5 := by
  apply performs_call_bind
  rintro (_ | message)
  · exact Program.atMost_throw _
  · simp only []
    split
    · exact Program.atMost_throw _
    · apply performs_call_bind
      rintro (_ | _)
      · exact Program.atMost_throw _
      · have publishes : Performs (tryCatch (QueueService.requeueSms config id) fun error => do
            restoreFatalFailureAfterRequeueFailure message (toErrorMessage error)
            throw (.app .queuePublishFailed)) 3 := by
          apply performs_tryCatch (performs_call (Nat.le_refl 1))
          intro error
          exact (restoreFatalFailure_performs _).bind_idle fun _ => Program.atMost_throw _
        exact publishes.bind_idle fun _ => Program.atMost_pure _

end Requests

section Dispatches

variable {config : Config} {message : SmsMessage}

open SmsDispatcherService

theorem markSent_performs (id : MessageId) (provider : String) (providerMessageId : Option String) :
    Performs (SmsService.markSent id provider providerMessageId) 2 := by
  apply performs_call_bind
  intro sentAt
  apply performs_call_bind
  intro _
  exact Program.atMost_pure _

theorem giveUp_performs (lastProviderName lastError : String) :
    Performs (giveUp message lastProviderName lastError) 3 := by
  have marks : Performs (SmsService.markFatalFailure message.id lastProviderName lastError) 2 := by
    apply performs_call_bind
    intro failedAt
    apply performs_call_bind
    intro _
    exact Program.atMost_pure _
  apply performs_bind marks
  intro _
  exact performs_call (Nat.le_refl 1)

theorem sendWithProvider_performs (providerName : String) :
    Performs (sendWithProvider message providerName) 1 := by
  apply performs_tryCatch (performs_call (Nat.le_refl 1))
  intro _
  exact Program.atMost_pure _

theorem attemptProvider_performs (providerName : String) (remaining attempt : Nat)
    (lastError : String) :
    Performs (attemptProvider config message providerName remaining attempt lastError)
      (4 * remaining + 1) := by
  induction remaining generalizing attempt lastError with
  | zero => exact Program.atMost_pure _
  | succ remaining ih =>
      have counts : Performs (SmsService.incrementAttempts message.id) 1 := by
        apply performs_call_bind
        intro _
        exact Program.atMost_pure _
      have less : 4 * (remaining + 1) + 1 = 4 * remaining + 2 + 1 + 1 + 1 := by omega
      rw [attemptProvider, less]
      apply performs_bind counts
      intro _
      apply performs_call_bind
      intro _
      apply performs_bind (sendWithProvider_performs providerName)
      intro result
      split
      · have marks := markSent_performs message.id providerName result.providerMessageId
        have ends := marks.bind_idle fun _ => Program.atMost_pure ProviderOutcome.sent
        exact ends.mono (by omega)
      · simp only []
        split
        · exact Program.atMost_pure _
        · split
          · exact Program.atMost_throw _
          · apply performs_call_bind
            intro _
            exact ih _ _

theorem dispatchProviders_performs (providers : List String) (lastProviderName lastError : String) :
    Performs (dispatchProviders config message providers lastProviderName lastError)
      (3 + providers.length * (4 * config.maxRetries + 1)) := by
  induction providers generalizing lastProviderName lastError with
  | nil => exact (giveUp_performs lastProviderName lastError).mono (by omega)
  | cons providerName rest ih =>
      have more : 3 + (providerName :: rest).length * (4 * config.maxRetries + 1) =
          3 + rest.length * (4 * config.maxRetries + 1) + (4 * config.maxRetries + 1) := by
        rw [List.length_cons, Nat.succ_mul, Nat.add_assoc]
      rw [dispatchProviders, more]
      apply performs_bind (attemptProvider_performs providerName _ 1 lastError)
      rintro (_ | lastError)
      · exact Program.atMost_pure _
      · exact ih _ _

theorem dispatch_performs (id : MessageId) :
    Performs (dispatch config id) (5 + config.providers.length * (4 * config.maxRetries + 1)) := by
  have more : 5 + config.providers.length * (4 * config.maxRetries + 1) =
      3 + config.providers.length * (4 * config.maxRetries + 1) + 1 + 1 := by omega
  rw [dispatch, more]
  apply performs_call_bind
  rintro (_ | message)
  · exact Program.atMost_throw _
  · simp only []
    split
    · exact Program.atMost_pure _
    · apply performs_call_bind
      rintro (_ | _)
      · have reads : Performs (do
            let _ ← SmsService.findById message.id
            pure ()) 1 := by
          apply performs_call_bind
          intro _
          exact Program.atMost_pure _
        exact reads.mono (by omega)
      · exact dispatchProviders_performs _ _ _

end Dispatches

section Callbacks

variable {caseMapping : Js.CaseMapping}

open DeliveryStatusService

theorem updateFound_performs (callback : DeliveryStatusCallback) (message : SmsMessage)
    (status : SmsStatus) (allowedPreviousStatuses : List SmsStatus) :
    Performs (updateFound callback message status allowedPreviousStatuses) 4 := by
  have dated : Performs (eventDate callback) 1 := by
    unfold eventDate
    split
    · exact Program.atMost_pure _
    · exact performs_call (Nat.le_refl 1)
  apply performs_bind dated
  intro eventAt
  apply performs_call_bind
  rintro (_ | _)
  · apply performs_call_bind
    intro latestMessage
    simp only []
    split <;>
    · apply performs_call_bind
      intro _
      exact Program.atMost_pure _
  · apply performs_call_bind
    intro _
    exact Program.atMost_pure _

theorem apply_performs (callback : DeliveryStatusCallback) :
    Performs (DeliveryStatusService.apply callback) 5 := by
  have ignored : ∀ message, Performs (ignoreStatus callback message) 4 := by
    intro message
    apply performs_call_bind
    intro _
    exact Program.atMost_pure _
  apply performs_call_bind
  rintro (_ | message)
  · apply performs_call_bind
    intro _
    exact Program.atMost_pure _
  · simp only []
    split
    · exact ignored _
    · split
      · exact ignored _
      · exact updateFound_performs _ _ _ _

theorem twilio_performs (callback : TwilioStatusCallback) :
    Performs (TwilioWebhookService.handleVerified caseMapping (some callback)) 6 := by
  apply performs_call_bind
  intro _
  split
  · exact performs_call (by omega)
  · exact (apply_performs _).bind_idle fun _ => Program.atMost_pure _

open BirdWebhookService

theorem processEvent_performs (event : BirdDeliveryEvent) :
    Performs (processEvent caseMapping event) 5 := by
  unfold processEvent
  split
  · exact performs_call (by omega)
  · exact (apply_performs _).bind_idle fun _ => Program.atMost_pure _

theorem bird_performs (webhookId : String) (event : BirdDeliveryEvent) :
    Performs (handleVerified caseMapping webhookId (some event)) 9 := by
  apply performs_call_bind
  intro _
  apply performs_call_bind
  rintro (_ | _)
  · exact performs_call (by omega)
  · have releases : Performs (releaseClaim webhookId) 2 := by
      apply performs_tryCatch (performs_call (Nat.le_refl 1))
      intro _
      exact performs_call (Nat.le_refl 1)
    apply performs_tryCatch (processEvent_performs event)
    intro error
    exact releases.bind_idle fun _ => Program.atMost_throw _

end Callbacks

theorem program_performs {config : Config} (request : Call) :
    Performs (request.program config) (request.operations config) := by
  cases request with
  | send key dto => exact (sendSmsRequest_performs key dto).bind_idle fun _ => Program.atMost_pure _
  | requeue id => exact (requeue_performs id).bind_idle fun _ => Program.atMost_pure _
  | dispatch id => exact (dispatch_performs id).bind_idle fun _ => Program.atMost_pure _
  | twilio callback => exact (twilio_performs callback).bind_idle fun _ => Program.atMost_pure _
  | bird webhookId event =>
      exact (bird_performs webhookId event).bind_idle fun _ => Program.atMost_pure _

theorem World.exec_answers (world : World) (op : Op) :
    ∃ hint completion, world.exec op (.answered hint) = some completion := by
  cases op with
  | findByProviderMessageId provider providerMessageId =>
      cases found : world.messages.findByProviderMessageId provider providerMessageId with
      | nil => exact ⟨{}, _, by simp only [exec, perform, found]; rfl⟩
      | cons row rows => exact ⟨{}, _, by simp only [exec, perform, found]; rfl⟩
  | createQueuedMessage key dto =>
      obtain ⟨id, fresh⟩ := Infinite.exists_notMem_finset
        (world.messages.rows.map SmsMessage.id).toFinset
      have newId : (queuedMessage id 0 key dto).id ∉ world.messages.rows.map SmsMessage.id := by
        simpa [queuedMessage] using fresh
      have answers : (world.exec (.createQueuedMessage key dto) (.answered { id := id })).isSome := by
        simp only [exec, perform]
        split
        · split <;> rfl
        · contradiction
      obtain ⟨completion, executed⟩ := Option.isSome_iff_exists.mp answers
      exact ⟨{ id := id }, completion, executed⟩
  | acquireLock key =>
      cases stored : world.locks key with
      | some token => exact ⟨{}, _, by simp only [exec, perform, stored]; rfl⟩
      | none => exact ⟨{}, _, by simp only [exec, perform, stored]; rfl⟩
  | releaseLock lock =>
      by_cases own : world.locks lock.key = some lock.token
      · exact ⟨{}, _, by simp only [exec, perform, if_pos own]; rfl⟩
      · exact ⟨{}, _, by simp only [exec, perform, if_neg own]; rfl⟩
  | claimBirdWebhook webhookId =>
      by_cases claimed : world.claims webhookId = true
      · exact ⟨{}, _, by simp only [exec, perform, if_pos claimed]; rfl⟩
      · exact ⟨{}, _, by simp only [exec, perform, if_neg claimed]; rfl⟩
  | _ => exact ⟨{}, _, rfl⟩

namespace Service

variable {config : Config} {service : Service} {pid : Nat} {request : Call}

theorem performed_le {permitted : Service → Event → Prop}
    (reaches : Reaches (step config) permitted initial service)
    (tagged : service.tagOf pid = some request) :
    (service.entriesOf pid).length ≤ request.operations config ∧
      ∃ program budget, service.processes[pid]? = some ⟨request, program⟩ ∧
        Performs program budget := by
  obtain ⟨⟨tag, program⟩, found, rfl⟩ := Option.map_eq_some_iff.mp tagged
  obtain ⟨budget, performs, counts⟩ :=
    (within (program_performs tag) reaches).budget pid program found
  refine ⟨?_, program, budget, found, performs⟩
  have length : (service.entriesOf pid).length = service.tally (fun _ => true) pid := by
    rw [Pool.tally, List.countP_eq_length_filter]
    apply congrArg
    apply List.filter_congr
    intro entry _
    by_cases own : entry.pid = pid <;> simp [own]
  rw [length]
  exact Nat.le_trans (Nat.le_add_right _ _) counts

def Event.answersTo (pid : Nat) (event : Event) : Prop :=
  ∃ hint, event = .resume pid (.answered hint)

/-- In every run and under every interleaving a call performs a bounded number of operations, and
from wherever the run has got to it settles by operations of its own alone, all of them answered,
the wait of a dispatch for the rate limiter among them: whatever state the other calls are in, none
of them has to move for anything else. -/
theorem calls_wait_free {permitted : Service → Event → Prop}
    (reaches : Reaches (step config) permitted initial service)
    (tagged : service.tagOf pid = some request) :
    (service.entriesOf pid).length ≤ request.operations config ∧
      ∃ final, Reaches (step config) (fun _ event => event.answersTo pid) service final ∧
        (final.entriesOf pid).length ≤ request.operations config ∧
        ∃ result, final.result pid = some result := by
  obtain ⟨bounded, program, budget, found, performs⟩ := performed_le reaches tagged
  refine ⟨bounded, ?_⟩
  have possible : ∀ (world : World) (op : Op), ∃ (choice : Choice) (completion : World.Outcome op),
      (∃ hint, choice = .answered hint) ∧ world.exec op choice = some completion := by
    intro world op
    obtain ⟨hint, completion, executed⟩ := World.exec_answers world op
    exact ⟨.answered hint, completion, ⟨hint, rfl⟩, executed⟩
  obtain ⟨final, result, resumes, settled⟩ := Pool.settles_alone _ possible performs found
  have onward : Reaches (step config) (fun _ event => event.answersTo pid) service final := by
    apply resumes.embed
    rintro state _ next ⟨hint, rfl⟩ resumed
    exact ⟨.resume pid (.answered hint), ⟨hint, rfl⟩, resumed⟩
  have all : Reaches (step config) (fun _ _ => True) initial final :=
    (reaches.mono fun _ _ _ => trivial).trans (onward.mono fun _ _ _ => trivial)
  have tagged' : final.tagOf pid = some request := by simp [Pool.tagOf, settled]
  exact ⟨final, onward, (performed_le all tagged').1, result,
    by simp [Service.result, settled, Program.result]⟩

/-- A request that found its key locked settles although the holder of the lock stands still. -/
theorem refused_call_wait_free : ∃ service final,
    service.awaits 0 = some (.sleep (.finite 50)) ∧
    service.awaits 1 = some (.findByIdempotencyKey "key") ∧
    Reaches (step (.defaults ["twilio"])) (fun _ event => event.answersTo 0) service final ∧
    ∃ result, final.result 0 = some result := by
  obtain ⟨service, reaches, found⟩ := execute_exists
    (step (.defaults ["twilio"])) (fun _ _ => True) initial
    ([Event.sends "key", Event.sends "key"] ++ Event.answers 1 3 ++ Event.answers 0 3)
    (fun service => service.awaits 0 = some (.sleep (.finite 50)) &&
      service.awaits 1 = some (.findByIdempotencyKey "key") &&
      service.tagOf 0 = some (.send "key"
        { «to» := "+15550100", message := "hello", metadata := none }))
    (by decide)
  simp only [Bool.and_eq_true, decide_eq_true_eq] at found
  obtain ⟨_, final, onward, _, settles⟩ := calls_wait_free reaches found.2
  exact ⟨service, final, found.1.1, found.1.2, onward, settles⟩

end Service

end SmsNotification
