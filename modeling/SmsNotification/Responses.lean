import SmsNotification.Concurrency.Recording
import SmsNotification.ErrorCatalog
import SmsNotification.Systems

/-!
What answers the caller of a request: an error has its grounds in what the request itself read, and a
`500` in an operation of its own that was rejected.
-/

namespace SmsNotification

open Concurrency

abbrev Exchanged := Exchange Op Op.Reply Failure

inductive Rejected : Failure → List Exchanged → Prop
  | intro {op : Op} {message : Option String} {exchanges : List Exchanged} :
      ⟨op, .error (.rejection message)⟩ ∈ exchanges → Rejected (.rejection message) exchanges

/-- The grounds that a call can have to fail with an error, given what it exchanged. -/
inductive Grounded (config : Config) : Call → Failure → List Exchanged → Prop
  | tooLong {key : String} {dto : SendSmsDto} :
      config.maxMessageLength < Js.utf16Length dto.message →
      Grounded config (.send key dto) (.app (.smsMessageTooLong config.maxMessageLength)) []
  | lockHeld {key : String} {dto : SendSmsDto} {exchanges : List Exchanged} :
      ⟨.acquireLock key, .ok none⟩ ∈ exchanges →
      Grounded config (.send key dto) (.app .idempotencyConflict) exchanges
  | notPublished {key : String} {dto : SendSmsDto} {exchanges : List Exchanged}
      {id : MessageId} {message : Option String} :
      ⟨.enqueueSms id config.jobAttempts, .error (.rejection message)⟩ ∈ exchanges →
      Grounded config (.send key dto) (.app .queuePublishFailed) exchanges
  -- the row that an insert ran into was gone when it was looked up
  | vanished {key : String} {dto other : SendSmsDto} {exchanges : List Exchanged} :
      List.Sublist [⟨.createQueuedMessage key other, .error .uniqueViolation⟩,
        ⟨.findByIdempotencyKey key, .ok none⟩] exchanges →
      Grounded config (.send key dto) .uniqueViolation exchanges
  | notFound {request : Call} {id : MessageId} {exchanges : List Exchanged} :
      request = .requeue id ∨ request = .dispatch id →
      ⟨.findById id, .ok none⟩ ∈ exchanges →
      Grounded config request (.app .smsMessageNotFound) exchanges
  | notEligible {id : MessageId} {row : SmsMessage} {exchanges : List Exchanged} :
      ⟨.findById id, .ok (some row)⟩ ∈ exchanges → row.status ≠ .fatalFailure →
      Grounded config (.requeue id) (.app .requeueNotEligible) exchanges
  | requeuedConcurrently {id : MessageId} {exchanges : List Exchanged} :
      ⟨.update (.transitionFatalFailureToQueued id), .ok false⟩ ∈ exchanges →
      Grounded config (.requeue id) (.app .requeueConflict) exchanges
  | notRequeued {id : MessageId} {message : Option String} {exchanges : List Exchanged} :
      ⟨.requeueSms id config.jobAttempts, .error (.rejection message)⟩ ∈ exchanges →
      Grounded config (.requeue id) (.app .queuePublishFailed) exchanges
  | rejected {request : Call} {error : Failure} {exchanges : List Exchanged} :
      Rejected error exchanges → Grounded config request error exchanges

section Grounds

variable {config : Config} {request : Call} {error : Failure} {exchanges later : List Exchanged}

theorem Rejected.grows (rejected : Rejected error exchanges) (more : exchanges <+: later) :
    Rejected error later := by
  obtain ⟨member⟩ := rejected
  exact ⟨more.subset member⟩

theorem Grounded.response {defaultHandling : Failure → HttpResponse}
    (hides : HidesUnknownErrors defaultHandling)
    (grounded : Grounded config request error exchanges)
    (explained : error ≠ .uniqueViolation) {statusCode : Nat}
    (route : request.httpCode = some statusCode) :
    ((error.response defaultHandling).statusCode ∈ request.documented ∨
      (error.response defaultHandling).statusCode = HttpStatus.internalServerError) ∧
    ((error.response defaultHandling).statusCode = HttpStatus.internalServerError →
      ∃ op message, (⟨op, .error (.rejection message)⟩ : Exchanged) ∈ exchanges) := by
  cases grounded with
  | tooLong long => exact ⟨Or.inl (.tail _ (.head _)), fun internal => by cases internal⟩
  | lockHeld member =>
      exact ⟨Or.inl (.tail _ (.tail _ (.head _))), fun internal => by cases internal⟩
  | notPublished member => exact ⟨Or.inr rfl, fun _ => ⟨_, _, member⟩⟩
  | vanished ordered => exact absurd rfl explained
  | notFound names member =>
      rcases names with rfl | rfl
      · exact ⟨Or.inl (.tail _ (.head _)), fun internal => by cases internal⟩
      · cases route
  | notEligible member status =>
      exact ⟨Or.inl (.tail _ (.tail _ (.head _))), fun internal => by cases internal⟩
  | requeuedConcurrently member =>
      exact ⟨Or.inl (.tail _ (.tail _ (.head _))), fun internal => by cases internal⟩
  | notRequeued member => exact ⟨Or.inr rfl, fun _ => ⟨_, _, member⟩⟩
  | rejected rejected =>
      obtain ⟨member⟩ := rejected
      exact ⟨Or.inr (hides _), fun _ => ⟨_, _, member⟩⟩

theorem Grounded.grows (grounded : Grounded config request error exchanges)
    (executed : exchanges ≠ []) (more : exchanges <+: later) :
    Grounded config request error later := by
  cases grounded with
  | tooLong => exact absurd rfl executed
  | lockHeld member => exact .lockHeld (more.subset member)
  | notPublished member => exact .notPublished (more.subset member)
  | vanished ordered => exact .vanished (ordered.trans more.sublist)
  | notFound names member => exact .notFound names (more.subset member)
  | notEligible member status => exact .notEligible (more.subset member) status
  | requeuedConcurrently member => exact .requeuedConcurrently (more.subset member)
  | notRequeued member => exact .notRequeued (more.subset member)
  | rejected rejected => exact .rejected (rejected.grows more)

end Grounds

section Programs

variable {α β : Type} {config : Config} {request : Call} {exchanges : List Exchanged} {op : Op}

abbrev ExplainedBy (grounds : Failure → List Exchanged → Prop) (program : Action α)
    (exchanges : List Exchanged) : Prop :=
  program.Explains Stage.Replies grounds exchanges

def Op.inserts : Op → Bool
  | createQueuedMessage _ _ => true
  | _ => false

theorem rejection_of_replies {error : Failure} (other : op.inserts = false)
    (possible : Stage.Replies op (.error error)) : ∃ message, error = .rejection message := by
  rcases possible.2 with rejection | ⟨_, key, dto, rfl⟩
  · exact rejection
  · simp [Op.inserts] at other

theorem rejected_last {error : Failure} (other : op.inserts = false)
    (possible : Stage.Replies op (.error error)) :
    Rejected error (exchanges ++ [⟨op, .error error⟩]) := by
  obtain ⟨message, rfl⟩ := rejection_of_replies other possible
  exact ⟨List.mem_append_right _ (List.mem_singleton_self _)⟩

theorem explained_call (other : op.inserts = false) :
    ExplainedBy Rejected (call op) exchanges :=
  Program.explains_perform fun _ possible => rejected_last other possible

theorem explained_call_bind {rest : op.Reply → Action β} (other : op.inserts = false)
    (answered : ∀ answer, Stage.Answers op answer →
      ExplainedBy Rejected (rest answer) (exchanges ++ [⟨op, .ok answer⟩])) :
    ExplainedBy Rejected (call op >>= rest) exchanges :=
  Program.explains_perform_bind (fun _ possible => rejected_last other possible) answered

theorem grounded_call_bind {rest : op.Reply → Action β} (other : op.inserts = false)
    (answered : ∀ answer, Stage.Answers op answer →
      ExplainedBy (Grounded config request) (rest answer) (exchanges ++ [⟨op, .ok answer⟩])) :
    ExplainedBy (Grounded config request) (call op >>= rest) exchanges :=
  Program.explains_perform_bind (fun _ possible => .rejected (rejected_last other possible))
    answered

theorem grounded_of_rejected {program : Action α} (explained : ExplainedBy Rejected program exchanges) :
    ExplainedBy (Grounded config request) program exchanges :=
  explained.mono fun _ _ _ rejected => .rejected rejected

end Programs

section Rejecting

variable {config : Config} {exchanges : List Exchanged} {message : SmsMessage}

open SmsService

theorem markSent_rejects (id : MessageId) (provider : String) (providerMessageId : Option String) :
    ExplainedBy Rejected (markSent id provider providerMessageId) exchanges := by
  apply explained_call_bind rfl
  intro sentAt _
  apply explained_call_bind rfl
  intro _ _
  exact Program.explains_pure _

theorem markFatalFailure_rejects (id : MessageId) (provider lastError : String) :
    ExplainedBy Rejected (markFatalFailure id provider lastError) exchanges := by
  apply explained_call_bind rfl
  intro failedAt _
  apply explained_call_bind rfl
  intro _ _
  exact Program.explains_pure _

theorem markQueuePublishFailed_rejects (id : MessageId) :
    ExplainedBy Rejected (markQueuePublishFailed id) exchanges := by
  apply explained_call_bind rfl
  intro failedAt _
  apply explained_call_bind rfl
  intro _ _
  exact Program.explains_pure _

theorem restoreFatalFailure_rejects (enqueueError : String) :
    ExplainedBy Rejected (restoreFatalFailureAfterRequeueFailure message enqueueError)
      exchanges := by
  have marks : ∀ failedAt exchanges, ExplainedBy Rejected (do
      let _ ← call (.update (.restoreFatalFailure message.id message.selectedProvider
        (requeuePublishFailedError ++ ": " ++ enqueueError) failedAt))
      pure ()) exchanges := by
    intro failedAt exchanges
    apply explained_call_bind rfl
    intro _ _
    exact Program.explains_pure _
  cases failed : message.failedAt with
  | some failedAt =>
      simp only [restoreFatalFailureAfterRequeueFailure, failed]
      exact marks failedAt exchanges
  | none =>
      simp only [restoreFatalFailureAfterRequeueFailure, failed]
      apply explained_call_bind rfl
      intro failedAt _
      exact marks failedAt _

theorem findFromIdempotencyCache_rejects (key : String) :
    ExplainedBy Rejected (findFromIdempotencyCache key) exchanges := by
  apply explained_call_bind rfl
  rintro (_ | cachedMessageId) _
  · exact Program.explains_pure _
  · apply explained_call_bind rfl
    rintro (_ | message) _
    · apply explained_call_bind rfl
      intro _ _
      exact Program.explains_pure _
    · exact Program.explains_pure _

theorem waitForMessageCreatedByConcurrentRequest_rejects (key : String) (attempts : Nat) :
    ExplainedBy Rejected (waitForMessageCreatedByConcurrentRequest key attempts) exchanges := by
  induction attempts generalizing exchanges with
  | zero => exact Program.explains_pure _
  | succ attempts ih =>
      apply explained_call_bind rfl
      intro _ _
      apply explained_call_bind rfl
      rintro (_ | message) _
      · exact ih
      · apply explained_call_bind rfl
        intro _ _
        exact Program.explains_pure _

theorem releaseLock_succeeds (lock : IdempotencyLock) (exchanges : List Exchanged) :
    ExplainedBy (fun _ _ => False) (releaseLock lock) exchanges := by
  apply Program.Explains.tryCatch (explained_call rfl)
  intro error final _ _
  exact Program.explains_pure _

end Rejecting

section Sends

variable {config : Config} {exchanges : List Exchanged}

open SmsService

theorem published_or_rejected {op : Op} (other : op.inserts = false) :
    ExplainedBy (fun error final => ∃ rejection, error = .rejection rejection ∧
      ⟨op, .error (.rejection rejection)⟩ ∈ final) (call op) exchanges := by
  apply Program.explains_perform
  intro error possible
  obtain ⟨rejection, rfl⟩ := rejection_of_replies other possible
  exact ⟨rejection, rfl, List.mem_append_right _ (List.mem_singleton_self _)⟩

theorem publishQueuedMessage_grounded (key : String) (dto : SendSmsDto) (message : SmsMessage) :
    ExplainedBy (Grounded config (.send key dto)) (publishQueuedMessage config message)
      exchanges := by
  apply Program.Explains.tryCatch (published_or_rejected rfl)
  rintro error final _ ⟨rejection, rfl, member⟩
  apply Program.Explains.bind (grounded_of_rejected (markQueuePublishFailed_rejects message.id))
  intro _ marked more
  exact Program.explains_throw (.notPublished (more.subset member))

/-- The grounds under the lock, where an insert may have run into a row. -/
def UnderLock (config : Config) (key : String) (dto : SendSmsDto) (error : Failure)
    (exchanges : List Exchanged) : Prop :=
  Grounded config (.send key dto) error exchanges ∨
    error = .uniqueViolation ∧
      ⟨.createQueuedMessage key dto, .error .uniqueViolation⟩ ∈ exchanges

theorem createUnderLock_grounded (key : String) (dto : SendSmsDto) :
    ExplainedBy (UnderLock config key dto) (createUnderLock config key dto) exchanges := by
  have rejects : ∀ {op : Op} {exchanges : List Exchanged} {error : Failure},
      op.inserts = false → Stage.Replies op (.error error) →
      UnderLock config key dto error (exchanges ++ [⟨op, .error error⟩]) :=
    fun other possible => Or.inl (.rejected (rejected_last other possible))
  apply Program.explains_perform_bind (fun _ possible => rejects rfl possible)
  rintro (_ | messageAfterLock) _
  · apply Program.explains_perform_bind
    · rintro error ⟨_, ⟨rejection, rfl⟩ | ⟨rfl, _⟩⟩
      · exact Or.inl (.rejected ⟨List.mem_append_right _ (List.mem_singleton_self _)⟩)
      · exact Or.inr ⟨rfl, List.mem_append_right _ (List.mem_singleton_self _)⟩
    · intro message _
      apply Program.Explains.bind
        ((publishQueuedMessage_grounded key dto message).mono fun _ _ _ grounded => Or.inl grounded)
      intro _ final _
      apply Program.explains_perform_bind (fun _ possible => rejects rfl possible)
      intro _ _
      exact Program.explains_pure _
  · apply Program.explains_perform_bind (fun _ possible => rejects rfl possible)
    intro _ _
    exact Program.explains_pure _

theorem recoverUnderLock_grounded {key : String} {dto : SendSmsDto} {error : Failure}
    (failed : UnderLock config key dto error exchanges) (executed : exchanges ≠ []) :
    ExplainedBy (Grounded config (.send key dto)) (recoverUnderLock key error) exchanges := by
  by_cases violated : error = .uniqueViolation
  · subst violated
    have inserted : ⟨.createQueuedMessage key dto, .error .uniqueViolation⟩ ∈ exchanges ∨
        Grounded config (.send key dto) .uniqueViolation exchanges := by
      rcases failed with grounded | ⟨_, member⟩
      · exact Or.inr grounded
      · exact Or.inl member
    apply Program.Explains.assoc
    apply grounded_call_bind rfl
    rintro (_ | existingMessage) _
    · apply Program.explains_throw
      rcases inserted with member | grounded
      · apply Grounded.vanished
        exact (List.singleton_sublist.mpr member).append (List.Sublist.refl _)
      · exact grounded.grows executed (List.prefix_append _ _)
    · apply grounded_call_bind rfl
      intro _ _
      exact Program.explains_pure _
  · have grounded : Grounded config (.send key dto) error exchanges := by
      rcases failed with grounded | ⟨same, _⟩
      · exact grounded
      · exact absurd same violated
    have none : findExistingAfterUniqueViolation key error = pure none := by
      simp [findExistingAfterUniqueViolation, isUniqueViolation, violated]
    rw [recoverUnderLock, none]
    exact Program.explains_throw grounded

theorem sendSmsRequest_grounded (key : String) (dto : SendSmsDto) :
    ExplainedBy (Grounded config (.send key dto)) (sendSmsRequest config key dto) [] := by
  by_cases long : Js.utf16Length dto.message > config.maxMessageLength
  · simp only [sendSmsRequest, validateMessageLength, if_pos long]
    exact Program.explains_throw (.tooLong long)
  · simp only [sendSmsRequest, validateMessageLength, if_neg long]
    apply Program.Explains.bind (grounded_of_rejected (findFromIdempotencyCache_rejects key))
    rintro (_ | cachedMessage) looked _
    · apply grounded_call_bind rfl
      rintro (_ | existingMessage) _
      · apply grounded_call_bind rfl
        rintro (_ | lock) _
        · apply Program.Explains.bind
            (grounded_of_rejected (waitForMessageCreatedByConcurrentRequest_rejects key 20))
          rintro (_ | concurrent) waited more
          · apply Program.explains_throw
            apply Grounded.lockHeld
            exact more.subset (List.mem_append_right _ (List.mem_singleton_self _))
          · exact Program.explains_pure _
        · have underLock : ∀ exchanges, exchanges ≠ [] → ExplainedBy (Grounded config (.send key dto))
              (tryCatch (createUnderLock config key dto) (recoverUnderLock key)) exchanges := by
            intro exchanges executed
            apply Program.Explains.tryCatch (createUnderLock_grounded key dto)
            intro error final more failed
            apply recoverUnderLock_grounded failed
            rintro rfl
            exact executed (List.prefix_nil.mp more)
          apply Program.Explains.finallyDo (underLock _ (by simp)) _ (releaseLock_succeeds lock)
          intro error middle final more later grounded
          apply grounded.grows _ later
          rintro rfl
          simp at more
      · apply grounded_call_bind rfl
        intro _ _
        exact Program.explains_pure _
    · exact Program.explains_pure _

theorem requeue_grounded (id : MessageId) :
    ExplainedBy (Grounded config (.requeue id)) (requeue config id) [] := by
  apply grounded_call_bind rfl
  rintro (_ | message) _
  · exact Program.explains_throw (.notFound (Or.inl rfl) (by simp))
  · simp only []
    split
    · rename_i status
      exact Program.explains_throw (.notEligible (by simp) status)
    · apply grounded_call_bind rfl
      rintro (_ | _) _
      · exact Program.explains_throw (.requeuedConcurrently (by simp))
      · simp only [Bool.not_true, Bool.false_eq_true, if_false]
        apply Program.Explains.bind
        · apply Program.Explains.tryCatch (published_or_rejected rfl)
          rintro error final _ ⟨rejection, rfl, member⟩
          apply Program.Explains.bind (grounded_of_rejected (restoreFatalFailure_rejects _))
          intro _ restored more
          exact Program.explains_throw (.notRequeued (more.subset member))
        · intro _ _ _
          exact Program.explains_pure _

end Sends

section Dispatches

variable {config : Config} {exchanges : List Exchanged} {message : SmsMessage}

open SmsDispatcherService

theorem sendWithProvider_rejects (providerName : String) :
    ExplainedBy Rejected (sendWithProvider message providerName) exchanges := by
  apply Program.Explains.tryCatch (explained_call rfl)
  intro error final _ _
  exact Program.explains_pure _

/-- Attempts count from one, so the backoff is defined. -/
theorem attemptProvider_rejects (providerName : String) (remaining attempt : Nat)
    (lastError : String) (counted : 1 ≤ attempt) :
    ExplainedBy Rejected (attemptProvider config message providerName remaining attempt lastError)
      exchanges := by
  induction remaining generalizing attempt lastError exchanges with
  | zero => exact Program.explains_pure _
  | succ remaining ih =>
      simp only [attemptProvider, SmsService.incrementAttempts, throttle]
      apply Program.Explains.assoc
      apply explained_call_bind rfl
      intro _ _
      apply explained_call_bind rfl
      intro _ _
      apply Program.Explains.bind (sendWithProvider_rejects providerName)
      intro result final _
      split
      · apply Program.Explains.bind (markSent_rejects _ _ _)
        intro _ _ _
        exact Program.explains_pure _
      · split
        · exact Program.explains_pure _
        · have defined : calculateExponentialBackoff attempt config.retryBaseDelayMs =
              .ok (config.retryBaseDelayMs * 2 ^ (attempt - 1)) := by
            have positive := config.retryBaseDelayMs_pos
            rw [calculateExponentialBackoff, if_neg (by omega), if_neg (by omega)]
          rw [defined]
          apply explained_call_bind rfl
          intro _ _
          exact ih _ _ (by omega)

theorem dispatchProviders_rejects (providers : List String) (lastProviderName lastError : String) :
    ExplainedBy Rejected
      (dispatchProviders config message providers lastProviderName lastError) exchanges := by
  induction providers generalizing lastProviderName lastError exchanges with
  | nil =>
      apply Program.Explains.bind (markFatalFailure_rejects _ _ _)
      intro _ _ _
      exact explained_call rfl
  | cons providerName rest ih =>
      apply Program.Explains.bind (attemptProvider_rejects providerName _ 1 lastError (by omega))
      rintro (_ | lastError) _ _
      · exact Program.explains_pure _
      · exact ih _ _

theorem dispatch_grounded (id : MessageId) :
    ExplainedBy (Grounded config (.dispatch id)) (dispatch config id) [] := by
  apply grounded_call_bind rfl
  rintro (_ | message) _
  · exact Program.explains_throw (.notFound (Or.inr rfl) (by simp))
  · simp only []
    split
    · exact Program.explains_pure _
    · apply grounded_of_rejected
      apply explained_call_bind rfl
      rintro (_ | _) _
      · apply explained_call_bind rfl
        intro _ _
        exact Program.explains_pure _
      · exact dispatchProviders_rejects _ _ _

end Dispatches

section Callbacks

variable {caseMapping : Js.CaseMapping} {exchanges : List Exchanged}

open DeliveryStatusService

theorem logSkippedCallback_rejects (callback : DeliveryStatusCallback) (status : SmsStatus)
    (messageId : MessageId) (previousStatus : SmsStatus) :
    ExplainedBy Rejected (logSkippedCallback callback status messageId previousStatus)
      exchanges := by
  apply explained_call_bind rfl
  intro latestMessage _
  simp only []
  split <;>
  · apply explained_call_bind rfl
    intro _ _
    exact Program.explains_pure _

theorem updateFound_rejects (callback : DeliveryStatusCallback) (message : SmsMessage)
    (status : SmsStatus) (allowedPreviousStatuses : List SmsStatus) :
    ExplainedBy Rejected (updateFound callback message status allowedPreviousStatuses)
      exchanges := by
  have dated : ExplainedBy Rejected (eventDate callback) exchanges := by
    unfold eventDate
    split
    · exact Program.explains_pure _
    · exact explained_call rfl
  apply Program.Explains.bind dated
  intro eventAt _ _
  apply explained_call_bind rfl
  rintro (_ | _) _
  · exact logSkippedCallback_rejects _ _ _ _
  · apply explained_call_bind rfl
    intro _ _
    exact Program.explains_pure _

theorem apply_rejects (callback : DeliveryStatusCallback) :
    ExplainedBy Rejected (DeliveryStatusService.apply callback) exchanges := by
  have ignored : ∀ message exchanges,
      ExplainedBy Rejected (ignoreStatus callback message) exchanges := by
    intro message exchanges
    apply explained_call_bind rfl
    intro _ _
    exact Program.explains_pure _
  apply explained_call_bind rfl
  rintro (_ | message) _
  · apply explained_call_bind rfl
    intro _ _
    exact Program.explains_pure _
  · simp only []
    split
    · exact ignored _ _
    · split
      · exact ignored _ _
      · exact updateFound_rejects _ _ _ _

theorem twilio_rejects (callback : TwilioStatusCallback) :
    ExplainedBy Rejected (TwilioWebhookService.handleVerified caseMapping (some callback))
      exchanges := by
  apply explained_call_bind rfl
  intro _ _
  split
  · exact explained_call rfl
  · apply Program.Explains.bind (apply_rejects _)
    intro _ _ _
    exact Program.explains_pure _

open BirdWebhookService

theorem processEvent_rejects (event : BirdDeliveryEvent) :
    ExplainedBy Rejected (processEvent caseMapping event) exchanges := by
  unfold processEvent
  split
  · exact explained_call rfl
  · apply Program.Explains.bind (apply_rejects _)
    intro _ _ _
    exact Program.explains_pure _

theorem bird_rejects (webhookId : String) (event : BirdDeliveryEvent) :
    ExplainedBy Rejected (handleVerified caseMapping webhookId (some event)) exchanges := by
  apply explained_call_bind rfl
  intro _ _
  apply explained_call_bind rfl
  rintro (_ | _) _
  · exact explained_call rfl
  · apply Program.Explains.tryCatch (processEvent_rejects event)
    intro error final _ rejected
    have released : ExplainedBy Rejected (releaseClaim webhookId) final := by
      apply Program.Explains.tryCatch (explained_call rfl)
      intro _ _ _ _
      exact explained_call rfl
    apply Program.Explains.bind released
    intro _ later more
    exact Program.explains_throw (rejected.grows more)

end Callbacks

theorem program_grounded {config : Config} (request : Call) :
    ExplainedBy (Grounded config request) (request.program config) [] := by
  cases request with
  | send key dto =>
      apply Program.Explains.bind (sendSmsRequest_grounded key dto)
      intro _ _ _
      exact Program.explains_pure _
  | requeue id =>
      apply Program.Explains.bind (requeue_grounded id)
      intro _ _ _
      exact Program.explains_pure _
  | dispatch id =>
      apply Program.Explains.bind (dispatch_grounded id)
      intro _ _ _
      exact Program.explains_pure _
  | twilio callback =>
      apply Program.Explains.bind (grounded_of_rejected (twilio_rejects callback))
      intro _ _ _
      exact Program.explains_pure _
  | bird webhookId event =>
      apply Program.Explains.bind (grounded_of_rejected (bird_rejects webhookId event))
      intro _ _ _
      exact Program.explains_pure _

namespace World

variable {world : World} {choice : Choice}

theorem exec_keeps_keys {op : Op} {outcome : World.Outcome op}
    (executed : world.exec op choice = some outcome) {key : String}
    (present : key ∈ world.messages.rows.map SmsMessage.idempotencyKey) :
    key ∈ outcome.world.messages.rows.map SmsMessage.idempotencyKey := by
  rcases exec_messages executed with same | ⟨statement, _, same⟩ |
    ⟨inserted, dto, id, createdAt, newId, newKey, _, same⟩
  · rw [same]
    exact present
  · rw [same]
    obtain ⟨row, member, rfl⟩ := List.mem_map.mp present
    simp only [Table.update, List.map_map]
    exact List.mem_map.mpr ⟨row, member, by simp⟩
  · rw [same]
    simp only [Table.insert, List.map_append, List.mem_append]
    exact Or.inl present

end World

namespace Service

variable {config : Config} {service following : Service}

def groundDiscipline (config : Config) :
    Discipline (system config (fun _ _ _ => True)
      (fun service world => world.messages = service.world.messages)) :=
  .ofGrounds _ program_grounded fun _ _ _ _ executed => World.exec_replies executed

/-- No lookup of a key finds nothing after an insert ran into a row with that key. -/
def Consistent (first second : Exchanged) : Prop :=
  ∀ key dto, first = ⟨.createQueuedMessage key dto, .error .uniqueViolation⟩ →
    second ≠ ⟨.findByIdempotencyKey key, .ok none⟩

structure Remembered (service : Service) : Prop where
  present : ∀ entry ∈ service.history, ∀ key dto,
    entry.exchange = ⟨.createQueuedMessage key dto, .error .uniqueViolation⟩ →
    key ∈ service.world.messages.rows.map SmsMessage.idempotencyKey
  consistent : (service.history.map Entry.exchange).Pairwise Consistent

theorem Remembered.operation (remembered : Remembered service) {pid : Nat} {choice : Choice}
    {op : Op} {outcome : World.Outcome op}
    (executed : service.world.exec op choice = some outcome)
    (world : following.world = outcome.world)
    (history : following.history =
      service.history ++ [⟨pid, op, outcome.reply, outcome.effective⟩]) :
    Remembered following := by
  constructor
  · intro entry member key dto violates
    rw [history] at member
    rw [world]
    apply World.exec_keeps_keys executed
    rcases List.mem_append.mp member with before | new
    · exact remembered.present entry before key dto violates
    · obtain rfl := List.mem_singleton.mp new
      cases outcome with
      | mk reply after effective =>
          cases violates
          obtain ⟨other, _, same, present⟩ := World.exec_uniqueViolation executed rfl
          cases same
          exact present
  · rw [history, List.map_append, List.map_singleton]
    refine List.pairwise_append.mpr ⟨remembered.consistent, List.pairwise_singleton _ _, ?_⟩
    intro first exchanged second new key dto violates misses
    obtain rfl := List.mem_singleton.mp new
    obtain ⟨entry, member, rfl⟩ := List.mem_map.mp exchanged
    have present := remembered.present entry member key dto violates
    cases outcome with
    | mk reply after effective =>
        cases misses
        exact (World.exec_findByIdempotencyKey_none executed rfl).2 present

theorem remembered_reached {permitted : Service → Event → Prop}
    (reaches : Reaches (step config) permitted initial service) :
    (groundDiscipline config).Obeyed service ∧ Remembered service := by
  have initially : Remembered initial := by
    constructor
    · intro entry member
      simp [initial] at member
    · exact List.Pairwise.nil
  apply Discipline.invariant (groundDiscipline config) id Remembered reaches (initial_obeyed _)
    initially
  · intro service event following _ stepped
    exact steps stepped (fun _ _ _ => trivial) fun _ disturbed => disturbed.messages
  · intro service following _ _ remembered effect
    cases effect with
    | quiet messages history stages =>
        refine ⟨?_, by rw [history]; exact remembered.consistent⟩
        rw [history, messages]
        exact remembered.present
    | operation admitted stage awaits allowed possible executed world history stages tags =>
        exact remembered.operation executed world history

theorem grounded_reached {permitted : Service → Event → Prop}
    (reaches : Reaches (step config) permitted initial service) {pid : Nat} {request : Call}
    {error : Failure} (tagged : service.tagOf pid = some request)
    (settled : service.result pid = some (.error error)) :
    Grounded config request error ((service.entriesOf pid).map Entry.exchange) ∧
      error ≠ .uniqueViolation := by
  obtain ⟨obeyed, remembered⟩ := remembered_reached reaches
  obtain ⟨process, found, tag⟩ := Option.map_eq_some_iff.mp tagged
  have result : process.program.result = some (.error error) := by
    simpa [Service.result, found] using settled
  have grounded := Discipline.grounds_recorded obeyed found result
  rw [tag] at grounded
  refine ⟨grounded, ?_⟩
  rintro rfl
  cases grounded with
  | vanished ordered =>
      have own : ((service.entriesOf pid).map Entry.exchange).Pairwise Consistent :=
        remembered.consistent.sublist (List.filter_sublist.map _)
      exact List.pairwise_pair.mp (own.sublist ordered) _ _ rfl rfl
  | rejected rejected => cases rejected

/-- In every run, whatever the calls do to one another, the response to a request that has passed
the pipes and guards of its route has a status that the route documents, or it is a `500` and an
operation of the request itself was rejected. Every error that a call settles with, an execution of
a job included, has its grounds in what the call read. -/
theorem responses_documented {permitted : Service → Event → Prop}
    {defaultHandling : Failure → HttpResponse} (hides : HidesUnknownErrors defaultHandling)
    (reaches : Reaches (step config) permitted initial service) {pid : Nat} {request : Call}
    {result : Except Failure Answer} (tagged : service.tagOf pid = some request)
    (settled : service.result pid = some result) :
    (∀ response, request.respond defaultHandling result = some response →
      (response.statusCode ∈ request.documented ∨
        response.statusCode = HttpStatus.internalServerError) ∧
      (response.statusCode = HttpStatus.internalServerError →
        ∃ entry ∈ service.entriesOf pid, ∃ message, entry.reply = .error (.rejection message))) ∧
    ∀ error, result = .error error →
      Grounded config request error ((service.entriesOf pid).map Entry.exchange) ∧
        error ≠ .uniqueViolation := by
  constructor
  · intro response responds
    obtain ⟨statusCode, route, rfl⟩ := Option.map_eq_some_iff.mp responds
    cases result with
    | ok answer =>
        refine ⟨Or.inl ?_, ?_⟩
        · cases request <;> cases route <;> simp [Call.documented]
        · intro internal
          cases request <;> cases route <;> cases internal
    | error error =>
        have grounded := grounded_reached reaches tagged settled
        obtain ⟨documented, rejects⟩ := grounded.1.response hides grounded.2 route
        refine ⟨documented, ?_⟩
        intro internal
        obtain ⟨op, message, member⟩ := rejects internal
        obtain ⟨entry, own, same⟩ := List.mem_map.mp member
        exact ⟨entry, own, message, Exchange.reply_error same⟩
  · rintro error rfl
    exact grounded_reached reaches tagged settled

/-- What Nest sends for an error that is no `HttpException`. -/
def internalServerErrorResponse : HttpResponse :=
  ⟨HttpStatus.internalServerError,
    .unexpected HttpStatus.internalServerError "Internal server error"⟩

/-- A publication is rejected, and the caller gets the `500` of the catalog. -/
theorem response_documented : ∃ (service : Service) (response : HttpResponse),
    (service.result 0).bind (Call.respond (fun _ => internalServerErrorResponse) (.send "key"
      { «to» := "+15550100", message := "hello", metadata := none })) = some response ∧
    response.statusCode = HttpStatus.internalServerError ∧
    ∃ entry ∈ service.entriesOf 0, ∃ message, entry.reply = .error (.rejection message) := by
  obtain ⟨service, reaches, found⟩ := execute_exists
    (step (.defaults ["twilio"])) (fun _ _ => True) initial
    ([Event.sends "key"] ++ Event.answers 0 5 ++ [.resume 0 (.rejected none)] ++ Event.answers 0 3)
    (fun service => service.tagOf 0 = some (.send "key"
        { «to» := "+15550100", message := "hello", metadata := none }) &&
      service.result 0 = some (.error (.app .queuePublishFailed)))
    (by decide)
  simp only [Bool.and_eq_true, decide_eq_true_eq] at found
  have hides : HidesUnknownErrors fun _ => internalServerErrorResponse := fun _ => rfl
  obtain ⟨documented, _⟩ := responses_documented hides reaches found.1 found.2
  exact ⟨service, _, by rw [found.2]; rfl, rfl, (documented _ rfl).2 rfl⟩

end Service

end SmsNotification
