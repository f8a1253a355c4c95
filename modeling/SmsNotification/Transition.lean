import SmsNotification.Stage

/-!
The transitions of the protocol, one by one: which stage an operation is awaited in, how it can
reply there and where the reply leads. Facts about stages are proved by cases on `Transition`.
-/

namespace SmsNotification

namespace Stage

def Handles (claim : Option String) (stage : Stage) : Prop :=
  (∃ callback, stage = .receiving claim callback) ∨
    (∃ callback id, stage = .resolved claim callback id) ∨ ∃ id, stage = .skipped claim id

inductive Transition (caseMapping : Js.CaseMapping) :
    Stage → (op : Op) → Except Failure op.Reply → Stage → Prop
  | quiet {stage op reply} : op.fallible = false → stage.isFailing = false →
      Transition caseMapping stage op reply stage
  -- `sendSmsRequest`
  | cacheHit {key id} :
      Transition caseMapping (.requesting key) (.getMessageId key) (.ok (some id)) (.cached key id)
  | cacheMiss {key reply} : (∀ id, reply ≠ .ok (some id)) →
      Transition caseMapping (.requesting key) (.getMessageId key) reply (.requesting key)
  | cacheRow {key id row} : row.id = id →
      Transition caseMapping (.cached key id) (.findById id) (.ok (some row)) (.holding key id)
  | cacheStale {key id reply} : (∀ row, reply ≠ .ok (some row)) →
      Transition caseMapping (.cached key id) (.findById id) reply (.requesting key)
  | forgotten {key reply} :
      Transition caseMapping (.requesting key) (.deleteMessageId key) reply (.requesting key)
  | existing {key row} : row.idempotencyKey = key →
      Transition caseMapping (.requesting key) (.findByIdempotencyKey key) (.ok (some row))
        (.holding key row.id)
  | notExisting {key reply} : (∀ row, reply ≠ .ok (some row)) →
      Transition caseMapping (.requesting key) (.findByIdempotencyKey key) reply (.requesting key)
  | locked {key reply} :
      Transition caseMapping (.requesting key) (.acquireLock key) reply (.requesting key)
  | created {key dto row} : row.idempotencyKey = key →
      Transition caseMapping (.requesting key) (.createQueuedMessage key dto) (.ok row)
        (.creator key row.id)
  | notCreated {key dto error} :
      Transition caseMapping (.requesting key) (.createQueuedMessage key dto) (.error error)
        (.requesting key)
  | published {key id attempts} :
      Transition caseMapping (.creator key id) (.enqueueSms id attempts) (.ok ())
        (.published key id)
  | notPublished {key id attempts error} :
      Transition caseMapping (.creator key id) (.enqueueSms id attempts) (.error error)
        (.unpublished key id)
  | publishFailed {key id failedAt reply} :
      Transition caseMapping (.unpublished key id) (.update (.markQueuePublishFailed id failedAt))
        reply .refused
  | stored {stage key id reply} : stage = .holding key id ∨ stage = .published key id →
      Transition caseMapping stage (.storeMessageId key id) reply stage
  | unlocked {stage lock reply} : stage.Allowed (.releaseLock lock) →
      Transition caseMapping stage (.releaseLock lock) reply stage
  -- `requeue`
  | eligible {id row} : row.id = id → row.status = .fatalFailure →
      Transition caseMapping (.administering id) (.findById id) (.ok (some row)) (.eligible row)
  | notEligible {id reply} : (∀ row, reply = .ok (some row) → row.status ≠ .fatalFailure) →
      Transition caseMapping (.administering id) (.findById id) reply .finished
  | reopened {snapshot} :
      Transition caseMapping (.eligible snapshot)
        (.update (.transitionFatalFailureToQueued snapshot.id)) (.ok true) (.reopened snapshot)
  | notReopened {snapshot reply} : reply ≠ .ok true →
      Transition caseMapping (.eligible snapshot)
        (.update (.transitionFatalFailureToQueued snapshot.id)) reply .finished
  | requeued {snapshot attempts} :
      Transition caseMapping (.reopened snapshot) (.requeueSms snapshot.id attempts) (.ok ())
        (.requeued snapshot.id)
  | notRequeued {snapshot attempts error} :
      Transition caseMapping (.reopened snapshot) (.requeueSms snapshot.id attempts) (.error error)
        (.restoring snapshot (SmsService.toErrorMessage error))
  | restored {snapshot enqueueError failedAt reply} :
      snapshot.failedAt = some failedAt ∨ snapshot.failedAt = none →
      Transition caseMapping (.restoring snapshot enqueueError)
        (.update (.restoreFatalFailure snapshot.id snapshot.selectedProvider
          (requeuePublishFailedError ++ ": " ++ enqueueError) failedAt)) reply .finished
  -- `dispatch`
  | loaded {id row} : row.id = id → nonDispatchableStatuses.contains row.status = false →
      Transition caseMapping (.dispatching id) (.findById id) (.ok (some row)) (.loaded id)
  | notDispatchable {id row} : row.id = id →
      nonDispatchableStatuses.contains row.status = true →
      Transition caseMapping (.dispatching id) (.findById id) (.ok (some row)) .finished
  | missing {id} :
      Transition caseMapping (.dispatching id) (.findById id) (.ok none) .finished
  | loadFailed {id error} :
      Transition caseMapping (.dispatching id) (.findById id) (.error error) (.aborted id)
  | claimed {id} :
      Transition caseMapping (.loaded id) (.update (.markProcessing id)) (.ok true) (.sending id)
  | notClaimed {id} :
      Transition caseMapping (.loaded id) (.update (.markProcessing id)) (.ok false) (.skipping id)
  | claimFailed {id error} :
      Transition caseMapping (.loaded id) (.update (.markProcessing id)) (.error error)
        (.aborted id)
  | skipped {id reply} :
      Transition caseMapping (.skipping id) (.findById id) reply .finished
  | counted {id affected} :
      Transition caseMapping (.sending id) (.update (.incrementAttempts id)) (.ok affected)
        (.counted id)
  | countFailed {id error} :
      Transition caseMapping (.sending id) (.update (.incrementAttempts id)) (.error error)
        (.aborted id)
  | throttled {id provider} :
      Transition caseMapping (.counted id) (.throttle provider) (.ok ()) (.throttled id)
  | throttleFailed {id provider error} :
      Transition caseMapping (.counted id) (.throttle provider) (.error error) (.aborted id)
  | accepted {id provider options result} : options.referenceId = id → result.success = true →
      Transition caseMapping (.throttled id) (.sendSms provider options) (.ok result)
        (.accepted id provider result.providerMessageId)
  | notAccepted {id provider options reply} : options.referenceId = id →
      (∀ result, reply = .ok result → result.success = false) →
      Transition caseMapping (.throttled id) (.sendSms provider options) reply (.sending id)
  | sent {id provider providerMessageId sentAt affected} :
      Transition caseMapping (.accepted id provider providerMessageId)
        (.update (.markSent id provider providerMessageId sentAt)) (.ok affected) .finished
  | sentFailed {id provider providerMessageId sentAt error} :
      Transition caseMapping (.accepted id provider providerMessageId)
        (.update (.markSent id provider providerMessageId sentAt)) (.error error) (.aborted id)
  | fatal {id provider lastError failedAt affected} :
      Transition caseMapping (.sending id)
        (.update (.markFatalFailure id provider lastError failedAt)) (.ok affected) (.dead id)
  | fatalFailed {id provider lastError failedAt error} :
      Transition caseMapping (.sending id)
        (.update (.markFatalFailure id provider lastError failedAt)) (.error error) (.aborted id)
  | deadLettered {id reply} :
      Transition caseMapping (.dead id) (.enqueueDeadLetter id) reply .finished
  -- delivery callbacks
  | delivery {webhookId event status} :
      mapBirdEventType caseMapping event.type = some status →
      Transition caseMapping (.claiming webhookId event) (.claimBirdWebhook webhookId) (.ok true)
        (.receiving (some webhookId) (BirdWebhookService.deliveryCallback caseMapping event status))
  | notDelivery {webhookId event} : mapBirdEventType caseMapping event.type = none →
      Transition caseMapping (.claiming webhookId event) (.claimBirdWebhook webhookId) (.ok true)
        (.processed (some webhookId))
  | duplicate {webhookId event} :
      Transition caseMapping (.claiming webhookId event) (.claimBirdWebhook webhookId) (.ok false)
        (.duplicate webhookId)
  | claimRejected {webhookId event error} :
      Transition caseMapping (.claiming webhookId event) (.claimBirdWebhook webhookId)
        (.error error) .finished
  | found {claim callback row status allowedPreviousStatuses} :
      row.selectedProvider = some callback.provider →
      row.providerMessageId = some callback.providerMessageId →
      callback.status = .status status →
      allowedPreviousStatusesFor status = some allowedPreviousStatuses →
      Transition caseMapping (.receiving claim callback)
        (.findByProviderMessageId callback.provider callback.providerMessageId) (.ok (some row))
        (.resolved claim callback row.id)
  | notApplicable {claim callback row} :
      (∀ status, callback.status = .status status → allowedPreviousStatusesFor status = none) →
      Transition caseMapping (.receiving claim callback)
        (.findByProviderMessageId callback.provider callback.providerMessageId) (.ok (some row))
        (.processed claim)
  | unknown {claim callback} :
      Transition caseMapping (.receiving claim callback)
        (.findByProviderMessageId callback.provider callback.providerMessageId) (.ok none)
        (.processed claim)
  | applied {claim callback id params} : DeliveryParams callback id params →
      Transition caseMapping (.resolved claim callback id) (.update (.applyDeliveryStatus params))
        (.ok true) (.processed claim)
  | notApplied {claim callback id params} : DeliveryParams callback id params →
      Transition caseMapping (.resolved claim callback id) (.update (.applyDeliveryStatus params))
        (.ok false) (.skipped claim id)
  | classified {claim id row} :
      Transition caseMapping (.skipped claim id) (.findById id) (.ok row) (.processed claim)
  | failed {stage op error} : stage.Allowed op → Handles none stage →
      Transition caseMapping stage op (.error error) .finished
  | failedClaim {stage op error webhookId} : stage.Allowed op → Handles (some webhookId) stage →
      Transition caseMapping stage op (.error error) (.failing webhookId)
  | released {webhookId reply} :
      Transition caseMapping (.failing webhookId) (.releaseBirdWebhook webhookId) reply .finished

variable {caseMapping : Js.CaseMapping} {call : Call} {stage : Stage} {op : Op}

theorem transition_failed {claim : Option String} {error : Failure} (allowed : stage.Allowed op)
    (handles : Handles claim stage) :
    Transition caseMapping stage op (.error error) (failed claim) := by
  cases claim with
  | none => exact .failed allowed handles
  | some webhookId => exact .failedClaim allowed handles

theorem transition_findById {id : MessageId} {reply : Except Failure (Option SmsMessage)}
    (allowed : stage.Allowed (.findById id)) (possible : Replies (.findById id) reply) :
    Transition caseMapping stage (.findById id) reply (stage.nextFindById reply) := by
  have awaited := allowed
  rcases allowed with ⟨key, rfl⟩ | rfl | rfl | rfl | ⟨claim, rfl⟩
  · rcases reply with _ | _ | row
    · exact .cacheStale (by simp)
    · exact .cacheStale (by simp)
    · have same : row.id = id := possible
      rw [nextFindById, same]
      exact .cacheRow same
  · rcases reply with _ | _ | row
    · exact .notEligible (by simp)
    · exact .notEligible (by simp)
    · simp only [nextFindById]
      split
      · rename_i fatal
        exact .eligible possible fatal
      · rename_i other
        exact .notEligible (by simpa using other)
  · rcases reply with _ | _ | row
    · exact .loadFailed
    · exact .missing
    · simp only [nextFindById]
      split
      · rename_i closed
        exact .notDispatchable possible closed
      · rename_i opened
        exact .loaded possible (by simpa using opened)
  · exact .skipped
  · rcases reply with _ | row
    · exact transition_failed awaited (Or.inr (Or.inr ⟨id, rfl⟩))
    · exact .classified

theorem transition_update {statement : Update} {reply : Except Failure Bool}
    (allowed : stage.AllowedUpdate statement) :
    Transition caseMapping stage (.update statement) reply (stage.nextUpdate statement reply) := by
  cases statement with
  | markProcessing id =>
      cases allowed
      rcases reply with _ | _ | _
      · exact .claimFailed
      · exact .notClaimed
      · exact .claimed
  | incrementAttempts id =>
      cases allowed
      cases reply
      · exact .countFailed
      · exact .counted
  | markSent id provider providerMessageId sentAt =>
      cases allowed
      cases reply
      · exact .sentFailed
      · exact .sent
  | markFatalFailure id provider lastError failedAt =>
      cases allowed
      cases reply
      · exact .fatalFailed
      · exact .fatal
  | markQueuePublishFailed id failedAt =>
      obtain ⟨key, rfl⟩ := allowed
      exact .publishFailed
  | transitionFatalFailureToQueued id =>
      obtain ⟨snapshot, rfl, rfl⟩ := allowed
      rcases reply with _ | _ | _
      · exact .notReopened (by simp)
      · exact .notReopened (by simp)
      · exact .reopened
  | restoreFatalFailure id provider lastError failedAt =>
      obtain ⟨snapshot, enqueueError, rfl, rfl, rfl, rfl, date⟩ := allowed
      exact .restored date
  | applyDeliveryStatus params =>
      have awaited := allowed
      obtain ⟨claim, callback, id, rfl, issued⟩ := allowed
      rcases reply with _ | _ | _
      · have awaited : Stage.Allowed _ (.update (.applyDeliveryStatus params)) := awaited
        exact transition_failed awaited (Or.inr (Or.inl ⟨callback, id, rfl⟩))
      · exact .notApplied issued
      · exact .applied issued

theorem transition_found {claim : Option String} {callback : DeliveryStatusCallback}
    {row : SmsMessage} (provider : row.selectedProvider = some callback.provider)
    (external : row.providerMessageId = some callback.providerMessageId) :
    Transition caseMapping (.receiving claim callback)
      (.findByProviderMessageId callback.provider callback.providerMessageId) (.ok (some row))
      (found claim callback row.id) := by
  unfold found
  split
  · rename_i property mapped
    exact .notApplicable (by simp [mapped])
  · rename_i status mapped
    split
    · rename_i applicable
      obtain ⟨allowedPreviousStatuses, policy⟩ := Option.isSome_iff_exists.mp applicable
      exact .found provider external mapped policy
    · rename_i inapplicable
      refine .notApplicable ?_
      intro other same
      rw [mapped] at same
      cases same
      simpa using inapplicable

theorem transition_birdEvent {webhookId : String} {event : BirdDeliveryEvent} :
    Transition caseMapping (.claiming webhookId event) (.claimBirdWebhook webhookId) (.ok true)
      (birdEvent caseMapping webhookId event) := by
  unfold birdEvent
  split
  · rename_i unmapped
    exact .notDelivery unmapped
  · rename_i status mapped
    exact .delivery mapped

theorem transition (caseMapping : Js.CaseMapping) {reply : Except Failure op.Reply} (allowed : stage.Allowed op)
    (possible : Replies op reply) :
    Transition caseMapping stage op reply (stage.next caseMapping op reply) := by
  cases op with
  | findById id => exact transition_findById allowed possible
  | update statement => exact transition_update allowed
  | findByIdempotencyKey key =>
      cases allowed
      rcases reply with _ | _ | row
      · exact .notExisting (by simp)
      · exact .notExisting (by simp)
      · exact .existing possible
  | getMessageId key =>
      cases allowed
      rcases reply with _ | _ | id
      · exact .cacheMiss (by simp)
      · exact .cacheMiss (by simp)
      · exact .cacheHit
  | createQueuedMessage key dto =>
      cases allowed
      cases reply with
      | error error => exact .notCreated
      | ok row => exact .created possible
  | findByProviderMessageId provider providerMessageId =>
      have awaited := allowed
      obtain ⟨claim, callback, rfl, rfl, rfl⟩ := allowed
      rcases reply with _ | _ | row
      · exact transition_failed awaited (Or.inl ⟨callback, rfl⟩)
      · exact .unknown
      · exact transition_found possible.1 possible.2
  | claimBirdWebhook webhookId =>
      obtain ⟨event, rfl⟩ := allowed
      rcases reply with _ | _ | _
      · exact .claimRejected
      · exact .duplicate
      · exact transition_birdEvent
  | releaseBirdWebhook webhookId =>
      cases allowed
      exact .released
  | enqueueSms id attempts =>
      obtain ⟨key, rfl⟩ := allowed
      cases reply
      · exact .notPublished
      · exact .published
  | requeueSms id attempts =>
      obtain ⟨snapshot, rfl, rfl⟩ := allowed
      cases reply
      · exact .notRequeued
      · exact .requeued
  | enqueueDeadLetter id =>
      cases allowed
      exact .deadLettered
  | throttle provider =>
      obtain ⟨id, rfl⟩ := allowed
      cases reply
      · exact .throttleFailed
      · exact .throttled
  | sendSms provider options =>
      cases allowed
      cases reply with
      | error error => exact .notAccepted rfl (by simp)
      | ok result =>
          simp only [next]
          split
          · rename_i success
            exact .accepted rfl success
          · rename_i failure
            exact .notAccepted rfl (by simpa using failure)
  | storeMessageId key id => exact .stored allowed
  | deleteMessageId key =>
      cases allowed
      exact .forgotten
  | acquireLock key =>
      cases allowed
      exact .locked
  | releaseLock lock => exact .unlocked allowed
  | newDate | sleep | log => exact .quiet rfl allowed

theorem Handles.operation {claim : Option String} (handles : Handles claim stage)
    (allowed : stage.Allowed op) : (∃ id, op = .findById id) ∨
      (∃ provider providerMessageId, op = .findByProviderMessageId provider providerMessageId) ∨
      (∃ params, op = .update (.applyDeliveryStatus params)) ∨ op.fallible = false := by
  rcases handles with ⟨callback, rfl⟩ | ⟨callback, id, rfl⟩ | ⟨id, rfl⟩
  all_goals
    cases op with
    | findById id => exact Or.inl ⟨id, rfl⟩
    | findByProviderMessageId provider providerMessageId =>
        exact Or.inr (Or.inl ⟨provider, providerMessageId, rfl⟩)
    | update statement =>
        cases statement with
        | applyDeliveryStatus params => exact Or.inr (Or.inr (Or.inl ⟨params, rfl⟩))
        | _ => simp [Allowed, AllowedUpdate] at allowed
    | newDate | sleep | log => exact Or.inr (Or.inr (Or.inr rfl))
    | _ => simp [Allowed] at allowed

end Stage

end SmsNotification
