import SmsNotification.Stage

/-!
Every program of the service follows its protocol: whatever the other processes do in between, it
only awaits the calls its stage allows, and it settles in the stages its call admits.
-/

namespace SmsNotification

open Concurrency

namespace World

variable {world : World} {hint : Hint} {op : Op} {outcome : World.Outcome op}

theorem perform_replies (performed : world.perform hint op = some outcome) :
    Stage.Replies op outcome.reply := by
  cases op with
  | findById id =>
      simp only [perform, Option.some.injEq] at performed
      subst performed
      cases found : world.messages.findById id with
      | none => trivial
      | some row => simpa [Stage.Replies, Stage.Answers, found] using Table.findById_id found
  | findByIdempotencyKey key =>
      simp only [perform, Option.some.injEq] at performed
      subst performed
      cases found : world.messages.findByIdempotencyKey key with
      | none => trivial
      | some row =>
          simpa [Stage.Replies, Stage.Answers, found] using
            (Table.findByIdempotencyKey_some found).2
  | findByProviderMessageId provider providerMessageId =>
      simp only [perform] at performed
      split at performed
      · simp only [Option.some.injEq] at performed
        subst performed
        trivial
      · rename_i row rows matching
        obtain ⟨chosen, picked, rfl⟩ := Option.map_eq_some_iff.mp performed
        have member := List.mem_of_getElem? picked
        rw [← matching] at member
        exact (Table.findByProviderMessageId_mem member).2
  | createQueuedMessage key dto =>
      simp only [perform] at performed
      split at performed
      · split at performed
        · simp only [Option.some.injEq] at performed
          subst performed
          rfl
        · simp only [Option.some.injEq] at performed
          subst performed
          exact ⟨rfl, Or.inr ⟨rfl, key, dto, rfl⟩⟩
      · simp at performed
  | acquireLock key =>
      simp only [perform] at performed
      split at performed <;> simp only [Option.some.injEq] at performed <;> subst performed <;>
        trivial
  | releaseLock lock =>
      simp only [perform] at performed
      split at performed <;> simp only [Option.some.injEq] at performed <;> subst performed <;>
        trivial
  | claimBirdWebhook webhookId =>
      simp only [perform] at performed
      split at performed <;> simp only [Option.some.injEq] at performed <;> subst performed <;>
        trivial
  | _ =>
      simp only [perform, Option.some.injEq] at performed
      subst performed
      trivial

theorem exec_replies {choice : Choice} (executed : world.exec op choice = some outcome) :
    Stage.Replies op outcome.reply := by
  cases choice with
  | answered hint => exact perform_replies executed
  | rejected message =>
      simp only [exec] at executed
      split at executed
      · rename_i fallible
        simp only [Option.some.injEq] at executed
        subst executed
        exact ⟨fallible, Or.inl ⟨message, rfl⟩⟩
      · simp at executed
  | lost hint message =>
      simp only [exec] at executed
      split at executed
      · rename_i fallible
        obtain ⟨inner, _, rfl⟩ := Option.map_eq_some_iff.mp executed
        exact ⟨fallible, Or.inl ⟨message, rfl⟩⟩
      · simp at executed

end World

section Calls

variable {caseMapping : Js.CaseMapping} {stage : Stage}

abbrev Conforms (caseMapping : Js.CaseMapping) {α : Type} (program : Action α) (stage : Stage)
    (post : Stage → Except Failure α → Prop) : Prop :=
  program.Follows (Stage.protocol caseMapping) post stage

theorem conforms_call {op : Op} {post : Stage → Except Failure op.Reply → Prop}
    (allowed : stage.Allowed op)
    (rejected : ∀ error, Stage.Replies op (.error error) →
      post (stage.next caseMapping op (.error error)) (.error error))
    (answered : ∀ answer, Stage.Answers op answer →
      post (stage.next caseMapping op (.ok answer)) (.ok answer)) :
    Conforms caseMapping (call op) stage post := by
  refine ⟨allowed, ?_⟩
  intro reply possible
  cases reply with
  | error error => exact rejected error possible
  | ok answer => exact answered answer possible

theorem conforms_infallible {op : Op} {post : Stage → Except Failure op.Reply → Prop}
    (infallible : op.fallible = false) (settled : stage.isFailing = false)
    (answered : ∀ answer, post stage (.ok answer)) :
    Conforms caseMapping (call op) stage post := by
  cases op with
  | newDate | sleep | log =>
      apply conforms_call
      · exact settled
      · intro error possible
        simp [Stage.Replies, infallible] at possible
      · exact fun answer _ => answered answer
  | _ => simp [Op.fallible] at infallible

end Calls

namespace SmsDispatcherService

variable {caseMapping : Js.CaseMapping} {config : Config} {message : SmsMessage}
  {provider : String}

def AfterAttempts (id : MessageId) (stage : Stage) : Except Failure ProviderOutcome → Prop
  | .ok .sent => stage = .finished
  | .ok (.exhausted _) => stage = .sending id
  | .error _ => stage = .finished ∨ stage = .aborted id

theorem markSent_conforms {id : MessageId} {providerMessageId : Option String} :
    Conforms caseMapping (SmsService.markSent id provider providerMessageId)
      (.accepted id provider providerMessageId)
      (fun stage result => match result with
        | .ok _ => stage = .finished
        | .error _ => stage = .aborted id) := by
  simp only [SmsService.markSent, Conforms, Program.follows_bind]
  apply conforms_infallible rfl rfl
  intro sentAt
  simp only [Program.then_ok, Program.follows_bind]
  apply conforms_call
  · rfl
  · intro error _
    rfl
  · intro affected _
    rfl

theorem sendWithProvider_conforms :
    Conforms caseMapping (sendWithProvider message provider) (.throttled message.id)
      (fun stage result => ∃ value, result = .ok value ∧
        stage = if value.success then .accepted message.id provider value.providerMessageId
          else .sending message.id) := by
  simp only [sendWithProvider, Conforms, Program.follows_tryCatch]
  apply conforms_call
  · rfl
  · intro error _
    exact ⟨_, rfl, rfl⟩
  · intro result _
    exact ⟨result, rfl, rfl⟩

theorem attemptProvider_conforms (remaining providerAttempt : Nat) (lastError : String)
    (positive : 1 ≤ providerAttempt) :
    Conforms caseMapping
      (attemptProvider config message provider remaining providerAttempt lastError)
      (.sending message.id) (AfterAttempts message.id) := by
  induction remaining generalizing providerAttempt lastError with
  | zero => rfl
  | succ remaining ih =>
      simp only [attemptProvider, SmsService.incrementAttempts, Conforms, Program.follows_bind]
      apply conforms_call
      · rfl
      · intro error _
        exact Or.inr rfl
      · intro affected _
        simp only [Program.then_ok, Program.follows_pure, throttle, Program.follows_bind]
        apply conforms_call
        · exact ⟨message.id, rfl⟩
        · intro error _
          exact Or.inr rfl
        · intro _ _
          simp only [Program.then_ok, Program.follows_bind]
          refine sendWithProvider_conforms.mono ?_
          rintro stage _ ⟨result, rfl, rfl⟩
          simp only [Program.then_ok]
          cases success : result.success with
          | true =>
              simp only [if_true, Program.follows_bind]
              refine markSent_conforms.mono ?_
              rintro stage (error | value) reached
              · exact Or.inr reached
              · exact reached
          | false =>
              simp only [Bool.false_eq_true, if_false]
              split
              · rfl
              · rw [show calculateExponentialBackoff providerAttempt config.retryBaseDelayMs =
                    .ok (config.retryBaseDelayMs * 2 ^ (providerAttempt - 1)) by
                  have base := config.retryBaseDelayMs_pos
                  simp [calculateExponentialBackoff, show ¬providerAttempt < 1 by omega,
                    show ¬config.retryBaseDelayMs < 1 by omega]]
                simp only [Program.follows_bind]
                apply conforms_infallible rfl rfl
                intro _
                exact ih (providerAttempt + 1) _ (by omega)

theorem giveUp_conforms {lastProviderName lastError : String} :
    Conforms caseMapping (giveUp message lastProviderName lastError) (.sending message.id)
      (fun stage result => match result with
        | .ok _ => stage = .finished
        | .error _ => stage = .finished ∨ stage = .aborted message.id) := by
  simp only [giveUp, SmsService.markFatalFailure, Conforms, Program.follows_bind]
  apply conforms_infallible rfl rfl
  intro failedAt
  simp only [Program.then_ok, Program.follows_bind]
  apply conforms_call
  · rfl
  · intro error _
    exact Or.inr rfl
  · intro affected _
    simp only [Program.then_ok, Program.follows_pure, QueueService.enqueueDeadLetter]
    apply conforms_call
    · rfl
    · intro error _
      exact Or.inl rfl
    · intro _ _
      rfl

theorem dispatchProviders_conforms (providers : List String)
    (lastProviderName lastError : String) :
    Conforms caseMapping (dispatchProviders config message providers lastProviderName lastError)
      (.sending message.id)
      (fun stage result => match result with
        | .ok _ => stage = .finished
        | .error _ => stage = .finished ∨ stage = .aborted message.id) := by
  induction providers generalizing lastProviderName lastError with
  | nil => exact giveUp_conforms
  | cons provider rest ih =>
      simp only [dispatchProviders, Conforms, Program.follows_bind]
      refine (attemptProvider_conforms _ _ _ (Nat.le_refl 1)).mono ?_
      rintro stage (error | outcome) reached
      · exact reached
      · cases outcome with
        | sent => exact reached
        | exhausted lastError =>
            simp only [AfterAttempts] at reached
            subst stage
            exact ih provider lastError

theorem dispatch_conforms {id : MessageId} :
    Conforms caseMapping (dispatch config id) (.dispatching id)
      (fun stage result => match result with
        | .ok _ => stage = .finished
        | .error _ => stage = .finished ∨ stage = .aborted id) := by
  simp only [dispatch, SmsService.findById, Conforms, Program.follows_bind]
  apply conforms_call
  · exact Or.inr (Or.inr (Or.inl rfl))
  · intro error _
    exact Or.inr rfl
  · intro row possible
    cases row with
    | none => exact Or.inl rfl
    | some message =>
        simp only [Stage.Answers] at possible
        subst id
        simp only [Program.then_ok, Stage.next, Stage.nextFindById]
        by_cases skip : nonDispatchableStatuses.contains message.status = true
        · simp only [skip, if_true]
          rfl
        · simp only [skip, Bool.false_eq_true, if_false, SmsService.markProcessing,
            Program.follows_bind]
          apply conforms_call
          · rfl
          · intro error _
            exact Or.inr rfl
          · intro claimed _
            cases claimed with
            | true => exact dispatchProviders_conforms _ _ _
            | false =>
                simp only [Program.then_ok, Bool.not_false, if_true, Program.follows_bind]
                apply conforms_call
                · exact Or.inr (Or.inr (Or.inr (Or.inl rfl)))
                · intro error _
                  exact Or.inl rfl
                · intro _ _
                  rfl

end SmsDispatcherService

namespace SmsService

variable {caseMapping : Js.CaseMapping} {config : Config} {key : String} {dto : SendSmsDto}

def AfterLookup (key : String) (stage : Stage) : Except Failure (Option SmsMessage) → Prop
  | .ok (some message) => stage = .holding key message.id
  | .ok none => stage = .requesting key
  | .error _ => stage = .requesting key ∨ ∃ id, stage = .holding key id

theorem findByIdempotencyKey_conforms :
    Conforms caseMapping (findByIdempotencyKey key) (.requesting key)
      (fun stage result => AfterLookup key stage result ∧
        ∀ error, result = .error error → ∃ message, error = .rejection message) := by
  apply conforms_call
  · rfl
  · intro error possible
    refine ⟨Or.inl rfl, ?_⟩
    rintro _ ⟨⟩
    rcases possible.2 with rejected | ⟨_, _, _, impossible⟩
    · exact rejected
    · simp at impossible
  · intro row _
    refine ⟨?_, by simp⟩
    cases row with
    | none => rfl
    | some message => rfl

theorem storeMessageId_conforms {id : MessageId} {stage : Stage}
    (known : stage = .holding key id ∨ stage = .published key id) :
    Conforms caseMapping (IdempotencyService.storeMessageId key id) stage
      (fun final result => final = stage ∧
        ∀ error, result = .error error → ∃ message, error = .rejection message) := by
  apply conforms_call
  · exact known
  · intro error possible
    refine ⟨rfl, ?_⟩
    rintro _ ⟨⟩
    rcases possible.2 with rejected | ⟨_, _, _, impossible⟩
    · exact rejected
    · simp at impossible
  · intro _ _
    exact ⟨rfl, by simp⟩

theorem findFromIdempotencyCache_conforms :
    Conforms caseMapping (findFromIdempotencyCache key) (.requesting key) (AfterLookup key) := by
  simp only [findFromIdempotencyCache, IdempotencyService.getMessageId, Conforms,
    Program.follows_bind]
  apply conforms_call
  · rfl
  · intro error _
    exact Or.inl rfl
  · intro cachedMessageId _
    cases cachedMessageId with
    | none => rfl
    | some id =>
        simp only [Program.then_ok, findById, Program.follows_bind]
        apply conforms_call
        · exact Or.inl ⟨key, rfl⟩
        · intro error _
          exact Or.inl rfl
        · intro row _
          cases row with
          | some message => rfl
          | none =>
              simp only [Program.then_ok, IdempotencyService.deleteMessageId, Program.follows_bind]
              apply conforms_call
              · rfl
              · intro error _
                exact Or.inl rfl
              · intro _ _
                rfl

theorem waitForMessageCreatedByConcurrentRequest_conforms (attempts : Nat) :
    Conforms caseMapping (waitForMessageCreatedByConcurrentRequest key attempts)
      (.requesting key) (AfterLookup key) := by
  induction attempts with
  | zero => rfl
  | succ attempts ih =>
      simp only [waitForMessageCreatedByConcurrentRequest, sleep, Conforms, Program.follows_bind]
      apply conforms_infallible rfl rfl
      intro _
      simp only [Program.then_ok, Program.follows_bind]
      refine findByIdempotencyKey_conforms.mono ?_
      rintro stage (error | row) ⟨reached, _⟩
      · exact reached
      · cases row with
        | none =>
            simp only [AfterLookup] at reached
            subst stage
            exact ih
        | some message =>
            simp only [AfterLookup] at reached
            subst stage
            simp only [Program.then_ok, Program.follows_bind]
            refine (storeMessageId_conforms (Or.inl rfl)).mono ?_
            rintro stage (error | value) ⟨rfl, _⟩
            · exact Or.inr ⟨message.id, rfl⟩
            · rfl

def MayFail (key : String) (stage : Stage) : Prop :=
  stage = .requesting key ∨ (∃ id, stage = .holding key id) ∨ (∃ id, stage = .published key id) ∨
    stage = .refused

def Responds (key : String) (stage : Stage) : Except Failure SendSmsResponse → Prop
  | .ok response =>
      stage = .holding key response.messageId ∨ stage = .published key response.messageId
  | .error _ => MayFail key stage

theorem publishQueuedMessage_conforms {message : SmsMessage} :
    Conforms caseMapping (publishQueuedMessage config message) (.creator key message.id)
      (fun stage result => match result with
        | .ok _ => stage = .published key message.id
        | .error error => stage = .refused ∧ error ≠ .uniqueViolation) := by
  simp only [publishQueuedMessage, QueueService.enqueueSms, Conforms, Program.follows_tryCatch]
  apply conforms_call
  · exact ⟨key, rfl⟩
  · intro error _
    simp only [Program.else_error, markQueuePublishFailed, Program.follows_bind]
    apply conforms_infallible rfl rfl
    intro failedAt
    simp only [Program.then_ok, Program.follows_bind]
    apply conforms_call
    · exact ⟨key, rfl⟩
    · intro error possible
      refine ⟨rfl, ?_⟩
      rcases possible.2 with ⟨_, rfl⟩ | ⟨_, _, _, impossible⟩
      · simp
      · simp at impossible
    · intro affected _
      exact ⟨rfl, by simp⟩
  · intro _ _
    rfl

theorem createUnderLock_conforms :
    Conforms caseMapping (createUnderLock config key dto) (.requesting key)
      (fun stage result => Responds key stage result ∧
        (result = .error .uniqueViolation → stage = .requesting key)) := by
  simp only [createUnderLock, Conforms, Program.follows_bind]
  refine findByIdempotencyKey_conforms.mono ?_
  rintro stage (error | row) ⟨reached, rejection⟩
  · obtain ⟨text, rfl⟩ := rejection error rfl
    refine ⟨?_, by simp⟩
    rcases reached with same | holding
    · exact Or.inl same
    · exact Or.inr (Or.inl holding)
  · cases row with
    | some message =>
        simp only [AfterLookup] at reached
        subst stage
        simp only [Program.then_ok, Program.follows_bind]
        refine (storeMessageId_conforms (Or.inl rfl)).mono ?_
        rintro stage (error | value) ⟨rfl, rejection⟩
        · obtain ⟨text, rfl⟩ := rejection error rfl
          exact ⟨Or.inr (Or.inl ⟨message.id, rfl⟩), by simp⟩
        · exact ⟨Or.inl rfl, by simp⟩
    | none =>
        simp only [AfterLookup] at reached
        subst stage
        simp only [Program.then_ok, createQueuedMessage, Program.follows_bind]
        apply conforms_call
        · rfl
        · intro error _
          exact ⟨Or.inl rfl, fun _ => rfl⟩
        · intro message _
          simp only [Program.then_ok, Program.follows_bind]
          refine publishQueuedMessage_conforms.mono ?_
          rintro stage (error | value) reached
          · refine ⟨Or.inr (Or.inr (Or.inr reached.1)), ?_⟩
            rintro ⟨⟩
            exact absurd rfl reached.2
          · simp only at reached
            subst stage
            simp only [Program.then_ok, Program.follows_bind]
            refine (storeMessageId_conforms (Or.inr rfl)).mono ?_
            rintro stage (error | value) ⟨rfl, rejection⟩
            · obtain ⟨text, rfl⟩ := rejection error rfl
              exact ⟨Or.inr (Or.inr (Or.inl ⟨message.id, rfl⟩)), by simp⟩
            · exact ⟨Or.inr rfl, by simp⟩

theorem recoverUnderLock_conforms {error : Failure} {stage : Stage} (mayFail : MayFail key stage)
    (violated : error = .uniqueViolation → stage = .requesting key) :
    Conforms caseMapping (recoverUnderLock key error) stage (Responds key) := by
  simp only [recoverUnderLock, findExistingAfterUniqueViolation, Conforms, Program.follows_bind]
  by_cases unique : error = .uniqueViolation
  · subst unique
    rw [violated rfl]
    simp only [isUniqueViolation, decide_true, if_true, Program.follows_bind]
    refine findByIdempotencyKey_conforms.mono ?_
    rintro stage (error | row) ⟨reached, _⟩
    · rcases reached with same | holding
      · exact Or.inl same
      · exact Or.inr (Or.inl holding)
    · cases row with
      | none => exact Or.inl reached
      | some message =>
          simp only [AfterLookup] at reached
          subst stage
          simp only [Program.then_ok, Program.follows_pure, Program.follows_bind]
          refine (storeMessageId_conforms (Or.inl rfl)).mono ?_
          rintro stage (error | value) ⟨rfl, _⟩
          · exact Or.inr (Or.inl ⟨message.id, rfl⟩)
          · exact Or.inl rfl
  · simp only [isUniqueViolation, unique, decide_false, Bool.false_eq_true, if_false]
    exact mayFail

theorem releaseLock_conforms {lock : IdempotencyLock} {stage : Stage}
    (allowed : stage.Allowed (.releaseLock lock)) :
    Conforms caseMapping (releaseLock lock) stage
      (fun final result => final = stage ∧ result = .ok ()) := by
  simp only [releaseLock, IdempotencyService.releaseLock, Conforms, Program.follows_tryCatch]
  apply conforms_call
  · exact allowed
  · intro error _
    exact ⟨rfl, rfl⟩
  · intro _ _
    exact ⟨rfl, rfl⟩

theorem Responds.mayRelease {lock : IdempotencyLock} {stage : Stage}
    {result : Except Failure SendSmsResponse} (responds : Responds key stage result) :
    stage.Allowed (.releaseLock lock) := by
  cases result with
  | ok response =>
      rcases responds with rfl | rfl
      · exact Or.inr (Or.inl ⟨key, _, rfl⟩)
      · exact Or.inr (Or.inr (Or.inl ⟨key, _, rfl⟩))
  | error error =>
      rcases responds with rfl | ⟨id, rfl⟩ | ⟨id, rfl⟩ | rfl
      · exact Or.inl ⟨key, rfl⟩
      · exact Or.inr (Or.inl ⟨key, id, rfl⟩)
      · exact Or.inr (Or.inr (Or.inl ⟨key, id, rfl⟩))
      · exact Or.inr (Or.inr (Or.inr rfl))

theorem sendSmsRequest_conforms :
    Conforms caseMapping (sendSmsRequest config key dto) (.requesting key) (Responds key) := by
  have failed : ∀ {stage : Stage}, (stage = .requesting key ∨ ∃ id, stage = .holding key id) →
      MayFail key stage := by
    rintro stage (same | holding)
    · exact Or.inl same
    · exact Or.inr (Or.inl holding)
  simp only [sendSmsRequest, validateMessageLength, Conforms, Program.follows_bind]
  split
  · exact Or.inl rfl
  · simp only [Program.follows_pure, Program.then_ok, Program.follows_bind]
    refine findFromIdempotencyCache_conforms.mono ?_
    rintro stage (error | row) reached
    · exact failed reached
    · cases row with
      | some cachedMessage => exact Or.inl reached
      | none =>
          simp only [AfterLookup] at reached
          subst stage
          simp only [Program.then_ok, Program.follows_bind]
          refine findByIdempotencyKey_conforms.mono ?_
          rintro stage (error | row) ⟨reached, _⟩
          · exact failed reached
          · cases row with
            | some existingMessage =>
                simp only [AfterLookup] at reached
                subst stage
                simp only [Program.then_ok, Program.follows_bind]
                refine (storeMessageId_conforms (Or.inl rfl)).mono ?_
                rintro stage (error | value) ⟨rfl, _⟩
                · exact Or.inr (Or.inl ⟨existingMessage.id, rfl⟩)
                · exact Or.inl rfl
            | none =>
                simp only [AfterLookup] at reached
                subst stage
                simp only [Program.then_ok, IdempotencyService.acquireLock, Program.follows_bind]
                apply conforms_call
                · rfl
                · intro error _
                  exact Or.inl rfl
                · intro lock _
                  cases lock with
                  | none =>
                      simp only [Program.then_ok, Program.follows_bind]
                      refine (waitForMessageCreatedByConcurrentRequest_conforms 20).mono ?_
                      rintro stage (error | row) reached
                      · exact failed reached
                      · cases row with
                        | none => exact Or.inl reached
                        | some message => exact Or.inl reached
                  | some lock =>
                      simp only [Program.then_ok, Program.follows_finallyDo,
                        Program.follows_tryCatch]
                      refine createUnderLock_conforms.mono ?_
                      -- the cleanup leaves the stage and the result alone
                      have released : ∀ {stage : Stage} {result : Except Failure SendSmsResponse},
                          Responds key stage result →
                            (releaseLock lock).Follows (Stage.protocol caseMapping)
                              (Program.Then _ (Responds key) fun _ => .settled result) stage := by
                        intro stage result responds
                        refine (releaseLock_conforms responds.mayRelease).mono ?_
                        rintro final _ ⟨rfl, rfl⟩
                        exact responds
                      rintro stage (error | response) ⟨responds, violated⟩
                      · refine (recoverUnderLock_conforms responds ?_).mono ?_
                        · rintro rfl
                          exact violated rfl
                        · exact fun _ _ responds => released responds
                      · exact released responds

theorem requeue_conforms {id : MessageId} :
    Conforms caseMapping (requeue config id) (.administering id)
      (fun stage result => match result with
        | .ok _ => stage = .requeued id
        | .error _ => stage = .finished) := by
  simp only [requeue, findById, Conforms, Program.follows_bind]
  apply conforms_call
  · exact Or.inr (Or.inl rfl)
  · intro error _
    rfl
  · intro row possible
    cases row with
    | none => rfl
    | some message =>
        simp only [Stage.Answers] at possible
        subst id
        simp only [Program.then_ok, Stage.next, Stage.nextFindById]
        by_cases eligible : message.status = .fatalFailure
        · simp only [eligible, ne_eq, not_true_eq_false, if_false, if_true,
            transitionFatalFailureToQueued, Program.follows_bind]
          apply conforms_call
          · exact ⟨message, rfl, rfl⟩
          · intro error _
            rfl
          · intro transitioned _
            cases transitioned with
            | false => rfl
            | true =>
                simp only [Program.then_ok, Bool.not_true, Bool.false_eq_true, if_false,
                  QueueService.requeueSms, Program.follows_bind, Program.follows_tryCatch]
                apply conforms_call
                · exact ⟨message, rfl, rfl⟩
                · intro enqueueError _
                  simp only [Program.else_error, restoreFatalFailureAfterRequeueFailure,
                    Program.follows_bind]
                  cases known : message.failedAt with
                  | some failedAt =>
                      simp only [Program.follows_bind, Program.follows_pure, Program.then_ok]
                      apply conforms_call
                      · exact ⟨message, _, rfl, rfl, rfl, rfl, Or.inl known⟩
                      · intro error _
                        rfl
                      · intro affected _
                        rfl
                  | none =>
                      simp only [Program.follows_bind]
                      apply conforms_infallible rfl rfl
                      intro failedAt
                      simp only [Program.then_ok, Program.follows_bind]
                      apply conforms_call
                      · exact ⟨message, _, rfl, rfl, rfl, rfl, Or.inr known⟩
                      · intro error _
                        rfl
                      · intro affected _
                        rfl
                · intro _ _
                  rfl
        · simp only [eligible, ne_eq, not_false_eq_true, if_true, if_false]
          rfl

end SmsService

namespace DeliveryStatusService

variable {caseMapping : Js.CaseMapping} {callback : DeliveryStatusCallback}
  {claim : Option String}

def AfterApply (claim : Option String) (stage : Stage) :
    Except Failure DeliveryStatusOutcome → Prop
  | .ok _ => stage = .processed claim
  | .error _ => stage = Stage.failed claim

theorem log_conforms {level : LogLevel} {event text : String}
    {fields : List (String × LogValue)} {stage : Stage}
    {post : Stage → Except Failure Unit → Prop} (settled : stage.isFailing = false)
    (logged : post stage (.ok ())) : Conforms caseMapping (log level event fields text) stage post :=
  conforms_infallible rfl settled fun _ => logged

theorem logSkippedCallback_conforms {status previousStatus : SmsStatus} {id : MessageId} :
    Conforms caseMapping (logSkippedCallback callback status id previousStatus)
      (.skipped claim id) (AfterApply claim) := by
  simp only [logSkippedCallback, SmsService.findById, Conforms, Program.follows_bind]
  apply conforms_call
  · exact Or.inr (Or.inr (Or.inr (Or.inr ⟨claim, rfl⟩)))
  · intro error _
    rfl
  · intro row _
    simp only [Program.then_ok]
    split <;> simp only [Program.follows_bind] <;> exact log_conforms rfl rfl

theorem updateFound_conforms {message : SmsMessage} {status : SmsStatus}
    {allowedPreviousStatuses : List SmsStatus} (known : callback.status = .status status)
    (allowed : allowedPreviousStatusesFor status = some allowedPreviousStatuses) :
    Conforms caseMapping (updateFound callback message status allowedPreviousStatuses)
      (.resolved claim callback message.id) (AfterApply claim) := by
  have updated : ∀ {eventAt : Date}, (callback.eventAt = some eventAt ∨ callback.eventAt = none) →
      Conforms caseMapping
        (SmsService.applyDeliveryStatus
          (updateParams message.id status allowedPreviousStatuses callback.lastError eventAt))
        (.resolved claim callback message.id)
        (fun stage result => match result with
          | .ok true => stage = .processed claim
          | .ok false => stage = .skipped claim message.id
          | .error _ => stage = Stage.failed claim) := by
    intro eventAt source
    apply conforms_call
    · exact ⟨claim, callback, message.id, rfl, status, allowedPreviousStatuses, eventAt, known,
        allowed, source, rfl⟩
    · intro error _
      rfl
    · intro affected _
      cases affected <;> rfl
  have rest : ∀ {eventAt : Date}, (callback.eventAt = some eventAt ∨ callback.eventAt = none) →
      Program.Follows (Stage.protocol caseMapping) (AfterApply claim) (do
        let updated ← SmsService.applyDeliveryStatus
          (updateParams message.id status allowedPreviousStatuses callback.lastError eventAt)
        if updated then do
          log .info "WEBHOOK_STATUS_UPDATED" (messageFields callback message.id message.status)
            "SMS delivery status updated from provider callback"
          pure .updated
        else logSkippedCallback callback status message.id message.status)
      (.resolved claim callback message.id) := by
    intro eventAt source
    simp only [Program.follows_bind]
    refine (updated source).mono ?_
    rintro stage (error | affected) reached
    · exact reached
    · cases affected with
      | true =>
          simp only at reached
          subst stage
          simp only [Program.then_ok, if_true, Program.follows_bind]
          exact log_conforms rfl rfl
      | false =>
          simp only at reached
          subst stage
          exact logSkippedCallback_conforms
  simp only [updateFound, eventDate, Conforms, Program.follows_bind]
  cases source : callback.eventAt with
  | some eventAt => exact rest (Or.inl source)
  | none =>
      apply conforms_infallible rfl rfl
      exact fun eventAt => rest (Or.inr source)

theorem ignoreStatus_conforms {message : SmsMessage} :
    Conforms caseMapping (ignoreStatus callback message) (.processed claim) (AfterApply claim) := by
  simp only [ignoreStatus, Conforms, Program.follows_bind]
  exact log_conforms rfl rfl

theorem apply_conforms :
    Conforms caseMapping (apply callback) (.receiving claim callback) (AfterApply claim) := by
  simp only [apply, SmsService.findByProviderMessageId, Conforms, Program.follows_bind]
  apply conforms_call
  · exact ⟨claim, callback, rfl, rfl, rfl⟩
  · intro error _
    rfl
  · intro row _
    cases row with
    | none =>
        simp only [Program.then_ok, logNotFound, Program.follows_bind]
        exact log_conforms rfl rfl
    | some message =>
        simp only [Program.then_ok, Stage.next, Stage.found]
        cases known : callback.status with
        | inherited property => exact ignoreStatus_conforms
        | status status =>
            simp only
            cases allowed : allowedPreviousStatusesFor status with
            | none => exact ignoreStatus_conforms
            | some allowedPreviousStatuses => exact updateFound_conforms known allowed

end DeliveryStatusService

section Calls

variable {config : Config}

theorem Stage.start_isFailing (request : Call) :
    (Stage.start config.caseMapping request).isFailing = false := by
  cases request with
  | twilio callback =>
      simp only [Stage.start]
      split <;> rfl
  | _ => rfl

theorem twilio_conforms (callback : TwilioStatusCallback) :
    Conforms config.caseMapping
      (TwilioWebhookService.handleVerified config.caseMapping (some callback))
      (Stage.start config.caseMapping (.twilio callback))
      (fun stage result => match result with
        | .ok _ => stage = .processed none
        | .error _ => stage = .finished) := by
  simp only [TwilioWebhookService.handleVerified, TwilioWebhookService.log, Conforms,
    Program.follows_bind]
  apply DeliveryStatusService.log_conforms (Stage.start_isFailing _)
  simp only [Program.then_ok, Stage.start]
  cases mapTwilioStatus config.caseMapping callback.messageStatus with
  | none => exact DeliveryStatusService.log_conforms rfl rfl
  | some status =>
      simp only [Program.follows_bind]
      refine DeliveryStatusService.apply_conforms.mono ?_
      rintro stage (error | outcome) reached
      · exact reached
      · exact reached

theorem processEvent_conforms (webhookId : String) (event : BirdDeliveryEvent) :
    Conforms config.caseMapping (BirdWebhookService.processEvent config.caseMapping event)
      (Stage.birdEvent config.caseMapping webhookId event)
      (fun stage result => match result with
        | .ok _ => stage = .processed (some webhookId)
        | .error _ => stage = .failing webhookId) := by
  simp only [BirdWebhookService.processEvent, Stage.birdEvent, Conforms]
  cases mapBirdEventType config.caseMapping event.type with
  | none => exact DeliveryStatusService.log_conforms rfl rfl
  | some status =>
      simp only [Program.follows_bind]
      refine DeliveryStatusService.apply_conforms.mono ?_
      rintro stage (error | outcome) reached
      · exact reached
      · exact reached

theorem releaseClaim_conforms (webhookId : String) :
    Conforms config.caseMapping (BirdWebhookService.releaseClaim webhookId) (.failing webhookId)
      (fun stage result => stage = .finished ∧ result = .ok ()) := by
  simp only [BirdWebhookService.releaseClaim, BirdWebhookService.releaseBirdWebhook, Conforms,
    Program.follows_tryCatch]
  apply conforms_call
  · rfl
  · intro error _
    exact conforms_infallible rfl rfl fun _ => ⟨rfl, rfl⟩
  · intro _ _
    exact ⟨rfl, rfl⟩

theorem bird_conforms (webhookId : String) (event : BirdDeliveryEvent) :
    Conforms config.caseMapping
      (BirdWebhookService.handleVerified config.caseMapping webhookId (some event))
      (.claiming webhookId event)
      (fun stage result => match result with
        | .ok _ => stage = .processed (some webhookId) ∨ stage = .duplicate webhookId
        | .error _ => stage = .finished) := by
  simp only [BirdWebhookService.handleVerified, Conforms, Program.follows_bind]
  apply DeliveryStatusService.log_conforms rfl
  simp only [Program.then_ok, BirdWebhookService.claimBirdWebhook, Program.follows_bind]
  apply conforms_call
  · exact ⟨event, rfl⟩
  · intro error _
    rfl
  · intro claimed _
    cases claimed with
    | false => exact DeliveryStatusService.log_conforms rfl (Or.inr rfl)
    | true =>
        simp only [Program.then_ok, Bool.not_true, Bool.false_eq_true, if_false,
          Program.follows_tryCatch]
        refine (processEvent_conforms webhookId event).mono ?_
        rintro stage (error | value) reached
        · simp only at reached
          subst stage
          simp only [Program.else_error, Program.follows_bind]
          refine (releaseClaim_conforms webhookId).mono ?_
          rintro stage _ ⟨rfl, rfl⟩
          rfl
        · exact Or.inl reached

/-- Every process of the service keeps to the protocol from the stage it starts in. -/
theorem program_conforms (request : Call) :
    Conforms config.caseMapping (request.program config) (Stage.start config.caseMapping request)
      (Stage.Settles request) := by
  cases request with
  | send key dto =>
      simp only [Call.program, Conforms, Program.follows_bind]
      refine SmsService.sendSmsRequest_conforms.mono ?_
      rintro stage (error | response) responds
      · exact responds
      · exact ⟨response, rfl, responds⟩
  | requeue id =>
      simp only [Call.program, Conforms, Program.follows_bind]
      refine SmsService.requeue_conforms.mono ?_
      rintro stage (error | response) reached <;> exact reached
  | dispatch id =>
      simp only [Call.program, Conforms, Program.follows_bind]
      refine SmsDispatcherService.dispatch_conforms.mono ?_
      rintro stage (error | value) reached <;> exact reached
  | twilio callback =>
      simp only [Call.program, Conforms, Program.follows_bind]
      refine (twilio_conforms callback).mono ?_
      rintro stage (error | value) reached <;> exact reached
  | bird webhookId event =>
      simp only [Call.program, Conforms, Program.follows_bind]
      refine (bird_conforms webhookId event).mono ?_
      rintro stage (error | value) reached <;> exact reached

end Calls

end SmsNotification
