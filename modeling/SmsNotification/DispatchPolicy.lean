import SmsNotification.Failover
import SmsNotification.Effects

/-!
A dispatch that nothing disturbs follows the retry and failover policy: its calls are those of
`Failover.Calls`, each counted and throttled, and the row and the dead letters end as the last call
decides.
-/

namespace SmsNotification

open Concurrency

abbrev ProviderReply := Except Failure SendSmsResult

def Op.isSendSms : Op → Bool
  | .sendSms _ _ => true
  | _ => false

/-- A provider that throws may be tried again. -/
def verdict : ProviderReply → Failover.Verdict
  | .error _ => .retryable
  | .ok result =>
      if result.success then .accepted else if result.isRetryable then .retryable else .refused

def retryAfter : ProviderReply → Js.Number
  | .ok result => result.retryAfterMs.getD (.finite 0)
  | .error _ => .finite 0

/-- What attempt `attempt` at a provider promises when its reply asks for another one. -/
def promisedPause (config : Config) (attempt : Nat) (reply : ProviderReply) : Js.Number :=
  Js.mathMax (retryAfter reply) (.finite (config.retryBaseDelayMs * 2 ^ (attempt - 1) : Nat))

def failureText : String × ProviderReply → String
  | (provider, .error error) => error.message?.getD ("Provider " ++ provider ++ " threw an error.")
  | (_, .ok result) => result.error.getD "SMS provider returned an unsuccessful response."

def Healthy (surroundings : Surroundings) : Prop :=
  ∀ trace op, op.isSendSms = false → (surroundings trace op).isAnswered = true

def Op.isAttempt : Op → Bool
  | .update (.incrementAttempts _) => true
  | .throttle _ => true
  | .sendSms _ _ => true
  | _ => false

def attempts (record : Record) : Record := record.filter fun exchange => exchange.op.isAttempt

def sendOptions (message : SmsMessage) : SendSmsOptions where
  «to» := message.recipientPhone
  body := message.messageBody
  referenceId := message.id

def exchanges (message : SmsMessage) : String × ProviderReply → Record
  | (provider, reply) =>
      [⟨.update (.incrementAttempts message.id), .ok true⟩, ⟨.throttle provider, .ok ()⟩,
        ⟨.sendSms provider (sendOptions message), reply⟩]

section Answers

variable {surroundings : Surroundings} {world : World} {record : Record}

theorem yields_sendSms {provider : String} {options : SendSmsOptions}
    {post : ProviderReply → World → Record → Prop}
    (holds : ∀ reply, post reply world (record ++ [⟨.sendSms provider options, reply⟩])) :
    (call (.sendSms provider options)).Yields World.exec surroundings post world record := by
  refine (Program.yields_perform (Op.sendSms provider options)).mpr ?_
  cases chosen : surroundings record (.sendSms provider options) with
  | answered hint => exact ⟨_, rfl, holds _⟩
  | rejected message => exact ⟨_, rfl, holds _⟩
  | lost hint message => exact ⟨_, rfl, holds _⟩

end Answers

section Dispatch

variable {config : Config} {surroundings : Surroundings} {world : World} {record : Record}
  {message row : SmsMessage} {provider : String}

open SmsDispatcherService

theorem yields_update {statement : Update} {post : Except Failure Bool → World → Record → Prop}
    (healthy : Healthy surroundings) (found : world.messages.findById statement.messageId = some row)
    (guarded : statement.guard row.status = true)
    (holds : ∀ following : World, following.deadLetters = world.deadLetters →
      following.messages.findById statement.messageId = some (statement.set row) →
      post (.ok true) following (record ++ [⟨.update statement, .ok true⟩])) :
    (call (.update statement)).Yields World.exec surroundings post world record := by
  refine yields_call (.update statement) (healthy record _ rfl) fun hint =>
    ⟨⟨.ok (world.messages.affected statement),
      { world with messages := world.messages.update statement }, _⟩, rfl, ?_⟩
  have affected : world.messages.affected statement = true := by
    simp [Table.affected, found, guarded]
  simp only [affected]
  refine holds { world with messages := world.messages.update statement } rfl ?_
  have identified : row.id = statement.messageId := Table.findById_id found
  simp [Table.findById_update, found, Update.run, identified, guarded]

def received (provider : String) : ProviderReply → SendSmsResult
  | .ok result => result
  | .error error => {
      success := false
      error := some (failureText (provider, .error error))
      isRetryable := true }

theorem received_success {reply : ProviderReply} :
    (received provider reply).success = true ↔ verdict reply = .accepted := by
  cases reply with
  | error error => simp [received, verdict]
  | ok result =>
      simp only [received, verdict]
      split
      · simp_all
      · split <;> simp_all

theorem received_retryable {reply : ProviderReply}
    (failed : (received provider reply).success = false) :
    (received provider reply).isRetryable = true ↔ verdict reply = .retryable := by
  cases reply with
  | error error => simp [received, verdict]
  | ok result =>
      have unsuccessful : result.success = false := failed
      simp only [received, verdict, unsuccessful, Bool.false_eq_true, if_false]
      split <;> simp_all

theorem received_error {reply : ProviderReply} :
    (received provider reply).error.getD "SMS provider returned an unsuccessful response." =
      failureText (provider, reply) := by
  cases reply <;> rfl

theorem sendWithProvider_yields {post : Except Failure SendSmsResult → World → Record → Prop}
    (holds : ∀ reply, post (.ok (received provider reply)) world
      (record ++ [⟨.sendSms provider (sendOptions message), reply⟩])) :
    (sendWithProvider message provider).Yields World.exec surroundings post world record := by
  rw [sendWithProvider, Program.yields_tryCatch]
  refine yields_sendSms fun reply => ?_
  have received := holds reply
  cases reply with
  | ok result => exact received
  | error error => exact (Program.yields_pure _).mpr received

theorem attempts_append (first second : Record) :
    attempts (first ++ second) = attempts first ++ attempts second :=
  List.filter_append first second

theorem counted_yields {α : Type} {post : Except Failure α → World → Record → Prop}
    {rest : SendSmsResult → Action α} (healthy : Healthy surroundings)
    (found : world.messages.findById message.id = some row)
    (holds : ∀ reply following after, following.deadLetters = world.deadLetters →
      following.messages.findById message.id = some { row with attempts := row.attempts + 1 } →
      attempts after = attempts record ++ exchanges message (provider, reply) →
      (rest (received provider reply)).Yields World.exec surroundings post following after) :
    (do
      SmsService.incrementAttempts message.id
      throttle provider
      let result ← sendWithProvider message provider
      rest result).Yields World.exec surroundings post world record := by
  simp only [SmsService.incrementAttempts, throttle, Program.yields_bind]
  refine yields_update healthy found rfl fun following deadLetters counted => ?_
  refine (Program.yields_pure _).mpr ?_
  refine yields_call (.throttle provider) (healthy _ _ rfl) fun hint => ⟨_, rfl, ?_⟩
  refine sendWithProvider_yields fun reply => holds reply _ _ deadLetters counted ?_
  simp [attempts, exchanges, Op.isAttempt]

theorem yields_newDate {post : Except Failure Date → World → Record → Prop}
    (healthy : Healthy surroundings)
    (holds : ∀ date, post (.ok date) world (record ++ [⟨.newDate, .ok date⟩])) :
    newDate.Yields World.exec surroundings post world record :=
  yields_call .newDate (healthy _ _ rfl) fun hint => ⟨_, rfl, holds hint.date⟩

theorem markSent_yields {providerMessageId : Option String}
    {post : Except Failure Unit → World → Record → Prop} (healthy : Healthy surroundings)
    (found : world.messages.findById message.id = some row)
    (holds : ∀ date following after, following.deadLetters = world.deadLetters →
      following.messages.findById message.id = some
        ((Update.markSent message.id provider providerMessageId date).set row) →
      attempts after = attempts record → post (.ok ()) following after) :
    (SmsService.markSent message.id provider providerMessageId).Yields World.exec surroundings post
      world record := by
  simp only [SmsService.markSent, Program.yields_bind]
  refine yields_newDate healthy fun date => ?_
  refine yields_update healthy found rfl fun following deadLetters written => ?_
  refine (Program.yields_pure _).mpr (holds date following _ deadLetters written ?_)
  simp [attempts, Op.isAttempt]

theorem markFatalFailure_yields {lastError : String}
    {post : Except Failure Unit → World → Record → Prop} (healthy : Healthy surroundings)
    (found : world.messages.findById message.id = some row)
    (holds : ∀ date following after, following.deadLetters = world.deadLetters →
      following.messages.findById message.id = some
        ((Update.markFatalFailure message.id provider lastError date).set row) →
      attempts after = attempts record → post (.ok ()) following after) :
    (SmsService.markFatalFailure message.id provider lastError).Yields World.exec surroundings post
      world record := by
  simp only [SmsService.markFatalFailure, Program.yields_bind]
  refine yields_newDate healthy fun date => ?_
  refine yields_update healthy found rfl fun following deadLetters written => ?_
  refine (Program.yields_pure _).mpr (holds date following _ deadLetters written ?_)
  simp [attempts, Op.isAttempt]

theorem calculateExponentialBackoff_ok {attempt base : Nat} (counted : 1 ≤ attempt)
    (positive : 1 ≤ base) :
    calculateExponentialBackoff attempt base = .ok (base * 2 ^ (attempt - 1)) := by
  rw [calculateExponentialBackoff, if_neg (by omega), if_neg (by omega)]

/-- What the attempts at one provider come to, from attempt `attempt` on. -/
def Attempted (limit : Nat) (message : SmsMessage) (provider : String) (attempt : Nat) (world : World)
    (row : SmsMessage) (record : Record) (result : Except Failure ProviderOutcome)
    (following : World) (after : Record) : Prop :=
  ∃ replies accepted, Failover.Attempts verdict limit attempt replies accepted ∧
    attempts after = attempts record ++ (replies.map (provider, ·)).flatMap (exchanges message) ∧
    following.deadLetters = world.deadLetters ∧
    if accepted then ∃ last date, replies.getLast? = some (.ok last) ∧ result = .ok .sent ∧
      following.messages.findById message.id = some
        ((Update.markSent message.id provider last.providerMessageId date).set
          { row with attempts := row.attempts + replies.length })
    else ∃ last, replies.getLast? = some last ∧
      result = .ok (.exhausted (failureText (provider, last))) ∧
      following.messages.findById message.id = some
        { row with attempts := row.attempts + replies.length }

theorem Attempted.retried {limit attempt : Nat} {middle following : World} {between after : Record}
    {reply : ProviderReply} {result : Except Failure ProviderOutcome}
    (attempted : Attempted limit message provider (attempt + 1) middle
      { row with attempts := row.attempts + 1 } between result following after)
    (retryable : verdict reply = .retryable) (below : attempt < limit)
    (deadLetters : middle.deadLetters = world.deadLetters)
    (called : attempts between = attempts record ++ exchanges message (provider, reply)) :
    Attempted limit message provider attempt world row record result following after := by
  obtain ⟨replies, accepted, calls, made, same, outcome⟩ := attempted
  refine ⟨reply :: replies, accepted, .retried retryable below calls, ?_, ?_, ?_⟩
  · rw [made, called]
    simp
  · rw [same, deadLetters]
  · have length : row.attempts + (reply :: replies).length = row.attempts + 1 + replies.length := by
      rw [List.length_cons]
      omega
    rw [length]
    cases accepted with
    | true =>
        obtain ⟨last, date, final, sent, written⟩ := outcome
        exact ⟨last, date, by simp [List.getLast?_cons, final], sent, written⟩
    | false =>
        obtain ⟨last, final, exhausted, counted⟩ := outcome
        exact ⟨last, by simp [List.getLast?_cons, final], exhausted, counted⟩

def afterReply (config : Config) (message : SmsMessage) (provider : String)
    (remaining attempt : Nat) (result : SendSmsResult) : Action ProviderOutcome :=
  if result.success then do
    SmsService.markSent message.id provider result.providerMessageId
    pure .sent
  else
    let lastError := result.error.getD "SMS provider returned an unsuccessful response."
    if !result.isRetryable || attempt ≥ config.maxRetries then
      pure (.exhausted lastError)
    else
      match calculateExponentialBackoff attempt config.retryBaseDelayMs with
      | .error error => throw error
      | .ok backoff => do
          sleep (Js.mathMax (result.retryAfterMs.getD (.finite 0)) (.finite backoff))
          attemptProvider config message provider remaining (attempt + 1) lastError

theorem attemptProvider_succ (remaining attempt : Nat) (lastError : String) :
    attemptProvider config message provider (remaining + 1) attempt lastError = (do
      SmsService.incrementAttempts message.id
      throttle provider
      let result ← sendWithProvider message provider
      afterReply config message provider remaining attempt result) := by
  rfl

theorem afterReply_cases {remaining attempt : Nat} (positive : 1 ≤ attempt) (reply : ProviderReply) :
    (∃ last, reply = .ok last ∧ verdict reply = .accepted ∧
      afterReply config message provider remaining attempt (received provider reply) = (do
        SmsService.markSent message.id provider last.providerMessageId
        pure .sent)) ∨
    ((verdict reply = .refused ∨ verdict reply = .retryable ∧ config.maxRetries ≤ attempt) ∧
      afterReply config message provider remaining attempt (received provider reply) =
        pure (.exhausted (failureText (provider, reply)))) ∨
    (verdict reply = .retryable ∧ attempt < config.maxRetries ∧
      afterReply config message provider remaining attempt (received provider reply) = (do
        sleep (promisedPause config attempt reply)
        attemptProvider config message provider remaining (attempt + 1)
          (failureText (provider, reply)))) := by
  by_cases success : (received provider reply).success = true
  · have accepts := received_success.mp success
    cases reply with
    | error error => simp [verdict] at accepts
    | ok last =>
        refine Or.inl ⟨last, rfl, accepts, ?_⟩
        rw [afterReply, if_pos success]
        rfl
  · have failed : (received provider reply).success = false := by simpa using success
    have retries := received_retryable failed
    have refusal : verdict reply ≠ .accepted := fun accepts => success (received_success.mpr accepts)
    simp only [afterReply, if_neg success, received_error]
    by_cases again : verdict reply = .retryable ∧ attempt < config.maxRetries
    · have more : ¬(!(received provider reply).isRetryable || attempt ≥ config.maxRetries) = true := by
        simpa [retries.mpr again.1] using again.2
      have pause : (received provider reply).retryAfterMs.getD (.finite 0) = retryAfter reply := by
        cases reply <;> rfl
      rw [if_neg more, calculateExponentialBackoff_ok positive config.retryBaseDelayMs_pos, pause]
      exact Or.inr (Or.inr ⟨again.1, again.2, rfl⟩)
    · have last : (!(received provider reply).isRetryable || attempt ≥ config.maxRetries) = true := by
        by_cases retryable : verdict reply = .retryable
        · have bound : ¬attempt < config.maxRetries := fun below => again ⟨retryable, below⟩
          simpa [retries.mpr retryable] using bound
        · have final : ¬(received provider reply).isRetryable = true :=
            fun asks => retryable (retries.mp asks)
          simp [final]
      rw [if_pos last]
      refine Or.inr (Or.inl ⟨?_, rfl⟩)
      cases decided : verdict reply with
      | accepted => exact absurd decided refusal
      | refused => exact Or.inl rfl
      | retryable =>
          have bound : ¬attempt < config.maxRetries := fun below => again ⟨decided, below⟩
          exact Or.inr ⟨rfl, by omega⟩

theorem attemptProvider_step (healthy : Healthy surroundings) {remaining attempt : Nat}
    (positive : 1 ≤ attempt) {lastError : String}
    (found : world.messages.findById message.id = some row)
    (rest : attempt < config.maxRetries → ∀ lastError middle between,
      middle.messages.findById message.id = some { row with attempts := row.attempts + 1 } →
      (attemptProvider config message provider remaining (attempt + 1) lastError).Yields World.exec
        surroundings (Attempted config.maxRetries message provider (attempt + 1) middle
          { row with attempts := row.attempts + 1 } between) middle between) :
    (attemptProvider config message provider (remaining + 1) attempt lastError).Yields World.exec
      surroundings (Attempted config.maxRetries message provider attempt world row record) world
      record := by
  rw [attemptProvider_succ]
  refine counted_yields healthy found fun reply middle between deadLetters counted called => ?_
  rcases afterReply_cases positive reply with
    ⟨last, rfl, accepts, same⟩ | ⟨ends, same⟩ | ⟨retryable, below, same⟩
  · rw [same, Program.yields_bind]
    refine markSent_yields healthy counted fun date following after kept sent uncalled => ?_
    refine (Program.yields_pure _).mpr ⟨[.ok last], true, .accepted accepts, ?_, ?_, ?_⟩
    · simp [uncalled, called]
    · rw [kept, deadLetters]
    · exact ⟨last, date, rfl, rfl, sent⟩
  · rw [same]
    refine (Program.yields_pure _).mpr
      ⟨[reply], false, ?_, by simp [called], deadLetters, reply, rfl, rfl, counted⟩
    rcases ends with refused | ⟨retryable, last⟩
    · exact .refused refused
    · exact .exhausted retryable last
  · rw [same]
    simp only [sleep, Program.yields_bind]
    refine yields_call (.sleep _) (healthy _ _ rfl) fun hint => ⟨_, rfl, ?_⟩
    refine (rest below _ middle _ counted).mono fun result following after attempted => ?_
    refine attempted.retried retryable below deadLetters ?_
    rw [attempts_append, called]
    simp [attempts, Op.isAttempt]

theorem attemptProvider_yields (healthy : Healthy surroundings) (remaining attempt : Nat)
    (within : remaining + 1 + attempt = config.maxRetries + 1) (positive : 1 ≤ attempt)
    (lastError : String) (found : world.messages.findById message.id = some row) :
    (attemptProvider config message provider (remaining + 1) attempt lastError).Yields World.exec
      surroundings (Attempted config.maxRetries message provider attempt world row record) world
      record := by
  induction remaining generalizing attempt lastError world record row with
  | zero =>
      refine attemptProvider_step healthy positive found ?_
      intro below
      omega
  | succ remaining ih =>
      refine attemptProvider_step healthy positive found ?_
      intro below lastError middle between counted
      exact ih (attempt + 1) (by omega) (by omega) lastError counted

theorem attemptProvider_all (healthy : Healthy surroundings) (lastError : String)
    (found : world.messages.findById message.id = some row) :
    (attemptProvider config message provider config.maxRetries 1 lastError).Yields World.exec
      surroundings (Attempted config.maxRetries message provider 1 world row record) world
      record := by
  have positive := config.maxRetries_pos
  obtain ⟨limit, counted⟩ : ∃ limit, config.maxRetries = limit + 1 :=
    ⟨config.maxRetries - 1, by omega⟩
  have counts : attemptProvider config message provider config.maxRetries =
      attemptProvider config message provider (limit + 1) := by rw [counted]
  rw [counts]
  exact attemptProvider_yields healthy limit 1 (by omega) (by omega) lastError found

/-- What a dispatch comes to whose last provider so far was `lastProvider`. -/
def Dispatched (limit : Nat) (message : SmsMessage) (providers : List String)
    (lastProvider lastError : String) (world : World) (row : SmsMessage) (record : Record)
    (result : Except Failure Unit) (following : World) (after : Record) : Prop :=
  result = .ok () ∧ ∃ calls accepted, Failover.Calls verdict limit providers calls accepted ∧
    attempts after = attempts record ++ calls.flatMap (exchanges message) ∧
    if accepted then following.deadLetters = world.deadLetters ∧ ∃ provider last date,
      calls.getLast? = some (provider, .ok last) ∧
      following.messages.findById message.id = some
        ((Update.markSent message.id provider last.providerMessageId date).set
          { row with attempts := row.attempts + calls.length })
    else following.deadLetters = world.deadLetters ++ [message.id] ∧ ∃ date,
      following.messages.findById message.id = some
        ((Update.markFatalFailure message.id (providers.getLast?.getD lastProvider)
          ((calls.getLast?.map failureText).getD lastError) date).set
          { row with attempts := row.attempts + calls.length })

theorem giveUp_yields (healthy : Healthy surroundings) (lastProvider lastError : String)
    (found : world.messages.findById message.id = some row) :
    (giveUp message lastProvider lastError).Yields World.exec surroundings
      (Dispatched config.maxRetries message [] lastProvider lastError world row record) world
      record := by
  simp only [giveUp, QueueService.enqueueDeadLetter, Program.yields_bind]
  refine markFatalFailure_yields healthy found fun date middle between same written kept => ?_
  refine yields_call (.enqueueDeadLetter message.id) (healthy _ _ rfl) fun hint => ⟨_, rfl, ?_⟩
  refine ⟨rfl, [], false, .exhausted, ?_, ?_, date, written⟩
  · rw [attempts_append, kept]
    simp [attempts, Op.isAttempt]
  · simp only [same]

theorem dispatchProviders_yields (healthy : Healthy surroundings) (providers : List String)
    (lastProvider lastError : String) (found : world.messages.findById message.id = some row) :
    (dispatchProviders config message providers lastProvider lastError).Yields World.exec surroundings
      (Dispatched config.maxRetries message providers lastProvider lastError world row record) world
      record := by
  induction providers generalizing lastProvider lastError world record row with
  | nil => exact giveUp_yields healthy lastProvider lastError found
  | cons provider providers ih =>
      rw [dispatchProviders, Program.yields_bind]
      refine (attemptProvider_all healthy lastError found).mono ?_
      rintro result middle between ⟨replies, accepted, attempted, made, deadLetters, outcome⟩
      cases accepted with
      | true =>
          obtain ⟨last, date, final, rfl, sent⟩ := outcome
          refine (Program.yields_pure _).mpr
            ⟨rfl, replies.map (provider, ·), true, .accepted attempted, made, deadLetters,
              provider, last, date, ?_, ?_⟩
          · simp [List.getLast?_map, final]
          · rw [List.length_map]
            exact sent
      | false =>
          obtain ⟨last, final, rfl, kept⟩ := outcome
          refine (ih provider (failureText (provider, last)) kept).mono ?_
          rintro result following after ⟨rfl, calls, accepted, follows, called, outcome⟩
          refine ⟨rfl, replies.map (provider, ·) ++ calls, accepted, .next attempted follows, ?_, ?_⟩
          · rw [called, made, List.flatMap_append, List.append_assoc]
          · have length : row.attempts + (replies.map (provider, ·) ++ calls).length =
                row.attempts + replies.length + calls.length := by
              rw [List.length_append, List.length_map]
              omega
            rw [length]
            cases accepted with
            | true =>
                obtain ⟨same, name, last', date, final', sent⟩ := outcome
                refine ⟨by rw [same, deadLetters], name, last', date, ?_, sent⟩
                simp [List.getLast?_append, final']
            | false =>
                obtain ⟨same, date, fatal⟩ := outcome
                refine ⟨by rw [same, deadLetters], date, ?_⟩
                have lastProvider : (provider :: providers).getLast?.getD lastProvider =
                    providers.getLast?.getD provider := by
                  simp [List.getLast?_cons]
                have lastCall : ((replies.map (provider, ·) ++ calls).getLast?.map failureText).getD
                    lastError =
                      (calls.getLast?.map failureText).getD (failureText (provider, last)) := by
                  rw [List.getLast?_append, List.getLast?_map, final]
                  cases calls.getLast? <;> rfl
                rw [lastProvider, lastCall]
                exact fatal

theorem claimable_dispatches {row : SmsMessage}
    (claimable : row.status = .queued ∨ row.status = .processing) :
    nonDispatchableStatuses.contains row.status = false ∧
      (Update.markProcessing row.id).guard row.status = true := by
  rcases claimable with queued | processing
  · rw [queued]
    exact ⟨rfl, rfl⟩
  · rw [processing]
    exact ⟨rfl, rfl⟩

/-- A dispatch that claims its row and is disturbed by nothing makes exactly the calls of the retry
and failover policy, each of them counted once and throttled before it is made. The row ends as the
last call decides, and one dead letter tells that none was accepted. -/
theorem dispatch_follows_policy (healthy : Healthy surroundings)
    (found : world.messages.findById row.id = some row)
    (claimable : row.status = .queued ∨ row.status = .processing) :
    (dispatch config row.id).Yields World.exec surroundings (fun result following after =>
      result = .ok () ∧ ∃ calls accepted,
        Failover.Calls verdict config.maxRetries config.providers calls accepted ∧
        attempts after = calls.flatMap (exchanges row) ∧
        calls.length ≤ config.providers.length * config.maxRetries ∧
        if accepted then following.deadLetters = world.deadLetters ∧ ∃ provider last date,
          calls.getLast? = some (provider, .ok last) ∧
          following.messages.findById row.id = some { row with
            status := .sent
            attempts := row.attempts + calls.length
            selectedProvider := some provider
            providerMessageId := last.providerMessageId
            lastError := none
            sentAt := some date
            failedAt := none }
        else following.deadLetters = world.deadLetters ++ [row.id] ∧ ∃ date,
          following.messages.findById row.id = some { row with
            status := .fatalFailure
            attempts := row.attempts + calls.length
            selectedProvider := some (config.providers.getLast?.getD "unknown")
            providerMessageId := none
            lastError := some
              ((calls.getLast?.map failureText).getD "No SMS provider is configured.")
            sentAt := none
            failedAt := some date }) world [] := by
  obtain ⟨dispatchable, guarded⟩ := claimable_dispatches claimable
  simp only [dispatch, SmsService.findById, SmsService.markProcessing, Program.yields_bind]
  refine yields_call (.findById row.id) (healthy _ _ rfl) fun hint => ⟨_, rfl, ?_⟩
  simp only [found, dispatchable, Bool.false_eq_true, if_false, Program.yields_bind]
  refine yields_update healthy found guarded fun middle deadLetters claimed => ?_
  simp only [Bool.not_true, Bool.false_eq_true, if_false, dispatchAcrossProviders]
  refine (dispatchProviders_yields healthy config.providers _ _ claimed).mono ?_
  rintro result following after ⟨rfl, calls, accepted, follows, called, outcome⟩
  refine ⟨rfl, calls, accepted, follows, ?_, follows.length_le config.maxRetries_pos, ?_⟩
  · simpa [attempts, Op.isAttempt] using called
  · cases accepted with
    | true =>
        obtain ⟨same, provider, last, date, final, sent⟩ := outcome
        exact ⟨same.trans deadLetters, provider, last, date, final, sent⟩
    | false =>
        obtain ⟨same, date, fatal⟩ := outcome
        refine ⟨same.trans (by rw [deadLetters]), date, ?_⟩
        have lastProvider : config.providers.getLast?.getD (config.providers.head?.getD "unknown") =
            config.providers.getLast?.getD "unknown" := by
          cases config.providers with
          | nil => rfl
          | cons provider providers => simp [List.getLast?_cons]
        rw [lastProvider] at fatal
        exact fatal

def queuedRow : SmsMessage :=
  queuedMessage 0 0 "key" { «to» := "+15550100", message := "hello", metadata := none }

def World.queued : World :=
  { World.initial with messages := Table.empty.insert queuedRow (by decide) (by decide) }

def acceptsSecond : Surroundings := fun record _ => .answered { sms := {
  success := record.any fun exchange => exchange.op.isSendSms
  providerMessageId := some "SM1"
  isRetryable := true } }

theorem dispatch_follows_policy_retried :
    (dispatch (.defaults ["twilio", "bird"]) queuedRow.id).Yields World.exec acceptsSecond
      (fun result following _ => result = .ok () ∧ ∃ calls accepted,
        Failover.Calls verdict 3 ["twilio", "bird"] calls accepted ∧ calls.length ≤ 6 ∧
        (following.messages.findById 0).map SmsMessage.attempts = some calls.length)
      World.queued [] := by
  have found : World.queued.messages.findById queuedRow.id = some queuedRow := by decide
  refine (dispatch_follows_policy (fun _ _ _ => rfl) found (Or.inl rfl)).mono ?_
  rintro result following after ⟨resolved, calls, accepted, follows, _, bounded, outcome⟩
  refine ⟨resolved, calls, accepted, follows, bounded, ?_⟩
  cases accepted with
  | true =>
      obtain ⟨_, provider, last, date, _, sent⟩ := outcome
      rw [show (0 : MessageId) = queuedRow.id from rfl, sent]
      simp [queuedRow, queuedMessage]
  | false =>
      obtain ⟨_, date, fatal⟩ := outcome
      rw [show (0 : MessageId) = queuedRow.id from rfl, fatal]
      simp [queuedRow, queuedMessage]

end Dispatch

end SmsNotification
