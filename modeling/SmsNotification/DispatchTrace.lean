import SmsNotification.Concurrency.Interleaving
import SmsNotification.DispatchPolicy

/-!
What a dispatch has behind it, as a protocol of its own: the attempt it is at, its last call, the
pause it owes before the next one, and how far it got since it claimed the row.
-/

namespace SmsNotification

open Concurrency

/-- The attempt at its provider that the next call is, which was `attempt` before `op`. -/
def nextAttempt (limit attempt : Nat) : (op : Op) → Except Failure op.Reply → Nat
  | .sendSms _ _, reply =>
      if verdict reply = .retryable ∧ attempt < limit then attempt + 1 else 1
  | _, _ => attempt

structure DispatchStage where
  attempt : Nat := 1
  lastCall : Option (String × ProviderReply) := none
  owed : Option Js.Number := none
  /-- How many operations followed the claim of the row, once it is claimed. -/
  claimed : Option Nat := none
  /-- How the last call that was not to a provider failed. -/
  rejected : Option Failure := none

namespace DispatchStage

def nextCall (lastCall : Option (String × ProviderReply)) : (op : Op) → Except Failure op.Reply →
    Option (String × ProviderReply)
  | .sendSms provider _, reply => some (provider, reply)
  | _, _ => lastCall

def nextOwed (config : Config) (stage : DispatchStage) : (op : Op) → Except Failure op.Reply →
    Option Js.Number
  | .sendSms _ _, reply =>
      if verdict reply = .retryable ∧ stage.attempt < config.maxRetries then
        some (promisedPause config stage.attempt reply)
      else none
  | .sleep _, _ => none
  | _, _ => stage.owed

def nextClaimed (claimed : Option Nat) : (op : Op) → Except Failure op.Reply → Option Nat
  | .update (.markProcessing _), .ok true => some (claimed.elim 0 Nat.succ)
  | _, _ => claimed.map Nat.succ

def nextRejected (rejected : Option Failure) : (op : Op) → Except Failure op.Reply → Option Failure
  | .sendSms _ _, _ => rejected
  | _, .error error => some error
  | _, .ok _ => rejected

def next (config : Config) (stage : DispatchStage) (op : Op) (reply : Except Failure op.Reply) :
    DispatchStage where
  attempt := nextAttempt config.maxRetries stage.attempt op reply
  lastCall := nextCall stage.lastCall op reply
  owed := nextOwed config stage op reply
  claimed := nextClaimed stage.claimed op reply
  rejected := nextRejected stage.rejected op reply

/-- A dispatch that has claimed the row and called nobody made at most `limit` operations since. -/
def Within (limit : Nat) (stage : DispatchStage) : Prop :=
  stage.lastCall = none → ∀ count, stage.claimed = some count → count ≤ limit

def AllowedUpdate (config : Config) (stage : DispatchStage) : Update → Prop
  | .markFatalFailure _ provider lastError _ => config.providers ≠ [] →
      ∃ reply, stage.lastCall = some (provider, reply) ∧ lastError = failureText (provider, reply)
  | _ => True

def Allowed (config : Config) (stage : DispatchStage) : Op → Prop
  | .sendSms provider _ =>
      stage.owed = none ∧ (stage.attempt ≠ 1 → ∃ reply, stage.lastCall = some (provider, reply))
  | .sleep milliseconds => stage.owed = some milliseconds
  | .throttle provider => provider ∈ config.providers
  | .update statement => stage.AllowedUpdate config statement
  | _ => True

end DispatchStage

abbrev dispatchTrace (config : Config) : Protocol Op Op.Reply Failure where
  Stage := DispatchStage
  allowed stage op := stage.Within 2 ∧ stage.Allowed config op
  replies _ _ := True
  next := DispatchStage.next config

namespace DispatchStage

variable {config : Config} {stage : DispatchStage} {limit : Nat}

theorem Within.next {op : Op} {reply : Except Failure op.Reply} (within : stage.Within limit) :
    (stage.next config op reply).Within (limit + 1) := by
  intro uncalled count counted
  have before : stage.lastCall = none := by
    cases op <;> simp_all [DispatchStage.next, nextCall]
  have step : count = 0 ∨ ∃ previous, stage.claimed = some previous ∧ count = previous + 1 := by
    simp only [DispatchStage.next, nextClaimed] at counted
    cases claimed : stage.claimed <;> grind
  rcases step with rfl | ⟨previous, claimed, rfl⟩
  · omega
  · have bounded := within before previous claimed
    omega

theorem Within.mono {more : Nat} (within : stage.Within limit) (grows : limit ≤ more) :
    stage.Within more := by
  intro uncalled count counted
  have bounded := within uncalled count counted
  omega

theorem within_called {called : String × ProviderReply} (lastCall : stage.lastCall = some called) :
    stage.Within limit := by
  intro uncalled
  simp [lastCall] at uncalled

theorem within_unclaimed (unclaimed : stage.claimed = none) : stage.Within limit := by
  intro _ count claimed
  simp [unclaimed] at claimed

/-- Between two operations of the inner loop, before attempt `attempt` at `provider`. -/
structure Attempting (stage : DispatchStage) (provider : String) (attempt : Nat) : Prop where
  counts : stage.attempt = attempt
  free : stage.owed = none
  unrejected : stage.rejected = none
  again : attempt ≠ 1 → ∃ reply, stage.lastCall = some (provider, reply)
  within : stage.Within 0

def Attempted (provider : String) (stage : DispatchStage) :
    Except Failure SmsDispatcherService.ProviderOutcome → Prop
  | .ok .sent => stage.lastCall.isSome = true
  | .ok (.exhausted lastError) => ∃ reply, stage.lastCall = some (provider, reply) ∧
      lastError = failureText (provider, reply) ∧ stage.attempt = 1 ∧ stage.owed = none ∧
      stage.rejected = none
  | .error error => stage.rejected = some error

def Dispatched (config : Config) (stage : DispatchStage) (result : Except Failure Unit) : Prop :=
  (config.providers ≠ [] → stage.claimed.isSome = true →
      stage.lastCall.isSome = true ∨ stage.rejected.isSome = true) ∧
    ∀ error, result = .error error →
      error = .app .smsMessageNotFound ∨ stage.rejected = some error

theorem dispatched_unclaimed {result : Except Failure Unit} (unclaimed : stage.claimed = none)
    (thrown : ∀ error, result = .error error → error = .app .smsMessageNotFound) :
    stage.Dispatched config result := by
  refine ⟨?_, fun error failed => Or.inl (thrown error failed)⟩
  intro _ claimed
  simp [unclaimed] at claimed

theorem dispatched_rejected {error : Failure} (rejected : stage.rejected = some error) :
    stage.Dispatched config (.error error) := by
  refine ⟨fun _ _ => Or.inr (by simp [rejected]), ?_⟩
  rintro _ ⟨⟩
  exact Or.inr rejected

end DispatchStage

section Dispatch

variable {config : Config} {message : SmsMessage} {stage : DispatchStage} {provider : String}

open SmsDispatcherService DispatchStage

theorem sendWithProvider_traced {post : DispatchStage → Except Failure SendSmsResult → Prop}
    (within : stage.Within 2)
    (allowed : stage.Allowed config (.sendSms provider (sendOptions message)))
    (holds : ∀ reply, post
      (stage.next config (.sendSms provider (sendOptions message)) reply)
      (.ok (received provider reply))) :
    (sendWithProvider message provider).Follows (dispatchTrace config) post stage := by
  rw [sendWithProvider, Program.follows_tryCatch]
  refine (Program.follows_perform _).mpr ⟨⟨within, allowed⟩, fun reply _ => ?_⟩
  have received := holds reply
  cases reply with
  | ok result => exact received
  | error error => exact received

theorem counted_traced {α : Type} {post : DispatchStage → Except Failure α → Prop} {attempt : Nat}
    {rest : SendSmsResult → Action α} (attempting : stage.Attempting provider attempt)
    (selected : provider ∈ config.providers)
    (failed : ∀ error (following : DispatchStage), following.rejected = some error →
      post following (.error error))
    (holds : ∀ reply (following : DispatchStage), following.lastCall = some (provider, reply) →
      following.rejected = none →
      following.attempt =
        (if verdict reply = .retryable ∧ attempt < config.maxRetries then attempt + 1 else 1) →
      following.owed =
        (if verdict reply = .retryable ∧ attempt < config.maxRetries then
          some (promisedPause config attempt reply)
        else none) →
      (rest (received provider reply)).Follows (dispatchTrace config) post following) :
    (do
      SmsService.incrementAttempts message.id
      throttle provider
      let result ← sendWithProvider message provider
      rest result).Follows (dispatchTrace config) post stage := by
  obtain ⟨counts, free, unrejected, again, within⟩ := attempting
  simp only [SmsService.incrementAttempts, throttle, Program.follows_bind]
  refine (Program.follows_perform _).mpr ⟨⟨within.mono (by omega), trivial⟩, fun reply _ => ?_⟩
  cases reply with
  | error error => exact failed _ _ rfl
  | ok affected =>
      simp only [Program.then_ok, Program.follows_pure, Program.follows_bind]
      refine (Program.follows_perform _).mpr ⟨⟨within.next.mono (by omega), selected⟩,
        fun reply _ => ?_⟩
      cases reply with
      | error error => exact failed _ _ rfl
      | ok answered =>
          simp only [Program.then_ok, Program.follows_bind]
          refine sendWithProvider_traced within.next.next ?_ fun reply => ?_
          · refine ⟨free, fun later => again ?_⟩
            rw [← counts]
            exact later
          · subst counts
            exact holds reply _ rfl unrejected rfl rfl

theorem markSent_traced {post : DispatchStage → Except Failure Unit → Prop}
    {providerMessageId : Option String} {called : String × ProviderReply}
    (lastCall : stage.lastCall = some called)
    (sent : ∀ following : DispatchStage, following.lastCall = some called → post following (.ok ()))
    (failed : ∀ error (following : DispatchStage), following.lastCall = some called →
      following.rejected = some error → post following (.error error)) :
    (SmsService.markSent message.id provider providerMessageId).Follows (dispatchTrace config) post
      stage := by
  simp only [SmsService.markSent, newDate, Program.follows_bind]
  refine (Program.follows_perform _).mpr ⟨⟨within_called lastCall, trivial⟩, fun reply _ => ?_⟩
  cases reply with
  | error error => exact failed _ _ lastCall rfl
  | ok date =>
      simp only [Program.then_ok, Program.follows_bind]
      refine (Program.follows_perform _).mpr ⟨⟨within_called lastCall, trivial⟩, fun reply _ => ?_⟩
      cases reply with
      | error error => exact failed _ _ lastCall rfl
      | ok affected => exact sent _ lastCall

/-- Induction on the attempts that are left; the bound is met by the last of them. -/
theorem attemptProvider_traced (selected : provider ∈ config.providers) (remaining attempt : Nat)
    (within : remaining + attempt = config.maxRetries + 1) (positive : 1 ≤ attempt)
    (below : attempt ≤ config.maxRetries) (lastError : String)
    (attempting : stage.Attempting provider attempt) :
    (attemptProvider config message provider remaining attempt lastError).Follows
      (dispatchTrace config) (DispatchStage.Attempted provider) stage := by
  induction remaining generalizing attempt lastError stage with
  | zero => omega
  | succ remaining ih =>
      rw [attemptProvider_succ]
      refine counted_traced attempting selected (fun _ _ rejected => rejected) ?_
      intro reply following called unrejected counted owed
      rcases afterReply_cases positive reply with
        ⟨last, rfl, accepts, same⟩ | ⟨ends, same⟩ | ⟨retryable, more, same⟩
      · rw [same, Program.follows_bind]
        refine markSent_traced called ?_ ?_
        · intro following called
          simp [DispatchStage.Attempted, called]
        · intro error following _ rejected
          exact rejected
      · have last : ¬(verdict reply = .retryable ∧ attempt < config.maxRetries) := by
          rintro ⟨retryable, more⟩
          rcases ends with refused | ⟨_, bound⟩
          · simp [refused] at retryable
          · omega
        rw [if_neg last] at counted owed
        rw [same]
        exact ⟨reply, called, rfl, counted, owed, unrejected⟩
      · rw [if_pos ⟨retryable, more⟩] at counted owed
        rw [same]
        simp only [sleep, Program.follows_bind]
        refine (Program.follows_perform _).mpr ⟨⟨within_called called, owed⟩, fun slept _ => ?_⟩
        cases slept with
        | error error => rfl
        | ok slept =>
            exact ih (attempt + 1) (by omega) (by omega) (by omega) _ ⟨counted, rfl, unrejected,
              fun _ => ⟨reply, called⟩, within_called called⟩

structure DispatchStage.Between (config : Config) (stage : DispatchStage) (providers : List String)
    (lastProviderName lastError : String) : Prop where
  counts : stage.attempt = 1
  free : stage.owed = none
  unrejected : stage.rejected = none
  within : stage.Within 0
  tells : providers = [] → config.providers ≠ [] → ∃ reply,
    stage.lastCall = some (lastProviderName, reply) ∧
      lastError = failureText (lastProviderName, reply)

theorem giveUp_traced {lastProviderName lastError : String} (within : stage.Within 0)
    (tells : config.providers ≠ [] → ∃ reply, stage.lastCall = some (lastProviderName, reply) ∧
      lastError = failureText (lastProviderName, reply)) :
    (giveUp message lastProviderName lastError).Follows (dispatchTrace config)
      (DispatchStage.Dispatched config) stage := by
  simp only [giveUp, SmsService.markFatalFailure, newDate, QueueService.enqueueDeadLetter,
    Program.follows_bind]
  refine (Program.follows_perform _).mpr ⟨⟨within.mono (by omega), trivial⟩, fun date _ => ?_⟩
  cases date with
  | error error => exact dispatched_rejected rfl
  | ok date =>
      simp only [Program.then_ok, Program.follows_bind]
      refine (Program.follows_perform _).mpr ⟨⟨within.next.mono (by omega), tells⟩,
        fun written _ => ?_⟩
      cases written with
      | error error => exact dispatched_rejected rfl
      | ok affected =>
          refine (Program.follows_perform _).mpr ⟨⟨within.next.next, trivial⟩, fun dead _ => ?_⟩
          cases dead with
          | error error => exact dispatched_rejected rfl
          | ok dead =>
              refine ⟨fun selects _ => Or.inl ?_, by simp⟩
              obtain ⟨reply, called, _⟩ := tells selects
              simp [DispatchStage.next, DispatchStage.nextCall, called]

theorem dispatchProviders_traced (providers : List String)
    (selected : ∀ provider ∈ providers, provider ∈ config.providers)
    (lastProviderName lastError : String)
    (between : stage.Between config providers lastProviderName lastError) :
    (dispatchProviders config message providers lastProviderName lastError).Follows
      (dispatchTrace config) (DispatchStage.Dispatched config) stage := by
  induction providers generalizing lastProviderName lastError stage with
  | nil => exact giveUp_traced between.within (between.tells rfl)
  | cons provider providers ih =>
      rw [dispatchProviders, Program.follows_bind]
      have positive := config.maxRetries_pos
      have attempting : stage.Attempting provider 1 :=
        ⟨between.counts, between.free, between.unrejected, by simp, between.within⟩
      refine (attemptProvider_traced (selected provider (by simp)) config.maxRetries 1 (by omega)
        (by omega) positive lastError attempting).mono ?_
      intro following result attempted
      cases result with
      | error error => exact dispatched_rejected attempted
      | ok outcome =>
          cases outcome with
          | sent => exact ⟨fun _ _ => Or.inl attempted, by simp⟩
          | exhausted lastError =>
              obtain ⟨reply, called, told, counted, free, unrejected⟩ := attempted
              exact ih (fun other member => selected other (List.mem_cons_of_mem provider member))
                provider lastError ⟨counted, free, unrejected, within_called called,
                  fun _ _ => ⟨reply, called, told⟩⟩

theorem dispatch_traced (id : MessageId) :
    (dispatch config id).Follows (dispatchTrace config) (DispatchStage.Dispatched config) {} := by
  simp only [dispatch, SmsService.findById, Program.follows_bind]
  refine (Program.follows_perform _).mpr ⟨⟨within_unclaimed rfl, trivial⟩, fun reply _ => ?_⟩
  cases reply with
  | error error => exact dispatched_rejected rfl
  | ok found =>
      cases found with
      | none =>
          refine dispatched_unclaimed rfl ?_
          rintro _ ⟨⟩
          rfl
      | some message =>
          simp only [Program.then_ok]
          split
          · exact dispatched_unclaimed rfl (by simp)
          · simp only [SmsService.markProcessing, Program.follows_bind]
            refine (Program.follows_perform _).mpr ⟨⟨within_unclaimed rfl, trivial⟩,
              fun reply _ => ?_⟩
            cases reply with
            | error error => exact dispatched_rejected rfl
            | ok claimed =>
                cases claimed with
                | false =>
                    simp only [Program.then_ok, Bool.not_false, if_true, Program.follows_bind]
                    refine (Program.follows_perform _).mpr ⟨⟨within_unclaimed rfl, trivial⟩,
                      fun reply _ => ?_⟩
                    cases reply with
                    | error error => exact dispatched_rejected rfl
                    | ok found => exact dispatched_unclaimed rfl (by simp)
                | true =>
                    simp only [Program.then_ok, Bool.not_true, Bool.false_eq_true, if_false,
                      dispatchAcrossProviders]
                    refine dispatchProviders_traced config.providers (fun _ member => member) _ _
                      ⟨rfl, rfl, rfl, ?_, fun empty selects => absurd empty selects⟩
                    rintro _ count ⟨⟩
                    rfl

def providerAttempt (config : Config) (steps : List (OwnStep World.exec)) : Nat :=
  steps.foldl
    (fun attempt step => nextAttempt config.maxRetries attempt step.op step.completion.reply) 1

theorem after_attempt (steps : List (OwnStep World.exec)) :
    ((dispatchTrace config).after stage steps).attempt = steps.foldl
      (fun attempt step => nextAttempt config.maxRetries attempt step.op step.completion.reply)
      stage.attempt := by
  induction steps generalizing stage with
  | nil => rfl
  | cons step steps ih => exact ih

theorem next_exchange {step : OwnStep World.exec} {op : Op} {reply : Except Failure op.Reply}
    (exchanged : step.exchange = ⟨op, reply⟩) :
    stage.next config step.op step.completion.reply = stage.next config op reply := by
  obtain ⟨world, stepOp, choice, completion, executed⟩ := step
  simp only [OwnStep.exchange, Exchange.mk.injEq] at exchanged
  obtain ⟨rfl, same⟩ := exchanged
  rw [← eq_of_heq same]

theorem next_claimed {count : Nat} (claimed : stage.claimed = some count) (op : Op)
    (reply : Except Failure op.Reply) :
    (stage.next config op reply).claimed = some (count + 1) := by
  simp only [DispatchStage.next, DispatchStage.nextClaimed, claimed]
  split
  · rfl
  · rfl

theorem after_claimed {count : Nat} {steps : List (OwnStep World.exec)}
    (claimed : stage.claimed = some count) :
    ((dispatchTrace config).after stage steps).claimed = some (count + steps.length) := by
  induction steps generalizing stage count with
  | nil => exact claimed
  | cons step steps ih =>
      have following : (stage.next config step.op step.completion.reply).claimed =
          some (count + 1) := next_claimed claimed step.op step.completion.reply
      have rest := ih following
      rw [List.length_cons, show count + (steps.length + 1) = count + 1 + steps.length by omega]
      exact rest

theorem claimed_since {before after : List (OwnStep World.exec)} {claim : OwnStep World.exec}
    {id : MessageId} (claimed : claim.exchange = ⟨.update (.markProcessing id), .ok true⟩) :
    ∃ count, ((dispatchTrace config).after stage (before ++ claim :: after)).claimed =
      some (count + after.length) := by
  rw [Protocol.after_append]
  obtain ⟨count, claims⟩ : ∃ count, (((dispatchTrace config).after stage before).next config claim.op
      claim.completion.reply).claimed = some count :=
    ⟨_, congrArg DispatchStage.claimed (next_exchange claimed)⟩
  exact ⟨count, after_claimed claims⟩

theorem after_lastCall {steps : List (OwnStep World.exec)} {provider : String}
    {reply : ProviderReply}
    (called : ((dispatchTrace config).after stage steps).lastCall = some (provider, reply)) :
    (stage.lastCall = some (provider, reply) ∧ ∀ step ∈ steps, step.op.isSendSms = false) ∨
      ∃ earlier call later options, steps = earlier ++ call :: later ∧
        call.exchange = ⟨.sendSms provider options, reply⟩ ∧
        ∀ step ∈ later, step.op.isSendSms = false := by
  induction steps generalizing stage with
  | nil => exact Or.inl ⟨called, by simp⟩
  | cons step steps ih =>
      rcases ih called with ⟨first, uncalled⟩ | ⟨earlier, call, later, options, rfl, exchange, last⟩
      · obtain ⟨world, op, choice, completion, executed⟩ := step
        cases op with
        | sendSms other options =>
            have same : some (other, completion.reply) = some (provider, reply) := first
            simp only [Option.some.injEq, Prod.mk.injEq] at same
            obtain ⟨rfl, rfl⟩ := same
            exact Or.inr ⟨[], _, steps, options, rfl, rfl, uncalled⟩
        | _ =>
            refine Or.inl ⟨first, ?_⟩
            rintro other member
            rcases List.mem_cons.mp member with rfl | later
            · rfl
            · exact uncalled other later
      · exact Or.inr ⟨step :: earlier, call, later, options, rfl, exchange, last⟩

theorem next_rejected {op : Op} {reply : Except Failure op.Reply} {error : Failure}
    (rejected : (stage.next config op reply).rejected = some error) :
    stage.rejected = some error ∨ op.isSendSms = false ∧ reply = .error error := by
  cases op with
  | sendSms provider options => exact Or.inl rejected
  | _ =>
      cases reply with
      | ok answer => exact Or.inl rejected
      | error failure =>
          have same : some failure = some error := rejected
          rw [Option.some.injEq] at same
          exact Or.inr ⟨rfl, by rw [same]⟩

theorem after_rejected {steps : List (OwnStep World.exec)} {error : Failure}
    (rejected : ((dispatchTrace config).after stage steps).rejected = some error) :
    stage.rejected = some error ∨
      ∃ step ∈ steps, step.op.isSendSms = false ∧ step.completion.reply = .error error := by
  induction steps generalizing stage with
  | nil => exact Or.inl rejected
  | cons step steps ih =>
      rcases ih rejected with first | ⟨other, member, found⟩
      · rcases next_rejected first with earlier | found
        · exact Or.inl earlier
        · exact Or.inr ⟨step, List.mem_cons_self, found⟩
      · exact Or.inr ⟨other, List.mem_cons_of_mem step member, found⟩

theorem dispatch_permits {id : MessageId} {steps : List (OwnStep World.exec)} {rest : Action Unit}
    (reaches : (dispatch config id).Reaches World.exec steps rest) :
    (dispatchTrace config).Permits {} steps ∧
      rest.Follows (dispatchTrace config) (DispatchStage.Dispatched config)
        ((dispatchTrace config).after {} steps) :=
  (dispatch_traced id).reaches reaches fun _ _ => trivial

end Dispatch

end SmsNotification
