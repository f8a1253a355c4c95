import Mathlib.Algebra.Order.BigOperators.Group.List
import SmsNotification.DispatchTrace

/-!
How much time a dispatch lets pass between two calls to one provider. The pause is a single timer,
so it lasts as long as it should only if the timer can be set that far.
-/

namespace SmsNotification

open Concurrency

/-- The longest delay that `setTimeout` takes, 2^31-1. -/
def timeoutMax : Rat := 2147483647

/-- The least time that `setTimeout` waits: a delay out of its range becomes one millisecond. -/
def setTimeout : Js.Number → Rat
  | .finite delay => if 1 ≤ delay ∧ delay ≤ timeoutMax then delay else 1
  | _ => 1

def leastDuration : Op → Rat
  | .sleep milliseconds => setTimeout milliseconds
  | _ => 0

def Timely (steps : List (OwnStep World.exec)) (durations : List Rat) : Prop :=
  List.Forall₂ (· ≤ ·) (steps.map fun step => leastDuration step.op) durations

section Pauses

variable {config : Config} {stage : DispatchStage} {steps : List (OwnStep World.exec)}

theorem nextOwed_other {op : Op} {reply : Except Failure op.Reply} (uncalled : op.isSendSms = false)
    (awake : ∀ milliseconds, op ≠ .sleep milliseconds) :
    (stage.next config op reply).owed = stage.owed := by
  cases op with
  | sendSms provider options => simp [Op.isSendSms] at uncalled
  | sleep milliseconds => exact absurd rfl (awake milliseconds)
  | _ => rfl

theorem leastDuration_other {op : Op} (awake : ∀ milliseconds, op ≠ .sleep milliseconds) :
    leastDuration op = 0 := by
  cases op with
  | sleep milliseconds => exact absurd rfl (awake milliseconds)
  | _ => rfl

theorem unowed_sum (permits : (dispatchTrace config).Permits stage steps) (free : stage.owed = none)
    (uncalled : ∀ step ∈ steps, step.op.isSendSms = false) :
    (steps.map fun step => leastDuration step.op).sum = 0 := by
  induction steps generalizing stage with
  | nil => rfl
  | cons step steps ih =>
      obtain ⟨⟨_, allowed⟩, later⟩ := permits
      have awake : ∀ milliseconds, step.op ≠ .sleep milliseconds := by
        intro milliseconds sleeps
        rw [sleeps] at allowed
        have owes : stage.owed = some milliseconds := allowed
        simp [free] at owes
      have rest := ih later ((nextOwed_other (uncalled step (by simp)) awake).trans free)
        fun other member => uncalled other (List.mem_cons_of_mem step member)
      rw [List.map_cons, List.sum_cons, leastDuration_other awake, rest, zero_add]

theorem owed_sum {pause : Js.Number} (permits : (dispatchTrace config).Permits stage steps)
    (owes : stage.owed = some pause) (uncalled : ∀ step ∈ steps, step.op.isSendSms = false)
    (paid : ((dispatchTrace config).after stage steps).owed = none) :
    (steps.map fun step => leastDuration step.op).sum = setTimeout pause := by
  induction steps generalizing stage with
  | nil =>
      have unpaid : stage.owed = none := paid
      simp [owes] at unpaid
  | cons step steps ih =>
      obtain ⟨⟨_, allowed⟩, later⟩ := permits
      have others : ∀ other ∈ steps, other.op.isSendSms = false :=
        fun other member => uncalled other (List.mem_cons_of_mem step member)
      rw [List.map_cons, List.sum_cons]
      by_cases sleeps : ∃ milliseconds, step.op = .sleep milliseconds
      · obtain ⟨milliseconds, sleeps⟩ := sleeps
        have freed : (stage.next config step.op step.completion.reply).owed = none := by
          generalize step.completion.reply = reply
          revert reply
          rw [sleeps]
          exact fun reply => rfl
        rw [sleeps] at allowed ⊢
        have same : stage.owed = some milliseconds := allowed
        rw [owes, Option.some.injEq] at same
        rw [unowed_sum later freed others, same, leastDuration, add_zero]
      · have awake : ∀ milliseconds, step.op ≠ .sleep milliseconds :=
          fun milliseconds sleeping => sleeps ⟨milliseconds, sleeping⟩
        have kept : (stage.next config step.op step.completion.reply).owed = stage.owed :=
          nextOwed_other (uncalled step (by simp)) awake
        rw [leastDuration_other awake, ih later (kept.trans owes) others paid, zero_add]

theorem promisedPause_cases {attempt : Nat} {reply : ProviderReply} :
    (∃ value, 1 ≤ value ∧ promisedPause config attempt reply = .finite value) ∨
      promisedPause config attempt reply = .infinity ∨
      promisedPause config attempt reply = .notANumber := by
  have backoff : 1 ≤ config.retryBaseDelayMs * 2 ^ (attempt - 1) :=
    Nat.mul_pos config.retryBaseDelayMs_pos (Nat.two_pow_pos _)
  have backoff_rat : (1 : Rat) ≤ (config.retryBaseDelayMs * 2 ^ (attempt - 1) : Nat) := by
    exact_mod_cast backoff
  rw [promisedPause]
  cases retryAfter reply with
  | finite value => exact Or.inl ⟨_, le_max_of_le_right backoff_rat, rfl⟩
  | infinity => exact Or.inr (Or.inl rfl)
  | negativeInfinity => exact Or.inl ⟨_, backoff_rat, rfl⟩
  | notANumber => exact Or.inr (Or.inr rfl)

theorem promisedPause_kept {attempt : Nat} {reply : ProviderReply} :
    (promisedPause config attempt reply).atMost
        (setTimeout (promisedPause config attempt reply)) ↔
      (promisedPause config attempt reply).atMost timeoutMax := by
  rcases promisedPause_cases with ⟨value, positive, pause⟩ | pause | pause
  · rw [pause]
    by_cases within : value ≤ timeoutMax
    · simp [Js.Number.atMost, setTimeout, positive, within]
    · have long : timeoutMax < value := lt_of_not_ge within
      have longer : (1 : Rat) < value := lt_trans (by decide +kernel) long
      simp [Js.Number.atMost, setTimeout, within, longer]
  · rw [pause]
    simp [Js.Number.atMost]
  · rw [pause]
    simp [Js.Number.atMost]

theorem next_retryable {provider : String} {options : SendSmsOptions} {reply : ProviderReply}
    (retryable : verdict reply = .retryable) (more : stage.attempt < config.maxRetries) :
    stage.next config (.sendSms provider options) reply = { stage with
      attempt := stage.attempt + 1
      lastCall := some (provider, reply)
      owed := some (promisedPause config stage.attempt reply)
      claimed := stage.claimed.map Nat.succ } := by
  simp only [DispatchStage.next, nextAttempt, DispatchStage.nextCall, DispatchStage.nextOwed,
    DispatchStage.nextClaimed, DispatchStage.nextRejected, retryable, more, and_self, if_true]

theorem next_uncalled {op : Op} {reply : Except Failure op.Reply} (uncalled : op.isSendSms = false) :
    (stage.next config op reply).attempt = stage.attempt ∧
      (stage.next config op reply).lastCall = stage.lastCall := by
  cases op with
  | sendSms provider options => simp [Op.isSendSms] at uncalled
  | _ => exact ⟨rfl, rfl⟩

theorem after_uncalled (uncalled : ∀ step ∈ steps, step.op.isSendSms = false) :
    ((dispatchTrace config).after stage steps).attempt = stage.attempt ∧
      ((dispatchTrace config).after stage steps).lastCall = stage.lastCall := by
  induction steps generalizing stage with
  | nil => exact ⟨rfl, rfl⟩
  | cons step steps ih =>
      have others : ∀ other ∈ steps, other.op.isSendSms = false :=
        fun other member => uncalled other (List.mem_cons_of_mem step member)
      obtain ⟨attempt, lastCall⟩ := @ih (stage.next config step.op step.completion.reply) others
      obtain ⟨sameAttempt, sameCall⟩ :
          (stage.next config step.op step.completion.reply).attempt = stage.attempt ∧
            (stage.next config step.op step.completion.reply).lastCall = stage.lastCall :=
        next_uncalled (uncalled step (by simp))
      exact ⟨attempt.trans sameAttempt, lastCall.trans sameCall⟩

theorem nextAttempt_pos {limit attempt : Nat} (positive : 1 ≤ attempt) (op : Op)
    (reply : Except Failure op.Reply) : 1 ≤ nextAttempt limit attempt op reply := by
  cases op with
  | sendSms provider options =>
      simp only [nextAttempt]
      split
      · omega
      · omega
  | _ => exact positive

theorem after_attempt_pos (positive : 1 ≤ stage.attempt) :
    1 ≤ ((dispatchTrace config).after stage steps).attempt := by
  induction steps generalizing stage with
  | nil => exact positive
  | cons step steps ih => exact ih (nextAttempt_pos positive step.op step.completion.reply)

theorem pause_before_call {pause : Js.Number} {provider : String} {reply : ProviderReply} {op : Op}
    (permits : (dispatchTrace config).Permits stage steps)
    (allowed : (dispatchTrace config).allowed ((dispatchTrace config).after stage steps) op)
    (repeats : stage.attempt ≠ 1) (lastCall : stage.lastCall = some (provider, reply))
    (owes : stage.owed = some pause) (uncalled : ∀ step ∈ steps, step.op.isSendSms = false)
    (again : op.isSendSms = true) :
    (∃ options, op = .sendSms provider options) ∧
      (steps.map fun step => leastDuration step.op).sum = setTimeout pause := by
  obtain ⟨attempt, called⟩ := @after_uncalled config stage steps uncalled
  cases op with
  | sendSms other options =>
      obtain ⟨_, free, same⟩ := allowed
      rw [attempt, called, lastCall] at same
      obtain ⟨_, same⟩ := same repeats
      simp only [Option.some.injEq, Prod.mk.injEq] at same
      refine ⟨⟨options, by rw [same.1]⟩, owed_sum permits owes uncalled free⟩
  | _ => simp [Op.isSendSms] at again

theorem atMost_of_le {number : Js.Number} {bound more : Rat} (within : number.atMost bound)
    (grows : bound ≤ more) : number.atMost more := by
  cases number with
  | finite value => exact le_trans within grows
  | negativeInfinity => trivial
  | infinity => exact within.elim
  | notANumber => exact within.elim

/-- The next call after a failed attempt that may be repeated goes to the same provider, and the
pause before it is as long as promised exactly when the timer can be set to it. -/
theorem retry_pause_kept {id : MessageId} {rest : Action Unit}
    {before between after : List (OwnStep World.exec)} {failed following : OwnStep World.exec}
    {provider : String} {options : SendSmsOptions} {reply : ProviderReply}
    (reaches : (SmsDispatcherService.dispatch config id).Reaches World.exec
      (before ++ failed :: (between ++ following :: after)) rest)
    (called : failed.exchange = ⟨.sendSms provider options, reply⟩)
    (retryable : verdict reply = .retryable)
    (more : providerAttempt config before < config.maxRetries)
    (uncalled : ∀ step ∈ between, step.op.isSendSms = false)
    (again : following.op.isSendSms = true) :
    (∃ options, following.op = .sendSms provider options) ∧
      ((∀ durations, Timely between durations →
          (promisedPause config (providerAttempt config before) reply).atMost durations.sum) ↔
        (promisedPause config (providerAttempt config before) reply).atMost timeoutMax) := by
  have permits := (dispatch_permits reaches).1
  rw [Protocol.permits_append] at permits
  obtain ⟨_, _, later⟩ := permits
  rw [Protocol.permits_append] at later
  obtain ⟨permits, allowed, _⟩ := later
  have counts : ((dispatchTrace config).after {} before).attempt = providerAttempt config before :=
    after_attempt before
  have positive : 1 ≤ ((dispatchTrace config).after {} before).attempt :=
    after_attempt_pos (Nat.le_refl 1)
  rw [← counts] at more ⊢
  have promising := (next_exchange called).trans (next_retryable retryable more)
  have repeats : ((dispatchTrace config).next ((dispatchTrace config).after {} before) failed.op
      failed.completion.reply).attempt ≠ 1 := by
    rw [show _ = ((dispatchTrace config).after {} before).attempt + 1 from
      congrArg DispatchStage.attempt promising]
    omega
  obtain ⟨repeated, least⟩ := pause_before_call permits allowed repeats
    (congrArg DispatchStage.lastCall promising) (congrArg DispatchStage.owed promising) uncalled
    again
  refine ⟨repeated, ?_⟩
  rw [← promisedPause_kept, ← least]
  constructor
  · intro kept
    exact kept _ (List.forall₂_refl _)
  · intro kept durations timely
    exact atMost_of_le kept timely.sum_le_sum

end Pauses

namespace Retry

abbrev config : Config := .defaults ["twilio"]

def refusal (retryAfterMs : Option Js.Number) : SendSmsResult where
  success := false
  isRetryable := true
  retryAfterMs := retryAfterMs

def claimed : World :=
  { World.queued with messages := World.queued.messages.update (.markProcessing 0) }

def counted (world : World) : World :=
  { world with messages := world.messages.update (.incrementAttempts 0) }

def before : List (OwnStep World.exec) :=
  [⟨World.queued, .findById 0, .answered {}, _, rfl⟩,
    ⟨World.queued, .update (.markProcessing 0), .answered {}, _, rfl⟩,
    ⟨claimed, .update (.incrementAttempts 0), .answered {}, _, rfl⟩,
    ⟨counted claimed, .throttle "twilio", .answered {}, _, rfl⟩]

def call (world : World) (result : SendSmsResult) : OwnStep World.exec :=
  ⟨world, .sendSms "twilio" (sendOptions queuedRow), .answered { sms := result }, _, rfl⟩

def between (retryAfterMs : Option Js.Number) : List (OwnStep World.exec) :=
  [⟨counted claimed, .sleep (promisedPause config 1 (.ok (refusal retryAfterMs))), .answered {}, _,
      rfl⟩,
    ⟨counted claimed, .update (.incrementAttempts 0), .answered {}, _, rfl⟩,
    ⟨counted (counted claimed), .throttle "twilio", .answered {}, _, rfl⟩]

abbrev promised (retryAfterMs : Option Js.Number) : Js.Number :=
  promisedPause config (providerAttempt config before) (.ok (refusal retryAfterMs))

def steps (retryAfterMs : Option Js.Number) : List (OwnStep World.exec) :=
  before ++ call (counted claimed) (refusal retryAfterMs) :: (between retryAfterMs ++
    [call (counted (counted claimed)) { success := true, isRetryable := false }])

theorem reached (retryAfterMs : Option Js.Number) : ∃ rest,
    (SmsDispatcherService.dispatch config 0).Reaches World.exec (steps retryAfterMs) rest :=
  ⟨_, .step _ rfl (.step _ rfl (.step _ rfl (.step _ rfl (.step _ rfl (.step _ rfl
    (.step _ rfl (.step _ rfl (.step _ rfl (.here _)))))))))⟩

end Retry

theorem retry_pause_kept_default : ∃ rest,
    (SmsDispatcherService.dispatch Retry.config 0).Reaches World.exec (Retry.steps none) rest ∧
      ∀ durations, Timely (Retry.between none) durations →
        (Js.Number.finite 2000).atMost durations.sum := by
  obtain ⟨rest, reaches⟩ := Retry.reached none
  have called : (Retry.call (Retry.counted Retry.claimed) (Retry.refusal none)).exchange =
      ⟨.sendSms "twilio" (sendOptions queuedRow), .ok (Retry.refusal none)⟩ := rfl
  have promised : Retry.promised none = .finite 2000 := by decide +kernel
  have kept : (∀ durations, Timely (Retry.between none) durations →
      (Retry.promised none).atMost durations.sum) ↔ (Retry.promised none).atMost timeoutMax :=
    (retry_pause_kept reaches called rfl (by decide) (by decide) rfl).2
  rw [promised] at kept
  refine ⟨rest, reaches, kept.mpr ?_⟩
  simp only [Js.Number.atMost]
  decide +kernel

/-- With the default configuration, a provider that asks for a month, `retry-after: 2592000`, is
called again one millisecond later. -/
theorem long_pause_cut_short : ∃ rest durations,
    (SmsDispatcherService.dispatch Retry.config 0).Reaches World.exec
        (Retry.steps (some (.finite 2592000000))) rest ∧
      Timely (Retry.between (some (.finite 2592000000))) durations ∧ durations.sum = 1 ∧
      ¬(Retry.promised (some (.finite 2592000000))).atMost durations.sum := by
  obtain ⟨rest, reaches⟩ := Retry.reached (some (.finite 2592000000))
  have promised : Retry.promised (some (.finite 2592000000)) = .finite 2592000000 := by
    decide +kernel
  have total : List.sum [1, 0, 0] = (1 : Rat) := by decide +kernel
  refine ⟨rest, [1, 0, 0], reaches, ?_, total, ?_⟩
  · refine .cons ?_ (.cons (le_refl 0) (.cons (le_refl 0) .nil))
    change setTimeout (Retry.promised (some (.finite 2592000000))) ≤ 1
    rw [promised]
    decide +kernel
  · rw [promised, total]
    simp only [Js.Number.atMost]
    decide +kernel

end SmsNotification
