import Mathlib.Data.List.Perm.Subperm
import SmsNotification.Concurrency.Likeness
import SmsNotification.Concurrency.Simulation
import SmsNotification.RateLimitSafety
import SmsNotification.RetryPause

/-!
The waiting in `throttle`, where a call may be interrupted: between its reading of the clock, the
run of its script in Redis, the arrival of the reply and the end of its sleep, other calls act and
time passes. A sleep lasts until the counter is gone, and that is not before its bucket is over.
Where each script runs in the window that its call has read, this is a run of `RateLimiter`.
-/

namespace SmsNotification

open Concurrency

/-- Where a call is: before its first iteration, with the script sent, with the reply on its way, or
in a sleep that began at some time; then settled. -/
inductive WaitState
  | ready
  | incrementing (bucket : Nat)
  | answered (counter : RateLimitCounterResult)
  | asleep (since : Nat) (milliseconds : Int)
  | returned
  | rejected
  deriving DecidableEq

/-- The clock is read at the start and after a sleep, which is no shorter than its timer. -/
def WaitState.mayRead (now : Nat) : WaitState → Bool
  | ready => true
  | asleep since milliseconds => setTimeout (.finite milliseconds) ≤ (now : Rat) - since
  | _ => false

/-- A call of `throttle`. The buckets of its iterations and the keys that its script was run on are
kept in order. -/
structure WaitingCall where
  providerName : String
  limit : ProviderRateLimitConfig
  startedAt : Nat
  state : WaitState
  buckets : List Nat
  increments : List String

namespace WaitingCall

def readClock (call : WaitingCall) (now : Nat) : WaitingCall :=
  let bucket := now / call.limit.durationMs
  { call with state := .incrementing bucket, buckets := call.buckets ++ [bucket] }

def increment (call : WaitingCall) (bucket : Nat) (counter : RateLimitCounterResult)
    (lost : Bool) : WaitingCall :=
  { call with
    state := if lost then .rejected else .answered counter
    increments := call.increments ++ [rateLimitKey call.providerName bucket] }

def receive (call : WaitingCall) (now : Nat) (counter : RateLimitCounterResult) : WaitingCall :=
  { call with
    state := if counter.count ≤ call.limit.max then .returned else .asleep now counter.ttlMs }

end WaitingCall

structure Waiting where
  now : Nat
  redis : Redis
  calls : List WaitingCall

namespace Waiting

def initial (now : Nat) : Waiting where
  now := now
  redis _ := none
  calls := []

inductive Event
  | throttle (providerName : String)
  | readClock (index : Nat)
  | increment (index : Nat) (reply : RateLimiting.Reply)
  | receive (index : Nat)
  | tick (milliseconds : Nat)

def setCall (waiting : Waiting) (index : Nat) (call : WaitingCall) : Waiting :=
  { waiting with calls := waiting.calls.set index call }

def runScript (waiting : Waiting) (index : Nat) (call : WaitingCall) (bucket : Nat) (lost : Bool) :
    Waiting :=
  let (counter, redis) := SmsNotification.increment waiting.redis waiting.now
    (rateLimitKey call.providerName bucket) call.limit.durationMs
  { waiting with redis := redis }.setCall index (call.increment bucket counter lost)

def step (config : ConfigService) (waiting : Waiting) : Event → Option Waiting
  | .throttle providerName =>
      match getLimitConfig config providerName with
      | .ok limit => some { waiting with
          calls := waiting.calls ++ [⟨providerName, limit, waiting.now, .ready, [], []⟩] }
      | .error _ => some waiting
  | .readClock index => do
      let call ← waiting.calls[index]?
      if call.state.mayRead waiting.now then
        some (waiting.setCall index (call.readClock waiting.now))
      else none
  | .increment index reply => do
      let call ← waiting.calls[index]?
      match call.state, reply with
      | .incrementing bucket, .answered => some (waiting.runScript index call bucket false)
      | .incrementing bucket, .lost => some (waiting.runScript index call bucket true)
      | .incrementing _, .rejected => some (waiting.setCall index { call with state := .rejected })
      | _, _ => none
  | .receive index => do
      let call ← waiting.calls[index]?
      match call.state with
      | .answered counter => some (waiting.setCall index (call.receive waiting.now counter))
      | _ => none
  | .tick milliseconds => some { waiting with now := waiting.now + milliseconds }

end Waiting

namespace Redis

variable {redis : Redis} {now ending : Nat} {key : String}

/-- The counter has a deadline, which is not before `ending`, and not further than a window away. -/
def LivesUntil (redis : Redis) (now : Nat) (key : String) (ending durationMs : Nat) : Prop :=
  ∀ entry, redis key = some entry → ∃ deadline, entry.deadline = some deadline ∧
    ending ≤ deadline ∧ deadline ≤ now + durationMs

theorem pttl_deadline {count deadline : Nat} (left : redis key = some ⟨count, some deadline⟩)
    (stays : now < deadline) : redis.pttl now key = deadline - now := by
  have found : redis.get now key = some ⟨count, some deadline⟩ := by simp [get, left, stays]
  rw [pttl, found]

theorem pexpire_at {milliseconds : Nat} {entry : RedisKey}
    (found : redis.get now key = some entry) :
    redis.pexpire now key milliseconds key = some ⟨entry.value, some (now + milliseconds)⟩ := by
  rw [pexpire, found]
  simp

theorem increment_cases {durationMs : Nat} (positive : 1 ≤ durationMs)
    (lives : redis.LivesUntil now key ending durationMs) :
    ∃ count deadline, (increment redis now key durationMs).2 key = some ⟨count, some deadline⟩ ∧
      now < deadline ∧
      (deadline = now + durationMs ∨ ending ≤ deadline ∧ deadline ≤ now + durationMs) := by
  have script : (increment redis now key durationMs).2 =
      if (redis.incr now key).1 = 1 then (redis.incr now key).2.pexpire now key durationMs
      else (redis.incr now key).2 := rfl
  cases live : redis.get now key with
  | none =>
      have created : Redis.get (Function.update redis key (some { value := 1, deadline := none }))
          now key = some { value := 1, deadline := none } := by
        simp [get]
      refine ⟨1, now + durationMs, ?_, by omega, Or.inl rfl⟩
      simp only [script, incr, live, if_true]
      exact pexpire_at created
  | some entry =>
      obtain ⟨present, alive⟩ := Option.filter_eq_some_iff.mp live
      obtain ⟨deadline, ends, long, short⟩ := lives entry present
      have before : now < deadline := by simpa [ends] using alive
      have counted : Redis.get (Function.update redis key
          (some { entry with value := entry.value + 1 })) now key =
            some { entry with value := entry.value + 1 } := by
        simp [get, ends, before]
      by_cases first : entry.value + 1 = 1
      · refine ⟨entry.value + 1, now + durationMs, ?_, by omega, Or.inl rfl⟩
        simp only [script, incr, live, if_pos first]
        exact pexpire_at counted
      · refine ⟨entry.value + 1, deadline, ?_, before, Or.inr ⟨long, short⟩⟩
        simp only [script, incr, live, if_neg first]
        simp [ends]

theorem increment_livesUntil {durationMs : Nat} (positive : 1 ≤ durationMs)
    (soon : ending ≤ now + durationMs) (lives : redis.LivesUntil now key ending durationMs) :
    (increment redis now key durationMs).2.LivesUntil now key ending durationMs ∧
      1 ≤ (increment redis now key durationMs).1.ttlMs ∧
      (increment redis now key durationMs).1.ttlMs ≤ durationMs ∧
      ending ≤ now + (increment redis now key durationMs).1.ttlMs := by
  obtain ⟨count, deadline, left, stays, ends⟩ := increment_cases positive lives
  have long : ending ≤ deadline := by omega
  have short : deadline ≤ now + durationMs := by omega
  have ttl : (increment redis now key durationMs).1.ttlMs = max ((deadline : Int) - now) 1 :=
    congrArg (max · 1) (pttl_deadline left stays)
  rw [ttl]
  refine ⟨?_, by omega, by omega, by omega⟩
  intro entry found
  rw [left, Option.some.injEq] at found
  subst found
  exact ⟨deadline, rfl, long, short⟩

end Redis

def WaitState.RestsUntil (now time : Nat) : WaitState → Prop
  | ready => False
  | answered counter =>
      1 ≤ counter.ttlMs ∧ counter.ttlMs ≤ 2 ^ 31 - 1 ∧ (time : Int) ≤ now + counter.ttlMs
  | asleep since milliseconds =>
      1 ≤ milliseconds ∧ milliseconds ≤ 2 ^ 31 - 1 ∧ (time : Int) ≤ since + milliseconds
  | _ => True

namespace WaitingCall

variable {config : ConfigService} {call : WaitingCall} {now : Nat}

abbrev key (call : WaitingCall) (bucket : Nat) : String := rateLimitKey call.providerName bucket

/-- A timer can be set to every time to live that the call may be told. -/
def Timed (call : WaitingCall) : Prop := call.limit.durationMs ≤ 2 ^ 31 - 1

structure Waits (config : ConfigService) (now : Nat) (call : WaitingCall) : Prop where
  configured : getLimitConfig config call.providerName = .ok call.limit
  started : call.startedAt ≤ now
  within : ∀ bucket ∈ call.buckets,
    call.startedAt / call.limit.durationMs ≤ bucket ∧ bucket ≤ now / call.limit.durationMs
  incremented : List.Sublist call.increments (call.buckets.map call.key)
  /-- The script of the last iteration has not run yet. -/
  running : ∀ bucket, call.state = .incrementing bucket → ∃ earlier,
    call.buckets = earlier ++ [bucket] ∧ List.Sublist call.increments (earlier.map call.key)
  increasing : call.Timed → call.buckets.Pairwise (· < ·)
  /-- No sleep ends in a bucket of an iteration before it. -/
  rests : call.Timed → ∀ bucket ∈ call.buckets,
    call.state.RestsUntil now ((bucket + 1) * call.limit.durationMs)

end WaitingCall

theorem WaitState.RestsUntil.elapsed {state : WaitState} {now time : Nat}
    (rests : state.RestsUntil now time) (reads : state.mayRead now = true) : time ≤ now := by
  cases state with
  | asleep since milliseconds =>
      obtain ⟨positive, short, until'⟩ := rests
      have set : setTimeout (.finite milliseconds) = milliseconds := by
        have lower : (1 : Rat) ≤ milliseconds := by exact_mod_cast positive
        have upper : (milliseconds : Rat) ≤ timeoutMax := by
          rw [timeoutMax]
          exact_mod_cast short
        rw [setTimeout, if_pos ⟨lower, upper⟩]
      have slept : (milliseconds : Rat) ≤ (now : Rat) - since := by
        simpa [mayRead, set] using reads
      have elapsed : (since : Int) + milliseconds ≤ now := by
        have sum : (since : Rat) + milliseconds ≤ now := le_sub_iff_add_le'.mp slept
        exact_mod_cast sum
      omega
  | ready => exact rests.elim
  | _ => simp [mayRead] at reads

theorem WaitState.RestsUntil.later {state : WaitState} {now later time : Nat}
    (rests : state.RestsUntil now time) (passed : now ≤ later) : state.RestsUntil later time := by
  cases state with
  | answered counter =>
      obtain ⟨positive, short, until'⟩ := rests
      exact ⟨positive, short, by omega⟩
  | _ => exact rests

namespace WaitingCall

variable {config : ConfigService} {call : WaitingCall} {now bucket : Nat}
  {counter : RateLimitCounterResult}

theorem Waits.later {later : Nat} (waits : call.Waits config now) (passed : now ≤ later) :
    call.Waits config later where
  configured := waits.configured
  started := waits.started.trans passed
  within bucket member := by
    obtain ⟨lower, upper⟩ := waits.within bucket member
    exact ⟨lower, upper.trans (Nat.div_le_div_right passed)⟩
  incremented := waits.incremented
  running := waits.running
  increasing := waits.increasing
  rests timed bucket member := (waits.rests timed bucket member).later passed

theorem Waits.readClock (waits : call.Waits config now) (reads : call.state.mayRead now = true) :
    (call.readClock now).Waits config now where
  configured := waits.configured
  started := waits.started
  within bucket member := by
    rcases List.mem_append.mp member with earlier | last
    · exact waits.within bucket earlier
    · rw [List.mem_singleton.mp last]
      exact ⟨Nat.div_le_div_right waits.started, Nat.le_refl _⟩
  incremented := by
    change List.Sublist call.increments ((call.buckets ++ [_]).map call.key)
    rw [List.map_append]
    exact waits.incremented.trans (List.sublist_append_left _ _)
  running bucket incrementing := by
    simp only [WaitingCall.readClock, WaitState.incrementing.injEq] at incrementing
    exact ⟨call.buckets, by rw [← incrementing]; rfl, waits.incremented⟩
  increasing timed := by
    refine List.pairwise_append.mpr ⟨waits.increasing timed, List.pairwise_singleton _ _, ?_⟩
    intro earlier member last isLast
    rw [List.mem_singleton.mp isLast]
    have elapsed := (waits.rests timed earlier member).elapsed reads
    exact (Nat.le_div_iff_mul_le call.limit.durationMs_pos).mpr elapsed
  rests _ _ _ := trivial

theorem Waits.rejected (waits : call.Waits config now) :
    { call with state := .rejected }.Waits config now where
  configured := waits.configured
  started := waits.started
  within := waits.within
  incremented := waits.incremented
  running _ incrementing := by simp at incrementing
  increasing := waits.increasing
  rests _ _ _ := trivial

theorem Waits.increment (waits : call.Waits config now) (lost : Bool)
    (incrementing : call.state = .incrementing bucket) (positive : 1 ≤ counter.ttlMs)
    (short : counter.ttlMs ≤ call.limit.durationMs)
    (until' : ((bucket + 1) * call.limit.durationMs : Nat) ≤ now + counter.ttlMs) :
    (call.increment bucket counter lost).Waits config now where
  configured := waits.configured
  started := waits.started
  within := waits.within
  incremented := by
    obtain ⟨earlier, split, incremented⟩ := waits.running bucket incrementing
    change List.Sublist (call.increments ++ [call.key bucket]) (call.buckets.map call.key)
    rw [split, List.map_append]
    exact incremented.append (List.Sublist.refl _)
  running other again := by
    cases lost <;> simp [WaitingCall.increment] at again
  increasing := waits.increasing
  rests timed earlier member := by
    cases lost with
    | true => trivial
    | false =>
        obtain ⟨before, split, _⟩ := waits.running bucket incrementing
        have latest : earlier ≤ bucket := by
          have increasing := waits.increasing timed
          rw [split, List.pairwise_append] at increasing
          rcases List.mem_append.mp (split ▸ member) with first | last
          · exact Nat.le_of_lt (increasing.2.2 earlier first bucket (by simp))
          · exact Nat.le_of_eq (List.mem_singleton.mp last)
        have sooner :
            (earlier + 1) * call.limit.durationMs ≤ (bucket + 1) * call.limit.durationMs :=
          Nat.mul_le_mul_right _ (by omega)
        have timer : call.limit.durationMs ≤ 2 ^ 31 - 1 := timed
        have still : ((earlier + 1) * call.limit.durationMs : Nat) ≤ now + counter.ttlMs := by omega
        exact ⟨positive, by omega, still⟩

theorem Waits.receive (waits : call.Waits config now) (answered : call.state = .answered counter) :
    (call.receive now counter).Waits config now where
  configured := waits.configured
  started := waits.started
  within := waits.within
  incremented := waits.incremented
  running _ incrementing := by
    simp only [WaitingCall.receive] at incrementing
    split at incrementing <;> simp at incrementing
  increasing := waits.increasing
  rests timed bucket member := by
    have rests := waits.rests timed bucket member
    rw [answered] at rests
    simp only [WaitingCall.receive]
    split
    · trivial
    · exact rests

end WaitingCall

namespace Waiting

variable {config : ConfigService} {waiting following : Waiting} {call : WaitingCall} {index : Nat}

structure Sound (config : ConfigService) (waiting : Waiting) : Prop where
  /-- A counter was created in its bucket or later, and lives for a whole window. -/
  counters : ∀ providerName limit bucket, getLimitConfig config providerName = .ok limit →
    waiting.redis.LivesUntil waiting.now (rateLimitKey providerName bucket)
      ((bucket + 1) * limit.durationMs) limit.durationMs
  calls : ∀ call ∈ waiting.calls, call.Waits config waiting.now

theorem initial_sound (now : Nat) : Sound config (initial now) where
  counters _ _ _ _ _ found := by simp [initial] at found
  calls _ member := by simp [initial] at member

theorem Sound.setCall (sound : Sound config waiting) (waits : call.Waits config waiting.now) :
    Sound config (waiting.setCall index call) where
  counters := sound.counters
  calls other member := by
    rcases List.mem_or_eq_of_mem_set member with kept | rfl
    · exact sound.calls other kept
    · exact waits

theorem Sound.tick (sound : Sound config waiting) (milliseconds : Nat) :
    Sound config { waiting with now := waiting.now + milliseconds } where
  counters providerName limit bucket accepted entry found := by
    obtain ⟨deadline, ends, long, short⟩ :=
      sound.counters providerName limit bucket accepted entry found
    exact ⟨deadline, ends, long, by simp only; omega⟩
  calls call member := (sound.calls call member).later (by simp)

theorem Sound.throttle (sound : Sound config waiting) {providerName : String}
    {limit : ProviderRateLimitConfig}
    (accepted : getLimitConfig config providerName = .ok limit) :
    Sound config { waiting with
      calls := waiting.calls ++ [⟨providerName, limit, waiting.now, .ready, [], []⟩] } where
  counters := sound.counters
  calls call member := by
    rcases List.mem_append.mp member with earlier | new
    · exact sound.calls call earlier
    · rw [List.mem_singleton.mp new]
      exact {
        configured := accepted
        started := Nat.le_refl _
        within := by simp
        incremented := List.Sublist.refl _
        running := by simp
        increasing := by simp
        rests := by simp }

theorem Sound.runScript (sound : Sound config waiting) (found : waiting.calls[index]? = some call)
    {bucket : Nat} (incrementing : call.state = .incrementing bucket) (lost : Bool) :
    Sound config (waiting.runScript index call bucket lost) := by
  have waits := sound.calls call (List.mem_of_getElem? found)
  have positive := call.limit.durationMs_pos
  have begun : bucket * call.limit.durationMs ≤ waiting.now := by
    obtain ⟨earlier, split, _⟩ := waits.running bucket incrementing
    have within := (waits.within bucket (by rw [split]; simp)).2
    exact (Nat.le_div_iff_mul_le positive).mp within
  have soon : (bucket + 1) * call.limit.durationMs ≤ waiting.now + call.limit.durationMs := by
    rw [Nat.add_mul, Nat.one_mul]
    omega
  obtain ⟨lives, delays, short, until'⟩ := Redis.increment_livesUntil positive soon
    (sound.counters call.providerName call.limit bucket waits.configured)
  have counters : ∀ providerName limit other, getLimitConfig config providerName = .ok limit →
      (SmsNotification.increment waiting.redis waiting.now (rateLimitKey call.providerName bucket)
        call.limit.durationMs).2.LivesUntil waiting.now (rateLimitKey providerName other)
          ((other + 1) * limit.durationMs) limit.durationMs := by
    intro providerName limit other accepted
    by_cases same : rateLimitKey providerName other = rateLimitKey call.providerName bucket
    · obtain ⟨rfl, rfl⟩ := rateLimitKey_inj same
      rw [waits.configured, Except.ok.injEq] at accepted
      rw [← accepted]
      exact lives
    · intro entry left
      rw [Redis.increment_other same] at left
      exact sound.counters providerName limit other accepted entry left
  exact {
    counters := counters
    calls := fun other member => by
      rcases List.mem_or_eq_of_mem_set member with kept | rfl
      · exact sound.calls other kept
      · exact waits.increment lost incrementing delays short until' }

theorem step_sound {event : Event} (sound : Sound config waiting)
    (stepped : step config waiting event = some following) : Sound config following := by
  cases event with
  | throttle providerName =>
      simp only [step] at stepped
      cases accepted : getLimitConfig config providerName with
      | ok limit =>
          simp only [accepted, Option.some.injEq] at stepped
          exact stepped ▸ sound.throttle accepted
      | error error =>
          simp only [accepted, Option.some.injEq] at stepped
          exact stepped ▸ sound
  | readClock index =>
      obtain ⟨call, found, stepped⟩ := Option.bind_eq_some_iff.mp stepped
      obtain ⟨reads, same⟩ := Option.ite_none_right_eq_some.mp stepped
      rw [← Option.some.inj same]
      exact sound.setCall ((sound.calls call (List.mem_of_getElem? found)).readClock reads)
  | increment index reply =>
      obtain ⟨call, found, stepped⟩ := Option.bind_eq_some_iff.mp stepped
      split at stepped
      next bucket incrementing _ =>
        rw [← Option.some.inj stepped]
        exact sound.runScript found incrementing false
      next bucket incrementing _ =>
        rw [← Option.some.inj stepped]
        exact sound.runScript found incrementing true
      next _ =>
        rw [← Option.some.inj stepped]
        exact sound.setCall (sound.calls call (List.mem_of_getElem? found)).rejected
      next => simp at stepped
  | receive index =>
      obtain ⟨call, found, stepped⟩ := Option.bind_eq_some_iff.mp stepped
      split at stepped
      next counter answered =>
        rw [← Option.some.inj stepped]
        exact sound.setCall ((sound.calls call (List.mem_of_getElem? found)).receive answered)
      next => simp at stepped
  | tick milliseconds =>
      simp only [step, Option.some.injEq] at stepped
      exact stepped ▸ sound.tick milliseconds

end Waiting

/-- Where the call is in `RateLimiter`, whose iterations are one step, that of the script: a call
that has read the clock is before its iteration there, one that waits for the reply is past it. -/
def WaitState.Matches (max : Nat) (state : ThrottleState) : WaitState → Prop
  | ready => state = .iterating
  | incrementing _ => state.isSettled = false
  | answered counter =>
      (counter.count ≤ max ∧ ∃ time, state = .returned time) ∨
        (max < counter.count ∧ state = .sleeping counter.ttlMs)
  | asleep _ milliseconds => state = .sleeping milliseconds
  | returned => ∃ time, state = .returned time
  | rejected => state = .rejected

structure WaitingCall.Matches (throttle : Throttle) (call : WaitingCall) : Prop where
  providerName : call.providerName = throttle.providerName
  limit : call.limit = throttle.limit
  state : call.state.Matches call.limit.max throttle.state

namespace WaitingCall

variable {throttle : Throttle} {call : WaitingCall} {now bucket : Nat}

theorem Matches.readClock (same : Matches throttle call) (reads : call.state.mayRead now = true) :
    Matches throttle (call.readClock now) where
  providerName := same.providerName
  limit := same.limit
  state := by
    have state := same.state
    change throttle.state.isSettled = false
    cases before : call.state with
    | ready =>
        rw [before] at state
        rw [show throttle.state = .iterating from state]
        rfl
    | asleep since milliseconds =>
        rw [before] at state
        rw [show throttle.state = .sleeping milliseconds from state]
        rfl
    | _ => simp [before, WaitState.mayRead] at reads

theorem Matches.receive (same : Matches throttle call) {counter : RateLimitCounterResult}
    (answered : call.state = .answered counter) : Matches throttle (call.receive now counter) where
  providerName := same.providerName
  limit := same.limit
  state := by
    have state := same.state
    rw [answered] at state
    change WaitState.Matches call.limit.max throttle.state
      (if counter.count ≤ call.limit.max then .returned else .asleep now counter.ttlMs)
    rcases state with ⟨admitted, returned⟩ | ⟨exceeded, sleeping⟩
    · rw [if_pos admitted]
      exact returned
    · rw [if_neg (Nat.not_le.mpr exceeded)]
      exact sleeping

theorem Matches.unsettled (same : Matches throttle call)
    (incrementing : call.state = .incrementing bucket) : throttle.state.isSettled = false := by
  have state := same.state
  rwa [incrementing] at state

/-- A script that runs in the bucket which the clock has shown does what an iteration does. -/
theorem Matches.increment (same : Matches throttle call) (redis : Redis) (lost : Bool)
    (current : bucket = now / call.limit.durationMs) :
    let counted := SmsNotification.increment redis now (call.key bucket) call.limit.durationMs
    counted.2 = (throttle.iterate redis now).2 ∧
      Matches { throttle with
          state := if lost then .rejected else (throttle.iterate redis now).1 }
        (call.increment bucket counted.1 lost) := by
  intro counted
  have iterated : throttle.iterate redis now =
      (if counted.1.count ≤ call.limit.max then .returned now else .sleeping counted.1.ttlMs,
        counted.2) := by
    rw [Throttle.iterate, ← same.providerName, ← same.limit, ← current]
  rw [iterated]
  refine ⟨rfl, same.providerName, same.limit, ?_⟩
  cases lost with
  | true => rfl
  | false =>
      by_cases admitted : counted.1.count ≤ call.limit.max
      · exact Or.inl ⟨admitted, now, if_pos admitted⟩
      · exact Or.inr ⟨Nat.not_le.mp admitted, if_neg admitted⟩

end WaitingCall

namespace Waiting

variable {config : ConfigService} {waiting following : Waiting} {call : WaitingCall} {index : Nat}
  {limiting : RateLimiting}

structure Matches (limiting : RateLimiting) (waiting : Waiting) : Prop where
  now : waiting.now = limiting.now
  redis : waiting.redis = limiting.redis
  calls : List.Forall₂ WaitingCall.Matches limiting.throttles waiting.calls

/-- A script runs in the window that the clock has shown, where it runs at all. -/
def CountsInTime (waiting : Waiting) : Event → Prop
  | .increment index _ => ∀ call bucket, waiting.calls[index]? = some call →
      call.state = .incrementing bucket → bucket = waiting.now / call.limit.durationMs
  | _ => True

theorem Matches.getElem? (same : Matches limiting waiting)
    (found : waiting.calls[index]? = some call) :
    ∃ throttle, limiting.throttles[index]? = some throttle ∧
      WaitingCall.Matches throttle call := by
  have related := forall₂_getElem? same.calls index
  rw [found] at related
  cases present : limiting.throttles[index]? with
  | none => simp [present] at related
  | some throttle => exact ⟨throttle, rfl, by simpa [present] using related⟩

/-- `RateLimiter` sees nothing of the step. -/
theorem Matches.unseen (same : Matches limiting waiting) {throttle : Throttle}
    (present : limiting.throttles[index]? = some throttle)
    (matched : WaitingCall.Matches throttle call) :
    ∃ next, Reaches (RateLimiting.step config) (fun _ _ => True) limiting next ∧
      Matches next (waiting.setCall index call) := by
  obtain ⟨inside, rfl⟩ := List.getElem?_eq_some_iff.mp present
  have calls := forall₂_set same.calls index matched
  rw [List.set_getElem_self] at calls
  exact ⟨limiting, .refl, same.now, same.redis, calls⟩

theorem Matches.throttle (same : Matches limiting waiting) {providerName : String}
    {limit : ProviderRateLimitConfig} (accepted : getLimitConfig config providerName = .ok limit) :
    ∃ next, Reaches (RateLimiting.step config) (fun _ _ => True) limiting next ∧
      Matches next { waiting with
        calls := waiting.calls ++ [⟨providerName, limit, waiting.now, .ready, [], []⟩] } := by
  have stepped : RateLimiting.step config limiting (.throttle providerName) =
      some { limiting with
        throttles := limiting.throttles ++ [⟨providerName, limit, .iterating⟩] } := by
    simp only [RateLimiting.step, accepted]
  have calls := forall₂_concat same.calls
    (show WaitingCall.Matches ⟨providerName, limit, .iterating⟩
      ⟨providerName, limit, waiting.now, .ready, [], []⟩ from ⟨rfl, rfl, rfl⟩)
  exact ⟨_, Reaches.refl.step trivial stepped, same.now, same.redis, calls⟩

theorem Matches.runScript (same : Matches limiting waiting)
    (found : waiting.calls[index]? = some call) {bucket : Nat}
    (incrementing : call.state = .incrementing bucket)
    (current : bucket = waiting.now / call.limit.durationMs) (lost : Bool) :
    ∃ next, Reaches (RateLimiting.step config) (fun _ _ => True) limiting next ∧
      Matches next (waiting.runScript index call bucket lost) := by
  obtain ⟨throttle, present, matched⟩ := same.getElem? found
  have unsettled := matched.unsettled incrementing
  have stepped : RateLimiting.step config limiting
      (.iterate index (if lost then .lost else .answered)) =
        some (limiting.iterated index throttle lost) := by
    cases lost <;> simp [RateLimiting.step, present, unsettled]
  obtain ⟨now, redis, throttles, increments⟩ := limiting
  obtain ⟨rfl, rfl, calls⟩ := same
  obtain ⟨counted, iterated⟩ := matched.increment waiting.redis lost current
  exact ⟨_, Reaches.refl.step trivial stepped, rfl, counted, forall₂_set calls index iterated⟩

theorem Matches.rejected (same : Matches limiting waiting)
    (found : waiting.calls[index]? = some call) {bucket : Nat}
    (incrementing : call.state = .incrementing bucket) :
    ∃ next, Reaches (RateLimiting.step config) (fun _ _ => True) limiting next ∧
      Matches next (waiting.setCall index { call with state := .rejected }) := by
  obtain ⟨throttle, present, matched⟩ := same.getElem? found
  have unsettled := matched.unsettled incrementing
  have stepped : RateLimiting.step config limiting (.iterate index .rejected) =
      some { limiting with
        throttles := limiting.throttles.set index { throttle with state := .rejected } } := by
    simp [RateLimiting.step, present, unsettled]
  exact ⟨_, Reaches.refl.step trivial stepped, same.now, same.redis,
    forall₂_set same.calls index ⟨matched.providerName, matched.limit, rfl⟩⟩

theorem Matches.step (same : Matches limiting waiting) {event : Event}
    (inTime : CountsInTime waiting event) (stepped : step config waiting event = some following) :
    ∃ next, Reaches (RateLimiting.step config) (fun _ _ => True) limiting next ∧
      Matches next following := by
  cases event with
  | throttle providerName =>
      simp only [Waiting.step] at stepped
      cases accepted : getLimitConfig config providerName with
      | ok limit =>
          simp only [accepted, Option.some.injEq] at stepped
          exact stepped ▸ same.throttle accepted
      | error error =>
          simp only [accepted, Option.some.injEq] at stepped
          exact stepped ▸ ⟨limiting, .refl, same⟩
  | readClock index =>
      obtain ⟨call, found, stepped⟩ := Option.bind_eq_some_iff.mp stepped
      obtain ⟨reads, moved⟩ := Option.ite_none_right_eq_some.mp stepped
      obtain ⟨throttle, present, matched⟩ := same.getElem? found
      rw [← Option.some.inj moved]
      exact same.unseen present (matched.readClock reads)
  | increment index reply =>
      obtain ⟨call, found, stepped⟩ := Option.bind_eq_some_iff.mp stepped
      split at stepped
      next bucket incrementing _ =>
        rw [← Option.some.inj stepped]
        exact same.runScript found incrementing (inTime call bucket found incrementing) false
      next bucket incrementing _ =>
        rw [← Option.some.inj stepped]
        exact same.runScript found incrementing (inTime call bucket found incrementing) true
      next bucket incrementing _ =>
        rw [← Option.some.inj stepped]
        exact same.rejected found incrementing
      next => simp at stepped
  | receive index =>
      obtain ⟨call, found, stepped⟩ := Option.bind_eq_some_iff.mp stepped
      split at stepped
      next counter answered =>
        obtain ⟨throttle, present, matched⟩ := same.getElem? found
        rw [← Option.some.inj stepped]
        exact same.unseen present (matched.receive answered)
      next => simp at stepped
  | tick milliseconds =>
      simp only [Waiting.step, Option.some.injEq] at stepped
      rw [← stepped]
      have ticked : RateLimiting.step config limiting (.tick milliseconds) =
          some { limiting with now := limiting.now + milliseconds } := rfl
      exact ⟨_, Reaches.refl.step trivial ticked, congrArg (· + milliseconds) same.now,
        same.redis, same.calls⟩

/-- Where every script runs in the window that its call has read, an iteration may as well be one
step, whatever comes between its steps. -/
theorem countsInTime_refines {start : Nat}
    (reaches : Reaches (step config) CountsInTime (initial start) waiting) :
    ∃ limiting, Reaches (RateLimiting.step config) (fun _ _ => True) (.initial start) limiting ∧
      Matches limiting waiting :=
  reaches.simulate (fun waiting limiting => Matches limiting waiting) ⟨rfl, rfl, .nil⟩
    fun _ _ _ _ same inTime stepped => same.step inTime stepped

/-- Each iteration of a call is in a later bucket than the one before, so it counts at most once in
each, and iterates no more often than there were buckets since it started. -/
theorem throttle_outwaits_buckets {start : Nat}
    (reaches : Reaches (step config) (fun _ _ => True) (initial start) waiting)
    (member : call ∈ waiting.calls) (timed : call.limit.durationMs ≤ 2 ^ 31 - 1) :
    call.buckets.Pairwise (· < ·) ∧ (∀ key, call.increments.count key ≤ 1) ∧
      call.buckets.length ≤
        waiting.now / call.limit.durationMs - call.startedAt / call.limit.durationMs + 1 := by
  have sound : Sound config waiting := reaches.invariant (Sound config) (initial_sound start)
    fun _ _ _ sound _ stepped => step_sound sound stepped
  have waits := sound.calls call member
  have increasing := waits.increasing timed
  have distinct : call.buckets.Nodup := increasing.imp Nat.ne_of_lt
  refine ⟨increasing, ?_, ?_⟩
  · have injective : Function.Injective call.key := fun _ _ same => (rateLimitKey_inj same).2
    have keys : (call.buckets.map call.key).Nodup := List.Nodup.map injective distinct
    exact List.nodup_iff_count_le_one.mp (keys.sublist waits.incremented)
  · have since : call.buckets ⊆ List.range' (call.startedAt / call.limit.durationMs)
        (waiting.now / call.limit.durationMs + 1 - call.startedAt / call.limit.durationMs) := by
      intro bucket member
      have within := waits.within bucket member
      rw [List.mem_range'_1]
      omega
    have counted := (List.Nodup.subperm distinct since).length_le
    rw [List.length_range'] at counted
    omega

/-- Two calls in the second half of a window: the second one sleeps, and goes on in the next one. -/
theorem throttle_outwaits_buckets_twice : ∃ waiting call,
    Reaches (step RateLimiting.oncePerSecond) (fun _ _ => True) (initial 1500) waiting ∧
      call ∈ waiting.calls ∧ call.buckets = [1, 2] ∧ call.increments.length = 2 ∧
      call.buckets.Pairwise (· < ·) ∧ ∀ key, call.increments.count key ≤ 1 := by
  obtain ⟨waiting, reaches, found⟩ := execute_exists (step RateLimiting.oncePerSecond)
    (fun _ _ => True) (initial 1500)
    [.throttle "twilio", .throttle "twilio", .readClock 0, .tick 1, .readClock 1, .tick 1,
      .increment 0 .answered, .increment 1 .answered, .tick 1, .receive 1, .receive 0, .tick 1000,
      .readClock 1, .increment 1 .answered, .receive 1]
    (fun waiting => waiting.calls.any fun call => call.buckets = [1, 2] &&
      call.increments.length = 2 && call.limit.durationMs = 1000)
    (by decide +kernel)
  simp only [List.any_eq_true, Bool.and_eq_true, decide_eq_true_eq] at found
  obtain ⟨call, member, ⟨buckets, increments⟩, duration⟩ := found
  obtain ⟨increasing, once, _⟩ := throttle_outwaits_buckets reaches member (by omega)
  exact ⟨waiting, call, reaches, member, buckets, increments, increasing, once⟩

end Waiting

end SmsNotification
