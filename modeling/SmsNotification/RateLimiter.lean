import Mathlib.Algebra.Order.Field.Rat
import Mathlib.Logic.Function.Basic
import SmsNotification.Concurrency.Pool
import SmsNotification.FixedWindow

/-!
`ProviderRateLimiterService` over `RedisRateLimitCounterStore`: the limits from the configuration,
the script that counts in Redis, and the calls of `throttle` from all workers as one system. The
clock is shared, and each iteration reads it and runs the script at one instant.
-/

namespace SmsNotification

open Concurrency

/-- What `configService.get` may yield: a number, `NaN` or an infinity, or no number at all. -/
inductive ConfigValue
  | number (value : Rat)
  | notFinite
  | notNumber

abbrev ConfigService := String → ConfigValue

structure RateLimitNotConfiguredError where
  providerName : String
  deriving DecidableEq

structure ProviderRateLimitConfig where
  max : Nat
  durationMs : Nat
  max_pos : 1 ≤ max
  durationMs_pos : 1 ≤ durationMs

/-- `isPositiveInteger`, with the integer it lets through. -/
def positiveInteger : ConfigValue → Option { value : Nat // 1 ≤ value }
  | .number value =>
      if positive : value.isInt = true ∧ 1 ≤ value.num.toNat then
        some ⟨value.num.toNat, positive.2⟩
      else none
  | _ => none

def getLimitConfig (config : ConfigService) (providerName : String) :
    Except RateLimitNotConfiguredError ProviderRateLimitConfig :=
  match positiveInteger (config ("providers." ++ providerName ++ ".rateLimitMax")),
    positiveInteger (config ("providers." ++ providerName ++ ".rateLimitDurationMs")) with
  | some max, some durationMs =>
      .ok { max := max.1, durationMs := durationMs.1, max_pos := max.2,
            durationMs_pos := durationMs.2 }
  | _, _ => .error ⟨providerName⟩

structure RedisKey where
  value : Nat
  deadline : Option Nat
  deriving DecidableEq

abbrev Redis := String → Option RedisKey

namespace Redis

/-- A key is gone from the very millisecond of its deadline on. -/
def get (redis : Redis) (now : Nat) (key : String) : Option RedisKey :=
  (redis key).filter fun entry => entry.deadline.all fun deadline => now < deadline

def incr (redis : Redis) (now : Nat) (key : String) : Nat × Redis :=
  match redis.get now key with
  | none => (1, Function.update redis key (some { value := 1, deadline := none }))
  | some entry => (entry.value + 1,
      Function.update redis key (some { entry with value := entry.value + 1 }))

def pexpire (redis : Redis) (now : Nat) (key : String) (milliseconds : Nat) : Redis :=
  match redis.get now key with
  | none => redis
  | some entry =>
      Function.update redis key (some { entry with deadline := some (now + milliseconds) })

/-- `-2` for a missing key and `-1` for one without a deadline. -/
def pttl (redis : Redis) (now : Nat) (key : String) : Int :=
  match redis.get now key with
  | none => -2
  | some entry => match entry.deadline with
      | none => -1
      | some deadline => deadline - now

end Redis

/-- `INCREMENT_WITH_TTL_SCRIPT`, which Redis runs as one command. -/
def incrementWithTtlScript (redis : Redis) (now : Nat) (key : String) (durationMs : Nat) :
    (Nat × Int) × Redis :=
  let (current, redis) := redis.incr now key
  let redis := if current = 1 then redis.pexpire now key durationMs else redis
  ((current, redis.pttl now key), redis)

structure RateLimitCounterResult where
  count : Nat
  ttlMs : Int
  deriving DecidableEq

def increment (redis : Redis) (now : Nat) (key : String) (durationMs : Nat) :
    RateLimitCounterResult × Redis :=
  let ((current, ttl), redis) := incrementWithTtlScript redis now key durationMs
  ({ count := current, ttlMs := max ttl 1 }, redis)

def rateLimitKey (providerName : String) (bucket : Nat) : String :=
  "sms:rate-limit:" ++ providerName ++ ":" ++ Nat.repr bucket

/-- Where a call of `throttle` is: before an iteration of its loop, which may follow a sleep, or
settled; `returned` keeps the time of the last increment. -/
inductive ThrottleState
  | iterating
  | sleeping (milliseconds : Int)
  | returned (time : Nat)
  | rejected
  deriving DecidableEq

structure Throttle where
  providerName : String
  limit : ProviderRateLimitConfig
  state : ThrottleState

def ThrottleState.isSettled : ThrottleState → Bool
  | returned _ => true
  | rejected => true
  | _ => false

def ThrottleState.returnedAt : ThrottleState → Option Nat
  | returned time => some time
  | _ => none

/-- One iteration of `while (true)` at the instant `now`. -/
def Throttle.iterate (throttle : Throttle) (redis : Redis) (now : Nat) : ThrottleState × Redis :=
  let bucket := now / throttle.limit.durationMs
  let key := rateLimitKey throttle.providerName bucket
  let (counter, redis) := increment redis now key throttle.limit.durationMs
  (if counter.count ≤ throttle.limit.max then .returned now else .sleeping counter.ttlMs, redis)

/-- All calls of `throttle`, from any number of workers, over one clock and one Redis. The
increments made so far are kept beside them, the newest first. -/
structure RateLimiting where
  now : Nat
  redis : Redis
  throttles : List Throttle
  increments : List (FixedWindow.Arrival String)

namespace RateLimiting

def initial (now : Nat) : RateLimiting where
  now := now
  redis _ := none
  throttles := []
  increments := []

/-- The script is answered, or fails before or after it took effect. -/
inductive Reply
  | answered
  | rejected
  | lost
  deriving DecidableEq

/-- A call starts, a call makes an iteration, or time passes. A sleep may end at any time. -/
inductive Event
  | throttle (providerName : String)
  | iterate (index : Nat) (reply : Reply)
  | tick (milliseconds : Nat)

def iterated (limiting : RateLimiting) (index : Nat) (throttle : Throttle) (lost : Bool) :
    RateLimiting where
  now := limiting.now
  redis := (throttle.iterate limiting.redis limiting.now).2
  throttles := limiting.throttles.set index { throttle with
    state := if lost then .rejected else (throttle.iterate limiting.redis limiting.now).1 }
  increments := ⟨throttle.providerName, limiting.now⟩ :: limiting.increments

def step (config : ConfigService) (limiting : RateLimiting) : Event → Option RateLimiting
  | .throttle providerName =>
      match getLimitConfig config providerName with
      | .ok limit => some { limiting with
          throttles := limiting.throttles ++ [⟨providerName, limit, .iterating⟩] }
      | .error _ => some limiting
  | .iterate index reply => do
      let throttle ← limiting.throttles[index]?
      if throttle.state.isSettled then none
      else match reply with
        | .answered => some (limiting.iterated index throttle false)
        | .lost => some (limiting.iterated index throttle true)
        | .rejected => some { limiting with
            throttles := limiting.throttles.set index { throttle with state := .rejected } }
  | .tick milliseconds => some { limiting with now := limiting.now + milliseconds }

def returns (limiting : RateLimiting) (providerName : String) (selected : Nat → Bool) : Nat :=
  limiting.throttles.countP fun throttle =>
    throttle.providerName = providerName && throttle.state.returnedAt.any selected

end RateLimiting

end SmsNotification
