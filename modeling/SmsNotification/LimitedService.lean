import Mathlib.Algebra.Order.BigOperators.Group.Finset
import SmsNotification.Concurrency.Delegation
import SmsNotification.ProviderCalls
import SmsNotification.RateLimitSafety

/-!
The service with its rate limiter. A process that awaits the limiter is answered when its own call of
`throttle` returns, which counts in Redis and sleeps until its increment fits a window. All calls of a
provider together then stay within its limit for the time that has passed, provided that no time
passes between an iteration's reading of the clock and its increment.
-/

namespace SmsNotification

open Concurrency

def ThrottleState.choice (message : Option String) : ThrottleState → Option Choice
  | returned _ => some (.answered {})
  | rejected => some (.rejected message)
  | _ => none

def Op.isThrottle : Op → Bool
  | throttle _ => true
  | _ => false

structure LimitedService where
  service : Service
  limiting : RateLimiting
  /-- The process behind each call of `throttle`. -/
  callers : List Nat
  /-- The calls whose outcome has reached their process. -/
  received : List Nat

namespace LimitedService

def initial (start : Nat) : LimitedService where
  service := .initial
  limiting := .initial start
  callers := []
  received := []

/-- A process that awaits the limiter calls it, the call iterates, and the process learns how it
settled. Everything else of the service and the clock go on as before. -/
inductive Event
  | inner (event : Service.Event)
  | throttle (pid : Nat)
  | iterate (index : Nat) (reply : RateLimiting.Reply)
  | receive (index : Nat) (message : Option String)
  | tick (milliseconds : Nat)

def answersThrottle (service : Service) : Service.Event → Bool
  | .resume pid _ => (service.awaits pid).any Op.isThrottle
  | _ => false

def isThrottling (limited : LimitedService) (pid : Nat) : Bool :=
  isCalling limited.callers limited.received pid

def step (configService : ConfigService) (config : Config) (limited : LimitedService) :
    Event → Option LimitedService
  | .inner event => do
      if answersThrottle limited.service event then none
      else
        let service ← limited.service.step config event
        some { limited with service := service }
  | .throttle pid =>
      match limited.service.awaits pid with
      | some (.throttle providerName) =>
          if limited.isThrottling pid then none
          else match getLimitConfig configService providerName with
            -- the limits of all providers are checked when the process starts
            | .error _ => none
            | .ok _ => do
                let limiting ← limited.limiting.step configService (.throttle providerName)
                some { limited with limiting := limiting, callers := limited.callers ++ [pid] }
      | _ => none
  | .iterate index reply => do
      let limiting ← limited.limiting.step configService (.iterate index reply)
      some { limited with limiting := limiting }
  | .receive index message => do
      let pid ← limited.callers[index]?
      let throttle ← limited.limiting.throttles[index]?
      let choice ← throttle.state.choice message
      if limited.received.contains index then none
      else
        let service ← limited.service.step config (.resume pid choice)
        some { limited with service := service, received := index :: limited.received }
  | .tick milliseconds => do
      let limiting ← limited.limiting.step configService (.tick milliseconds)
      some { limited with limiting := limiting }

inductive Moves (configService : ConfigService) (config : Config) (limited : LimitedService) :
    LimitedService → Prop
  | inner {event : Service.Event} {service : Service} :
      answersThrottle limited.service event = false →
      limited.service.step config event = some service →
      Moves configService config limited { limited with service := service }
  | throttle {pid : Nat} {providerName : String} {limit : ProviderRateLimitConfig} :
      limited.service.awaits pid = some (.throttle providerName) →
      limited.isThrottling pid = false → getLimitConfig configService providerName = .ok limit →
      Moves configService config limited { limited with
        limiting := { limited.limiting with
          throttles := limited.limiting.throttles ++ [⟨providerName, limit, .iterating⟩] }
        callers := limited.callers ++ [pid] }
  | limiting {event : RateLimiting.Event} {limiting : RateLimiting} :
      (∀ providerName, event ≠ .throttle providerName) →
      limited.limiting.step configService event = some limiting →
      Moves configService config limited { limited with limiting := limiting }
  | receive {index pid : Nat} {throttle : Throttle} {message : Option String} {choice : Choice}
      {service : Service} : limited.callers[index]? = some pid →
      limited.limiting.throttles[index]? = some throttle →
      throttle.state.choice message = some choice → index ∉ limited.received →
      limited.service.step config (.resume pid choice) = some service →
      Moves configService config limited
        { limited with service := service, received := index :: limited.received }

variable {configService : ConfigService} {config : Config} {limited following : LimitedService}

theorem step_moves {event : Event}
    (stepped : limited.step configService config event = some following) :
    Moves configService config limited following := by
  cases event with
  | inner event =>
      simp only [step] at stepped
      split at stepped
      · cases stepped
      · rename_i other
        obtain ⟨service, moved, same⟩ := Option.bind_eq_some_iff.mp stepped
        cases same
        exact .inner (by simpa using other) moved
  | throttle pid =>
      simp only [step] at stepped
      split at stepped
      · rename_i providerName awaits
        split at stepped
        · cases stepped
        · rename_i free
          split at stepped
          · cases stepped
          · rename_i limit accepted
            simp only [RateLimiting.step, accepted] at stepped
            cases stepped
            exact .throttle awaits (by simpa using free) accepted
      · cases stepped
  | iterate index reply =>
      obtain ⟨limiting, moved, same⟩ := Option.bind_eq_some_iff.mp stepped
      cases same
      exact .limiting (by simp) moved
  | tick milliseconds =>
      have moved : limited.limiting.step configService (.tick milliseconds) =
          some { limited.limiting with now := limited.limiting.now + milliseconds } := rfl
      cases stepped
      exact .limiting (by simp) moved
  | receive index message =>
      obtain ⟨pid, called, stepped⟩ := Option.bind_eq_some_iff.mp stepped
      obtain ⟨throttle, found, stepped⟩ := Option.bind_eq_some_iff.mp stepped
      obtain ⟨choice, settled, stepped⟩ := Option.bind_eq_some_iff.mp stepped
      split at stepped
      · cases stepped
      · rename_i fresh
        obtain ⟨service, moved, same⟩ := Option.bind_eq_some_iff.mp stepped
        cases same
        exact .receive called found settled (by simpa using fresh) moved

theorem refines_service {start : Nat}
    (reaches : Reaches (step configService config) (fun _ _ => True) (initial start) limited) :
    Reaches (Service.step config) (fun _ _ => True) Service.initial limited.service := by
  have simulated : ∃ service, Reaches (Service.step config) (fun _ _ => True) Service.initial
      service ∧ limited.service = service := by
    apply reaches.simulate (fun limited service => limited.service = service) rfl
    rintro limited event following _ rfl _ stepped
    refine ⟨following.service, ?_, rfl⟩
    cases step_moves stepped with
    | inner _ moved => exact .step .refl trivial moved
    | throttle => exact .refl
    | limiting => exact .refl
    | receive _ _ _ _ moved => exact .step .refl trivial moved
  obtain ⟨service, run, rfl⟩ := simulated
  exact run

def permits (providerName : String) (entry : Entry Op Op.Reply Failure) : Bool :=
  entry.op.turns entry.reply = some (.permitted providerName)

def hasReturned (providerName : String) (throttle : Throttle) : Bool :=
  throttle.providerName = providerName && throttle.state.returnedAt.isSome

section Limiter

variable {limiting limiting' : RateLimiting} {event : RateLimiting.Event}

theorem limiter_keeps (other : ∀ providerName, event ≠ .throttle providerName)
    (stepped : limiting.step configService event = some limiting') :
    limiting'.throttles.length = limiting.throttles.length ∧
      ∀ (index : Nat) (throttle : Throttle), limiting.throttles[index]? = some throttle →
        ∃ throttle', limiting'.throttles[index]? = some throttle' ∧
          throttle'.providerName = throttle.providerName ∧
          (throttle.state.isSettled = true → throttle' = throttle) := by
  have replaced : ∀ (at' : Nat) (old new : Throttle),
      limiting.throttles[at']? = some old → old.state.isSettled = false →
      new.providerName = old.providerName →
      ∀ (index : Nat) (throttle : Throttle), limiting.throttles[index]? = some throttle →
        ∃ throttle', (limiting.throttles.set at' new)[index]? = some throttle' ∧
          throttle'.providerName = throttle.providerName ∧
          (throttle.state.isSettled = true → throttle' = throttle) := by
    intro at' old new found running same index throttle present
    by_cases here : at' = index
    · subst here
      obtain rfl := Option.some.inj (found.symm.trans present)
      have below := (List.getElem?_eq_some_iff.mp found).1
      exact ⟨new, by simp [below], same, by simp [running]⟩
    · exact ⟨throttle, by rw [List.getElem?_set_ne here, present], rfl, fun _ => rfl⟩
  cases event with
  | throttle providerName => exact absurd rfl (other providerName)
  | tick milliseconds =>
      cases stepped
      exact ⟨rfl, fun index throttle found => ⟨throttle, found, rfl, fun _ => rfl⟩⟩
  | iterate at' reply =>
      obtain ⟨old, found, stepped⟩ := Option.bind_eq_some_iff.mp stepped
      by_cases settled : old.state.isSettled = true
      · simp [settled] at stepped
      have running : old.state.isSettled = false := by simpa using settled
      simp only [running, Bool.false_eq_true, if_false] at stepped
      cases reply <;> cases stepped <;>
        exact ⟨List.length_set, replaced at' old _ found running rfl⟩

structure Timed (start : Nat) (limiting : RateLimiting) : Prop where
  clock : start ≤ limiting.now
  times : ∀ throttle ∈ limiting.throttles, ∀ time, throttle.state.returnedAt = some time →
    start ≤ time ∧ time ≤ limiting.now

theorem limiter_timed {start : Nat} (timed : Timed start limiting)
    (stepped : limiting.step configService event = some limiting') : Timed start limiting' := by
  obtain ⟨clock, times⟩ := timed
  cases event with
  | throttle providerName =>
      simp only [RateLimiting.step] at stepped
      split at stepped <;> cases stepped
      · constructor
        · exact clock
        · intro throttle member time returned
          rcases List.mem_append.mp member with earlier | new
          · exact times throttle earlier time returned
          · obtain rfl := List.mem_singleton.mp new
            cases returned
      · exact ⟨clock, times⟩
  | tick milliseconds =>
      cases stepped
      constructor
      · simp only
        omega
      · intro throttle member time returned
        have before := times throttle member time returned
        simp only
        omega
  | iterate index reply =>
      obtain ⟨old, found, stepped⟩ := Option.bind_eq_some_iff.mp stepped
      by_cases settled : old.state.isSettled = true
      · simp [settled] at stepped
      have running : old.state.isSettled = false := by simpa using settled
      simp only [running, Bool.false_eq_true, if_false] at stepped
      have replaced : ∀ state : ThrottleState,
          (∀ time, state.returnedAt = some time → time = limiting.now) →
          ∀ throttle ∈ limiting.throttles.set index { old with state := state }, ∀ time,
            throttle.state.returnedAt = some time → start ≤ time ∧ time ≤ limiting.now := by
        intro state now throttle member time returned
        rcases List.mem_or_eq_of_mem_set member with kept | rfl
        · exact times throttle kept time returned
        · have same := now time returned
          omega
      cases reply <;> cases stepped
      · refine ⟨clock, replaced _ ?_⟩
        intro time returned
        rw [if_neg (by decide), RateLimiting.Throttle.iterate_returnedAt] at returned
        split at returned <;> cases returned
        rfl
      · exact ⟨clock, replaced _ (by simp [ThrottleState.returnedAt])⟩
      · exact ⟨clock, replaced _ (by simp [ThrottleState.returnedAt])⟩

end Limiter

section Service

variable {service service' : Service} {event : Service.Event}

theorem other_keeps (other : answersThrottle service event = false)
    (stepped : service.step config event = some service') :
    (∀ pid providerName, service.awaits pid = some (.throttle providerName) →
      service'.awaits pid = some (.throttle providerName)) ∧
    ∀ providerName, service'.history.countP (permits providerName) =
      service.history.countP (permits providerName) := by
  have moved : Pool.Steps (Service.system config
      (fun service pid _ => (service.awaits pid).any Op.isThrottle = false) fun _ _ => True)
      service service' := by
    apply Service.steps stepped
    · rintro pid choice rfl
      exact other
    · exact fun _ _ => trivial
  obtain ⟨awaits, history⟩ := moved.undelegated fun pid choice admitted => admitted
  refine ⟨fun pid providerName => awaits pid _ rfl, ?_⟩
  intro providerName
  rcases history with same | ⟨entry, idle, added⟩
  · rw [same]
  · have unrelated : permits providerName entry = false := by
      obtain ⟨at', op, reply, effective⟩ := entry
      cases op with
      | throttle => cases idle
      | update statement => cases statement <;> cases reply <;> simp [permits, Op.turns]
      | _ => simp [permits, Op.turns]
    simp [added, unrelated]

theorem throttle_answered {pid : Nat} {choice : Choice} {providerName : String}
    (awaits : service.awaits pid = some (.throttle providerName))
    (stepped : service.step config (.resume pid choice) = some service') :
    (∀ other, other ≠ pid → service'.awaits other = service.awaits other) ∧
    ∀ other, service'.history.countP (permits other) = service.history.countP (permits other) +
      if other = providerName ∧ choice.isAnswered = true then 1 else 0 := by
  obtain ⟨others, completion, executed, _, history⟩ := Pool.resume_awaits stepped awaits
  refine ⟨others, ?_⟩
  · intro other
    rw [history, List.countP_append, List.countP_singleton]
    congr 1
    cases choice with
    | answered hint =>
        simp only [World.exec, World.perform, Option.some.injEq] at executed
        subst executed
        by_cases same : other = providerName
        · simp [permits, Op.turns, Choice.isAnswered, same]
        · simp [permits, Op.turns, Choice.isAnswered, same, Ne.symm same]
    | rejected message =>
        simp only [World.exec, Op.fallible, if_true, Option.some.injEq] at executed
        subst executed
        simp [permits, Op.turns, Choice.isAnswered]
    | lost hint message =>
        simp only [World.exec, Op.fallible, if_true, World.perform, Option.map_some,
          Option.some.injEq] at executed
        subst executed
        simp [permits, Op.turns, Choice.isAnswered]

end Service

def asks (limited : LimitedService) (index : Nat) : Option Op :=
  limited.limiting.throttles[index]?.map fun throttle => .throttle throttle.providerName

/-- Every permission in the history was received from a call of its own that had returned. -/
structure Sound (configService : ConfigService) (start : Nat) (limited : LimitedService) :
    Prop where
  counted : RateLimiting.Counted configService limited.limiting
  timed : Timed start limited.limiting
  callers : limited.callers.length = limited.limiting.throttles.length
  linked : Linked limited.service.awaits limited.asks limited.callers limited.received
  distinct : limited.received.Nodup
  settled : ∀ index ∈ limited.received, ∃ throttle,
    limited.limiting.throttles[index]? = some throttle ∧ throttle.state.isSettled = true
  permitted : ∀ providerName, limited.service.history.countP (permits providerName) ≤
    limited.received.countP fun index =>
      limited.limiting.throttles[index]?.any (hasReturned providerName)

theorem initial_sound (start : Nat) : Sound configService start (initial start) where
  counted := RateLimiting.initial_counted start
  timed := ⟨le_rfl, by simp [initial, RateLimiting.initial]⟩
  callers := rfl
  linked := .nil
  distinct := List.nodup_nil
  settled := by simp [initial]
  permitted := by simp [initial, Service.initial]

theorem Sound.moves {start : Nat} (sound : Sound configService start limited)
    (moves : Moves configService config limited following) :
    Sound configService start following := by
  cases moves with
  | inner other stepped =>
      obtain ⟨awaits, permissions⟩ := other_keeps other stepped
      exact {
        counted := sound.counted
        timed := sound.timed
        callers := sound.callers
        linked := by
          apply sound.linked.mono fun _ _ asked => asked
          intro index pid op _ _ asked
          obtain ⟨throttle, _, rfl⟩ := Option.map_eq_some_iff.mp asked
          exact awaits pid throttle.providerName
        distinct := sound.distinct
        settled := sound.settled
        permitted := by
          intro providerName
          simp only [permissions]
          exact sound.permitted providerName }
  | @throttle pid providerName limit awaits free accepted =>
      have started : limited.limiting.step configService (.throttle providerName) = some
          { limited.limiting with
            throttles := limited.limiting.throttles ++ [⟨providerName, limit, .iterating⟩] } := by
        simp [RateLimiting.step, accepted]
      have kept : ∀ (index : Nat) (throttle : Throttle),
          limited.limiting.throttles[index]? = some throttle →
          (limited.limiting.throttles ++ [⟨providerName, limit, .iterating⟩])[index]? =
            some throttle := by
        intro index throttle found
        rw [List.getElem?_append_left (List.getElem?_eq_some_iff.mp found).1]
        exact found
      exact {
        counted := sound.counted.started accepted
        timed := limiter_timed sound.timed started
        callers := by simp [sound.callers]
        linked := by
          apply sound.linked.call free awaits
          · intro index op asked
            obtain ⟨throttle, found, rfl⟩ := Option.map_eq_some_iff.mp asked
            simp only [asks, kept index throttle found, Option.map_some]
          · simp [asks, sound.callers]
        distinct := sound.distinct
        settled := by
          intro index member
          obtain ⟨throttle, found, settled⟩ := sound.settled index member
          exact ⟨throttle, kept index throttle found, settled⟩
        permitted := by
          intro other
          apply (sound.permitted other).trans
          apply List.countP_mono_left
          intro index member returned
          obtain ⟨throttle, found, _⟩ := sound.settled index member
          rw [found] at returned
          simp only [kept index throttle found]
          exact returned }
  | limiting other stepped =>
      obtain ⟨length, keeps⟩ := limiter_keeps other stepped
      exact {
        counted := RateLimiting.step_counted sound.counted stepped
        timed := limiter_timed sound.timed stepped
        callers := sound.callers.trans length.symm
        linked := by
          apply sound.linked.mono
          · intro index op asked
            obtain ⟨throttle, found, rfl⟩ := Option.map_eq_some_iff.mp asked
            obtain ⟨throttle', found', same, _⟩ := keeps index throttle found
            simp only [asks, found', Option.map_some, same]
          · exact fun _ _ _ _ _ _ awaits => awaits
        distinct := sound.distinct
        settled := by
          intro index member
          obtain ⟨throttle, found, settled⟩ := sound.settled index member
          obtain ⟨throttle', found', _, same⟩ := keeps index throttle found
          exact ⟨throttle', found', (same settled).symm ▸ settled⟩
        permitted := by
          intro other
          apply (sound.permitted other).trans
          apply List.countP_mono_left
          intro index member returned
          obtain ⟨throttle, found, settled⟩ := sound.settled index member
          obtain ⟨throttle', found', _, same⟩ := keeps index throttle found
          rw [found] at returned
          rw [found', same settled]
          exact returned }
  | @receive index pid throttle message choice service called found settles fresh stepped =>
      obtain ⟨op, asked, waiting⟩ := sound.linked.waits index pid called fresh
      simp only [asks, found, Option.map_some, Option.some.injEq] at asked
      subst asked
      obtain ⟨others, permissions⟩ := throttle_answered waiting stepped
      exact {
        counted := sound.counted
        timed := sound.timed
        callers := sound.callers
        linked := sound.linked.receive called fresh others
        distinct := List.nodup_cons.mpr ⟨fresh, sound.distinct⟩
        settled := by
          intro other member
          rcases List.mem_cons.mp member with rfl | earlier
          · refine ⟨throttle, found, ?_⟩
            cases state : throttle.state <;> simp_all [ThrottleState.choice, ThrottleState.isSettled]
          · exact sound.settled other earlier
        permitted := by
          intro other
          have before := sound.permitted other
          simp only [permissions, List.countP_cons, found, Option.any_some]
          by_cases answer : other = throttle.providerName ∧ choice.isAnswered = true
          · have returned : hasReturned other throttle = true := by
              cases state : throttle.state <;>
                simp_all [ThrottleState.choice, hasReturned, ThrottleState.returnedAt]
              obtain rfl := settles
              simp [Choice.isAnswered] at answer
            rw [if_pos answer, if_pos returned]
            omega
          · rw [if_neg answer]
            omega }

theorem returned_le_windows {start : Nat} {limiting : RateLimiting} {providerName : String}
    {limit : ProviderRateLimitConfig} (counted : RateLimiting.Counted configService limiting)
    (timed : Timed start limiting)
    (accepted : getLimitConfig configService providerName = .ok limit) :
    limiting.throttles.countP (hasReturned providerName) ≤
      (limiting.now / limit.durationMs + 1 - start / limit.durationMs) * limit.max := by
  have bucket : ∀ number, limiting.returns providerName
      (fun time => time / limit.durationMs = number) ≤ limit.max := by
    intro number
    have admitted := counted.admitted providerName limit number accepted
    have limited : (FixedWindow.admitted (RateLimiting.limits configService)
        limiting.increments).countP (FixedWindow.Arrival.isIn providerName
          (RateLimiting.limits configService providerName).length number) ≤
            (RateLimiting.limits configService providerName).max := FixedWindow.admitted_le number
    rw [RateLimiting.limits_eq accepted] at limited
    exact admitted.trans limited
  have window : ∀ throttle : Throttle, hasReturned providerName throttle = true →
      throttle ∈ limiting.throttles → ∃ time, throttle.state.returnedAt = some time ∧
        start / limit.durationMs ≤ time / limit.durationMs ∧
          time / limit.durationMs ≤ limiting.now / limit.durationMs := by
    intro throttle returned member
    simp only [hasReturned, Bool.and_eq_true] at returned
    obtain ⟨time, at'⟩ := Option.isSome_iff_exists.mp returned.2
    obtain ⟨after, before⟩ := timed.times throttle member time at'
    exact ⟨time, at', Nat.div_le_div_right after, Nat.div_le_div_right before⟩
  have numbers : ∀ throttle ∈ limiting.throttles.filter (hasReturned providerName),
      throttle.state.returnedAt.getD 0 / limit.durationMs - start / limit.durationMs <
        limiting.now / limit.durationMs + 1 - start / limit.durationMs := by
    intro throttle member
    obtain ⟨member, returned⟩ := List.mem_filter.mp member
    obtain ⟨time, at', after, before⟩ := window throttle returned member
    rw [at', Option.getD_some]
    omega
  have spread := countP_eq_sum_fibers _ _ (fun _ => true) numbers
  rw [List.countP_true, ← List.countP_eq_length_filter] at spread
  have each : ∀ number : Nat, ((limiting.throttles.filter (hasReturned providerName)).filter
      fun throttle => throttle.state.returnedAt.getD 0 / limit.durationMs -
        start / limit.durationMs = number).length ≤ limit.max := by
    intro number
    apply le_trans _ (bucket (start / limit.durationMs + number))
    rw [← List.countP_eq_length_filter, List.countP_filter, RateLimiting.returns]
    apply List.countP_mono_left
    intro throttle member holds
    simp only [Bool.and_eq_true, decide_eq_true_eq] at holds
    obtain ⟨time, at', after, _⟩ := window throttle holds.2 member
    have numbered := holds.1
    rw [at', Option.getD_some] at numbered
    have name : throttle.providerName = providerName := by
      simpa [at', hasReturned] using holds.2
    simp only [name, at', Option.any_some, decide_true, Bool.true_and, decide_eq_true_eq]
    omega
  calc limiting.throttles.countP (hasReturned providerName) = _ := spread
    _ ≤ ∑ _ ∈ Finset.range (limiting.now / limit.durationMs + 1 - start / limit.durationMs),
        limit.max := Finset.sum_le_sum fun number _ => each number
    _ = _ := by simp

theorem sound_reached {start : Nat}
    (reaches : Reaches (step configService config) (fun _ _ => True) (initial start) limited) :
    Sound configService start limited :=
  reaches.invariant (Sound configService start) (initial_sound start)
    fun _ _ _ sound _ stepped => sound.moves (step_moves stepped)

theorem permissions_within_limits {start : Nat} {providerName : String}
    {limit : ProviderRateLimitConfig}
    (reaches : Reaches (step configService config) (fun _ _ => True) (initial start) limited)
    (accepted : getLimitConfig configService providerName = .ok limit) :
    limited.service.history.countP (permits providerName) ≤
      (limited.limiting.now / limit.durationMs + 1 - start / limit.durationMs) * limit.max := by
  have sound := sound_reached reaches
  calc limited.service.history.countP (permits providerName)
      ≤ _ := sound.permitted providerName
    _ ≤ _ := countP_positions_le limited.limiting.throttles (hasReturned providerName)
        sound.distinct
    _ ≤ _ := returned_le_windows sound.counted sound.timed accepted

/-- Since the start a provider has been called no more often than its limit allows for as many
windows as have begun, if every iteration of `throttle` counts in the instant of its clock. -/
theorem calls_within_limits {start : Nat} {providerName : String} {limit : ProviderRateLimitConfig}
    (reaches : Reaches (step configService config) (fun _ _ => True) (initial start) limited)
    (accepted : getLimitConfig configService providerName = .ok limit) :
    limited.service.history.countP
        (fun entry => entry.op.takes = some (.permitted providerName)) ≤
      (limited.limiting.now / limit.durationMs + 1 - start / limit.durationMs) * limit.max := by
  have balance := Discipline.obligations_balance (Service.turns_reached (refines_service reaches))
    (.permitted providerName)
  have permitted : limited.service.history.countP
      (fun entry => entry.op.turns entry.reply = some (.permitted providerName)) ≤ _ :=
    permissions_within_limits reaches accepted
  omega

/-- The one provider call of a dispatch, in the first window. -/
theorem calls_within_limits_once : ∃ (limited : LimitedService)
    (limit : ProviderRateLimitConfig),
    getLimitConfig RateLimiting.oncePerSecond "twilio" = .ok limit ∧
    limited.service.history.countP
      (fun entry => entry.op.takes = some (.permitted "twilio")) = 1 ∧
    1 ≤ (limited.limiting.now / limit.durationMs + 1 - 1500 / limit.durationMs) * limit.max := by
  have accepted : getLimitConfig RateLimiting.oncePerSecond "twilio" =
      .ok { max := 1, durationMs := 1000, max_pos := le_rfl, durationMs_pos := by decide } :=
    rfl
  obtain ⟨limited, reaches, found⟩ := execute_exists
    (step RateLimiting.oncePerSecond (.defaults ["twilio"])) (fun _ _ => True) (initial 1500)
    (((Service.Event.sends "key" :: Service.Event.answers 0 6) ++
        .execute 0 :: Service.Event.answers 1 3).map .inner ++
      [.throttle 1, .iterate 0 .answered, .receive 0 none, .inner (.resume 1 (.answered {}))])
    (fun limited => limited.service.history.countP
      (fun entry => entry.op.takes = some (.permitted "twilio")) == 1)
    (by decide)
  have once : limited.service.history.countP
      (fun entry => entry.op.takes = some (.permitted "twilio")) = 1 := by simpa using found
  have within := calls_within_limits reaches accepted
  rw [once] at within
  exact ⟨limited, _, accepted, once, within⟩

end LimitedService

end SmsNotification
