import SmsNotification.RateLimiter

/-!
The rate limiter refines fixed-window limiting: a counter in Redis holds the increments of its
provider in its bucket, because it was created inside the bucket and lives for a whole window. A
call returns only if its increment is admitted.
-/

namespace SmsNotification

open Concurrency

theorem append_cons_inj {α : Type} {marker : α} {left left' right right' : List α}
    (absent : marker ∉ left) (absent' : marker ∉ left')
    (same : left ++ marker :: right = left' ++ marker :: right') : left = left' ∧ right = right' := by
  induction left generalizing left' with
  | nil =>
      cases left' with
      | nil => exact ⟨rfl, by simpa using same⟩
      | cons head tail =>
          obtain rfl : marker = head := by simpa using (List.cons.inj same).1
          simp at absent'
  | cons head tail ih =>
      cases left' with
      | nil =>
          obtain rfl : head = marker := by simpa using (List.cons.inj same).1
          simp at absent
      | cons head' tail' =>
          obtain ⟨rfl, rest⟩ := List.cons.inj same
          obtain ⟨rfl, sameRight⟩ := ih (fun member => absent (List.mem_cons_of_mem _ member))
            (fun member => absent' (List.mem_cons_of_mem _ member)) rest
          exact ⟨rfl, sameRight⟩

theorem colon_not_mem_toDigits (bucket : Nat) : ':' ∉ Nat.toDigits 10 bucket := by
  intro member
  have digit := Nat.isDigit_of_mem_toDigits (by decide) (by decide) member
  exact absurd digit (by decide)

theorem rateLimitKey_inj {provider provider' : String} {bucket bucket' : Nat}
    (same : rateLimitKey provider bucket = rateLimitKey provider' bucket') :
    provider = provider' ∧ bucket = bucket' := by
  have characters := congrArg String.toList same
  unfold rateLimitKey at characters
  simp only [String.toList_append, Nat.toList_repr, List.append_assoc] at characters
  have rest := List.append_cancel_left characters
  have reversed : (Nat.toDigits 10 bucket).reverse ++ ':' :: provider.toList.reverse =
      (Nat.toDigits 10 bucket').reverse ++ ':' :: provider'.toList.reverse := by
    simpa using congrArg List.reverse rest
  obtain ⟨digits, names⟩ := append_cons_inj
    (by simpa using colon_not_mem_toDigits bucket) (by simpa using colon_not_mem_toDigits bucket')
    reversed
  constructor
  · exact String.toList_injective (List.reverse_injective names)
  · have parsed := congrArg (fun digits => Nat.ofDigitChars 10 digits 0)
      (List.reverse_injective digits)
    simpa using parsed

namespace Redis

variable {redis : Redis} {now count ending : Nat} {key other : String}

/-- The key counts `count` increments and cannot expire before `ending`. -/
def Holds (redis : Redis) (key : String) (count ending : Nat) : Prop :=
  (count = 0 ∧ redis key = none) ∨
    0 < count ∧ ∃ deadline, redis key = some ⟨count, some deadline⟩ ∧ ending ≤ deadline

theorem incr_other (different : other ≠ key) : (redis.incr now key).2 other = redis other := by
  unfold incr
  split
  · exact Function.update_of_ne different _ _
  · exact Function.update_of_ne different _ _

theorem pexpire_other {milliseconds : Nat} (different : other ≠ key) :
    redis.pexpire now key milliseconds other = redis other := by
  unfold pexpire
  cases redis.get now key with
  | none => rfl
  | some entry => exact Function.update_of_ne different _ _

theorem increment_other {durationMs : Nat} (different : other ≠ key) :
    (increment redis now key durationMs).2 other = redis other := by
  simp only [increment, incrementWithTtlScript]
  split
  · rw [pexpire_other different, incr_other different]
  · exact incr_other different

theorem increment_spec {durationMs : Nat} (positive : 1 ≤ durationMs)
    (holds : redis.Holds key count ((now / durationMs + 1) * durationMs)) :
    (increment redis now key durationMs).1.count = count + 1 ∧
      (increment redis now key durationMs).2.Holds key (count + 1)
        ((now / durationMs + 1) * durationMs) := by
  have quotient := Nat.div_add_mod now durationMs
  have remainder := Nat.mod_lt now (show durationMs > 0 by omega)
  have next : (now / durationMs + 1) * durationMs = durationMs * (now / durationMs) + durationMs := by
    rw [Nat.add_mul, Nat.one_mul, Nat.mul_comm]
  rcases holds with ⟨rfl, absent⟩ | ⟨counted, deadline, present, later⟩
  · have missing : redis.get now key = none := by simp [Redis.get, absent]
    have created : Redis.get (Function.update redis key (some { value := 1, deadline := none }))
        now key = some { value := 1, deadline := none } := by
      simp [Redis.get]
    simp only [increment, incrementWithTtlScript, Redis.incr, missing, if_true, Redis.pexpire, created]
    exact ⟨trivial, Or.inr ⟨by omega, now + durationMs, by simp, by omega⟩⟩
  · have live : redis.get now key = some ⟨count, some deadline⟩ := by
      have before : now < deadline := by omega
      simp [Redis.get, present, before]
    have several : count + 1 ≠ 1 := by omega
    simp only [increment, incrementWithTtlScript, Redis.incr, live, if_neg several]
    exact ⟨trivial, Or.inr ⟨by omega, deadline, by simp, later⟩⟩

end Redis

namespace RateLimiting

variable {config : ConfigService} {limiting following : RateLimiting} {event : Event}

/-- The limits that the configuration gives each provider; one without limits admits nothing. -/
def limits (config : ConfigService) (providerName : String) : FixedWindow.Limit :=
  match getLimitConfig config providerName with
  | .ok limit => { max := limit.max, length := limit.durationMs, length_pos := limit.durationMs_pos }
  | .error _ => { max := 0, length := 1, length_pos := le_rfl }

theorem limits_eq {providerName : String} {limit : ProviderRateLimitConfig}
    (accepted : getLimitConfig config providerName = .ok limit) :
    limits config providerName =
      { max := limit.max, length := limit.durationMs, length_pos := limit.durationMs_pos } := by
  simp [limits, accepted]

def consumed (limiting : RateLimiting) (providerName : String) (durationMs bucket : Nat) : Nat :=
  limiting.increments.countP (FixedWindow.Arrival.isIn providerName durationMs bucket)

structure Counted (config : ConfigService) (limiting : RateLimiting) : Prop where
  configured : ∀ throttle ∈ limiting.throttles,
    getLimitConfig config throttle.providerName = .ok throttle.limit
  counters : ∀ providerName limit bucket, getLimitConfig config providerName = .ok limit →
    limiting.redis.Holds (rateLimitKey providerName bucket)
      (limiting.consumed providerName limit.durationMs bucket) ((bucket + 1) * limit.durationMs)
  admitted : ∀ providerName limit bucket, getLimitConfig config providerName = .ok limit →
    limiting.returns providerName (fun time => time / limit.durationMs = bucket) ≤
      (FixedWindow.admitted (limits config) limiting.increments).countP
        (FixedWindow.Arrival.isIn providerName limit.durationMs bucket)

theorem initial_counted (now : Nat) : Counted config (initial now) where
  configured := by simp [initial]
  counters := fun _ _ _ _ => Or.inl ⟨rfl, rfl⟩
  admitted := fun _ _ _ _ => Nat.zero_le _

theorem returns_set {index : Nat} {throttle : Throttle} {state : ThrottleState}
    (found : limiting.throttles[index]? = some throttle)
    (running : throttle.state.isSettled = false)
    (changed : following.throttles = limiting.throttles.set index { throttle with state := state })
    (providerName : String) (selected : Nat → Bool) :
    following.returns providerName selected = limiting.returns providerName selected +
      if throttle.providerName = providerName && state.returnedAt.any selected then 1 else 0 := by
  have moved := countP_set_add (y := { throttle with state := state })
    (fun throttle : Throttle =>
      throttle.providerName = providerName && throttle.state.returnedAt.any selected) found
  have unsettled : throttle.state.returnedAt = none := by
    cases state : throttle.state <;> simp_all [ThrottleState.isSettled, ThrottleState.returnedAt]
  simp only [unsettled, Option.any_none, Bool.and_false, Bool.false_eq_true, if_false,
    Nat.add_zero] at moved
  rw [returns, changed]
  exact moved

theorem Counted.started (counted : Counted config limiting) {providerName : String}
    {limit : ProviderRateLimitConfig} (accepted : getLimitConfig config providerName = .ok limit) :
    Counted config { limiting with
      throttles := limiting.throttles ++ [⟨providerName, limit, .iterating⟩] } where
  configured := by
    intro throttle member
    rcases List.mem_append.mp member with earlier | new
    · exact counted.configured throttle earlier
    · rw [List.mem_singleton.mp new]
      exact accepted
  counters := counted.counters
  admitted := by
    intro other limit' bucket accepted'
    have before := counted.admitted other limit' bucket accepted'
    simpa [returns, ThrottleState.returnedAt] using before

theorem Counted.rejected (counted : Counted config limiting) {index : Nat} {throttle : Throttle}
    (found : limiting.throttles[index]? = some throttle)
    (running : throttle.state.isSettled = false) :
    Counted config { limiting with
      throttles := limiting.throttles.set index { throttle with state := .rejected } } where
  configured := by
    intro other member
    rcases List.mem_or_eq_of_mem_set member with kept | rfl
    · exact counted.configured other kept
    · exact counted.configured throttle (List.mem_of_getElem? found)
  counters := counted.counters
  admitted := by
    intro other limit bucket accepted
    rw [returns_set found running rfl]
    simpa [ThrottleState.returnedAt] using counted.admitted other limit bucket accepted

theorem Counted.count (counted : Counted config limiting) {providerName : String}
    {limit : ProviderRateLimitConfig} (accepted : getLimitConfig config providerName = .ok limit) :
    (increment limiting.redis limiting.now
        (rateLimitKey providerName (limiting.now / limit.durationMs)) limit.durationMs).1.count =
      limiting.consumed providerName limit.durationMs (limiting.now / limit.durationMs) + 1 :=
  (Redis.increment_spec limit.durationMs_pos (counted.counters _ _ _ accepted)).1

theorem used_eq {providerName : String} {limit : ProviderRateLimitConfig}
    (accepted : getLimitConfig config providerName = .ok limit) :
    FixedWindow.used (limits config) limiting.increments ⟨providerName, limiting.now⟩ =
      limiting.consumed providerName limit.durationMs (limiting.now / limit.durationMs) := by
  simp [FixedWindow.used, consumed, limits_eq accepted]

section Iteration

variable {index : Nat} {throttle : Throttle} {lost : Bool}

theorem Throttle.iterate_returnedAt (throttle : Throttle) (redis : Redis) (now : Nat) :
    (throttle.iterate redis now).1.returnedAt =
      if (SmsNotification.increment redis now (rateLimitKey throttle.providerName
        (now / throttle.limit.durationMs)) throttle.limit.durationMs).1.count ≤ throttle.limit.max
      then some now else none := by
  simp only [Throttle.iterate]
  split <;> rfl

theorem Counted.returnedAt (counted : Counted config limiting)
    (found : limiting.throttles[index]? = some throttle) :
    (throttle.iterate limiting.redis limiting.now).1.returnedAt =
      if limiting.consumed throttle.providerName throttle.limit.durationMs
        (limiting.now / throttle.limit.durationMs) < throttle.limit.max
      then some limiting.now else none := by
  rw [Throttle.iterate_returnedAt,
    counted.count (counted.configured throttle (List.mem_of_getElem? found))]
  exact if_congr Nat.succ_le_iff rfl rfl

theorem consumed_iterated (providerName : String) (durationMs bucket : Nat) :
    (limiting.iterated index throttle lost).consumed providerName durationMs bucket =
      limiting.consumed providerName durationMs bucket +
        if throttle.providerName = providerName && limiting.now / durationMs = bucket then 1
        else 0 := by
  rw [consumed, iterated, List.countP_cons]
  rfl

theorem Counted.counters_iterated (counted : Counted config limiting)
    (found : limiting.throttles[index]? = some throttle) {providerName : String}
    {limit : ProviderRateLimitConfig} (accepted : getLimitConfig config providerName = .ok limit)
    (bucket : Nat) : (limiting.iterated index throttle lost).redis.Holds
      (rateLimitKey providerName bucket) ((limiting.iterated index throttle lost).consumed
        providerName limit.durationMs bucket) ((bucket + 1) * limit.durationMs) := by
  have configured := counted.configured throttle (List.mem_of_getElem? found)
  obtain ⟨_, holds⟩ := Redis.increment_spec throttle.limit.durationMs_pos
    (counted.counters _ _ (limiting.now / throttle.limit.durationMs) configured)
  rw [consumed_iterated]
  by_cases same : throttle.providerName = providerName ∧ limiting.now / limit.durationMs = bucket
  · obtain ⟨rfl, rfl⟩ := same
    obtain rfl : limit = throttle.limit := by simpa [configured] using accepted.symm
    rw [if_pos (by simp)]
    exact holds
  · have different : rateLimitKey providerName bucket ≠
        rateLimitKey throttle.providerName (limiting.now / throttle.limit.durationMs) := by
      intro equal
      obtain ⟨rfl, rfl⟩ := rateLimitKey_inj equal
      obtain rfl : limit = throttle.limit := by simpa [configured] using accepted.symm
      simp at same
    rw [if_neg (by simpa using same), Nat.add_zero, Redis.Holds]
    have kept : (limiting.iterated index throttle lost).redis (rateLimitKey providerName bucket) =
        limiting.redis (rateLimitKey providerName bucket) := Redis.increment_other different
    rw [kept]
    exact counted.counters providerName limit bucket accepted

theorem Counted.admitted_iterated (counted : Counted config limiting)
    (found : limiting.throttles[index]? = some throttle)
    (running : throttle.state.isSettled = false) {providerName : String}
    {limit : ProviderRateLimitConfig} (accepted : getLimitConfig config providerName = .ok limit)
    (bucket : Nat) : (limiting.iterated index throttle lost).returns providerName
        (fun time => time / limit.durationMs = bucket) ≤
      (FixedWindow.admitted (limits config) (limiting.iterated index throttle lost).increments).countP
        (FixedWindow.Arrival.isIn providerName limit.durationMs bucket) := by
  have before := counted.admitted providerName limit bucket accepted
  have configured := counted.configured throttle (List.mem_of_getElem? found)
  have answer := counted.returnedAt found
  rw [returns_set found running rfl, iterated, FixedWindow.admitted, used_eq configured,
    limits_eq configured]
  by_cases fits : limiting.consumed throttle.providerName throttle.limit.durationMs
      (limiting.now / throttle.limit.durationMs) < throttle.limit.max
  · rw [if_pos fits] at answer
    rw [if_pos fits, List.countP_cons]
    cases lost with
    | true =>
        simp only [if_true, ThrottleState.returnedAt, Option.any_none, Bool.and_false,
          Bool.false_eq_true, if_false]
        omega
    | false =>
        simp only [Bool.false_eq_true, if_false, answer, Option.any_some, FixedWindow.Arrival.isIn]
        exact Nat.add_le_add before le_rfl
  · rw [if_neg fits] at answer
    rw [if_neg fits]
    cases lost with
    | true => simpa [ThrottleState.returnedAt] using before
    | false => simpa [answer] using before

theorem Counted.iterated (counted : Counted config limiting)
    (found : limiting.throttles[index]? = some throttle)
    (running : throttle.state.isSettled = false) :
    Counted config (limiting.iterated index throttle lost) where
  configured := by
    intro other member
    rcases List.mem_or_eq_of_mem_set member with kept | rfl
    · exact counted.configured other kept
    · exact counted.configured throttle (List.mem_of_getElem? found)
  counters := fun _ _ bucket accepted => counted.counters_iterated found accepted bucket
  admitted := fun _ _ bucket accepted => counted.admitted_iterated found running accepted bucket

end Iteration

theorem step_counted (counted : Counted config limiting)
    (stepped : step config limiting event = some following) : Counted config following := by
  cases event with
  | throttle providerName =>
      simp only [step] at stepped
      cases accepted : getLimitConfig config providerName with
      | ok limit =>
          simp only [accepted, Option.some.injEq] at stepped
          exact stepped ▸ counted.started accepted
      | error error =>
          simp only [accepted, Option.some.injEq] at stepped
          exact stepped ▸ counted
  | tick milliseconds =>
      simp only [step, Option.some.injEq] at stepped
      subst stepped
      exact {
        configured := counted.configured
        counters := counted.counters
        admitted := counted.admitted }
  | iterate index reply =>
      obtain ⟨throttle, found, stepped⟩ := Option.bind_eq_some_iff.mp stepped
      by_cases settled : throttle.state.isSettled = true
      · simp [settled] at stepped
      have running : throttle.state.isSettled = false := by simpa using settled
      simp only [running, Bool.false_eq_true, if_false] at stepped
      cases reply with
      | rejected =>
          simp only [Option.some.injEq] at stepped
          exact stepped ▸ counted.rejected found running
      | answered =>
          simp only [Option.some.injEq] at stepped
          exact stepped ▸ counted.iterated found running
      | lost =>
          simp only [Option.some.injEq] at stepped
          exact stepped ▸ counted.iterated found running

/-- In one bucket a provider is called no more often than its limit allows, in an interval of a
window's length twice as often at most, and the count that decides is of its own increments. -/
theorem throttle_safe {start : Nat} {providerName : String} {limit : ProviderRateLimitConfig}
    (reaches : Reaches (step config) (fun _ _ => True) (initial start) limiting)
    (accepted : getLimitConfig config providerName = .ok limit) :
    (∀ bucket, limiting.returns providerName (fun time => time / limit.durationMs = bucket) ≤
      limit.max) ∧
    (∀ opening, limiting.returns providerName
        (fun time => opening ≤ time && time < opening + limit.durationMs) ≤ 2 * limit.max) ∧
    (increment limiting.redis limiting.now
        (rateLimitKey providerName (limiting.now / limit.durationMs)) limit.durationMs).1.count =
      limiting.consumed providerName limit.durationMs (limiting.now / limit.durationMs) + 1 := by
  have counted : Counted config limiting := reaches.invariant (Counted config)
    (initial_counted start) (fun _ _ _ counted _ stepped => step_counted counted stepped)
  have buckets : ∀ bucket, limiting.returns providerName
      (fun time => time / limit.durationMs = bucket) ≤ limit.max := by
    intro bucket
    have admitted := counted.admitted providerName limit bucket accepted
    have limited : (FixedWindow.admitted (limits config) limiting.increments).countP
        (FixedWindow.Arrival.isIn providerName (limits config providerName).length bucket) ≤
          (limits config providerName).max := FixedWindow.admitted_le bucket
    rw [limits_eq accepted] at limited
    exact admitted.trans limited
  refine ⟨buckets, ?_, counted.count accepted⟩
  intro opening
  -- a call that returned has a time, and the others count nowhere
  have shape : ∀ selected : Nat → Bool, limiting.returns providerName selected =
      limiting.throttles.countP (fun throttle => (throttle.providerName = providerName &&
        throttle.state.returnedAt.isSome) && selected (throttle.state.returnedAt.getD 0)) := by
    intro selected
    refine List.countP_congr fun throttle _ => ?_
    cases throttle.state.returnedAt <;> simp
  rw [shape]
  refine FixedWindow.countP_interval_le limit.durationMs_pos ?_ opening
  intro bucket
  have bounded := buckets bucket
  rw [shape] at bounded
  exact bounded

def oncePerSecond : ConfigService := fun path =>
  if path = "providers.twilio.rateLimitMax" then .number 1
  else if path = "providers.twilio.rateLimitDurationMs" then .number 1000
  else .notNumber

/-- Two calls start together; one returns, the other sleeps and returns in the next bucket. -/
theorem throttle_safe_waits : ∃ limiting limit,
    Reaches (step oncePerSecond) (fun _ _ => True) (initial 1500) limiting ∧
    getLimitConfig oncePerSecond "twilio" = .ok limit ∧ limit.max = 1 ∧
    limiting.returns "twilio" (fun time => 1500 ≤ time && time < 1500 + limit.durationMs) = 2 ∧
    limiting.returns "twilio" (fun time => 1500 ≤ time && time < 1500 + limit.durationMs) ≤
      2 * limit.max := by
  have accepted : getLimitConfig oncePerSecond "twilio" =
      .ok { max := 1, durationMs := 1000, max_pos := le_rfl, durationMs_pos := by decide } :=
    rfl
  obtain ⟨limiting, reaches, found⟩ := execute_exists (step oncePerSecond) (fun _ _ => True)
    (initial 1500) [.throttle "twilio", .throttle "twilio", .iterate 0 .answered,
      .iterate 1 .answered, .tick 999, .iterate 1 .answered]
    (fun limiting =>
      limiting.returns "twilio" (fun time => 1500 ≤ time && time < 1500 + 1000) == 2)
    (by decide)
  exact ⟨limiting, _, reaches, accepted, rfl, by simpa using found,
    (throttle_safe reaches accepted).2.1 1500⟩

end RateLimiting

end SmsNotification
