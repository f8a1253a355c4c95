import SmsNotification.Concurrency.Simulation
import SmsNotification.RedisKeys
import SmsNotification.Service

/-!
The service over the Redis it shares with the rate limiter: entries are found by their keys alone,
and they go when their time to live is over and not before. Every run of it is a run of `Service`,
in which keys expire at any time, so what holds of those runs holds of these.
-/

namespace SmsNotification

open Concurrency

/-- The defaults of `configuration.ts`. -/
def RedisTtls.defaults : RedisTtls where
  idempotencyTtlSeconds := 86400
  webhookIdempotencyTtlSeconds := 86400
  idempotencyTtlSeconds_pos := by decide
  webhookIdempotencyTtlSeconds_pos := by decide

/-- `World` with Redis in place of its maps; `now` is the clock of Redis in milliseconds. -/
structure RedisWorld where
  now : Nat
  redis : Redis
  messages : Table
  jobs : List Job
  deadLetters : List MessageId

namespace RedisWorld

def initial : RedisWorld where
  now := 0
  redis _ := none
  messages := .empty
  jobs := []
  deadLetters := []

def world (store : RedisWorld) : World where
  messages := store.messages
  cache key := (store.redis.get store.now (buildCacheKey key)).map RedisKey.value
  locks key := (store.redis.get store.now (buildLockKey key)).map RedisKey.value
  claims webhookId := (store.redis.get store.now (buildBirdKey webhookId)).isSome
  jobs := store.jobs
  deadLetters := store.deadLetters

def adopt (store : RedisWorld) (world : World) : RedisWorld :=
  { store with messages := world.messages, jobs := world.jobs, deadLetters := world.deadLetters }

def writes (store : RedisWorld) : Op → Bool
  | .getMessageId _ => false
  | .acquireLock key => (store.redis.get store.now (buildLockKey key)).isNone
  | .releaseLock lock =>
      (store.redis.get store.now (buildLockKey lock.key)).map RedisKey.value = some lock.token
  | .claimBirdWebhook webhookId => (store.redis.get store.now (buildBirdKey webhookId)).isNone
  | _ => true

def perform (ttls : RedisTtls) (store : RedisWorld) (hint : Hint) (op : Op) :
    Option (Completion op.Reply Failure RedisWorld) :=
  match store.redis.perform ttls store.now hint.token op with
  | some (reply, redis) => some ⟨.ok reply, { store with redis := redis }, store.writes op⟩
  | none => (store.world.perform hint op).map fun outcome =>
      ⟨outcome.reply, store.adopt outcome.world, outcome.effective⟩

def exec (ttls : RedisTtls) (store : RedisWorld) (op : Op) :
    Choice → Option (Completion op.Reply Failure RedisWorld)
  | .answered hint => store.perform ttls hint op
  | .rejected message =>
      if op.fallible then some ⟨.error (.rejection message), store, false⟩ else none
  | .lost hint message =>
      if op.fallible then
        (store.perform ttls hint op).map fun completion =>
          ⟨.error (.rejection message), completion.world, completion.effective⟩
      else none

end RedisWorld

def RedisEntry.expiry : RedisEntry → Option Service.Event
  | cache idempotencyKey => some (.expireCache idempotencyKey)
  | lock idempotencyKey => some (.expireLock idempotencyKey)
  | birdClaim webhookId => some (.expireClaim webhookId)
  | rateLimit _ _ => none

def Service.Event.isExpiry : Service.Event → Bool
  | expireCache _ => true
  | expireLock _ => true
  | expireClaim _ => true
  | _ => false

abbrev TimedService := Pool Op Op.Reply Failure Call Answer RedisWorld

namespace TimedService

def initial : TimedService where
  world := .initial
  processes := []
  history := []

def service (timed : TimedService) : Service := timed.inWorld timed.world.world

/-- What happens in `Service` except that a key expires, a count of the rate limiter, or the
passage of time. -/
inductive Event
  | inner (event : Service.Event)
  | count (providerName : String) (bucket durationMs : Nat)
  | pass (milliseconds : Nat)

def step (ttls : RedisTtls) (config : Config) (timed : TimedService) :
    Event → Option TimedService
  | .inner (.resume pid choice) => timed.resume (RedisWorld.exec ttls) pid choice
  | .inner event =>
      if event.isExpiry then none
      else (timed.service.step config event).map fun following =>
        following.inWorld (timed.world.adopt following.world)
  | .count providerName bucket durationMs => some (timed.inWorld { timed.world with
      redis := (increment timed.world.redis timed.world.now (rateLimitKey providerName bucket)
        durationMs).2 })
  | .pass milliseconds => some (timed.inWorld { timed.world with
      now := timed.world.now + milliseconds })

/-- An event that `permitted` admits, and with the passage of time each expiry that comes due. -/
structure Permits (permitted : Service → Service.Event → Prop) (timed : TimedService)
    (event : Event) : Prop where
  inner : ∀ happens, event = .inner happens → permitted timed.service happens
  expiry : ∀ (milliseconds : Nat) (entry : RedisEntry) (expires : Service.Event),
    event = .pass milliseconds → entry.expiry = some expires →
    (timed.world.redis.get timed.world.now entry.key).isSome = true →
    timed.world.redis.get (timed.world.now + milliseconds) entry.key = none →
    ∀ world, permitted (timed.service.inWorld world) expires

end TimedService

namespace World

variable {world : World} {hint : Hint} {op : Op} {outcome : World.Outcome op}

theorem perform_redis {entry : RedisEntry} (names : op.redisEntry? = some entry)
    (performed : world.perform hint op = some outcome) :
    outcome.world.messages = world.messages ∧ outcome.world.jobs = world.jobs ∧
      outcome.world.deadLetters = world.deadLetters ∧
      ∀ other, other ≠ entry → outcome.world.redisValue other = world.redisValue other := by
  have stored : ∀ {value : Option Nat} {world' : World},
      Redis.Stores world entry value world' → entry.isCounter = false →
      ∀ other, other ≠ entry → world'.redisValue other = world.redisValue other := by
    intro value world' stores _ other different
    cases kind : other.isCounter with
    | false => rw [stores other kind, if_neg different]
    | true =>
        cases other with
        | rateLimit providerName bucket => rfl
        | _ => simp [RedisEntry.isCounter] at kind
  cases op with
  | getMessageId key =>
      cases performed
      exact ⟨rfl, rfl, rfl, fun _ _ => rfl⟩
  | storeMessageId key id =>
      cases performed
      cases names
      exact ⟨rfl, rfl, rfl, stored (Redis.stores_cache world key (some id)) rfl⟩
  | deleteMessageId key =>
      cases performed
      cases names
      exact ⟨rfl, rfl, rfl, stored (Redis.stores_cache world key none) rfl⟩
  | acquireLock key =>
      cases names
      simp only [perform] at performed
      split at performed <;> cases performed
      · exact ⟨rfl, rfl, rfl, fun _ _ => rfl⟩
      · exact ⟨rfl, rfl, rfl, stored (Redis.stores_lock world key _) rfl⟩
  | releaseLock lock =>
      cases names
      simp only [perform] at performed
      split at performed <;> cases performed
      · exact ⟨rfl, rfl, rfl, stored (Redis.stores_lock world lock.key none) rfl⟩
      · exact ⟨rfl, rfl, rfl, fun _ _ => rfl⟩
  | claimBirdWebhook webhookId =>
      cases names
      simp only [perform] at performed
      split at performed <;> cases performed
      · exact ⟨rfl, rfl, rfl, fun _ _ => rfl⟩
      · exact ⟨rfl, rfl, rfl, stored (Redis.stores_claim world webhookId true) rfl⟩
  | releaseBirdWebhook webhookId =>
      cases performed
      cases names
      exact ⟨rfl, rfl, rfl, stored (Redis.stores_claim world webhookId false) rfl⟩
  | _ => simp [Op.redisEntry?] at names

theorem perform_elsewhere (names : op.redisEntry? = none)
    (performed : world.perform hint op = some outcome) (entry : RedisEntry) :
    outcome.world.redisValue entry = world.redisValue entry := by
  have maps : outcome.world.cache = world.cache ∧ outcome.world.locks = world.locks ∧
      outcome.world.claims = world.claims := by
    cases op <;> simp only [Op.redisEntry?, reduceCtorEq] at names <;>
      simp only [perform] at performed <;> grind [addJob]
  obtain ⟨cache, locks, claims⟩ := maps
  cases entry <;> simp only [redisValue, cache, locks, claims]

end World

/-- The world is what the store shows. The maps hold finitely many entries, so that those which
come due can expire one by one. -/
structure Mirrored (store : RedisWorld) (world : World) : Prop where
  redis : store.redis.Mirrors store.now world
  messages : world.messages = store.messages
  jobs : world.jobs = store.jobs
  deadLetters : world.deadLetters = store.deadLetters
  covered : ∃ entries : List RedisEntry, ∀ entry, world.redisValue entry ≠ none → entry ∈ entries

namespace Mirrored

variable {ttls : RedisTtls} {store : RedisWorld} {world : World} {hint : Hint} {op : Op}

theorem world_eq (mirrored : Mirrored store world) : store.world = world := by
  have cache : ∀ key, store.world.cache key = world.cache key :=
    fun key => (mirrored.redis (.cache key) rfl).symm
  have locks : ∀ key, store.world.locks key = world.locks key :=
    fun key => (mirrored.redis (.lock key) rfl).symm
  have claims : ∀ webhookId, store.world.claims webhookId = world.claims webhookId := by
    intro webhookId
    have same := mirrored.redis (.birdClaim webhookId) rfl
    simp only [World.redisValue, RedisEntry.key] at same
    simp only [RedisWorld.world]
    rw [← Option.isSome_map, ← same]
    cases world.claims webhookId <;> rfl
  cases world
  simp only [RedisWorld.world, World.mk.injEq]
  exact ⟨mirrored.messages.symm, funext cache, funext locks, funext claims, mirrored.jobs.symm,
    mirrored.deadLetters.symm⟩

theorem writes_eq {entry : RedisEntry} (mirrored : Mirrored store world)
    (names : op.redisEntry? = some entry) {outcome : World.Outcome op}
    (performed : world.perform hint op = some outcome) :
    outcome.effective = store.writes op := by
  have shown := mirrored.world_eq
  subst shown
  cases op with
  | getMessageId | storeMessageId | deleteMessageId | releaseBirdWebhook =>
      cases performed
      rfl
  | acquireLock key =>
      simp only [World.perform, RedisWorld.world, RedisWorld.writes] at performed ⊢
      cases held : store.redis.get store.now (buildLockKey key) <;>
        simp only [held, Option.map_none, Option.map_some] at performed <;> cases performed <;> rfl
  | releaseLock lock =>
      simp only [World.perform] at performed
      by_cases own : store.world.locks lock.key = some lock.token
      · rw [if_pos own] at performed
        cases performed
        exact (decide_eq_true own).symm
      · rw [if_neg own] at performed
        cases performed
        exact (decide_eq_false own).symm
  | claimBirdWebhook webhookId =>
      simp only [World.perform, RedisWorld.world, RedisWorld.writes] at performed ⊢
      cases held : store.redis.get store.now (buildBirdKey webhookId) <;>
        simp only [held, Option.isSome_none, Option.isSome_some, Bool.false_eq_true, if_false,
          if_true] at performed <;> cases performed <;> rfl
  | _ => simp [Op.redisEntry?] at names

theorem perform (mirrored : Mirrored store world)
    {completion : Completion op.Reply Failure RedisWorld}
    (performed : store.perform ttls hint op = some completion) :
    ∃ left, world.perform hint op = some ⟨completion.reply, left, completion.effective⟩ ∧
      Mirrored completion.world left := by
  unfold RedisWorld.perform at performed
  split at performed
  · rename_i reply redis commanded
    cases performed
    obtain ⟨outcome, same, replied, mirrors⟩ := mirrored.redis.perform commanded
    obtain ⟨entry, names⟩ : ∃ entry, op.redisEntry? = some entry := by
      cases op <;> simp [Redis.perform, Op.redisEntry?] at commanded ⊢
    obtain ⟨messages, jobs, deadLetters, others⟩ := World.perform_redis names same
    have effective := mirrored.writes_eq names same
    obtain ⟨entries, covered⟩ := mirrored.covered
    refine ⟨outcome.world, ?_, mirrors, messages.trans mirrored.messages,
      jobs.trans mirrored.jobs, deadLetters.trans mirrored.deadLetters, entry :: entries, ?_⟩
    · rw [same, ← effective, ← replied]
    · intro other held
      by_cases same : other = entry
      · simp [same]
      · rw [others other same] at held
        exact List.mem_cons_of_mem _ (covered other held)
  · rename_i commanded
    obtain ⟨outcome, same, rfl⟩ := Option.map_eq_some_iff.mp performed
    have names : op.redisEntry? = none := by
      cases op <;> simp [Redis.perform, Op.redisEntry?] at commanded ⊢
    rw [mirrored.world_eq] at same
    have values := World.perform_elsewhere names same
    obtain ⟨entries, covered⟩ := mirrored.covered
    refine ⟨outcome.world, same, ?_, rfl, rfl, rfl, entries, ?_⟩
    · intro entry stored
      rw [values entry]
      exact mirrored.redis entry stored
    · intro entry held
      rw [values entry] at held
      exact covered entry held

theorem exec (mirrored : Mirrored store world) {choice : Choice}
    {completion : Completion op.Reply Failure RedisWorld}
    (executed : store.exec ttls op choice = some completion) :
    ∃ left, world.exec op choice = some ⟨completion.reply, left, completion.effective⟩ ∧
      Mirrored completion.world left := by
  cases choice with
  | answered hint => exact mirrored.perform executed
  | rejected message =>
      simp only [RedisWorld.exec] at executed
      split at executed
      · rename_i fallible
        cases executed
        exact ⟨world, by simp [World.exec, fallible], mirrored⟩
      · simp at executed
  | lost hint message =>
      simp only [RedisWorld.exec] at executed
      split at executed
      · rename_i fallible
        obtain ⟨inner, performed, rfl⟩ := Option.map_eq_some_iff.mp executed
        obtain ⟨left, same, mirrored'⟩ := mirrored.perform performed
        exact ⟨left, by simp [World.exec, fallible, same], mirrored'⟩
      · simp at executed

end Mirrored

namespace TimedService

variable {ttls : RedisTtls} {config : Config} {timed following : TimedService} {service : Service}
  {permitted : Service → Service.Event → Prop}

theorem step_expiry (config : Config) (service : Service) {entry : RedisEntry} {expires : Service.Event}
    (names : entry.expiry = some expires) :
    ∃ world', service.step config expires = some (service.inWorld world') ∧
      Redis.Stores service.world entry none world' ∧
      world'.messages = service.world.messages ∧ world'.jobs = service.world.jobs ∧
      world'.deadLetters = service.world.deadLetters := by
  cases entry with
  | cache key =>
      cases names
      exact ⟨_, rfl, Redis.stores_cache service.world key none, rfl, rfl, rfl⟩
  | lock key =>
      cases names
      exact ⟨_, rfl, Redis.stores_lock service.world key none, rfl, rfl, rfl⟩
  | birdClaim webhookId =>
      cases names
      exact ⟨_, rfl, Redis.stores_claim service.world webhookId false, rfl, rfl, rfl⟩
  | rateLimit providerName bucket => cases names

theorem expire_entries (config : Config) (permitted : Service → Service.Event → Prop)
    (entries : List RedisEntry) (target : RedisEntry → Option Nat)
    (service : Service)
    (each : ∀ entry, target entry = service.world.redisValue entry ∨ target entry = none)
    (outside : ∀ entry, entry ∉ entries → target entry = service.world.redisValue entry)
    (allowed : ∀ entry expires world, target entry ≠ service.world.redisValue entry →
      entry.expiry = some expires → permitted (service.inWorld world) expires) :
    ∃ world', Reaches (Service.step config) permitted service (service.inWorld world') ∧
      (∀ entry, world'.redisValue entry = target entry) ∧
      world'.messages = service.world.messages ∧ world'.jobs = service.world.jobs ∧
      world'.deadLetters = service.world.deadLetters := by
  induction entries generalizing service with
  | nil =>
      exact ⟨service.world, .refl, fun entry => (outside entry (by simp)).symm, rfl, rfl, rfl⟩
  | cons first rest ih =>
      by_cases kept : target first = service.world.redisValue first
      · refine ih service each ?_ allowed
        intro entry absent
        by_cases same : entry = first
        · rw [same, kept]
        · exact outside entry (by simp [same, absent])
      · obtain ⟨expires, names⟩ : ∃ expires, first.expiry = some expires := by
          cases first with
          | rateLimit providerName bucket =>
              rcases each (.rateLimit providerName bucket) with same | gone
              · exact absurd same kept
              · exact absurd gone kept
          | _ => exact ⟨_, rfl⟩
        have gone : target first = none := (each first).resolve_left kept
        obtain ⟨world', stepped, stores, messages, jobs, deadLetters⟩ :=
          step_expiry config service names
        have values : ∀ entry, world'.redisValue entry =
            if entry = first then none else service.world.redisValue entry := by
          intro entry
          cases counter : entry.isCounter with
          | false => exact stores entry counter
          | true =>
              cases entry with
              | rateLimit => simp [World.redisValue]
              | _ => simp [RedisEntry.isCounter] at counter
        have permits : permitted service expires := allowed first expires service.world kept names
        obtain ⟨final, reaches, shown, kept'⟩ := ih (service.inWorld world')
          (by
            intro entry
            by_cases same : entry = first
            · exact Or.inr (by rw [same, gone])
            · simpa [Pool.inWorld, values, same] using each entry)
          (by
            intro entry absent
            by_cases same : entry = first
            · simp [Pool.inWorld, values, same, gone]
            · simpa [Pool.inWorld, values, same] using outside entry (by simp [same, absent]))
          (by
            intro entry expires world different names
            refine allowed entry expires world ?_ names
            by_cases same : entry = first
            · rw [same]
              exact kept
            · simpa [Pool.inWorld, values, same] using different)
        exact ⟨final, (Reaches.step .refl permits stepped).trans reaches, shown,
          kept'.1.trans messages, kept'.2.1.trans jobs, kept'.2.2.trans deadLetters⟩

theorem step_maps {event : Service.Event} {next : Service}
    (stepped : service.step config event = some next) (expires : event.isExpiry = false)
    (resumes : ∀ pid choice, event ≠ .resume pid choice) (entry : RedisEntry) :
    next.world.redisValue entry = service.world.redisValue entry := by
  have maps : next.world.cache = service.world.cache ∧ next.world.locks = service.world.locks ∧
      next.world.claims = service.world.claims := by
    cases event with
    | request call =>
        simp only [Service.step] at stepped
        split at stepped <;> cases stepped
        exact ⟨rfl, rfl, rfl⟩
    | execute index =>
        obtain ⟨job, _, stepped⟩ := Option.bind_eq_some_iff.mp stepped
        split at stepped <;> cases stepped
        exact ⟨rfl, rfl, rfl⟩
    | resume pid choice => exact absurd rfl (resumes pid choice)
    | settle index =>
        obtain ⟨job, _, stepped⟩ := Option.bind_eq_some_iff.mp stepped
        split at stepped
        · obtain ⟨result, _, stepped⟩ := Option.bind_eq_some_iff.mp stepped
          cases stepped
          exact ⟨rfl, rfl, rfl⟩
        · cases stepped
    | stall index =>
        obtain ⟨job, _, stepped⟩ := Option.bind_eq_some_iff.mp stepped
        split at stepped <;> cases stepped
        exact ⟨rfl, rfl, rfl⟩
    | _ => simp [Service.Event.isExpiry] at expires
  obtain ⟨cache, locks, claims⟩ := maps
  cases entry <;> simp only [World.redisValue, cache, locks, claims]

/-- What a timed service shows is a service whose maps hold what is in Redis. -/
def Shows (timed : TimedService) (service : Service) : Prop :=
  service = timed.inWorld service.world ∧ Mirrored timed.world service.world

theorem Shows.service_eq (shows : Shows timed service) : timed.service = service := by
  obtain ⟨same, mirrored⟩ := shows
  rw [TimedService.service, mirrored.world_eq]
  exact same.symm

theorem initial_shows : Shows .initial .initial where
  left := rfl
  right := {
    redis := by
      intro entry stored
      cases entry <;> simp [World.redisValue, Service.initial, World.initial, Redis.get,
        initial, RedisWorld.initial]
    messages := rfl
    jobs := rfl
    deadLetters := rfl
    covered := ⟨[], by intro entry; cases entry <;> simp [World.redisValue, Service.initial,
      World.initial]⟩ }

theorem Shows.pass (shows : Shows timed service) (milliseconds : Nat)
    (permits : Permits permitted timed (.pass milliseconds)) :
    ∃ next, Reaches (Service.step config) permitted service next ∧
      Shows (timed.inWorld { timed.world with now := timed.world.now + milliseconds }) next := by
  have shown := shows.service_eq
  obtain ⟨same, mirrored⟩ := shows
  let later := timed.world.now + milliseconds
  let target : RedisEntry → Option Nat := fun entry =>
    if entry.isCounter then none else (timed.world.redis.get later entry.key).map RedisKey.value
  have due : ∀ entry, target entry = service.world.redisValue entry ∨
      target entry = none ∧ (timed.world.redis.get timed.world.now entry.key).isSome = true ∧
        timed.world.redis.get later entry.key = none := by
    intro entry
    cases counter : entry.isCounter with
    | true =>
        cases entry with
        | rateLimit => exact Or.inl rfl
        | _ => simp [RedisEntry.isCounter] at counter
    | false =>
        simp only [target, counter, Bool.false_eq_true, if_false]
        rw [mirrored.redis entry counter]
        rcases Redis.get_later timed.world.redis (Nat.le_add_right timed.world.now milliseconds)
          entry.key with kept | gone
        · exact Or.inl (by rw [kept])
        · cases held : timed.world.redis.get timed.world.now entry.key with
          | none => exact Or.inl (by rw [gone])
          | some stored => exact Or.inr ⟨by rw [gone]; rfl, rfl, gone⟩
  obtain ⟨entries, covered⟩ := mirrored.covered
  obtain ⟨world', reaches, values, messages, jobs, deadLetters⟩ :=
    expire_entries config permitted entries target service
      (fun entry => (due entry).imp_right And.left)
      (by
        intro entry absent
        have empty : service.world.redisValue entry = none := by
          by_contra held
          exact absent (covered entry held)
        rcases due entry with kept | ⟨gone, _⟩
        · exact kept
        · rw [gone, empty])
      (by
        intro entry expires world different names
        obtain ⟨_, live, gone⟩ := (due entry).resolve_left different
        have permits := permits.expiry milliseconds entry expires rfl names live gone world
        rwa [shown] at permits)
  refine ⟨_, reaches, by rw [same]; rfl, {
    redis := ?_
    messages := messages.trans mirrored.messages
    jobs := jobs.trans mirrored.jobs
    deadLetters := deadLetters.trans mirrored.deadLetters
    covered := ⟨entries, ?_⟩ }⟩
  · intro entry stored
    simp [Pool.inWorld, values, target, stored, later]
  · intro entry held
    refine covered entry ?_
    intro empty
    rcases due entry with kept | ⟨gone, _⟩
    · exact held ((values entry).trans (kept.trans empty))
    · exact held ((values entry).trans gone)

theorem Shows.step {event : Event} (shows : Shows timed service)
    (permits : Permits permitted timed event)
    (stepped : timed.step ttls config event = some following) :
    ∃ next, Reaches (Service.step config) permitted service next ∧ Shows following next := by
  have shown := shows.service_eq
  cases event with
  | inner event =>
      have permits : permitted service event := shown ▸ permits.inner event rfl
      by_cases resumes : ∃ pid choice, event = .resume pid choice
      · obtain ⟨pid, choice, rfl⟩ := resumes
        obtain ⟨left, stepped', mirrored⟩ := Pool.resume_inWorld World.exec Mirrored service.world
          stepped (fun op completion _ executed => shows.2.exec executed)
        rw [← shows.1] at stepped'
        exact ⟨following.inWorld left, .step .refl permits stepped', rfl, mirrored⟩
      · have other : ∀ pid choice, event ≠ .resume pid choice :=
          fun pid choice same => resumes ⟨pid, choice, same⟩
        have stepped : (if event.isExpiry then none else
            (timed.service.step config event).map fun following =>
              following.inWorld (timed.world.adopt following.world)) = some following := by
          cases event with
          | resume pid choice => exact absurd rfl (other pid choice)
          | _ => exact stepped
        split at stepped
        · cases stepped
        · rename_i expires
          obtain ⟨next, stepped', rfl⟩ := Option.map_eq_some_iff.mp stepped
          rw [shown] at stepped'
          have values := step_maps stepped' (by simpa using expires) other
          obtain ⟨entries, covered⟩ := shows.2.covered
          refine ⟨next, .step .refl permits stepped', rfl, ?_, rfl, rfl, rfl, entries, ?_⟩
          · intro entry stored
            rw [values entry]
            exact shows.2.redis entry stored
          · intro entry held
            rw [values entry] at held
            exact covered entry held
  | count providerName bucket durationMs =>
      cases stepped
      obtain ⟨same, mirrored⟩ := shows
      exact ⟨service, .refl, same, mirrored.redis.increment providerName bucket durationMs,
        mirrored.messages, mirrored.jobs, mirrored.deadLetters, mirrored.covered⟩
  | pass milliseconds =>
      cases stepped
      exact shows.pass milliseconds permits

/-- Every run over the shared Redis, whatever counts it also keeps there and however time passes, is
a run of the service, with the same processes, history, rows and queues at its end. -/
theorem timed_runs_refine (reaches : Reaches (step ttls config) (Permits permitted) initial timed) :
    Reaches (Service.step config) permitted .initial timed.service := by
  obtain ⟨service, reached, shows⟩ := reaches.simulate Shows initial_shows
    (fun _ _ _ _ shows permits stepped => shows.step permits stepped)
  rw [shows.service_eq]
  exact reached

/-- Two requests get the lock of one key, the second after the time to live of the first. -/
theorem timed_run_refined : ∃ timed : TimedService, timed.world.world.locks "key" = some 7 ∧
    timed.history.length = 6 ∧
    Reaches (Service.step (.defaults ["twilio"])) (fun _ _ => True) .initial timed.service := by
  let answers (pid : Nat) : List Event := List.replicate 3
    (.inner (.resume pid (.answered { token := 7 })))
  obtain ⟨timed, reaches, found⟩ := execute_exists
    (step .defaults (.defaults ["twilio"])) (fun _ _ => True) initial
    ([.inner (.sends "key"), .inner (.sends "key")] ++ answers 0 ++ [.pass 30000] ++ answers 1)
    (fun timed => timed.world.world.locks "key" = some 7 && timed.history.length == 6)
    (by decide)
  simp only [Bool.and_eq_true, decide_eq_true_eq, beq_iff_eq] at found
  refine ⟨timed, found.1, found.2, timed_runs_refine (reaches.mono ?_)⟩
  exact fun _ _ _ => ⟨fun _ _ => trivial, fun _ _ _ _ _ _ _ _ => trivial⟩

end TimedService

end SmsNotification
