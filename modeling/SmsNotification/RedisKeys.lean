import SmsNotification.RateLimitSafety
import SmsNotification.World

/-!
The services share one Redis, in which an entry is found by its key alone. The keys tell all entries
apart, so the maps of `World` and the counters of the rate limiter can be one store.
-/

namespace SmsNotification

def buildCacheKey (idempotencyKey : String) : String := "sms:idempotency:" ++ idempotencyKey

def buildLockKey (idempotencyKey : String) : String := "sms:idempotency-lock:" ++ idempotencyKey

def birdWebhookIdempotencyKeyPrefix : String := "sms:webhook:bird"

def buildBirdKey (webhookId : String) : String :=
  birdWebhookIdempotencyKeyPrefix ++ ":" ++ webhookId

inductive RedisEntry
  | cache (idempotencyKey : String)
  | lock (idempotencyKey : String)
  | birdClaim (webhookId : String)
  | rateLimit (providerName : String) (bucket : Nat)
  deriving DecidableEq

namespace RedisEntry

def key : RedisEntry → String
  | cache idempotencyKey => buildCacheKey idempotencyKey
  | lock idempotencyKey => buildLockKey idempotencyKey
  | birdClaim webhookId => buildBirdKey webhookId
  | rateLimit providerName bucket => rateLimitKey providerName bucket

def family : RedisEntry → String
  | cache _ => "sms:idempotency:"
  | lock _ => "sms:idempotency-lock:"
  | birdClaim _ => "sms:webhook:bird:"
  | rateLimit _ _ => "sms:rate-limit:"

def isCounter : RedisEntry → Bool
  | rateLimit _ _ => true
  | _ => false

def families : List String :=
  ["sms:idempotency:", "sms:idempotency-lock:", "sms:webhook:bird:", "sms:rate-limit:"]

theorem family_mem (entry : RedisEntry) : entry.family ∈ families := by
  cases entry <;> simp [family, families]

theorem key_eq (entry : RedisEntry) : ∃ rest, entry.key = entry.family ++ rest := by
  cases entry with
  | cache idempotencyKey => exact ⟨idempotencyKey, rfl⟩
  | lock idempotencyKey => exact ⟨idempotencyKey, rfl⟩
  | birdClaim webhookId => exact ⟨webhookId, rfl⟩
  | rateLimit providerName bucket =>
      have regroup : ∀ start separator number : String,
          start ++ providerName ++ separator ++ number =
            start ++ (providerName ++ separator ++ number) := by
        intro start separator number
        simp only [String.append_assoc]
      exact ⟨providerName ++ ":" ++ Nat.repr bucket, regroup _ _ _⟩

theorem family_prefix (entry : RedisEntry) : entry.family.toList <+: entry.key.toList := by
  obtain ⟨rest, same⟩ := entry.key_eq
  exact ⟨rest.toList, by rw [same, String.toList_append]⟩

theorem families_apart : ∀ first ∈ families, ∀ second ∈ families,
    first.toList <+: second.toList → first = second := by
  decide

theorem same_family {entry other : RedisEntry} (same : entry.key = other.key) :
    entry.family = other.family := by
  have shared : other.family.toList <+: entry.key.toList := same ▸ other.family_prefix
  rcases List.prefix_or_prefix_of_prefix entry.family_prefix shared with first | second
  · exact families_apart _ entry.family_mem _ other.family_mem first
  · exact (families_apart _ other.family_mem _ entry.family_mem second).symm

end RedisEntry

theorem buildCacheKey_injective : Function.Injective buildCacheKey := by
  intro first second same
  exact (String.append_right_inj _).mp same

theorem buildLockKey_injective : Function.Injective buildLockKey := by
  intro first second same
  exact (String.append_right_inj _).mp same

theorem buildBirdKey_injective : Function.Injective buildBirdKey := by
  intro first second same
  exact (String.append_right_inj _).mp same

theorem RedisEntry.key_injective : Function.Injective RedisEntry.key := by
  intro entry other same
  have kind := same_family same
  cases entry with
  | cache idempotencyKey =>
      cases other with
      | cache other => rw [buildCacheKey_injective same]
      | _ => simp [family] at kind
  | lock idempotencyKey =>
      cases other with
      | lock other => rw [buildLockKey_injective same]
      | _ => simp [family] at kind
  | birdClaim webhookId =>
      cases other with
      | birdClaim other => rw [buildBirdKey_injective same]
      | _ => simp [family] at kind
  | rateLimit providerName bucket =>
      cases other with
      | rateLimit otherName otherBucket =>
          obtain ⟨rfl, rfl⟩ := rateLimitKey_inj same
          rfl
      | _ => simp [family] at kind

namespace Redis

/-- `SET key value EX seconds` -/
def set (redis : Redis) (now : Nat) (key : String) (value seconds : Nat) : Redis :=
  Function.update redis key (some { value := value, deadline := some (now + 1000 * seconds) })

/-- `SET key value EX seconds NX`, and whether it replies `OK`. -/
def setNx (redis : Redis) (now : Nat) (key : String) (value seconds : Nat) : Bool × Redis :=
  match redis.get now key with
  | some _ => (false, redis)
  | none => (true, redis.set now key value seconds)

def del (redis : Redis) (key : String) : Redis := Function.update redis key none

/-- The script of `releaseLock`. -/
def deleteIfEqual (redis : Redis) (now : Nat) (key : String) (value : Nat) : Redis :=
  if (redis.get now key).map RedisKey.value = some value then redis.del key else redis

end Redis

structure RedisTtls where
  idempotencyTtlSeconds : Nat
  webhookIdempotencyTtlSeconds : Nat
  idempotencyTtlSeconds_pos : 1 ≤ idempotencyTtlSeconds
  webhookIdempotencyTtlSeconds_pos : 1 ≤ webhookIdempotencyTtlSeconds

def lockTtlSeconds : Nat := 30

/-- The methods of `IdempotencyService` and `WebhookIdempotencyService` over the shared store. The
token is what `randomUUID` yields; a lock is named by its idempotency key. -/
def Redis.perform (ttls : RedisTtls) (now token : Nat) (redis : Redis) :
    (op : Op) → Option (op.Reply × Redis)
  | .getMessageId idempotencyKey =>
      some ((redis.get now (buildCacheKey idempotencyKey)).map RedisKey.value, redis)
  | .storeMessageId idempotencyKey messageId =>
      some ((), redis.set now (buildCacheKey idempotencyKey) messageId ttls.idempotencyTtlSeconds)
  | .deleteMessageId idempotencyKey => some ((), redis.del (buildCacheKey idempotencyKey))
  | .acquireLock idempotencyKey =>
      let (taken, redis) := redis.setNx now (buildLockKey idempotencyKey) token lockTtlSeconds
      some (if taken then some ⟨idempotencyKey, token⟩ else none, redis)
  | .releaseLock lock => some ((), redis.deleteIfEqual now (buildLockKey lock.key) lock.token)
  | .claimBirdWebhook webhookId =>
      some (redis.setNx now (buildBirdKey webhookId) 1 ttls.webhookIdempotencyTtlSeconds)
  | .releaseBirdWebhook webhookId => some ((), redis.del (buildBirdKey webhookId))
  | _ => none

def Op.redisEntry? : Op → Option RedisEntry
  | getMessageId idempotencyKey => some (.cache idempotencyKey)
  | storeMessageId idempotencyKey _ => some (.cache idempotencyKey)
  | deleteMessageId idempotencyKey => some (.cache idempotencyKey)
  | acquireLock idempotencyKey => some (.lock idempotencyKey)
  | releaseLock lock => some (.lock lock.key)
  | claimBirdWebhook webhookId => some (.birdClaim webhookId)
  | releaseBirdWebhook webhookId => some (.birdClaim webhookId)
  | _ => none

namespace Redis

variable {redis first second : Redis} {now later value seconds : Nat} {key other : String}

theorem get_congr (same : first key = second key) : first.get now key = second.get now key := by
  rw [get, get, same]

theorem get_update (entry : Option RedisKey) :
    get (Function.update redis key entry) now other = if other = key then
      entry.filter fun entry => entry.deadline.all fun deadline => now < deadline
    else redis.get now other := by
  by_cases same : other = key
  · subst same
    simp [get]
  · simp [get, same]

theorem set_other (different : other ≠ key) :
    redis.set now key value seconds other = redis other :=
  Function.update_of_ne different _ _

theorem del_other (different : other ≠ key) : redis.del key other = redis other :=
  Function.update_of_ne different _ _

theorem setNx_other (different : other ≠ key) :
    (redis.setNx now key value seconds).2 other = redis other := by
  unfold setNx
  split
  · rfl
  · exact set_other different

theorem deleteIfEqual_other (different : other ≠ key) :
    redis.deleteIfEqual now key value other = redis other := by
  unfold deleteIfEqual
  split
  · exact del_other different
  · rfl

theorem incr_congr (now : Nat) (same : first key = second key) :
    (first.incr now key).1 = (second.incr now key).1 ∧
      (first.incr now key).2 key = (second.incr now key).2 key := by
  unfold incr
  rw [get_congr same]
  split
  · simp
  · simp

theorem pexpire_congr (now milliseconds : Nat) (same : first key = second key) :
    first.pexpire now key milliseconds key = second.pexpire now key milliseconds key := by
  unfold pexpire
  rw [get_congr same]
  cases second.get now key with
  | none => exact same
  | some entry => simp

theorem pttl_congr (same : first key = second key) : first.pttl now key = second.pttl now key := by
  unfold pttl
  rw [get_congr same]

theorem increment_congr (now durationMs : Nat) (same : first key = second key) :
    (increment first now key durationMs).1 = (increment second now key durationMs).1 ∧
      (increment first now key durationMs).2 key = (increment second now key durationMs).2 key := by
  obtain ⟨count, counted⟩ := incr_congr now same
  simp only [increment, incrementWithTtlScript, count]
  split
  · have expiring := pexpire_congr now durationMs counted
    rw [pttl_congr expiring]
    exact ⟨rfl, expiring⟩
  · rw [pttl_congr counted]
    exact ⟨rfl, counted⟩

theorem setNx_congr (now value seconds : Nat) (same : first key = second key) :
    (first.setNx now key value seconds).1 = (second.setNx now key value seconds).1 ∧
      (first.setNx now key value seconds).2 key = (second.setNx now key value seconds).2 key := by
  unfold setNx
  rw [get_congr same]
  split
  · exact ⟨rfl, same⟩
  · simp [set]

theorem deleteIfEqual_congr (same : first key = second key) :
    first.deleteIfEqual now key value key = second.deleteIfEqual now key value key := by
  unfold deleteIfEqual
  rw [get_congr same]
  split
  · simp [del]
  · exact same

/-- What a command on one entry replies and makes of it depends on that entry alone, and it leaves
all others as they are. -/
structure Confined {Reply : Type} (command : Redis → Option (Reply × Redis)) (entry : RedisEntry) :
    Prop where
  reads : ∀ first second : Redis, first entry.key = second entry.key →
    (command first).map (fun result => (result.1, result.2 entry.key)) =
      (command second).map fun result => (result.1, result.2 entry.key)
  writes : ∀ (redis : Redis) result, command redis = some result →
    ∀ other : RedisEntry, other ≠ entry → result.2 other.key = redis other.key

theorem perform_reads {ttls : RedisTtls} {token : Nat} {op : Op} {entry : RedisEntry}
    (names : op.redisEntry? = some entry) (same : first entry.key = second entry.key) :
    (first.perform ttls now token op).map (fun result => (result.1, result.2 entry.key)) =
      (second.perform ttls now token op).map fun result => (result.1, result.2 entry.key) := by
  cases op with
  | getMessageId idempotencyKey =>
      cases names
      simp only [RedisEntry.key] at same
      simp only [perform, RedisEntry.key, Option.map_some, get_congr same, same]
  | storeMessageId idempotencyKey messageId =>
      cases names
      simp [perform, set, RedisEntry.key]
  | deleteMessageId idempotencyKey =>
      cases names
      simp [perform, del, RedisEntry.key]
  | acquireLock idempotencyKey =>
      cases names
      simp only [RedisEntry.key] at same
      obtain ⟨taken, left⟩ := setNx_congr now token lockTtlSeconds same
      simp only [perform, RedisEntry.key, Option.map_some, taken, left]
  | releaseLock lock =>
      cases names
      simp only [RedisEntry.key] at same
      simp only [perform, RedisEntry.key, Option.map_some, deleteIfEqual_congr same]
  | claimBirdWebhook webhookId =>
      cases names
      simp only [RedisEntry.key] at same
      obtain ⟨taken, left⟩ := setNx_congr now 1 ttls.webhookIdempotencyTtlSeconds same
      simp only [perform, RedisEntry.key, Option.map_some, taken, left]
  | releaseBirdWebhook webhookId =>
      cases names
      simp [perform, del, RedisEntry.key]
  | _ => simp [Op.redisEntry?] at names

theorem perform_other {ttls : RedisTtls} {token : Nat} {op : Op} {entry : RedisEntry}
    {result : op.Reply × Redis} (names : op.redisEntry? = some entry)
    (performed : redis.perform ttls now token op = some result) (different : other ≠ entry.key) :
    result.2 other = redis other := by
  cases op with
  | getMessageId idempotencyKey =>
      cases performed
      rfl
  | storeMessageId idempotencyKey messageId =>
      cases names
      cases performed
      exact set_other different
  | deleteMessageId idempotencyKey =>
      cases names
      cases performed
      exact del_other different
  | acquireLock idempotencyKey =>
      cases names
      cases performed
      exact setNx_other different
  | releaseLock lock =>
      cases names
      cases performed
      exact deleteIfEqual_other different
  | claimBirdWebhook webhookId =>
      cases names
      cases performed
      exact setNx_other different
  | releaseBirdWebhook webhookId =>
      cases names
      cases performed
      exact del_other different
  | _ => simp [Op.redisEntry?] at names

theorem perform_confined (ttls : RedisTtls) (now token : Nat) {op : Op} {entry : RedisEntry}
    (names : op.redisEntry? = some entry) :
    Confined (fun redis => redis.perform ttls now token op) entry where
  reads _ _ same := perform_reads names same
  writes _ _ performed _ different :=
    perform_other names performed (RedisEntry.key_injective.ne different)

theorem increment_confined (now durationMs : Nat) (providerName : String) (bucket : Nat) :
    Confined
      (fun redis => some (increment redis now (rateLimitKey providerName bucket) durationMs))
      (.rateLimit providerName bucket) where
  reads first second same := by
    obtain ⟨counter, left⟩ := increment_congr now durationMs same
    simp only [RedisEntry.key] at counter left
    simp only [Option.map_some, RedisEntry.key, counter, left]
  writes redis result performed other different := by
    cases performed
    exact increment_other (RedisEntry.key_injective.ne different)

end Redis

def World.redisValue (world : World) : RedisEntry → Option Nat
  | .cache idempotencyKey => world.cache idempotencyKey
  | .lock idempotencyKey => world.locks idempotencyKey
  | .birdClaim webhookId => if world.claims webhookId then some 1 else none
  | .rateLimit _ _ => none

namespace Redis

variable {redis following : Redis} {now later value seconds : Nat} {entry other : RedisEntry}
  {world world' : World}

/-- The maps of the world hold what is found in Redis under the keys of their entries. -/
def Mirrors (redis : Redis) (now : Nat) (world : World) : Prop :=
  ∀ entry : RedisEntry, entry.isCounter = false →
    world.redisValue entry = (redis.get now entry.key).map RedisKey.value

def Stores (world : World) (entry : RedisEntry) (value : Option Nat) (world' : World) : Prop :=
  ∀ other : RedisEntry, other.isCounter = false →
    world'.redisValue other = if other = entry then value else world.redisValue other

theorem get_set (positive : 1 ≤ seconds) :
    (redis.set now entry.key value seconds).get now other.key =
      if other = entry then some { value := value, deadline := some (now + 1000 * seconds) }
      else redis.get now other.key := by
  have alive : now < now + 1000 * seconds := by omega
  rw [set, get_update]
  simp only [RedisEntry.key_injective.eq_iff, Option.filter_some, Option.all_some, alive,
    decide_true, if_true]

theorem get_del : (redis.del entry.key).get now other.key =
    if other = entry then none else redis.get now other.key := by
  rw [del, get_update]
  simp [RedisEntry.key_injective.eq_iff]

theorem Mirrors.changed {found : Option RedisKey} (mirrors : redis.Mirrors now world)
    (stores : Stores world entry (found.map RedisKey.value) world')
    (left : ∀ other : RedisEntry, following.get now other.key =
      if other = entry then found else redis.get now other.key) :
    following.Mirrors now world' := by
  intro other kept
  rw [stores other kept, left other]
  split
  · rfl
  · exact mirrors other kept

theorem Mirrors.set (mirrors : redis.Mirrors now world) (positive : 1 ≤ seconds)
    (stores : Stores world entry (some value) world') :
    (redis.set now entry.key value seconds).Mirrors now world' :=
  mirrors.changed stores fun _ => get_set positive

theorem Mirrors.del (mirrors : redis.Mirrors now world) (stores : Stores world entry none world') :
    (redis.del entry.key).Mirrors now world' :=
  mirrors.changed stores fun _ => get_del

theorem Mirrors.setNx {taken : Bool} (mirrors : redis.Mirrors now world) (positive : 1 ≤ seconds)
    (stores : Stores world entry (some value) world') (stored : entry.isCounter = false)
    (answered : redis.setNx now entry.key value seconds = (taken, following)) :
    taken = (world.redisValue entry).isNone ∧
      following.Mirrors now (if taken then world' else world) := by
  rw [mirrors entry stored]
  unfold Redis.setNx at answered
  split at answered
  next held found =>
    cases answered
    exact ⟨by rw [found]; rfl, mirrors⟩
  next free =>
    cases answered
    exact ⟨by rw [free]; rfl, mirrors.set positive stores⟩

theorem stores_cache (world : World) (idempotencyKey : String) (value : Option Nat) :
    Stores world (.cache idempotencyKey) value
      { world with cache := Function.update world.cache idempotencyKey value } := by
  intro other kept
  cases other <;> simp [World.redisValue, Function.update_apply]

theorem stores_lock (world : World) (idempotencyKey : String) (value : Option Nat) :
    Stores world (.lock idempotencyKey) value
      { world with locks := Function.update world.locks idempotencyKey value } := by
  intro other kept
  cases other <;> simp [World.redisValue, Function.update_apply]

theorem stores_claim (world : World) (webhookId : String) (claimed : Bool) :
    Stores world (.birdClaim webhookId) (if claimed then some 1 else none)
      { world with claims := Function.update world.claims webhookId claimed } := by
  intro other kept
  cases other with
  | birdClaim otherId =>
      by_cases same : otherId = webhookId <;> simp [World.redisValue, same]
  | _ => simp [World.redisValue]

theorem Mirrors.perform {ttls : RedisTtls} {hint : Hint} {op : Op} {result : op.Reply × Redis}
    (mirrors : redis.Mirrors now world)
    (performed : redis.perform ttls now hint.token op = some result) :
    ∃ outcome, world.perform hint op = some outcome ∧ outcome.reply = .ok result.1 ∧
      result.2.Mirrors now outcome.world := by
  cases op with
  | getMessageId idempotencyKey =>
      cases performed
      exact ⟨_, rfl, congrArg Except.ok (mirrors (.cache idempotencyKey) rfl), mirrors⟩
  | storeMessageId idempotencyKey messageId =>
      cases performed
      exact ⟨_, rfl, rfl, mirrors.set ttls.idempotencyTtlSeconds_pos
        (stores_cache world idempotencyKey (some messageId))⟩
  | deleteMessageId idempotencyKey =>
      cases performed
      exact ⟨_, rfl, rfl, mirrors.del (stores_cache world idempotencyKey none)⟩
  | acquireLock idempotencyKey =>
      simp only [Redis.perform] at performed
      generalize answered : redis.setNx now (buildLockKey idempotencyKey) hint.token
        lockTtlSeconds = answer at performed
      obtain ⟨taken, left⟩ := answer
      cases performed
      obtain ⟨free, mirrored⟩ := mirrors.setNx (show 1 ≤ lockTtlSeconds by decide)
        (stores_lock world idempotencyKey (some hint.token)) rfl answered
      cases held : world.locks idempotencyKey with
      | some token =>
          obtain rfl : taken = false := by simpa [World.redisValue, held] using free
          exact ⟨_, by simp only [World.perform, held]; rfl, rfl, mirrored⟩
      | none =>
          obtain rfl : taken = true := by simpa [World.redisValue, held] using free
          exact ⟨_, by simp only [World.perform, held]; rfl, rfl, mirrored⟩
  | releaseLock lock =>
      have same := mirrors (.lock lock.key) rfl
      simp only [RedisEntry.key, World.redisValue] at same
      simp only [Redis.perform, deleteIfEqual, ← same, Option.some.injEq] at performed
      subst performed
      simp only [World.perform]
      by_cases own : world.locks lock.key = some lock.token
      · simp only [own, if_true]
        exact ⟨_, rfl, rfl, mirrors.del (stores_lock world lock.key none)⟩
      · simp only [own, if_false]
        exact ⟨_, rfl, rfl, mirrors⟩
  | claimBirdWebhook webhookId =>
      simp only [Redis.perform, Option.some.injEq] at performed
      obtain ⟨taken, left⟩ := result
      obtain ⟨free, mirrored⟩ := mirrors.setNx ttls.webhookIdempotencyTtlSeconds_pos
        (stores_claim world webhookId true) rfl performed
      cases held : world.claims webhookId with
      | true =>
          obtain rfl : taken = false := by simpa [World.redisValue, held] using free
          exact ⟨_, by simp only [World.perform, held]; rfl, rfl, mirrored⟩
      | false =>
          obtain rfl : taken = true := by simpa [World.redisValue, held] using free
          exact ⟨_, by simp only [World.perform, held]; rfl, rfl, mirrored⟩
  | releaseBirdWebhook webhookId =>
      cases performed
      exact ⟨_, rfl, rfl, mirrors.del (stores_claim world webhookId false)⟩
  | _ => simp [Redis.perform] at performed

theorem Mirrors.increment (mirrors : redis.Mirrors now world) (providerName : String)
    (bucket durationMs : Nat) :
    (increment redis now (rateLimitKey providerName bucket) durationMs).2.Mirrors now world := by
  intro entry stored
  have different : entry ≠ .rateLimit providerName bucket := by
    rintro rfl
    simp [RedisEntry.isCounter] at stored
  rw [mirrors entry stored]
  exact congrArg _ (get_congr (increment_other (RedisEntry.key_injective.ne different)).symm)

theorem get_later (redis : Redis) (passed : now ≤ later) (key : String) :
    redis.get later key = redis.get now key ∨ redis.get later key = none := by
  unfold get
  cases redis key with
  | none => exact Or.inl rfl
  | some stored =>
      by_cases alive : (stored.deadline.all fun deadline => later < deadline) = true
      · have before : (stored.deadline.all fun deadline => now < deadline) = true := by
          cases ends : stored.deadline with
          | none => rfl
          | some deadline =>
              simp only [ends, Option.all_some, decide_eq_true_eq] at alive ⊢
              omega
        exact Or.inl (by simp only [Option.filter_some, alive, before, if_true])
      · exact Or.inr (by simp [Option.filter_some, alive])

theorem Mirrors.claim_value (mirrors : redis.Mirrors now world) {webhookId : String}
    {held : RedisKey} (found : redis.get now (RedisEntry.birdClaim webhookId).key = some held) :
    held.value = 1 := by
  have same := mirrors (.birdClaim webhookId) rfl
  rw [found, World.redisValue] at same
  split at same
  · simpa using same.symm
  · simp at same

theorem Mirrors.expire (mirrors : redis.Mirrors now world) (passed : now ≤ later) :
    ∃ world', redis.Mirrors later world' ∧ ∀ entry,
      world'.redisValue entry = world.redisValue entry ∨ world'.redisValue entry = none := by
  let world' : World := { world with
    cache := fun key => (redis.get later (RedisEntry.cache key).key).map RedisKey.value
    locks := fun key => (redis.get later (RedisEntry.lock key).key).map RedisKey.value
    claims := fun webhookId => (redis.get later (RedisEntry.birdClaim webhookId).key).isSome }
  have mirrored : redis.Mirrors later world' := by
    intro entry stored
    cases entry with
    | cache idempotencyKey => rfl
    | lock idempotencyKey => rfl
    | birdClaim webhookId =>
        rcases (redis.get later (RedisEntry.birdClaim webhookId).key).eq_none_or_eq_some with
          gone | ⟨held, found⟩
        · simp [World.redisValue, world', gone]
        · have before := get_later redis passed (RedisEntry.birdClaim webhookId).key
          rw [found] at before
          have claim := mirrors.claim_value (before.resolve_right (by simp)).symm
          simp [World.redisValue, world', found, claim]
    | rateLimit providerName bucket => simp [RedisEntry.isCounter] at stored
  refine ⟨world', mirrored, ?_⟩
  intro entry
  cases stored : entry.isCounter with
  | true =>
      cases entry with
      | rateLimit providerName bucket => exact Or.inr rfl
      | _ => simp [RedisEntry.isCounter] at stored
  | false =>
      rw [mirrored entry stored, mirrors entry stored]
      rcases get_later redis passed entry.key with same | gone
      · exact Or.inl (by rw [same])
      · exact Or.inr (by rw [gone, Option.map_none])

end Redis

/-- No two entries have one key, so that a command of the services on one of them, whatever keys and
ids it is given, neither reads nor writes another. -/
theorem redis_keys_never_collide :
    (Function.Injective buildCacheKey ∧ Function.Injective buildLockKey ∧
      Function.Injective buildBirdKey ∧ Function.Injective2 rateLimitKey) ∧
    (∀ entry other : RedisEntry, entry.key = other.key → entry = other) ∧
    (∀ (ttls : RedisTtls) (now token : Nat) (op : Op) (entry : RedisEntry),
      op.redisEntry? = some entry →
      Redis.Confined (fun redis => redis.perform ttls now token op) entry) ∧
    ∀ (now durationMs : Nat) (providerName : String) (bucket : Nat), Redis.Confined
      (fun redis => some (increment redis now (rateLimitKey providerName bucket) durationMs))
      (.rateLimit providerName bucket) := by
  refine ⟨⟨buildCacheKey_injective, buildLockKey_injective, buildBirdKey_injective, ?_⟩, ?_, ?_, ?_⟩
  · intro first second bucket other same
    exact rateLimitKey_inj same
  · intro entry other same
    exact RedisEntry.key_injective same
  · intro ttls now token op entry names
    exact Redis.perform_confined ttls now token names
  · intro now durationMs providerName bucket
    exact Redis.increment_confined now durationMs providerName bucket

end SmsNotification
