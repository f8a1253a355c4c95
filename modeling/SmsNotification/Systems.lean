import SmsNotification.Concurrency.Discipline
import SmsNotification.Moves
import SmsNotification.TimedRedis

/-!
The service and the timed service as systems of processes, for protocols other than that of the
stages: a call follows every protocol that simulates its stages.
-/

namespace SmsNotification

open Concurrency

def Job.origin (job : Job) : MessageId × Bool × Nat :=
  (job.messageId, job.fromRequeue, job.attempts)

/-- What an event changes in the world apart from operations: the states of jobs, and the entry whose
expiry it is. -/
structure World.Disturbed (event : Service.Event) (before after : World) : Prop where
  messages : after.messages = before.messages
  deadLetters : after.deadLetters = before.deadLetters
  jobs : after.jobs.map Job.origin = before.jobs.map Job.origin
  entries : ∀ entry, after.redisValue entry = before.redisValue entry ∨
    entry.expiry = some event ∧ after.redisValue entry = none

namespace World

variable {world : World} {choice : Choice}

theorem exec_uniqueViolation {op : Op} {outcome : World.Outcome op}
    (executed : world.exec op choice = some outcome)
    (violated : outcome.reply = .error .uniqueViolation) :
    ∃ key dto, op = .createQueuedMessage key dto ∧
      key ∈ world.messages.rows.map SmsMessage.idempotencyKey := by
  have possible := exec_replies executed
  rw [violated] at possible
  rcases possible.2 with ⟨_, rejection⟩ | ⟨_, key, dto, rfl⟩
  · cases rejection
  · refine ⟨key, dto, rfl, ?_⟩
    rcases exec_cases executed with ⟨_, _, _, _, reply⟩ | ⟨hint, inner, performed, _, _, reply⟩
    · simp [reply] at violated
    · rcases reply with ⟨_, reply⟩ | ⟨_, _, reply⟩
      · rw [reply] at violated
        simp only [perform] at performed
        split at performed
        · split at performed
          · cases performed
            cases violated
          · rename_i existing
            exact not_not.mp existing
        · cases performed
      · simp [reply] at violated

theorem exec_idempotencyKeys {op : Op} {outcome : World.Outcome op}
    (executed : world.exec op choice = some outcome) {key : String}
    (present : key ∈ outcome.world.messages.rows.map SmsMessage.idempotencyKey) :
    key ∈ world.messages.rows.map SmsMessage.idempotencyKey ∨
      ∃ dto, op = .createQueuedMessage key dto := by
  rcases exec_messages executed with same | ⟨statement, _, same⟩ |
    ⟨inserted, dto, id, createdAt, newId, newKey, rfl, same⟩
  · rw [same] at present
    exact Or.inl present
  · rw [same] at present
    simp only [Table.update, List.map_map] at present
    obtain ⟨row, member, named⟩ := List.mem_map.mp present
    exact Or.inl (List.mem_map.mpr ⟨row, member, by simpa using named⟩)
  · rw [same] at present
    simp only [Table.insert, List.map_append, List.map_singleton, List.mem_append,
      List.mem_singleton] at present
    rcases present with before | rfl
    · exact Or.inl before
    · exact Or.inr ⟨dto, rfl⟩

theorem exec_findByIdempotencyKey_none {key : String}
    {outcome : World.Outcome (.findByIdempotencyKey key)}
    (executed : world.exec (.findByIdempotencyKey key) choice = some outcome)
    (answered : outcome.reply = .ok none) :
    outcome.world.messages = world.messages ∧
      key ∉ world.messages.rows.map SmsMessage.idempotencyKey := by
  obtain ⟨hint, inner, performed, reply, same, _⟩ := exec_ok executed answered
  cases performed
  refine ⟨by rw [same], ?_⟩
  simp only [Except.ok.injEq] at reply
  simpa [Table.findByIdempotencyKey] using reply

end World

namespace Service

variable {config : Config} {service following : Service} {event : Event}

def system (config : Config) (admits : Service → Nat → Choice → Prop)
    (changes : Service → World → Prop) :
    System Op Op.Reply Failure Call Answer World Choice where
  exec := World.exec
  program := Call.program config
  admits := admits
  changes := changes

theorem disturbed_setJob {index : Nat} {old job : Job} (found : service.world.jobs[index]? = some old)
    (same : job.origin = old.origin) :
    World.Disturbed event service.world (service.setJob index job).world where
  messages := rfl
  deadLetters := rfl
  jobs := map_set_same Job.origin found same
  entries entry := Or.inl (by cases entry <;> rfl)

theorem disturbed_expiry (entry : RedisEntry) {world' : World}
    (names : entry.expiry = some event) (stores : Redis.Stores service.world entry none world')
    (messages : world'.messages = service.world.messages)
    (deadLetters : world'.deadLetters = service.world.deadLetters)
    (jobs : world'.jobs = service.world.jobs) :
    World.Disturbed event service.world world' where
  messages := messages
  deadLetters := deadLetters
  jobs := congrArg (List.map Job.origin) jobs
  entries other := by
    cases counter : other.isCounter with
    | true =>
        cases other with
        | rateLimit => exact Or.inl rfl
        | _ => simp [RedisEntry.isCounter] at counter
    | false =>
        by_cases same : other = entry
        · subst same
          exact Or.inr ⟨names, by simpa using stores other counter⟩
        · exact Or.inl (by rw [stores other counter, if_neg same])

theorem steps {admits : Service → Nat → Choice → Prop} {changes : Service → World → Prop}
    (stepped : service.step config event = some following)
    (admitted : ∀ pid choice, event = .resume pid choice → admits service pid choice)
    (changed : ∀ world, World.Disturbed event service.world world → changes service world) :
    Pool.Steps (system config admits changes) service following := by
  cases event with
  | request call =>
      simp only [step] at stepped
      split at stepped <;> cases stepped
      exact .spawn (changed service.world ⟨rfl, rfl, rfl, fun _ => Or.inl rfl⟩)
  | execute index =>
      obtain ⟨job, found, stepped⟩ := Option.bind_eq_some_iff.mp stepped
      split at stepped <;> cases stepped
      exact .spawn (changed _ (disturbed_setJob found rfl))
  | resume pid choice => exact .resume (admitted pid choice rfl) stepped
  | settle index =>
      obtain ⟨job, found, stepped⟩ := Option.bind_eq_some_iff.mp stepped
      split at stepped
      · obtain ⟨result, _, stepped⟩ := Option.bind_eq_some_iff.mp stepped
        cases stepped
        refine .change (changed _ (disturbed_setJob found ?_))
        cases result <;> rfl
      · cases stepped
  | stall index =>
      obtain ⟨job, found, stepped⟩ := Option.bind_eq_some_iff.mp stepped
      split at stepped <;> cases stepped
      exact .change (changed _ (disturbed_setJob found rfl))
  | expireCache key =>
      cases stepped
      exact .change (changed _ (disturbed_expiry (.cache key) rfl
        (Redis.stores_cache service.world key none) rfl rfl rfl))
  | expireLock key =>
      cases stepped
      exact .change (changed _ (disturbed_expiry (.lock key) rfl
        (Redis.stores_lock service.world key none) rfl rfl rfl))
  | expireClaim webhookId =>
      cases stepped
      exact .change (changed _ (disturbed_expiry (.birdClaim webhookId) rfl
        (Redis.stores_claim service.world webhookId false) rfl rfl rfl))

theorem initial_obeyed {admits : Service → Nat → Choice → Prop}
    {changes : Service → World → Prop} (discipline : Discipline (system config admits changes)) :
    discipline.Obeyed initial where
  follows := by simp [initial]
  legal := by simp [Pool.tagOf, initial]
  recorded := by simp [initial]

end Service

namespace TimedService

variable {ttls : RedisTtls} {config : Config} {timed following : TimedService} {event : Event}

def system (ttls : RedisTtls) (config : Config)
    (admits : TimedService → Nat → Choice → Prop) (changes : TimedService → RedisWorld → Prop) :
    System Op Op.Reply Failure Call Answer RedisWorld Choice where
  exec := RedisWorld.exec ttls
  program := Call.program config
  admits := admits
  changes := changes

structure Passes (before after : RedisWorld) : Prop where
  now : before.now ≤ after.now
  redis : ∀ entry : RedisEntry, entry.isCounter = false →
    after.redis entry.key = before.redis entry.key

theorem steps {admits : TimedService → Nat → Choice → Prop}
    {changes : TimedService → RedisWorld → Prop}
    (stepped : timed.step ttls config event = some following)
    (admitted : ∀ pid choice, event = .inner (.resume pid choice) → admits timed pid choice)
    (changed : ∀ world, Passes timed.world world → changes timed world) :
    Pool.Steps (system ttls config admits changes) timed following := by
  have still : ∀ world : World, Passes timed.world (timed.world.adopt world) :=
    fun world => ⟨Nat.le_refl _, fun _ _ => rfl⟩
  cases event with
  | inner event =>
      cases event with
      | resume pid choice => exact .resume (admitted pid choice rfl) stepped
      | request call =>
          simp only [step, Service.Event.isExpiry, Bool.false_eq_true, if_false] at stepped
          obtain ⟨next, inner, rfl⟩ := Option.map_eq_some_iff.mp stepped
          simp only [Service.step] at inner
          split at inner <;> cases inner
          exact .spawn (changed _ (still _))
      | execute index =>
          simp only [step, Service.Event.isExpiry, Bool.false_eq_true, if_false] at stepped
          obtain ⟨next, inner, rfl⟩ := Option.map_eq_some_iff.mp stepped
          obtain ⟨job, _, inner⟩ := Option.bind_eq_some_iff.mp inner
          split at inner <;> cases inner
          exact .spawn (changed _ (still _))
      | settle index =>
          simp only [step, Service.Event.isExpiry, Bool.false_eq_true, if_false] at stepped
          obtain ⟨next, inner, rfl⟩ := Option.map_eq_some_iff.mp stepped
          obtain ⟨job, _, inner⟩ := Option.bind_eq_some_iff.mp inner
          split at inner
          · obtain ⟨result, _, inner⟩ := Option.bind_eq_some_iff.mp inner
            cases inner
            exact .change (changed _ (still _))
          · cases inner
      | stall index =>
          simp only [step, Service.Event.isExpiry, Bool.false_eq_true, if_false] at stepped
          obtain ⟨next, inner, rfl⟩ := Option.map_eq_some_iff.mp stepped
          obtain ⟨job, _, inner⟩ := Option.bind_eq_some_iff.mp inner
          split at inner <;> cases inner
          exact .change (changed _ (still _))
      | _ => simp [step, Service.Event.isExpiry] at stepped
  | count providerName bucket durationMs =>
      cases stepped
      refine .change (changed _ ⟨Nat.le_refl _, ?_⟩)
      intro entry stored
      have different : entry ≠ .rateLimit providerName bucket := by
        rintro rfl
        simp [RedisEntry.isCounter] at stored
      exact Redis.increment_other (RedisEntry.key_injective.ne different)
  | pass milliseconds =>
      cases stepped
      exact .change (changed _ ⟨Nat.le_add_right _ _, fun _ _ => rfl⟩)

end TimedService

theorem Call.follows_of_stages {config : Config} (call : Call)
    {protocol : Protocol Op Op.Reply Failure}
    {post : protocol.Stage → Except Failure Answer → Prop} {start : protocol.Stage}
    (relates : Stage → protocol.Stage → Prop)
    (starts : relates (Stage.start config.caseMapping call) start)
    (replies : ∀ op reply, protocol.replies op reply → Stage.Replies op reply)
    (allowed : ∀ stage stage' op, stage.Serves config.caseMapping call → relates stage stage' →
      stage.Allowed op → protocol.allowed stage' op)
    (next : ∀ stage stage' op reply following, stage.Serves config.caseMapping call →
      relates stage stage' → stage.Allowed op → protocol.replies op reply →
      stage.Transition config.caseMapping op reply following →
      relates following (protocol.next stage' op reply))
    (settles : ∀ stage stage' result, stage.Serves config.caseMapping call →
      relates stage stage' → Stage.Settles call stage result → post stage' result) :
    (call.program config).Follows protocol post start := by
  have simulates : (Stage.protocol config.caseMapping).Simulates protocol (fun stage stage' =>
      stage.Serves config.caseMapping call ∧ relates stage stage') := by
    refine ⟨replies, ?_, ?_⟩
    · rintro stage stage' op ⟨serves, related⟩ allows
      exact allowed stage stage' op serves related allows
    · rintro stage stage' op reply ⟨serves, related⟩ allows possible
      have transition := Stage.transition config.caseMapping allows (replies op reply possible)
      exact ⟨Stage.serves_next serves transition,
        next stage stage' op reply _ serves related allows possible transition⟩
  refine (program_conforms call).simulate simulates
    ⟨Stage.serves_start config.caseMapping call, starts⟩ ?_
  rintro stage stage' result ⟨serves, related⟩ settled
  exact settles stage stage' result serves related settled

end SmsNotification
