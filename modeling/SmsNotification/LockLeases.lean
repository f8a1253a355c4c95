import SmsNotification.CriticalSection

/-!
The lock over the timed Redis: for the 30 seconds of its time to live nobody else gets the lock that
a process has taken and not yet released.
-/

namespace SmsNotification

open Concurrency

namespace RedisWorld

variable {ttls : RedisTtls} {store : RedisWorld} {hint : Hint} {choice : Choice} {op : Op}
  {completion : Completion op.Reply Failure RedisWorld}

theorem exec_cases (executed : store.exec ttls op choice = some completion) :
    (completion.world = store ∧ ∃ message, completion.reply = .error (.rejection message) ∧
      op.fallible = true) ∨
    ∃ hint inner, store.perform ttls hint op = some inner ∧ completion.world = inner.world ∧
      (choice = .answered hint ∧ completion.reply = inner.reply ∨
        ∃ message, completion.reply = .error (.rejection message) ∧ op.fallible = true) := by
  cases choice with
  | answered hint => exact Or.inr ⟨hint, completion, executed, rfl, Or.inl ⟨rfl, rfl⟩⟩
  | rejected message =>
      simp only [exec] at executed
      split at executed
      · rename_i fallible
        cases executed
        exact Or.inl ⟨rfl, message, rfl, fallible⟩
      · cases executed
  | lost hint message =>
      simp only [exec] at executed
      split at executed
      · rename_i fallible
        obtain ⟨inner, performed, rfl⟩ := Option.map_eq_some_iff.mp executed
        exact Or.inr ⟨hint, inner, performed, rfl, Or.inr ⟨message, rfl, fallible⟩⟩
      · cases executed

theorem perform_replies (performed : store.perform ttls hint op = some completion) :
    Stage.Replies op completion.reply ∧ LockStage.Grants op completion.reply := by
  unfold perform at performed
  split at performed
  · rename_i reply redis commanded
    cases performed
    cases op with
    | acquireLock key =>
        simp only [Redis.perform] at commanded
        generalize store.redis.setNx store.now (buildLockKey key) hint.token lockTtlSeconds =
          answer at commanded
        obtain ⟨taken, left⟩ := answer
        cases commanded
        cases taken <;> exact ⟨trivial, by trivial⟩
    | getMessageId | storeMessageId | deleteMessageId | releaseLock | claimBirdWebhook
    | releaseBirdWebhook => exact ⟨trivial, trivial⟩
    | _ => simp [Redis.perform] at commanded
  · obtain ⟨outcome, inner, rfl⟩ := Option.map_eq_some_iff.mp performed
    have executed : store.world.exec op (.answered hint) = some outcome := inner
    exact ⟨World.perform_replies inner, World.exec_grants executed⟩

theorem exec_replies (executed : store.exec ttls op choice = some completion) :
    Stage.Replies op completion.reply ∧ LockStage.Grants op completion.reply := by
  rcases exec_cases executed with ⟨_, message, rejected, fallible⟩ |
    ⟨hint, inner, performed, _, ⟨_, same⟩ | ⟨message, rejected, fallible⟩⟩
  · rw [rejected]
    exact ⟨⟨fallible, Or.inl ⟨message, rfl⟩⟩, by cases op <;> trivial⟩
  · rw [same]
    exact perform_replies performed
  · rw [rejected]
    exact ⟨⟨fallible, Or.inl ⟨message, rfl⟩⟩, by cases op <;> trivial⟩

theorem perform_now (performed : store.perform ttls hint op = some completion) :
    completion.world.now = store.now := by
  unfold perform at performed
  split at performed
  · cases performed
    rfl
  · obtain ⟨outcome, _, rfl⟩ := Option.map_eq_some_iff.mp performed
    rfl

theorem exec_now (executed : store.exec ttls op choice = some completion) :
    completion.world.now = store.now := by
  rcases exec_cases executed with ⟨same, _⟩ | ⟨hint, inner, performed, same, _⟩
  · rw [same]
  · rw [same, perform_now performed]

theorem perform_lock {key : String} {value deadline : Nat}
    (performed : store.perform ttls hint op = some completion)
    (stored : store.redis (buildLockKey key) = some { value := value, deadline := some deadline })
    (early : store.now < deadline)
    (foreign : ∀ lock, op = .releaseLock lock → lock.key = key → lock.token ≠ value) :
    completion.world.redis (buildLockKey key) =
      some { value := value, deadline := some deadline } := by
  have live : store.redis.get store.now (buildLockKey key) =
      some { value := value, deadline := some deadline } := by
    simp [Redis.get, stored, early]
  unfold perform at performed
  split at performed
  · rename_i reply redis commanded
    cases performed
    obtain ⟨entry, names⟩ : ∃ entry, op.redisEntry? = some entry := by
      cases op <;> simp [Redis.perform, Op.redisEntry?] at commanded ⊢
    by_cases same : entry = .lock key
    · subst same
      cases op with
      | acquireLock other =>
          cases names
          simp only [Redis.perform, Redis.setNx, live, Option.some.injEq, Prod.mk.injEq]
            at commanded
          rw [← commanded.2]
          exact stored
      | releaseLock lock =>
          simp only [Op.redisEntry?, Option.some.injEq, RedisEntry.lock.injEq] at names
          have different := foreign lock rfl names
          subst names
          have kept : some value ≠ some lock.token := fun same =>
            different (Option.some.inj same).symm
          simp only [Redis.perform, Redis.deleteIfEqual, live, Option.map_some, kept, if_false,
            Option.some.injEq, Prod.mk.injEq] at commanded
          rw [← commanded.2]
          exact stored
      | _ => simp [Op.redisEntry?] at names
    · have different : (RedisEntry.lock key).key ≠ entry.key :=
        RedisEntry.key_injective.ne (Ne.symm same)
      exact (Redis.perform_other names commanded different).trans stored
  · obtain ⟨outcome, _, rfl⟩ := Option.map_eq_some_iff.mp performed
    exact stored

theorem exec_lock {key : String} {value deadline : Nat}
    (executed : store.exec ttls op choice = some completion)
    (stored : store.redis (buildLockKey key) = some { value := value, deadline := some deadline })
    (early : store.now < deadline)
    (foreign : ∀ lock, op = .releaseLock lock → lock.key = key → lock.token ≠ value) :
    completion.world.redis (buildLockKey key) =
      some { value := value, deadline := some deadline } := by
  rcases exec_cases executed with ⟨same, _⟩ | ⟨hint, inner, performed, same, _⟩
  · rw [same]
    exact stored
  · rw [same]
    exact perform_lock performed stored early foreign

theorem exec_acquireLock {key : String} {lock : IdempotencyLock}
    {completion : Completion (Op.acquireLock key).Reply Failure RedisWorld}
    (executed : store.exec ttls (.acquireLock key) choice = some completion)
    (granted : completion.reply = .ok (some lock)) :
    lock.key = key ∧ store.redis.get store.now (buildLockKey key) = none ∧
      completion.world.redis (buildLockKey key) =
        some { value := lock.token, deadline := some (store.now + 1000 * lockTtlSeconds) } ∧
      ∃ hint, choice = .answered hint ∧ hint.token = lock.token := by
  rcases exec_cases executed with ⟨_, message, rejected, _⟩ |
    ⟨hint, inner, performed, world, ⟨chosen, same⟩ | ⟨message, rejected, _⟩⟩
  · rw [rejected] at granted
    cases granted
  · rw [same] at granted
    rw [world]
    simp only [perform, Redis.perform] at performed
    cases held : store.redis.get store.now (buildLockKey key) with
    | some other =>
        simp only [Redis.setNx, held] at performed
        cases performed
        cases granted
    | none =>
        simp only [Redis.setNx, held] at performed
        cases performed
        simp only [if_true, Except.ok.injEq, Option.some.injEq] at granted
        subst granted
        exact ⟨rfl, rfl, by simp [Redis.set], hint, chosen, rfl⟩
  · rw [rejected] at granted
    cases granted

end RedisWorld

namespace TimedService

variable {ttls : RedisTtls} {config : Config} {timed following : TimedService} {event : Event}

def lockDiscipline (ttls : RedisTtls) (config : Config) :
    Discipline (system ttls config DrawsFreshToken fun timed world => Passes timed.world world) :=
  LockStage.discipline _ program_locks fun _ _ _ _ executed => RedisWorld.exec_replies executed

def Event.resumed? : Event → Option (Nat × Choice)
  | .inner event => event.resumed?
  | _ => none

def DrawsFreshTokens (timed : TimedService) (event : Event) : Prop :=
  ∀ resumed ∈ event.resumed?, DrawsFreshToken timed resumed.1 resumed.2

instance (timed : TimedService) (event : Event) : Decidable (timed.DrawsFreshTokens event) :=
  inferInstanceAs (Decidable (∀ resumed ∈ event.resumed?, _))

theorem draws_steps (draws : DrawsFreshTokens timed event)
    (stepped : timed.step ttls config event = some following) :
    Pool.Steps (system ttls config DrawsFreshToken fun timed world => Passes timed.world world)
      timed following :=
  steps stepped (fun pid choice same => draws (pid, choice) (by rw [same]; rfl))
    fun _ passes => passes

theorem initial_obeyed : (lockDiscipline ttls config).Obeyed initial where
  follows := by simp [initial]
  legal := by simp [Pool.tagOf, initial]
  recorded := by simp [initial]

theorem tokens_moves (tell : TokensTell timed)
    (moves : LockMoves (system ttls config DrawsFreshToken fun timed world =>
      Passes timed.world world) timed following) : TokensTell following := by
  cases moves with
  | quiet passes history keeps => exact tell.quiet history keeps
  | @operation pid choice stage stage' op reply left effective fresh staged awaits transition
      executed world history stages =>
      refine tell.operation staged transition ?_ history stages
      intro lock granted entry member other earlier
      cases op with
      | acquireLock key =>
          obtain ⟨error, rfl⟩ | ⟨taken, rfl⟩ : (∃ error, reply = .error error) ∨
              ∃ taken, reply = .ok taken := by cases reply <;> simp
          · simp [grantedLock] at granted
          · obtain rfl : taken = some lock := granted
            obtain ⟨_, _, _, hint, rfl, token⟩ := RedisWorld.exec_acquireLock executed rfl
            exact fresh.ne awaits (congrArg some token) member earlier
      | _ => simp [grantedLock] at granted

theorem tokens_reached (reaches : Reaches (step ttls config) DrawsFreshTokens initial timed) :
    (lockDiscipline ttls config).Obeyed timed ∧ TokensTell timed := by
  refine Discipline.invariant _ id TokensTell reaches initial_obeyed ?_ ?_ ?_
  · exact ⟨by simp [heldLock, lockStage, initial], by simp [initial]⟩
  · exact fun _ _ _ draws stepped => draws_steps draws stepped
  · exact fun _ _ _ _ tell effect => tokens_moves tell (LockStage.moves effect)

/-- The lease of a process on a lock: until its deadline the lock is in Redis as long as the process
has it, and who else has one for that key had it before. -/
structure Leased (start : TimedService) (pid : Nat) (lock : IdempotencyLock) (deadline : Nat)
    (timed : TimedService) : Prop where
  tokens : TokensTell timed
  granted : ∃ entry ∈ timed.history, entry.pid = pid ∧ grantedLock entry = some lock
  stored : timed.world.now < deadline → heldLock timed pid = some lock →
    timed.world.redis (buildLockKey lock.key) =
      some { value := lock.token, deadline := some deadline }
  alone : timed.world.now < deadline → heldLock timed pid = some lock →
    ∀ other otherLock, heldLock timed other = some otherLock → otherLock.key = lock.key →
      heldLock start other = some otherLock

theorem Leased.quiet {start : TimedService} {pid : Nat} {lock : IdempotencyLock} {deadline : Nat}
    (leased : Leased start pid lock deadline timed) (passes : Passes timed.world following.world)
    (history : following.history = timed.history) (keeps : KeepsStages timed following) :
    Leased start pid lock deadline following := by
  have now := passes.now
  have kept : following.world.redis (buildLockKey lock.key) =
      timed.world.redis (buildLockKey lock.key) := passes.redis (.lock lock.key) rfl
  refine ⟨leased.tokens.quiet history keeps, by rw [history]; exact leased.granted, ?_, ?_⟩
  · intro early has
    rw [keeps.heldLock] at has
    rw [kept]
    exact leased.stored (by omega) has
  · intro early has other otherLock otherHas same
    rw [keeps.heldLock] at has otherHas
    exact leased.alone (by omega) has other otherLock otherHas same

theorem Leased.operation {start : TimedService} {pid actor : Nat} {lock : IdempotencyLock}
    {deadline : Nat} {choice : Choice} {stage stage' : LockStage} {op : Op}
    {reply : Except Failure op.Reply} {left : RedisWorld} {effective : Bool}
    (leased : Leased start pid lock deadline timed) (tokens : TokensTell following)
    (staged : lockStage timed actor = some stage) (awaits : timed.awaits actor = some op)
    (fresh : DrawsFreshToken timed actor choice)
    (transition : stage.Transition op reply stage')
    (executed : timed.world.exec ttls op choice = some ⟨reply, left, effective⟩)
    (world : following.world = left)
    (history : following.history = timed.history ++ [⟨actor, op, reply, effective⟩])
    (stages : ∀ other, lockStage following other =
      if other = actor then some stage' else lockStage timed other) :
    Leased start pid lock deadline following := by
  obtain ⟨grant, granted, own, isGrant⟩ := leased.granted
  have now : left.now = timed.world.now := RedisWorld.exec_now executed
  have before : heldLock timed actor = stage.lock? := by simp [heldLock, staged]
  have after : heldLock following actor = stage'.lock? := by simp [heldLock, stages]
  have others : ∀ other, other ≠ actor → heldLock following other = heldLock timed other := by
    intro other different
    simp [heldLock, stages, different]
  -- the lock of the lease was granted once, so who has it now had it before this step
  have kept : heldLock following pid = some lock → heldLock timed pid = some lock := by
    intro keeps
    by_cases same : pid = actor
    · subst same
      rw [after] at keeps
      rw [before]
      cases transition with
      | granted =>
          cases keeps
          obtain ⟨_, _, _, hint, rfl, token⟩ := RedisWorld.exec_acquireLock executed rfl
          exact absurd rfl (fresh.ne awaits (congrArg some token) granted isGrant)
      | refused | released => simp [LockStage.lock?] at keeps
      | absent | created | other => exact keeps
    · rw [← others pid same]
      exact keeps
  refine ⟨tokens, ⟨grant, by rw [history]; exact List.mem_append_left _ granted, own, isGrant⟩,
    ?_, ?_⟩
  · intro early keeps
    rw [world] at early ⊢
    have early : timed.world.now < deadline := by omega
    refine RedisWorld.exec_lock executed (leased.stored early (kept keeps)) early ?_
    rintro released rfl sameKey sameToken
    have inside : stage.lock? = some released := by
      cases transition with
      | released inside => exact inside
      | other unrelated => simp [Op.locks] at unrelated
    obtain ⟨entry, member, entryOwn, entryGrant⟩ :=
      leased.tokens.granted actor released (before.trans inside)
    have same : actor = pid := by
      rw [← entryOwn, ← own]
      exact leased.tokens.distinct entry member grant granted released lock entryGrant isGrant
        sameToken
    subst same
    rw [after] at keeps
    cases transition with
    | released _ => simp [LockStage.lock?] at keeps
    | other unrelated => simp [Op.locks] at unrelated
  · intro early keeps other otherLock has same
    rw [world] at early
    have early : timed.world.now < deadline := by omega
    refine leased.alone early (kept keeps) other otherLock ?_ same
    by_cases acts : other = actor
    · subst acts
      rw [after] at has
      rw [before]
      cases transition with
      | granted =>
          -- nobody is granted a lock that is in Redis
          cases has
          obtain ⟨sameKey, free, _⟩ := RedisWorld.exec_acquireLock executed rfl
          have live := leased.stored early (kept keeps)
          rw [← sameKey, same] at free
          simp [Redis.get, live, early] at free
      | refused | released => simp [LockStage.lock?] at has
      | absent | created | other => exact has
    · rw [← others other acts]
      exact has

theorem Leased.moves {start : TimedService} {pid : Nat} {lock : IdempotencyLock} {deadline : Nat}
    (leased : Leased start pid lock deadline timed)
    (moves : LockMoves (system ttls config DrawsFreshToken fun timed world =>
      Passes timed.world world) timed following) : Leased start pid lock deadline following := by
  have tokens := tokens_moves leased.tokens moves
  cases moves with
  | quiet passes history keeps => exact leased.quiet passes history keeps
  | operation fresh staged awaits transition executed world history stages =>
      exact leased.operation tokens staged awaits fresh transition executed world history stages

theorem leased_start {pid : Nat} {lock : IdempotencyLock} (tell : TokensTell timed)
    (moves : LockMoves (system ttls config DrawsFreshToken fun timed world =>
      Passes timed.world world) timed following)
    (outside : heldLock timed pid = none) (inside : heldLock following pid = some lock) :
    Leased following pid lock (timed.world.now + 1000 * lockTtlSeconds) following ∧
      following.world.now = timed.world.now ∧
      ∀ other, other ≠ pid → heldLock following other = heldLock timed other := by
  have tokens := tokens_moves tell moves
  cases moves with
  | quiet passes history keeps =>
      rw [keeps.heldLock, outside] at inside
      cases inside
  | @operation actor choice stage stage' op reply left effective fresh staged awaits transition
      executed world history stages =>
      have acts : pid = actor := by
        by_contra different
        have same : heldLock following pid = heldLock timed pid := by
          simp [heldLock, stages, different]
        rw [same, outside] at inside
        cases inside
      subst acts
      have before : heldLock timed pid = stage.lock? := by simp [heldLock, staged]
      have after : heldLock following pid = stage'.lock? := by simp [heldLock, stages]
      rw [before] at outside
      rw [after] at inside
      have now : left.now = timed.world.now := RedisWorld.exec_now executed
      cases transition with
      | granted =>
          cases inside
          obtain ⟨rfl, _, stored, _⟩ := RedisWorld.exec_acquireLock executed rfl
          refine ⟨⟨tokens, tokens.granted pid lock after, fun _ _ => ?_, fun _ _ _ _ has _ => has⟩,
            by rw [world, now], ?_⟩
          · rw [world]
            exact stored
          · intro other different
            simp [heldLock, stages, different]
      | refused | released => simp [LockStage.lock?] at inside
      | absent | created => simp [LockStage.lock?] at outside
      | other => exact absurd (inside.symm.trans outside) (by simp)

/-- From the step in which a process gets a lock, for the 30 seconds of its time to live and as long
as the process has not asked for its release, Redis has the lock with its token, and nobody gets a
lock for that key: who else has one had it before. -/
theorem lock_is_leased {before start final : TimedService} {event : Event} {pid : Nat}
    {lock : IdempotencyLock} (reached : Reaches (step ttls config) DrawsFreshTokens initial before)
    (draws : DrawsFreshTokens before event)
    (acquires : before.step ttls config event = some start)
    (outside : heldLock before pid = none) (inside : heldLock start pid = some lock)
    (reaches : Reaches (step ttls config) DrawsFreshTokens start final)
    (early : final.world.now < start.world.now + 30000) (keeps : heldLock final pid = some lock) :
    final.world.world.locks lock.key = some lock.token ∧
      ∀ other otherLock, other ≠ pid → heldLock final other = some otherLock →
        otherLock.key = lock.key → heldLock before other = some otherLock := by
  obtain ⟨obeyed, tell⟩ := tokens_reached reached
  obtain ⟨obeyedStart, effect⟩ := obeyed.step (draws_steps draws acquires)
  obtain ⟨leasedStart, now, others⟩ := leased_start tell (LockStage.moves effect) outside inside
  have leased : Leased start pid lock (before.world.now + 1000 * lockTtlSeconds) final :=
    (Discipline.invariant _ id (Leased start pid lock _) reaches obeyedStart leasedStart
      (fun _ _ _ draws stepped => draws_steps draws stepped)
      (fun _ _ _ _ leased effect => leased.moves (LockStage.moves effect))).2
  have live : final.world.now < before.world.now + 1000 * lockTtlSeconds := by
    rw [now] at early
    exact early
  refine ⟨?_, ?_⟩
  · have stored := leased.stored live keeps
    simp [RedisWorld.world, Redis.get, stored, live]
  · intro other otherLock different has same
    rw [← others other different]
    exact leased.alone live keeps other otherLock has same

/-- In the last millisecond of its lease the lock is there, whoever else has asked for it. -/
theorem lease_lasts : ∃ final : TimedService,
    final.world.now = 29999 ∧ final.world.world.locks "key" = some 7 := by
  let answer (pid token : Nat) : Event := .inner (.resume pid (.answered { token := token }))
  let run := execute (step .defaults (.defaults ["twilio"])) DrawsFreshTokens
  obtain ⟨before, reached, found⟩ := execute_exists
    (step .defaults (.defaults ["twilio"])) DrawsFreshTokens initial
    ([.inner (.sends "key"), .inner (.sends "key"), answer 0 0, answer 0 0, answer 1 0, answer 1 0])
    (fun before => heldLock before 0 = none && before.DrawsFreshTokens (answer 0 7) &&
      (before.step .defaults (.defaults ["twilio"]) (answer 0 7)).any fun start =>
        heldLock start 0 = some ⟨"key", 7⟩ && start.world.now == 0 &&
        (run [answer 1 8, .pass 29999] start).any fun final =>
          heldLock final 0 = some ⟨"key", 7⟩ && final.world.now == 29999)
    (by decide)
  simp only [Bool.and_eq_true, decide_eq_true_eq, beq_iff_eq, Option.any_eq_true] at found
  obtain ⟨⟨outside, draws⟩, start, acquires, ⟨inside, began⟩, final, ran, keeps, now⟩ := found
  have leased := lock_is_leased reached draws acquires outside inside (execute_reaches _ ran)
    (by omega) keeps
  exact ⟨final, now, leased.1⟩

end TimedService

end SmsNotification
