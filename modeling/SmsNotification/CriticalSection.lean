import SmsNotification.IdempotencyLocks

/-!
What the lock of an idempotency key guarantees: between acquisition and release a process is alone
with its key, so that nobody else creates a message under it, and whoever releases a lock removes
the one it took itself.
-/

namespace SmsNotification

open Concurrency

section Stages

variable {World : Type}

def grantedLock : Entry Op Op.Reply Failure → Option IdempotencyLock
  | ⟨_, .acquireLock _, .ok lock, _⟩ => lock
  | _ => none

/-- The last process of which an acquisition of the key's lock took effect. -/
def lockTaker (history : List (Entry Op Op.Reply Failure)) (key : String) : Option Nat :=
  history.foldl (fun taker entry =>
    if entry.op = .acquireLock key ∧ entry.effective = true then some entry.pid else taker) none

def Choice.token? : Choice → Option Nat
  | .answered hint => some hint.token
  | .lost hint _ => some hint.token
  | .rejected _ => none

def Op.acquires : Op → Bool
  | acquireLock _ => true
  | _ => false

/-- `randomUUID` draws a token that no granted lock has. -/
def DrawsFreshToken (pool : Pool Op Op.Reply Failure Call Answer World) (pid : Nat)
    (choice : Choice) : Prop :=
  (pool.awaits pid).any Op.acquires = true → ∀ token ∈ choice.token?,
    ∀ entry ∈ pool.history, ∀ lock ∈ grantedLock entry, lock.token ≠ token

instance (pool : Pool Op Op.Reply Failure Call Answer World) (pid : Nat) (choice : Choice) :
    Decidable (DrawsFreshToken pool pid choice) :=
  inferInstanceAs (Decidable (_ → _))

theorem DrawsFreshToken.ne {pool : Pool Op Op.Reply Failure Call Answer World} {pid : Nat}
    {choice : Choice} {key : String} {token : Nat} {entry : Entry Op Op.Reply Failure}
    {lock : IdempotencyLock} (fresh : DrawsFreshToken pool pid choice)
    (awaits : pool.awaits pid = some (.acquireLock key)) (drawn : choice.token? = some token)
    (recorded : entry ∈ pool.history) (granted : grantedLock entry = some lock) :
    lock.token ≠ token :=
  fresh (by rw [awaits]; rfl) token drawn entry recorded lock granted

theorem lockTaker_concat (history : List (Entry Op Op.Reply Failure))
    (entry : Entry Op Op.Reply Failure) (key : String) : lockTaker (history ++ [entry]) key =
      if entry.op = .acquireLock key ∧ entry.effective = true then some entry.pid
      else lockTaker history key := by
  simp [lockTaker, List.foldl_append]

structure TokensTell (pool : Pool Op Op.Reply Failure Call Answer World) : Prop where
  granted : ∀ pid lock, heldLock pool pid = some lock →
    ∃ entry ∈ pool.history, entry.pid = pid ∧ grantedLock entry = some lock
  distinct : ∀ entry ∈ pool.history, ∀ other ∈ pool.history, ∀ lock otherLock,
    grantedLock entry = some lock → grantedLock other = some otherLock →
    lock.token = otherLock.token → entry.pid = other.pid

variable {pool following : Pool Op Op.Reply Failure Call Answer World}

theorem TokensTell.quiet (tell : TokensTell pool) (history : following.history = pool.history)
    (keeps : KeepsStages pool following) : TokensTell following := by
  refine ⟨?_, by rw [history]; exact tell.distinct⟩
  intro pid lock has
  rw [history]
  rw [keeps.heldLock] at has
  exact tell.granted pid lock has

theorem TokensTell.operation {pid : Nat} {stage stage' : LockStage} {op : Op}
    {reply : Except Failure op.Reply} {effective : Bool} (tell : TokensTell pool)
    (staged : lockStage pool pid = some stage) (transition : stage.Transition op reply stage')
    (fresh : ∀ lock, grantedLock ⟨pid, op, reply, effective⟩ = some lock →
      ∀ entry ∈ pool.history, ∀ other, grantedLock entry = some other → other.token ≠ lock.token)
    (history : following.history = pool.history ++ [⟨pid, op, reply, effective⟩])
    (stages : ∀ other, lockStage following other =
      if other = pid then some stage' else lockStage pool other) : TokensTell following := by
  constructor
  · intro other lock has
    rw [history]
    have earlier : heldLock pool other = some lock →
        ∃ entry ∈ pool.history ++ [⟨pid, op, reply, effective⟩],
          entry.pid = other ∧ grantedLock entry = some lock := by
      intro had
      obtain ⟨entry, member, own, granted⟩ := tell.granted other lock had
      exact ⟨entry, List.mem_append_left _ member, own, granted⟩
    by_cases same : other = pid
    · subst same
      have before : heldLock pool other = stage.lock? := by simp [heldLock, staged]
      have own : heldLock following other = stage'.lock? := by simp [heldLock, stages]
      rw [own] at has
      cases transition with
      | granted =>
          cases has
          exact ⟨_, List.mem_append_right _ (List.mem_singleton.mpr rfl), rfl, rfl⟩
      | refused | released => simp [LockStage.lock?] at has
      | absent | created | other => exact earlier (before.trans has)
    · refine earlier ?_
      rw [← has]
      simp [heldLock, stages, same]
  · rw [history]
    intro entry member other otherMember lock otherLock granted otherGranted same
    rcases List.mem_append.mp member with before | new
    · rcases List.mem_append.mp otherMember with otherBefore | otherNew
      · exact tell.distinct entry before other otherBefore lock otherLock granted otherGranted same
      · rw [List.mem_singleton.mp otherNew] at otherGranted
        exact absurd same (fresh otherLock otherGranted entry before lock granted)
    · rcases List.mem_append.mp otherMember with otherBefore | otherNew
      · rw [List.mem_singleton.mp new] at granted
        exact absurd same.symm (fresh lock granted other otherBefore otherLock otherGranted)
      · rw [List.mem_singleton.mp new, List.mem_singleton.mp otherNew]

end Stages

namespace World

variable {world : World} {choice : Choice}

theorem exec_grants {op : Op} {outcome : World.Outcome op}
    (executed : world.exec op choice = some outcome) : LockStage.Grants op outcome.reply := by
  cases op with
  | acquireLock key =>
      rcases answered : outcome.reply with error | _ | lock
      · trivial
      · trivial
      · obtain ⟨hint, inner, performed, reply, _⟩ := exec_ok executed answered
        simp only [perform] at performed
        split at performed <;> cases performed
        · simp at reply
        · simp only [Except.ok.injEq, Option.some.injEq] at reply
          exact reply ▸ rfl
  | _ => trivial

theorem exec_locks {op : Op} {outcome : World.Outcome op}
    (executed : world.exec op choice = some outcome) :
    (outcome.world.locks = world.locks ∧
      ((∃ key, op = .acquireLock key) ∨ (∃ lock, op = .releaseLock lock) →
        outcome.effective = false)) ∨
    (∃ key hint, op = .acquireLock key ∧ world.locks key = none ∧ outcome.effective = true ∧
      outcome.world.locks = Function.update world.locks key (some hint.token) ∧
      (choice = .answered hint ∨ ∃ message, choice = .lost hint message)) ∨
    ∃ lock, op = .releaseLock lock ∧ world.locks lock.key = some lock.token ∧
      outcome.effective = true ∧
      outcome.world.locks = Function.update world.locks lock.key none := by
  have performing : ∀ {hint : Hint} {inner : World.Outcome op},
      world.perform hint op = some inner → (inner.world.locks = world.locks ∧
        ((∃ key, op = .acquireLock key) ∨ (∃ lock, op = .releaseLock lock) →
          inner.effective = false)) ∨
      (∃ key, op = .acquireLock key ∧ world.locks key = none ∧ inner.effective = true ∧
        inner.world.locks = Function.update world.locks key (some hint.token)) ∨
      ∃ lock, op = .releaseLock lock ∧ world.locks lock.key = some lock.token ∧
        inner.effective = true ∧
        inner.world.locks = Function.update world.locks lock.key none := by
    intro hint inner performed
    cases op <;> simp only [perform] at performed <;> grind [addJob]
  cases choice with
  | rejected message =>
      simp only [exec] at executed
      split at executed
      · cases executed
        exact Or.inl ⟨rfl, fun _ => rfl⟩
      · simp at executed
  | answered hint =>
      rcases performing executed with same | ⟨key, names, free, effective, taken⟩ | released
      · exact Or.inl same
      · exact Or.inr (Or.inl ⟨key, hint, names, free, effective, taken, Or.inl rfl⟩)
      · exact Or.inr (Or.inr released)
  | lost hint message =>
      simp only [exec] at executed
      split at executed
      · obtain ⟨inner, performed, rfl⟩ := Option.map_eq_some_iff.mp executed
        rcases performing performed with same | ⟨key, names, free, effective, taken⟩ | released
        · exact Or.inl same
        · exact Or.inr (Or.inl ⟨key, hint, names, free, effective, taken, Or.inr ⟨message, rfl⟩⟩)
        · exact Or.inr (Or.inr released)
      · simp at executed

theorem exec_acquireLock {key : String} {lock : IdempotencyLock}
    {outcome : World.Outcome (.acquireLock key)}
    (executed : world.exec (.acquireLock key) choice = some outcome)
    (granted : outcome.reply = .ok (some lock)) :
    lock.key = key ∧ world.locks key = none ∧ outcome.effective = true ∧
      outcome.world.locks = Function.update world.locks key (some lock.token) ∧
      ∃ hint, choice = .answered hint ∧ hint.token = lock.token := by
  cases choice with
  | answered hint =>
      have performed : world.perform hint (.acquireLock key) = some outcome := executed
      simp only [perform] at performed
      split at performed <;> cases performed
      · simp at granted
      · rename_i free
        simp only [Except.ok.injEq, Option.some.injEq] at granted
        subst granted
        exact ⟨rfl, free, rfl, rfl, hint, rfl, rfl⟩
  | rejected message =>
      simp only [exec] at executed
      split at executed <;> cases executed
      simp at granted
  | lost hint message =>
      simp only [exec] at executed
      split at executed
      · obtain ⟨inner, _, rfl⟩ := Option.map_eq_some_iff.mp executed
        simp at granted
      · simp at executed

end World

namespace Service

variable {config : Config} {service following : Service} {event : Event}

/-- No lock goes while a process has it: the critical sections end within the 30 s of the lock. -/
def KeepsHeldLocks (service : Service) (event : Event) : Prop :=
  ∀ key, event = .expireLock key → ∀ pid lock, heldLock service pid = some lock → lock.key ≠ key

def SparesHeldLocks (service : Service) (world : World) : Prop :=
  world.messages = service.world.messages ∧
    ∀ key, world.locks key = service.world.locks key ∨
      world.locks key = none ∧ ∀ pid lock, heldLock service pid = some lock → lock.key ≠ key

def lockDiscipline (config : Config) (admits : Service → Nat → Choice → Prop)
    (changes : Service → World → Prop) : Discipline (system config admits changes) :=
  LockStage.discipline _ program_locks fun _ _ _ _ executed =>
    ⟨World.exec_replies executed, World.exec_grants executed⟩

theorem disturbed_locks {world : World} (disturbed : World.Disturbed event service.world world)
    (key : String) : world.locks key = service.world.locks key ∨
      event = .expireLock key ∧ world.locks key = none := by
  rcases disturbed.entries (.lock key) with same | ⟨expires, gone⟩
  · exact Or.inl same
  · simp only [RedisEntry.expiry, Option.some.injEq] at expires
    exact Or.inr ⟨expires.symm, gone⟩

/-- The locks in Redis are those of the processes that have them, one process for each, and who has
found no message under its key is right about it. -/
structure Exclusive (service : Service) : Prop where
  held : ∀ pid lock, heldLock service pid = some lock →
    service.world.locks lock.key = some lock.token
  unique : ∀ pid other lock otherLock, heldLock service pid = some lock →
    heldLock service other = some otherLock → lock.key = otherLock.key → pid = other
  clear : ∀ pid lock, lockStage service pid = some (.clear lock) →
    lock.key ∉ service.world.messages.rows.map SmsMessage.idempotencyKey
  violations : ∀ entry ∈ service.history, entry.reply ≠ .error .uniqueViolation

theorem Exclusive.quiet (exclusive : Exclusive service)
    (spares : SparesHeldLocks service following.world)
    (history : following.history = service.history) (keeps : KeepsStages service following) :
    Exclusive following := by
  obtain ⟨messages, locks⟩ := spares
  refine ⟨?_, ?_, ?_, by rw [history]; exact exclusive.violations⟩
  · intro pid lock has
    rw [keeps.heldLock] at has
    rcases locks lock.key with same | ⟨_, spared⟩
    · rw [same]
      exact exclusive.held pid lock has
    · exact absurd rfl (spared pid lock has)
  · intro pid other lock otherLock first second
    rw [keeps.heldLock] at first second
    exact exclusive.unique pid other lock otherLock first second
  · intro pid lock staged
    rw [messages]
    exact exclusive.clear pid lock (keeps.clear staged)

theorem Exclusive.operation {pid : Nat} {choice : Choice} {stage stage' : LockStage} {op : Op}
    {reply : Except Failure op.Reply} {left : World} {effective : Bool}
    (exclusive : Exclusive service) (staged : lockStage service pid = some stage)
    (transition : stage.Transition op reply stage')
    (executed : service.world.exec op choice = some ⟨reply, left, effective⟩)
    (world : following.world = left)
    (history : following.history = service.history ++ [⟨pid, op, reply, effective⟩])
    (stages : ∀ other, lockStage following other =
      if other = pid then some stage' else lockStage service other) : Exclusive following := by
  have own : heldLock following pid = stage'.lock? := by simp [heldLock, stages]
  have before : heldLock service pid = stage.lock? := by simp [heldLock, staged]
  have others : ∀ other, other ≠ pid → heldLock following other = heldLock service other := by
    intro other different
    simp [heldLock, stages, different]
  -- who has a lock either had it before or has just been granted it, and then it was free
  have held : ∀ other lock, heldLock following other = some lock →
      heldLock service other = some lock ∨
      other = pid ∧ service.world.locks lock.key = none ∧
        left.locks lock.key = some lock.token := by
    intro other lock has
    by_cases same : other = pid
    · subst same
      rw [own] at has
      rw [before]
      cases transition with
      | granted =>
          cases has
          obtain ⟨same, free, _, taken, _⟩ := World.exec_acquireLock executed rfl
          subst same
          exact Or.inr ⟨rfl, free, by rw [taken]; simp⟩
      | refused | released => simp [LockStage.lock?] at has
      | absent | created | other => exact Or.inl has
    · rw [others other same] at has
      exact Or.inl has
  -- a lock that a process keeps is untouched
  have kept : ∀ other lock, heldLock following other = some lock →
      heldLock service other = some lock → left.locks lock.key = some lock.token := by
    intro other lock has had
    have stored := exclusive.held other lock had
    rcases World.exec_locks executed with ⟨same, _⟩ | ⟨key, hint, _, free, _, taken, _⟩ |
      ⟨released, names, _, _, gone⟩
    · simp only at same
      rw [same]
      exact stored
    · have different : lock.key ≠ key := by
        rintro rfl
        rw [free] at stored
        cases stored
      simp only at taken
      rw [taken, Function.update_of_ne different]
      exact stored
    · subst names
      cases transition with
      | released inside =>
          have different : lock.key ≠ released.key := by
            intro same
            have one := exclusive.unique other pid lock released had (before.trans inside) same
            subst one
            rw [own] at has
            simp [LockStage.lock?] at has
          simp only at gone
          rw [gone, Function.update_of_ne different]
          exact stored
      | other unrelated => simp [Op.locks] at unrelated
  refine ⟨?_, ?_, ?_, ?_⟩
  · intro other lock has
    rw [world]
    rcases held other lock has with had | ⟨_, _, taken⟩
    · exact kept other lock has had
    · exact taken
  · intro first second lock otherLock firstHas secondHas same
    rcases held first lock firstHas with firstHad | ⟨firstOwn, firstFree, _⟩
    · rcases held second otherLock secondHas with secondHad | ⟨_, secondFree, _⟩
      · exact exclusive.unique first second lock otherLock firstHad secondHad same
      · have stored := exclusive.held first lock firstHad
        rw [same, secondFree] at stored
        cases stored
    · rcases held second otherLock secondHas with secondHad | ⟨secondOwn, _, _⟩
      · have stored := exclusive.held second otherLock secondHad
        rw [← same, firstFree] at stored
        cases stored
      · rw [firstOwn, secondOwn]
  · intro other lock clear present
    rw [world] at present
    rw [stages] at clear
    by_cases same : other = pid
    · subst same
      rw [if_pos rfl, Option.some.injEq] at clear
      subst clear
      cases transition with
      | absent =>
          obtain ⟨messages, free⟩ := World.exec_findByIdempotencyKey_none executed rfl
          rw [show left.messages = service.world.messages from messages] at present
          exact free present
      | other unrelated =>
          rcases World.exec_idempotencyKeys executed present with before | ⟨dto, rfl⟩
          · exact exclusive.clear _ lock staged before
          · simp [Op.locks] at unrelated
    · rw [if_neg same] at clear
      rcases World.exec_idempotencyKeys executed present with earlier | ⟨dto, creates⟩
      · exact exclusive.clear other lock clear earlier
      · cases transition with
        | @created creator =>
            have sameKey : creator.key = lock.key := by
              simp only [Op.createQueuedMessage.injEq] at creates
              exact creates.1
            exact same (exclusive.unique other pid lock creator
              (heldLock_iff.mpr ⟨_, clear, rfl⟩) before sameKey.symm)
        | other unrelated =>
            rw [creates] at unrelated
            simp [Op.locks] at unrelated
        | _ => cases creates
  · rw [history]
    intro entry member
    rcases List.mem_append.mp member with earlier | new
    · exact exclusive.violations entry earlier
    · rw [List.mem_singleton.mp new]
      intro violated
      obtain ⟨key, dto, rfl, present⟩ := World.exec_uniqueViolation executed violated
      cases transition with
      | created => exact exclusive.clear pid _ staged present
      | other unrelated => simp [Op.locks] at unrelated

theorem exclusive_reached (reaches : Reaches (step config) KeepsHeldLocks initial service) :
    (lockDiscipline config (fun _ _ _ => True) SparesHeldLocks).Obeyed service ∧
      Exclusive service := by
  refine Discipline.invariant _ id Exclusive reaches (initial_obeyed _) ?_ ?_ ?_
  · exact ⟨by simp [heldLock, lockStage, initial], by simp [heldLock, lockStage, initial],
      by simp [lockStage, initial], by simp [initial]⟩
  · intro service event following keeps stepped
    refine steps stepped (fun _ _ _ => trivial) ?_
    intro world disturbed
    refine ⟨disturbed.messages, ?_⟩
    intro key
    rcases disturbed_locks disturbed key with same | ⟨expires, gone⟩
    · exact Or.inl same
    · exact Or.inr ⟨gone, keeps key expires⟩
  · intro service following _ _ exclusive effect
    cases LockStage.moves effect with
    | quiet spares history stages => exact exclusive.quiet spares history stages
    | operation _ staged _ transition executed world history stages =>
        exact exclusive.operation staged transition executed world history stages

/-- As long as no lock expires under a process that has it, at most one process at a time is in the
critical section of a key, a message is only created in there and with no other message under its
key, and so no insert ever meets the unique constraint. -/
theorem lock_guards_creation (reaches : Reaches (step config) KeepsHeldLocks initial service) :
    (∀ pid other lock otherLock, heldLock service pid = some lock →
      heldLock service other = some otherLock → lock.key = otherLock.key → pid = other) ∧
    (∀ pid key dto, service.awaits pid = some (.createQueuedMessage key dto) →
      (∃ lock, heldLock service pid = some lock ∧ lock.key = key ∧
        service.world.locks key = some lock.token) ∧
      service.world.messages.findByIdempotencyKey key = none) ∧
    ∀ entry ∈ service.history, entry.reply ≠ .error .uniqueViolation := by
  obtain ⟨obeyed, exclusive⟩ := exclusive_reached reaches
  refine ⟨exclusive.unique, ?_, exclusive.violations⟩
  intro pid key dto awaits
  obtain ⟨stage, staged, lock, rfl, rfl⟩ := obeyed.awaits awaits
  have held : heldLock service pid = some lock := heldLock_iff.mpr ⟨_, staged, rfl⟩
  refine ⟨⟨lock, held, rfl, exclusive.held pid lock held⟩, ?_⟩
  have absent := exclusive.clear pid lock staged
  simpa [Table.findByIdempotencyKey] using absent

/-- The second of two requests has the lock while the first one waits. -/
theorem lock_guards_second : ∃ service : Service,
    (∃ lock, heldLock service 1 = some lock ∧ lock.key = "key" ∧
      service.world.locks "key" = some lock.token) ∧ heldLock service 0 = none := by
  let dto : SendSmsDto := { «to» := "+15550100", message := "hello", metadata := none }
  obtain ⟨service, reaches, found⟩ := execute_exists
    (step (.defaults ["twilio"])) (fun _ event => event.isExpiry = false) initial
    ([Event.sends "key", Event.sends "key"] ++ Event.answers 1 4 ++ Event.answers 0 5)
    (fun service => service.awaits 1 = some (.createQueuedMessage "key" dto) &&
      heldLock service 0 = none)
    (by decide)
  simp only [Bool.and_eq_true, decide_eq_true_eq] at found
  have keeps : Reaches (step (.defaults ["twilio"])) KeepsHeldLocks initial service := by
    refine reaches.mono ?_
    rintro state event lasting key rfl
    simp [Event.isExpiry] at lasting
  exact ⟨service, ((lock_guards_creation keeps).2.1 1 "key" dto found.1).1, found.2⟩

/-- A lock in Redis with the token of a process was taken by that process last, and no release has
removed the lock of another one. -/
structure Owned (service : Service) : Prop where
  tokens : TokensTell service
  taker : ∀ pid lock, heldLock service pid = some lock →
    service.world.locks lock.key = some lock.token →
    lockTaker service.history lock.key = some pid
  releases : ∀ before entry after lock, service.history = before ++ entry :: after →
    entry.op = .releaseLock lock → entry.effective = true →
    lockTaker before lock.key = some entry.pid

theorem Owned.quiet (owned : Owned service)
    (locks : ∀ key, following.world.locks key = service.world.locks key ∨
      following.world.locks key = none)
    (history : following.history = service.history) (keeps : KeepsStages service following) :
    Owned following := by
  refine ⟨owned.tokens.quiet history keeps, ?_, by rw [history]; exact owned.releases⟩
  intro pid lock has stored
  rw [history]
  rw [keeps.heldLock] at has
  rcases locks lock.key with same | gone
  · exact owned.taker pid lock has (same ▸ stored)
  · rw [gone] at stored
    cases stored

theorem history_concat_cases {α : Type} {entries before after : List α} {new entry : α}
    (same : entries ++ [new] = before ++ entry :: after) :
    (∃ rest, entries = before ++ entry :: rest) ∨ entries = before ∧ entry = new := by
  rcases after.eq_nil_or_concat with rfl | ⟨rest, last, rfl⟩
  · obtain ⟨rfl, single⟩ := List.append_inj' same rfl
    cases single
    exact Or.inr ⟨rfl, rfl⟩
  · have regrouped : entries ++ [new] = (before ++ entry :: rest) ++ [last] := by
      rw [same]
      simp
    obtain ⟨rfl, _⟩ := List.append_inj' regrouped rfl
    exact Or.inl ⟨rest, rfl⟩

theorem Owned.operation {pid : Nat} {choice : Choice} {stage stage' : LockStage} {op : Op}
    {reply : Except Failure op.Reply} {left : World} {effective : Bool} (owned : Owned service)
    (staged : lockStage service pid = some stage) (awaits : service.awaits pid = some op)
    (fresh : DrawsFreshToken service pid choice)
    (transition : stage.Transition op reply stage')
    (executed : service.world.exec op choice = some ⟨reply, left, effective⟩)
    (world : following.world = left)
    (history : following.history = service.history ++ [⟨pid, op, reply, effective⟩])
    (stages : ∀ other, lockStage following other =
      if other = pid then some stage' else lockStage service other) : Owned following := by
  have own : heldLock following pid = stage'.lock? := by simp [heldLock, stages]
  have before : heldLock service pid = stage.lock? := by simp [heldLock, staged]
  have drawn : ∀ key token, op = .acquireLock key → choice.token? = some token →
      ∀ entry ∈ service.history, ∀ lock, grantedLock entry = some lock → lock.token ≠ token := by
    rintro key token rfl
    exact fun drawn entry member lock granted => fresh.ne awaits drawn member granted
  refine ⟨owned.tokens.operation staged transition ?_ history stages, ?_, ?_⟩
  · intro lock granted entry member other earlier
    cases op with
    | acquireLock key =>
        obtain ⟨error, rfl⟩ | ⟨taken, rfl⟩ : (∃ error, reply = .error error) ∨
            ∃ taken, reply = .ok taken := by cases reply <;> simp
        · simp [grantedLock] at granted
        · obtain rfl : taken = some lock := granted
          obtain ⟨_, _, _, _, hint, rfl, token⟩ := World.exec_acquireLock executed rfl
          exact drawn key lock.token rfl (congrArg some token) entry member other earlier
    | _ => simp [grantedLock] at granted
  · intro other lock has stored
    rw [world] at stored
    rw [history, lockTaker_concat]
    by_cases acquired : op = .acquireLock lock.key ∧ effective = true
    · -- the lock was just taken: by the process that has it, for its token is new
      rw [if_pos acquired, Option.some.injEq]
      by_contra different
      have had : heldLock service other = some lock := by
        rw [← has]
        simp [heldLock, stages, Ne.symm different]
      obtain ⟨entry, member, _, granted⟩ := owned.tokens.granted other lock had
      obtain ⟨rfl, rfl⟩ := acquired
      rcases World.exec_locks executed with ⟨_, idle⟩ | ⟨key, hint, names, _, _, taken, chosen⟩ |
        ⟨released, names, _⟩
      · simp at idle
      · cases names
        simp only at taken
        rw [taken] at stored
        have token : hint.token = lock.token := by simpa using stored
        have draws : choice.token? = some lock.token := by
          rcases chosen with rfl | ⟨message, rfl⟩ <;> simp [Choice.token?, token]
        exact drawn lock.key lock.token rfl draws entry member lock granted rfl
      · cases names
    · rw [if_neg acquired]
      have kept : heldLock service other = some lock ∧
          service.world.locks lock.key = some lock.token := by
        constructor
        · by_cases same : other = pid
          · subst same
            rw [own] at has
            rw [before]
            cases transition with
            | granted =>
                cases has
                obtain ⟨rfl, _, effective, _⟩ := World.exec_acquireLock executed rfl
                exact absurd ⟨rfl, effective⟩ acquired
            | refused | released => simp [LockStage.lock?] at has
            | absent | created | other => exact has
          · rw [← has]
            simp [heldLock, stages, same]
        · rcases World.exec_locks executed with ⟨same, _⟩ |
            ⟨key, hint, rfl, _, effective, taken, _⟩ | ⟨released, _, _, _, gone⟩
          · exact (congrFun same lock.key) ▸ stored
          · simp only at taken effective
            have different : lock.key ≠ key := fun same => acquired ⟨by rw [same], effective⟩
            rwa [taken, Function.update_of_ne different] at stored
          · simp only at gone
            by_cases same : lock.key = released.key
            · rw [gone, same, Function.update_self] at stored
              cases stored
            · rwa [gone, Function.update_of_ne same] at stored
      exact owned.taker other lock kept.1 kept.2
  · rw [history]
    intro earlier entry after lock split release effect
    rcases history_concat_cases split with ⟨rest, same⟩ | ⟨rfl, rfl⟩
    · exact owned.releases earlier entry rest lock same release effect
    · simp only at release effect
      subst release effect
      have inside : stage.lock? = some lock := by
        cases transition with
        | released inside => exact inside
        | other unrelated => simp [Op.locks] at unrelated
      refine owned.taker pid lock (before.trans inside) ?_
      rcases World.exec_locks executed with ⟨_, idle⟩ | ⟨_, _, names, _⟩ | ⟨_, names, stored, _⟩
      · simp at idle
      · cases names
      · cases names
        exact stored

def Event.resumed? : Event → Option (Nat × Choice)
  | .resume pid choice => some (pid, choice)
  | _ => none

def DrawsFreshTokens (service : Service) (event : Event) : Prop :=
  ∀ resumed ∈ event.resumed?, DrawsFreshToken service resumed.1 resumed.2

instance (service : Service) (event : Event) : Decidable (service.DrawsFreshTokens event) :=
  inferInstanceAs (Decidable (∀ resumed ∈ event.resumed?, _))

theorem owned_reached (reaches : Reaches (step config) DrawsFreshTokens initial service) :
    Owned service := by
  refine (Discipline.invariant
    (lockDiscipline config DrawsFreshToken fun service world => ∀ key,
      world.locks key = service.world.locks key ∨ world.locks key = none)
    id Owned reaches (initial_obeyed _) ?_ ?_ ?_).2
  · exact ⟨⟨by simp [heldLock, lockStage, initial], by simp [initial]⟩,
      by simp [heldLock, lockStage, initial], by simp [initial]⟩
  · intro service event following draws stepped
    refine steps stepped (fun pid choice same => draws (pid, choice) (by rw [same]; rfl)) ?_
    intro world disturbed key
    exact (disturbed_locks disturbed key).imp_right And.right
  · intro service following _ _ owned effect
    cases LockStage.moves effect with
    | quiet locks history stages => exact owned.quiet locks history stages
    | operation fresh staged awaits transition executed world history stages =>
        exact owned.operation staged awaits fresh transition executed world history stages

/-- Even if locks expire at any time, a release that removes a lock removes the one that was taken
last under its key, and this process took it. -/
theorem releases_remove_own_lock
    (reaches : Reaches (step config) DrawsFreshTokens initial service)
    {before after : List (Entry Op Op.Reply Failure)} {entry : Entry Op Op.Reply Failure}
    {lock : IdempotencyLock} (recorded : service.history = before ++ entry :: after)
    (release : entry.op = .releaseLock lock) (effective : entry.effective = true) :
    lockTaker before lock.key = some entry.pid :=
  (owned_reached reaches).releases before entry after lock recorded release effective

/-- The lock of the first request expires and the second one takes the next: the release of the first
leaves that alone, and the second one removes its own. -/
theorem second_release_own : ∃ (before : List (Entry Op Op.Reply Failure)) (lock : IdempotencyLock),
    lock.token = 2 ∧ lockTaker before lock.key = some 1 := by
  let answer (pid token : Nat) : Event := .resume pid (.answered { id := token, token := token })
  let events := [Event.sends "key", Event.sends "key"] ++ List.replicate 3 (answer 0 1) ++
    [.expireLock "key"] ++ List.replicate 3 (answer 1 2) ++ List.replicate 5 (answer 0 1) ++
    List.replicate 3 (answer 1 2)
  obtain ⟨service, reaches, found⟩ := execute_exists
    (step (.defaults ["twilio"])) DrawsFreshTokens initial events
    (fun service => service.history.getLast?.any fun entry =>
      entry.op = .releaseLock ⟨"key", 2⟩ && entry.effective && entry.pid == 1)
    (by decide)
  obtain ⟨entry, last, named⟩ := (Option.any_eq_true _ _).mp found
  simp only [Bool.and_eq_true, decide_eq_true_eq, beq_iff_eq] at named
  obtain ⟨before, recorded⟩ := List.getLast?_eq_some_iff.mp last
  have own := releases_remove_own_lock reaches recorded named.1.1 named.1.2
  exact ⟨before, ⟨"key", 2⟩, rfl, by rw [← named.2]; exact own⟩

def releasedLock : Entry Op Op.Reply Failure → Option IdempotencyLock
  | ⟨_, .releaseLock lock, _, _⟩ => some lock
  | _ => none

/-- A process that has a lock still owes its release, and nothing else; only who may take the lock
had none so far. -/
def Balanced (stage : LockStage) (entries : List (Entry Op Op.Reply Failure)) : Prop :=
  entries.filterMap grantedLock = entries.filterMap releasedLock ++ stage.lock?.toList ∧
    (entries.filterMap grantedLock).length ≤ 1 ∧
    ∀ key, stage = .outside (some key) → entries.filterMap grantedLock = []

theorem Balanced.entry {stage stage' : LockStage} {pid : Nat} {op : Op} {effective : Bool}
    {reply : Except Failure op.Reply} {entries : List (Entry Op Op.Reply Failure)}
    (balanced : Balanced stage entries) (transition : stage.Transition op reply stage') :
    Balanced stage' (entries ++ [⟨pid, op, reply, effective⟩]) := by
  obtain ⟨owed, most, new⟩ := balanced
  have logged : ∀ granted released : Option IdempotencyLock,
      grantedLock ⟨pid, op, reply, effective⟩ = granted →
      releasedLock ⟨pid, op, reply, effective⟩ = released →
      List.filterMap grantedLock (entries ++ [⟨pid, op, reply, effective⟩]) =
        entries.filterMap grantedLock ++ granted.toList ∧
      List.filterMap releasedLock (entries ++ [⟨pid, op, reply, effective⟩]) =
        entries.filterMap releasedLock ++ released.toList := by
    rintro _ _ rfl rfl
    simp only [List.filterMap_eq_flatMap_toList, List.flatMap_append, List.flatMap_singleton,
      and_self]
  unfold Balanced
  cases transition with
  | @granted key lock =>
      obtain ⟨grants, releases⟩ := logged (some lock) none rfl rfl
      have nothing := new key rfl
      have unreleased : entries.filterMap releasedLock = [] := by
        rw [nothing] at owed
        exact (List.append_eq_nil_iff.mp owed.symm).1
      rw [grants, releases, nothing, unreleased]
      simp [LockStage.lock?]
  | @refused key reply notGranted =>
      have plain : grantedLock ⟨pid, .acquireLock key, reply, effective⟩ = none := by
        rcases reply with error | _ | lock
        · rfl
        · rfl
        · exact absurd rfl (notGranted lock)
      obtain ⟨grants, releases⟩ := logged none none plain rfl
      rw [grants, releases]
      exact ⟨by simpa [LockStage.lock?] using owed, by simpa using most, by simp⟩
  | absent | created =>
      obtain ⟨grants, releases⟩ := logged none none rfl rfl
      rw [grants, releases]
      exact ⟨by simpa [LockStage.lock?] using owed, by simpa using most, by simp⟩
  | @released stage lock reply inside =>
      obtain ⟨grants, releases⟩ := logged none (some lock) rfl rfl
      rw [inside] at owed
      rw [grants, releases]
      exact ⟨by simpa [LockStage.lock?] using owed, by simpa using most, by simp⟩
  | other unrelated =>
      have plain : grantedLock ⟨pid, op, reply, effective⟩ = none ∧
          releasedLock ⟨pid, op, reply, effective⟩ = none := by
        cases op <;> simp [Op.locks, grantedLock, releasedLock] at unrelated ⊢
      obtain ⟨grants, releases⟩ := logged none none plain.1 plain.2
      rw [grants, releases, Option.toList_none, List.append_nil, List.append_nil]
      exact ⟨owed, most, new⟩

/-- Whatever rejects, a call asks for the release of no lock but the one it was granted, at most
once, and when it settles it has done so. -/
theorem granted_locks_released {permitted : Service → Event → Prop}
    (reaches : Reaches (step config) permitted initial service) (pid : Nat) :
    (service.entriesOf pid).filterMap releasedLock <+: (service.entriesOf pid).filterMap grantedLock ∧
    ((service.entriesOf pid).filterMap grantedLock).length ≤ 1 ∧
    ∀ result, service.result pid = some result →
      (service.entriesOf pid).filterMap releasedLock =
        (service.entriesOf pid).filterMap grantedLock := by
  have obeyed : (lockDiscipline config (fun _ _ _ => True) fun _ _ => True).Obeyed service :=
    (Discipline.invariant _ id (fun _ => True) reaches (initial_obeyed _) trivial
      (fun _ _ _ _ stepped => steps stepped (fun _ _ _ => trivial) fun _ _ => trivial)
      (fun _ _ _ _ _ _ => trivial)).1
  cases found : service.processes[pid]? with
  | none =>
      have above : service.processes.length ≤ pid := List.getElem?_eq_none_iff.mp found
      simp [obeyed.unrecorded above]
  | some process =>
      have legal : LockStage.protocol.Legal (LockStage.start process.tag) (service.entriesOf pid) :=
        obeyed.legal pid process.tag (congrArg (Option.map Process.tag) found)
      obtain ⟨owed, most, _⟩ := legal.relates Balanced
        ⟨by cases process.tag <;> rfl, by simp, by simp⟩
        fun stage entries entry balanced allowed possible =>
          balanced.entry (LockStage.transition allowed possible.2)
      refine ⟨owed ▸ List.prefix_append _ _, most, ?_⟩
      intro result settled
      obtain ⟨other, found', settled⟩ := Option.bind_eq_some_iff.mp settled
      rw [found, Option.some.injEq] at found'
      subst found'
      obtain ⟨stage, staged, outside⟩ : ∃ stage, lockStage service pid = some stage ∧
          stage.lock? = none := obeyed.result found settled
      have reached : LockStage.protocol.reached (LockStage.start process.tag)
          (service.entriesOf pid) = stage := by
        simpa [lockStage, found] using staged
      rw [reached, outside] at owed
      simpa using owed.symm

/-- The publication of the only request rejects; its lock is released all the same. -/
theorem rejected_publication_released : ∃ service : Service, service.result 0 =
      some (.error (.app .queuePublishFailed)) ∧
    (service.entriesOf 0).filterMap grantedLock = [⟨"key", 0⟩] ∧
    (service.entriesOf 0).filterMap releasedLock = [⟨"key", 0⟩] := by
  obtain ⟨service, reaches, found⟩ := execute_exists
    (step (.defaults ["twilio"])) (fun _ _ => True) initial
    ([Event.sends "key"] ++ Event.answers 0 5 ++ [.resume 0 (.rejected none)] ++ Event.answers 0 3)
    (fun service => service.result 0 = some (.error (.app .queuePublishFailed)) &&
      (service.entriesOf 0).filterMap grantedLock = [⟨"key", 0⟩])
    (by decide)
  simp only [Bool.and_eq_true, decide_eq_true_eq] at found
  have released := (granted_locks_released reaches 0).2.2 _ found.1
  exact ⟨service, found.1, found.2, released.trans found.2⟩

end Service

end SmsNotification
