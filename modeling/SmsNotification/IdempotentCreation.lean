import SmsNotification.Statements

/-!
One message for each idempotency key. Mutual exclusion plays no part: the lock may expire at any
point. What counts is the unique constraint, that whatever a process learned about a key came from
the row of that key, and that only the process whose insert was answered may publish.
-/

namespace SmsNotification

open Concurrency

namespace Stage

variable {caseMapping : Js.CaseMapping} {stage stage' : Stage} {op : Op} {key : String}
  {id : MessageId}

def Knows (key : String) (id : MessageId) (stage : Stage) : Prop :=
  stage = .cached key id ∨ stage = .holding key id ∨ stage = .creator key id ∨
    stage = .published key id ∨ stage = .unpublished key id

def isCreator (key : String) : Stage → Bool
  | creator other _ => other = key
  | _ => false

theorem initial_isCreator (stage : Stage) (initial : stage.isInitial = true) :
    stage.isCreator key = false := by
  cases stage <;> simp_all [isInitial, isCreator]

def Reveals (key : String) (id : MessageId) (op : Op) (reply : Except Failure op.Reply) : Prop :=
  match op, reply with
  | .getMessageId key', .ok (some id') => key' = key ∧ id' = id
  | .findByIdempotencyKey key', .ok (some row) => key' = key ∧ row.id = id
  | .createQueuedMessage key' _, .ok row => key' = key ∧ row.id = id
  | _, _ => False

theorem initial_knows (initial : stage.isInitial = true) : ¬ stage.Knows key id := by
  cases stage <;> simp_all [isInitial, Knows]

theorem knows_next {reply : Except Failure op.Reply}
    (transition : Transition caseMapping stage op reply stage') (knows : stage'.Knows key id) :
    stage.Knows key id ∨ Reveals key id op reply := by
  cases transition with
  | cacheHit | existing | created => right; simpa [Knows, Reveals] using knows
  | quiet | stored | unlocked => exact Or.inl knows
  | cacheRow | published | notPublished => left; simpa [Knows] using knows
  | _ => simp [Knows] at knows

def isInsert (key : String) : (op : Op) → Except Failure op.Reply → Bool
  | .createQueuedMessage other _, .ok _ => other = key
  | _, _ => false

def isEnqueue : Op → Bool
  | .enqueueSms _ _ => true
  | _ => false

theorem creator_next {reply : Except Failure op.Reply}
    (transition : Transition caseMapping stage op reply stage')
    (creator : stage'.isCreator key = true) :
    stage.isCreator key = true ∧ isEnqueue op = false ∨ isInsert key op reply = true := by
  cases transition with
  | quiet infallible =>
      refine Or.inl ⟨creator, ?_⟩
      cases op <;> simp_all [isEnqueue, Op.fallible]
  | stored | unlocked => exact Or.inl ⟨creator, rfl⟩
  | created => exact Or.inr creator
  | _ => simp [isCreator] at creator

theorem enqueue_creator {reply : Except Failure op.Reply}
    (transition : Transition caseMapping stage op reply stage') (enqueue : isEnqueue op = true) :
    ∃ key id, stage = .creator key id := by
  cases transition with
  | quiet infallible => cases op <;> simp_all [isEnqueue, Op.fallible]
  | @published key id | @notPublished key id => exact ⟨key, id, rfl⟩
  | failed allowed handles | failedClaim allowed handles =>
      cases op <;> simp [isEnqueue] at enqueue
      obtain ⟨key, same⟩ := allowed
      exact ⟨key, _, same⟩
  | _ => simp [isEnqueue] at enqueue

end Stage

namespace Service

variable {config : Config} {service following : Service} {stages stages' : List Stage}
  {event : Event} {key : String} {id : MessageId}

def Owns (service : Service) (key : String) (id : MessageId) : Prop :=
  ∃ row, service.world.messages.findById id = some row ∧ row.idempotencyKey = key

theorem Moves.owns (moves : Moves config service stages event following stages')
    (staged : Staged config stages service) (owns : service.Owns key id) :
    following.Owns key id := by
  obtain ⟨row, found, same⟩ := owns
  obtain ⟨after, present, kept⟩ := moves.keeps_row staged found
  exact ⟨after, present, kept.trans same⟩

theorem Owns.unique {other : MessageId} (first : service.Owns key id)
    (second : service.Owns key other) : id = other := by
  obtain ⟨row, found, rfl⟩ := first
  obtain ⟨row', found', same⟩ := second
  have equal := Table.idempotencyKey_unique found found' same.symm
  rw [← Table.findById_id found, ← Table.findById_id found', equal]

def creates (key : String) (entry : Entry Op Op.Reply Failure) : Bool :=
  match entry.op with
  | .createQueuedMessage other _ => other = key && entry.effective
  | _ => false

def enqueues (service : Service) (key : String) (entry : Entry Op Op.Reply Failure) : Bool :=
  match entry.op, service.call entry.pid with
  | .enqueueSms _ _, some (.send other _) => other = key
  | _, _ => false

structure Idempotent (service : Service) (stages : List Stage) : Prop where
  cache : ∀ key id, service.world.cache key = some id → service.Owns key id
  knows : ∀ (pid : Nat) (stage : Stage) (key : String) (id : MessageId),
    stages[pid]? = some stage → stage.Knows key id → service.Owns key id
  created : ∀ key, service.history.countP (creates key) = 0 ∨
    service.history.countP (creates key) = 1 ∧ ∃ id, service.Owns key id
  enqueued : ∀ key, service.history.countP (service.enqueues key) +
    stages.countP (Stage.isCreator key) ≤ service.history.countP (creates key)

theorem Reveals.owns {choice : Choice} {op : Op} {outcome : World.Outcome op}
    (executed : service.world.exec op choice = some outcome)
    (world : following.world = outcome.world)
    (cached : ∀ key id, service.world.cache key = some id → service.Owns key id)
    (kept : ∀ {key id}, service.Owns key id → following.Owns key id)
    (reveals : Stage.Reveals key id op outcome.reply) : following.Owns key id := by
  unfold Stage.Reveals at reveals
  split at reveals
  · rename_i key' id' answered
    obtain ⟨rfl, rfl⟩ := reveals
    exact kept (cached key' id' (World.exec_getMessageId executed answered))
  · rename_i key' row answered
    obtain ⟨rfl, rfl⟩ := reveals
    have found := World.exec_findByIdempotencyKey executed answered
    obtain ⟨present, same⟩ := Table.findByIdempotencyKey_some found
    exact kept ⟨row, present, same⟩
  · rename_i key' dto row answered
    obtain ⟨rfl, rfl⟩ := reveals
    rcases World.exec_createQueuedMessage executed with
      ⟨_, _, error, reply⟩ | ⟨fresh, createdAt, newId, newKey, same, _, reply⟩
    · simp [reply] at answered
    · rcases reply with ⟨_, reply⟩ | ⟨_, _, reply⟩
      · rw [answered, Except.ok.injEq] at reply
        subst reply
        refine ⟨queuedMessage fresh createdAt key' dto, ?_, rfl⟩
        rw [world, same]
        exact Table.findById_inserted newId newKey
      · simp [reply] at answered
  · exact reveals.elim

theorem creates_exec {choice : Choice} {op : Op} {outcome : World.Outcome op} {pid : Nat}
    (executed : service.world.exec op choice = some outcome)
    (world : following.world = outcome.world)
    (creates : creates key ⟨pid, op, outcome.reply, outcome.effective⟩ = true) :
    (∀ id, ¬ service.Owns key id) ∧ ∃ id, following.Owns key id := by
  cases op <;> simp only [Service.creates, Bool.false_eq_true, Bool.and_eq_true,
    decide_eq_true_eq] at creates
  rename_i other dto
  obtain ⟨rfl, effective⟩ := creates
  rcases World.exec_createQueuedMessage executed with
    ⟨_, ineffective, _⟩ | ⟨fresh, createdAt, newId, newKey, same, _⟩
  · simp [effective] at ineffective
  · constructor
    · rintro id ⟨row, found, sameKey⟩
      exact newKey (List.mem_map.mpr ⟨row, (Table.findById_mem found).1, sameKey⟩)
    · refine ⟨fresh, queuedMessage fresh createdAt other dto, ?_, rfl⟩
      rw [world, same]
      exact Table.findById_inserted newId newKey

theorem insert_creates {choice : Choice} {op : Op} {outcome : World.Outcome op} {pid : Nat}
    (executed : service.world.exec op choice = some outcome)
    (insert : Stage.isInsert key op outcome.reply = true) :
    creates key ⟨pid, op, outcome.reply, outcome.effective⟩ = true := by
  unfold Stage.isInsert at insert
  split at insert
  · rename_i other dto row answered
    rcases World.exec_createQueuedMessage executed with ⟨_, _, _, reply⟩ | ⟨_, _, _, _, _, effective, _⟩
    · simp [reply] at answered
    · simp [creates, effective, insert]
  · simp at insert

theorem Moves.caches (moves : Moves config service stages event following stages')
    (staged : Staged config stages service) (idempotent : Idempotent service stages)
    (cached : following.world.cache key = some id) : following.Owns key id := by
  have kept : ∀ {key id}, service.Owns key id → following.Owns key id :=
    fun owns => moves.owns staged owns
  cases moves with
  | @resume pid choice stage _ op outcome _ found _ allowed _ executed world _ _ =>
      rw [world] at cached
      rcases World.exec_cache executed with same | ⟨other, stored, rfl, same⟩ | ⟨other, rfl, same⟩
      · rw [same] at cached
        exact kept (idempotent.cache key id cached)
      · rw [same, Function.update_apply] at cached
        split at cached
        · rename_i sameKey
          subst sameKey
          simp only [Option.some.injEq] at cached
          subst cached
          have knows : stage.Knows key stored := by
            rcases allowed with rfl | rfl <;> simp [Stage.Knows]
          exact kept (idempotent.knows pid stage key stored found knows)
        · exact kept (idempotent.cache key id cached)
      · rw [same, Function.update_apply] at cached
        split at cached
        · simp at cached
        · exact kept (idempotent.cache key id cached)
  | expireCache other =>
      simp only [Function.update_apply] at cached
      split at cached
      · simp at cached
      · exact kept (idempotent.cache key id cached)
  | _ => exact kept (idempotent.cache key id cached)

theorem Moves.knows (moves : Moves config service stages event following stages')
    (staged : Staged config stages service) (idempotent : Idempotent service stages) {pid : Nat}
    {stage : Stage} (found : stages'[pid]? = some stage) (knows : stage.Knows key id) :
    following.Owns key id := by
  have kept : ∀ {key id}, service.Owns key id → following.Owns key id :=
    fun owns => moves.owns staged owns
  cases moves with
  | @resume other choice before after op outcome _ found' _ _ transition executed world _ _ =>
      rcases getElem?_set_cases found with ⟨_, rfl⟩ | ⟨_, same⟩
      · rcases Stage.knows_next transition knows with known | reveals
        · exact kept (idempotent.knows other before key id found' known)
        · exact Reveals.owns executed world idempotent.cache kept reveals
      · exact kept (idempotent.knows pid stage key id same knows)
  | request _ =>
      rcases getElem?_concat_cases found with same | ⟨_, rfl⟩
      · exact kept (idempotent.knows pid stage key id same knows)
      · exact absurd knows (Stage.initial_knows (Stage.start_isInitial _ _))
  | execute _ _ =>
      rcases getElem?_concat_cases found with same | ⟨_, rfl⟩
      · exact kept (idempotent.knows pid stage key id same knows)
      · simp [Stage.Knows] at knows
  | _ => exact kept (idempotent.knows pid stage key id found knows)

theorem enqueues_creator {pid : Nat} {before after : Stage} {op : Op} {outcome : World.Outcome op}
    (staged : Staged config stages service) (found : stages[pid]? = some before)
    (transition : Stage.Transition config.caseMapping before op outcome.reply after)
    (enqueues : service.enqueues key ⟨pid, op, outcome.reply, outcome.effective⟩ = true) :
    Stage.isEnqueue op = true ∧ before.isCreator key = true := by
  have enqueue : Stage.isEnqueue op = true := by
    cases op <;> simp_all [Service.enqueues, Stage.isEnqueue]
  refine ⟨enqueue, ?_⟩
  obtain ⟨key', id, rfl⟩ := Stage.enqueue_creator transition enqueue
  obtain ⟨request, called, dto, rfl⟩ := staged.call found
  cases op <;> simp [Stage.isEnqueue] at enqueue
  simpa [Service.enqueues, called, Stage.isCreator] using enqueues

theorem Moves.created (moves : Moves config service stages event following stages')
    (staged : Staged config stages service) (idempotent : Idempotent service stages) :
    following.history.countP (creates key) = 0 ∨
      following.history.countP (creates key) = 1 ∧ ∃ id, following.Owns key id := by
  have kept : service.history.countP (creates key) = 1 → ∃ id, following.Owns key id := by
    intro once
    rcases idempotent.created key with none | ⟨_, id, owns⟩
    · omega
    · exact ⟨id, moves.owns staged owns⟩
  rcases moves.history with ⟨same, _⟩ |
    ⟨pid, choice, before, op, outcome, after, _, _, _, _, executed, world, history, _⟩
  · rw [same]
    rcases idempotent.created key with none | ⟨once, _⟩
    · exact Or.inl none
    · exact Or.inr ⟨once, kept once⟩
  · rw [history, List.countP_append, List.countP_singleton]
    by_cases creates : creates key ⟨pid, op, outcome.reply, outcome.effective⟩ = true
    · obtain ⟨none, owner⟩ := creates_exec executed world creates
      rcases idempotent.created key with zero | ⟨_, id, owns⟩
      · exact Or.inr ⟨by rw [zero, if_pos creates], owner⟩
      · exact absurd owns (none id)
    · rw [if_neg creates, Nat.add_zero]
      rcases idempotent.created key with none | ⟨once, _⟩
      · exact Or.inl none
      · exact Or.inr ⟨once, kept once⟩

theorem Moves.enqueued (moves : Moves config service stages event following stages')
    (staged : Staged config stages service) (idempotent : Idempotent service stages) :
    following.history.countP (following.enqueues key) + stages'.countP (Stage.isCreator key) ≤
      following.history.countP (creates key) := by
  have before := idempotent.enqueued key
  have sameCall : ∀ pid < service.processes.length, following.call pid = service.call pid :=
    fun pid below => moves.keeps_call below
  have sameCount : service.history.countP (following.enqueues key) =
      service.history.countP (service.enqueues key) := by
    refine List.countP_congr ?_
    intro entry member
    simp only [Service.enqueues, sameCall _ (staged.recorded entry member)]
  rcases moves.history with ⟨same, requests, rfl⟩ |
    ⟨pid, choice, stage, op, outcome, after, _, found, _, transition, executed, _, history, rfl⟩
  · rw [same, sameCount, List.countP_append, Stage.countP_start Stage.initial_isCreator]
    omega
  · have moved := countP_set_add (y := after) (Stage.isCreator key) found
    have below := (List.getElem?_eq_some_iff.mp found).1
    rw [staged.length] at below
    rw [history, List.countP_append, List.countP_append, List.countP_singleton,
      List.countP_singleton, sameCount]
    have sameEntry : following.enqueues key ⟨pid, op, outcome.reply, outcome.effective⟩ =
        service.enqueues key ⟨pid, op, outcome.reply, outcome.effective⟩ := by
      simp only [Service.enqueues, sameCall pid below]
    rw [sameEntry]
    by_cases enqueues : service.enqueues key ⟨pid, op, outcome.reply, outcome.effective⟩ = true
    · obtain ⟨enqueue, creator⟩ := enqueues_creator staged found transition enqueues
      have settled : after.isCreator key ≠ true := by
        intro stays
        rcases Stage.creator_next transition stays with ⟨_, other⟩ | insert
        · simp [enqueue] at other
        · cases op <;> simp [Stage.isEnqueue] at enqueue
          simp [Stage.isInsert] at insert
      rw [if_pos creator, if_neg settled] at moved
      rw [if_pos enqueues]
      omega
    · rw [if_neg enqueues]
      by_cases creator : after.isCreator key = true
      · rcases Stage.creator_next transition creator with ⟨stays, _⟩ | insert
        · rw [if_pos creator, if_pos stays] at moved
          omega
        · rw [if_pos (insert_creates executed insert)]
          rw [if_pos creator] at moved
          omega
      · rw [if_neg creator] at moved
        omega

theorem Moves.idempotent (moves : Moves config service stages event following stages')
    (staged : Staged config stages service) (idempotent : Idempotent service stages) :
    Idempotent following stages' where
  cache _ _ cached := moves.caches staged idempotent cached
  knows _ _ _ _ found knows := moves.knows staged idempotent found knows
  created _ := moves.created staged idempotent
  enqueued _ := moves.enqueued staged idempotent

theorem initial_idempotent : Idempotent initial [] where
  cache key id cached := by simp [initial, World.initial] at cached
  knows pid stage key id found := by simp at found
  created key := Or.inl rfl
  enqueued key := by simp [initial]

/-- In every interleaving, with locks and cache entries expiring and calls rejecting at any point:
each key has at most one row, created once and published at most once; a request that is accepted
answers with that row; and a cached id belongs to the row of its key. -/
theorem idempotent_creation
    (reaches : Reaches (step config) (fun _ _ => True) initial service) :
    (∀ key, service.history.countP (creates key) ≤ 1) ∧
    (∀ key, service.history.countP (service.enqueues key) ≤ 1) ∧
    (∀ first ∈ service.world.messages.rows, ∀ second ∈ service.world.messages.rows,
      first.idempotencyKey = second.idempotencyKey → first = second) ∧
    (∀ pid key dto answer, service.call pid = some (.send key dto) →
      service.result pid = some (.ok answer) →
      ∃ response row, answer = .accepted response ∧
        service.world.messages.findById response.messageId = some row ∧
        row.idempotencyKey = key) ∧
    ∀ key id, service.world.cache key = some id →
      ∃ row, service.world.messages.findById id = some row ∧ row.idempotencyKey = key := by
  obtain ⟨stages, staged, idempotent⟩ := invariant Idempotent reaches initial_idempotent
    (fun _ _ _ _ _ staged idempotent _ moves => moves.idempotent staged idempotent)
  have createdOnce : ∀ key, service.history.countP (creates key) ≤ 1 := by
    intro key
    rcases idempotent.created key with none | ⟨once, _⟩ <;> omega
  refine ⟨createdOnce, ?_, ?_, ?_, idempotent.cache⟩
  · intro key
    have published := idempotent.enqueued key
    have once := createdOnce key
    omega
  · intro first member second member' same
    exact List.inj_on_of_nodup_map service.world.messages.uniqueIdempotencyKey member member' same
  · intro pid key dto answer called result
    obtain ⟨request, stage, called', staged', settles⟩ := staged.result result
    rw [called, Option.some.injEq] at called'
    subst called'
    obtain ⟨response, rfl, reached⟩ := settles
    have knows : stage.Knows key response.messageId := by
      rcases reached with rfl | rfl <;> simp [Stage.Knows]
    obtain ⟨row, present, same⟩ := idempotent.knows pid stage key _ staged' knows
    exact ⟨response, row, rfl, present, same⟩

/-- Two requests race through the critical section, since the lock expires between them; the second
insert meets the unique constraint, and both requests are accepted. -/
theorem idempotent_creation_race : ∃ service,
    Reaches (step (.defaults ["twilio"])) (fun _ _ => True) initial service ∧
      (service.result 0).isSome ∧ (service.result 0 = service.result 1) ∧
      service.history.countP (creates "key") ≤ 1 ∧
      service.history.countP (service.enqueues "key") ≤ 1 := by
  obtain ⟨service, reaches, found⟩ := execute_exists
    (step (.defaults ["twilio"])) (fun _ _ => True) initial
    ([Event.sends "key",
      Event.sends "key"] ++
      Event.answers 0 4 ++ [.expireLock "key"] ++ Event.answers 1 4 ++ Event.answers 0 4 ++
      [.resume 1 (.answered { id := 1 })] ++ Event.answers 1 3)
    (fun service => (service.result 0).isSome && service.result 0 = service.result 1)
    (by decide)
  simp only [Bool.and_eq_true, decide_eq_true_eq] at found
  obtain ⟨creates, enqueues, _⟩ := idempotent_creation reaches
  exact ⟨service, reaches, found.1, found.2, creates "key", enqueues "key"⟩

end Service

end SmsNotification
