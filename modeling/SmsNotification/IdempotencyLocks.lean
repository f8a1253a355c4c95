import SmsNotification.Footprints
import SmsNotification.Systems

/-!
The lock that `sendSmsRequest` takes around the creation of a message. A ghost stage tells whether
a process is between the acquisition and the release, which makes mutual exclusion, and what it
protects, statements about every run.
-/

namespace SmsNotification

open Concurrency

/-- A process may take the lock of its key, or has it, or has it and has found no message under its
key, or has nothing to do with a lock any more. -/
inductive LockStage
  | outside (idempotencyKey : Option String)
  | holding (lock : IdempotencyLock)
  | clear (lock : IdempotencyLock)
  deriving DecidableEq

def Op.locks : Op → Bool
  | acquireLock _ => true
  | releaseLock _ => true
  | createQueuedMessage _ _ => true
  | _ => false

namespace LockStage

def lock? : LockStage → Option IdempotencyLock
  | outside _ => none
  | holding lock => some lock
  | clear lock => some lock

def Allowed (stage : LockStage) : Op → Prop
  | .acquireLock key => stage = .outside (some key)
  | .createQueuedMessage key _ => ∃ lock, stage = .clear lock ∧ lock.key = key
  | .releaseLock lock => stage.lock? = some lock
  | _ => True

def Grants : (op : Op) → Except Failure op.Reply → Prop
  | .acquireLock key, .ok (some lock) => lock.key = key
  | _, _ => True

def next (stage : LockStage) : (op : Op) → Except Failure op.Reply → LockStage
  | .acquireLock _, .ok (some lock) => .holding lock
  | .acquireLock _, _ => .outside none
  | .findByIdempotencyKey key, .ok none =>
      match stage with
      | .holding lock => if lock.key = key then .clear lock else .holding lock
      | stage => stage
  | .createQueuedMessage _ _, _ =>
      match stage with
      | .clear lock => .holding lock
      | stage => stage
  | .releaseLock _, _ => .outside none
  | _, _ => stage

abbrev protocol : Protocol Op Op.Reply Failure where
  Stage := LockStage
  allowed := Allowed
  replies op reply := Stage.Replies op reply ∧ Grants op reply
  next := next

def start : Call → LockStage
  | .send key _ => .outside (some key)
  | _ => .outside none

inductive Transition : LockStage → (op : Op) → Except Failure op.Reply → LockStage → Prop
  | granted {key lock} : lock.key = key →
      Transition (.outside (some key)) (.acquireLock key) (.ok (some lock)) (.holding lock)
  | refused {key reply} : (∀ lock, reply ≠ .ok (some lock)) →
      Transition (.outside (some key)) (.acquireLock key) reply (.outside none)
  | absent {lock} :
      Transition (.holding lock) (.findByIdempotencyKey lock.key) (.ok none) (.clear lock)
  | created {lock dto reply} :
      Transition (.clear lock) (.createQueuedMessage lock.key dto) reply (.holding lock)
  | released {stage lock reply} : lock? stage = some lock →
      Transition stage (.releaseLock lock) reply (.outside none)
  | other {stage op reply} : op.locks = false → Transition stage op reply stage

variable {stage : LockStage} {op : Op} {reply : Except Failure op.Reply} {lock : IdempotencyLock}

theorem next_outside {key : Option String} (other : op.locks = false) :
    next (.outside key) op reply = .outside key := by
  cases op with
  | findByIdempotencyKey => rcases reply with _ | _ | _ <;> rfl
  | acquireLock | releaseLock | createQueuedMessage => simp [Op.locks] at other
  | _ => rfl

theorem next_lock (other : op.locks = false) : (next stage op reply).lock? = stage.lock? := by
  cases stage with
  | outside key => rw [next_outside other]
  | holding lock =>
      cases op with
      | findByIdempotencyKey key =>
          rcases reply with _ | _ | _
          · rfl
          · simp only [next]
            split <;> rfl
          · rfl
      | acquireLock | releaseLock | createQueuedMessage => simp [Op.locks] at other
      | _ => rfl
  | clear lock =>
      cases op with
      | findByIdempotencyKey => rcases reply with _ | _ | _ <;> rfl
      | acquireLock | releaseLock | createQueuedMessage => simp [Op.locks] at other
      | _ => rfl

theorem allowed_other (other : op.locks = false) : stage.Allowed op := by
  cases op with
  | acquireLock | releaseLock | createQueuedMessage => simp [Op.locks] at other
  | _ => trivial

theorem transition (allowed : stage.Allowed op) (granted : Grants op reply) :
    Transition stage op reply (stage.next op reply) := by
  cases op with
  | acquireLock key =>
      cases allowed
      rcases reply with error | _ | lock
      · exact .refused (by simp)
      · exact .refused (by simp)
      · exact .granted granted
  | createQueuedMessage key dto =>
      obtain ⟨lock, rfl, rfl⟩ := allowed
      cases reply <;> exact .created
  | releaseLock lock => cases reply <;> exact .released allowed
  | findByIdempotencyKey key =>
      rcases reply with error | _ | message
      · exact .other rfl
      · cases stage with
        | holding lock =>
            by_cases own : lock.key = key
            · subst own
              simp only [next, if_true]
              exact .absent
            · simp only [next, own, if_false]
              exact .other rfl
        | _ => exact .other rfl
      · exact .other rfl
  | _ => exact .other rfl

end LockStage

section Idle

theorem call_locks {op : Op} (other : op.locks = false) : (call op).AtMost Op.locks 0 :=
  Program.atMost_perform (by simp [other])

theorem beyondLookup_of_locks (op : Op) (locks : op.locks = true) : op.beyondLookup = true := by
  cases op <;> simp_all [Op.locks, Op.beyondLookup]

theorem beyondPublication_of_locks {row : SmsMessage} (op : Op) (locks : op.locks = true) :
    op.beyondPublication row = true := by
  cases op <;> simp_all [Op.locks, Op.beyondPublication]

end Idle

section Conformance

variable {config : Config} {key : String} {dto : SendSmsDto} {α : Type} {program : Action α}
  {lock : IdempotencyLock} {stage : LockStage}

open SmsService

theorem locks_call {op : Op} {post : LockStage → Except Failure op.Reply → Prop}
    (allowed : stage.Allowed op)
    (answered : ∀ reply, LockStage.Grants op reply → post (stage.next op reply) reply) :
    (call op).Follows LockStage.protocol post stage :=
  ⟨allowed, fun reply possible => answered reply possible.2⟩

theorem outside_follows (idle : program.AtMost Op.locks 0) (key : Option String) :
    program.Follows LockStage.protocol (fun final _ => final = LockStage.outside key)
      (LockStage.outside key) := by
  refine idle.follows LockStage.protocol (fun stage => stage = LockStage.outside key) rfl ?_ ?_
  · exact fun _ _ _ other => LockStage.allowed_other other
  · rintro _ op reply rfl other
    exact LockStage.next_outside other

theorem inside_follows (idle : program.AtMost Op.locks 0) (inside : stage.lock? = some lock) :
    program.Follows LockStage.protocol (fun final _ => LockStage.lock? final = some lock) stage := by
  refine idle.follows LockStage.protocol (fun stage => LockStage.lock? stage = some lock) inside ?_ ?_
  · exact fun _ _ _ other => LockStage.allowed_other other
  · exact fun _ _ _ inside other => (LockStage.next_lock other).trans inside

theorem createUnderLock_locks (own : lock.key = key) :
    (createUnderLock config key dto).Follows LockStage.protocol
      (fun final _ => final.lock? = some lock) (.holding lock) := by
  have answered : ∀ {stage : LockStage} (id : MessageId) (response : SendSmsResponse),
      stage.lock? = some lock →
      (do IdempotencyService.storeMessageId key id
          pure response : Action SendSmsResponse).Follows LockStage.protocol
        (fun final _ => final.lock? = some lock) stage :=
    fun id response inside =>
      inside_follows ((call_locks rfl).idle_bind fun _ => Program.atMost_pure _) inside
  simp only [createUnderLock, findByIdempotencyKey, Program.follows_bind]
  refine locks_call trivial ?_
  rintro (error | _ | message) _
  · rfl
  · simp only [LockStage.next, own, if_true, Program.then_ok, createQueuedMessage,
      Program.follows_bind]
    refine locks_call ⟨lock, rfl, own⟩ ?_
    rintro (error | message) _
    · rfl
    · simp only [Program.then_ok, Program.follows_bind]
      refine (inside_follows (publishQueuedMessage_publication.part beyondPublication_of_locks) rfl).mono ?_
      rintro stage (error | _) inside
      · exact inside
      · exact answered message.id (toResponse message) inside
  · exact answered message.id (toResponse message) rfl

theorem releaseLock_locks (inside : stage.lock? = some lock) :
    (releaseLock lock).Follows LockStage.protocol
      (fun final result => final = .outside none ∧ result = .ok ()) stage := by
  simp only [releaseLock, IdempotencyService.releaseLock, Program.follows_tryCatch]
  refine locks_call inside ?_
  rintro (error | _) _ <;> exact ⟨rfl, rfl⟩

theorem sendSmsRequest_locks :
    (sendSmsRequest config key dto).Follows LockStage.protocol
      (fun final _ => final.lock? = none) (.outside (some key)) := by
  have outside : ∀ {α : Type} {program : Action α} {post : LockStage → Except Failure α → Prop},
      program.AtMost Op.locks 0 → (∀ result, post (.outside (some key)) result) →
      program.Follows LockStage.protocol post (.outside (some key)) := by
    intro α program post idle holds
    refine (outside_follows idle (some key)).mono ?_
    rintro stage result rfl
    exact holds result
  have answers : ∀ (id : MessageId) (response : SendSmsResponse),
      (do IdempotencyService.storeMessageId key id
          pure response : Action SendSmsResponse).Follows LockStage.protocol
        (fun final _ => final.lock? = none) (.outside (some key)) :=
    fun id response =>
      outside ((call_locks rfl).idle_bind fun _ => Program.atMost_pure _) fun _ => rfl
  simp only [sendSmsRequest, validateMessageLength]
  split
  · rfl
  simp only [Program.follows_bind, Program.follows_pure, Program.then_ok]
  refine outside (findFromIdempotencyCache_lookup.part beyondLookup_of_locks) ?_
  rintro (error | _ | message)
  · rfl
  · simp only [Program.then_ok, Program.follows_bind]
    refine outside (call_locks rfl) ?_
    rintro (error | _ | message)
    · rfl
    · simp only [Program.then_ok, IdempotencyService.acquireLock, Program.follows_bind]
      refine locks_call rfl ?_
      rintro (error | _ | lock) granted
      · rfl
      · simp only [Program.then_ok, Program.follows_bind]
        refine (outside_follows ((waitForMessageCreatedByConcurrentRequest_lookup 20).part
          beyondLookup_of_locks) none).mono ?_
        rintro stage (error | _ | message) rfl <;> rfl
      · simp only [Program.then_ok, Program.follows_finallyDo, Program.follows_tryCatch]
        have released : ∀ {stage : LockStage} (result : Except Failure SendSmsResponse),
            stage.lock? = some lock →
              (releaseLock lock).Follows LockStage.protocol
                (Program.Then _ (fun final _ => final.lock? = none) fun _ => .settled result)
                stage := by
          intro stage result inside
          refine (releaseLock_locks inside).mono ?_
          rintro final _ ⟨rfl, rfl⟩
          rfl
        refine (createUnderLock_locks granted).mono ?_
        rintro stage (error | response) inside
        · refine (inside_follows ((recoverUnderLock_lookup error).part beyondLookup_of_locks) inside).mono ?_
          exact fun stage result inside => released result inside
        · exact released _ inside
    · exact answers message.id (toResponse message)
  · rfl

theorem locks_of_serves {caseMapping : Js.CaseMapping} {request : Call} {stage : Stage} {op : Op}
    (other : ∀ key dto, request ≠ .send key dto) (serves : stage.Serves caseMapping request)
    (allowed : stage.Allowed op) : op.locks = false := by
  cases request with
  | send key dto => exact absurd rfl (other key dto)
  | _ =>
      cases op with
      | acquireLock key =>
          cases allowed
          simp [Stage.Serves] at serves
      | createQueuedMessage key dto =>
          cases allowed
          simp [Stage.Serves] at serves
      | releaseLock lock =>
          rcases allowed with ⟨key, rfl⟩ | ⟨key, id, rfl⟩ | ⟨key, id, rfl⟩ | rfl <;>
            simp [Stage.Serves] at serves
      | _ => rfl

theorem program_locks (request : Call) :
    (request.program config).Follows LockStage.protocol (fun final _ => final.lock? = none)
      (LockStage.start request) := by
  cases request with
  | send key dto =>
      simp only [Call.program, Program.follows_bind]
      refine sendSmsRequest_locks.mono ?_
      rintro stage (error | response) released <;> exact released
  | _ =>
      refine Call.follows_of_stages _ (fun _ stage => stage = .outside none) rfl
        (fun _ _ possible => possible.1) ?_ ?_ ?_
      · rintro stage _ op serves rfl allowed
        exact LockStage.allowed_other (locks_of_serves (by simp) serves allowed)
      · rintro stage _ op reply following serves rfl allowed _ _
        exact LockStage.next_outside (locks_of_serves (by simp) serves allowed)
      · rintro stage _ result _ rfl _
        rfl

end Conformance

section Stages

variable {World : Type}

def lockStage (pool : Pool Op Op.Reply Failure Call Answer World) (pid : Nat) : Option LockStage :=
  pool.processes[pid]?.map fun process =>
    LockStage.protocol.reached (LockStage.start process.tag) (pool.entriesOf pid)

def heldLock (pool : Pool Op Op.Reply Failure Call Answer World) (pid : Nat) :
    Option IdempotencyLock :=
  (lockStage pool pid).bind LockStage.lock?

theorem heldLock_iff {pool : Pool Op Op.Reply Failure Call Answer World} {pid : Nat}
    {lock : IdempotencyLock} : heldLock pool pid = some lock ↔
      ∃ stage, lockStage pool pid = some stage ∧ stage.lock? = some lock :=
  Option.bind_eq_some_iff

def KeepsStages (pool following : Pool Op Op.Reply Failure Call Answer World) : Prop :=
  ∀ pid, lockStage following pid = lockStage pool pid ∨
    lockStage pool pid = none ∧ ∃ call, lockStage following pid = some (LockStage.start call)

inductive LockMoves (system : System Op Op.Reply Failure Call Answer World Choice)
    (pool following : Pool Op Op.Reply Failure Call Answer World) : Prop
  | quiet : system.changes pool following.world → following.history = pool.history →
      KeepsStages pool following → LockMoves system pool following
  | operation {pid : Nat} {choice : Choice} {stage stage' : LockStage} {op : Op}
      {reply : Except Failure op.Reply} {left : World} {effective : Bool} :
      system.admits pool pid choice → lockStage pool pid = some stage →
      pool.awaits pid = some op → stage.Transition op reply stage' →
      system.exec pool.world op choice = some ⟨reply, left, effective⟩ →
      following.world = left → following.history = pool.history ++ [⟨pid, op, reply, effective⟩] →
      (∀ other, lockStage following other =
        if other = pid then some stage' else lockStage pool other) →
      LockMoves system pool following

variable {system : System Op Op.Reply Failure Call Answer World Choice}
  {pool following : Pool Op Op.Reply Failure Call Answer World}

def LockStage.discipline (system : System Op Op.Reply Failure Call Answer World Choice)
    (conforms : ∀ call, (system.program call).Follows LockStage.protocol
      (fun final _ => LockStage.lock? final = none) (LockStage.start call))
    (replies : ∀ world op choice completion, system.exec world op choice = some completion →
      Stage.Replies op completion.reply ∧ LockStage.Grants op completion.reply) :
    Discipline system where
  protocol := LockStage.protocol
  start := LockStage.start
  settles _ final _ := LockStage.lock? final = none
  conforms := conforms
  replies := replies

theorem LockStage.moves {conforms} {replies}
    (effect : (LockStage.discipline system conforms replies).Effect pool following) :
    LockMoves system pool following := by
  cases effect with
  | quiet changed history stages =>
      refine .quiet changed history ?_
      intro pid
      rcases stages pid with ⟨same, _⟩ | ⟨absent, call, _, started⟩
      · exact Or.inl same
      · exact Or.inr ⟨absent, call, started⟩
  | @operation pid choice stage op completion admitted staged awaits allowed possible executed world
      history stages _ =>
      exact .operation admitted staged awaits (LockStage.transition allowed possible.2) executed
        world history stages

theorem KeepsStages.heldLock (keeps : KeepsStages pool following) (pid : Nat) :
    heldLock following pid = heldLock pool pid := by
  rcases keeps pid with same | ⟨absent, call, started⟩
  · rw [SmsNotification.heldLock, same, SmsNotification.heldLock]
  · rw [SmsNotification.heldLock, started, SmsNotification.heldLock, absent]
    cases call <;> rfl

theorem KeepsStages.clear (keeps : KeepsStages pool following) {pid : Nat}
    {lock : IdempotencyLock} (staged : lockStage following pid = some (.clear lock)) :
    lockStage pool pid = some (.clear lock) := by
  rcases keeps pid with same | ⟨_, call, started⟩
  · exact same ▸ staged
  · rw [started] at staged
    cases call <;> simp [LockStage.start] at staged

end Stages

end SmsNotification
