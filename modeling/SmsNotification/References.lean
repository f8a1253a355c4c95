import SmsNotification.Moves

/-!
The queues refer to the table: whatever is published about a message, its row is there, for a process
only publishes what it has found or inserted, and no row ever goes.
-/

namespace SmsNotification

open Concurrency

/-- The message whose row the process has found or inserted, as far as it goes on to publish it. -/
def Stage.message : Stage → Option MessageId
  | creator _ id => some id
  | eligible snapshot => some snapshot.id
  | reopened snapshot => some snapshot.id
  | loaded id => some id
  | sending id => some id
  | counted id => some id
  | throttled id => some id
  | dead id => some id
  | _ => none

def Op.message : Op → Option MessageId
  | enqueueSms id _ => some id
  | requeueSms id _ => some id
  | enqueueDeadLetter id => some id
  | _ => none

theorem Op.message_of_job {op : Op} {job : Job} (publishes : op.job? = some job) :
    op.message = some job.messageId := by
  cases op <;> cases publishes <;> rfl

def Table.Has (table : Table) (id : MessageId) : Prop := ∃ row, table.findById id = some row

namespace World

variable {world : World} {choice : Choice} {op : Op} {outcome : World.Outcome op}

theorem exec_has (executed : world.exec op choice = some outcome) {id : MessageId}
    (has : world.messages.Has id) : outcome.world.messages.Has id := by
  obtain ⟨row, found⟩ := has
  rcases exec_messages executed with same | ⟨statement, _, same⟩ | ⟨_, _, _, _, _, _, _, same⟩
  · exact ⟨row, by rw [same, found]⟩
  · exact ⟨statement.run row, by rw [same, Table.findById_update, found, Option.map_some]⟩
  · exact ⟨row, by rw [same, Table.findById_insert_some found]⟩

theorem exec_deadLetters (executed : world.exec op choice = some outcome) :
    outcome.world.deadLetters = world.deadLetters ∨
      ∃ id, op = .enqueueDeadLetter id ∧
        outcome.world.deadLetters = world.deadLetters ++ [id] := by
  rcases exec_cases executed with ⟨same, _⟩ | ⟨hint, inner, performed, same, _⟩
  · exact Or.inl (by rw [same])
  · rw [same]
    cases op <;> simp only [perform] at performed <;> grind [addJob]

end World

namespace Stage

variable {caseMapping : Js.CaseMapping} {stage stage' : Stage} {op : Op} {id : MessageId}

theorem message_allowed (allowed : stage.Allowed op) (publishes : op.message = some id) :
    stage.message = some id := by
  cases op with
  | enqueueSms other attempts =>
      obtain ⟨key, rfl⟩ := allowed
      exact publishes
  | requeueSms other attempts =>
      obtain ⟨snapshot, rfl, rfl⟩ := allowed
      exact publishes
  | enqueueDeadLetter other =>
      cases allowed
      exact publishes
  | _ => cases publishes

theorem initial_message (initial : stage.isInitial = true) : stage.message ≠ some id := by
  cases stage <;> simp_all [isInitial, message]

theorem message_next {world : World} {choice : Choice} {outcome : World.Outcome op}
    (transition : Transition caseMapping stage op outcome.reply stage')
    (executed : world.exec op choice = some outcome) (about : stage'.message = some id) :
    stage.message = some id ∨ outcome.world.messages.Has id := by
  have found : ∀ {row : SmsMessage} {other : MessageId},
      world.messages.findById other = some row → row.id = id → outcome.world.messages.Has id := by
    intro row other present same
    apply World.exec_has executed
    rw [Table.findById_id present] at same
    exact ⟨row, same ▸ present⟩
  generalize answer : outcome.reply = reply at transition
  cases transition with
  | created =>
      rcases World.exec_createQueuedMessage executed with
        ⟨_, _, error, rejected⟩ | ⟨newId, createdAt, fresh, freshKey, world, _, replied⟩
      · rw [answer] at rejected
        cases rejected
      · rcases replied with ⟨_, replied⟩ | ⟨_, message, replied⟩
        · rw [answer, Except.ok.injEq] at replied
          subst replied
          cases about
          right
          rw [world]
          exact ⟨_, Table.findById_inserted fresh freshKey⟩
        · rw [answer] at replied
          cases replied
  | eligible =>
      exact Or.inr (found (World.exec_findById executed answer) (Option.some.inj about))
  | loaded same =>
      exact Or.inr (found (World.exec_findById executed answer) (same.trans (Option.some.inj about)))
  | quiet => exact Or.inl about
  | stored source => exact Or.inl about
  | unlocked => exact Or.inl about
  | _ => first
      | exact Or.inl about
      | cases about

end Stage

namespace Service

variable {config : Config} {service following : Service} {stages stages' : List Stage}
  {event : Event}

structure Referenced (service : Service) (stages : List Stage) : Prop where
  stages : ∀ (pid : Nat) (stage : Stage) (id : MessageId), stages[pid]? = some stage →
    stage.message = some id → service.world.messages.Has id
  jobs : ∀ job ∈ service.world.jobs, service.world.messages.Has job.messageId
  deadLetters : ∀ id ∈ service.world.deadLetters, service.world.messages.Has id

theorem Moves.has (moves : Moves config service stages event following stages') {id : MessageId}
    (has : service.world.messages.Has id) : following.world.messages.Has id := by
  cases moves with
  | resume _ _ _ _ executed world =>
      rw [world]
      exact World.exec_has executed has
  | _ => exact has

theorem Moves.referenced (moves : Moves config service stages event following stages')
    (referenced : Referenced service stages) : Referenced following stages' := by
  have message : ∀ {pid : Nat} {stage : Stage} {op : Op} {id : MessageId},
      stages[pid]? = some stage → stage.Allowed op → op.message = some id →
      following.world.messages.Has id := by
    intro pid stage op id found allowed publishes
    exact moves.has (referenced.stages pid stage id found
      (Stage.message_allowed allowed publishes))
  constructor
  · intro pid stage id found about
    have earlier : stages[pid]? = some stage → following.world.messages.Has id :=
      fun same => moves.has (referenced.stages pid stage id same about)
    cases moves with
    | @resume other choice before after op outcome _ present _ _ transition executed world =>
        rcases getElem?_set_cases found with ⟨_, rfl⟩ | ⟨_, same⟩
        · rw [world]
          rcases Stage.message_next transition executed about with known | has
          · exact World.exec_has executed (referenced.stages other before id present known)
          · exact has
        · exact earlier same
    | request _ =>
        rcases getElem?_concat_cases found with same | ⟨_, rfl⟩
        · exact earlier same
        · exact absurd about (Stage.initial_message (Stage.start_isInitial _ _))
    | execute _ _ =>
        rcases getElem?_concat_cases found with same | ⟨_, rfl⟩
        · exact earlier same
        · cases about
    | _ => exact earlier found
  · intro job member
    rcases moves.jobs member with ⟨before, earlier, same, _⟩ |
      ⟨pid, choice, stage, op, outcome, stage', _, found, allowed, published, _⟩
    · exact same ▸ moves.has (referenced.jobs before earlier)
    · exact message found allowed (Op.message_of_job published)
  · intro id member
    cases moves with
    | resume found awaits allowed _ executed world =>
        rw [world] at member
        rcases World.exec_deadLetters executed with same | ⟨letter, rfl, same⟩
        · rw [same] at member
          exact (world ▸ World.exec_has executed (referenced.deadLetters id member))
        · rw [same] at member
          rcases List.mem_append.mp member with earlier | new
          · exact (world ▸ World.exec_has executed (referenced.deadLetters id earlier))
          · obtain rfl := List.mem_singleton.mp new
            exact message found allowed rfl
    | _ => exact referenced.deadLetters id member

theorem referenced_reached {permitted : Service → Event → Prop}
    (reaches : Reaches (step config) permitted initial service) :
    (∀ job ∈ service.world.jobs, service.world.messages.Has job.messageId) ∧
      (∀ id ∈ service.world.deadLetters, service.world.messages.Has id) ∧
      ∀ pid op id, service.awaits pid = some op → op.message = some id →
        service.world.messages.Has id := by
  have initially : Referenced initial [] := by
    constructor
    · intro pid stage id found
      simp at found
    · intro job member
      simp [initial, World.initial] at member
    · intro id member
      simp [initial, World.initial] at member
  obtain ⟨stages, staged, referenced⟩ := invariant Referenced reaches initially
    fun _ _ _ _ _ _ referenced _ moves => moves.referenced referenced
  refine ⟨referenced.jobs, referenced.deadLetters, ?_⟩
  intro pid op id awaits publishes
  obtain ⟨_, stage, _, found, _, allowed⟩ := staged.awaits awaits
  exact referenced.stages pid stage id found (Stage.message_allowed allowed publishes)

end Service

end SmsNotification
