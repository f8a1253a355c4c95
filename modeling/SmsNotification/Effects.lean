import SmsNotification.Concurrency.Run
import SmsNotification.Conformance

/-!
The effect of one executed operation on each part of the world, said once.
-/

namespace SmsNotification

open Concurrency

def Op.job? : Op → Option Job
  | .enqueueSms id attempts =>
      some { messageId := id, fromRequeue := false, attempts := attempts }
  | .requeueSms id attempts =>
      some { messageId := id, fromRequeue := true, attempts := attempts }
  | _ => none

namespace World

variable {world : World} {op : Op} {choice : Choice} {outcome : World.Outcome op}

theorem exec_cases (executed : world.exec op choice = some outcome) :
    (outcome.world = world ∧ outcome.effective = false ∧ choice.isExecuted = false ∧
      ∃ message, outcome.reply = .error (.rejection message)) ∨
    ∃ hint inner, world.perform hint op = some inner ∧ outcome.world = inner.world ∧
      outcome.effective = inner.effective ∧
      ((choice.isAnswered = true ∧ outcome.reply = inner.reply) ∨
        (choice.isLost = true ∧ ∃ message, outcome.reply = .error (.rejection message))) := by
  cases choice with
  | answered hint => exact Or.inr ⟨hint, outcome, executed, rfl, rfl, Or.inl ⟨rfl, rfl⟩⟩
  | rejected message =>
      simp only [exec] at executed
      split at executed
      · simp only [Option.some.injEq] at executed
        subst executed
        exact Or.inl ⟨rfl, rfl, rfl, message, rfl⟩
      · simp at executed
  | lost hint message =>
      simp only [exec] at executed
      split at executed
      · obtain ⟨inner, performed, rfl⟩ := Option.map_eq_some_iff.mp executed
        exact Or.inr ⟨hint, inner, performed, rfl, rfl, Or.inr ⟨rfl, message, rfl⟩⟩
      · simp at executed

theorem exec_ok {value : op.Reply} (executed : world.exec op choice = some outcome)
    (answered : outcome.reply = .ok value) :
    ∃ hint inner, world.perform hint op = some inner ∧ inner.reply = .ok value ∧
      outcome.world = inner.world ∧ outcome.effective = inner.effective := by
  rcases exec_cases executed with ⟨_, _, _, _, reply⟩ | ⟨hint, inner, performed, same, effective, reply⟩
  · simp [reply] at answered
  · rcases reply with ⟨_, reply⟩ | ⟨_, _, reply⟩
    · exact ⟨hint, inner, performed, reply ▸ answered, same, effective⟩
    · simp [reply] at answered

theorem exec_getMessageId {key : String} {id : MessageId}
    {outcome : World.Outcome (.getMessageId key)}
    (executed : world.exec (.getMessageId key) choice = some outcome)
    (answered : outcome.reply = .ok (some id)) : world.cache key = some id := by
  obtain ⟨hint, inner, performed, reply, _⟩ := exec_ok executed answered
  simp only [perform, Option.some.injEq] at performed
  subst performed
  simpa using reply

theorem exec_findById {id : MessageId} {row : Option SmsMessage}
    {outcome : World.Outcome (.findById id)}
    (executed : world.exec (.findById id) choice = some outcome)
    (answered : outcome.reply = .ok row) : world.messages.findById id = row := by
  obtain ⟨hint, inner, performed, reply, _⟩ := exec_ok executed answered
  simp only [perform, Option.some.injEq] at performed
  subst performed
  simpa using reply

theorem exec_findByIdempotencyKey {key : String} {row : Option SmsMessage}
    {outcome : World.Outcome (.findByIdempotencyKey key)}
    (executed : world.exec (.findByIdempotencyKey key) choice = some outcome)
    (answered : outcome.reply = .ok row) : world.messages.findByIdempotencyKey key = row := by
  obtain ⟨hint, inner, performed, reply, _⟩ := exec_ok executed answered
  simp only [perform, Option.some.injEq] at performed
  subst performed
  simpa using reply

theorem exec_update {statement : Update} {outcome : World.Outcome (.update statement)}
    (executed : world.exec (.update statement) choice = some outcome) :
    (outcome.world = world ∧ outcome.effective = false ∧ choice.isExecuted = false ∧
      ∃ message, outcome.reply = .error (.rejection message)) ∨
    (outcome.world = { world with messages := world.messages.update statement } ∧
      outcome.effective = world.messages.affected statement ∧
      ((choice.isAnswered = true ∧ outcome.reply = .ok (world.messages.affected statement)) ∨
        (choice.isLost = true ∧ ∃ message, outcome.reply = .error (.rejection message)))) := by
  rcases exec_cases executed with rejected | ⟨hint, inner, performed, same, effective, reply⟩
  · exact Or.inl rejected
  · simp only [perform, Option.some.injEq] at performed
    subst performed
    exact Or.inr ⟨same, effective, reply⟩

theorem exec_update_messages {statement : Update} {outcome : World.Outcome (.update statement)}
    (executed : world.exec (.update statement) choice = some outcome)
    (answered : choice.isAnswered = true) :
    outcome.world.messages = world.messages.update statement := by
  rcases exec_update executed with ⟨_, _, rejected, _⟩ | ⟨same, _⟩
  · cases choice <;> simp [Choice.isAnswered, Choice.isExecuted] at answered rejected
  · rw [same]

theorem exec_findByProviderMessageId {provider providerMessageId : String} {row : SmsMessage}
    {outcome : World.Outcome (.findByProviderMessageId provider providerMessageId)}
    (executed : world.exec (.findByProviderMessageId provider providerMessageId) choice =
      some outcome)
    (answered : outcome.reply = .ok (some row)) :
    world.messages.findById row.id = some row ∧ row.selectedProvider = some provider ∧
      row.providerMessageId = some providerMessageId := by
  obtain ⟨hint, inner, performed, reply, _⟩ := exec_ok executed answered
  simp only [perform] at performed
  split at performed
  · simp only [Option.some.injEq] at performed
    subst performed
    simp at reply
  · rename_i first rest matching
    obtain ⟨chosen, picked, rfl⟩ := Option.map_eq_some_iff.mp performed
    simp only [Except.ok.injEq, Option.some.injEq] at reply
    subst reply
    have member := List.mem_of_getElem? picked
    rw [← matching] at member
    exact Table.findByProviderMessageId_mem member

theorem exec_findByProviderMessageId_none {provider providerMessageId : String}
    {outcome : World.Outcome (.findByProviderMessageId provider providerMessageId)}
    (executed : world.exec (.findByProviderMessageId provider providerMessageId) choice =
      some outcome)
    (answered : outcome.reply = .ok none) :
    world.messages.findByProviderMessageId provider providerMessageId = [] := by
  obtain ⟨hint, inner, performed, reply, _⟩ := exec_ok executed answered
  simp only [perform] at performed
  split at performed
  · assumption
  · obtain ⟨chosen, _, rfl⟩ := Option.map_eq_some_iff.mp performed
    simp at reply

theorem exec_createQueuedMessage {key : String} {dto : SendSmsDto}
    {outcome : World.Outcome (.createQueuedMessage key dto)}
    (executed : world.exec (.createQueuedMessage key dto) choice = some outcome) :
    (outcome.world = world ∧ outcome.effective = false ∧ ∃ error, outcome.reply = .error error) ∨
    ∃ id createdAt newId newKey,
      outcome.world = { world with
        messages := world.messages.insert (queuedMessage id createdAt key dto) newId newKey } ∧
      outcome.effective = true ∧
      ((choice.isAnswered = true ∧ outcome.reply = .ok (queuedMessage id createdAt key dto)) ∨
        (choice.isLost = true ∧ ∃ message, outcome.reply = .error (.rejection message))) := by
  rcases exec_cases executed with
    ⟨same, effective, _, message, reply⟩ | ⟨hint, inner, performed, same, effective, reply⟩
  · exact Or.inl ⟨same, effective, _, reply⟩
  · simp only [perform] at performed
    split at performed
    · rename_i newId
      split at performed
      · rename_i newKey
        simp only [Option.some.injEq] at performed
        subst performed
        exact Or.inr ⟨hint.id, hint.date, newId, newKey, same, effective, reply⟩
      · simp only [Option.some.injEq] at performed
        subst performed
        refine Or.inl ⟨same, effective, ?_⟩
        rcases reply with ⟨_, reply⟩ | ⟨_, _, reply⟩
        · exact ⟨_, reply⟩
        · exact ⟨_, reply⟩
    · simp at performed

theorem exec_lost_insert {key : String} {dto : SendSmsDto} {hint : Hint} {message : Option String}
    {outcome : World.Outcome (.createQueuedMessage key dto)} {id : MessageId} {row : SmsMessage}
    (executed : world.exec (.createQueuedMessage key dto) (.lost hint message) = some outcome)
    (absent : world.messages.findById id = none)
    (present : outcome.world.messages.findById id = some row) : hint.id = id := by
  simp only [exec, Op.fallible, if_true] at executed
  obtain ⟨inner, performed, rfl⟩ := Option.map_eq_some_iff.mp executed
  simp only [perform] at performed
  split at performed
  · rename_i newId
    split at performed
    · rename_i newKey
      simp only [Option.some.injEq] at performed
      subst performed
      exact Table.findById_insert_new newId newKey absent present
    · simp only [Option.some.injEq] at performed
      subst performed
      simp [absent] at present
  · simp at performed

@[simp] theorem addJob_messages (world : World) (job : Job) :
    (world.addJob job).1.messages = world.messages := by
  unfold addJob
  split <;> rfl

@[simp] theorem addJob_cache (world : World) (job : Job) :
    (world.addJob job).1.cache = world.cache := by
  unfold addJob
  split <;> rfl

@[simp] theorem addJob_claims (world : World) (job : Job) :
    (world.addJob job).1.claims = world.claims := by
  unfold addJob
  split <;> rfl

theorem exec_messages (executed : world.exec op choice = some outcome) :
    outcome.world.messages = world.messages ∨
    (∃ statement, op = .update statement ∧
      outcome.world.messages = world.messages.update statement) ∨
    ∃ key dto id createdAt newId newKey, op = .createQueuedMessage key dto ∧
      outcome.world.messages =
        world.messages.insert (queuedMessage id createdAt key dto) newId newKey := by
  cases op with
  | update statement =>
      rcases exec_update executed with ⟨same, _⟩ | ⟨same, _⟩
      · exact Or.inl (by rw [same])
      · exact Or.inr (Or.inl ⟨statement, rfl, by rw [same]⟩)
  | createQueuedMessage key dto =>
      rcases exec_createQueuedMessage executed with
        ⟨same, _⟩ | ⟨id, createdAt, newId, newKey, same, _⟩
      · exact Or.inl (by rw [same])
      · exact Or.inr (Or.inr ⟨key, dto, id, createdAt, newId, newKey, rfl, by rw [same]⟩)
  | _ =>
      left
      rcases exec_cases executed with ⟨same, _⟩ | ⟨hint, inner, performed, same, _⟩
      · rw [same]
      · rw [same]
        simp only [perform] at performed
        grind [addJob_messages]

theorem exec_messages_other (executed : world.exec op choice = some outcome)
    (noUpdate : ∀ statement, op ≠ .update statement)
    (noInsert : ∀ key dto, op ≠ .createQueuedMessage key dto) :
    outcome.world.messages = world.messages := by
  rcases exec_messages executed with same | ⟨statement, same, _⟩ | ⟨key, dto, _, _, _, _, same, _⟩
  · exact same
  · exact absurd same (noUpdate statement)
  · exact absurd same (noInsert key dto)

theorem exec_cache (executed : world.exec op choice = some outcome) :
    outcome.world.cache = world.cache ∨
    (∃ key id, op = .storeMessageId key id ∧
      outcome.world.cache = Function.update world.cache key (some id)) ∨
    ∃ key, op = .deleteMessageId key ∧
      outcome.world.cache = Function.update world.cache key none := by
  rcases exec_cases executed with ⟨same, _⟩ | ⟨hint, inner, performed, same, _⟩
  · exact Or.inl (by rw [same])
  · rw [same]
    cases op <;> simp only [perform] at performed <;> grind [addJob_cache]

theorem exec_claims (executed : world.exec op choice = some outcome) :
    outcome.world.claims = world.claims ∨
    (∃ webhookId, op = .claimBirdWebhook webhookId ∧ world.claims webhookId = false ∧
      outcome.world.claims = Function.update world.claims webhookId true) ∨
    ∃ webhookId, op = .releaseBirdWebhook webhookId ∧
      outcome.world.claims = Function.update world.claims webhookId false := by
  rcases exec_cases executed with ⟨same, _⟩ | ⟨hint, inner, performed, same, _⟩
  · exact Or.inl (by rw [same])
  · rw [same]
    cases op <;> simp only [perform] at performed <;> grind [addJob_claims]

theorem exec_jobs (executed : world.exec op choice = some outcome) :
    outcome.world.jobs = world.jobs ∨
    ∃ job, op.job? = some job ∧ outcome.effective = true ∧
      outcome.world.jobs = world.jobs ++ [job] := by
  rcases exec_cases executed with ⟨same, _⟩ | ⟨hint, inner, performed, same, effective, _⟩
  · exact Or.inl (by rw [same])
  · rw [same, effective]
    cases op <;> simp only [perform] at performed <;> grind [addJob, Op.job?]

theorem exec_keeps_job (executed : world.exec op choice = some outcome) {job : Job}
    (member : job ∈ world.jobs) : job ∈ outcome.world.jobs := by
  rcases exec_jobs executed with same | ⟨_, _, _, same⟩
  · rw [same]
    exact member
  · rw [same]
    exact List.mem_append_left _ member

theorem exec_enqueueSms {id : MessageId} {attempts : Nat} {answer : Unit}
    {outcome : World.Outcome (.enqueueSms id attempts)}
    (executed : world.exec (.enqueueSms id attempts) choice = some outcome)
    (answered : outcome.reply = .ok answer) :
    ∃ job ∈ outcome.world.jobs, job.messageId = id ∧ job.fromRequeue = false := by
  obtain ⟨hint, inner, performed, _, world, _⟩ := exec_ok executed answered
  simp only [perform, Option.some.injEq] at performed
  subst performed
  rw [world]
  simp only [addJob]
  split
  · rename_i existing
    simp only [Bool.not_false, Bool.true_and, List.any_eq_true, Bool.and_eq_true,
      Bool.not_eq_true', beq_iff_eq] at existing
    obtain ⟨job, member, initial, same⟩ := existing
    exact ⟨job, member, same, initial⟩
  · exact ⟨_, List.mem_append_right _ (List.mem_singleton.mpr rfl), rfl, rfl⟩

theorem exec_publication {job : Job} {answer : op.Reply}
    (executed : world.exec op choice = some outcome) (publication : op.job? = some job)
    (answered : outcome.reply = .ok answer)
    (fresh : job.fromRequeue = false → ∀ other ∈ world.jobs, other.fromRequeue = false →
      other.messageId ≠ job.messageId) :
    outcome.world.jobs = world.jobs ++ [job] := by
  obtain ⟨hint, inner, performed, _, same, _⟩ := exec_ok executed answered
  have added : (world.addJob job).1.jobs = world.jobs ++ [job] := by
    unfold addJob
    split
    · rename_i known
      simp only [Bool.and_eq_true, Bool.not_eq_true', List.any_eq_true, beq_iff_eq] at known
      obtain ⟨initial, other, member, otherInitial, sameId⟩ := known
      exact absurd sameId (fresh initial other member otherInitial)
    · rfl
  rw [same]
  cases op <;> simp only [Op.job?, Option.some.injEq, reduceCtorEq] at publication
  all_goals
    subst publication
    simp only [perform, Option.some.injEq] at performed
    subst performed
    exact added

theorem exec_rejection {message : Option String} (executed : world.exec op choice = some outcome)
    (rejected : outcome.reply = .error (.rejection message)) : choice.isAnswered = false := by
  cases choice with
  | answered hint =>
      have performed : world.perform hint op = some outcome := executed
      cases op <;> simp only [perform] at performed <;> grind
  | rejected _ => rfl
  | lost _ _ => rfl

theorem exec_answered (executed : world.exec op choice = some outcome)
    (answered : choice.isAnswered = true) (noInsert : ∀ key dto, op ≠ .createQueuedMessage key dto)
    (error : Failure) : outcome.reply ≠ .error error := by
  intro rejected
  have possible := exec_replies executed
  rw [rejected] at possible
  rcases possible.2 with ⟨message, rfl⟩ | ⟨_, key, dto, same⟩
  · have lost := exec_rejection executed rejected
    simp [lost] at answered
  · exact noInsert key dto same

theorem exec_log {entry : LogEntry} {outcome : World.Outcome (.log entry)}
    (executed : world.exec (.log entry) choice = some outcome) :
    outcome.reply = .ok () ∧ outcome.world = world := by
  cases choice with
  | answered hint =>
      simp only [exec, perform, Option.some.injEq] at executed
      exact executed ▸ ⟨rfl, rfl⟩
  | rejected message => simp [exec, Op.fallible] at executed
  | lost hint message => simp [exec, Op.fallible] at executed

theorem exec_claimBirdWebhook {webhookId : String}
    {outcome : World.Outcome (.claimBirdWebhook webhookId)}
    (executed : world.exec (.claimBirdWebhook webhookId) choice = some outcome) :
    (outcome.world = world ∧ ∃ message, outcome.reply = .error (.rejection message)) ∨
    (world.claims webhookId = true ∧ outcome.world = world ∧ choice.isAnswered = true ∧
      outcome.reply = .ok false) ∨
    (world.claims webhookId = false ∧
      outcome.world = { world with claims := Function.update world.claims webhookId true } ∧
      (choice.isAnswered = true ∧ outcome.reply = .ok true ∨ choice.isLost = true)) := by
  rcases exec_cases executed with
    ⟨same, _, _, message, reply⟩ | ⟨hint, inner, performed, same, _, reply⟩
  · exact Or.inl ⟨same, message, reply⟩
  · simp only [perform] at performed
    split at performed
    · rename_i taken
      simp only [Option.some.injEq] at performed
      subst performed
      rcases reply with ⟨answered, reply⟩ | ⟨_, message, reply⟩
      · exact Or.inr (Or.inl ⟨taken, same, answered, reply⟩)
      · exact Or.inl ⟨same, message, reply⟩
    · rename_i free
      simp only [Option.some.injEq] at performed
      subst performed
      refine Or.inr (Or.inr ⟨by simpa using free, same, ?_⟩)
      rcases reply with answered | ⟨lost, _⟩
      · exact Or.inl answered
      · exact Or.inr lost

theorem exec_releaseBirdWebhook {webhookId : String}
    {outcome : World.Outcome (.releaseBirdWebhook webhookId)}
    (executed : world.exec (.releaseBirdWebhook webhookId) choice = some outcome)
    (answered : choice.isAnswered = true) :
    outcome.world = { world with claims := Function.update world.claims webhookId false } := by
  cases choice with
  | answered hint =>
      have performed : world.perform hint (.releaseBirdWebhook webhookId) = some outcome := executed
      simp only [perform, Option.some.injEq] at performed
      rw [← performed]
  | _ => simp [Choice.isAnswered] at answered

end World

abbrev Surroundings := Environment Op Op.Reply Failure Choice

abbrev Record := List (Exchange Op Op.Reply Failure)

section Answers

variable {surroundings : Surroundings} {world : World} {record : Record}

theorem yields_answered (op : Op) {hint : Hint}
    {post : Except Failure op.Reply → World → Record → Prop}
    (chosen : surroundings record op = .answered hint)
    (holds : ∃ outcome, world.perform hint op = some outcome ∧
      post outcome.reply outcome.world (record ++ [⟨op, outcome.reply⟩])) :
    (call op).Yields World.exec surroundings post world record := by
  refine (Program.yields_perform op).mpr ?_
  rw [chosen]
  exact holds

theorem yields_call (op : Op) {post : Except Failure op.Reply → World → Record → Prop}
    (answered : (surroundings record op).isAnswered = true)
    (holds : ∀ hint, ∃ outcome, world.perform hint op = some outcome ∧
      post outcome.reply outcome.world (record ++ [⟨op, outcome.reply⟩])) :
    (call op).Yields World.exec surroundings post world record := by
  cases chosen : surroundings record op with
  | answered hint => exact yields_answered op chosen (holds hint)
  | rejected message => simp [chosen, Choice.isAnswered] at answered
  | lost hint message => simp [chosen, Choice.isAnswered] at answered

end Answers

end SmsNotification
