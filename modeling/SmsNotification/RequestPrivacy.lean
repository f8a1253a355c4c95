import SmsNotification.Concurrency.Likeness
import SmsNotification.Tracking

/-!
The recipient, the body, the metadata and the idempotency key of a request do not show: requests that
differ in them alone, with the same keys told apart, are all answered alike, and so is every poll.
-/

namespace SmsNotification

open Concurrency

def SmsMessage.disguised (row : SmsMessage) (rename : String → String) (recipientPhone : String)
    (messageBody : String) (metadata : Option String) : SmsMessage :=
  { row with
    idempotencyKey := rename row.idempotencyKey
    recipientPhone := recipientPhone
    messageBody := messageBody
    metadata := metadata }

def SmsMessage.Like (rename : String → String) (row other : SmsMessage) : Prop :=
  ∃ recipientPhone messageBody metadata,
    other = row.disguised rename recipientPhone messageBody metadata

def IdempotencyLock.renamed (rename : String → String) (lock : IdempotencyLock) :
    IdempotencyLock :=
  { lock with key := rename lock.key }

def Op.isPublic : Op → Bool
  | findById _ => true
  | findByProviderMessageId _ _ => true
  | update _ => true
  | claimBirdWebhook _ => true
  | releaseBirdWebhook _ => true
  | enqueueSms _ _ => true
  | requeueSms _ _ => true
  | enqueueDeadLetter _ => true
  | throttle _ => true
  | newDate => true
  | sleep _ => true
  | log _ => true
  | _ => false

/-- The operations are the same but for the parts of a request that they take with them. -/
inductive Op.Like (rename : String → String) : Op → Op → Prop
  | same {op : Op} : op.isPublic = true → Like rename op op
  | findByIdempotencyKey (key : String) :
      Like rename (.findByIdempotencyKey key) (.findByIdempotencyKey (rename key))
  | createQueuedMessage (key : String) (dto dto' : SendSmsDto) :
      Like rename (.createQueuedMessage key dto) (.createQueuedMessage (rename key) dto')
  | getMessageId (key : String) : Like rename (.getMessageId key) (.getMessageId (rename key))
  | storeMessageId (key : String) (id : MessageId) :
      Like rename (.storeMessageId key id) (.storeMessageId (rename key) id)
  | deleteMessageId (key : String) :
      Like rename (.deleteMessageId key) (.deleteMessageId (rename key))
  | acquireLock (key : String) : Like rename (.acquireLock key) (.acquireLock (rename key))
  | releaseLock (lock : IdempotencyLock) :
      Like rename (.releaseLock lock) (.releaseLock (lock.renamed rename))
  | sendSms (providerName : String) (options : SendSmsOptions) («to» body : String) :
      Like rename (.sendSms providerName options)
        (.sendSms providerName { options with «to» := «to», body := body })

def Op.AnswersLike (rename : String → String) : (op op' : Op) → op.Reply → op'.Reply → Prop
  | .findById _, .findById _, found, other => Option.Rel (SmsMessage.Like rename) found other
  | .findByIdempotencyKey _, .findByIdempotencyKey _, found, other =>
      Option.Rel (SmsMessage.Like rename) found other
  | .findByProviderMessageId _ _, .findByProviderMessageId _ _, found, other =>
      Option.Rel (SmsMessage.Like rename) found other
  | .createQueuedMessage _ _, .createQueuedMessage _ _, message, other =>
      SmsMessage.Like rename message other
  | .acquireLock _, .acquireLock _, lock, other =>
      other = lock.map (IdempotencyLock.renamed rename)
  | _, _, answer, other => HEq answer other

abbrev requestLikeness (rename : String → String) : Likeness Op Op.Reply where
  ops := Op.Like rename
  answers := Op.AnswersLike rename

structure Table.Like (rename : String → String) (table other : Table) : Prop where
  rows : List.Forall₂ (SmsMessage.Like rename) table.rows other.rows

structure World.Like (rename : String → String) (world other : World) : Prop where
  messages : world.messages.Like rename other.messages
  cache : ∀ key, other.cache (rename key) = world.cache key
  locks : ∀ key, other.locks (rename key) = world.locks key
  claims : other.claims = world.claims
  jobs : other.jobs = world.jobs
  deadLetters : other.deadLetters = world.deadLetters

section Rows

variable {rename : String → String} {row other : SmsMessage} {recipientPhone messageBody : String}
  {metadata : Option String}

@[simp] theorem SmsMessage.disguised_id :
    (row.disguised rename recipientPhone messageBody metadata).id = row.id := rfl

@[simp] theorem SmsMessage.disguised_status :
    (row.disguised rename recipientPhone messageBody metadata).status = row.status := rfl

theorem SmsMessage.Like.id (like : row.Like rename other) : other.id = row.id := by
  obtain ⟨_, _, _, rfl⟩ := like
  rfl

theorem SmsMessage.Like.idempotencyKey (like : row.Like rename other) :
    other.idempotencyKey = rename row.idempotencyKey := by
  obtain ⟨_, _, _, rfl⟩ := like
  rfl

theorem SmsMessage.Like.toStatusResponse (like : row.Like rename other) :
    SmsService.toStatusResponse other = SmsService.toStatusResponse row := by
  obtain ⟨_, _, _, rfl⟩ := like
  rfl

theorem SmsMessage.Like.run (like : row.Like rename other) (statement : Update) :
    (statement.run row).Like rename (statement.run other) := by
  obtain ⟨recipientPhone, messageBody, metadata, rfl⟩ := like
  refine ⟨recipientPhone, messageBody, metadata, ?_⟩
  have sets : statement.set (row.disguised rename recipientPhone messageBody metadata) =
      (statement.set row).disguised rename recipientPhone messageBody metadata := by
    cases statement <;> rfl
  simp only [Update.run, SmsMessage.disguised_id, SmsMessage.disguised_status, sets]
  split <;> rfl

end Rows

section Tables

variable {rename : String → String} {table other : Table}

theorem Table.Like.findById (like : table.Like rename other) (id : MessageId) :
    Option.Rel (SmsMessage.Like rename) (table.findById id) (other.findById id) := by
  apply forall₂_find? like.rows
  intro row row' same
  rw [same.id]

theorem Table.Like.findByIdempotencyKey (injective : rename.Injective)
    (like : table.Like rename other) (key : String) :
    Option.Rel (SmsMessage.Like rename) (table.findByIdempotencyKey key)
      (other.findByIdempotencyKey (rename key)) := by
  apply forall₂_find? like.rows
  intro row row' same
  rw [same.idempotencyKey, Bool.eq_iff_iff]
  simp [injective.eq_iff]

theorem Table.Like.findByProviderMessageId (like : table.Like rename other)
    (provider providerMessageId : String) :
    List.Forall₂ (SmsMessage.Like rename) (table.findByProviderMessageId provider providerMessageId)
      (other.findByProviderMessageId provider providerMessageId) := by
  apply List.rel_filter _ like.rows
  rintro row row' ⟨_, _, _, rfl⟩
  exact Iff.rfl

theorem Table.Like.update (like : table.Like rename other) (statement : Update) :
    (table.update statement).Like rename (other.update statement) := by
  constructor
  apply List.rel_map _ like.rows
  intro row row' same
  exact same.run statement

theorem Table.Like.affected (like : table.Like rename other) (statement : Update) :
    other.affected statement = table.affected statement := by
  have found := like.findById statement.messageId
  unfold Table.affected
  generalize table.findById statement.messageId = row at found ⊢
  generalize other.findById statement.messageId = row' at found ⊢
  cases found with
  | none => rfl
  | some same =>
      obtain ⟨_, _, _, rfl⟩ := same
      rfl

theorem Table.Like.ids (like : table.Like rename other) :
    other.rows.map SmsMessage.id = table.rows.map SmsMessage.id := by
  have rows := like.rows
  generalize table.rows = rows' at rows ⊢
  generalize other.rows = others at rows ⊢
  induction rows with
  | nil => rfl
  | cons same _ ih => rw [List.map_cons, List.map_cons, ih, same.id]

theorem Table.Like.idempotencyKeys (like : table.Like rename other) :
    other.rows.map SmsMessage.idempotencyKey =
      (table.rows.map SmsMessage.idempotencyKey).map rename := by
  have rows := like.rows
  generalize table.rows = rows' at rows ⊢
  generalize other.rows = others at rows ⊢
  induction rows with
  | nil => rfl
  | cons same _ ih =>
      rw [List.map_cons, List.map_cons, List.map_cons, ih, same.idempotencyKey]

theorem Table.Like.insert (injective : rename.Injective) (like : table.Like rename other)
    {row row' : SmsMessage} (same : row.Like rename row') :
    (row'.id ∈ other.rows.map SmsMessage.id ↔ row.id ∈ table.rows.map SmsMessage.id) ∧
      (row'.idempotencyKey ∈ other.rows.map SmsMessage.idempotencyKey ↔
        row.idempotencyKey ∈ table.rows.map SmsMessage.idempotencyKey) ∧
      ∀ newId newKey newId' newKey',
        (table.insert row newId newKey).Like rename (other.insert row' newId' newKey') := by
  refine ⟨?_, ?_, ?_⟩
  · rw [like.ids, same.id]
  · rw [like.idempotencyKeys, same.idempotencyKey, List.mem_map_of_injective injective]
  · intro newId newKey newId' newKey'
    exact ⟨forall₂_concat like.rows same⟩

end Tables

namespace World

variable {rename : String → String} {world other : World}

theorem Like.refl_initial : World.initial.Like rename World.initial where
  messages := ⟨.nil⟩
  cache _ := rfl
  locks _ := rfl
  claims := rfl
  jobs := rfl
  deadLetters := rfl

def OutcomesLike (rename : String → String) {op op' : Op} (outcome : World.Outcome op)
    (outcome' : World.Outcome op') : Prop :=
  Outcomes (Op.AnswersLike rename op op') outcome.reply outcome'.reply ∧
    outcome.world.Like rename outcome'.world ∧ outcome.effective = outcome'.effective

theorem update_renamed {α : Type} (injective : rename.Injective) {first second : String → α}
    (like : ∀ key, second (rename key) = first key) (key : String) (value : α) (asked : String) :
    Function.update second (rename key) value (rename asked) =
      Function.update first key value asked := by
  by_cases same : asked = key
  · rw [same, Function.update_self, Function.update_self]
  · rw [Function.update_of_ne same, Function.update_of_ne (injective.ne same), like]

theorem like_answer {op op' : Op} {answer : op.Reply} {answer' : op'.Reply}
    (like : world.Like rename other) (alike : Op.AnswersLike rename op op' answer answer') :
    Option.Rel (OutcomesLike rename) (some (⟨.ok answer, world, false⟩ : World.Outcome op))
      (some (⟨.ok answer', other, false⟩ : World.Outcome op')) :=
  .some ⟨alike, like, rfl⟩

theorem like_addJob (like : world.Like rename other) (job : Job) :
    (world.addJob job).1.Like rename (other.addJob job).1 ∧
      (world.addJob job).2 = (other.addJob job).2 := by
  unfold addJob
  rw [like.jobs]
  split
  · exact ⟨like, rfl⟩
  · exact ⟨{ like with jobs := rfl }, rfl⟩

theorem perform_public (like : world.Like rename other) (hint : Hint) {op : Op}
    (isPublic : op.isPublic = true) :
    Option.Rel (OutcomesLike rename) (world.perform hint op) (other.perform hint op) := by
  cases op with
  | findById id => exact like_answer like (like.messages.findById id)
  | findByProviderMessageId provider providerMessageId =>
      have found := like.messages.findByProviderMessageId provider providerMessageId
      simp only [perform]
      generalize world.messages.findByProviderMessageId provider providerMessageId = rows
        at found ⊢
      generalize other.messages.findByProviderMessageId provider providerMessageId = others
        at found ⊢
      cases found with
      | nil => exact like_answer like .none
      | @cons row row' rows others head tail =>
          have picked := forall₂_getElem? (List.Forall₂.cons head tail) hint.index
          simp only []
          generalize (row :: rows)[hint.index]? = chosen at picked ⊢
          generalize (row' :: others)[hint.index]? = chosen' at picked ⊢
          cases picked with
          | none => exact .none
          | some same => exact like_answer like (.some same)
  | update statement =>
      refine .some ⟨?_, ?_, ?_⟩
      · exact heq_of_eq (like.messages.affected statement).symm
      · exact { like with messages := like.messages.update statement }
      · exact (like.messages.affected statement).symm
  | claimBirdWebhook webhookId =>
      simp only [perform, like.claims]
      split
      · exact like_answer like HEq.rfl
      · exact .some ⟨HEq.rfl, { like with claims := rfl }, rfl⟩
  | releaseBirdWebhook webhookId =>
      exact .some ⟨HEq.rfl, { like with claims := by rw [like.claims] }, rfl⟩
  | enqueueSms id attempts =>
      exact .some ⟨HEq.rfl, like_addJob like _⟩
  | requeueSms id attempts =>
      exact .some ⟨HEq.rfl, like_addJob like _⟩
  | enqueueDeadLetter id =>
      exact .some ⟨HEq.rfl, { like with deadLetters := by rw [like.deadLetters] }, rfl⟩
  | throttle | newDate | sleep | log => exact like_answer like HEq.rfl
  | _ => cases isPublic

theorem perform_like (injective : rename.Injective) (like : world.Like rename other) (hint : Hint)
    {op op' : Op} (alike : Op.Like rename op op') :
    Option.Rel (OutcomesLike rename) (world.perform hint op) (other.perform hint op') := by
  cases alike with
  | same isPublic => exact perform_public like hint isPublic
  | findByIdempotencyKey key =>
      exact like_answer like (like.messages.findByIdempotencyKey injective key)
  | createQueuedMessage key dto dto' =>
      have same : (queuedMessage hint.id hint.date key dto).Like rename
          (queuedMessage hint.id hint.date (rename key) dto') := ⟨_, _, _, rfl⟩
      obtain ⟨ids, keys, inserted⟩ := like.messages.insert injective same
      simp only [perform]
      by_cases newId : (queuedMessage hint.id hint.date key dto).id ∈
          world.messages.rows.map SmsMessage.id
      · rw [dif_neg (not_not.mpr newId), dif_neg (not_not.mpr (ids.mpr newId))]
        exact .none
      · have newId' := fun taken => newId (ids.mp taken)
        rw [dif_pos newId, dif_pos newId']
        by_cases newKey : (queuedMessage hint.id hint.date key dto).idempotencyKey ∈
            world.messages.rows.map SmsMessage.idempotencyKey
        · rw [dif_neg (not_not.mpr newKey), dif_neg (not_not.mpr (keys.mpr newKey))]
          exact .some ⟨rfl, like, rfl⟩
        · have newKey' := fun taken => newKey (keys.mp taken)
          rw [dif_pos newKey, dif_pos newKey']
          exact .some
            ⟨same, { like with messages := inserted newId newKey newId' newKey' }, rfl⟩
  | getMessageId key => exact like_answer like (heq_of_eq (like.cache key).symm)
  | storeMessageId key id =>
      exact .some ⟨HEq.rfl, { like with cache := update_renamed injective like.cache key _ }, rfl⟩
  | deleteMessageId key =>
      exact .some ⟨HEq.rfl, { like with cache := update_renamed injective like.cache key _ }, rfl⟩
  | acquireLock key =>
      simp only [perform, like.locks]
      cases world.locks key with
      | some _ => exact like_answer like rfl
      | none =>
          exact .some ⟨rfl, { like with locks := update_renamed injective like.locks key _ }, rfl⟩
  | releaseLock lock =>
      simp only [perform, IdempotencyLock.renamed, like.locks]
      split
      · exact .some
          ⟨HEq.rfl, { like with locks := update_renamed injective like.locks lock.key _ }, rfl⟩
      · exact like_answer like HEq.rfl
  | sendSms => exact like_answer like HEq.rfl

end World

theorem Op.Like.fallible {rename : String → String} {op op' : Op} (alike : Op.Like rename op op') :
    op'.fallible = op.fallible := by
  cases alike <;> rfl

theorem requestLikeness_sound {rename : String → String} (injective : rename.Injective) :
    (requestLikeness rename).Sound World.exec (World.Like rename) := by
  intro world other op op' choice like alike
  cases choice with
  | answered hint => exact World.perform_like injective like hint alike
  | rejected message =>
      simp only [World.exec, alike.fallible]
      split
      · exact .some ⟨rfl, like, rfl⟩
      · exact .none
  | lost hint message =>
      simp only [World.exec, alike.fallible]
      split
      · have performed := World.perform_like injective like hint alike
        generalize world.perform hint op = outcome at performed ⊢
        generalize other.perform hint op' = outcome' at performed ⊢
        cases performed with
        | none => exact .none
        | some same => exact .some ⟨rfl, same.2⟩
      · exact .none

section Programs

open SmsService

variable {rename : String → String} {config : Config} {message other : SmsMessage}

abbrev Action.Like {α β : Type} (rename : String → String) (values : α → β → Prop)
    (first : Action α) (second : Action β) : Prop :=
  Program.Like (requestLikeness rename) values first second

abbrev Action.FindsLike (rename : String → String) (first second : Action (Option SmsMessage)) :
    Prop :=
  first.Like rename (Option.Rel (SmsMessage.Like rename)) second

theorem perform_like {op op' : Op} (alike : Op.Like rename op op') :
    (call op).Like rename (Op.AnswersLike rename op op') (call op') :=
  Program.like_perform alike

theorem call_bind_like {α β : Type} {op op' : Op} {rest : op.Reply → Action α}
    {others : op'.Reply → Action β} {values : α → β → Prop} (alike : Op.Like rename op op')
    (follow : ∀ answer other, Op.AnswersLike rename op op' answer other →
      (rest answer).Like rename values (others other)) :
    (call op >>= rest).Like rename values (call op' >>= others) :=
  (perform_like alike).bind follow

theorem lookup_like {α β : Type} {id : MessageId} {rest : Option SmsMessage → Action α}
    {others : Option SmsMessage → Action β} {values : α → β → Prop}
    (follow : ∀ found other, Option.Rel (SmsMessage.Like rename) found other →
      (rest found).Like rename values (others other)) :
    (findById id >>= rest).Like rename values (findById id >>= others) := by
  have same : Op.Like rename (.findById id) (.findById id) := .same rfl
  exact call_bind_like same follow

def Op.isPlain (op : Op) : Bool :=
  op.isPublic && match op with
    | findById _ => false
    | findByProviderMessageId _ _ => false
    | _ => true

theorem call_like (op : Op) (plain : op.isPlain = true) :
    (call op).Like rename Eq (call op) := by
  have isPublic : op.isPublic = true := by
    cases op <;> first | rfl | cases plain
  apply Program.Like.mono (perform_like (.same isPublic))
  intro answer other same
  cases op <;> first | exact eq_of_heq same | cases plain

theorem seq_like {α β γ : Type} {first second : Action α} {rest : α → Action β}
    {others : α → Action γ} {values : β → γ → Prop} (like : first.Like rename Eq second)
    (follow : ∀ value, (rest value).Like rename values (others value)) :
    (first >>= rest).Like rename values (second >>= others) := by
  apply Program.Like.bind like
  rintro value _ rfl
  exact follow value

theorem findFromIdempotencyCache_like (key : String) :
    (findFromIdempotencyCache key).FindsLike rename (findFromIdempotencyCache (rename key)) := by
  apply call_bind_like (.getMessageId key)
  intro cachedMessageId other same
  cases eq_of_heq same
  cases cachedMessageId with
  | none => exact Program.like_pure .none
  | some cachedMessageId =>
      apply lookup_like
      intro found found' related
      cases related with
      | some like => exact Program.like_pure (.some like)
      | none =>
          apply call_bind_like (.deleteMessageId key)
          intro _ _ _
          exact Program.like_pure .none

theorem waitForMessageCreatedByConcurrentRequest_like (key : String) (attempts : Nat) :
    (waitForMessageCreatedByConcurrentRequest key attempts).FindsLike rename
      (waitForMessageCreatedByConcurrentRequest (rename key) attempts) := by
  induction attempts with
  | zero => exact Program.like_pure .none
  | succ attempts ih =>
      apply seq_like (call_like (.sleep (.finite 50)) rfl)
      intro _
      apply call_bind_like (.findByIdempotencyKey key)
      intro found found' related
      cases related with
      | none => exact ih
      | @some message other like =>
          have stores : Op.Like rename (.storeMessageId key message.id)
              (.storeMessageId (rename key) other.id) := by
            rw [like.id]
            exact .storeMessageId key message.id
          apply call_bind_like stores
          intro _ _ _
          exact Program.like_pure (.some like)

theorem findExistingAfterUniqueViolation_like (key : String) (error : Failure) :
    (findExistingAfterUniqueViolation key error).FindsLike rename
      (findExistingAfterUniqueViolation (rename key) error) := by
  unfold findExistingAfterUniqueViolation
  split
  · apply call_bind_like (.findByIdempotencyKey key)
    intro found found' related
    cases related with
    | none => exact Program.like_throw error
    | some like => exact Program.like_pure (.some like)
  · exact Program.like_pure .none

theorem SmsMessage.Like.toResponse (like : message.Like rename other) :
    SmsService.toResponse other = SmsService.toResponse message := by
  obtain ⟨_, _, _, rfl⟩ := like
  rfl

theorem answer_stored_like (key : String) (like : message.Like rename other) :
    (do
      IdempotencyService.storeMessageId key message.id
      pure (SmsService.toResponse message) : Action SendSmsResponse).Like rename Eq (do
      IdempotencyService.storeMessageId (rename key) other.id
      pure (SmsService.toResponse other)) := by
  rw [like.id, like.toResponse]
  apply call_bind_like (.storeMessageId key message.id)
  intro _ _ _
  exact Program.like_pure rfl

theorem publishQueuedMessage_like (like : message.Like rename other) :
    (publishQueuedMessage config message).Like rename Eq (publishQueuedMessage config other) := by
  unfold publishQueuedMessage
  rw [like.id]
  apply Program.Like.tryCatch (call_like (.enqueueSms message.id config.jobAttempts) rfl)
  intro error
  apply seq_like
  · apply seq_like (call_like .newDate rfl)
    intro failedAt
    exact seq_like (call_like (.update _) rfl) fun _ => Program.like_pure rfl
  · intro _
    exact Program.like_throw _

theorem createUnderLock_like (key : String) (dto dto' : SendSmsDto) :
    (createUnderLock config key dto).Like rename Eq
      (createUnderLock config (rename key) dto') := by
  apply call_bind_like (.findByIdempotencyKey key)
  intro found found' related
  cases related with
  | some like => exact answer_stored_like key like
  | none =>
      apply call_bind_like (.createQueuedMessage key dto dto')
      intro message other like
      apply seq_like (publishQueuedMessage_like like)
      intro _
      exact answer_stored_like key like

theorem recoverUnderLock_like (key : String) (error : Failure) :
    (recoverUnderLock key error).Like rename Eq (recoverUnderLock (rename key) error) := by
  apply Program.Like.bind (findExistingAfterUniqueViolation_like key error)
  intro found found' related
  cases related with
  | none => exact Program.like_throw error
  | some like => exact answer_stored_like key like

theorem releaseLock_like (lock : IdempotencyLock) :
    (releaseLock lock).Like rename (fun _ _ => True) (releaseLock (lock.renamed rename)) := by
  apply Program.Like.tryCatch
  · apply Program.Like.mono (perform_like (.releaseLock lock))
    intro _ _ _
    trivial
  · intro _
    exact Program.like_pure trivial

def SameLength (config : Config) (dto dto' : SendSmsDto) : Prop :=
  Js.utf16Length dto.message > config.maxMessageLength ↔
    Js.utf16Length dto'.message > config.maxMessageLength

theorem sendSmsRequest_like (key : String) {dto dto' : SendSmsDto}
    (same : SameLength config dto dto') :
    (sendSmsRequest config key dto).Like rename Eq
      (sendSmsRequest config (rename key) dto') := by
  have checked : (validateMessageLength config dto.message).Like rename Eq
      (validateMessageLength config dto'.message) := by
    unfold validateMessageLength
    by_cases long : Js.utf16Length dto.message > config.maxMessageLength
    · rw [if_pos long, if_pos (same.mp long)]
      exact Program.like_throw _
    · rw [if_neg long, if_neg fun long' => long (same.mpr long')]
      exact Program.like_pure rfl
  apply seq_like checked
  intro _
  apply Program.Like.bind (findFromIdempotencyCache_like key)
  intro cached cached' related
  cases related with
  | some like => exact Program.like_pure like.toResponse.symm
  | none =>
      apply call_bind_like (.findByIdempotencyKey key)
      intro existing existing' related
      cases related with
      | some like => exact answer_stored_like key like
      | none =>
          apply call_bind_like (.acquireLock key)
          rintro (_ | lock) _ rfl
          · apply Program.Like.bind (waitForMessageCreatedByConcurrentRequest_like key 20)
            intro found found' related
            cases related with
            | none => exact Program.like_throw _
            | some like => exact Program.like_pure like.toResponse.symm
          · apply Program.Like.finallyDo _ (releaseLock_like lock)
            apply Program.Like.tryCatch (createUnderLock_like key dto dto')
            exact recoverUnderLock_like key

theorem restoreFatalFailure_like (like : message.Like rename other) (enqueueError : String) :
    (restoreFatalFailureAfterRequeueFailure message enqueueError).Like rename Eq
      (restoreFatalFailureAfterRequeueFailure other enqueueError) := by
  obtain ⟨_, _, _, rfl⟩ := like
  cases failed : message.failedAt with
  | some failedAt =>
      simp only [restoreFatalFailureAfterRequeueFailure, SmsMessage.disguised, failed]
      apply seq_like (Program.like_pure rfl)
      intro _
      exact seq_like (call_like (.update _) rfl) fun _ => Program.like_pure rfl
  | none =>
      simp only [restoreFatalFailureAfterRequeueFailure, SmsMessage.disguised, failed]
      apply seq_like (call_like .newDate rfl)
      intro failedAt
      exact seq_like (call_like (.update _) rfl) fun _ => Program.like_pure rfl

theorem requeue_like (id : MessageId) :
    (requeue config id).Like rename Eq (requeue config id) := by
  apply lookup_like
  intro found found' related
  cases related with
  | none => exact Program.like_throw _
  | @some message other like =>
      have status : other.status = message.status := by
        obtain ⟨_, _, _, rfl⟩ := like
        rfl
      simp only [status]
      split
      · exact Program.like_throw _
      · apply seq_like (call_like (.update _) rfl)
        rintro (_ | _)
        · exact Program.like_throw _
        · simp only [Bool.not_true, Bool.false_eq_true, if_false]
          apply seq_like
          · apply Program.Like.tryCatch (call_like (.requeueSms id config.jobAttempts) rfl)
            intro error
            apply seq_like (restoreFatalFailure_like like _)
            intro _
            exact Program.like_throw _
          · intro _
            obtain ⟨_, _, _, rfl⟩ := like
            exact Program.like_pure rfl

end Programs

section Dispatches

open SmsDispatcherService

variable {rename : String → String} {config : Config} {message other : SmsMessage}

theorem sendWithProvider_like (like : message.Like rename other) (providerName : String) :
    (sendWithProvider message providerName).Like rename Eq
      (sendWithProvider other providerName) := by
  obtain ⟨recipientPhone, messageBody, metadata, rfl⟩ := like
  have sends := perform_like (@Op.Like.sendSms rename providerName
    { «to» := message.recipientPhone, body := message.messageBody, referenceId := message.id }
    recipientPhone messageBody)
  apply Program.Like.tryCatch
  · apply Program.Like.mono sends
    intro result result' same
    exact eq_of_heq same
  · intro error
    exact Program.like_pure rfl

theorem attemptProvider_like (like : message.Like rename other) (providerName : String)
    (remaining attempt : Nat) (lastError : String) :
    (attemptProvider config message providerName remaining attempt lastError).Like rename Eq
      (attemptProvider config other providerName remaining attempt lastError) := by
  induction remaining generalizing attempt lastError with
  | zero => exact Program.like_pure rfl
  | succ remaining ih =>
      simp only [attemptProvider, like.id]
      apply seq_like
      · exact seq_like (call_like (.update _) rfl) fun _ => Program.like_pure rfl
      intro _
      apply seq_like (call_like (.throttle providerName) rfl)
      intro _
      apply seq_like (sendWithProvider_like like providerName)
      intro result
      split
      · apply seq_like
        · apply seq_like (call_like .newDate rfl)
          intro sentAt
          exact seq_like (call_like (.update _) rfl) fun _ => Program.like_pure rfl
        · intro _
          exact Program.like_pure rfl
      · split
        · exact Program.like_pure rfl
        · split
          · exact Program.like_throw _
          · apply seq_like (call_like (.sleep _) rfl)
            intro _
            exact ih _ _

theorem dispatchProviders_like (like : message.Like rename other) (providers : List String)
    (lastProviderName lastError : String) :
    (dispatchProviders config message providers lastProviderName lastError).Like rename Eq
      (dispatchProviders config other providers lastProviderName lastError) := by
  induction providers generalizing lastProviderName lastError with
  | nil =>
      simp only [dispatchProviders, giveUp, like.id]
      apply seq_like
      · apply seq_like (call_like .newDate rfl)
        intro failedAt
        exact seq_like (call_like (.update _) rfl) fun _ => Program.like_pure rfl
      · intro _
        exact call_like (.enqueueDeadLetter message.id) rfl
  | cons providerName rest ih =>
      apply seq_like (attemptProvider_like like providerName _ _ _)
      rintro (_ | lastError)
      · exact Program.like_pure rfl
      · exact ih _ _

theorem dispatch_like (id : MessageId) :
    (dispatch config id).Like rename Eq (dispatch config id) := by
  apply lookup_like
  intro found found' related
  cases related with
  | none => exact Program.like_throw _
  | @some message other like =>
      have status : other.status = message.status := by
        obtain ⟨_, _, _, rfl⟩ := like
        rfl
      simp only [status, like.id]
      split
      · exact Program.like_pure rfl
      · apply seq_like (call_like (.update _) rfl)
        rintro (_ | _)
        · apply lookup_like
          intro _ _ _
          exact Program.like_pure rfl
        · exact dispatchProviders_like like _ _ _

end Dispatches

section Callbacks

open DeliveryStatusService

variable {rename : String → String} {caseMapping : Js.CaseMapping} {message other : SmsMessage}

theorem logSkippedCallback_like (callback : DeliveryStatusCallback) (status : SmsStatus)
    (id : MessageId) (previousStatus : SmsStatus) :
    (logSkippedCallback callback status id previousStatus).Like rename Eq
      (logSkippedCallback callback status id previousStatus) := by
  apply lookup_like
  intro found found' related
  have current : found'.map SmsMessage.status = found.map SmsMessage.status := by
    cases related with
    | none => rfl
    | some like =>
        obtain ⟨_, _, _, rfl⟩ := like
        rfl
  simp only [current]
  split <;> exact seq_like (call_like (.log _) rfl) fun _ => Program.like_pure rfl

theorem updateFound_like (callback : DeliveryStatusCallback) (like : message.Like rename other)
    (status : SmsStatus) (allowedPreviousStatuses : List SmsStatus) :
    (updateFound callback message status allowedPreviousStatuses).Like rename Eq
      (updateFound callback other status allowedPreviousStatuses) := by
  obtain ⟨_, _, _, rfl⟩ := like
  have dated : (eventDate callback).Like rename Eq (eventDate callback) := by
    unfold eventDate
    split
    · exact Program.like_pure rfl
    · exact call_like .newDate rfl
  apply seq_like dated
  intro eventAt
  apply seq_like (call_like (.update _) rfl)
  rintro (_ | _)
  · exact logSkippedCallback_like callback status message.id message.status
  · exact seq_like (call_like (.log _) rfl) fun _ => Program.like_pure rfl

theorem apply_like (callback : DeliveryStatusCallback) :
    (DeliveryStatusService.apply callback).Like rename Eq
      (DeliveryStatusService.apply callback) := by
  have same : Op.Like rename
      (.findByProviderMessageId callback.provider callback.providerMessageId)
      (.findByProviderMessageId callback.provider callback.providerMessageId) := .same rfl
  apply call_bind_like same
  intro found found' related
  cases related with
  | none => exact seq_like (call_like (.log _) rfl) fun _ => Program.like_pure rfl
  | @some message other like =>
      have ignored : (ignoreStatus callback message).Like rename Eq
          (ignoreStatus callback other) := by
        obtain ⟨_, _, _, rfl⟩ := like
        exact seq_like (call_like (.log _) rfl) fun _ => Program.like_pure rfl
      simp only []
      split
      · exact ignored
      · split
        · exact ignored
        · exact updateFound_like callback like _ _

theorem twilio_like (callback : TwilioStatusCallback) :
    (TwilioWebhookService.handleVerified caseMapping (some callback)).Like rename Eq
      (TwilioWebhookService.handleVerified caseMapping (some callback)) := by
  apply seq_like (call_like (.log _) rfl)
  intro _
  split
  · exact call_like (.log _) rfl
  · exact seq_like (apply_like _) fun _ => Program.like_pure rfl

theorem bird_like (webhookId : String) (event : BirdDeliveryEvent) :
    (BirdWebhookService.handleVerified caseMapping webhookId (some event)).Like rename Eq
      (BirdWebhookService.handleVerified caseMapping webhookId (some event)) := by
  have processed : (BirdWebhookService.processEvent caseMapping event).Like rename Eq
      (BirdWebhookService.processEvent caseMapping event) := by
    unfold BirdWebhookService.processEvent
    split
    · exact call_like (.log _) rfl
    · exact seq_like (apply_like _) fun _ => Program.like_pure rfl
  apply seq_like (call_like (.log _) rfl)
  intro _
  apply seq_like (call_like (.claimBirdWebhook webhookId) rfl)
  rintro (_ | _)
  · exact call_like (.log _) rfl
  · apply Program.Like.tryCatch processed
    intro error
    apply seq_like
    · apply Program.Like.tryCatch (call_like (.releaseBirdWebhook webhookId) rfl)
      intro _
      exact call_like (.log _) rfl
    · intro _
      exact Program.like_throw _

end Callbacks

/-- Requests that differ in nothing but what a client puts into them. -/
inductive Call.Like (config : Config) (rename : String → String) : Call → Call → Prop
  | send {key : String} {dto dto' : SendSmsDto} : SameLength config dto dto' →
      Like config rename (.send key dto) (.send (rename key) dto')
  | requeue (id : MessageId) : Like config rename (.requeue id) (.requeue id)
  | dispatch (id : MessageId) : Like config rename (.dispatch id) (.dispatch id)
  | twilio (callback : TwilioStatusCallback) :
      Like config rename (.twilio callback) (.twilio callback)
  | bird (webhookId : String) (event : BirdDeliveryEvent) :
      Like config rename (.bird webhookId event) (.bird webhookId event)

theorem Call.Like.program {config : Config} {rename : String → String} {call other : Call}
    (like : Call.Like config rename call other) :
    (call.program config).Like rename Eq (other.program config) := by
  cases like with
  | send same => exact seq_like (sendSmsRequest_like _ same) fun _ => Program.like_pure rfl
  | requeue id => exact seq_like (requeue_like id) fun _ => Program.like_pure rfl
  | dispatch id => exact seq_like (dispatch_like id) fun _ => Program.like_pure rfl
  | twilio callback => exact seq_like (twilio_like callback) fun _ => Program.like_pure rfl
  | bird webhookId event => exact seq_like (bird_like webhookId event) fun _ => Program.like_pure rfl

namespace Service

variable {config : Config} {rename : String → String} {service other : Service}
  {event event' : Event}

inductive Event.Like (config : Config) (rename : String → String) : Event → Event → Prop
  | request {call call' : Call} : Call.Like config rename call call' →
      Like config rename (.request call) (.request call')
  | execute (job : Nat) : Like config rename (.execute job) (.execute job)
  | resume (pid : Nat) (choice : Choice) :
      Like config rename (.resume pid choice) (.resume pid choice)
  | settle (job : Nat) : Like config rename (.settle job) (.settle job)
  | stall (job : Nat) : Like config rename (.stall job) (.stall job)
  | expireCache (key : String) :
      Like config rename (.expireCache key) (.expireCache (rename key))
  | expireLock (key : String) : Like config rename (.expireLock key) (.expireLock (rename key))
  | expireClaim (webhookId : String) :
      Like config rename (.expireClaim webhookId) (.expireClaim webhookId)

abbrev Like (config : Config) (rename : String → String) (service other : Service) : Prop :=
  Pool.Like (requestLikeness rename) (World.Like rename) (Call.Like config rename) Eq service other

theorem Like.setJob (like : Like config rename service other) (index : Nat) (job : Job) :
    Like config rename (service.setJob index job) (other.setJob index job) :=
  like.inWorld { like.world with jobs := by rw [like.world.jobs] }

theorem Like.result_eq (like : Like config rename service other) (pid : Nat) :
    other.result pid = service.result pid := by
  have results := like.result pid
  unfold Service.result
  generalize service.processes[pid]?.bind _ = result at results ⊢
  generalize other.processes[pid]?.bind _ = result' at results ⊢
  cases results with
  | none => rfl
  | some same => rw [same.eq]

theorem Like.step (injective : rename.Injective) (like : Like config rename service other)
    (alike : Event.Like config rename event event') :
    Option.Rel (Like config rename) (service.step config event) (other.step config event') := by
  have jobs := like.world.jobs
  cases alike with
  | @request call call' same =>
      have kind : call'.isDispatch = call.isDispatch := by cases same <;> rfl
      simp only [Service.step, kind]
      split
      · exact .none
      · exact .some (like.spawn same same.program)
  | execute index =>
      simp only [Service.step, jobs, ← like.length]
      cases service.world.jobs[index]? with
      | none => exact .none
      | some job =>
          simp only [Option.bind_eq_bind, Option.bind_some]
          split
          · exact .some ((like.setJob index _).spawn (.dispatch job.messageId)
              (Call.Like.dispatch job.messageId).program)
          · exact .none
  | resume pid choice => exact Pool.Like.resume like (requestLikeness_sound injective) pid choice
  | settle index =>
      simp only [Service.step, jobs]
      cases service.world.jobs[index]? with
      | none => exact .none
      | some job =>
          simp only [Option.bind_eq_bind, Option.bind_some]
          split
          · rename_i pid _
            rw [like.result_eq pid]
            cases service.result pid with
            | none => exact .none
            | some result => exact .some (like.setJob index _)
          · exact .none
  | stall index =>
      simp only [Service.step, jobs]
      cases service.world.jobs[index]? with
      | none => exact .none
      | some job =>
          simp only [Option.bind_eq_bind, Option.bind_some]
          split
          · exact .some (like.setJob index _)
          · exact .none
  | expireCache key =>
      exact .some (like.inWorld
        { like.world with cache := World.update_renamed injective like.world.cache key none })
  | expireLock key =>
      exact .some (like.inWorld
        { like.world with locks := World.update_renamed injective like.world.locks key none })
  | expireClaim webhookId =>
      exact .some (like.inWorld { like.world with claims := by rw [like.world.claims] })

end Service

def loggedEntry (entry : Entry Op Op.Reply Failure) : Option LogEntry :=
  match entry.op with
  | .log logged => some logged
  | _ => none

namespace PolledService

variable {config : Config} {rename : String → String} {polled other : PolledService}
  {event event' : Event}

inductive Event.Like (config : Config) (rename : String → String) : Event → Event → Prop
  | inner {event event' : Service.Event} : Service.Event.Like config rename event event' →
      Like config rename (.inner event) (.inner event')
  | poll (messageId : MessageId) : Like config rename (.poll messageId) (.poll messageId)
  | answer (index : Nat) (choice : Choice) :
      Like config rename (.answer index choice) (.answer index choice)

structure Like (config : Config) (rename : String → String) (polled other : PolledService) :
    Prop where
  service : Service.Like config rename polled.service other.service
  polls : other.polls = polled.polls
  formed : polled.Formed

theorem report_like {id : MessageId} {reply reply' : Except Failure (Option SmsMessage)}
    (outcomes : Outcomes (Op.AnswersLike rename (.findById id) (.findById id)) reply reply') :
    report reply' = report reply := by
  cases reply with
  | error error =>
      cases reply' with
      | error error' => rw [show error = error' from outcomes]
      | ok found' => exact outcomes.elim
  | ok found =>
      cases reply' with
      | error error' => exact outcomes.elim
      | ok found' =>
          have related : Option.Rel (SmsMessage.Like rename) found found' := outcomes
          cases related with
          | none => rfl
          | some like => rw [report, like.toStatusResponse, report]

theorem Like.step (injective : rename.Injective) (like : Like config rename polled other)
    (alike : Event.Like config rename event event') :
    Option.Rel (Like config rename) (polled.step config event) (other.step config event') := by
  have formed : ∀ following, polled.step config event = some following → following.Formed :=
    fun following stepped => (step_moves like.formed stepped).formed like.formed
  cases alike with
  | @inner event event' same =>
      have moved := like.service.step injective same
      simp only [PolledService.step] at formed ⊢
      generalize polled.service.step config event = next at moved formed ⊢
      generalize other.service.step config event' = next' at moved ⊢
      cases moved with
      | none => exact .none
      | some service => exact .some ⟨service, like.polls, formed _ rfl⟩
  | poll id =>
      have polls : other.polls ++ [⟨id, SmsService.getMessageStatus id⟩] =
          polled.polls ++ [⟨id, SmsService.getMessageStatus id⟩] := by rw [like.polls]
      exact .some ⟨like.service, polls, formed _ rfl⟩
  | answer index choice =>
      simp only [PolledService.step, like.polls] at formed ⊢
      cases present : polled.polls[index]? with
      | none => exact .none
      | some poll =>
          obtain ⟨id, program⟩ := poll
          rw [present] at formed
          simp only [Option.bind_eq_bind, Option.bind_some] at formed ⊢
          rcases like.formed index _ present with waiting | ⟨result, settled⟩
          · obtain rfl : program = SmsService.getMessageStatus id := waiting
            simp only [getMessageStatus_eq] at formed ⊢
            have same : Op.Like rename (.findById id) (.findById id) := .same rfl
            have executed := requestLikeness_sound injective _ _ _ _ choice like.service.world same
            generalize polled.service.world.exec (.findById id) choice = left at executed formed ⊢
            generalize other.service.world.exec (.findById id) choice = right at executed ⊢
            cases executed with
            | none => exact .none
            | some outcome =>
                refine .some ⟨like.service.inWorld outcome.2.1, ?_, formed _ rfl⟩
                rw [report_like outcome.1]
          · obtain rfl : program = .settled result := settled
            exact .none

/-- What two services show to clients, to the queues and in the log is the same. -/
structure Indistinguishable (polled other : PolledService) : Prop where
  answers : ∀ pid, other.service.result pid = polled.service.result pid
  reports : ∀ index, other.reported index = polled.reported index
  statuses : other.table.rows.map SmsService.toStatusResponse =
    polled.table.rows.map SmsService.toStatusResponse
  jobs : other.service.world.jobs = polled.service.world.jobs
  deadLetters : other.service.world.deadLetters = polled.service.world.deadLetters
  logs : other.service.history.filterMap loggedEntry = polled.service.history.filterMap loggedEntry

theorem Like.indistinguishable (like : Like config rename polled other) :
    Indistinguishable polled other where
  answers := like.service.result_eq
  reports index := by rw [reported, like.polls, reported]
  statuses := by
    have rows := like.service.world.messages.rows
    generalize polled.table.rows = rows' at rows ⊢
    generalize other.table.rows = others at rows ⊢
    induction rows with
    | nil => rfl
    | cons same _ ih => rw [List.map_cons, List.map_cons, ih, same.toStatusResponse]
  jobs := like.service.world.jobs
  deadLetters := like.service.world.deadLetters
  logs := by
    have history := like.service.history
    generalize polled.service.history = entries at history ⊢
    generalize other.service.history = others at history ⊢
    induction history with
    | nil => rfl
    | @cons entry entry' _ _ same _ ih =>
        have logged : loggedEntry entry' = loggedEntry entry := by
          obtain ⟨pid, op, reply, effective⟩ := entry
          obtain ⟨pid', op', reply', effective'⟩ := entry'
          cases same.op <;> rfl
        rw [List.filterMap_cons, List.filterMap_cons, logged, ih]

theorem initial_like : Like config rename initial initial where
  service := { world := World.Like.refl_initial, processes := .nil, history := .nil }
  polls := rfl
  formed := by
    intro index poll found
    simp [initial] at found

/-- Two runs of the service in which the same things happen, but clients send other recipients,
bodies and metadata of the same verdict on their length, and other keys that are told apart alike:
all that is shown stays the same, whatever the interleaving. -/
theorem requests_indistinguishable (injective : rename.Injective) {events events' : List Event}
    (alike : List.Forall₂ (Event.Like config rename) events events') :
    Option.Rel Indistinguishable
      (execute (step config) (fun _ _ => True) events initial)
      (execute (step config) (fun _ _ => True) events' initial) := by
  have related : Option.Rel (Like config rename)
      (execute (step config) (fun _ _ => True) events initial)
      (execute (step config) (fun _ _ => True) events' initial) := by
    apply execute_rel _ alike initial_like
    intro polled other event event' like same
    exact like.step injective same
  generalize execute (step config) (fun _ _ => True) events initial = first at related ⊢
  generalize execute (step config) (fun _ _ => True) events' initial = second at related ⊢
  cases related with
  | none => exact .none
  | some like => exact .some like.indistinguishable

def polledRequest (key : String) (dto : SendSmsDto) : List Event :=
  .inner (.request (.send key dto)) ::
    ((Service.Event.answers 0 8).map Event.inner ++ [.poll 0, .answer 0 (.answered {})])

/-- Two clients swap their keys and send other texts to other numbers; the poll reports the same. -/
theorem swapped_request_polled : ∃ (polled other : PolledService) (response : SmsStatusResponse),
    execute (step (.defaults ["twilio"])) (fun _ _ => True)
      (polledRequest "key" { «to» := "+15550100", message := "hello", metadata := none })
      initial = some polled ∧
    execute (step (.defaults ["twilio"])) (fun _ _ => True)
      (polledRequest "other" { «to» := "+15550199", message := "goodbye", metadata := some "x" })
      initial = some other ∧
    polled.reported 0 = some (.ok response) ∧ other.reported 0 = some (.ok response) := by
  have alike : List.Forall₂ (Event.Like (.defaults ["twilio"]) (Equiv.swap "key" "other"))
      (polledRequest "key" { «to» := "+15550100", message := "hello", metadata := none })
      (polledRequest "other"
        { «to» := "+15550199", message := "goodbye", metadata := some "x" }) := by
    have renamed : Equiv.swap "key" "other" "key" = "other" := Equiv.swap_apply_left _ _
    have short : SameLength (.defaults ["twilio"])
        { «to» := "+15550100", message := "hello", metadata := none }
        { «to» := "+15550199", message := "goodbye", metadata := some "x" } := by
      unfold SameLength
      decide
    refine .cons (.inner (.request ?_)) (List.forall₂_same.mpr ?_)
    · rw [← renamed]
      exact .send short
    · intro event member
      rcases List.mem_append.mp member with inner | polls
      · obtain ⟨event, replicated, rfl⟩ := List.mem_map.mp inner
        rw [List.eq_of_mem_replicate replicated]
        exact .inner (.resume _ _)
      · simp only [List.mem_cons, List.not_mem_nil, or_false] at polls
        rcases polls with rfl | rfl
        · exact .poll 0
        · exact .answer 0 _
  have related := requests_indistinguishable (Equiv.injective (Equiv.swap "key" "other")) alike
  have reported : ((execute (step (.defaults ["twilio"])) (fun _ _ => True)
      (polledRequest "key" { «to» := "+15550100", message := "hello", metadata := none })
      initial).bind fun polled => polled.reported 0).any Except.isOk = true := by decide
  generalize execute (step (.defaults ["twilio"])) (fun _ _ => True)
    (polledRequest "key" { «to» := "+15550100", message := "hello", metadata := none })
    initial = first at related reported ⊢
  generalize execute (step (.defaults ["twilio"])) (fun _ _ => True)
    (polledRequest "other" { «to» := "+15550199", message := "goodbye", metadata := some "x" })
    initial = second at related ⊢
  cases related with
  | none => cases reported
  | @some polled other same =>
      obtain ⟨result, told, succeeds⟩ := (Option.any_eq_true _ _).mp reported
      cases result with
      | error error => cases succeeds
      | ok response =>
          exact ⟨polled, other, response, rfl, rfl, told, (same.reports 0).trans told⟩

end PolledService

end SmsNotification
