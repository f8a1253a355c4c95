import SmsNotification.IdempotentCreation

/-!
What an accepted request guarantees. A duplicate is answered with the row of its key, whatever came
of the publication of that row: either a job for the message was published, or the request that
created the row tried, failed, marked the row and was itself refused.
-/

namespace SmsNotification

open Concurrency

namespace Stage

variable {caseMapping : Js.CaseMapping} {stage stage' : Stage} {op : Op} {key : String}
  {id : MessageId}

/-- Whether the first publication of message `id` succeeded, for the operation that attempts it. -/
def publication (id : MessageId) : (op : Op) → Except Failure op.Reply → Option Bool
  | .enqueueSms other _, reply => if other = id then some reply.isOk else none
  | _, _ => none

theorem creator_cases {reply : Except Failure op.Reply}
    (transition : Transition caseMapping (.creator key id) op reply stage') :
    stage' = .creator key id ∨ ∃ accepted, publication id op reply = some accepted := by
  cases transition with
  | quiet | stored | unlocked => exact Or.inl rfl
  | published => exact Or.inr ⟨true, by simp [publication, Except.isOk, Except.toBool]⟩
  | notPublished => exact Or.inr ⟨false, by simp [publication, Except.isOk, Except.toBool]⟩
  | failed _ handles | failedClaim _ handles => simp [Handles] at handles

theorem refused_publication {reply : Except Failure op.Reply}
    (transition : Transition caseMapping stage op reply stage')
    (refused : publication id op reply = some false) : ∃ key, stage' = .unpublished key id := by
  cases transition with
  | quiet infallible => cases op <;> simp_all [publication, Op.fallible]
  | published => simp [publication, Except.isOk, Except.toBool] at refused
  | @notPublished key id' =>
      simp only [publication] at refused
      split at refused
      · rename_i same
        exact ⟨key, by rw [same]⟩
      · simp at refused
  | failed allowed handles | failedClaim allowed handles =>
      cases op <;> simp [publication] at refused
      obtain ⟨key, rfl⟩ := allowed
      simp [Handles] at handles
  | _ => simp [publication] at refused

theorem unpublished_cases {reply : Except Failure op.Reply}
    (transition : Transition caseMapping (.unpublished key id) op reply stage') :
    stage' = .unpublished key id ∨
      stage' = .refused ∧ ∃ failedAt, op = .update (.markQueuePublishFailed id failedAt) := by
  cases transition with
  | quiet | stored | unlocked => exact Or.inl rfl
  | @publishFailed _ _ failedAt => exact Or.inr ⟨rfl, failedAt, rfl⟩
  | failed _ handles | failedClaim _ handles => simp [Handles] at handles

theorem refused_stays {reply : Except Failure op.Reply}
    (transition : Transition caseMapping .refused op reply stage') : stage' = .refused := by
  cases transition with
  | quiet | stored | unlocked => rfl
  | failed _ handles | failedClaim _ handles => simp [Handles] at handles

theorem Settles.publication_done {request : Call} {result : Except Failure Answer}
    (settles : Settles request stage result) :
    stage ≠ .creator key id ∧ stage ≠ .unpublished key id := by
  constructor <;> rintro rfl <;> cases request <;> cases result <;> simp [Settles] at settles

theorem Settles.accepted {request : Call} {answer : Answer}
    (settles : Settles request stage (.ok answer)) : stage ≠ .refused := by
  rintro rfl
  cases request <;> simp [Settles] at settles

end Stage

namespace Service

variable {config : Config} {service following : Service} {stages stages' : List Stage}
  {event : Event} {id : MessageId}

def refuses (id : MessageId) (entry : Entry Op Op.Reply Failure) : Prop :=
  Stage.publication id entry.op entry.reply = some false

def MarkedFailed (service : Service) (pid : Nat) (id : MessageId) : Prop :=
  ∃ entry ∈ service.history, entry.pid = pid ∧
    ∃ failedAt, entry.op = .update (.markQueuePublishFailed id failedAt)

def Published (service : Service) (id : MessageId) : Prop :=
  ∃ job ∈ service.world.jobs, job.messageId = id ∧ job.fromRequeue = false

/-- Whether an insert takes effect in the step while its request sees a rejection. -/
def lostInsert (service : Service) (event : Event) : Bool :=
  match service.loses event with
  | some (.createQueuedMessage _ _) => true
  | _ => false

abbrev NoLostInsert (service : Service) (event : Event) : Prop := service.lostInsert event = false

/-- The steps of requests in which nothing but a publication rejects, and then adds no job. -/
def onlyPublicationsReject (service : Service) : Event → Bool
  | .request (.send _ _) => true
  | .resume _ (.answered _) => true
  | .resume pid (.rejected _) => match service.awaits pid with
      | some (.enqueueSms _ _) => true
      | _ => false
  | _ => false

/-- What became of the publication of a row: it is still to be tried, or there is a job, or it was
refused. -/
def Accounts (service : Service) (stages : List Stage) (id : MessageId) : Prop :=
  (∃ (pid : Nat) (key : String), stages[pid]? = some (.creator key id)) ∨ service.Published id ∨
    ∃ entry ∈ service.history, refuses id entry

structure Accounted (service : Service) (stages : List Stage) : Prop where
  rows : ∀ id row, service.world.messages.findById id = some row → service.Accounts stages id
  refusals : ∀ entry ∈ service.history, ∀ id, refuses id entry →
    (∃ key, stages[entry.pid]? = some (.unpublished key id)) ∨
      stages[entry.pid]? = some .refused ∧ service.MarkedFailed entry.pid id

theorem Moves.published (moves : Moves config service stages event following stages')
    (published : service.Published id) : following.Published id := by
  obtain ⟨job, member, rfl, initial⟩ := published
  obtain ⟨kept, member', sameId, sameOrigin⟩ := moves.keeps_job member
  exact ⟨kept, member', sameId, sameOrigin.trans initial⟩

theorem Moves.creator (moves : Moves config service stages event following stages') {pid : Nat}
    {key : String} (creator : stages[pid]? = some (.creator key id)) :
    following.Accounts stages' id := by
  have below := (List.getElem?_eq_some_iff.mp creator).1
  rcases moves.history with ⟨_, requests, rfl⟩ |
    ⟨other, choice, stage, op, outcome, after, _, found, _, transition, executed, world, history,
      rfl⟩
  · exact Or.inl ⟨pid, key, by rw [List.getElem?_append_left below]; exact creator⟩
  · by_cases same : other = pid
    · subst same
      rw [creator, Option.some.injEq] at found
      subst found
      rcases Stage.creator_cases transition with rfl | ⟨accepted, publication⟩
      · exact Or.inl ⟨other, key, by simp [below]⟩
      · cases accepted with
        | false =>
            refine Or.inr (Or.inr ⟨⟨other, op, outcome.reply, outcome.effective⟩, ?_, publication⟩)
            rw [history]
            exact List.mem_append_right _ (List.mem_singleton.mpr rfl)
        | true =>
            cases op <;> simp only [Stage.publication, reduceCtorEq] at publication
            split at publication
            · rename_i sameId
              subst sameId
              cases reply : outcome.reply with
              | error error => simp [reply, Except.isOk, Except.toBool] at publication
              | ok answer =>
                  right; left
                  unfold Published
                  rw [world]
                  exact World.exec_enqueueSms executed reply
            · simp at publication
    · exact Or.inl ⟨pid, key, by simp [same, creator]⟩

theorem Moves.accounts (moves : Moves config service stages event following stages')
    (accounts : service.Accounts stages id) : following.Accounts stages' id := by
  rcases accounts with ⟨pid, key, creator⟩ | published | ⟨entry, member, refused⟩
  · exact moves.creator creator
  · exact Or.inr (Or.inl (moves.published published))
  · exact Or.inr (Or.inr ⟨entry, moves.keeps_entry member, refused⟩)

theorem Moves.accountedRow (moves : Moves config service stages event following stages')
    (accounted : Accounted service stages) (kept : NoLostInsert service event) {row : SmsMessage}
    (found : following.world.messages.findById id = some row) :
    following.Accounts stages' id := by
  have earlier : ∀ before, service.world.messages.findById id = some before →
      following.Accounts stages' id :=
    fun before present => moves.accounts (accounted.rows id before present)
  cases moves with
  | @resume pid choice stage after op outcome _ staged' awaits _ transition executed world _ _ =>
      rw [world] at found
      rcases World.exec_messages executed with same | ⟨statement, _, same⟩ |
        ⟨key, dto, _, _, _, _, rfl, _⟩
      · exact earlier row (by rw [← same]; exact found)
      · rw [same] at found
        obtain ⟨before, present, _⟩ := Table.findById_update_some found
        exact earlier before present
      · rcases World.exec_createQueuedMessage executed with
          ⟨same, _⟩ | ⟨fresh, createdAt, newId, newKey, same, _, reply⟩
        · exact earlier row (by rw [← same]; exact found)
        · rw [same, Table.findById_insert] at found
          split at found
          · rename_i sameId
            subst sameId
            rcases reply with ⟨_, reply⟩ | ⟨lost, _⟩
            · rw [reply] at transition
              cases transition with
              | quiet infallible => simp [Op.fallible] at infallible
              | created _ =>
                  have below := (List.getElem?_eq_some_iff.mp staged').1
                  exact Or.inl ⟨pid, key, by simp [below, queuedMessage]⟩
            · simp [NoLostInsert, lostInsert, loses, lost, awaits] at kept
          · exact earlier row found
  | _ => exact earlier row found

theorem Moves.markedFailed (moves : Moves config service stages event following stages') {pid : Nat}
    (marked : service.MarkedFailed pid id) : following.MarkedFailed pid id := by
  obtain ⟨entry, member, rest⟩ := marked
  exact ⟨entry, moves.keeps_entry member, rest⟩

theorem Moves.refusals (moves : Moves config service stages event following stages')
    (staged : Staged config stages service) (accounted : Accounted service stages)
    {entry : Entry Op Op.Reply Failure} (member : entry ∈ following.history)
    (refused : refuses id entry) :
    (∃ key, stages'[entry.pid]? = some (.unpublished key id)) ∨
      stages'[entry.pid]? = some .refused ∧ following.MarkedFailed entry.pid id := by
  have marked : ∀ {pid}, service.MarkedFailed pid id → following.MarkedFailed pid id :=
    fun marked => moves.markedFailed marked
  rcases moves.history with ⟨same, requests, rfl⟩ |
    ⟨pid, choice, stage, op, outcome, after, _, found, _, transition, _, _, history, rfl⟩
  · rw [same] at member
    have below := staged.recorded entry member
    rw [← staged.length] at below
    rw [List.getElem?_append_left below]
    rcases accounted.refusals entry member id refused with waiting | ⟨settled, done⟩
    · exact Or.inl waiting
    · exact Or.inr ⟨settled, marked done⟩
  · have below := (List.getElem?_eq_some_iff.mp found).1
    rw [history] at member
    rcases List.mem_append.mp member with earlier | new
    · by_cases same : pid = entry.pid
      · subst same
        simp only [List.getElem?_set_self below]
        rcases accounted.refusals entry earlier id refused with ⟨key, waiting⟩ | ⟨settled, done⟩
        · rw [found, Option.some.injEq] at waiting
          subst waiting
          rcases Stage.unpublished_cases transition with rfl | ⟨rfl, failedAt, rfl⟩
          · exact Or.inl ⟨key, rfl⟩
          · refine Or.inr ⟨rfl, ⟨entry.pid, _, outcome.reply, outcome.effective⟩, ?_, rfl,
              failedAt, rfl⟩
            rw [history]
            exact List.mem_append_right _ (List.mem_singleton.mpr rfl)
        · rw [found, Option.some.injEq] at settled
          subst settled
          rw [Stage.refused_stays transition]
          exact Or.inr ⟨rfl, marked done⟩
      · simp only [List.getElem?_set_ne same]
        rcases accounted.refusals entry earlier id refused with waiting | ⟨settled, done⟩
        · exact Or.inl waiting
        · exact Or.inr ⟨settled, marked done⟩
    · simp only [List.mem_singleton] at new
      subst new
      obtain ⟨key, rfl⟩ := Stage.refused_publication transition refused
      exact Or.inl ⟨key, by simp [below]⟩

theorem initial_accounted : Accounted initial [] where
  rows id row found := by simp [initial, World.initial, Table.empty, Table.findById] at found
  refusals entry member := by simp [initial] at member

theorem Moves.accounted (moves : Moves config service stages event following stages')
    (staged : Staged config stages service) (accounted : Accounted service stages)
    (kept : NoLostInsert service event) : Accounted following stages' where
  rows _ _ found := moves.accountedRow accounted kept found
  refusals _ member _ refused := moves.refusals staged accounted member refused

/-- An accepted request and its message `id`: a job for the message was published, or the process
that created the row had its publication refused, marked the row, and is not answered `202`. -/
theorem accepted_published
    (reaches : Reaches (step config) NoLostInsert initial service)
    (finished : ∀ pid < service.processes.length, (service.result pid).isSome) :
    (∀ pid key dto response, service.call pid = some (.send key dto) →
      service.result pid = some (.ok (.accepted response)) →
      service.Published response.messageId ∨
        ∃ entry ∈ service.history, refuses response.messageId entry ∧
          service.MarkedFailed entry.pid response.messageId) ∧
    ∀ entry ∈ service.history, ∀ id, refuses id entry →
      ∀ answer, service.result entry.pid ≠ some (.ok answer) := by
  obtain ⟨stages, staged, idempotent, accounted⟩ := invariant
    (fun service stages => Idempotent service stages ∧ Accounted service stages) reaches
    ⟨initial_idempotent, initial_accounted⟩
    (fun _ _ _ _ _ staged holding kept moves =>
      ⟨moves.idempotent staged holding.1, moves.accounted staged holding.2 kept⟩)
  have settled : ∀ (pid : Nat) (stage : Stage), stages[pid]? = some stage →
      ∃ request result, Stage.Settles request stage result := by
    intro pid stage found
    have below := (List.getElem?_eq_some_iff.mp found).1
    rw [staged.length] at below
    obtain ⟨result, result'⟩ := Option.isSome_iff_exists.mp (finished pid below)
    obtain ⟨request, stage', _, found', settles⟩ := staged.result result'
    rw [found, Option.some.injEq] at found'
    exact ⟨request, result, found' ▸ settles⟩
  constructor
  · intro pid key dto response called result
    obtain ⟨request, stage, called', found, settles⟩ := staged.result result
    rw [called, Option.some.injEq] at called'
    subst called'
    obtain ⟨_, same, reached⟩ := settles
    cases same
    have knows : stage.Knows key response.messageId := by
      rcases reached with rfl | rfl <;> simp [Stage.Knows]
    obtain ⟨row, present, _⟩ := idempotent.knows pid stage key _ found knows
    rcases accounted.rows _ row present with ⟨creator, key', found'⟩ | published |
      ⟨entry, member, refused⟩
    · obtain ⟨request, result, settles⟩ := settled creator _ found'
      exact absurd rfl settles.publication_done.1
    · exact Or.inl published
    · rcases accounted.refusals entry member _ refused with ⟨key', found'⟩ | ⟨_, marked⟩
      · obtain ⟨request, result, settles⟩ := settled entry.pid _ found'
        exact absurd rfl settles.publication_done.2
      · exact Or.inr ⟨entry, member, refused, marked⟩
  · intro entry member id refused answer accepted
    obtain ⟨request, stage, _, found, settles⟩ := staged.result accepted
    rcases accounted.refusals entry member id refused with ⟨key, found'⟩ | ⟨found', _⟩
    · rw [found, Option.some.injEq] at found'
      exact settles.publication_done.2 found'
    · rw [found, Option.some.injEq] at found'
      exact settles.accepted found'

/-- A request and a duplicate that both finish. -/
theorem accepted_published_duplicate : ∃ service,
    Reaches (step (.defaults ["twilio"])) NoLostInsert initial service ∧
      (service.result 1).isSome ∧ (service.Published 0 ∨
        ∃ entry ∈ service.history, refuses 0 entry ∧ service.MarkedFailed entry.pid 0) := by
  obtain ⟨service, reaches, found⟩ := execute_exists
    (step (.defaults ["twilio"])) NoLostInsert initial
    ([Event.sends "key",
      Event.sends "key"] ++
      Event.answers 0 8 ++ Event.answers 1 2)
    (fun service => (List.range service.processes.length).all
        (fun pid => (service.result pid).isSome) &&
      service.call 1 =
        some (.send "key" { «to» := "+15550100", message := "hello", metadata := none }) &&
      service.result 1 = some (.ok (.accepted ⟨0, .queued, 0⟩)))
    (by decide)
  simp only [Bool.and_eq_true, List.all_eq_true, List.mem_range, decide_eq_true_eq] at found
  obtain ⟨⟨finished, called⟩, accepted⟩ := found
  exact ⟨service, reaches, by rw [accepted]; rfl,
    (accepted_published reaches finished).1 1 _ _ _ called accepted⟩

/-- A publication rejects and adds no job; the retry with the same key is answered `202` with the
row that was marked `FAILED`, and there is no job. -/
theorem accepted_unpublished : ∃ service response,
    Reaches (step (.defaults ["twilio"])) (fun service event =>
      service.onlyPublicationsReject event = true) initial service ∧
    (∀ pid < service.processes.length, (service.result pid).isSome) ∧
    service.result 1 = some (.ok (.accepted response)) ∧ service.world.jobs = [] := by
  obtain ⟨service, reaches, found⟩ := execute_exists
    (step (.defaults ["twilio"])) (fun service event => service.onlyPublicationsReject event = true)
    initial
    ([Event.sends "key"] ++
      Event.answers 0 5 ++ [.resume 0 (.rejected (some "redis unavailable"))] ++
      Event.answers 0 3 ++
      [Event.sends "key"] ++
      Event.answers 1 3)
    (fun service => (List.range service.processes.length).all
        (fun pid => (service.result pid).isSome) &&
      service.result 1 = some (.ok (.accepted ⟨0, .failed, 0⟩)) && service.world.jobs = [])
    (by decide)
  simp only [Bool.and_eq_true, List.all_eq_true, List.mem_range, decide_eq_true_eq] at found
  obtain ⟨⟨finished, accepted⟩, jobless⟩ := found
  exact ⟨service, _, reaches, finished, accepted, jobless⟩

end Service

end SmsNotification
