import SmsNotification.Concurrency.Simulation
import SmsNotification.ErrorCatalog
import SmsNotification.References
import SmsNotification.Template

/-!
`QueueService` and `SmsProcessor` over the queues as BullMQ keeps them, where a job is known by its id
alone and one whose id is taken is ignored.
-/

namespace SmsNotification

open Concurrency

/-- The shape of a version 4 UUID, as `gen_random_uuid()` and `randomUUID()` draw them. -/
def uuidV4 : Template :=
  let hexadecimal := "0123456789abcdef".toList
  List.replicate 8 hexadecimal ++ [['-']] ++ List.replicate 4 hexadecimal ++ [['-'], ['4']] ++
    List.replicate 3 hexadecimal ++ [['-'], ['8', '9', 'a', 'b']] ++
    List.replicate 3 hexadecimal ++ [['-']] ++ List.replicate 12 hexadecimal

def uuid (bits : Nat) : String := String.ofList (uuidV4.write bits)

/-- `UUID_PATTERN` -/
def uuidPattern : List (Char → Bool) :=
  let hexadecimal := fun character : Char => "0123456789abcdefABCDEF".toList.contains character
  let version := fun character : Char => "12345".toList.contains character
  let variant := fun character : Char => "89abAB".toList.contains character
  let dash := fun character : Char => character == '-'
  List.replicate 8 hexadecimal ++ [dash] ++ List.replicate 4 hexadecimal ++ [dash, version] ++
    List.replicate 3 hexadecimal ++ [dash, variant] ++ List.replicate 3 hexadecimal ++ [dash] ++
    List.replicate 12 hexadecimal

def uuidBits : Nat := 2 ^ 122

theorem uuidV4_size : uuidV4.size = uuidBits := by decide

theorem uuidV4_distinct : ∀ place ∈ uuidV4, place.Nodup := by decide

theorem uuidV4_pattern : List.Forall₂ (fun place admits => place ≠ [] ∧ place.all admits = true)
    uuidV4 uuidPattern := by
  decide

theorem uuid_injective {first second : Nat} (firstBelow : first < uuidBits)
    (secondBelow : second < uuidBits) (same : uuid first = uuid second) : first = second := by
  rw [← uuidV4_size] at firstBelow secondBelow
  apply Template.write_injective uuidV4_distinct firstBelow secondBelow
  exact String.ofList_injective same

theorem uuid_fits (bits : Nat) : Template.fits uuidPattern (uuid bits).toList = true := by
  rw [uuid, String.toList_ofList]
  exact Template.fits_write uuidV4_pattern bits

@[simp] theorem length_uuid (bits : Nat) : (uuid bits).toList.length = 36 := by
  rw [uuid, String.toList_ofList, Template.length_write]
  decide

def sendSmsJobName : String := "send-sms"
def failedSmsJobName : String := "failed-sms"

namespace QueueService

/-- `${kind}-${messageId}-${Date.now()}-${randomUUID()}` -/
def freshJobId (kind : String) (messageId : MessageId) (now : Date) (random : Nat) : String :=
  kind ++ "-" ++ uuid messageId ++ "-" ++ toString now ++ "-" ++ uuid random

def requeueJobId : MessageId → Date → Nat → String := freshJobId "requeue"

def deadLetterJobId : MessageId → Date → Nat → String := freshJobId "dlq"

theorem freshJobId_random {kind kind' : String} {messageId messageId' : MessageId}
    {now now' : Date} {random random' : Nat} (below : random < uuidBits)
    (below' : random' < uuidBits) (same : freshJobId kind messageId now random =
      freshJobId kind' messageId' now' random') : random = random' := by
  have lists := congrArg String.toList same
  simp only [freshJobId, String.toList_append] at lists
  have tails := (List.append_inj' lists (by simp)).2
  exact uuid_injective below below' (String.toList_inj.mp tails)

theorem requeueJobId_ne_uuid (messageId : MessageId) (now : Date) (random bits : Nat) :
    requeueJobId messageId now random ≠ uuid bits := by
  intro same
  have fits := uuid_fits bits
  have starts : (requeueJobId messageId now random).toList = 'r' :: ("equeue".toList ++
      ("-" ++ uuid messageId ++ "-" ++ toString now ++ "-" ++ uuid random).toList) := by
    simp [requeueJobId, freshJobId, String.toList_append]
  rw [← same, starts] at fits
  cases fits

end QueueService

structure QueueJob where
  jobId : String
  name : String
  messageId : MessageId
  attempts : Nat
  attemptsMade : Nat := 0
  state : JobState := .waiting
  deriving DecidableEq, Repr

structure FailedSmsJob where
  jobId : String
  name : String
  messageId : MessageId
  deriving DecidableEq, Repr

/-- `World` with the queues of BullMQ in place of its lists; `drawn` are the random UUIDs in the ids
of their jobs. -/
structure QueueWorld where
  messages : Table
  cache : String → Option MessageId
  locks : String → Option Nat
  claims : String → Bool
  smsQueue : List QueueJob
  smsDlqQueue : List FailedSmsJob
  drawn : List Nat

/-- The job without its id; one that goes by its message is not from a requeue. -/
def QueueJob.job (queued : QueueJob) : Job where
  messageId := queued.messageId
  fromRequeue := queued.jobId != uuid queued.messageId
  attempts := queued.attempts
  attemptsMade := queued.attemptsMade
  state := queued.state

def QueueJob.settled (queued : QueueJob) : Except Failure Answer → QueueJob
  | .ok _ => { queued with attemptsMade := queued.attemptsMade + 1, state := .completed }
  | .error _ => { queued with
      attemptsMade := queued.attemptsMade + 1
      state := if queued.attemptsMade + 1 < queued.attempts then .delayed else .failed }

namespace QueueWorld

def initial : QueueWorld where
  messages := .empty
  cache _ := none
  locks _ := none
  claims _ := false
  smsQueue := []
  smsDlqQueue := []
  drawn := []

def world (queues : QueueWorld) : World where
  messages := queues.messages
  cache := queues.cache
  locks := queues.locks
  claims := queues.claims
  jobs := queues.smsQueue.map QueueJob.job
  deadLetters := queues.smsDlqQueue.map FailedSmsJob.messageId

def adopt (queues : QueueWorld) (world : World) : QueueWorld :=
  { queues with
    messages := world.messages, cache := world.cache, locks := world.locks, claims := world.claims }

/-- BullMQ ignores a job whose id is taken. -/
def add (queues : QueueWorld) (queued : QueueJob) : QueueWorld × Bool :=
  if queues.smsQueue.any fun other => other.jobId = queued.jobId then (queues, false)
  else ({ queues with smsQueue := queues.smsQueue ++ [queued] }, true)

def addFailed (queues : QueueWorld) (failed : FailedSmsJob) : QueueWorld × Bool :=
  if queues.smsDlqQueue.any fun other => other.jobId = failed.jobId then (queues, false)
  else ({ queues with smsDlqQueue := queues.smsDlqQueue ++ [failed] }, true)

def draw (queues : QueueWorld) (random : Nat) : QueueWorld :=
  { queues with drawn := random :: queues.drawn }

def perform (queues : QueueWorld) (hint : Hint) :
    (op : Op) → Option (Completion op.Reply Failure QueueWorld)
  | .enqueueSms messageId attempts =>
      let added := queues.add {
        jobId := uuid messageId, name := sendSmsJobName, messageId := messageId
        attempts := attempts }
      some ⟨.ok (), added.1, added.2⟩
  | .requeueSms messageId attempts =>
      let added := (queues.draw hint.token).add {
        jobId := QueueService.requeueJobId messageId hint.date hint.token
        name := sendSmsJobName, messageId := messageId, attempts := attempts }
      some ⟨.ok (), added.1, added.2⟩
  | .enqueueDeadLetter messageId =>
      let added := (queues.draw hint.token).addFailed {
        jobId := QueueService.deadLetterJobId messageId hint.date hint.token
        name := failedSmsJobName, messageId := messageId }
      some ⟨.ok (), added.1, added.2⟩
  | op => (queues.world.perform hint op).map fun outcome =>
      ⟨outcome.reply, queues.adopt outcome.world, outcome.effective⟩

def exec (queues : QueueWorld) (op : Op) :
    Choice → Option (Completion op.Reply Failure QueueWorld)
  | .answered hint => queues.perform hint op
  | .rejected message =>
      if op.fallible then some ⟨.error (.rejection message), queues, false⟩ else none
  | .lost hint message =>
      if op.fallible then
        (queues.perform hint op).map fun completion =>
          ⟨.error (.rejection message), completion.world, completion.effective⟩
      else none

end QueueWorld

namespace SmsProcessor

/-- The payload is tested before the dispatch; the two errors are raised with the texts of the
catalog. -/
def process (config : Config) (queued : QueueJob) : Action Unit :=
  if queued.name ≠ sendSmsJobName then
    throw (.rejection (some (errorCatalog .queueUnsupportedJob).message))
  else if Template.fits uuidPattern (uuid queued.messageId).toList = false then
    throw (.rejection (some (errorCatalog .queueInvalidJobPayload).message))
  else SmsDispatcherService.dispatch config queued.messageId

theorem process_named {config : Config} {queued : QueueJob} (named : queued.name = sendSmsJobName) :
    process config queued = SmsDispatcherService.dispatch config queued.messageId := by
  rw [process, if_neg (not_not.mpr named), if_neg]
  rw [uuid_fits]
  decide

end SmsProcessor

abbrev QueuedService := Pool Op Op.Reply Failure Call Answer QueueWorld

namespace QueuedService

def initial : QueuedService where
  world := .initial
  processes := []
  history := []

def service (queued : QueuedService) : Service := queued.inWorld queued.world.world

def setJob (queued : QueuedService) (index : Nat) (job : QueueJob) : QueuedService :=
  { queued with world := { queued.world with smsQueue := queued.world.smsQueue.set index job } }

def step (config : Config) (queued : QueuedService) : Service.Event → Option QueuedService
  | .request call =>
      if call.isDispatch then none else some (queued.spawn call (call.program config))
  | .execute index => do
      let job ← queued.world.smsQueue[index]?
      if job.state = .waiting ∨ job.state = .delayed then
        some ((queued.setJob index { job with state := .active queued.processes.length }).spawn
          (.dispatch job.messageId) do
            SmsProcessor.process config job
            pure .noContent)
      else none
  | .resume pid choice => queued.resume QueueWorld.exec pid choice
  | .settle index => do
      let job ← queued.world.smsQueue[index]?
      match job.state with
      | .active pid => do
          let result ← (queued.processes[pid]?).bind fun process => process.program.result
          some (queued.setJob index (job.settled result))
      | _ => none
  | .stall index => do
      let job ← queued.world.smsQueue[index]?
      match job.state with
      | .active _ => some (queued.setJob index { job with state := .waiting })
      | _ => none
  | .expireCache key => some { queued with
      world := { queued.world with cache := Function.update queued.world.cache key none } }
  | .expireLock key => some { queued with
      world := { queued.world with locks := Function.update queued.world.locks key none } }
  | .expireClaim webhookId => some { queued with
      world := { queued.world with
        claims := Function.update queued.world.claims webhookId false } }

end QueuedService

def Choice.hint? : Choice → Option Hint
  | answered hint => some hint
  | lost hint _ => some hint
  | rejected _ => none

def Op.draws : Op → Bool
  | requeueSms _ _ => true
  | enqueueDeadLetter _ => true
  | _ => false

theorem World.perform_has {world : World} {hint : Hint} {op : Op} {outcome : World.Outcome op}
    {id : MessageId} (performed : world.perform hint op = some outcome)
    (has : outcome.world.messages.Has id) : world.messages.Has id ∨ id = hint.id := by
  have executed : world.exec op (.answered hint) = some outcome := performed
  obtain ⟨row, found⟩ := has
  rcases World.exec_messages executed with same | ⟨statement, _, same⟩ |
    ⟨key, dto, newId, createdAt, fresh, freshKey, rfl, same⟩
  · rw [same] at found
    exact Or.inl ⟨row, found⟩
  · rw [same] at found
    obtain ⟨before, present, _⟩ := Table.findById_update_some found
    exact Or.inl ⟨before, present⟩
  · simp only [World.perform] at performed
    split at performed
    · split at performed
      · cases performed
        rw [Table.findById_insert] at found
        split at found
        · rename_i new
          exact Or.inr new
        · exact Or.inl ⟨row, found⟩
      · cases performed
        exact Or.inl ⟨row, found⟩
    · cases performed

structure QueueJob.Published (drawn : List Nat) (queued : QueueJob) : Prop where
  name : queued.name = sendSmsJobName
  messageId : queued.messageId < uuidBits
  jobId : queued.jobId = uuid queued.messageId ∨ ∃ now, ∃ random ∈ drawn,
    queued.jobId = QueueService.requeueJobId queued.messageId now random

theorem QueueJob.Published.taken {drawn : List Nat} {queued : QueueJob} {messageId : MessageId}
    (published : queued.Published drawn) (below : messageId < uuidBits) :
    queued.jobId = uuid messageId ↔
      queued.job.fromRequeue = false ∧ queued.job.messageId = messageId := by
  constructor
  · intro same
    rcases published.jobId with own | ⟨now, random, _, requeued⟩
    · have about : queued.messageId = messageId :=
        uuid_injective published.messageId below (own.symm.trans same)
      exact ⟨by simp [QueueJob.job, own], about⟩
    · exact absurd (requeued.symm.trans same) (QueueService.requeueJobId_ne_uuid _ _ _ _)
  · rintro ⟨first, rfl⟩
    simpa [QueueJob.job] using first

structure QueueWorld.Formed (queues : QueueWorld) : Prop where
  rows : ∀ id, queues.messages.Has id → id < uuidBits
  drawn : ∀ random ∈ queues.drawn, random < uuidBits
  jobs : ∀ queued ∈ queues.smsQueue, queued.Published queues.drawn
  failed : ∀ failed ∈ queues.smsDlqQueue, ∃ now, ∃ random ∈ queues.drawn,
    failed.jobId = QueueService.deadLetterJobId failed.messageId now random
  distinct : (queues.smsQueue.map QueueJob.jobId).Nodup

namespace QueueWorld

variable {queues : QueueWorld} {hint : Hint} {op : Op}

theorem perform_other (other : op.message = none) : queues.perform hint op =
    (queues.world.perform hint op).map fun outcome =>
      ⟨outcome.reply, queues.adopt outcome.world, outcome.effective⟩ := by
  cases op <;> first
    | rfl
    | cases other

theorem Formed.add_uuid (formed : queues.Formed) {messageId : MessageId}
    (below : messageId < uuidBits) (attempts : Nat) :
    (queues.add { jobId := uuid messageId, name := sendSmsJobName, messageId := messageId
                  attempts := attempts }).map world id =
      queues.world.addJob { messageId := messageId, fromRequeue := false, attempts := attempts } := by
  have taken : (queues.smsQueue.any fun other => other.jobId = uuid messageId) =
      queues.world.jobs.any fun other => !other.fromRequeue && other.messageId == messageId := by
    rw [world, List.any_map, Bool.eq_iff_iff, List.any_eq_true, List.any_eq_true]
    apply exists_congr
    intro queued
    apply and_congr_right
    intro member
    simpa using (formed.jobs queued member).taken below
  simp only [add, World.addJob, taken, Bool.not_false, Bool.true_and]
  split
  · rfl
  · simp [world, QueueJob.job]

theorem Formed.add_requeue (formed : queues.Formed) {random : Nat} (below : random < uuidBits)
    (fresh : random ∉ queues.drawn) (messageId : MessageId) (now : Date) (attempts : Nat) :
    ((queues.draw random).add {
        jobId := QueueService.requeueJobId messageId now random, name := sendSmsJobName
        messageId := messageId, attempts := attempts }).map world id =
      queues.world.addJob { messageId := messageId, fromRequeue := true, attempts := attempts } := by
  have free : (queues.smsQueue.any fun other =>
      other.jobId = QueueService.requeueJobId messageId now random) = false := by
    rw [List.any_eq_false]
    intro queued member taken
    have same := of_decide_eq_true taken
    rcases (formed.jobs queued member).jobId with own | ⟨now', random', drawn, requeued⟩
    · rw [own] at same
      exact QueueService.requeueJobId_ne_uuid _ _ _ _ same.symm
    · rw [requeued] at same
      have again := QueueService.freshJobId_random (formed.drawn random' drawn) below same
      exact fresh (again ▸ drawn)
  have requeued : (QueueService.requeueJobId messageId now random != uuid messageId) = true := by
    simpa using QueueService.requeueJobId_ne_uuid messageId now random messageId
  simp [add, draw, free, World.addJob, world, QueueJob.job, requeued]

theorem Formed.addFailed_free (formed : queues.Formed) {random : Nat} (below : random < uuidBits)
    (fresh : random ∉ queues.drawn) (messageId : MessageId) (now : Date) :
    (queues.draw random).addFailed {
        jobId := QueueService.deadLetterJobId messageId now random, name := failedSmsJobName
        messageId := messageId } =
      ({ queues.draw random with smsDlqQueue := queues.smsDlqQueue ++ [{
          jobId := QueueService.deadLetterJobId messageId now random, name := failedSmsJobName
          messageId := messageId }] }, true) := by
  have free : (queues.smsDlqQueue.any fun other =>
      other.jobId = QueueService.deadLetterJobId messageId now random) = false := by
    rw [List.any_eq_false]
    intro failed member taken
    have same := of_decide_eq_true taken
    obtain ⟨now', random', drawn, named⟩ := formed.failed failed member
    rw [named] at same
    have again := QueueService.freshJobId_random (formed.drawn random' drawn) below same
    exact fresh (again ▸ drawn)
  simp [addFailed, draw, free]

theorem Published.later {drawn : List Nat} {queued : QueueJob} (published : queued.Published drawn)
    (random : Nat) : queued.Published (random :: drawn) where
  name := published.name
  messageId := published.messageId
  jobId := by
    rcases published.jobId with own | ⟨now, earlier, member, requeued⟩
    · exact Or.inl own
    · exact Or.inr ⟨now, earlier, List.mem_cons_of_mem _ member, requeued⟩

theorem Formed.draw (formed : queues.Formed) {random : Nat} (below : random < uuidBits) :
    (queues.draw random).Formed where
  rows := formed.rows
  drawn := by
    intro other member
    rcases List.mem_cons.mp member with rfl | earlier
    · exact below
    · exact formed.drawn other earlier
  jobs queued member := Published.later (formed.jobs queued member) random
  failed := by
    intro failed member
    obtain ⟨now, earlier, drawn, named⟩ := formed.failed failed member
    exact ⟨now, earlier, List.mem_cons_of_mem _ drawn, named⟩
  distinct := formed.distinct

theorem Formed.add (formed : queues.Formed) {queued : QueueJob}
    (published : queued.Published queues.drawn) : (queues.add queued).1.Formed := by
  unfold QueueWorld.add
  split
  · exact formed
  · rename_i free
    exact {
      rows := formed.rows
      drawn := formed.drawn
      jobs := by
        intro other member
        rcases List.mem_append.mp member with earlier | new
        · exact formed.jobs other earlier
        · obtain rfl := List.mem_singleton.mp new
          exact published
      failed := formed.failed
      distinct := by
        rw [List.map_append, List.map_singleton, ← List.concat_eq_append, List.nodup_concat]
        refine ⟨?_, formed.distinct⟩
        intro taken
        obtain ⟨other, member, same⟩ := List.mem_map.mp taken
        exact free (List.any_eq_true.mpr ⟨other, member, decide_eq_true same⟩) }

theorem Formed.addFailed (formed : queues.Formed) {failed : FailedSmsJob}
    (named : ∃ now, ∃ random ∈ queues.drawn,
      failed.jobId = QueueService.deadLetterJobId failed.messageId now random) :
    (queues.addFailed failed).1.Formed := by
  unfold QueueWorld.addFailed
  split
  · exact formed
  · exact {
      rows := formed.rows
      drawn := formed.drawn
      jobs := formed.jobs
      failed := by
        intro other member
        rcases List.mem_append.mp member with earlier | new
        · exact formed.failed other earlier
        · obtain rfl := List.mem_singleton.mp new
          exact named
      distinct := formed.distinct }

/-- What an operation may rely on: ids are UUIDs, none is drawn twice for a job, and messages are
published that are there. -/
structure Draws (queues : QueueWorld) (hint : Hint) (op : Op) : Prop where
  id : hint.id < uuidBits
  token : hint.token < uuidBits
  fresh : op.draws = true → hint.token ∉ queues.drawn
  message : ∀ messageId, op.message = some messageId → messageId < uuidBits

theorem Formed.perform (formed : queues.Formed) (draws : queues.Draws hint op)
    {completion : Completion op.Reply Failure QueueWorld}
    (performed : queues.perform hint op = some completion) :
    queues.world.perform hint op =
        some ⟨completion.reply, completion.world.world, completion.effective⟩ ∧
      completion.world.Formed := by
  cases publishes : op.message with
  | none =>
      rw [perform_other publishes] at performed
      obtain ⟨outcome, same, rfl⟩ := Option.map_eq_some_iff.mp performed
      have executed : queues.world.exec op (.answered hint) = some outcome := same
      have jobs : outcome.world.jobs = queues.world.jobs := by
        rcases World.exec_jobs executed with kept | ⟨job, published, _⟩
        · exact kept
        · rw [Op.message_of_job published] at publishes
          cases publishes
      have deadLetters : outcome.world.deadLetters = queues.world.deadLetters := by
        rcases World.exec_deadLetters executed with kept | ⟨id, rfl, _⟩
        · exact kept
        · cases publishes
      have shown : (queues.adopt outcome.world).world = outcome.world := by
        simp only [world, adopt] at jobs deadLetters ⊢
        rw [← jobs, ← deadLetters]
      refine ⟨by rw [same, shown], ?_⟩
      exact {
        rows := by
          intro id has
          rcases World.perform_has same has with before | rfl
          · exact formed.rows id before
          · exact draws.id
        drawn := formed.drawn
        jobs := formed.jobs
        failed := formed.failed
        distinct := formed.distinct }
  | some messageId =>
      have below := draws.message messageId publishes
      cases op with
      | enqueueSms id attempts =>
          cases publishes
          cases performed
          have added := formed.add_uuid below attempts
          refine ⟨?_, formed.add ⟨rfl, below, Or.inl rfl⟩⟩
          simp only [World.perform, ← added]
          rfl
      | requeueSms id attempts =>
          cases publishes
          cases performed
          have added := formed.add_requeue draws.token (draws.fresh rfl) messageId hint.date
            attempts
          refine ⟨?_, (formed.draw draws.token).add ⟨rfl, below, Or.inr
            ⟨hint.date, hint.token, List.mem_cons_self, rfl⟩⟩⟩
          simp only [World.perform, ← added]
          rfl
      | enqueueDeadLetter id =>
          cases publishes
          cases performed
          have added := formed.addFailed_free draws.token (draws.fresh rfl) messageId hint.date
          refine ⟨?_, (formed.draw draws.token).addFailed
            ⟨hint.date, hint.token, List.mem_cons_self, rfl⟩⟩
          simp only [World.perform, added]
          simp [world, QueueWorld.draw]
      | _ => cases publishes

theorem Formed.exec (formed : queues.Formed) {choice : Choice}
    (draws : ∀ hint, choice.hint? = some hint → queues.Draws hint op)
    {completion : Completion op.Reply Failure QueueWorld}
    (executed : queues.exec op choice = some completion) :
    queues.world.exec op choice =
        some ⟨completion.reply, completion.world.world, completion.effective⟩ ∧
      completion.world.Formed := by
  cases choice with
  | answered hint => exact formed.perform (draws hint rfl) executed
  | rejected message =>
      simp only [QueueWorld.exec] at executed
      split at executed
      · rename_i fallible
        cases executed
        exact ⟨by simp [World.exec, fallible], formed⟩
      · cases executed
  | lost hint message =>
      simp only [QueueWorld.exec] at executed
      split at executed
      · rename_i fallible
        obtain ⟨inner, performed, rfl⟩ := Option.map_eq_some_iff.mp executed
        obtain ⟨same, formed'⟩ := formed.perform (draws hint rfl) performed
        exact ⟨by simp [World.exec, fallible, same], formed'⟩
      · cases executed

end QueueWorld

namespace QueuedService

variable {config : Config} {queued following : QueuedService}
  {permitted : Service → Service.Event → Prop}

def drawsUuids (queued : QueuedService) : Service.Event → Bool
  | .resume pid choice => choice.hint?.all fun hint =>
      hint.id < uuidBits && hint.token < uuidBits &&
        !((queued.awaits pid).any Op.draws && queued.world.drawn.contains hint.token)
  | _ => true

abbrev Permits (permitted : Service → Service.Event → Prop) (queued : QueuedService)
    (event : Service.Event) : Prop :=
  permitted queued.service event ∧ queued.drawsUuids event = true

theorem setJob_service {index : Nat} {job : QueueJob} :
    (queued.setJob index job).service = queued.service.setJob index job.job := by
  simp only [service, setJob, Service.setJob, Pool.inWorld, QueueWorld.world, List.map_set]

theorem setJob_formed (formed : queued.world.Formed) {index : Nat} {before after : QueueJob}
    (found : queued.world.smsQueue[index]? = some before) (jobId : after.jobId = before.jobId)
    (name : after.name = before.name) (messageId : after.messageId = before.messageId) :
    (queued.setJob index after).world.Formed where
  rows := formed.rows
  drawn := formed.drawn
  jobs := by
    intro other member
    rcases List.mem_or_eq_of_mem_set member with kept | rfl
    · exact formed.jobs other kept
    · obtain ⟨named, below, own⟩ := formed.jobs before (List.mem_of_getElem? found)
      exact ⟨name.trans named, messageId ▸ below, by rw [jobId, messageId]; exact own⟩
  failed := formed.failed
  distinct := by
    have same : (queued.world.smsQueue.set index after).map QueueJob.jobId =
        queued.world.smsQueue.map QueueJob.jobId := map_set_same QueueJob.jobId found jobId
    simp only [setJob, same]
    exact formed.distinct

theorem found_job {index : Nat} {job : QueueJob}
    (found : queued.world.smsQueue[index]? = some job) :
    queued.service.world.jobs[index]? = some job.job := by
  simp only [service, Pool.inWorld, QueueWorld.world, List.getElem?_map, found, Option.map_some]

theorem step_refines {event : Service.Event} (formed : queued.world.Formed)
    (references : ∀ pid op id, queued.service.awaits pid = some op → op.message = some id →
      queued.service.world.messages.Has id)
    (permits : Permits permitted queued event)
    (stepped : queued.step config event = some following) :
    queued.service.step config event = some following.service ∧ following.world.Formed := by
  cases event with
  | request call =>
      simp only [step] at stepped
      split at stepped
      · cases stepped
      · rename_i admitted
        cases stepped
        exact ⟨by simp [Service.step, admitted]; rfl, formed⟩
  | execute index =>
      obtain ⟨job, found, stepped⟩ := Option.bind_eq_some_iff.mp stepped
      split at stepped
      · rename_i ready
        cases stepped
        have named := (formed.jobs job (List.mem_of_getElem? found)).name
        refine ⟨?_, setJob_formed formed found rfl rfl rfl⟩
        have ready : job.job.state = .waiting ∨ job.job.state = .delayed := ready
        simp only [Service.step, found_job found, Option.bind_eq_bind, Option.bind_some,
          if_pos ready, SmsProcessor.process_named named]
        have moved := @setJob_service queued index
          { job with state := .active queued.processes.length }
        exact congrArg (fun service : Service => some (service.spawn (.dispatch job.messageId)
          (Call.program config (.dispatch job.messageId)))) moved.symm
      · cases stepped
  | resume pid choice =>
      obtain ⟨left, stepped', same, formed'⟩ := Pool.resume_inWorld World.exec
        (fun queues world => world = queues.world ∧ queues.Formed) queued.world.world stepped
        (by
          intro op completion awaits executed
          have draws : ∀ hint, choice.hint? = some hint → queued.world.Draws hint op := by
            intro hint drawn
            have uuids := permits.2
            simp only [drawsUuids, drawn, Option.all_some, Bool.and_eq_true, decide_eq_true_eq,
              awaits, Option.any_some] at uuids
            constructor
            · exact uuids.1.1
            · exact uuids.1.2
            · intro draws
              simpa [draws] using uuids.2
            · intro messageId publishes
              exact formed.rows messageId (references pid op messageId awaits publishes)
          obtain ⟨same, formed'⟩ := formed.exec draws executed
          exact ⟨_, same, rfl, formed'⟩)
      subst same
      exact ⟨stepped', formed'⟩
  | settle index =>
      obtain ⟨job, found, stepped⟩ := Option.bind_eq_some_iff.mp stepped
      split at stepped
      · rename_i pid active
        obtain ⟨result, settled, stepped⟩ := Option.bind_eq_some_iff.mp stepped
        cases stepped
        have active : job.job.state = .active pid := active
        have settled : queued.service.result pid = some result := settled
        have after : (job.settled result).job = job.job.settled result := by
          cases result <;> rfl
        refine ⟨?_, ?_⟩
        · simp only [Service.step, found_job found, Option.bind_eq_bind, Option.bind_some, active,
            settled, setJob_service, after]
        · apply setJob_formed formed found <;> cases result <;> rfl
      · cases stepped
  | stall index =>
      obtain ⟨job, found, stepped⟩ := Option.bind_eq_some_iff.mp stepped
      split at stepped
      · rename_i pid active
        cases stepped
        have active : job.job.state = .active pid := active
        refine ⟨?_, setJob_formed formed found rfl rfl rfl⟩
        simp only [Service.step, found_job found, Option.bind_eq_bind, Option.bind_some, active,
          setJob_service]
        rfl
      · cases stepped
  | _ =>
      cases stepped
      exact ⟨rfl, formed.rows, formed.drawn, formed.jobs, formed.failed, formed.distinct⟩

theorem initial_formed : initial.world.Formed where
  rows := by
    rintro id ⟨row, found⟩
    simp [initial, QueueWorld.initial, Table.findById, Table.empty] at found
  drawn := by simp [initial, QueueWorld.initial]
  jobs := by simp [initial, QueueWorld.initial]
  failed := by simp [initial, QueueWorld.initial]
  distinct := List.nodup_nil

theorem formed_reached (reaches : Reaches (step config) (Permits permitted) initial queued) :
    Reaches (Service.step config) permitted .initial queued.service ∧ queued.world.Formed := by
  induction reaches with
  | refl => exact ⟨.refl, initial_formed⟩
  | step _ permits stepped ih =>
      obtain ⟨run, formed⟩ := ih
      obtain ⟨same, formed'⟩ :=
        step_refines formed (Service.referenced_reached run).2.2 permits stepped
      exact ⟨.step run permits.1 same, formed'⟩

/-- Every run over the queues of BullMQ is a run of the service with its plain list of jobs. The ids
of all jobs differ, and the processor dispatches every one of them, for a message that is there. -/
theorem queued_runs_refine
    (reaches : Reaches (step config) (Permits permitted) initial queued) :
    Reaches (Service.step config) permitted .initial queued.service ∧
      (queued.world.smsQueue.map QueueJob.jobId).Nodup ∧
      ∀ job ∈ queued.world.smsQueue,
        SmsProcessor.process config job =
          SmsDispatcherService.dispatch config job.messageId ∧
        queued.world.messages.Has job.messageId := by
  obtain ⟨run, formed⟩ := formed_reached reaches
  refine ⟨run, formed.distinct, ?_⟩
  intro job member
  refine ⟨SmsProcessor.process_named (formed.jobs job member).name, ?_⟩
  have viewed : job.job ∈ queued.service.world.jobs := List.mem_map_of_mem member
  exact (Service.referenced_reached run).1 job.job viewed

/-- A message that its provider refuses for good is requeued: its two jobs go by different ids. -/
theorem requeued_job_named : ∃ queued : QueuedService,
    queued.world.smsQueue.length = 2 ∧ (queued.world.smsQueue.map QueueJob.jobId).Nodup := by
  obtain ⟨queued, reaches, found⟩ := execute_exists
    (step (.defaults ["twilio"])) (Permits fun _ _ => True) initial
    ([.sends "key"] ++ Service.Event.answers 0 8 ++ [.execute 0] ++ Service.Event.answers 1 8 ++
      [.request (.requeue 0)] ++ Service.Event.answers 2 2 ++
      [.resume 2 (.answered { token := 1 })])
    (fun queued => queued.world.smsQueue.length == 2)
    (by decide)
  exact ⟨queued, by simpa using found, (queued_runs_refine reaches).2.1⟩

end QueuedService

end SmsNotification
