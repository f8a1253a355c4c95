import SmsNotification.Concurrency.Recording
import SmsNotification.DeliveredFinal
import SmsNotification.Systems

/-!
Clients that follow a message: the service with its status endpoint. A poll reads one row, and what
it reports is never behind what any client was told before it was asked.
-/

namespace SmsNotification

open Concurrency

def shownRow : (op : Op) → Except Failure op.Reply → Option SmsMessage
  | .findById _, .ok found => found
  | .findByIdempotencyKey _, .ok found => found
  | .createQueuedMessage _ _, .ok message => some message
  | _, _ => none

def Read (id : MessageId) (createdAt : Date)
    (exchanges : List (Exchange Op Op.Reply Failure)) : Prop :=
  ∃ exchange ∈ exchanges, ∃ row, shownRow exchange.op exchange.reply = some row ∧
    row.id = id ∧ row.createdAt = createdAt

def Answer.Sourced (exchanges : List (Exchange Op Op.Reply Failure)) : Answer → Prop
  | accepted response => Read response.messageId response.createdAt exchanges
  | noContent => True

section Programs

variable {α : Type} {config : Config} {exchanges later : List (Exchange Op Op.Reply Failure)}
  {message : SmsMessage}

theorem Read.grows {id : MessageId} {createdAt : Date} (read : Read id createdAt exchanges)
    (more : exchanges <+: later) : Read id createdAt later := by
  obtain ⟨exchange, member, shown⟩ := read
  exact ⟨exchange, more.subset member, shown⟩

theorem read_last {op : Op} {answer : op.Reply} (shows_ : shownRow op (.ok answer) = some message) :
    Read message.id message.createdAt (exchanges ++ [⟨op, .ok answer⟩]) :=
  ⟨_, List.mem_append_right _ (List.mem_singleton_self _), message, shows_, rfl, rfl⟩

abbrev Finds (program : Action (Option SmsMessage))
    (exchanges : List (Exchange Op Op.Reply Failure)) : Prop :=
  program.Derives Stage.Replies (fun found final => ∀ message, found = some message →
    Read message.id message.createdAt final) exchanges

abbrev Responds (program : Action SendSmsResponse)
    (exchanges : List (Exchange Op Op.Reply Failure)) : Prop :=
  program.Derives Stage.Replies (fun response final =>
    Read response.messageId response.createdAt final) exchanges

theorem finds_none : Finds (pure none) exchanges := by
  apply Program.derives_pure
  intro message impossible
  cases impossible

theorem finds_some (read : Read message.id message.createdAt exchanges) :
    Finds (pure (some message)) exchanges := by
  apply Program.derives_pure
  intro other same
  cases same
  exact read

open SmsService

theorem findFromIdempotencyCache_finds (key : String) :
    Finds (findFromIdempotencyCache key) exchanges := by
  apply Program.derives_perform_bind
  rintro (_ | cachedMessageId)
  · exact finds_none
  · apply Program.derives_perform_bind
    rintro (_ | message)
    · apply Program.derives_perform_bind
      intro _
      exact finds_none
    · exact finds_some (read_last rfl)

theorem waitForMessageCreatedByConcurrentRequest_finds (key : String) (attempts : Nat) :
    Finds (waitForMessageCreatedByConcurrentRequest key attempts) exchanges := by
  induction attempts generalizing exchanges with
  | zero => exact finds_none
  | succ attempts ih =>
      apply Program.derives_perform_bind
      intro _
      apply Program.derives_perform_bind
      rintro (_ | message)
      · exact ih
      · apply Program.derives_perform_bind
        intro _
        exact finds_some ((read_last rfl).grows (List.prefix_append _ _))

theorem findExistingAfterUniqueViolation_finds (key : String) (error : Failure) :
    Finds (findExistingAfterUniqueViolation key error) exchanges := by
  unfold findExistingAfterUniqueViolation
  split
  · apply Program.derives_perform_bind
    rintro (_ | message)
    · exact Program.derives_throw _
    · exact finds_some (read_last rfl)
  · exact finds_none

theorem responds_stored {key : String} (read : Read message.id message.createdAt exchanges) :
    Responds (do
      IdempotencyService.storeMessageId key message.id
      pure (toResponse message)) exchanges := by
  apply Program.derives_perform_bind
  intro _
  exact Program.derives_pure (read.grows (List.prefix_append _ _))

theorem createUnderLock_responds (key : String) (dto : SendSmsDto) :
    Responds (createUnderLock config key dto) exchanges := by
  apply Program.derives_perform_bind
  rintro (_ | messageAfterLock)
  · apply Program.derives_perform_bind
    intro message
    apply Program.Derives.bind (Program.derives_trivial (publishQueuedMessage config message))
    intro _ final more _
    exact responds_stored ((read_last rfl).grows more)
  · exact responds_stored (read_last rfl)

theorem recoverUnderLock_responds (key : String) (error : Failure) :
    Responds (recoverUnderLock key error) exchanges := by
  apply Program.Derives.bind (findExistingAfterUniqueViolation_finds key error)
  rintro (_ | existingAfterUniqueViolation) final _ read
  · exact Program.derives_throw _
  · exact responds_stored (read _ rfl)

theorem sendSmsRequest_responds (key : String) (dto : SendSmsDto) :
    Responds (sendSmsRequest config key dto) exchanges := by
  apply Program.Derives.bind (Program.derives_trivial (validateMessageLength config dto.message))
  intro _ _ _ _
  apply Program.Derives.bind (findFromIdempotencyCache_finds key)
  rintro (_ | cachedMessage) _ _ read
  · apply Program.derives_perform_bind
    rintro (_ | existingMessage)
    · apply Program.derives_perform_bind
      rintro (_ | lock)
      · apply Program.Derives.bind (waitForMessageCreatedByConcurrentRequest_finds key 20)
        rintro (_ | concurrent) _ _ read
        · exact Program.derives_throw _
        · exact Program.derives_pure (read _ rfl)
      · apply Program.Derives.finallyDo
        · apply Program.Derives.tryCatch (createUnderLock_responds key dto)
          intro error _ _
          exact recoverUnderLock_responds key error
        · intro response middle final more read
          exact read.grows more
    · exact responds_stored (read_last rfl)
  · exact Program.derives_pure (read _ rfl)

theorem requeue_responds (id : MessageId) : Responds (requeue config id) exchanges := by
  apply Program.derives_perform_bind
  rintro (_ | message)
  · exact Program.derives_throw _
  · have read : Read message.id message.createdAt
        (exchanges ++ [⟨.findById id, .ok (some message)⟩]) := read_last rfl
    simp only []
    split
    · exact Program.derives_throw _
    · apply Program.derives_perform_bind
      rintro (_ | _)
      · exact Program.derives_throw _
      · simp only [Bool.not_true, Bool.false_eq_true, if_false]
        apply Program.Derives.bind (Program.derives_trivial _)
        intro _ _ more _
        exact Program.derives_pure (read.grows ((List.prefix_append _ _).trans more))

theorem program_sourced (request : Call) :
    (request.program config).Derives Stage.Replies (fun answer final => answer.Sourced final) [] := by
  have settles : ∀ program : Action Unit, (program >>= fun _ => pure Answer.noContent).Derives
      Stage.Replies (fun answer final => answer.Sourced final) [] := by
    intro program
    apply (Program.derives_trivial program).bind
    intro _ _ _ _
    exact Program.derives_pure trivial
  cases request with
  | send key dto =>
      apply Program.Derives.bind (sendSmsRequest_responds key dto)
      intro response _ _ read
      exact Program.derives_pure read
  | requeue id =>
      apply Program.Derives.bind (requeue_responds id)
      intro response _ _ read
      exact Program.derives_pure read
  | dispatch id => exact settles _
  | twilio callback => exact settles _
  | bird webhookId event => exact settles _

end Programs

/-- What is known of a row from what it was before: an order that every statement respects. -/
structure RowOrder (permitted : Service → Service.Event → Prop) where
  Precedes : SmsMessage → SmsMessage → Prop
  refl : ∀ row, Precedes row row
  trans : ∀ {first second third}, Precedes first second → Precedes second third →
    Precedes first third
  keeps : ∀ {service event statement row}, permitted service event →
    service.executes event = some (.update statement) → statement.Issued →
    service.world.messages.findById row.id = some row → Precedes row (statement.run row)

section Rows

variable {permitted : Service → Service.Event → Prop} {order : RowOrder permitted}

def RowOrder.Extends (order : RowOrder permitted) (before after : Table) : Prop :=
  ∀ id row, before.findById id = some row →
    ∃ later, after.findById id = some later ∧ order.Precedes row later

theorem RowOrder.Extends.refl (table : Table) : order.Extends table table :=
  fun _ row found => ⟨row, found, order.refl row⟩

theorem RowOrder.Extends.trans {first second third : Table} (left : order.Extends first second)
    (right : order.Extends second third) : order.Extends first third := by
  intro id row found
  obtain ⟨middle, present, earlier⟩ := left id row found
  obtain ⟨last, kept, later⟩ := right id middle present
  exact ⟨last, kept, order.trans earlier later⟩

theorem Service.Moves.extends {config : Config} {service following : Service}
    {stages stages' : List Stage} {event : Service.Event}
    (moves : Service.Moves config service stages event following stages')
    (staged : Service.Staged config stages service) (allowed : permitted service event) :
    order.Extends service.world.messages following.world.messages := by
  intro id row found
  obtain ⟨after, present, same⟩ := moves.row staged found
  refine ⟨after, present, ?_⟩
  rcases same with rfl | ⟨statement, executed, issued, rfl⟩
  · exact order.refl _
  · apply order.keeps allowed executed issued
    rw [Table.findById_id found]
    exact found

theorem World.exec_shownRow {world : World} {choice : Choice} {op : Op}
    {outcome : World.Outcome op} {row : SmsMessage}
    (executed : world.exec op choice = some outcome)
    (shown : shownRow op outcome.reply = some row) :
    outcome.world.messages.findById row.id = some row := by
  have read : (∀ statement, op ≠ .update statement) →
      (∀ key dto, op ≠ .createQueuedMessage key dto) →
      world.messages.findById row.id = some row →
      outcome.world.messages.findById row.id = some row := by
    intro noUpdate noInsert found
    rw [World.exec_messages_other executed noUpdate noInsert]
    exact found
  cases answered : outcome.reply with
  | error error =>
      rw [answered] at shown
      cases op <;> cases shown
  | ok answer =>
      rw [answered] at shown
      cases op with
      | findById id =>
          apply read (by simp) (by simp)
          have found := World.exec_findById executed answered
          cases shown
          rw [Table.findById_id found]
          exact found
      | findByIdempotencyKey key =>
          apply read (by simp) (by simp)
          have found := World.exec_findByIdempotencyKey executed answered
          cases shown
          exact (Table.findByIdempotencyKey_some found).1
      | createQueuedMessage key dto =>
          cases shown
          rcases World.exec_createQueuedMessage executed with
            ⟨_, _, error, rejected⟩ | ⟨id, createdAt, newId, newKey, same, _, replied⟩
          · rw [answered] at rejected
            cases rejected
          · rcases replied with ⟨_, replied⟩ | ⟨_, message, replied⟩
            · rw [answered, Except.ok.injEq] at replied
              rw [same, replied]
              exact Table.findById_inserted newId newKey
            · rw [answered] at replied
              cases replied
      | _ => cases shown

end Rows

structure PolledService where
  service : Service
  polls : List (Process Op Op.Reply Failure MessageId SmsStatusResponse)

namespace PolledService

def initial : PolledService where
  service := .initial
  polls := []

/-- A client asks for the status of a message, and the lookup that its poll awaits is executed. -/
inductive Event
  | inner (event : Service.Event)
  | poll (messageId : MessageId)
  | answer (index : Nat) (choice : Choice)

def step (config : Config) (polled : PolledService) : Event → Option PolledService
  | .inner event => do
      let service ← polled.service.step config event
      some { polled with service := service }
  | .poll messageId =>
      some { polled with
        polls := polled.polls ++ [⟨messageId, SmsService.getMessageStatus messageId⟩] }
  | .answer index choice => do
      let poll ← polled.polls[index]?
      match poll.program with
      | .settled _ => none
      | .await op next => do
          let completion ← polled.service.world.exec op choice
          some {
            service := { polled.service with world := completion.world }
            polls := polled.polls.set index ⟨poll.tag, next completion.reply⟩ }

def asked (polled : PolledService) (index : Nat) : Option MessageId :=
  polled.polls[index]?.map Process.tag

def reported (polled : PolledService) (index : Nat) : Option (Except Failure SmsStatusResponse) :=
  polled.polls[index]?.bind fun poll => poll.program.result

def Permits (permitted : Service → Service.Event → Prop) (polled : PolledService) : Event → Prop
  | .inner event => permitted polled.service event
  | _ => True

instance {permitted : Service → Service.Event → Prop}
    [∀ service event, Decidable (permitted service event)] (polled : PolledService) :
    (event : Event) → Decidable (Permits permitted polled event)
  | .inner event => inferInstanceAs (Decidable (permitted polled.service event))
  | .poll _ => .isTrue trivial
  | .answer _ _ => .isTrue trivial

abbrev table (polled : PolledService) : Table := polled.service.world.messages

def report : Except Failure (Option SmsMessage) → Except Failure SmsStatusResponse
  | .ok (some message) => .ok (SmsService.toStatusResponse message)
  | .ok none => .error (.app .smsMessageNotFound)
  | .error error => .error error

theorem getMessageStatus_eq (id : MessageId) : SmsService.getMessageStatus id =
    .await (.findById id) fun reply => .settled (report reply) := by
  change Program.await (Op.findById id) _ = _
  refine congrArg (Program.await (Op.findById id)) (funext ?_)
  rintro (_ | _ | message) <;> rfl

variable {config : Config} {permitted : Service → Service.Event → Prop}
  {order : RowOrder permitted} {polled following : PolledService} {event : Event}

def Formed (polled : PolledService) : Prop :=
  ∀ (index : Nat) (poll : Process Op Op.Reply Failure MessageId SmsStatusResponse),
    polled.polls[index]? = some poll →
    poll.program = SmsService.getMessageStatus poll.tag ∨ ∃ result, poll.program = .settled result

def Looked (table : Table) (id : MessageId) (reply : Except Failure (Option SmsMessage)) : Prop :=
  reply = .ok (table.findById id) ∨ ∃ message, reply = .error (.rejection message)

inductive Moves (config : Config) (polled : PolledService) : Event → PolledService → Prop
  | inner {event : Service.Event} {service : Service} :
      polled.service.step config event = some service →
      Moves config polled (.inner event) { polled with service := service }
  | poll {id : MessageId} : Moves config polled (.poll id)
      { polled with polls := polled.polls ++ [⟨id, SmsService.getMessageStatus id⟩] }
  | answer {index : Nat} {id : MessageId} {choice : Choice}
      {reply : Except Failure (Option SmsMessage)} :
      polled.polls[index]? = some ⟨id, SmsService.getMessageStatus id⟩ →
      Looked polled.table id reply →
      Moves config polled (.answer index choice)
        { polled with polls := polled.polls.set index ⟨id, .settled (report reply)⟩ }

theorem exec_looked {world : World} {id : MessageId} {choice : Choice}
    {outcome : World.Outcome (.findById id)}
    (executed : world.exec (.findById id) choice = some outcome) :
    outcome.world = world ∧ Looked world.messages id outcome.reply := by
  rcases World.exec_cases executed with
    ⟨same, _, _, message, reply⟩ | ⟨hint, inner, performed, same, _, reply⟩
  · exact ⟨same, Or.inr ⟨message, reply⟩⟩
  · cases performed
    rcases reply with ⟨_, reply⟩ | ⟨_, message, reply⟩
    · exact ⟨same, Or.inl reply⟩
    · exact ⟨same, Or.inr ⟨message, reply⟩⟩

theorem step_moves (formed : polled.Formed) (stepped : polled.step config event = some following) :
    Moves config polled event following := by
  cases event with
  | inner event =>
      obtain ⟨service, moved, same⟩ := Option.bind_eq_some_iff.mp stepped
      cases same
      exact .inner moved
  | poll id =>
      cases stepped
      exact .poll
  | answer index choice =>
      obtain ⟨⟨id, program⟩, found, stepped⟩ := Option.bind_eq_some_iff.mp stepped
      rcases formed index _ found with waiting | ⟨result, settled⟩
      · obtain rfl : program = SmsService.getMessageStatus id := waiting
        simp only [getMessageStatus_eq] at stepped
        obtain ⟨completion, executed, same⟩ := Option.bind_eq_some_iff.mp stepped
        obtain ⟨world, looked⟩ := exec_looked executed
        cases same
        rw [world]
        exact .answer found looked
      · cases settled
        cases stepped

theorem Moves.formed (moves : Moves config polled event following) (formed : polled.Formed) :
    following.Formed := by
  intro index poll found
  cases moves with
  | inner _ => exact formed index poll found
  | poll =>
      rcases getElem?_concat_cases found with before | ⟨_, rfl⟩
      · exact formed index poll before
      · exact Or.inl rfl
  | answer =>
      rcases getElem?_set_cases found with ⟨_, rfl⟩ | ⟨_, before⟩
      · exact Or.inr ⟨_, rfl⟩
      · exact formed index poll before

theorem invariant_from {start final : PolledService} {stages : List Stage}
    (holds : PolledService → Prop)
    (reaches : Reaches (step config) (Permits permitted) start final)
    (staged : Service.Staged config stages start.service) (formed : start.Formed)
    (initially : holds start)
    (preserved : ∀ (polled : PolledService) (event : Event) (following : PolledService)
      (stages : List Stage), Service.Staged config stages polled.service → holds polled →
      Permits permitted polled event → Moves config polled event following → holds following) :
    (∃ stages, Service.Staged config stages final.service) ∧ final.Formed ∧ holds final := by
  refine reaches.invariant (fun polled =>
    (∃ stages, Service.Staged config stages polled.service) ∧ polled.Formed ∧ holds polled)
    ⟨⟨stages, staged⟩, formed, initially⟩ ?_
  rintro polled event following ⟨⟨stages, staged⟩, formed, holding⟩ allowed stepped
  have moves := step_moves formed stepped
  refine ⟨?_, moves.formed formed, preserved polled event following stages staged holding allowed
    moves⟩
  cases moves with
  | inner moved =>
      obtain ⟨stages', _, staged'⟩ := Service.step_moves staged moved
      exact ⟨stages', staged'⟩
  | poll => exact ⟨stages, staged⟩
  | answer => exact ⟨stages, staged⟩

theorem Moves.extends {stages : List Stage} (moves : Moves config polled event following)
    (staged : Service.Staged config stages polled.service)
    (allowed : Permits permitted polled event) :
    order.Extends polled.table following.table := by
  cases moves with
  | inner moved =>
      obtain ⟨stages', moves, _⟩ := Service.step_moves staged moved
      exact moves.extends staged allowed
  | poll => exact .refl _
  | answer => exact .refl _

theorem asked_of_reported {index : Nat} {result : Except Failure SmsStatusResponse}
    (reports : polled.reported index = some result) : ∃ id, polled.asked index = some id := by
  obtain ⟨poll, found, _⟩ := Option.bind_eq_some_iff.mp reports
  exact ⟨poll.tag, by rw [asked, found, Option.map_some]⟩

theorem Moves.reported_cases (moves : Moves config polled event following) {index : Nat}
    {id : MessageId} {result : Except Failure SmsStatusResponse}
    (asks : following.asked index = some id) (reports : following.reported index = some result) :
    (polled.asked index = some id ∧ polled.reported index = some result) ∨
      ∃ reply, Looked polled.table id reply ∧ following.table = polled.table ∧
        result = report reply := by
  cases moves with
  | inner moved => exact Or.inl ⟨asks, reports⟩
  | poll =>
      obtain ⟨poll, found, settled⟩ := Option.bind_eq_some_iff.mp reports
      rcases getElem?_concat_cases found with earlier | ⟨_, rfl⟩
      · left
        constructor
        · simpa [PolledService.asked, found, earlier] using asks
        · simp [reported, earlier, settled]
      · cases settled
  | @answer position asker choice reply present looked =>
      obtain ⟨poll, found, settled⟩ := Option.bind_eq_some_iff.mp reports
      rcases getElem?_set_cases found with ⟨_, rfl⟩ | ⟨_, earlier⟩
      · simp only [PolledService.asked, found, Option.map_some, Option.some.injEq] at asks
        subst asks
        cases settled
        exact Or.inr ⟨reply, looked, rfl, rfl⟩
      · left
        constructor
        · simpa [PolledService.asked, found, earlier] using asks
        · simp [reported, earlier, settled]

/-- Every row that was shown to anybody is still there, in a later state. -/
structure Shown (order : RowOrder permitted) (polled : PolledService) : Prop where
  calls : ∀ entry ∈ polled.service.history, ∀ row, shownRow entry.op entry.reply = some row →
    ∃ now, polled.table.findById row.id = some now ∧ order.Precedes row now
  polls : ∀ index response, polled.reported index = some (.ok response) →
    ∃ row now, response = SmsService.toStatusResponse row ∧
      polled.table.findById row.id = some now ∧ order.Precedes row now

theorem Moves.shown {stages : List Stage} (moves : Moves config polled event following)
    (staged : Service.Staged config stages polled.service)
    (allowed : Permits permitted polled event) (shown : polled.Shown order) :
    following.Shown order := by
  have extended : order.Extends polled.table following.table := moves.extends staged allowed
  have later : ∀ row : SmsMessage,
      (∃ now, polled.table.findById row.id = some now ∧ order.Precedes row now) →
      ∃ now, following.table.findById row.id = some now ∧ order.Precedes row now := by
    rintro row ⟨now, found, precedes⟩
    obtain ⟨last, present, more⟩ := extended row.id now found
    exact ⟨last, present, order.trans precedes more⟩
  constructor
  · intro entry member row shows_
    cases moves with
    | inner moved =>
        obtain ⟨stages', moves, _⟩ := Service.step_moves staged moved
        rcases moves.history with ⟨same, _⟩ |
          ⟨pid, choice, stage, op, outcome, after, _, _, _, _, executed, world, history, _⟩
        · rw [same] at member
          exact later row (shown.calls entry member row shows_)
        · rw [history] at member
          rcases List.mem_append.mp member with before | new
          · exact later row (shown.calls entry before row shows_)
          · obtain rfl := List.mem_singleton.mp new
            refine ⟨row, ?_, order.refl row⟩
            rw [table, world]
            exact World.exec_shownRow executed shows_
    | poll => exact shown.calls entry member row shows_
    | answer => exact shown.calls entry member row shows_
  · intro index response reports
    have before : polled.reported index = some (.ok response) →
        ∃ row now, response = SmsService.toStatusResponse row ∧
          following.table.findById row.id = some now ∧ order.Precedes row now := by
      intro earlier
      obtain ⟨row, now, same, found, precedes⟩ := shown.polls index response earlier
      obtain ⟨last, present, more⟩ := later row ⟨now, found, precedes⟩
      exact ⟨row, last, same, present, more⟩
    obtain ⟨id, asks⟩ := asked_of_reported reports
    rcases moves.reported_cases asks reports with
      ⟨_, earlier⟩ | ⟨reply, rfl | ⟨message, rfl⟩, same, told⟩
    · exact before earlier
    · cases row : polled.table.findById id with
      | none =>
          rw [row] at told
          cases told
      | some row' =>
          rw [row] at told
          cases told
          refine ⟨row', row', rfl, ?_, order.refl row'⟩
          rw [same, Table.findById_id row]
          exact row
    · cases told

/-- A report for message `id` by a poll that looked it up after the table was `base`. -/
inductive Reports (order : RowOrder permitted) (base : Table) (id : MessageId) :
    Except Failure SmsStatusResponse → Prop
  | rejected (message : Option String) : Reports order base id (.error (.rejection message))
  | missing : base.findById id = none → Reports order base id (.error (.app .smsMessageNotFound))
  | found {row : SmsMessage} : row.id = id →
      (∀ earlier, base.findById id = some earlier → order.Precedes earlier row) →
      Reports order base id (.ok (SmsService.toStatusResponse row))

theorem Looked.reports {base now : Table} {id : MessageId}
    {reply : Except Failure (Option SmsMessage)} (looked : Looked now id reply)
    (extended : order.Extends base now) : Reports order base id (report reply) := by
  rcases looked with rfl | ⟨message, rfl⟩
  · cases present : now.findById id with
    | none =>
        apply Reports.missing
        cases absent : base.findById id with
        | none => rfl
        | some row =>
            obtain ⟨later, kept, _⟩ := extended id row absent
            rw [present] at kept
            cases kept
    | some row =>
        apply Reports.found (Table.findById_id present)
        intro earlier found
        obtain ⟨later, kept, precedes⟩ := extended id earlier found
        rw [present] at kept
        cases kept
        exact precedes
  · exact .rejected message

structure Since (order : RowOrder permitted) (base : Table) (pending : Nat → Prop)
    (polled : PolledService) : Prop where
  extended : order.Extends base polled.table
  reports : ∀ index id result, pending index → polled.asked index = some id →
    polled.reported index = some result → Reports order base id result

theorem Moves.since {stages : List Stage} {base : Table} {pending : Nat → Prop}
    (moves : Moves config polled event following)
    (staged : Service.Staged config stages polled.service)
    (allowed : Permits permitted polled event) (since : polled.Since order base pending) :
    following.Since order base pending := by
  refine ⟨since.extended.trans (moves.extends staged allowed), ?_⟩
  intro index id result unanswered asks reports
  rcases moves.reported_cases asks reports with ⟨asked, earlier⟩ | ⟨reply, looked, _, rfl⟩
  · exact since.reports index id result unanswered asked earlier
  · exact looked.reports since.extended

theorem shown_reached (order : RowOrder permitted)
    (reaches : Reaches (step config) (Permits permitted) initial polled) :
    (∃ stages, Service.Staged config stages polled.service) ∧ polled.Formed ∧
      polled.Shown order := by
  apply invariant_from (fun polled => polled.Shown order) reaches Service.initial_staged
  · intro index poll found
    simp [initial] at found
  · constructor
    · intro entry member
      simp [initial, Service.initial] at member
    · intro index response reports
      simp [initial, reported] at reports
  · intro polled event following stages staged shown allowed moves
    exact moves.shown staged allowed shown

theorem reports_later (order : RowOrder permitted) {middle final : PolledService}
    (reaches : Reaches (step config) (Permits permitted) initial middle)
    (later : Reaches (step config) (Permits permitted) middle final) {index : Nat} {id : MessageId}
    {result : Except Failure SmsStatusResponse} (pending : middle.reported index = none)
    (asks : final.asked index = some id) (reports : final.reported index = some result) :
    Reports order middle.table id result := by
  obtain ⟨⟨stages, staged⟩, formed, _⟩ := shown_reached order reaches
  obtain ⟨_, _, since⟩ := invariant_from
    (fun polled => polled.Since order middle.table fun index => middle.reported index = none)
    later staged formed
    ⟨.refl _, fun _ _ _ unanswered _ reports => by rw [unanswered] at reports; cases reports⟩
    fun polled event following stages staged since allowed moves => moves.since staged allowed since
  exact since.reports index id result pending asks reports

theorem refines_service (reaches : Reaches (step config) (Permits permitted) initial polled) :
    Reaches (Service.step config) permitted .initial polled.service := by
  have simulated : ∃ service, Reaches (Service.step config) permitted .initial service ∧
      polled.service = service ∧ polled.Formed := by
    apply reaches.simulate fun polled service => polled.service = service ∧ polled.Formed
    · refine ⟨rfl, ?_⟩
      intro index poll found
      simp [initial] at found
    · rintro polled event following _ ⟨rfl, formed⟩ allowed stepped
      have moves := step_moves formed stepped
      refine ⟨following.service, ?_, rfl, moves.formed formed⟩
      cases moves with
      | inner moved => exact .step .refl allowed moved
      | poll => exact .refl
      | answer => exact .refl
  obtain ⟨service, run, rfl, _⟩ := simulated
  exact run

end PolledService

namespace Service

variable {config : Config} {service : Service}

def sourceDiscipline (config : Config) :
    Discipline (system config (fun _ _ _ => True) fun _ _ => True) :=
  .ofSources _ program_sourced fun _ _ _ _ executed => World.exec_replies executed

theorem accepted_shown {permitted : Service → Event → Prop}
    (reaches : Reaches (step config) permitted initial service) {pid : Nat}
    {response : SendSmsResponse}
    (settled : service.result pid = some (.ok (.accepted response))) :
    ∃ entry ∈ service.history, ∃ row, shownRow entry.op entry.reply = some row ∧
      row.id = response.messageId ∧ row.createdAt = response.createdAt := by
  obtain ⟨obeyed, _⟩ := Discipline.invariant (sourceDiscipline config) id (fun _ => True) reaches
    (initial_obeyed _) trivial
    (fun _ _ _ _ stepped => steps stepped (fun _ _ _ => trivial) fun _ _ => trivial)
    fun _ _ _ _ _ _ => trivial
  obtain ⟨process, found, result⟩ := Option.bind_eq_some_iff.mp settled
  obtain ⟨exchange, member, row, shown, identified⟩ := Discipline.source_recorded obeyed found result
  obtain ⟨entry, own, rfl⟩ := List.mem_map.mp member
  exact ⟨entry, List.mem_of_mem_filter own, row, shown, identified⟩

end Service

structure SmsStatusResponse.Precedes (response later : SmsStatusResponse) : Prop where
  messageId : later.messageId = response.messageId
  createdAt : later.createdAt = response.createdAt
  attempts : response.attempts ≤ later.attempts

namespace Update

variable {statement : Update} {row : SmsMessage}

theorem run_precedes (statement : Update) (row : SmsMessage) :
    (SmsService.toStatusResponse row).Precedes
      (SmsService.toStatusResponse (statement.run row)) := by
  unfold run
  split
  · cases statement with
    | incrementAttempts id => exact ⟨rfl, rfl, Nat.le_succ _⟩
    | _ => exact ⟨rfl, rfl, Nat.le_refl _⟩
  · exact ⟨rfl, rfl, Nat.le_refl _⟩

theorem guarded_leaves (guarded : statement.isUnguardedStatus = false)
    (issued : statement.Issued) (delivered : row.status = .delivered) :
    statement.run row = { row with attempts := (statement.run row).attempts } := by
  unfold run
  split
  · rename_i selected
    have condition := selected.2
    rw [delivered] at condition
    cases statement with
    | incrementAttempts id => rfl
    | markProcessing id => simp [guard] at condition
    | transitionFatalFailureToQueued id => simp [guard] at condition
    | applyDeliveryStatus params =>
        obtain ⟨id, update⟩ := issued
        cases update <;> simp [guard] at condition
    | markSent | markFatalFailure | markQueuePublishFailed | restoreFatalFailure =>
        simp [isUnguardedStatus] at guarded
  · rfl

end Update

theorem SmsStatusResponse.Precedes.refl (response : SmsStatusResponse) :
    response.Precedes response :=
  ⟨rfl, rfl, Nat.le_refl _⟩

theorem SmsStatusResponse.Precedes.trans {first second third : SmsStatusResponse}
    (left : first.Precedes second) (right : second.Precedes third) : first.Precedes third where
  messageId := right.messageId.trans left.messageId
  createdAt := right.createdAt.trans left.createdAt
  attempts := left.attempts.trans right.attempts

/-- No statement takes anything back that identifies a row, or an attempt. -/
def monotoneOrder (permitted : Service → Service.Event → Prop) : RowOrder permitted where
  Precedes row later :=
    (SmsService.toStatusResponse row).Precedes (SmsService.toStatusResponse later)
  refl _ := .refl _
  trans := .trans
  keeps _ _ _ _ := Update.run_precedes _ _

/-- As long as no late write comes, a delivered row only counts further attempts. -/
def deliveredOrder : RowOrder Service.NoLateWrite where
  Precedes row later := row.attempts ≤ later.attempts ∧
    (row.status = .delivered → later = { row with attempts := later.attempts })
  refl row := ⟨Nat.le_refl _, fun _ => rfl⟩
  trans := by
    rintro first second third ⟨left, leaves⟩ ⟨right, leaves'⟩
    refine ⟨left.trans right, ?_⟩
    intro delivered
    have same := leaves delivered
    have still : second.status = .delivered := by
      rw [same]
      exact delivered
    rw [leaves' still, same]
  keeps := by
    intro service event statement row timely executed issued found
    refine ⟨(Update.run_precedes statement row).attempts, ?_⟩
    intro delivered
    cases guarded : statement.isUnguardedStatus with
    | false => exact Update.guarded_leaves guarded issued delivered
    | true =>
        have other : row.id ≠ statement.messageId := by
          intro selected
          rw [selected] at found
          exact timely.pending executed guarded found delivered
        rw [Update.run, if_neg fun selected => other selected.1]

namespace PolledService

variable {config : Config}

/-- In every run a poll that looks its message up after a client was told about it, by an earlier poll
or by an accepted request, finds the message and reports nothing older, unless its own lookup is
rejected. A poll's lookup and its reply are one step. -/
theorem polls_monotone {permitted : Service → Service.Event → Prop} {middle final : PolledService}
    (reaches : Reaches (step config) (Permits permitted) initial middle)
    (later : Reaches (step config) (Permits permitted) middle final) {index : Nat} {id : MessageId}
    {result : Except Failure SmsStatusResponse} (pending : middle.reported index = none)
    (asks : final.asked index = some id) (reports : final.reported index = some result) :
    (∀ earlier response, middle.reported earlier = some (.ok response) → response.messageId = id →
      (∃ message, result = .error (.rejection message)) ∨
        ∃ following, result = .ok following ∧ response.Precedes following) ∧
    ∀ pid response, middle.service.result pid = some (.ok (.accepted response)) →
      response.messageId = id →
      (∃ message, result = .error (.rejection message)) ∨
        ∃ following, result = .ok following ∧ following.messageId = id ∧
          following.createdAt = response.createdAt := by
  obtain ⟨_, _, shown⟩ := shown_reached (monotoneOrder permitted) reaches
  have report := reports_later (monotoneOrder permitted) reaches later pending asks reports
  have told : ∀ row now : SmsMessage, middle.table.findById row.id = some now → row.id = id →
      (SmsService.toStatusResponse row).Precedes (SmsService.toStatusResponse now) →
      (∃ message, result = .error (.rejection message)) ∨
        ∃ following, result = .ok following ∧
          (SmsService.toStatusResponse row).Precedes following := by
    rintro row now found rfl precedes
    cases report with
    | rejected message => exact Or.inl ⟨message, rfl⟩
    | missing absent =>
        rw [absent] at found
        cases found
    | found same extends_ => exact Or.inr ⟨_, rfl, precedes.trans (extends_ now found)⟩
  constructor
  · intro earlier response reported asked
    obtain ⟨row, now, rfl, found, precedes⟩ := shown.polls earlier response reported
    exact told row now found asked precedes
  · intro pid response settled asked
    obtain ⟨entry, member, row, shows_, sameId, sameDate⟩ :=
      Service.accepted_shown (refines_service reaches) settled
    obtain ⟨now, found, precedes⟩ := shown.calls entry member row shows_
    rcases told row now found (sameId.trans asked) precedes with rejected | ⟨following, same, next⟩
    · exact Or.inl rejected
    · exact Or.inr ⟨following, same, next.messageId.trans (sameId.trans asked),
        next.createdAt.trans sameDate⟩

/-- A client whose request was accepted polls twice. -/
theorem accepted_polled : ∃ (middle final : PolledService) (first second : SmsStatusResponse),
    middle.reported 0 = some (.ok first) ∧ final.reported 1 = some (.ok second) ∧
      first.Precedes second := by
  obtain ⟨middle, reaches, found⟩ := execute_exists
    (step (.defaults ["twilio"])) (Permits fun _ _ => True) initial
    (([Service.Event.sends "key"] ++ Service.Event.answers 0 8).map Event.inner ++
      [.poll 0, .answer 0 (.answered {})])
    (fun middle => (middle.reported 0).any (fun result => result.toOption.any fun first =>
        first.messageId = 0) && middle.reported 1 = none &&
      (execute (step (.defaults ["twilio"])) (Permits fun _ _ => True)
        [.poll 0, .answer 1 (.answered {})] middle).any fun final =>
          final.asked 1 = some 0 && (final.reported 1).any fun result => result.isOk)
    (by decide)
  simp only [Bool.and_eq_true, Option.any_eq_true, decide_eq_true_eq] at found
  obtain ⟨⟨⟨result, told, first, answered, same⟩, pending⟩, final, executed, asks, second, reports,
    succeeds⟩ := found
  cases result with
  | error error => cases answered
  | ok _ =>
      cases answered
      have monotone := polls_monotone reaches (execute_reaches _ executed) pending asks reports
      rcases monotone.1 0 first told same with ⟨message, rfl⟩ | ⟨following, rfl, precedes⟩
      · cases succeeds
      · exact ⟨middle, final, first, following, told, reports, precedes⟩

/-- Once a client was told of a delivery, every later poll reports that same delivery, in every run
without a late write: only the number of attempts can still differ. -/
theorem delivery_reported {middle final : PolledService}
    (reaches : Reaches (step config) (Permits Service.NoLateWrite) initial middle)
    (later : Reaches (step config) (Permits Service.NoLateWrite) middle final)
    {earlier index : Nat} {response : SmsStatusResponse}
    {result : Except Failure SmsStatusResponse}
    (told : middle.reported earlier = some (.ok response)) (delivered : response.status = .delivered)
    (pending : middle.reported index = none)
    (asks : final.asked index = some response.messageId)
    (reports : final.reported index = some result) :
    (∃ message, result = .error (.rejection message)) ∨
      ∃ attempts, response.attempts ≤ attempts ∧
        result = .ok { response with attempts := attempts } := by
  obtain ⟨_, _, shown⟩ := shown_reached deliveredOrder reaches
  obtain ⟨row, now, rfl, found, precedes⟩ := shown.polls earlier response told
  cases reports_later deliveredOrder reaches later pending asks reports with
  | rejected message => exact Or.inl ⟨message, rfl⟩
  | missing absent =>
      have present : middle.table.findById row.id = none := absent
      rw [present] at found
      cases found
  | @found row' same extends_ =>
      have chained := deliveredOrder.trans precedes (extends_ now found)
      have unchanged := chained.2 delivered
      refine Or.inr ⟨row'.attempts, chained.1, ?_⟩
      rw [unchanged]
      rfl

/-- A delivery is reported, and reported again. -/
theorem delivery_polled : ∃ (middle final : PolledService) (response : SmsStatusResponse)
    (attempts : Nat), middle.reported 0 = some (.ok response) ∧ response.status = .delivered ∧
      final.reported 1 = some (.ok { response with attempts := attempts }) := by
  obtain ⟨middle, reaches, found⟩ := execute_exists
    (step (.defaults ["twilio"])) (Permits Service.NoLateWrite) initial
    (([Service.Event.sends "key"] ++ Service.Event.answers 0 8 ++
      [Service.Event.execute 0] ++ Service.Event.answers 1 4 ++ [Service.Event.accepts 1 "SM1"] ++
      Service.Event.answers 1 2 ++ [Service.Event.reports "SM1" "delivered"] ++
      Service.Event.answers 2 5).map Event.inner ++
      [.poll 0, .answer 0 (.answered {})])
    (fun middle => (middle.reported 0).any (fun result => result.toOption.any fun first =>
        first.messageId = 0 && first.status = .delivered) && middle.reported 1 = none &&
      (execute (step (.defaults ["twilio"])) (Permits Service.NoLateWrite)
        [.poll 0, .answer 1 (.answered {})] middle).any fun final =>
          final.asked 1 = some 0 && (final.reported 1).any fun result => result.isOk)
    (by decide)
  simp only [Bool.and_eq_true, Option.any_eq_true, decide_eq_true_eq] at found
  obtain ⟨⟨⟨result, told, first, answered, same, delivered⟩, pending⟩, final, executed, asks, second,
    reports, succeeds⟩ := found
  cases result with
  | error error => cases answered
  | ok _ =>
      cases answered
      rw [← same] at asks
      rcases delivery_reported reaches (execute_reaches _ executed) told delivered pending asks
        reports with ⟨message, rfl⟩ | ⟨attempts, _, rfl⟩
      · cases succeeds
      · exact ⟨middle, final, first, attempts, told, delivered, reports⟩

end PolledService

end SmsNotification
