import SmsNotification.Footprints
import SmsNotification.Systems

/-!
What a client asked for on its way to a provider: the row has the phone number and the text of the
request that created it, nothing ever changes them, and every call of a provider carries them.
-/

namespace SmsNotification

open Concurrency

/-- The columns that `createQueuedMessage` takes from the request, with the date of the insert. -/
structure RequestData where
  idempotencyKey : String
  recipientPhone : String
  messageBody : String
  metadata : Option String
  createdAt : Date
  deriving DecidableEq

def SmsMessage.requestData (row : SmsMessage) : RequestData where
  idempotencyKey := row.idempotencyKey
  recipientPhone := row.recipientPhone
  messageBody := row.messageBody
  metadata := row.metadata
  createdAt := row.createdAt

structure RequestData.Requested (config : Config) (data : RequestData) (idempotencyKey : String)
    (dto : SendSmsDto) : Prop where
  key : data.idempotencyKey = idempotencyKey
  phone : data.recipientPhone = dto.to
  body : data.messageBody = dto.message
  metadata : data.metadata = dto.metadata
  short : Js.utf16Length dto.message ≤ config.maxMessageLength

theorem SmsMessage.sendOptions_congr {row other : SmsMessage}
    (same : row.requestData = other.requestData) (id : row.id = other.id) :
    row.sendOptions = other.sendOptions := by
  have phone := congrArg RequestData.recipientPhone same
  have body := congrArg RequestData.messageBody same
  simp only [requestData] at phone body
  rw [sendOptions, sendOptions, phone, body, id]

@[simp] theorem Update.run_requestData (update : Update) (row : SmsMessage) :
    (update.run row).requestData = row.requestData := by
  unfold run
  split
  · cases update <;> rfl
  · rfl

def Op.carries : Op → Bool
  | createQueuedMessage _ _ => true
  | sendSms _ _ => true
  | _ => false

inductive DataStage
  | requesting (idempotencyKey : String) (dto : SendSmsDto)
  | dispatching (id : MessageId)
  | loaded (row : SmsMessage)
  | other

namespace DataStage

def Allowed (config : Config) (stage : DataStage) : Op → Prop
  | .createQueuedMessage key dto => stage = .requesting key dto ∧
      Js.utf16Length dto.message ≤ config.maxMessageLength
  | .sendSms _ options => ∃ row, stage = .loaded row ∧ options = row.sendOptions
  | .findById id => ∀ target, stage = .dispatching target → id = target
  | _ => True

def next (stage : DataStage) : (op : Op) → Except Failure op.Reply → DataStage
  | .findById _, .ok (some row) =>
      match stage with
      | .dispatching _ => .loaded row
      | stage => stage
  | _, _ => stage

abbrev protocol (config : Config) : Protocol Op Op.Reply Failure where
  Stage := DataStage
  allowed := Allowed config
  replies := Stage.Replies
  next := next

def start : Call → DataStage
  | .send key dto => .requesting key dto
  | .dispatch id => .dispatching id
  | _ => .other

def Serves (call : Call) : DataStage → Prop
  | requesting key dto => call = .send key dto
  | dispatching id => call = .dispatch id
  | loaded row => call = .dispatch row.id
  | other => True

theorem serves_start (call : Call) : (start call).Serves call := by
  cases call <;> trivial

theorem next_other (stage : DataStage) {op : Op} {reply : Except Failure op.Reply}
    (other : ∀ id, stage ≠ .dispatching id) : stage.next op reply = stage := by
  cases op with
  | findById id =>
      rcases reply with error | _ | row
      · rfl
      · rfl
      · cases stage with
        | dispatching target => exact absurd rfl (other target)
        | _ => rfl
  | _ => rfl

inductive Transition (config : Config) :
    DataStage → (op : Op) → Except Failure op.Reply → DataStage → Prop
  | loads {id row} : row.id = id →
      Transition config (.dispatching id) (.findById id) (.ok (some row)) (.loaded row)
  | creates {key dto reply} : Js.utf16Length dto.message ≤ config.maxMessageLength →
      Transition config (.requesting key dto) (.createQueuedMessage key dto) reply
        (.requesting key dto)
  | sends {row provider reply} :
      Transition config (.loaded row) (.sendSms provider row.sendOptions) reply (.loaded row)
  | other {stage op reply} : op.carries = false → Transition config stage op reply stage

theorem transition {config : Config} {stage : DataStage} {op : Op} {reply : Except Failure op.Reply}
    (allowed : stage.Allowed config op) (possible : Stage.Replies op reply) :
    Transition config stage op reply (stage.next op reply) := by
  cases op with
  | findById id =>
      rcases reply with error | _ | row
      · exact .other rfl
      · exact .other rfl
      · cases stage with
        | dispatching target =>
            obtain rfl := allowed target rfl
            exact .loads possible
        | _ => exact .other rfl
  | createQueuedMessage key dto =>
      obtain ⟨rfl, short⟩ := allowed
      cases reply <;> exact .creates short
  | sendSms provider options =>
      obtain ⟨row, rfl, rfl⟩ := allowed
      cases reply <;> exact .sends
  | _ => exact .other rfl

theorem Transition.serves {config : Config} {call : Call} {stage stage' : DataStage} {op : Op}
    {reply : Except Failure op.Reply} (transition : Transition config stage op reply stage')
    (serves : stage.Serves call) : stage'.Serves call := by
  cases transition with
  | loads found =>
      rw [Serves, found]
      exact serves
  | _ => exact serves

end DataStage

def Op.strays (row : SmsMessage) : Op → Bool
  | createQueuedMessage _ _ => true
  | sendSms _ options => options ≠ row.sendOptions
  | _ => false

section Dispatch

variable {config : Config} {message : SmsMessage}

open SmsDispatcherService

theorem beyondAttempt_of_strays (op : Op) (strays : op.strays message = true) :
    op.beyondAttempt message = true := by
  cases op <;> simp_all [Op.strays, Op.beyondAttempt]

theorem call_strays {op : Op} (other : op.strays message = false) :
    (call op).AtMost (Op.strays message) 0 :=
  Program.atMost_perform (by simp [other])

theorem dispatchProviders_strays (providers : List String) (lastProvider lastError : String) :
    (dispatchProviders config message providers lastProvider lastError).AtMost
      (Op.strays message) 0 := by
  induction providers generalizing lastProvider lastError with
  | nil =>
      have marks : (SmsService.markFatalFailure message.id lastProvider lastError).AtMost
          (Op.strays message) 0 :=
        (call_strays rfl).idle_bind fun _ =>
          (call_strays rfl).idle_bind fun _ => Program.atMost_pure _
      exact marks.idle_bind fun _ => call_strays rfl
  | cons provider rest ih =>
      refine ((attemptProvider_attempt provider _ _ _).part beyondAttempt_of_strays).idle_bind
        fun outcome => ?_
      cases outcome with
      | sent => exact Program.atMost_pure _
      | exhausted lastError => exact ih provider lastError

theorem loaded_follows {α : Type} {program : Action α}
    (stays : program.AtMost (Op.strays message) 0) :
    program.Follows (DataStage.protocol config) (fun _ _ => True) (.loaded message) := by
  refine (stays.follows (DataStage.protocol config) (fun stage => stage = .loaded message) rfl
    ?_ ?_).mono fun _ _ _ => trivial
  · rintro _ op rfl own
    cases op with
    | createQueuedMessage => simp [Op.strays] at own
    | sendSms provider options => exact ⟨message, rfl, by simpa [Op.strays] using own⟩
    | findById id =>
        intro target impossible
        cases impossible
    | _ => trivial
  · rintro _ op reply rfl _
    exact DataStage.next_other (.loaded message) (by simp)

theorem dispatch_data (id : MessageId) :
    (dispatch config id).Follows (DataStage.protocol config) (fun _ _ => True)
      (.dispatching id) := by
  simp only [dispatch, SmsService.findById, Program.follows_bind]
  refine ⟨?_, ?_⟩
  · rintro target same
    cases same
    rfl
  · rintro (error | _ | message) _
    · trivial
    · trivial
    · refine loaded_follows ?_
      dsimp only
      split
      · exact Program.atMost_pure _
      · refine (call_strays rfl).idle_bind fun claimed => ?_
        split
        · exact (call_strays rfl).idle_bind fun _ => Program.atMost_pure _
        · exact dispatchProviders_strays _ _ _

end Dispatch

def Op.replaces (idempotencyKey : String) (dto : SendSmsDto) : Op → Bool
  | createQueuedMessage key data => (key, data) ≠ (idempotencyKey, dto)
  | sendSms _ _ => true
  | _ => false

section Request

variable {config : Config} {key : String} {dto : SendSmsDto}

open SmsService

theorem call_replaces {op : Op} (other : op.replaces key dto = false) :
    (call op).AtMost (Op.replaces key dto) 0 :=
  Program.atMost_perform (by simp [other])

theorem beyondLookup_of_replaces (op : Op) (replaces : op.replaces key dto = true) :
    op.beyondLookup = true := by
  cases op <;> simp_all [Op.replaces, Op.beyondLookup]

theorem beyondPublication_of_replaces {row : SmsMessage} (op : Op)
    (replaces : op.replaces key dto = true) : op.beyondPublication row = true := by
  cases op <;> simp_all [Op.replaces, Op.beyondPublication]

theorem createUnderLock_replaces :
    (createUnderLock config key dto).AtMost (Op.replaces key dto) 0 := by
  refine (call_replaces rfl).idle_bind fun row => ?_
  cases row with
  | some message => exact (call_replaces rfl).idle_bind fun _ => Program.atMost_pure _
  | none =>
      refine (call_replaces (by simp [Op.replaces])).idle_bind fun message => ?_
      refine (publishQueuedMessage_publication.part beyondPublication_of_replaces).idle_bind fun _ => ?_
      exact (call_replaces rfl).idle_bind fun _ => Program.atMost_pure _

theorem sendSmsRequest_replaces :
    (sendSmsRequest config key dto).AtMost (Op.replaces key dto) 0 := by
  have valid : (validateMessageLength config dto.message).AtMost (Op.replaces key dto) 0 := by
    unfold validateMessageLength
    split
    · exact Program.atMost_throw _
    · exact Program.atMost_pure _
  refine valid.idle_bind fun _ => ?_
  refine (findFromIdempotencyCache_lookup.part beyondLookup_of_replaces).idle_bind fun row => ?_
  cases row with
  | some message => exact Program.atMost_pure _
  | none =>
      refine (call_replaces rfl).idle_bind fun row => ?_
      cases row with
      | some message => exact (call_replaces rfl).idle_bind fun _ => Program.atMost_pure _
      | none =>
          refine (call_replaces rfl).idle_bind fun lock => ?_
          cases lock with
          | none =>
              refine ((waitForMessageCreatedByConcurrentRequest_lookup 20).part
                beyondLookup_of_replaces).idle_bind fun row => ?_
              cases row with
              | none => exact Program.atMost_throw _
              | some message => exact Program.atMost_pure _
          | some lock =>
              have recovers : ∀ error,
                  (recoverUnderLock key error).AtMost (Op.replaces key dto) 0 :=
                fun error => (recoverUnderLock_lookup error).part beyondLookup_of_replaces
              have releases : (releaseLock lock).AtMost (Op.replaces key dto) 0 :=
                (call_replaces rfl).tryCatch_idle fun _ => Program.atMost_pure _
              exact (createUnderLock_replaces.tryCatch_idle recovers).finallyDo_idle releases

theorem sendSmsRequest_data :
    (sendSmsRequest config key dto).Follows (DataStage.protocol config) (fun _ _ => True)
      (.requesting key dto) := by
  by_cases short : Js.utf16Length dto.message ≤ config.maxMessageLength
  · refine (sendSmsRequest_replaces.follows (DataStage.protocol config)
      (fun stage => stage = .requesting key dto) rfl ?_ ?_).mono fun _ _ _ => trivial
    · rintro _ op rfl own
      cases op with
      | createQueuedMessage other data =>
          have same : (other, data) = (key, dto) := by simpa [Op.replaces] using own
          cases same
          exact ⟨rfl, short⟩
      | sendSms => simp [Op.replaces] at own
      | findById id =>
          intro target impossible
          cases impossible
      | _ => trivial
    · rintro _ op reply rfl _
      exact DataStage.next_other (.requesting key dto) (by simp)
  · simp only [sendSmsRequest, validateMessageLength]
    rw [if_pos (by omega)]
    trivial

end Request

theorem program_data {config : Config} (request : Call) :
    (request.program config).Follows (DataStage.protocol config) (fun _ _ => True)
      (DataStage.start request) := by
  cases request with
  | send key dto =>
      simp only [Call.program, Program.follows_bind]
      refine sendSmsRequest_data.mono ?_
      rintro stage (error | response) _ <;> trivial
  | dispatch id =>
      simp only [Call.program, Program.follows_bind]
      refine (dispatch_data id).mono ?_
      rintro stage (error | response) _ <;> trivial
  | _ =>
      refine Call.follows_of_stages _ (fun _ stage => stage = .other) rfl
        (fun _ _ possible => possible) ?_ ?_ ?_
      · rintro stage _ op serves rfl allowed
        cases op with
        | createQueuedMessage key dto =>
            cases allowed
            simp [Stage.Serves] at serves
        | sendSms provider options =>
            cases allowed
            simp [Stage.Serves] at serves
        | findById id =>
            intro target impossible
            cases impossible
        | _ => trivial
      · rintro stage _ op reply following _ rfl _ _ _
        cases op with
        | findById id => rcases reply with _ | _ | row <;> rfl
        | _ => rfl
      · exact fun _ _ _ _ _ _ => trivial

namespace World

variable {world : World} {choice : Choice}

theorem exec_requestData {op : Op} {outcome : World.Outcome op}
    (executed : world.exec op choice = some outcome) (id : MessageId) :
    (outcome.world.messages.findById id).map SmsMessage.requestData =
        (world.messages.findById id).map SmsMessage.requestData ∨
      ∃ key dto createdAt, op = .createQueuedMessage key dto ∧
        world.messages.findById id = none ∧
        outcome.world.messages.findById id = some (queuedMessage id createdAt key dto) := by
  rcases exec_messages executed with
    same | ⟨statement, _, same⟩ | ⟨key, dto, newId, createdAt, absent, newKey, creates, same⟩
  · left
    rw [same]
  · left
    rw [same, Table.findById_update, Option.map_map]
    exact congrArg (fun f => Option.map f _) (funext (Update.run_requestData statement))
  · rw [same, Table.findById_insert]
    by_cases own : id = newId
    · subst own
      right
      exact ⟨key, dto, createdAt, creates, Table.findById_eq_none.mpr absent, if_pos rfl⟩
    · left
      exact congrArg (Option.map SmsMessage.requestData) (if_neg own)

theorem exec_keeps_requestData {op : Op} {outcome : World.Outcome op}
    (executed : world.exec op choice = some outcome) (id : MessageId) (data : RequestData)
    (present : (world.messages.findById id).map SmsMessage.requestData = some data) :
    (outcome.world.messages.findById id).map SmsMessage.requestData = some data := by
  rcases exec_requestData executed id with same | ⟨_, _, _, _, absent, _⟩
  · exact same.trans present
  · rw [absent] at present
    cases present

end World

namespace Service

variable {config : Config} {service following : Service}

def dataStage (service : Service) (pid : Nat) : Option DataStage :=
  service.processes[pid]?.map fun process =>
    -- the stages do not depend on the configuration, only what they allow does
    (service.entriesOf pid).foldl (fun stage entry => DataStage.next stage entry.op entry.reply)
      (DataStage.start process.tag)

def KeepsMessages (service : Service) (world : World) : Prop :=
  world.messages = service.world.messages

theorem step_keeps_requestData {event : Event}
    (stepped : service.step config event = some following) (id : MessageId) (data : RequestData)
    (present : (service.world.messages.findById id).map SmsMessage.requestData = some data) :
    (following.world.messages.findById id).map SmsMessage.requestData = some data := by
  have moved : Pool.Steps (system config (fun _ _ _ => True) KeepsMessages) service following :=
    steps stepped (fun _ _ _ => trivial) fun _ disturbed => disturbed.messages
  cases moved with
  | @spawn _ world keeps =>
      have same : world.messages = service.world.messages := keeps
      rw [← same] at present
      exact present
  | @change world keeps =>
      have same : world.messages = service.world.messages := keeps
      rw [← same] at present
      exact present
  | resume _ resumed =>
      obtain ⟨_, _, _, _, _, executed, rfl⟩ := Pool.resume_cases resumed
      exact World.exec_keeps_requestData executed id data present

def dataDiscipline (config : Config) :
    Discipline (system config (fun _ _ _ => True) KeepsMessages) where
  protocol := DataStage.protocol config
  start := DataStage.start
  settles _ _ _ := True
  conforms := program_data
  replies _ _ _ _ executed := World.exec_replies executed

/-- Every row comes from a request, and what dispatches have of it is what it still has. -/
structure CarriesRequests (config : Config) (service : Service) : Prop where
  requested : ∀ id row, service.world.messages.findById id = some row →
    ∃ sender key dto, service.tagOf sender = some (.send key dto) ∧
      row.requestData.Requested config key dto
  serves : ∀ pid stage, dataStage service pid = some stage →
    ∃ call, service.tagOf pid = some call ∧ stage.Serves call
  loaded : ∀ pid row, dataStage service pid = some (.loaded row) →
    (service.world.messages.findById row.id).map SmsMessage.requestData = some row.requestData
  sent : ∀ entry ∈ service.history, ∀ provider options, entry.op = .sendSms provider options →
    service.tagOf entry.pid = some (.dispatch options.referenceId) ∧
      ∃ row, service.world.messages.findById options.referenceId = some row ∧
        options = row.sendOptions

theorem sent_kept {before after : Table} {options : SendSmsOptions}
    (kept : ∀ id data, (before.findById id).map SmsMessage.requestData = some data →
      (after.findById id).map SmsMessage.requestData = some data)
    (sent : ∃ row, before.findById options.referenceId = some row ∧ options = row.sendOptions) :
    ∃ row, after.findById options.referenceId = some row ∧ options = row.sendOptions := by
  obtain ⟨row, found, same⟩ := sent
  obtain ⟨row', found', data⟩ := Option.map_eq_some_iff.mp
    (kept _ row.requestData (by rw [found]; rfl))
  refine ⟨row', found', same.trans (SmsMessage.sendOptions_congr data.symm ?_)⟩
  rw [Table.findById_id found, Table.findById_id found']

theorem CarriesRequests.quiet (carries : CarriesRequests config service)
    (messages : following.world.messages = service.world.messages)
    (history : following.history = service.history)
    (stages : ∀ pid, dataStage following pid = dataStage service pid ∧
        following.tagOf pid = service.tagOf pid ∨
      dataStage service pid = none ∧ ∃ call, following.tagOf pid = some call ∧
        dataStage following pid = some (DataStage.start call)) :
    CarriesRequests config following := by
  have tags : ∀ pid call, service.tagOf pid = some call → following.tagOf pid = some call := by
    intro pid call tagged
    rcases stages pid with ⟨_, same⟩ | ⟨absent, _⟩
    · rw [same, tagged]
    · simp only [dataStage, Option.map_eq_none_iff] at absent
      simp [Pool.tagOf, absent] at tagged
  refine ⟨?_, ?_, ?_, ?_⟩
  · intro id row found
    rw [messages] at found
    obtain ⟨sender, key, dto, tagged, requested⟩ := carries.requested id row found
    exact ⟨sender, key, dto, tags sender _ tagged, requested⟩
  · intro pid stage staged
    rcases stages pid with ⟨same, _⟩ | ⟨_, call, tagged, started⟩
    · obtain ⟨call, tagged, serves⟩ := carries.serves pid stage (same ▸ staged)
      exact ⟨call, tags pid call tagged, serves⟩
    · rw [started, Option.some.injEq] at staged
      exact ⟨call, tagged, staged ▸ DataStage.serves_start call⟩
  · intro pid row staged
    rw [messages]
    rcases stages pid with ⟨same, _⟩ | ⟨_, call, _, started⟩
    · exact carries.loaded pid row (same ▸ staged)
    · rw [started] at staged
      cases call <;> simp [DataStage.start] at staged
  · intro entry member provider options sends
    rw [history] at member
    obtain ⟨tagged, sent⟩ := carries.sent entry member provider options sends
    rw [messages]
    exact ⟨tags _ _ tagged, sent⟩

theorem CarriesRequests.operation {pid : Nat} {choice : Choice} {stage stage' : DataStage} {op : Op}
    {reply : Except Failure op.Reply} {left : World} {effective : Bool}
    (carries : CarriesRequests config service) (staged : dataStage service pid = some stage)
    (transition : stage.Transition config op reply stage')
    (executed : service.world.exec op choice = some ⟨reply, left, effective⟩)
    (world : following.world = left)
    (history : following.history = service.history ++ [⟨pid, op, reply, effective⟩])
    (stages : ∀ other, dataStage following other =
      if other = pid then some stage' else dataStage service other)
    (tags : ∀ other, following.tagOf other = service.tagOf other) :
    CarriesRequests config following := by
  obtain ⟨call, tagged, serves⟩ := carries.serves pid stage staged
  have kept : ∀ id data,
      (service.world.messages.findById id).map SmsMessage.requestData = some data →
      (left.messages.findById id).map SmsMessage.requestData = some data :=
    World.exec_keeps_requestData executed
  refine ⟨?_, ?_, ?_, ?_⟩
  · intro id row found
    rw [world] at found
    rcases World.exec_requestData executed id with same | ⟨key, dto, createdAt, rfl, _, inserted⟩
    · rw [found] at same
      obtain ⟨before, present, data⟩ := Option.map_eq_some_iff.mp same.symm
      obtain ⟨sender, key, dto, sends, requested⟩ := carries.requested id before present
      exact ⟨sender, key, dto, (tags sender).trans sends, data ▸ requested⟩
    · obtain rfl := Option.some.inj (inserted.symm.trans found)
      cases transition with
      | creates short =>
          exact ⟨pid, key, dto, (tags pid).trans (serves ▸ tagged), rfl, rfl, rfl, rfl, short⟩
      | other unrelated => simp [Op.carries] at unrelated
  · intro other final staged'
    rw [tags]
    rw [stages] at staged'
    by_cases same : other = pid
    · subst same
      rw [if_pos rfl, Option.some.injEq] at staged'
      exact ⟨call, tagged, staged' ▸ transition.serves serves⟩
    · rw [if_neg same] at staged'
      exact carries.serves other final staged'
  · intro other row staged'
    rw [world]
    rw [stages] at staged'
    by_cases same : other = pid
    · subst same
      rw [if_pos rfl, Option.some.injEq] at staged'
      subst staged'
      cases transition with
      | loads =>
          have found := World.exec_findById executed rfl
          rw [← Table.findById_id found] at found
          exact kept _ _ (by rw [found]; rfl)
      | sends => exact kept _ _ (carries.loaded other row staged)
      | other => exact kept _ _ (carries.loaded other row staged)
    · rw [if_neg same] at staged'
      exact kept _ _ (carries.loaded other row staged')
  · intro entry member provider options sends
    rw [tags, world]
    rw [history] at member
    rcases List.mem_append.mp member with earlier | new
    · obtain ⟨dispatches, sent⟩ := carries.sent entry earlier provider options sends
      exact ⟨dispatches, sent_kept kept sent⟩
    · obtain rfl := List.mem_singleton.mp new
      cases transition with
      | sends =>
          cases sends
          obtain ⟨current, found, data⟩ :=
            Option.map_eq_some_iff.mp (kept _ _ (carries.loaded pid _ staged))
          refine ⟨serves ▸ tagged, current, found, ?_⟩
          exact SmsMessage.sendOptions_congr data.symm (Table.findById_id found).symm
      | other unrelated =>
          cases sends
          simp [Op.carries] at unrelated
      | _ => cases sends

theorem carriesRequests_reached {permitted : Service → Event → Prop}
    (reaches : Reaches (step config) permitted initial service) :
    (dataDiscipline config).Obeyed service ∧ CarriesRequests config service := by
  refine Discipline.invariant _ id (CarriesRequests config) reaches (initial_obeyed _) ?_ ?_ ?_
  · exact ⟨by simp [initial, World.initial, Table.empty, Table.findById],
      by simp [dataStage, initial], by simp [dataStage, initial], by simp [initial]⟩
  · intro service event following _ stepped
    exact steps stepped (fun _ _ _ => trivial) fun _ disturbed => disturbed.messages
  · intro service following _ _ carries effect
    cases effect with
    | quiet keeps history stages => exact carries.quiet keeps history stages
    | operation _ staged _ allowed possible executed world history stages tags =>
        exact carries.operation staged (DataStage.transition allowed possible) executed world
          history stages tags

/-- Every message in the table is what some client asked for, and every call of a provider is made
by a dispatch of a message, for that row's recipient, body and id, which a client asked for. -/
theorem sends_carry_request {permitted : Service → Event → Prop}
    (reaches : Reaches (step config) permitted initial service) :
    (∀ id row, service.world.messages.findById id = some row →
      ∃ sender key dto, service.tagOf sender = some (.send key dto) ∧
        row.requestData.Requested config key dto) ∧
    ∀ entry ∈ service.history, ∀ provider options, entry.op = .sendSms provider options →
      service.tagOf entry.pid = some (.dispatch options.referenceId) ∧
      ∃ row, service.world.messages.findById options.referenceId = some row ∧
        options = row.sendOptions ∧
        ∃ sender key dto, service.tagOf sender = some (.send key dto) ∧
          row.requestData.Requested config key dto := by
  obtain ⟨_, carries⟩ := carriesRequests_reached reaches
  refine ⟨carries.requested, ?_⟩
  intro entry member provider options sends
  obtain ⟨dispatches, row, found, same⟩ := carries.sent entry member provider options sends
  exact ⟨dispatches, row, found, same, carries.requested _ row found⟩

/-- A request is accepted and its job executed up to the call of the provider. -/
theorem accepted_request_sent : ∃ (service : Service) (options : SendSmsOptions)
    (dto : SendSmsDto) (row : SmsMessage),
    service.world.messages.findById options.referenceId = some row ∧
      options = row.sendOptions ∧ options.to = dto.to ∧ options.body = dto.message := by
  let options : SendSmsOptions := { «to» := "+15550100", body := "hello", referenceId := 0 }
  obtain ⟨service, reaches, found⟩ := execute_exists
    (step (.defaults ["twilio"])) (fun _ _ => True) initial
    ([Event.sends "key"] ++ Event.answers 0 6 ++ [.execute 0] ++ Event.answers 1 5)
    (fun service => service.history.any fun entry => entry.op = .sendSms "twilio" options)
    (by decide)
  simp only [List.any_eq_true, decide_eq_true_eq] at found
  obtain ⟨entry, member, sends⟩ := found
  obtain ⟨_, row, present, same, sender, key, dto, _, requested⟩ :=
    (sends_carry_request reaches).2 entry member "twilio" options sends
  refine ⟨service, options, dto, row, present, same, ?_, ?_⟩
  · rw [same]
    exact requested.phone
  · rw [same]
    exact requested.body

end Service

end SmsNotification
