import Mathlib.Algebra.Order.BigOperators.Group.Finset
import SmsNotification.Concurrency.Delegation
import SmsNotification.DispatchPolicy
import SmsNotification.ExternalIds
import SmsNotification.ProviderCalls
import SmsNotification.RequestData
import SmsNotification.Strategies

/-!
The service with its providers. A process that calls a provider is answered when its own call of the
strategy has settled, and the strategies of all processes call the vendors side by side.
-/

namespace SmsNotification

open Concurrency

structure SdkWorld where
  clients : String → Bool

/-- A client or its factory answers, with the id of the message where one was taken, or throws. -/
inductive SdkChoice
  | answered (id : String)
  | thrown (error : Js.Thrown)

def SdkWorld.exec (world : SdkWorld) : (op : SdkOp) → SdkChoice →
    Option (Completion op.Reply Js.Thrown SdkWorld)
  | .hasClient providerName, .answered _ => some ⟨.ok (world.clients providerName), world, false⟩
  | .clientFactory _, .answered _ => some ⟨.ok (), world, false⟩
  | .clientFactory _, .thrown error => some ⟨.error error, world, false⟩
  | .keepClient providerName, .answered _ =>
      some ⟨.ok (), { clients := Function.update world.clients providerName true }, true⟩
  | .messagesCreate _, .answered id => some ⟨.ok id, world, true⟩
  | .messagesCreate _, .thrown error => some ⟨.error error, world, false⟩
  | .smsSend _ _, .answered id => some ⟨.ok id, world, true⟩
  | .smsSend _ _, .thrown error => some ⟨.error error, world, false⟩
  | _, _ => none

abbrev Strategies := Pool SdkOp SdkOp.Reply Js.Thrown ProviderCall SendSmsResult SdkWorld

/-- `error.message` when the value is an `Error`. -/
def thrownMessage : Js.Thrown → Option String
  | .error _ message _ => some message
  | _ => none

def ProviderCall.choice : Except Js.Thrown SendSmsResult → Choice
  | .ok result => .answered { sms := result }
  | .error error => .rejected (thrownMessage error)

def ProviderCall.reply : Except Js.Thrown SendSmsResult → Except Failure SendSmsResult :=
  Except.mapError fun error => .rejection (thrownMessage error)

theorem World.exec_sendSms {world : World} {provider : String} {options : SendSmsOptions}
    {result : Except Js.Thrown SendSmsResult} {outcome : World.Outcome (.sendSms provider options)}
    (executed : world.exec (.sendSms provider options) (ProviderCall.choice result) =
      some outcome) :
    outcome.reply = ProviderCall.reply result ∧ outcome.world = world := by
  cases result with
  | error error =>
      simp only [World.exec, ProviderCall.choice, Op.fallible, if_true, Option.some.injEq]
        at executed
      subst executed
      exact ⟨rfl, rfl⟩
  | ok result =>
      simp only [World.exec, ProviderCall.choice, World.perform, Option.some.injEq] at executed
      subst executed
      exact ⟨rfl, rfl⟩

structure ProvidedService where
  service : Service
  strategies : Strategies
  /-- The process behind each call of a strategy. -/
  callers : List Nat
  /-- The calls whose outcome has reached their process. -/
  received : List Nat

namespace ProvidedService

def initial : ProvidedService where
  service := .initial
  strategies := { world := { clients := fun _ => false }, processes := [], history := [] }
  callers := []
  received := []

/-- A process that awaits its provider calls the strategy, strategies and vendors exchange, and the
process learns how its call settled. Everything else of the service goes on as before. -/
inductive Event
  | inner (event : Service.Event)
  | sendSms (pid : Nat)
  | exchange (index : Nat) (choice : SdkChoice)
  | receive (index : Nat)

def answersSend (service : Service) : Service.Event → Bool
  | .resume pid _ => (service.awaits pid).any Op.isSendSms
  | _ => false

def step (settings : ProviderSettings) (config : Config) (provided : ProvidedService) :
    Event → Option ProvidedService
  | .inner event => do
      if answersSend provided.service event then none
      else
        let service ← provided.service.step config event
        some { provided with service := service }
  | .sendSms pid =>
      match provided.service.awaits pid with
      | some (.sendSms providerName options) =>
          if isCalling provided.callers provided.received pid then none
          else do
            -- the names of the registry are those of the enumeration
            let provider ← SmsProviderName.ofValue providerName
            let call : ProviderCall := ⟨provider, options⟩
            some { provided with
              strategies := provided.strategies.spawn call (call.strategy settings)
              callers := provided.callers ++ [pid] }
      | _ => none
  | .exchange index choice => do
      let strategies ← provided.strategies.resume SdkWorld.exec index choice
      some { provided with strategies := strategies }
  | .receive index => do
      let pid ← provided.callers[index]?
      let process ← provided.strategies.processes[index]?
      let result ← process.program.result
      if provided.received.contains index then none
      else
        let service ← provided.service.step config (.resume pid (ProviderCall.choice result))
        some { provided with service := service, received := index :: provided.received }

inductive Moves (settings : ProviderSettings) (config : Config) (provided : ProvidedService) :
    ProvidedService → Prop
  | inner {event : Service.Event} {service : Service} :
      answersSend provided.service event = false →
      provided.service.step config event = some service →
      Moves settings config provided { provided with service := service }
  | sendSms {pid : Nat} {call : ProviderCall} :
      provided.service.awaits pid = some (.sendSms call.provider.value call.options) →
      isCalling provided.callers provided.received pid = false →
      Moves settings config provided { provided with
        strategies := provided.strategies.spawn call (call.strategy settings)
        callers := provided.callers ++ [pid] }
  | exchange {index : Nat} {choice : SdkChoice} {strategies : Strategies} :
      provided.strategies.resume SdkWorld.exec index choice = some strategies →
      Moves settings config provided { provided with strategies := strategies }
  | receive {index pid : Nat} {call : ProviderCall} {result : Except Js.Thrown SendSmsResult}
      {service : Service} : provided.callers[index]? = some pid →
      provided.strategies.processes[index]? = some ⟨call, .settled result⟩ →
      index ∉ provided.received →
      provided.service.step config (.resume pid (ProviderCall.choice result)) = some service →
      Moves settings config provided
        { provided with service := service, received := index :: provided.received }

variable {settings : ProviderSettings} {config : Config} {provided following : ProvidedService}

theorem step_moves {event : Event} (stepped : provided.step settings config event = some following) :
    Moves settings config provided following := by
  cases event with
  | inner event =>
      simp only [step] at stepped
      split at stepped
      · cases stepped
      · rename_i other
        obtain ⟨service, moved, same⟩ := Option.bind_eq_some_iff.mp stepped
        cases same
        exact .inner (by simpa using other) moved
  | sendSms pid =>
      simp only [step] at stepped
      split at stepped
      · rename_i providerName options awaits
        split at stepped
        · cases stepped
        · rename_i free
          obtain ⟨provider, known, same⟩ := Option.bind_eq_some_iff.mp stepped
          cases same
          have named := SmsProviderName.ofValue_eq_some known
          subst named
          exact .sendSms awaits (by simpa using free)
      · cases stepped
  | exchange index choice =>
      obtain ⟨strategies, resumed, same⟩ := Option.bind_eq_some_iff.mp stepped
      cases same
      exact .exchange resumed
  | receive index =>
      obtain ⟨pid, called, stepped⟩ := Option.bind_eq_some_iff.mp stepped
      obtain ⟨⟨call, program⟩, found, stepped⟩ := Option.bind_eq_some_iff.mp stepped
      obtain ⟨result, settled, stepped⟩ := Option.bind_eq_some_iff.mp stepped
      split at stepped
      · cases stepped
      · rename_i fresh
        obtain ⟨service, moved, same⟩ := Option.bind_eq_some_iff.mp stepped
        cases same
        cases program with
        | await => cases settled
        | settled own =>
            cases settled
            exact .receive called found (by simpa using fresh) moved

theorem refines_service
    (reaches : Reaches (step settings config) (fun _ _ => True) initial provided) :
    Reaches (Service.step config) (fun _ _ => True) Service.initial provided.service := by
  have simulated : ∃ service, Reaches (Service.step config) (fun _ _ => True) Service.initial
      service ∧ provided.service = service := by
    apply reaches.simulate (fun provided service => provided.service = service) rfl
    rintro provided event following _ rfl _ stepped
    refine ⟨following.service, ?_, rfl⟩
    cases step_moves stepped with
    | inner _ moved => exact .step .refl trivial moved
    | sendSms => exact .refl
    | exchange => exact .refl
    | receive _ _ _ moved => exact .step .refl trivial moved
  obtain ⟨service, run, rfl⟩ := simulated
  exact run

def strategySystem (settings : ProviderSettings) :
    System SdkOp SdkOp.Reply Js.Thrown ProviderCall SendSmsResult SdkWorld SdkChoice where
  exec := SdkWorld.exec
  program := ProviderCall.strategy settings
  admits _ _ _ := True
  changes strategies world := world = strategies.world

def strategyDiscipline (settings : ProviderSettings) : Discipline (strategySystem settings) where
  protocol := ProviderStage.protocol settings
  start := .calling
  settles := ProviderStage.Settles
  conforms := strategy_settles
  replies _ _ _ _ _ := trivial

theorem strategies_obeyed
    (reaches : Reaches (step settings config) (fun _ _ => True) initial provided) :
    (strategyDiscipline settings).Obeyed provided.strategies := by
  have initially : (strategyDiscipline settings).Obeyed initial.strategies := by
    constructor
    · intro pid process found
      simp [initial] at found
    · intro pid tag tagged
      simp [Pool.tagOf, initial] at tagged
    · intro entry member
      simp [initial] at member
  apply (Discipline.invariant (strategyDiscipline settings) ProvidedService.strategies
    (fun _ => True) reaches initially trivial _ fun _ _ _ _ _ _ => trivial).1
  intro provided event following _ stepped
  have same : (strategySystem settings).changes provided.strategies provided.strategies.world := rfl
  cases step_moves stepped with
  | inner => exact Pool.Steps.change same
  | sendSms => exact Pool.Steps.spawn same
  | exchange resumed => exact Pool.Steps.resume trivial resumed
  | receive => exact Pool.Steps.change same

def asks (provided : ProvidedService) (index : Nat) : Option Op :=
  (provided.strategies.tagOf index).map fun call => .sendSms call.provider.value call.options

def Loaded (service : Service) (call : ProviderCall) : Prop :=
  ∃ row, service.world.messages.findById call.options.referenceId = some row ∧
    call.options = row.sendOptions

def Delivered (strategies : Strategies) (entry : Entry Op Op.Reply Failure) : Prop :=
  ∀ providerName options reply, entry.exchange = ⟨.sendSms providerName options, reply⟩ →
    ∃ (index : Nat) (call : ProviderCall) (result : Except Js.Thrown SendSmsResult),
      strategies.processes[index]? = some ⟨call, .settled result⟩ ∧
      call.provider.value = providerName ∧ call.options = options ∧
      reply = ProviderCall.reply result

structure Provided (provided : ProvidedService) : Prop where
  callers : provided.callers.length = provided.strategies.processes.length
  linked : Linked provided.service.awaits provided.asks provided.callers provided.received
  loaded : ∀ index call, provided.strategies.tagOf index = some call →
    Loaded provided.service call
  delivered : ∀ entry ∈ provided.service.history, Delivered provided.strategies entry
  received : ∀ index ∈ provided.received, index < provided.callers.length
  counted : ∀ counts : Op → Bool,
    provided.received.countP (fun index => (provided.asks index).any counts) ≤
      provided.service.history.countP fun entry => counts entry.op

theorem Loaded.later {service following : Service} {call : ProviderCall}
    (kept : ∀ id data,
      (service.world.messages.findById id).map SmsMessage.requestData = some data →
      (following.world.messages.findById id).map SmsMessage.requestData = some data)
    (loaded : Loaded service call) : Loaded following call :=
  Service.sent_kept kept loaded

theorem loaded_awaits {service : Service} {pid : Nat} {call : ProviderCall}
    (reaches : Reaches (Service.step config) (fun _ _ => True) Service.initial service)
    (awaits : service.awaits pid = some (.sendSms call.provider.value call.options)) :
    Loaded service call := by
  obtain ⟨obeyed, carries⟩ := Service.carriesRequests_reached reaches
  obtain ⟨stage, staged, row, rfl, asked⟩ := obeyed.awaits awaits
  obtain ⟨current, found, data⟩ := Option.map_eq_some_iff.mp (carries.loaded pid row staged)
  have same : row.sendOptions = current.sendOptions :=
    SmsMessage.sendOptions_congr data.symm (Table.findById_id found).symm
  refine ⟨current, ?_, asked.trans same⟩
  rw [asked]
  exact found

theorem Delivered.later {strategies strategies' : Strategies}
    {entry : Entry Op Op.Reply Failure}
    (kept : ∀ (index : Nat) (call : ProviderCall) (result : Except Js.Thrown SendSmsResult),
      strategies.processes[index]? = some ⟨call, .settled result⟩ →
      strategies'.processes[index]? = some ⟨call, .settled result⟩)
    (delivered : Delivered strategies entry) : Delivered strategies' entry := by
  intro providerName options reply exchanged
  obtain ⟨index, call, result, settled, same⟩ := delivered providerName options reply exchanged
  exact ⟨index, call, result, kept index call result settled, same⟩

theorem initial_provided : Provided initial where
  callers := rfl
  linked := .nil
  loaded := by
    intro index call tagged
    simp [Pool.tagOf, initial] at tagged
  delivered := by
    intro entry member
    simp [initial, Service.initial] at member
  received := by simp [initial]
  counted := by simp [initial]

theorem Provided.moves (provides : Provided provided)
    (reaches : Reaches (Service.step config) (fun _ _ => True) Service.initial provided.service)
    (moves : Moves settings config provided following) : Provided following := by
  cases moves with
  | @inner event service other stepped =>
      have moved : Pool.Steps (Service.system config
          (fun service pid _ => (service.awaits pid).any Op.isSendSms = false) fun _ _ => True)
          provided.service service := by
        apply Service.steps stepped
        · rintro pid choice rfl
          exact other
        · exact fun _ _ => trivial
      obtain ⟨awaits, history⟩ := moved.undelegated fun pid choice admitted => admitted
      exact {
        callers := provides.callers
        linked := by
          apply provides.linked.mono fun _ _ asked => asked
          intro index pid op _ _ asked
          obtain ⟨call, _, rfl⟩ := Option.map_eq_some_iff.mp asked
          exact awaits pid _ rfl
        loaded := by
          intro index call tagged
          exact (provides.loaded index call tagged).later (Service.step_keeps_requestData stepped)
        delivered := by
          intro entry member
          rcases history with same | ⟨new, idle, added⟩
          · exact provides.delivered entry (same ▸ member)
          · simp only [added, List.mem_append, List.mem_singleton] at member
            rcases member with earlier | rfl
            · exact provides.delivered entry earlier
            · intro providerName options reply exchanged
              have op : entry.op = .sendSms providerName options := congrArg Exchange.op exchanged
              rw [op] at idle
              cases idle
        received := provides.received
        counted := by
          intro counts
          apply (provides.counted counts).trans
          rcases history with same | ⟨new, _, added⟩
          · simp only [same, le_refl]
          · simp only [added, List.countP_append]
            omega }
  | @sendSms pid call awaits free =>
      have tags : ∀ index tag, provided.strategies.tagOf index = some tag →
          (provided.strategies.spawn call (call.strategy settings)).tagOf index = some tag := by
        intro index tag tagged
        obtain ⟨process, found, rfl⟩ := Option.map_eq_some_iff.mp tagged
        have below := (List.getElem?_eq_some_iff.mp found).1
        simp [Pool.tagOf, Pool.spawn, List.getElem?_append_left below, found]
      exact {
        callers := by simp [Pool.spawn, provides.callers]
        linked := by
          apply provides.linked.call free awaits
          · intro index op asked
            obtain ⟨tag, tagged, rfl⟩ := Option.map_eq_some_iff.mp asked
            simp only [asks, tags index tag tagged, Option.map_some]
          · simp [asks, Pool.tagOf, Pool.spawn, provides.callers]
        loaded := by
          intro index other tagged
          obtain ⟨process, found, rfl⟩ := Option.map_eq_some_iff.mp tagged
          rcases getElem?_concat_cases found with before | ⟨_, rfl⟩
          · exact provides.loaded index process.tag (by simp [Pool.tagOf, before])
          · exact loaded_awaits reaches awaits
        delivered := by
          intro entry member
          apply (provides.delivered entry member).later
          intro index other result settled
          have below := (List.getElem?_eq_some_iff.mp settled).1
          simp only [Pool.spawn, List.getElem?_append_left below]
          exact settled
        received := by
          intro index member
          have below := provides.received index member
          rw [List.length_append]
          omega
        counted := by
          intro counts
          apply le_trans _ (provides.counted counts)
          apply List.countP_mono_left
          intro index member asked
          have below : index < provided.strategies.processes.length :=
            provides.callers ▸ provides.received index member
          have same : (provided.strategies.spawn call (call.strategy settings)).tagOf index =
              provided.strategies.tagOf index := by
            simp [Pool.tagOf, Pool.spawn, List.getElem?_append_left below]
          simp only [asks, same] at asked
          exact asked }
  | exchange resumed =>
      obtain ⟨length, tags, settled⟩ := Pool.resume_keeps resumed
      exact {
        callers := provides.callers.trans length.symm
        linked := by
          apply provides.linked.mono
          · intro index op asked
            simp only [asks, tags]
            exact asked
          · exact fun _ _ _ _ _ _ awaits => awaits
        loaded := by
          intro index call tagged
          exact provides.loaded index call ((tags index).symm.trans tagged)
        delivered := by
          intro entry member
          exact (provides.delivered entry member).later settled
        received := provides.received
        counted := by
          simp only [asks, tags]
          exact provides.counted }
  | @receive index pid call result service called found fresh stepped =>
      obtain ⟨op, asked, waiting⟩ := provides.linked.waits index pid called fresh
      simp only [asks, Pool.tagOf, found, Option.map_some, Option.some.injEq] at asked
      subst asked
      obtain ⟨others, completion, executed, world, history⟩ := Pool.resume_awaits stepped waiting
      obtain ⟨replied, same⟩ := World.exec_sendSms executed
      exact {
        callers := provides.callers
        linked := provides.linked.receive called fresh others
        loaded := by
          intro other asked tagged
          exact (provides.loaded other asked tagged).later
            (Service.step_keeps_requestData stepped)
        delivered := by
          intro entry member
          rw [history] at member
          rcases List.mem_append.mp member with earlier | new
          · exact provides.delivered entry earlier
          · obtain rfl := List.mem_singleton.mp new
            intro providerName options reply exchanged
            cases exchanged
            exact ⟨index, call, result, found, rfl, rfl, replied⟩
        received := by
          intro other member
          rcases List.mem_cons.mp member with rfl | earlier
          · exact (List.getElem?_eq_some_iff.mp called).1
          · exact provides.received other earlier
        counted := by
          intro counts
          have before := provides.counted counts
          have own : provided.asks index =
              some (.sendSms call.provider.value call.options) := by
            simp [asks, Pool.tagOf, found]
          have same : ∀ other, asks { provided with
              service := service, received := index :: provided.received } other =
                provided.asks other := fun _ => rfl
          simp only [same, List.countP_cons, history, List.countP_append, List.countP_nil, own,
            Option.any_some]
          omega }

theorem provided_reached
    (reaches : Reaches (step settings config) (fun _ _ => True) initial provided) :
    Provided provided := by
  induction reaches with
  | refl => exact initial_provided
  | step earlier _ stepped ih => exact ih.moves (refines_service earlier) (step_moves stepped)

theorem call_records
    (reaches : Reaches (step settings config) (fun _ _ => True) initial provided) {index : Nat}
    {call : ProviderCall} (tagged : provided.strategies.tagOf index = some call) :
    ProviderStage.Records settings call (provided.strategies.entriesOf index)
      ((ProviderStage.protocol settings).reached (.calling call)
        (provided.strategies.entriesOf index)) :=
  legal_records ((strategies_obeyed reaches).legal index call tagged)

theorem handed_over
    (reaches : Reaches (step settings config) (fun _ _ => True) initial provided)
    {entry : Entry SdkOp SdkOp.Reply Js.Thrown} (member : entry ∈ provided.strategies.history)
    (sends : entry.op.isSend = true) :
    ∃ call reply, provided.strategies.tagOf entry.pid = some call ∧
      entry.exchange = call.exchange settings reply := by
  have below := (strategies_obeyed reaches).recorded entry member
  have tagged : provided.strategies.tagOf entry.pid =
      some (provided.strategies.processes[entry.pid]).tag := by
    simp [Pool.tagOf, List.getElem?_eq_getElem below]
  have records := call_records reaches tagged
  have sent : entry.exchange ∈ sendsIn (provided.strategies.entriesOf entry.pid) := by
    apply List.mem_map_of_mem
    apply List.mem_filter.mpr
    exact ⟨List.mem_filter.mpr ⟨member, by simp⟩, sends⟩
  cases stage : (ProviderStage.protocol settings).reached
      (.calling (provided.strategies.processes[entry.pid]).tag)
      (provided.strategies.entriesOf entry.pid) with
  | calling own =>
      rw [stage] at records
      rw [records.2] at sent
      cases sent
  | called own reply =>
      rw [stage] at records
      rw [records.2] at sent
      exact ⟨_, reply, tagged, List.mem_singleton.mp sent⟩

theorem vendor_calls_le
    (reaches : Reaches (step settings config) (fun _ _ => True) initial provided)
    (provider : SmsProviderName) :
    provided.strategies.history.countP (fun entry => entry.op.vendor = some provider) ≤
      provided.service.history.countP
          (fun entry => entry.op.takes = some (.permitted provider.value)) +
        provided.service.processes.countP fun process =>
          process.program.awaited.any fun op => op.takes = some (.permitted provider.value) := by
  have provides := provided_reached reaches
  have each : ∀ index ∈ Finset.range provided.strategies.processes.length,
      (provided.strategies.entriesOf index).countP (fun entry => entry.op.vendor = some provider) ≤
        if (provided.asks index).any fun op => op.takes = some (.permitted provider.value)
          then 1 else 0 := by
    intro index member
    obtain ⟨call, tagged⟩ : ∃ call, provided.strategies.tagOf index = some call := by
      have found := List.getElem?_eq_getElem (Finset.mem_range.mp member)
      exact ⟨_, by rw [Pool.tagOf, found, Option.map_some]⟩
    have records : ProviderStage.Records settings call _ _ := call_records reaches tagged
    have vendor := records.vendor_le provider
    rw [asks, tagged, Option.map_some, Option.any_some]
    split at vendor
    · rename_i same
      simp only [same, Op.takes, decide_true, if_true]
      exact vendor
    · exact vendor.trans (Nat.zero_le _)
  have calls := provides.linked.calls_le fun op => op.takes = some (.permitted provider.value)
  have counted := provides.counted fun op => op.takes = some (.permitted provider.value)
  rw [provides.callers] at calls
  have spread := countP_eq_sum_fibers provided.strategies.history Entry.pid
    (fun entry => entry.op.vendor = some provider) (strategies_obeyed reaches).recorded
  calc provided.strategies.history.countP (fun entry => entry.op.vendor = some provider)
      = _ := spread
    _ ≤ _ := Finset.sum_le_sum each
    _ ≤ _ := calls
    _ ≤ _ := Nat.add_le_add_right counted _

/-- The vendor has taken the one message of the call, under the id. -/
def Took (settings : ProviderSettings) (strategies : Strategies) (index : Nat)
    (call : ProviderCall) (id : String) : Prop :=
  sendsIn (strategies.entriesOf index) = [call.exchange settings (.ok id)]

/-- In every run of the service with its providers, whatever a vendor is handed is what its strategy
builds from a row's recipient, body and id, the row being what a client asked for, and what Bird gets
under one idempotency key is one message, so that Bird may take every further one for a
repetition. -/
theorem vendors_get_requests
    (reaches : Reaches (step settings config) (fun _ _ => True) initial provided) :
    (∀ entry ∈ provided.strategies.history, entry.op.isSend = true →
      ∃ (call : ProviderCall) (reply : Except Js.Thrown String) (row : SmsMessage),
        entry.exchange = call.exchange settings reply ∧
        provided.service.world.messages.findById call.options.referenceId = some row ∧
        call.options = row.sendOptions ∧
        ∃ sender key dto, provided.service.tagOf sender = some (.send key dto) ∧
          row.requestData.Requested config key dto) ∧
    ∀ first ∈ provided.strategies.history, ∀ second ∈ provided.strategies.history,
      ∀ message message' key, first.op = .smsSend message key →
        second.op = .smsSend message' key → message = message' := by
  have provides := provided_reached reaches
  have handed : ∀ entry ∈ provided.strategies.history, entry.op.isSend = true →
      ∃ (call : ProviderCall) (reply : Except Js.Thrown String) (row : SmsMessage),
        entry.exchange = call.exchange settings reply ∧
        provided.service.world.messages.findById call.options.referenceId = some row ∧
        call.options = row.sendOptions := by
    intro entry member sends
    obtain ⟨call, reply, tagged, exchanged⟩ := handed_over reaches member sends
    obtain ⟨row, found, asked⟩ := provides.loaded _ call tagged
    exact ⟨call, reply, row, exchanged, found, asked⟩
  have birds : ∀ entry ∈ provided.strategies.history, ∀ message key,
      entry.op = .smsSend message key → ∃ (row : SmsMessage) (options : SendSmsOptions),
        key = BirdProvider.idempotencyKey settings options ∧
        message = BirdProvider.message settings options ∧
        provided.service.world.messages.findById options.referenceId = some row ∧
        options = row.sendOptions := by
    intro entry member message key op
    obtain ⟨call, reply, row, exchanged, found, asked⟩ := handed entry member (by rw [op]; rfl)
    have same : entry.op = (call.exchange settings reply).op := congrArg Exchange.op exchanged
    obtain ⟨provider, options⟩ := call
    rw [op] at same
    cases provider with
    | twilio => cases same
    | bird =>
        cases same
        exact ⟨row, options, rfl, rfl, found, asked⟩
  constructor
  · intro entry member sends
    obtain ⟨call, reply, row, exchanged, found, asked⟩ := handed entry member sends
    obtain ⟨_, carries⟩ := Service.carriesRequests_reached (refines_service reaches)
    exact ⟨call, reply, row, exchanged, found, asked, carries.requested _ row found⟩
  · intro first member second member' message message' key op op'
    obtain ⟨row, options, keyed, rfl, found, asked⟩ := birds first member message key op
    obtain ⟨row', options', keyed', rfl, found', asked'⟩ := birds second member' message' key op'
    have same : options.referenceId = options'.referenceId :=
      BirdProvider.idempotencyKey_injective (keyed.symm.trans keyed')
    rw [same, found'] at found
    cases found
    rw [asked, asked']

def Event.callsBird : List Event :=
  ((Service.Event.sends "key" :: Service.Event.answers 0 6) ++
    .execute 0 :: Service.Event.answers 1 4).map .inner ++
  [.sendSms 1, .exchange 0 (.answered ""), .exchange 0 (.answered ""), .exchange 0 (.answered "")]

/-- Bird times out at first; the next attempt hands it the same message under the same key. -/
theorem bird_attempt_repeated : ∃ (provided : ProvidedService)
    (first second : Entry SdkOp SdkOp.Reply Js.Thrown) (message message' : BirdMessage)
    (key : String), first ∈ provided.strategies.history ∧ second ∈ provided.strategies.history ∧
      first.pid ≠ second.pid ∧ first.op = .smsSend message key ∧
      second.op = .smsSend message' key ∧ message = message' := by
  let options : SendSmsOptions := { «to» := "+15550100", body := "hello", referenceId := 0 }
  let op : SdkOp := .smsSend (BirdProvider.message .configured options)
    (BirdProvider.idempotencyKey .configured options)
  obtain ⟨provided, reaches, found⟩ := execute_exists
    (step .configured (.defaults ["bird"])) (fun _ _ => True) initial
    (Event.callsBird ++
      [.exchange 0 (.thrown (.record [("name", .string "BirdTimeoutError")])), .receive 0] ++
      (Service.Event.answers 1 3).map .inner ++
      [.sendSms 1, .exchange 1 (.answered ""), .exchange 1 (.answered "b1")])
    (fun provided =>
      (provided.strategies.history.any fun entry => entry.pid = 0 && entry.op = op) &&
        provided.strategies.history.any fun entry => entry.pid = 1 && entry.op = op)
    (by decide)
  simp only [Bool.and_eq_true, List.any_eq_true, decide_eq_true_eq] at found
  obtain ⟨⟨first, member, zero, sends⟩, second, member', one, repeats⟩ := found
  have same := (vendors_get_requests reaches).2 first member second member' _ _ _ sends repeats
  refine ⟨provided, first, second, _, _, _, member, member', ?_, sends, repeats, same⟩
  rw [zero, one]
  decide

end ProvidedService

end SmsNotification
