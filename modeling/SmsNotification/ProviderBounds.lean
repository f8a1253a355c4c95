import SmsNotification.Concurrency.Budget
import SmsNotification.DispatchPolicy
import SmsNotification.Moves
import SmsNotification.ProviderRegistry

/-!
How often one execution of a dispatch calls its providers. The retry limit bounds the calls at each
position of the provider list, so it bounds the calls to each provider when the names in
`SMS_PROVIDER_PRIORITY` are distinct, and only then.
-/

namespace SmsNotification

open Concurrency

def Op.isSendTo (selected : String → Bool) : Op → Bool
  | .sendSms provider _ => selected provider
  | _ => false

section Budget

variable {config : Config} {selected : String → Bool} {message : SmsMessage}

open SmsDispatcherService

theorem call_atMost {op : Op} (other : op.isSendTo selected = false) :
    (call op).AtMost (Op.isSendTo selected) 0 :=
  Program.atMost_perform (by simp [other])

theorem incrementAttempts_atMost (id : MessageId) :
    (SmsService.incrementAttempts id).AtMost (Op.isSendTo selected) 0 :=
  (call_atMost rfl).idle_bind fun _ => Program.atMost_pure _

theorem markSent_atMost (id : MessageId) (provider : String) (providerMessageId : Option String) :
    (SmsService.markSent id provider providerMessageId).AtMost (Op.isSendTo selected) 0 :=
  (call_atMost rfl).idle_bind fun _ => (call_atMost rfl).idle_bind fun _ => Program.atMost_pure _

theorem giveUp_atMost (lastProvider lastError : String) :
    (giveUp message lastProvider lastError).AtMost (Op.isSendTo selected) 0 := by
  have marks : (SmsService.markFatalFailure message.id lastProvider lastError).AtMost
      (Op.isSendTo selected) 0 :=
    (call_atMost rfl).idle_bind fun _ => (call_atMost rfl).idle_bind fun _ => Program.atMost_pure _
  exact marks.idle_bind fun _ => call_atMost rfl

theorem sendWithProvider_atMost (provider : String) :
    (sendWithProvider message provider).AtMost (Op.isSendTo selected)
      (if selected provider then 1 else 0) := by
  have once : (call (.sendSms provider
      { «to» := message.recipientPhone, body := message.messageBody, referenceId := message.id })).AtMost
        (Op.isSendTo selected) (if selected provider then 1 else 0) := by
    refine Program.atMost_perform ?_
    intro chosen
    have chosen : selected provider = true := chosen
    simp [chosen]
  exact once.tryCatch_idle fun _ => Program.atMost_pure _

theorem attemptProvider_atMost (provider : String) (remaining attempt : Nat) (lastError : String) :
    (attemptProvider config message provider remaining attempt lastError).AtMost
      (Op.isSendTo selected) (if selected provider then remaining else 0) := by
  induction remaining generalizing attempt lastError with
  | zero => exact Program.atMost_pure _
  | succ remaining ih =>
      have sends : (if selected provider then remaining + 1 else 0) =
          (if selected provider then 1 else 0) + (if selected provider then remaining else 0) := by
        by_cases chosen : selected provider = true
        · simp only [chosen, if_true]
          omega
        · simp [chosen]
      rw [attemptProvider, sends]
      refine (incrementAttempts_atMost message.id).idle_bind fun _ => ?_
      refine Program.AtMost.idle_bind (call_atMost rfl) fun _ => ?_
      refine (sendWithProvider_atMost provider).bind fun result => ?_
      split
      · have marks : (SmsService.markSent message.id provider result.providerMessageId).AtMost
            (Op.isSendTo selected) 0 := markSent_atMost message.id provider result.providerMessageId
        exact (marks.bind_idle fun _ => Program.atMost_pure _).mono (Nat.zero_le _)
      · dsimp only
        split
        · exact Program.atMost_pure _
        · split
          · exact Program.atMost_throw _
          · exact Program.AtMost.idle_bind (call_atMost rfl) fun _ => ih _ _

theorem dispatchProviders_atMost (providers : List String) (lastProvider lastError : String) :
    (dispatchProviders config message providers lastProvider lastError).AtMost
      (Op.isSendTo selected) (providers.countP selected * config.maxRetries) := by
  induction providers generalizing lastProvider lastError with
  | nil => exact (giveUp_atMost lastProvider lastError).mono (by omega)
  | cons provider providers ih =>
      have sends : (provider :: providers).countP selected * config.maxRetries =
          (if selected provider then config.maxRetries else 0) +
            providers.countP selected * config.maxRetries := by
        rw [List.countP_cons]
        by_cases chosen : selected provider = true
        · simp only [chosen, if_true, Nat.add_mul, Nat.one_mul]
          omega
        · simp [chosen]
      rw [dispatchProviders, sends]
      refine (attemptProvider_atMost provider config.maxRetries 1 lastError).bind fun outcome => ?_
      cases outcome with
      | sent => exact Program.atMost_pure _
      | exhausted lastError => exact ih provider lastError

theorem dispatch_atMost (id : MessageId) :
    (dispatch config id).AtMost (Op.isSendTo selected)
      (config.providers.countP selected * config.maxRetries) := by
  rw [dispatch]
  refine Program.AtMost.idle_bind (call_atMost rfl) fun found => ?_
  cases found with
  | none => exact Program.atMost_throw _
  | some message =>
      dsimp only
      split
      · exact Program.atMost_pure _
      · refine Program.AtMost.idle_bind (call_atMost rfl) fun claimed => ?_
        cases claimed with
        | false => exact Program.AtMost.idle_bind (call_atMost rfl) fun _ => Program.atMost_pure _
        | true => exact dispatchProviders_atMost config.providers _ _

theorem program_atMost (id : MessageId) :
    (Call.program config (.dispatch id)).AtMost (Op.isSendTo selected)
      (config.providers.countP selected * config.maxRetries) :=
  (dispatch_atMost id).bind_idle fun _ => Program.atMost_pure _

end Budget

section Retries

variable {config : Config} {selected : String → Bool} {world : World} {row : SmsMessage}

def alwaysRetryable : Surroundings := fun _ _ =>
  .answered { sms := { success := false, isRetryable := true } }

theorem countP_exchanges (message : SmsMessage) (calls : List (String × ProviderReply)) :
    (calls.flatMap (exchanges message)).countP (fun exchange => exchange.op.isSendTo selected) =
      calls.countP fun call => selected call.1 := by
  induction calls with
  | nil => rfl
  | cons call calls ih =>
      have one : (exchanges message call).countP (fun exchange => exchange.op.isSendTo selected) =
          if selected call.1 then 1 else 0 := by
        simp [exchanges, Op.isSendTo, List.countP_cons]
      rw [List.flatMap_cons, List.countP_append, one, ih, List.countP_cons]
      omega

theorem countP_attempts (record : Record) :
    (attempts record).countP (fun exchange => exchange.op.isSendTo selected) =
      record.countP fun exchange => exchange.op.isSendTo selected := by
  rw [attempts, List.countP_filter]
  refine List.countP_congr fun exchange _ => ?_
  cases op : exchange.op <;> simp [Op.isSendTo, Op.isAttempt]

/-- A dispatch whose providers only ask for retries calls each of them as often as it may. -/
theorem retried_run (config : Config) (selected : String → Bool)
    (found : world.messages.findById row.id = some row)
    (claimable : row.status = .queued ∨ row.status = .processing) :
    ∃ ran, (Call.program config (.dispatch row.id)).run World.exec alwaysRetryable world [] =
        some ran ∧
      ran.trace.countP (fun exchange => exchange.op.isSendTo selected) =
        config.providers.countP selected * config.maxRetries := by
  have follows : (Call.program config (.dispatch row.id)).Yields World.exec alwaysRetryable
      (fun _ _ after => ∃ calls accepted,
        Failover.Calls verdict config.maxRetries config.providers calls accepted ∧
        attempts after = calls.flatMap (exchanges row)) world [] := by
    rw [Call.program, Program.yields_bind]
    refine (dispatch_follows_policy (fun _ _ _ => rfl) found claimable).mono ?_
    rintro result following after ⟨rfl, calls, accepted, follows, called, _⟩
    exact (Program.yields_pure _).mpr ⟨calls, accepted, follows, called⟩
  obtain ⟨ran, runs, calls, accepted, policy, called⟩ := follows
  refine ⟨ran, runs, ?_⟩
  have retryable : ∀ call ∈ calls, verdict call.2 = .retryable := by
    intro call member
    have made : (⟨.sendSms call.1 (sendOptions row), call.2⟩ : Exchange Op Op.Reply Failure) ∈
        attempts ran.trace := by
      rw [called, List.mem_flatMap]
      exact ⟨call, member, by simp [exchanges]⟩
    rcases Program.run_exchanges runs (List.mem_filter.mp made).1 with none | executed
    · simp at none
    · obtain ⟨world, before, completion, executed, reply⟩ := executed
      simp only [alwaysRetryable, World.exec, World.perform, Option.some.injEq] at executed
      subst executed
      have replied : call.2 = .ok { success := false, isRetryable := true } := reply
      rw [replied]
      rfl
  rw [← countP_attempts, called, countP_exchanges]
  exact policy.countP_eq config.maxRetries_pos retryable selected

end Retries

namespace Service

variable {config : Config} {service : Service} {selected : String → Bool} {pid : Nat}
  {id : MessageId}

def sendsTo (service : Service) (selected : String → Bool) (pid : Nat) : Nat :=
  service.tally (Op.isSendTo selected) pid

theorem within {permitted : Service → Event → Prop} {request : Call} {counted : Op → Bool}
    {bound : Nat} (keeps : (request.program config).AtMost counted bound)
    (reaches : Reaches (step config) permitted initial service) :
    Pool.Within counted request bound service := by
  refine reaches.invariant (Pool.Within counted request bound) ?_ ?_
  · exact { recorded := by simp [initial], budget := by simp [initial] }
  · intro service event following within _ stepped
    have unchanged : ∀ world : World, Pool.Within counted request bound { service with world } :=
      fun world => { recorded := within.recorded, budget := within.budget }
    cases event with
    | request other =>
        simp only [step] at stepped
        split at stepped
        · simp at stepped
        · simp only [Option.some.injEq] at stepped
          subst stepped
          exact within.spawn fun same => same ▸ keeps
    | execute index =>
        obtain ⟨job, found, stepped⟩ := Option.bind_eq_some_iff.mp stepped
        split at stepped
        · simp only [Option.some.injEq] at stepped
          subst stepped
          exact Pool.Within.spawn (unchanged _) fun same => same ▸ keeps
        · simp at stepped
    | resume pid choice => exact within.resume stepped
    | settle index =>
        obtain ⟨job, found, stepped⟩ := Option.bind_eq_some_iff.mp stepped
        split at stepped
        · obtain ⟨result, settled, stepped⟩ := Option.bind_eq_some_iff.mp stepped
          simp only [Option.some.injEq] at stepped
          subst stepped
          exact unchanged _
        · simp at stepped
    | stall index =>
        obtain ⟨job, found, stepped⟩ := Option.bind_eq_some_iff.mp stepped
        split at stepped
        · simp only [Option.some.injEq] at stepped
          subst stepped
          exact unchanged _
        · simp at stepped
    | expireCache key | expireLock key | expireClaim webhookId =>
        simp only [step, Option.some.injEq] at stepped
        subst stepped
        exact unchanged _

theorem sendsTo_le {permitted : Service → Event → Prop}
    (reaches : Reaches (step config) permitted initial service)
    (called : service.call pid = some (.dispatch id)) :
    service.sendsTo selected pid ≤ config.providers.countP selected * config.maxRetries := by
  have bounded : Pool.Within (Op.isSendTo selected) (.dispatch id) _ service :=
    within (program_atMost id) reaches
  obtain ⟨process, found, tagged⟩ := Option.map_eq_some_iff.mp called
  obtain ⟨budget, _, counts⟩ := bounded.budget pid process.program (by rw [found, ← tagged])
  unfold sendsTo
  omega

theorem reaches_alone (config : Config) {surroundings : Surroundings} {tag : Call} {program : Action Answer}
    {ran : Ran Op Op.Reply Failure Answer World}
    (found : service.processes[pid]? = some ⟨tag, program⟩)
    (runs : program.run World.exec surroundings service.world [] = some ran) :
    ∃ final, Reaches (step config) (fun _ _ => True) service final ∧ final.world = ran.world ∧
      final.processes = service.processes.set pid ⟨tag, .settled ran.result⟩ ∧
      ∀ counted, final.tally counted pid =
        service.tally counted pid + ran.trace.countP fun exchange => counted exchange.op := by
  obtain ⟨final, reaches, world, processes, counts⟩ := Pool.reaches_run found runs
  refine ⟨final, ?_, world, processes, fun counted => by simpa [Pool.tally] using counts counted⟩
  exact reaches.embed fun _ choice _ _ resumed => ⟨.resume pid choice, trivial, resumed⟩

theorem tally_new {permitted : Service → Event → Prop} {counted : Op → Bool}
    (reaches : Reaches (step config) permitted initial service)
    (above : service.processes.length ≤ pid) : service.tally counted pid = 0 := by
  obtain ⟨stages, staged, _⟩ := invariant (fun _ _ => True) reaches trivial
    (fun _ _ _ _ _ _ _ _ _ => trivial)
  refine List.countP_eq_zero.mpr ?_
  intro entry member
  have below := staged.recorded entry member
  have other : entry.pid ≠ pid := by omega
  simp [other]

def emptyDto : SendSmsDto where
  «to» := "+15550100"
  message := ""
  metadata := none

theorem sent_run (config : Config) : ∃ ran, (Call.program config (.send "key" emptyDto)).run
      World.exec (fun _ _ => .answered {}) World.initial [] = some ran ∧
    ran.world.messages.findById 0 = some (queuedMessage 0 0 "key" emptyDto) ∧
    ran.world.jobs = [{ messageId := 0, fromRequeue := false, attempts := config.jobAttempts }] :=
  ⟨_, rfl, rfl, rfl⟩

theorem reaches_sendsTo (config : Config) (selected : String → Bool) : ∃ service,
    Reaches (step config) (fun _ _ => True) initial service ∧
    service.call 1 = some (.dispatch 0) ∧
    service.sendsTo selected 1 = config.providers.countP selected * config.maxRetries := by
  obtain ⟨sent, runs, created, published⟩ := sent_run config
  have requested : step config initial (.request (.send "key" emptyDto)) =
      some (initial.spawn (.send "key" emptyDto)
        (Call.program config (.send "key" emptyDto))) := rfl
  have sending : (initial.spawn (.send "key" emptyDto)
      (Call.program config (.send "key" emptyDto))).processes[0]? =
        some ⟨.send "key" emptyDto, Call.program config (.send "key" emptyDto)⟩ := rfl
  obtain ⟨queued, alone, world, processes, _⟩ := reaches_alone config sending runs
  have reachesQueued := (Reaches.step .refl trivial requested).trans alone
  have length : queued.processes.length = 1 := by
    rw [processes]
    rfl
  have job : queued.world.jobs[0]? =
      some { messageId := 0, fromRequeue := false, attempts := config.jobAttempts } := by
    rw [world, published]
    rfl
  obtain ⟨executing, executes, messages, executingProcesses, history⟩ : ∃ executing,
      step config queued (.execute 0) = some executing ∧
      executing.world.messages = queued.world.messages ∧
      executing.processes = queued.processes ++
        [⟨.dispatch 0, Call.program config (.dispatch 0)⟩] ∧
      executing.history = queued.history := by
    simp only [step, job, Option.bind_eq_bind, Option.bind_some, true_or, if_true]
    exact ⟨_, rfl, rfl, rfl, rfl⟩
  have dispatching : executing.processes[1]? =
      some ⟨.dispatch 0, Call.program config (.dispatch 0)⟩ := by
    rw [executingProcesses, List.getElem?_append_right (by omega), length]
    rfl
  have found : executing.world.messages.findById (queuedMessage 0 0 "key" emptyDto).id =
      some (queuedMessage 0 0 "key" emptyDto) := by
    rw [messages, world]
    exact created
  obtain ⟨ran, retried, calls⟩ := retried_run config selected found (Or.inl rfl)
  obtain ⟨final, aloneAgain, _, finalProcesses, counts⟩ := reaches_alone config dispatching retried
  refine ⟨final, (Reaches.step reachesQueued trivial executes).trans aloneAgain, ?_, ?_⟩
  · have below : 1 < executing.processes.length := by
      rw [executingProcesses, List.length_append, length, List.length_singleton]
      omega
    rw [call, finalProcesses, List.getElem?_set_self below]
    rfl
  · have fresh : executing.tally (Op.isSendTo selected) 1 = 0 := by
      rw [Pool.tally, history]
      exact tally_new reachesQueued (by omega)
    rw [sendsTo, counts, fresh, Nat.zero_add]
    exact calls

/-- One execution makes at most `SMS_MAX_RETRIES` calls to each registered provider, whatever
happens around it, exactly when the names in `SMS_PROVIDER_PRIORITY` are distinct. -/
theorem retries_bound_providers_iff {registry : ProviderRegistryService} {priority : String}
    (resolved : registry.resolveConfiguredProviders priority = .ok config.providers) :
    (∀ service, Reaches (step config) (fun _ _ => True) initial service →
      ∀ pid id, service.call pid = some (.dispatch id) → ∀ provider ∈ registry.providers,
        service.sendsTo (fun name => name = provider) pid ≤ config.maxRetries) ↔
    (ProviderRegistryService.priorityNames priority).Nodup := by
  obtain ⟨names, _, registered⟩ := ProviderRegistryService.resolved_names resolved
  have count : ∀ provider, config.providers.countP (fun name => name = provider) =
      config.providers.count provider := by
    intro provider
    rw [List.count]
    exact List.countP_congr fun name _ => by simp
  rw [← names, List.nodup_iff_count_le_one]
  constructor
  · intro bounded provider
    by_cases configured : provider ∈ config.providers
    · obtain ⟨service, reaches, called, calls⟩ :=
        reaches_sendsTo config fun name => name = provider
      have within := bounded service reaches 1 0 called provider (registered provider configured)
      rw [calls, count] at within
      exact Nat.le_of_mul_le_mul_right (by omega) config.maxRetries_pos
    · rw [List.count_eq_zero.mpr configured]
      omega
  · intro distinct service reaches pid id called provider _
    have calls : service.sendsTo (fun name => name = provider) pid ≤
        config.providers.countP (fun name => name = provider) * config.maxRetries :=
      sendsTo_le reaches called
    rw [count] at calls
    exact calls.trans (by simpa using Nat.mul_le_mul_right config.maxRetries (distinct provider))

/-- The names of the default priority are distinct. -/
theorem retries_bound_providers_iff_default : ∃ registry : ProviderRegistryService,
    registry.resolveConfiguredProviders "twilio,bird" = .ok ["twilio", "bird"] ∧
    ∀ service, Reaches (step (.defaults ["twilio", "bird"])) (fun _ _ => True) initial service →
      ∀ pid id, service.call pid = some (.dispatch id) → ∀ provider ∈ registry.providers,
        service.sendsTo (fun name => name = provider) pid ≤ 3 := by
  have resolved : ProviderRegistryService.resolveConfiguredProviders
      ⟨["twilio", "bird"], by decide⟩ "twilio,bird" =
        .ok (Config.defaults ["twilio", "bird"]).providers := rfl
  exact ⟨_, resolved, (retries_bound_providers_iff resolved).mpr (by decide)⟩

/-- The registry accepts a repeated name, and one execution calls that provider four times. -/
theorem retries_exceeded :
    (do
      let registry ← ProviderRegistryService.create ["twilio", "bird"]
      registry.resolveConfiguredProviders "twilio, twilio") = .ok ["twilio", "twilio"] ∧
    ∃ service, Reaches (step (.defaults ["twilio", "twilio"])) (fun _ _ => True) initial service ∧
      service.call 1 = some (.dispatch 0) ∧
      service.sendsTo (fun name => name = "twilio") 1 = 4 ∧
      (Config.defaults ["twilio", "twilio"]).maxRetries = 3 := by
  refine ⟨rfl, ?_⟩
  obtain ⟨service, reaches, found⟩ := execute_exists (step (.defaults ["twilio", "twilio"]))
    (fun _ _ => True) initial ([Event.sends "key"] ++ Event.answers 0 8 ++ [.execute 0] ++
      List.replicate 16
        (.resume 1 (.answered { sms := { success := false, isRetryable := true } })))
    (fun service => service.call 1 = some (.dispatch 0) &&
      service.sendsTo (fun name => name = "twilio") 1 == 4)
    (by decide)
  simp only [Bool.and_eq_true, decide_eq_true_eq, beq_iff_eq] at found
  exact ⟨service, reaches, found.1, found.2, rfl⟩

end Service

end SmsNotification
