import SmsNotification.Effects
import SmsNotification.Transition

/-!
All that one step of the service can do, in terms of stages. Every invariant of the service is
proved through `invariant`, which needs `Moves` alone and no program.
-/

namespace SmsNotification

open Concurrency

namespace Stage

def Claims (call : Call) : Option String → Prop
  | none => ∃ callback, call = .twilio callback
  | some webhookId => ∃ event, call = .bird webhookId event

def Delivers (caseMapping : Js.CaseMapping) (call : Call) (callback : DeliveryStatusCallback) :
    Option String → Prop
  | none => ∃ received status, call = .twilio received ∧
      mapTwilioStatus caseMapping received.messageStatus = some status ∧
      callback = TwilioWebhookService.deliveryCallback caseMapping received status
  | some webhookId => ∃ event status, call = .bird webhookId event ∧
      mapBirdEventType caseMapping event.type = some status ∧
      callback = BirdWebhookService.deliveryCallback caseMapping event status

def Serves (caseMapping : Js.CaseMapping) (call : Call) : Stage → Prop
  | requesting key | cached key _ | holding key _ | creator key _ | published key _
  | unpublished key _ => ∃ dto, call = .send key dto
  | refused => ∃ key dto, call = .send key dto
  | administering id | requeued id => call = .requeue id
  | eligible snapshot | reopened snapshot | restoring snapshot _ => call = .requeue snapshot.id
  | dispatching id | loaded id | skipping id | sending id | counted id | throttled id
  | accepted id _ _ | dead id | aborted id => call = .dispatch id
  | claiming webhookId event => call = .bird webhookId event
  | duplicate webhookId | failing webhookId => ∃ event, call = .bird webhookId event
  | receiving claim callback | resolved claim callback _ =>
      Delivers caseMapping call callback claim
  | skipped claim _ | processed claim => Claims call claim
  | finished => ¬ ∃ key dto, call = .send key dto

variable {caseMapping : Js.CaseMapping} {call : Call} {stage stage' : Stage} {op : Op}

theorem Delivers.claims {callback : DeliveryStatusCallback} {claim : Option String}
    (delivers : Delivers caseMapping call callback claim) : Claims call claim := by
  cases claim with
  | none =>
      obtain ⟨received, _, same, _⟩ := delivers
      exact ⟨received, same⟩
  | some webhookId =>
      obtain ⟨event, _, same, _⟩ := delivers
      exact ⟨event, same⟩

theorem serves_start (caseMapping : Js.CaseMapping) (call : Call) :
    Serves caseMapping call (start caseMapping call) := by
  cases call with
  | send key dto => exact ⟨dto, rfl⟩
  | requeue id => rfl
  | dispatch id => rfl
  | bird webhookId event => rfl
  | twilio callback =>
      simp only [start]
      split
      · exact ⟨callback, rfl⟩
      · rename_i status mapped
        exact ⟨callback, status, rfl, mapped, rfl⟩

theorem upcoming_allowed {program : Action Answer}
    (follows : program.Follows (protocol caseMapping) (Settles call) stage)
    (unsettled : ∀ result, ¬ Settles call stage result) :
    ∃ op, upcoming program = some op ∧ stage.Allowed op ∧ op.fallible = true := by
  induction program with
  | settled result => exact absurd follows (unsettled result)
  | await op next ih =>
      obtain ⟨allowed, rest⟩ := follows
      cases op with
      | newDate => exact ih (.ok 0) (rest (.ok 0) trivial)
      | sleep milliseconds => exact ih (.ok ()) (rest (.ok ()) trivial)
      | log entry => exact ih (.ok ()) (rest (.ok ()) trivial)
      | _ => exact ⟨_, rfl, allowed, rfl⟩

def isInitial : Stage → Bool
  | requesting _ => true
  | administering _ => true
  | dispatching _ => true
  | claiming _ _ => true
  | receiving none _ => true
  | processed none => true
  | _ => false

theorem start_isInitial (caseMapping : Js.CaseMapping) (call : Call) :
    (start caseMapping call).isInitial = true := by
  cases call with
  | twilio callback =>
      simp only [start]
      split <;> rfl
  | _ => rfl

theorem countP_start {p : Stage → Bool} (never : ∀ stage, stage.isInitial = true → p stage = false)
    (requests : List Call) : (requests.map (start caseMapping)).countP p = 0 := by
  rw [List.countP_eq_zero]
  intro stage member
  obtain ⟨request, _, rfl⟩ := List.mem_map.mp member
  simp [never _ (start_isInitial caseMapping request)]

theorem Serves.claims {claim : Option String} (serves : Serves caseMapping call stage)
    (handles : Handles claim stage) : Claims call claim := by
  rcases handles with ⟨callback, rfl⟩ | ⟨callback, id, rfl⟩ | ⟨id, rfl⟩
  · exact Delivers.claims serves
  · exact Delivers.claims serves
  · exact serves

theorem serves_next {reply : Except Failure op.Reply} (serves : Serves caseMapping call stage)
    (transition : Transition caseMapping stage op reply stage') :
    Serves caseMapping call stage' := by
  cases transition with
  | eligible same => exact serves.trans (congrArg Call.requeue same.symm)
  | notEligible | notReopened | restored =>
      rintro ⟨key, dto, rfl⟩
      simp [Serves] at serves
  | notDispatchable | missing | skipped | sent | deadLettered =>
      rintro ⟨key, dto, rfl⟩
      simp [Serves] at serves
  | @delivery webhookId event status mapped => exact ⟨event, status, serves, mapped, rfl⟩
  | @notDelivery webhookId event | @duplicate webhookId event => exact ⟨event, serves⟩
  | claimRejected | released =>
      rintro ⟨key, dto, rfl⟩
      simp [Serves] at serves
  | notApplicable | unknown | applied | notApplied => exact Delivers.claims serves
  | failed _ handles =>
      obtain ⟨received, rfl⟩ := serves.claims handles
      simp [Serves]
  | failedClaim _ handles => exact serves.claims handles
  | publishFailed => exact ⟨_, serves⟩
  | _ => exact serves

end Stage

namespace Service

variable {config : Config} {service following : Service} {stages : List Stage} {event : Event}

def call (service : Service) (pid : Nat) : Option Call :=
  service.processes[pid]?.map Process.tag

/-- The ghost stages fit the processes: each follows its protocol in a stage of its call, and the
history tells of these processes only. -/
structure Staged (config : Config) (stages : List Stage) (service : Service) : Prop where
  tracked : Pool.Tracked (Stage.protocol config.caseMapping) Stage.Settles stages service
  serves : ∀ (pid : Nat) (call : Call) (stage : Stage), service.call pid = some call →
    stages[pid]? = some stage → stage.Serves config.caseMapping call
  recorded : ∀ entry ∈ service.history, entry.pid < service.processes.length

inductive Moves (config : Config) (service : Service) (stages : List Stage) :
    Event → Service → List Stage → Prop
  | request {call : Call} : call.isDispatch = false →
      Moves config service stages (.request call) (service.spawn call (call.program config))
        (stages ++ [Stage.start config.caseMapping call])
  | execute {index : Nat} {job : Job} : service.world.jobs[index]? = some job →
      job.state = .waiting ∨ job.state = .delayed →
      Moves config service stages (.execute index)
        ((service.setJob index { job with state := .active service.processes.length }).spawn
          (.dispatch job.messageId) (Call.program config (.dispatch job.messageId)))
        (stages ++ [.dispatching job.messageId])
  | resume {pid : Nat} {choice : Choice} {stage stage' : Stage} {op : Op}
      {outcome : World.Outcome op} {following : Service} :
      stages[pid]? = some stage → service.awaits pid = some op → stage.Allowed op →
      stage.Transition config.caseMapping op outcome.reply stage' →
      service.world.exec op choice = some outcome → following.world = outcome.world →
      following.history = service.history ++ [⟨pid, op, outcome.reply, outcome.effective⟩] →
      (∀ other, following.call other = service.call other) →
      Moves config service stages (.resume pid choice) following (stages.set pid stage')
  | settle {index : Nat} {job : Job} {pid : Nat} {result : Except Failure Answer} :
      service.world.jobs[index]? = some job → job.state = .active pid →
      service.result pid = some result →
      Moves config service stages (.settle index) (service.setJob index (job.settled result)) stages
  | stall {index : Nat} {job : Job} {pid : Nat} : service.world.jobs[index]? = some job →
      job.state = .active pid →
      Moves config service stages (.stall index)
        (service.setJob index { job with state := .waiting }) stages
  | expireCache (key : String) :
      Moves config service stages (.expireCache key) { service with world := { service.world with
        cache := Function.update service.world.cache key none } } stages
  | expireLock (key : String) :
      Moves config service stages (.expireLock key) { service with world := { service.world with
        locks := Function.update service.world.locks key none } } stages
  | expireClaim (webhookId : String) :
      Moves config service stages (.expireClaim webhookId) { service with
        world := { service.world with
          claims := Function.update service.world.claims webhookId false } } stages

theorem initial_staged : Staged config [] initial where
  tracked := { length := rfl, follows := by simp }
  serves := by simp
  recorded := by simp [initial]

theorem Staged.length (staged : Staged config stages service) :
    stages.length = service.processes.length :=
  staged.tracked.length

theorem Staged.of_world (staged : Staged config stages service) (world : World) :
    Staged config stages { service with world := world } where
  tracked := staged.tracked.of_processes rfl
  serves := staged.serves
  recorded := staged.recorded

theorem Staged.call (staged : Staged config stages service) {pid : Nat} {stage : Stage}
    (found : stages[pid]? = some stage) :
    ∃ request, service.call pid = some request ∧ stage.Serves config.caseMapping request := by
  obtain ⟨process, present, _⟩ := staged.tracked.process found
  have called : service.call pid = some process.tag := by simp [Service.call, present]
  exact ⟨process.tag, called, staged.serves pid _ stage called found⟩

theorem Staged.awaits (staged : Staged config stages service) {pid : Nat} {op : Op}
    (awaits : service.awaits pid = some op) :
    ∃ request stage, service.call pid = some request ∧ stages[pid]? = some stage ∧
      stage.Serves config.caseMapping request ∧ stage.Allowed op := by
  obtain ⟨process, present, awaited⟩ := Option.bind_eq_some_iff.mp awaits
  obtain ⟨stage, found, follows⟩ := staged.tracked.stage present
  have called : service.call pid = some process.tag := by simp [Service.call, present]
  refine ⟨process.tag, stage, called, found, staged.serves pid _ stage called found, ?_⟩
  cases program : process.program with
  | settled result => simp [program, Program.awaited] at awaited
  | await next rest =>
      rw [program] at awaited follows
      simp only [Program.awaited, Option.some.injEq] at awaited
      exact awaited ▸ follows.1

theorem Staged.result (staged : Staged config stages service) {pid : Nat}
    {result : Except Failure Answer} (settled : service.result pid = some result) :
    ∃ request stage, service.call pid = some request ∧ stages[pid]? = some stage ∧
      Stage.Settles request stage result := by
  obtain ⟨process, present, settled⟩ := Option.bind_eq_some_iff.mp settled
  obtain ⟨stage, found, settles⟩ := staged.tracked.result present settled
  exact ⟨process.tag, stage, by simp [Service.call, present], found, settles⟩

theorem call_spawn {request : Call} {program : Action Answer} {pid : Nat} {other : Call}
    (called : call (service.spawn request program) pid = some other) :
    service.call pid = some other ∨ pid = service.processes.length ∧ other = request := by
  obtain ⟨process, found, rfl⟩ := Option.map_eq_some_iff.mp called
  rcases getElem?_concat_cases found with before | ⟨last, rfl⟩
  · exact Or.inl (by simp [call, before])
  · exact Or.inr ⟨last, rfl⟩

theorem Staged.spawn (staged : Staged config stages service) (request : Call) :
    Staged config (stages ++ [Stage.start config.caseMapping request])
      (service.spawn request (request.program config)) where
  tracked := staged.tracked.spawn (program_conforms request)
  serves := by
    intro pid other stage called found
    have length := staged.length
    rcases getElem?_concat_cases found with before | ⟨last, rfl⟩
    · have below := (List.getElem?_eq_some_iff.mp before).1
      rcases call_spawn called with called | ⟨last, _⟩
      · exact staged.serves pid other stage called before
      · omega
    · rcases call_spawn called with called | ⟨_, rfl⟩
      · obtain ⟨process, found, _⟩ := Option.map_eq_some_iff.mp called
        have below := (List.getElem?_eq_some_iff.mp found).1
        omega
      · exact Stage.serves_start config.caseMapping other
  recorded := by
    intro entry member
    have below := staged.recorded entry member
    simp only [Pool.spawn, List.length_append, List.length_singleton]
    omega

theorem resume_moves {pid : Nat} {choice : Choice} (staged : Staged config stages service)
    (resumed : service.resume World.exec pid choice = some following) :
    ∃ stages', Moves config service stages (.resume pid choice) following stages' ∧
      Staged config stages' following := by
  obtain ⟨stage, op, outcome, found, awaits, allowed, executed, world, history, tags, tracked⟩ :=
    staged.tracked.resume (fun _ _ _ _ executed => World.exec_replies executed) resumed
  have calls : ∀ other, following.call other = service.call other := by
    intro other
    have same := congrArg (fun list => list[other]?) tags
    simpa [call] using same
  have transition := Stage.transition config.caseMapping allowed (World.exec_replies executed)
  refine ⟨_, .resume found awaits allowed transition executed world history calls, tracked, ?_, ?_⟩
  · intro other request stage' called found'
    rw [calls] at called
    rcases getElem?_set_cases found' with ⟨rfl, rfl⟩ | ⟨_, before⟩
    · exact Stage.serves_next (staged.serves _ request stage called found) transition
    · exact staged.serves other request stage' called before
  · intro entry member
    have sameLength : following.processes.length = service.processes.length := by
      simpa using congrArg List.length tags
    rw [sameLength]
    rw [history] at member
    rcases List.mem_append.mp member with earlier | new
    · exact staged.recorded entry earlier
    · have below := (List.getElem?_eq_some_iff.mp found).1
      rw [staged.length] at below
      simp only [List.mem_singleton] at new
      rw [new]
      exact below

theorem step_moves (staged : Staged config stages service)
    (stepped : service.step config event = some following) :
    ∃ stages', Moves config service stages event following stages' ∧
      Staged config stages' following := by
  cases event with
  | request request =>
      simp only [step] at stepped
      split at stepped
      · simp at stepped
      · rename_i notDispatch
        simp only [Option.some.injEq] at stepped
        subst stepped
        exact ⟨_, .request (by simpa using notDispatch), staged.spawn request⟩
  | execute index =>
      obtain ⟨job, found, stepped⟩ := Option.bind_eq_some_iff.mp stepped
      split at stepped
      · rename_i ready
        simp only [Option.some.injEq] at stepped
        subst stepped
        have same : Staged config stages (service.setJob index
            { job with state := .active service.processes.length }) := staged.of_world _
        exact ⟨_, .execute found ready, same.spawn (.dispatch job.messageId)⟩
      · simp at stepped
  | resume pid choice => exact resume_moves staged stepped
  | settle index =>
      obtain ⟨job, found, stepped⟩ := Option.bind_eq_some_iff.mp stepped
      split at stepped
      · rename_i pid active
        obtain ⟨result, settled, stepped⟩ := Option.bind_eq_some_iff.mp stepped
        simp only [Option.some.injEq] at stepped
        subst stepped
        exact ⟨stages, .settle found active settled, staged.of_world _⟩
      · simp at stepped
  | stall index =>
      obtain ⟨job, found, stepped⟩ := Option.bind_eq_some_iff.mp stepped
      split at stepped
      · rename_i pid active
        simp only [Option.some.injEq] at stepped
        subst stepped
        exact ⟨stages, .stall found active, staged.of_world _⟩
      · simp at stepped
  | expireCache key =>
      simp only [step, Option.some.injEq] at stepped
      subst stepped
      exact ⟨stages, .expireCache key, staged.of_world _⟩
  | expireLock key =>
      simp only [step, Option.some.injEq] at stepped
      subst stepped
      exact ⟨stages, .expireLock key, staged.of_world _⟩
  | expireClaim webhookId =>
      simp only [step, Option.some.injEq] at stepped
      subst stepped
      exact ⟨stages, .expireClaim webhookId, staged.of_world _⟩

theorem call_below {pid : Nat} {request : Call} (called : service.call pid = some request) :
    pid < service.processes.length := by
  obtain ⟨process, present, _⟩ := Option.map_eq_some_iff.mp called
  exact (List.getElem?_eq_some_iff.mp present).1

theorem Moves.keeps_call {stages' : List Stage}
    (moves : Moves config service stages event following stages') {pid : Nat}
    (below : pid < service.processes.length) : following.call pid = service.call pid := by
  have joined : ∀ (service : Service) (request : Call), pid < service.processes.length →
      Service.call (service.spawn request (request.program config)) pid = service.call pid := by
    intro service request below
    simp [Service.call, Pool.spawn, List.getElem?_append_left below]
  cases moves with
  | resume _ _ _ _ _ _ _ calls => exact calls pid
  | request => exact joined service _ below
  | @execute index job =>
      exact joined (service.setJob index { job with state := .active service.processes.length })
        (.dispatch job.messageId) below
  | _ => rfl

theorem Moves.keeps_job {stages' : List Stage}
    (moves : Moves config service stages event following stages') {job : Job}
    (member : job ∈ service.world.jobs) :
    ∃ kept ∈ following.world.jobs, kept.messageId = job.messageId ∧
      kept.fromRequeue = job.fromRequeue := by
  have replaced : ∀ (index : Nat) (before after : Job), service.world.jobs[index]? = some before →
      after.messageId = before.messageId → after.fromRequeue = before.fromRequeue →
      ∃ kept ∈ service.world.jobs.set index after, kept.messageId = job.messageId ∧
        kept.fromRequeue = job.fromRequeue := by
    intro index before after found sameId sameOrigin
    obtain ⟨position, below, rfl⟩ := List.mem_iff_getElem.mp member
    by_cases same : position = index
    · subst same
      rw [List.getElem?_eq_getElem below, Option.some.injEq] at found
      subst found
      exact ⟨after, List.mem_set below after, sameId, sameOrigin⟩
    · have kept : (service.world.jobs.set index after)[position]? =
          some service.world.jobs[position] := by
        rw [List.getElem?_set_ne (fun equal => same equal.symm), List.getElem?_eq_getElem below]
      exact ⟨_, List.mem_of_getElem? kept, rfl, rfl⟩
  cases moves with
  | resume _ _ _ _ executed world _ _ =>
      exact ⟨job, by rw [world]; exact World.exec_keeps_job executed member, rfl, rfl⟩
  | execute found _ => exact replaced _ _ _ found rfl rfl
  | @settle _ before _ result found _ _ =>
      exact replaced _ _ _ found (by cases result <;> rfl) (by cases result <;> rfl)
  | stall found _ => exact replaced _ _ _ found rfl rfl
  | _ => exact ⟨job, member, rfl, rfl⟩

theorem Moves.jobs {stages' : List Stage}
    (moves : Moves config service stages event following stages') {job : Job}
    (member : job ∈ following.world.jobs) :
    (∃ before ∈ service.world.jobs, before.messageId = job.messageId ∧
      before.fromRequeue = job.fromRequeue) ∨
    ∃ pid choice stage op outcome stage', event = .resume pid choice ∧
      stages[pid]? = some stage ∧ stage.Allowed op ∧ op.job? = some job ∧
      Stage.Transition config.caseMapping stage op outcome.reply stage' ∧
      service.world.exec op choice = some outcome ∧
      following.history = service.history ++ [⟨pid, op, outcome.reply, outcome.effective⟩] ∧
      stages' = stages.set pid stage' := by
  have replaced : ∀ {index : Nat} {before after : Job}, job ∈ service.world.jobs.set index after →
      service.world.jobs[index]? = some before →
      before.messageId = after.messageId → before.fromRequeue = after.fromRequeue →
      ∃ before ∈ service.world.jobs, before.messageId = job.messageId ∧
        before.fromRequeue = job.fromRequeue := by
    intro index before after member found sameId sameOrigin
    rcases List.mem_or_eq_of_mem_set member with kept | rfl
    · exact ⟨job, kept, rfl, rfl⟩
    · exact ⟨before, List.mem_of_getElem? found, sameId, sameOrigin⟩
  cases moves with
  | @resume pid choice stage stage' op outcome _ found _ allowed transition executed world history =>
      rw [world] at member
      rcases World.exec_jobs executed with same | ⟨added, publication, _, same⟩
      · rw [same] at member
        exact Or.inl ⟨job, member, rfl, rfl⟩
      · rw [same] at member
        rcases List.mem_append.mp member with kept | new
        · exact Or.inl ⟨job, kept, rfl, rfl⟩
        · rw [List.mem_singleton.mp new]
          exact Or.inr ⟨pid, choice, stage, op, outcome, stage', rfl, found, allowed, publication,
            transition, executed, history, rfl⟩
  | execute found _ => exact Or.inl (replaced member found rfl rfl)
  | @settle _ _ _ result found _ _ =>
      exact Or.inl (replaced member found (by cases result <;> rfl) (by cases result <;> rfl))
  | stall found _ => exact Or.inl (replaced member found rfl rfl)
  | _ => exact Or.inl ⟨job, member, rfl, rfl⟩

theorem Moves.executed {stages' : List Stage}
    (moves : Moves config service stages event following stages') {op : Op}
    (executed : service.executes event = some op) :
    ∃ pid choice stage outcome stage', event = .resume pid choice ∧ choice.isExecuted = true ∧
      service.awaits pid = some op ∧ stages[pid]? = some stage ∧ stage.Allowed op ∧
      Stage.Transition config.caseMapping stage op outcome.reply stage' ∧
      service.world.exec op choice = some outcome ∧ stages' = stages.set pid stage' := by
  cases moves with
  | @resume pid choice stage stage' other outcome _ found awaits allowed transition performed =>
      simp only [executes] at executed
      split at executed
      · rename_i ran
        have same := awaits.symm.trans executed
        simp only [Option.some.injEq] at same
        subst same
        exact ⟨pid, choice, stage, outcome, stage', rfl, ran, awaits, found, allowed, transition,
          performed, rfl⟩
      · simp at executed
  | _ => simp [executes] at executed

theorem Moves.history {stages' : List Stage}
    (moves : Moves config service stages event following stages') :
    (following.history = service.history ∧ ∃ requests : List Call,
      stages' = stages ++ requests.map (Stage.start config.caseMapping)) ∨
    ∃ pid choice stage op outcome stage', event = .resume pid choice ∧
      stages[pid]? = some stage ∧ service.awaits pid = some op ∧
      Stage.Transition config.caseMapping stage op outcome.reply stage' ∧
      service.world.exec op choice = some outcome ∧ following.world = outcome.world ∧
      following.history = service.history ++ [⟨pid, op, outcome.reply, outcome.effective⟩] ∧
      stages' = stages.set pid stage' := by
  cases moves with
  | @resume pid choice stage stage' op outcome _ found awaits _ transition executed world history =>
      exact Or.inr ⟨pid, choice, stage, op, outcome, stage', rfl, found, awaits, transition,
        executed, world, history, rfl⟩
  | @request request => exact Or.inl ⟨rfl, [request], rfl⟩
  | @execute index job => exact Or.inl ⟨rfl, [.dispatch job.messageId], rfl⟩
  | _ => exact Or.inl ⟨rfl, [], by simp⟩

theorem Moves.keeps_entry {stages' : List Stage}
    (moves : Moves config service stages event following stages')
    {entry : Entry Op Op.Reply Failure} (recorded : entry ∈ service.history) :
    entry ∈ following.history := by
  rcases moves.history with ⟨same, _⟩ | ⟨_, _, _, _, _, _, _, _, _, _, _, _, history, _⟩
  · rw [same]
    exact recorded
  · rw [history]
    exact List.mem_append_left _ recorded

/-- What holds of a staged state and survives every permitted move holds, for some fitting stages,
in every state reached from there. -/
theorem invariant_from {permitted : Service → Event → Prop}
    (holds : Service → List Stage → Prop) {start : Service}
    (reaches : Reaches (step config) permitted start service)
    (staged : Staged config stages start) (initially : holds start stages)
    (preserved : ∀ (service : Service) (stages : List Stage) (event : Event) (following : Service)
      (stages' : List Stage), Staged config stages service → holds service stages →
      permitted service event → Moves config service stages event following stages' →
      holds following stages') :
    ∃ stages, Staged config stages service ∧ holds service stages := by
  refine reaches.invariant (fun service =>
    ∃ stages, Staged config stages service ∧ holds service stages) ⟨stages, staged, initially⟩ ?_
  rintro service event following ⟨stages, staged, holding⟩ allowed stepped
  obtain ⟨stages', moves, staged'⟩ := step_moves staged stepped
  exact ⟨stages', staged', preserved service stages event following stages' staged holding allowed
    moves⟩

theorem invariant {permitted : Service → Event → Prop} (holds : Service → List Stage → Prop)
    (reaches : Reaches (step config) permitted initial service) (initially : holds initial [])
    (preserved : ∀ (service : Service) (stages : List Stage) (event : Event) (following : Service)
      (stages' : List Stage), Staged config stages service → holds service stages →
      permitted service event → Moves config service stages event following stages' →
      holds following stages') :
    ∃ stages, Staged config stages service ∧ holds service stages :=
  invariant_from holds reaches initial_staged initially preserved

def trace (service : Service) (pid : Nat) : List (Entry Op Op.Reply Failure) :=
  service.history.filter fun entry => entry.pid = pid

theorem Staged.trace_new (staged : Staged config stages service) {pid : Nat}
    (above : service.processes.length ≤ pid) : service.trace pid = [] := by
  refine List.filter_eq_nil_iff.mpr ?_
  intro entry member
  have below := staged.recorded entry member
  have other : entry.pid ≠ pid := by omega
  simpa using other

theorem Moves.trace {stages' : List Stage}
    (moves : Moves config service stages event following stages')
    (staged : Staged config stages service) {pid : Nat} {stage' : Stage}
    (found' : stages'[pid]? = some stage') :
    (following.trace pid = service.trace pid ∧ (stages[pid]? = some stage' ∨
      service.trace pid = [] ∧ stage'.isInitial = true)) ∨
    ∃ choice stage op outcome, event = .resume pid choice ∧ stages[pid]? = some stage ∧
      service.awaits pid = some op ∧
      Stage.Transition config.caseMapping stage op outcome.reply stage' ∧
      service.world.exec op choice = some outcome ∧
      following.trace pid =
        service.trace pid ++ [⟨pid, op, outcome.reply, outcome.effective⟩] := by
  rcases moves.history with ⟨same, requests, rfl⟩ |
    ⟨other, choice, stage, op, outcome, after, rfl, found, awaits, transition, executed, _,
      history, rfl⟩
  · have kept : following.trace pid = service.trace pid := by rw [Service.trace, same, Service.trace]
    refine Or.inl ⟨kept, ?_⟩
    by_cases below : pid < stages.length
    · rw [List.getElem?_append_left below] at found'
      exact Or.inl found'
    · have above : service.processes.length ≤ pid := by
        rw [← staged.length]
        omega
      rw [List.getElem?_append_right (by omega)] at found'
      obtain ⟨request, _, started⟩ := List.mem_map.mp (List.mem_of_getElem? found')
      rw [← started]
      exact Or.inr ⟨staged.trace_new above, Stage.start_isInitial config.caseMapping request⟩
  · rcases getElem?_set_cases found' with ⟨rfl, rfl⟩ | ⟨different, before⟩
    · exact Or.inr ⟨choice, stage, op, outcome, rfl, found, awaits, transition, executed, by
        simp [Service.trace, history]⟩
    · have distinct : other ≠ pid := fun equal => different equal.symm
      exact Or.inl ⟨by simp [Service.trace, history, distinct], Or.inl before⟩

def Traced (relates : Stage → List (Entry Op Op.Reply Failure) → Prop) (service : Service)
    (stages : List Stage) : Prop :=
  ∀ (pid : Nat) (stage : Stage), stages[pid]? = some stage → relates stage (service.trace pid)

theorem Moves.traced {stages' : List Stage}
    {relates : Stage → List (Entry Op Op.Reply Failure) → Prop}
    (moves : Moves config service stages event following stages')
    (staged : Staged config stages service) (traced : Traced relates service stages)
    (initially : ∀ stage, stage.isInitial = true → relates stage [])
    (preserved : ∀ (pid : Nat) (choice : Choice) (stage stage' : Stage) (op : Op)
      (outcome : World.Outcome op), event = .resume pid choice → service.awaits pid = some op →
      Stage.Transition config.caseMapping stage op outcome.reply stage' →
      service.world.exec op choice = some outcome → relates stage (service.trace pid) →
      relates stage' (service.trace pid ++ [⟨pid, op, outcome.reply, outcome.effective⟩])) :
    Traced relates following stages' := by
  intro pid stage' found'
  rcases moves.trace staged found' with ⟨same, before | ⟨empty, started⟩⟩ |
    ⟨choice, stage, op, outcome, resumes, found, awaits, transition, executed, grown⟩
  · rw [same]
    exact traced pid stage' before
  · rw [same, empty]
    exact initially stage' started
  · rw [grown]
    exact preserved pid choice stage stage' op outcome resumes awaits transition executed
      (traced pid stage found)

def Started : Service → List Stage → Prop :=
  Traced fun stage trace => trace = [] → stage.isInitial = true

theorem Moves.started {stages' : List Stage}
    (moves : Moves config service stages event following stages')
    (staged : Staged config stages service) (started : Started service stages) :
    Started following stages' :=
  moves.traced staged started (fun _ initial _ => initial)
    (fun _ _ _ _ _ _ _ _ _ _ _ grown => by simp at grown)

end Service

end SmsNotification
