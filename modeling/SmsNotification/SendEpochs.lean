import SmsNotification.Statements

/-!
Send epochs. An epoch of a message opens with its row or with a requeue and closes with the first
statement that records an outcome; a ghost follows them along a run. A message is to be sent exactly
while its epoch is open, so a dispatch can only claim it then.
-/

namespace SmsNotification

open Concurrency

/-- What a statement that selects the row does to its epoch: open it, close it or nothing. -/
def Update.epoch : Update → Option Bool
  | .transitionFatalFailureToQueued _ => some true
  | .markSent _ _ _ _ => some false
  | .markFatalFailure _ _ _ _ => some false
  | .markQueuePublishFailed _ _ => some false
  | .restoreFatalFailure _ _ _ _ => some false
  | .applyDeliveryStatus _ => some false
  | .markProcessing _ => none
  | .incrementAttempts _ => none

theorem Update.Issued.set_isOpen {statement : Update} {row : SmsMessage}
    (issued : statement.Issued) (guarded : statement.guard row.status = true) :
    (statement.set row).status.isOpen = statement.epoch.getD row.status.isOpen := by
  cases statement with
  | markProcessing id =>
      have opened : row.status.isOpen = true := guarded
      simp only [epoch, Option.getD_none, opened]
      rfl
  | applyDeliveryStatus params =>
      obtain ⟨id, update⟩ := issued
      cases update with
      | sent eventAt => rfl
      | delivered eventAt => rfl
      | @failure status failed error eventAt =>
          cases status <;> simp [isDeliveryFailureStatus, deliveryFailureStatuses] at failed <;> rfl
  | _ => rfl

namespace Service

variable {config : Config} {service following : Service} {stages stages' : List Stage}
  {event : Event}

/-- Whether each message has an open epoch after the step. -/
def recordEpochs (service : Service) (event : Event) (following : Service)
    (epochs : MessageId → Bool) (id : MessageId) : Bool :=
  match service.executes event with
  | some (.createQueuedMessage _ _) => epochs id ||
      (service.world.messages.findById id).isNone && (following.world.messages.findById id).isSome
  | some (.update statement) =>
      if statement.messageId = id ∧ service.world.messages.affected statement = true then
        statement.epoch.getD (epochs id)
      else epochs id
  | _ => epochs id

def isOpen (service : Service) (id : MessageId) : Bool :=
  (service.world.messages.findById id).any fun row => row.status.isOpen

theorem Moves.recordEpochs (moves : Moves config service stages event following stages')
    (staged : Staged config stages service) {epochs : MessageId → Bool}
    (opens : ∀ id, epochs id = service.isOpen id) (id : MessageId) :
    recordEpochs service event following epochs id = following.isOpen id := by
  unfold Service.recordEpochs isOpen
  rcases moves.messages staged with ⟨same, noUpdate⟩ | ⟨statement, executed, issued, updated⟩ |
    ⟨fresh, createdAt, key, dto, newId, newKey, executed, inserted⟩
  · rw [same]
    cases executed : service.executes event with
    | none => exact opens id
    | some op =>
        cases op with
        | update statement => exact absurd executed (noUpdate statement)
        | createQueuedMessage key dto =>
            cases found : service.world.messages.findById id <;> simp [opens, isOpen, found]
        | _ => exact opens id
  · rw [executed, updated, opens]
    simp only [isOpen, Table.findById_update, Table.affected]
    cases found : service.world.messages.findById id with
    | none =>
        by_cases same : statement.messageId = id
        · simp [same, found]
        · simp [same]
    | some row =>
        have identified : row.id = id := Table.findById_id found
        by_cases same : statement.messageId = id
        · cases guarded : statement.guard row.status with
          | true =>
              have after := issued.set_isOpen guarded
              simp [same, found, guarded, Update.run, identified, after]
          | false => simp [same, found, guarded, Update.run]
        · have other : id ≠ statement.messageId := fun equal => same equal.symm
          simp [same, Update.run, identified, other]
  · rw [executed, inserted, opens]
    simp only [isOpen, Table.findById_insert]
    by_cases same : id = fresh
    · have absent := Table.findById_eq_none.mpr newId
      subst same
      have created : (queuedMessage id createdAt key dto).id = id := rfl
      rw [created] at absent
      simp [absent, queuedMessage, SmsStatus.isOpen]
    · cases found : service.world.messages.findById id <;> simp [same, queuedMessage]

end Service

namespace Stage

variable {caseMapping : Js.CaseMapping} {stage stage' : Stage} {op : Op}

def isUnclaimed : Stage → Bool
  | dispatching _ => true
  | loaded _ => true
  | _ => false

def isPassed : Stage → Bool
  | skipping _ => true
  | aborted _ => true
  | finished => true
  | _ => false

def isIdle : Op → Bool
  | .sendSms _ _ => false
  | .update _ => false
  | _ => true

theorem unclaimed_next {reply : Except Failure op.Reply}
    (transition : Transition caseMapping stage op reply stage')
    (unclaimed : stage'.isUnclaimed = true) : stage.isUnclaimed = true ∧ isIdle op = true := by
  cases transition with
  | quiet infallible => exact ⟨unclaimed, by cases op <;> simp_all [isIdle, Op.fallible]⟩
  | loaded | unlocked => exact ⟨by simp_all [isUnclaimed], rfl⟩
  | stored => exact ⟨unclaimed, rfl⟩
  | _ => simp [isUnclaimed] at unclaimed

theorem passed_next {reply : Except Failure op.Reply}
    (transition : Transition caseMapping stage op reply stage')
    (passed : stage.isPassed = true) : stage'.isPassed = true ∧ isIdle op = true := by
  cases transition with
  | quiet infallible => exact ⟨passed, by cases op <;> simp_all [isIdle, Op.fallible]⟩
  | stored | unlocked => exact ⟨passed, rfl⟩
  | skipped => exact ⟨rfl, rfl⟩
  | failed _ handles | failedClaim _ handles =>
      rcases handles with ⟨callback, rfl⟩ | ⟨callback, id, rfl⟩ | ⟨id, rfl⟩ <;>
        simp [isPassed] at passed
  | _ => simp [isPassed] at passed

end Stage

namespace Service

variable {config : Config} {service following : Service} {stages stages' : List Stage}
  {event : Event}

def Idle (entry : Entry Op Op.Reply Failure) : Prop :=
  (∀ provider options, entry.op ≠ .sendSms provider options) ∧
    ∀ statement, entry.op = .update statement → entry.effective = false

theorem idle_of_isIdle {entry : Entry Op Op.Reply Failure} (idle : Stage.isIdle entry.op = true) :
    Idle entry := by
  constructor
  · intro provider options same
    simp [same, Stage.isIdle] at idle
  · intro statement same
    simp [same, Stage.isIdle] at idle

def UnclaimedIdle (service : Service) (stages : List Stage) : Prop :=
  ∀ entry ∈ service.history, ∀ stage, stages[entry.pid]? = some stage →
    stage.isUnclaimed = true → Idle entry

def PassedIdle (pid : Nat) (service : Service) (stages : List Stage) : Prop :=
  (∃ stage, stages[pid]? = some stage ∧ stage.isPassed = true) ∧
    ∀ entry ∈ service.history, entry.pid = pid → Idle entry

theorem Moves.unclaimedIdle (moves : Moves config service stages event following stages')
    (staged : Staged config stages service) (idle : UnclaimedIdle service stages) :
    UnclaimedIdle following stages' := by
  intro entry member stage' found' unclaimed
  rcases moves.history with ⟨same, requests, rfl⟩ |
    ⟨pid, choice, stage, op, outcome, after, _, found, _, transition, _, _, history, rfl⟩
  · rw [same] at member
    have below := staged.recorded entry member
    rw [← staged.length] at below
    rw [List.getElem?_append_left below] at found'
    exact idle entry member stage' found' unclaimed
  · rw [history] at member
    rcases List.mem_append.mp member with earlier | new
    · rcases getElem?_set_cases found' with ⟨same, rfl⟩ | ⟨_, kept⟩
      · rw [← same] at found
        exact idle entry earlier stage found (Stage.unclaimed_next transition unclaimed).1
      · exact idle entry earlier stage' kept unclaimed
    · simp only [List.mem_singleton] at new
      subst new
      rcases getElem?_set_cases found' with ⟨_, rfl⟩ | ⟨different, _⟩
      · exact idle_of_isIdle (Stage.unclaimed_next transition unclaimed).2
      · exact absurd rfl different

theorem Moves.passedIdle (moves : Moves config service stages event following stages') {pid : Nat}
    (passed : PassedIdle pid service stages) : PassedIdle pid following stages' := by
  obtain ⟨⟨before, staged, isPassed⟩, idle⟩ := passed
  rcases moves.history with ⟨same, requests, rfl⟩ |
    ⟨other, choice, stage, op, outcome, stage', _, found, _, transition, _, _, history, rfl⟩
  · have below := (List.getElem?_eq_some_iff.mp staged).1
    refine ⟨⟨before, by rw [List.getElem?_append_left below, staged], isPassed⟩, ?_⟩
    rw [same]
    exact idle
  · by_cases same : other = pid
    · subst same
      rw [staged] at found
      simp only [Option.some.injEq] at found
      subst found
      obtain ⟨isPassed', isIdle⟩ := Stage.passed_next transition isPassed
      have below := (List.getElem?_eq_some_iff.mp staged).1
      refine ⟨⟨stage', by simp [below], isPassed'⟩, ?_⟩
      intro entry member byPid
      rw [history] at member
      rcases List.mem_append.mp member with earlier | new
      · exact idle entry earlier byPid
      · simp only [List.mem_singleton] at new
        subst new
        exact idle_of_isIdle isIdle
    · refine ⟨⟨before, by simp [same, staged], isPassed⟩, ?_⟩
      intro entry member byPid
      rw [history] at member
      rcases List.mem_append.mp member with earlier | new
      · exact idle entry earlier byPid
      · simp only [List.mem_singleton] at new
        subst new
        exact absurd byPid same

abbrev observeEpochs (config : Config) :=
  observe (step config) recordEpochs

theorem epochs_observed {epochs : MessageId → Bool}
    (reaches : Reaches (observeEpochs config) (fun _ _ => True) (initial, fun _ => false)
      (service, epochs)) :
    ∃ stages, Staged config stages service ∧ UnclaimedIdle service stages ∧
      ∀ id, epochs id = service.isOpen id := by
  refine reaches.invariant (fun observed => ∃ stages, Staged config stages observed.1 ∧
    UnclaimedIdle observed.1 stages ∧ ∀ id, observed.2 id = observed.1.isOpen id) ?_ ?_
  · exact ⟨[], initial_staged, by simp [UnclaimedIdle, initial], fun id => rfl⟩
  · rintro ⟨service, epochs⟩ event observed ⟨stages, staged, idle, opens⟩ _ moved
    obtain ⟨following, stepped, rfl⟩ := Option.map_eq_some_iff.mp moved
    obtain ⟨stages', moves, staged'⟩ := step_moves staged stepped
    exact ⟨stages', staged', moves.unclaimedIdle staged idle, moves.recordEpochs staged opens⟩

theorem Staged.pass {pid : Nat} {id : MessageId} {choice : Choice}
    (staged : Staged config stages service) (idle : UnclaimedIdle service stages)
    (awaits : service.awaits pid = some (.update (.markProcessing id)))
    (closed : service.isOpen id = false)
    (stepped : step config service (.resume pid choice) = some following) :
    (∀ other, following.world.messages.findById other = service.world.messages.findById other) ∧
      ∃ stages', Staged config stages' following ∧ PassedIdle pid following stages' := by
  obtain ⟨stages', moves, staged'⟩ := step_moves staged stepped
  have unaffected : service.world.messages.affected (.markProcessing id) = false := by
    unfold isOpen at closed
    unfold Table.affected
    cases found : service.world.messages.findById (Update.markProcessing id).messageId with
    | none => rfl
    | some row =>
        rw [show (Update.markProcessing id).messageId = id from rfl] at found
        have opened : row.status.isOpen = false := by simpa [found] using closed
        exact opened
  cases moves with
  | @resume _ _ stage stage' op outcome _ found awaits' allowed transition executed world history _ =>
      rw [awaits] at awaits'
      simp only [Option.some.injEq] at awaits'
      subst awaits'
      have loaded : stage = .loaded id := allowed
      subst loaded
      have below := (List.getElem?_eq_some_iff.mp found).1
      have effect : (∀ other, outcome.world.messages.findById other =
          service.world.messages.findById other) ∧ outcome.effective = false ∧
            stage'.isPassed = true := by
        rcases World.exec_update executed with ⟨same, effective, _, message, reply⟩ |
          ⟨same, effective, reply⟩
        · refine ⟨by simp [same], effective, ?_⟩
          rw [reply] at transition
          cases transition with
          | quiet infallible => simp [Op.fallible] at infallible
          | claimFailed => rfl
          | failed => rfl
          | failedClaim _ handles => simp [Stage.Handles] at handles
        · refine ⟨fun other => by rw [same, Table.update_of_not_affected unaffected],
            effective.trans unaffected, ?_⟩
          rcases reply with ⟨_, reply⟩ | ⟨_, message, reply⟩
          · rw [reply, unaffected] at transition
            cases transition with
            | quiet infallible => simp [Op.fallible] at infallible
            | notClaimed => rfl
          · rw [reply] at transition
            cases transition with
            | quiet infallible => simp [Op.fallible] at infallible
            | claimFailed => rfl
            | failed => rfl
            | failedClaim _ handles => simp [Stage.Handles] at handles
      obtain ⟨same, effective, passed⟩ := effect
      refine ⟨by rw [world]; exact same, _, staged', ⟨stage', by simp [below], passed⟩, ?_⟩
      intro entry member byPid
      rw [history] at member
      rcases List.mem_append.mp member with earlier | new
      · subst byPid
        exact idle entry earlier _ found rfl
      · simp only [List.mem_singleton] at new
        subst new
        exact ⟨by simp, fun _ _ => effective⟩

/-- A message is `QUEUED` or `PROCESSING` exactly while its epoch is open, so a successful claim
falls into an open epoch. A dispatch that claims in a closed one leaves the table as it is, calls no
provider and changes no row, before its claim and ever after. -/
theorem claims_in_open_epochs {epochs : MessageId → Bool}
    (reaches : Reaches (observeEpochs config) (fun _ _ => True) (initial, fun _ => false)
      (service, epochs)) :
    (∀ id, epochs id = true ↔ ∃ row, service.world.messages.findById id = some row ∧
      (row.status = .queued ∨ row.status = .processing)) ∧
    (∀ id choice outcome,
      service.world.exec (.update (.markProcessing id)) choice = some outcome →
        outcome.reply = .ok true → epochs id = true) ∧
    ∀ pid id choice following, service.awaits pid = some (.update (.markProcessing id)) →
      epochs id = false → step config service (.resume pid choice) = some following →
      (∀ other,
        following.world.messages.findById other = service.world.messages.findById other) ∧
      ∀ final, Reaches (step config) (fun _ _ => True) following final →
        ∀ entry ∈ final.history, entry.pid = pid →
          (∀ provider options, entry.op ≠ .sendSms provider options) ∧
            ∀ statement, entry.op = .update statement → entry.effective = false := by
  obtain ⟨stages, staged, idle, opens⟩ := epochs_observed reaches
  refine ⟨?_, ?_, ?_⟩
  · intro id
    rw [opens]
    simp [isOpen, SmsStatus.isOpen, Option.any_eq_true]
  · intro id choice outcome executed answered
    rw [opens, isOpen]
    rcases World.exec_update executed with ⟨_, _, _, _, reply⟩ | ⟨_, _, reply⟩
    · simp [answered] at reply
    · simp only [answered, Except.ok.injEq, reduceCtorEq, exists_false, and_false, or_false,
        Table.affected, Update.messageId] at reply
      cases found : service.world.messages.findById id with
      | none => simp [found] at reply
      | some row =>
          rw [found] at reply
          exact reply.2.symm
  · intro pid id choice following awaits closed stepped
    rw [opens] at closed
    obtain ⟨same, stages', staged', passed⟩ := staged.pass idle awaits closed stepped
    refine ⟨same, ?_⟩
    intro final later entry member byPid
    obtain ⟨_, _, _, idle'⟩ := invariant_from (PassedIdle pid) later staged' passed
      (fun _ _ _ _ _ _ passed _ moves => moves.passedIdle passed)
    exact idle' entry member byPid

/-- Two executions of one job overlap, and the second attempts its claim after the first has sent. -/
theorem claims_in_open_epochs_closed : ∃ service epochs,
    Reaches (observeEpochs (.defaults ["twilio"])) (fun _ _ => True) (initial, fun _ => false)
      (service, epochs) ∧
    service.awaits 2 = some (.update (.markProcessing 0)) ∧ epochs 0 = false ∧
    ∀ final following, step (.defaults ["twilio"]) service (.resume 2 (.answered {})) =
        some following →
      Reaches (step (.defaults ["twilio"])) (fun _ _ => True) following final →
      ∀ entry ∈ final.history, entry.pid = 2 → Idle entry := by
  obtain ⟨⟨service, epochs⟩, reaches, found⟩ := execute_exists
    (observeEpochs (.defaults ["twilio"])) (fun _ _ => True) (initial, fun _ => false)
    ([Event.sends "key"] ++
      Event.answers 0 8 ++ [.execute 0] ++ Event.answers 1 4 ++ [.stall 0, .execute 0] ++
      Event.answers 2 1 ++ [Event.accepts 1 "SM1"] ++ Event.answers 1 2)
    (fun observed => observed.1.awaits 2 = some (.update (.markProcessing 0)) &&
      !observed.2 0)
    (by decide)
  simp only [Bool.and_eq_true, decide_eq_true_eq, Bool.not_eq_true'] at found
  obtain ⟨awaits, closed⟩ := found
  refine ⟨service, epochs, reaches, awaits, closed, ?_⟩
  intro final following stepped later
  exact ((claims_in_open_epochs reaches).2.2 2 0 _ following awaits closed stepped).2 final later

end Service

end SmsNotification
