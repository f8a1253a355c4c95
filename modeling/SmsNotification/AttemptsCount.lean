import SmsNotification.AtMostOnce

/-!
The column `attempts` against the calls that were made. Every increment is spent on a call, is held
by a dispatch on its way to one, or is wasted: its own reply is lost, or the throttle that follows
rejects.
-/

namespace SmsNotification

open Concurrency

def Op.isCountOf (id : MessageId) : Op → Bool
  | .update (.incrementAttempts other) => other = id
  | _ => false

def Op.isSendOf (id : MessageId) : Op → Bool
  | .sendSms _ options => options.referenceId = id
  | _ => false

/-- The operation leaves an increment without its call: an increment whose reply is lost, or a
throttle that rejects. -/
def wastesIncrement (effective : Bool) : (op : Op) → Except Failure op.Reply → Bool
  | .update (.incrementAttempts _), .error _ => effective
  | .throttle _, .error _ => true
  | _, _ => false

def World.attemptsOf (world : World) (id : MessageId) : Nat :=
  ((world.messages.findById id).map SmsMessage.attempts).getD 0

namespace Stage

variable {caseMapping : Js.CaseMapping} {stage stage' : Stage} {op : Op} {id : MessageId}

/-- An increment was made for a call that is still to come. -/
def isCounted (id : MessageId) : Stage → Bool
  | counted other => other = id
  | throttled other => other = id
  | _ => false

theorem initial_counted (stage : Stage) (initial : stage.isInitial = true) :
    stage.isCounted id = false := by
  cases stage <;> simp_all [isInitial, isCounted]

theorem counted_next {world : World} {choice : Choice} {outcome : World.Outcome op} {request : Call}
    (transition : Transition caseMapping stage op outcome.reply stage')
    (serves : stage.Serves caseMapping request) (executed : world.exec op choice = some outcome)
    (present : stage.isCommitted id = true → ∃ row, world.messages.findById id = some row) :
    (if outcome.effective && op.isCountOf id then 1 else 0) + (if stage.isCounted id then 1 else 0) =
      (if stage'.isCounted id then 1 else 0) + (if op.isSendOf id then 1 else 0) +
        if request = .dispatch id ∧ wastesIncrement outcome.effective op outcome.reply = true
          then 1 else 0 := by
  generalize answer : outcome.reply = reply at transition ⊢
  cases transition with
  | quiet infallible => cases op <;> simp_all [Op.isCountOf, Op.isSendOf, wastesIncrement, Op.fallible]
  | stored source =>
      rcases source with rfl | rfl <;>
        simp [isCounted, Op.isCountOf, Op.isSendOf, wastesIncrement]
  | unlocked => simp [Op.isCountOf, Op.isSendOf, wastesIncrement]
  | failed allowed handles | failedClaim allowed handles =>
      have uncounted : stage.isCounted id = false := by
        rcases handles with ⟨_, rfl⟩ | ⟨_, _, rfl⟩ | ⟨_, rfl⟩ <;> rfl
      rw [uncounted]
      rcases handles.operation allowed with ⟨_, rfl⟩ | ⟨_, _, rfl⟩ | ⟨_, rfl⟩ | infallible
      · simp [isCounted, Op.isCountOf, Op.isSendOf, wastesIncrement]
      · simp [isCounted, Op.isCountOf, Op.isSendOf, wastesIncrement]
      · simp [isCounted, Op.isCountOf, Op.isSendOf, wastesIncrement]
      · cases op <;> simp_all [isCounted, Op.isCountOf, Op.isSendOf, wastesIncrement, Op.fallible]
  | @counted other affected =>
      by_cases same : other = id
      · subst same
        obtain ⟨row, found⟩ := present (by simp [isCommitted])
        have effective : outcome.effective = true := by
          rcases World.exec_update executed with ⟨_, _, _, _, rejected⟩ | ⟨_, effective, _⟩
          · simp [rejected] at answer
          · simpa [Table.affected, Update.messageId, found, Update.guard] using effective
        simp [effective, isCounted, Op.isCountOf, Op.isSendOf, wastesIncrement]
      · simp [same, isCounted, Op.isCountOf, Op.isSendOf, wastesIncrement]
  | @countFailed other error =>
      have called : request = .dispatch other := serves
      by_cases same : other = id
      · simp [same, called, isCounted, Op.isCountOf, Op.isSendOf, wastesIncrement]
      · simp [same, called, isCounted, Op.isCountOf, Op.isSendOf, wastesIncrement]
  | @throttled other provider =>
      have called : request = .dispatch other := serves
      simp [isCounted, Op.isCountOf, Op.isSendOf, wastesIncrement]
  | @throttleFailed other provider error =>
      have called : request = .dispatch other := serves
      simp [isCounted, Op.isCountOf, Op.isSendOf, wastesIncrement, called]
  | accepted same | notAccepted same =>
      simp [isCounted, Op.isCountOf, Op.isSendOf, wastesIncrement, same]
  | _ => simp [isCounted, Op.isCountOf, Op.isSendOf, wastesIncrement]

end Stage

namespace World

variable {world : World} {op : Op} {choice : Choice} {outcome : World.Outcome op} {id : MessageId}

theorem attemptsOf_update (statement : Update) :
    attemptsOf { world with messages := world.messages.update statement } id =
      world.attemptsOf id +
        if world.messages.affected statement && Op.isCountOf id (.update statement) then 1 else 0 := by
  by_cases counts : statement = .incrementAttempts id
  · subst counts
    cases found : world.messages.findById id with
    | none => simp [attemptsOf, Table.findById_update, Table.affected, Update.messageId, found]
    | some row =>
        have identified : row.id = id := Table.findById_id found
        simp [attemptsOf, Table.findById_update, Table.affected, Update.messageId, found, Update.run,
          Update.guard, Update.set, identified, Op.isCountOf]
  · have kept : ∀ row : SmsMessage, row.id = id → (statement.run row).attempts = row.attempts := by
      intro row identified
      unfold Update.run
      split
      · rename_i selected
        cases statement with
        | incrementAttempts other => exact absurd (by rw [← identified, selected.1]; rfl) counts
        | _ => rfl
      · rfl
    have other : Op.isCountOf id (.update statement) = false := by
      cases statement <;> simp_all [Op.isCountOf]
    simp only [attemptsOf, Table.findById_update, other, Bool.and_false, Bool.false_eq_true, if_false,
      Nat.add_zero]
    cases found : world.messages.findById id with
    | none => rfl
    | some row => simp [kept row (Table.findById_id found)]

theorem exec_attemptsOf (executed : world.exec op choice = some outcome) :
    outcome.world.attemptsOf id = world.attemptsOf id +
      if outcome.effective && op.isCountOf id then 1 else 0 := by
  cases op with
  | update statement =>
      rcases exec_update executed with ⟨same, effective, _⟩ | ⟨same, effective, _⟩
      · simp [same, effective]
      · rw [same, effective]
        exact attemptsOf_update statement
  | createQueuedMessage key dto =>
      rcases exec_createQueuedMessage executed with ⟨same, _⟩ | ⟨_, _, newId, newKey, same, _⟩
      · simp [same, Op.isCountOf]
      · rw [same]
        simp only [attemptsOf, Table.findById_insert, Op.isCountOf]
        split
        · rename_i fresh
          have absent := Table.findById_eq_none.mpr newId
          rw [fresh, absent]
          simp [queuedMessage]
        · simp
  | _ =>
      have same := exec_messages_other executed (by simp) (by simp)
      simp [attemptsOf, same, Op.isCountOf]

end World

namespace Service

variable {config : Config} {service following : Service} {stages stages' : List Stage}
  {event : Event} {id : MessageId}

def sends (service : Service) (id : MessageId) : Nat :=
  service.history.countP fun entry => entry.op.isSendOf id

def wastes (service : Service) (id : MessageId) (entry : Entry Op Op.Reply Failure) : Prop :=
  service.call entry.pid = some (.dispatch id) ∧
    wastesIncrement entry.effective entry.op entry.reply = true

instance (service : Service) (id : MessageId) (entry : Entry Op Op.Reply Failure) :
    Decidable (service.wastes id entry) :=
  inferInstanceAs (Decidable (_ ∧ _))

/-- No dispatch of the message is between two of its steps. -/
def AtRest (service : Service) (id : MessageId) : Prop :=
  ∀ pid, service.call pid = some (.dispatch id) →
    service.trace pid = [] ∨ (service.result pid).isSome = true

def wasted (service : Service) (id : MessageId) : Nat :=
  service.history.countP fun entry => service.wastes id entry

structure Counts (id : MessageId) (service : Service) (stages : List Stage) : Prop where
  present : ∀ (pid : Nat) (stage : Stage), stages[pid]? = some stage →
    stage.isCommitted id = true → ∃ row, service.world.messages.findById id = some row
  balance : service.world.attemptsOf id =
    stages.countP (Stage.isCounted id) + service.sends id + service.wasted id

theorem Moves.wasted (moves : Moves config service stages event following stages')
    (staged : Staged config stages service) {new : List (Entry Op Op.Reply Failure)}
    (history : following.history = service.history ++ new) :
    following.wasted id = service.wasted id + new.countP fun entry => following.wastes id entry := by
  rw [Service.wasted, history, List.countP_append, Service.wasted]
  congr 1
  refine List.countP_congr fun entry recorded => ?_
  have kept := moves.keeps_call (staged.recorded entry recorded)
  simp only [decide_eq_true_eq]
  simp only [wastes, kept]

theorem Moves.messages_idle (moves : Moves config service stages event following stages')
    (idle : following.history = service.history) :
    following.world.messages = service.world.messages := by
  cases moves with
  | resume _ _ _ _ _ _ history => simp [history] at idle
  | _ => rfl

theorem Moves.counts (moves : Moves config service stages event following stages')
    (staged : Staged config stages service) (counts : Counts id service stages) :
    Counts id following stages' := by
  refine { present := fun _ _ found committed => moves.present staged counts.present found committed,
           balance := ?_ }
  have before := counts.balance
  rcases moves.history with ⟨same, requests, rfl⟩ |
    ⟨pid, choice, stage, op, outcome, stage', _, found, _, transition, executed, world, history, rfl⟩
  · have attempts : following.world.attemptsOf id = service.world.attemptsOf id := by
      rw [World.attemptsOf, moves.messages_idle same, World.attemptsOf]
    have wasted : following.wasted id = service.wasted id := by
      rw [moves.wasted staged (same.trans (List.append_nil _).symm)]
      rfl
    rw [attempts, wasted, sends, same, ← sends, List.countP_append,
      Stage.countP_start Stage.initial_counted]
    exact before
  · obtain ⟨request, called, serves⟩ := staged.call found
    have next := Stage.counted_next transition serves executed (counts.present pid stage found)
    have moved := countP_set_add (y := stage') (Stage.isCounted id) found
    have below : pid < service.processes.length := by
      rw [← staged.length]
      exact (List.getElem?_eq_some_iff.mp found).1
    have wasted : following.wasted id = service.wasted id +
        if request = .dispatch id ∧ wastesIncrement outcome.effective op outcome.reply = true
          then 1 else 0 := by
      have sameCall : following.call pid = some request := (moves.keeps_call below).trans called
      rw [moves.wasted staged history, List.countP_singleton]
      simp [wastes, sameCall]
    have sent : following.sends id = service.sends id + if op.isSendOf id then 1 else 0 := by
      rw [sends, history, List.countP_append, List.countP_singleton, ← sends]
    rw [world, World.exec_attemptsOf executed, wasted, sent]
    omega

theorem AtRest.uncounted (rests : service.AtRest id) (staged : Staged config stages service)
    (started : Started service stages) :
    stages.countP (Stage.isCounted id) = 0 := by
  rw [List.countP_eq_zero]
  intro stage member counted
  obtain ⟨pid, found⟩ := List.mem_iff_getElem?.mp member
  obtain ⟨request, called, serves⟩ := staged.call found
  have dispatches : request = .dispatch id := by
    cases stage <;> simp only [Stage.isCounted, decide_eq_true_eq, Bool.false_eq_true] at counted <;>
      subst counted <;> exact serves
  subst dispatches
  rcases rests pid called with idle | settled
  · have initial : stage.isCounted id = false :=
      Stage.initial_counted stage (started pid stage found idle)
    simp [initial] at counted
  · obtain ⟨result, settled⟩ := Option.isSome_iff_exists.mp settled
    obtain ⟨other, stage', called', found', settles⟩ := staged.result settled
    rw [called, Option.some.injEq] at called'
    rw [found, Option.some.injEq] at found'
    subst called' found'
    cases result with
    | ok answer =>
        obtain rfl := settles
        simp [Stage.isCounted] at counted
    | error error => rcases settles with rfl | rfl <;> simp [Stage.isCounted] at counted

/-- While no dispatch of the message is under way, `attempts` counts the calls made for it exactly
when no increment was wasted. -/
theorem attempts_count_iff {row : SmsMessage}
    (reaches : Reaches (step config) (fun _ _ => True) initial service) (rests : service.AtRest id)
    (found : service.world.messages.findById id = some row) :
    row.attempts = service.sends id ↔ ∀ entry ∈ service.history, ¬ service.wastes id entry := by
  obtain ⟨stages, staged, counts, started⟩ := invariant
    (fun service stages => Counts id service stages ∧ Started service stages) reaches
    ⟨{ present := by simp, balance := rfl }, by simp [Started, Traced]⟩
    (fun _ _ _ _ _ staged holding _ moves =>
      ⟨moves.counts staged holding.1, moves.started staged holding.2⟩)
  have balance := counts.balance
  rw [World.attemptsOf, found, rests.uncounted staged started] at balance
  have none : service.wasted id = 0 ↔ ∀ entry ∈ service.history, ¬ service.wastes id entry := by
    simp [Service.wasted, List.countP_eq_zero]
  rw [← none]
  constructor
  · intro counted
    simp only [Option.map_some, Option.getD_some] at balance
    omega
  · intro unwasted
    simp only [Option.map_some, Option.getD_some] at balance
    omega

def settledDispatches (service : Service) (id : MessageId) : Bool :=
  service.processes.all fun process =>
    process.tag ≠ .dispatch id || process.program.result.isSome

theorem atRest_of_settled (settled : service.settledDispatches id = true) : service.AtRest id := by
  intro pid called
  obtain ⟨process, found, same⟩ := Option.map_eq_some_iff.mp called
  have all := List.all_eq_true.mp settled process (List.mem_of_getElem? found)
  right
  simpa [result, found, same] using all

/-- A message that is sent by its first call. -/
theorem attempts_count_iff_sent : ∃ service row,
    Reaches (step (.defaults ["twilio"])) (fun _ _ => True) initial service ∧
    service.world.messages.findById 0 = some row ∧ row.attempts = service.sends 0 ∧
    service.sends 0 = 1 := by
  obtain ⟨service, reaches, found⟩ := execute_exists (step (.defaults ["twilio"])) (fun _ _ => True)
    initial ([Event.sends "key"] ++ Event.answers 0 8 ++ [.execute 0] ++ Event.answers 1 4 ++
      [Event.accepts 1 "SM1"] ++ Event.answers 1 2)
    (fun service => service.settledDispatches 0 && service.sends 0 == 1 &&
      (service.world.messages.findById 0).isSome && service.history.all fun entry =>
        !decide (service.wastes 0 entry))
    (by decide)
  simp only [Bool.and_eq_true, beq_iff_eq, List.all_eq_true, Bool.not_eq_true',
    decide_eq_false_iff_not, Option.isSome_iff_exists] at found
  obtain ⟨⟨⟨settled, sent⟩, row, present⟩, unwasted⟩ := found
  exact ⟨service, row, reaches, present,
    (attempts_count_iff reaches (atRest_of_settled settled) present).mpr unwasted, sent⟩

/-- The throttle rejects after the increment, and no call is made. -/
theorem attempt_uncalled : ∃ service row,
    Reaches (step (.defaults ["twilio"])) (fun _ _ => True) initial service ∧ service.AtRest 0 ∧
    service.world.messages.findById 0 = some row ∧ row.attempts = 1 ∧ service.sends 0 = 0 := by
  obtain ⟨service, reaches, found⟩ := execute_exists (step (.defaults ["twilio"])) (fun _ _ => True)
    initial ([Event.sends "key"] ++ Event.answers 0 8 ++ [.execute 0] ++ Event.answers 1 3 ++
      [.resume 1 (.rejected none), .settle 0])
    (fun service => service.settledDispatches 0 && service.sends 0 == 0 &&
      (service.world.messages.findById 0).any fun row => row.attempts == 1)
    (by decide)
  simp only [Bool.and_eq_true, beq_iff_eq, Option.any_eq_true] at found
  obtain ⟨⟨settled, unsent⟩, row, present, counted⟩ := found
  exact ⟨service, row, reaches, atRest_of_settled settled, present, counted, unsent⟩

end Service

end SmsNotification
