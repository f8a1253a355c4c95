import SmsNotification.AttemptsCount
import SmsNotification.ProviderBounds
import SmsNotification.Stranding

/-!
How often all executions of one job call the providers. One execution keeps within its limit, and it
hands the message on to be sent again only if it rejects after a call while the row is still open.
Without such a rejection a single execution makes all the calls.
-/

namespace SmsNotification

open Concurrency

namespace Stage

variable {caseMapping : Js.CaseMapping} {stage stage' : Stage} {op : Op} {id : MessageId}

theorem committed_upholds (committed : stage.isCommitted id = true) :
    stage.upholds id true = true := by
  cases stage <;> simp_all [isCommitted, upholds]

theorem upholds_committed (upholds : stage.upholds id true = true) :
    stage.isCommitted id = true ∨ stage = .dispatching id := by
  cases stage <;> simp_all [isCommitted, Stage.upholds]

theorem send_next {reply : Except Failure op.Reply}
    (transition : Transition caseMapping stage op reply stage') (sends : op.isSendOf id = true) :
    stage = .throttled id ∧ stage'.isCommitted id = true := by
  cases transition with
  | quiet infallible => cases op <;> simp [Op.fallible, Op.isSendOf] at infallible sends
  | accepted same | notAccepted same =>
      simp only [Op.isSendOf, decide_eq_true_eq] at sends
      rw [← same, sends]
      simp [isCommitted]
  | failed allowed handles | failedClaim allowed handles =>
      rcases handles.operation allowed with ⟨_, rfl⟩ | ⟨_, _, rfl⟩ | ⟨_, rfl⟩ | infallible
      · simp [Op.isSendOf] at sends
      · simp [Op.isSendOf] at sends
      · simp [Op.isSendOf] at sends
      · cases op <;> simp [Op.fallible, Op.isSendOf] at infallible sends
  | _ => simp [Op.isSendOf] at sends

end Stage

namespace Service

variable {config : Config} {service following : Service} {stages stages' : List Stage}
  {event : Event} {id : MessageId} {pid : Nat}

def reopens (id : MessageId) (service : Service) (event : Event) : Bool :=
  service.executes event = some (.update (.transitionFatalFailureToQueued id)) &&
    service.world.messages.affected (.transitionFatalFailureToQueued id)

/-- The runs of one job of the message: its executions do not overlap, and no requeue opens the
message for another one. -/
def runsOneJob (id : MessageId) (service : Service) (event : Event) : Bool :=
  !service.reopens id event && match event with
    | .execute index => service.world.jobs[index]?.all fun job => job.messageId ≠ id ||
        service.processes.all fun process =>
          process.tag ≠ .dispatch id || process.program.result.isSome
    | _ => true

/-- An execution that has called a provider for the message rejects while the row is open. -/
def resends (id : MessageId) (service : Service) : Event → Bool
  | .resume pid choice => match service.awaits pid with
      | some op => (service.trace pid).any (fun entry => entry.op.isSendOf id) &&
          service.isOpen id && Stage.abandons true choice op
      | none => false
  | _ => false

/-- All calls for the message were made by `pid`, and only that dispatch may make more. -/
structure Sole (id : MessageId) (service : Service) (stages : List Stage) (pid : Nat) : Prop where
  called : service.call pid = some (.dispatch id)
  sent : ∃ entry ∈ service.trace pid, entry.op.isSendOf id = true
  sends : ∀ entry ∈ service.history, entry.op.isSendOf id = true → entry.pid = pid
  present : ∃ row, service.world.messages.findById id = some row
  commits : ∀ (other : Nat) (stage : Stage), stages[other]? = some stage →
    stage.isCommitted id = true → other = pid
  holds : service.world.messages.Closed id ∨
    ∃ stage, stages[pid]? = some stage ∧ stage.isCommitted id = true

structure OneSender (id : MessageId) (service : Service) (stages : List Stage) : Prop where
  armed : stages.countP (Stage.isArmed id) ≤ 1
  present : ∀ (pid : Nat) (stage : Stage), stages[pid]? = some stage →
    stage.isCommitted id = true → ∃ row, service.world.messages.findById id = some row
  sole : service.sends id = 0 ∨ ∃ pid, Sole id service stages pid

theorem Moves.keeps_closed (moves : Moves config service stages event following stages')
    (staged : Staged config stages service) (kept : service.reopens id event = false)
    (present : ∃ row, service.world.messages.findById id = some row)
    (closed : service.world.messages.Closed id) : following.world.messages.Closed id := by
  by_contra opened
  rcases moves.opens staged closed opened with ⟨executed, affected⟩ | ⟨_, _, _, absent⟩
  · have reopened : service.reopens id event = true := by simp [reopens, executed, affected]
    simp [kept] at reopened
  · obtain ⟨row, found⟩ := present
    simp [found] at absent

theorem Sole.commits_step (sole : Sole id service stages pid)
    (once : stages.countP (Stage.isArmed id) ≤ 1)
    (moves : Moves config service stages event following stages') {other : Nat} {stage' : Stage}
    (found' : stages'[other]? = some stage') (committed : stage'.isCommitted id = true) :
    other = pid := by
  rcases moves.history with ⟨_, requests, rfl⟩ |
    ⟨resumed, choice, stage, op, outcome, after, _, found, _, transition, executed, _, _, rfl⟩
  · rw [List.getElem?_append] at found'
    split at found'
    · exact sole.commits other stage' found' committed
    · obtain ⟨request, _, rfl⟩ := List.mem_map.mp (List.mem_of_getElem? found')
      have idle : (Stage.start config.caseMapping request).isCommitted id = false :=
        Stage.initial_committed _ (Stage.start_isInitial config.caseMapping request)
      simp [idle] at committed
  · rcases getElem?_set_cases found' with ⟨rfl, rfl⟩ | ⟨_, kept⟩
    · rcases Stage.committed_next transition committed with before | finds
      · exact sole.commits other stage found before
      · obtain ⟨row, present, opened⟩ := FindsOpen.row executed finds
        rcases sole.holds with closed | ⟨sender, here, committed'⟩
        · have shut := closed row present
          simp [opened] at shut
        · have armed := Stage.armed_next transition (Stage.committed_armed committed)
          exact position_unique once found here armed (Stage.committed_armed committed')
    · exact sole.commits other stage' kept committed

theorem Sole.holds_step (sole : Sole id service stages pid)
    (moves : Moves config service stages event following stages')
    (staged : Staged config stages service) (single : service.reopens id event = false)
    (kept : service.resends id event = false) : following.world.messages.Closed id ∨
      ∃ stage, stages'[pid]? = some stage ∧ stage.isCommitted id = true := by
  rcases sole.holds with closed | ⟨stage, here, committed⟩
  · exact Or.inl (moves.keeps_closed staged single sole.present closed)
  rcases moves.history with ⟨_, requests, rfl⟩ |
    ⟨resumed, choice, before, op, outcome, after, rfl, found, awaits, transition, executed, world,
      _, rfl⟩
  · have below := (List.getElem?_eq_some_iff.mp here).1
    exact Or.inr ⟨stage, by rw [List.getElem?_append_left below]; exact here, committed⟩
  · by_cases own : resumed = pid
    · subst own
      rw [found, Option.some.injEq] at here
      subst here
      have below := (List.getElem?_eq_some_iff.mp found).1
      have undispatched : ∀ other, before ≠ .dispatching other := by
        rintro other rfl
        simp [Stage.isCommitted] at committed
      rcases Stage.upholds_next transition executed (Stage.committed_upholds committed) with
        upholds | closed | ⟨_, abandons⟩
      · rcases Stage.upholds_committed upholds with still | rfl
        · exact Or.inr ⟨after, by simp [below], still⟩
        · exact absurd (Stage.dispatching_next transition).1 (undispatched id)
      · exact Or.inl (by rw [world]; exact closed)
      · left
        have abandoned : Stage.abandons true choice op = true :=
          abandons true fun same => absurd same (undispatched id)
        have called : (service.trace resumed).any (fun entry => entry.op.isSendOf id) = true :=
          List.any_eq_true.mpr sole.sent
        have closed : service.isOpen id = false := by
          simpa [resends, awaits, called, abandoned] using kept
        refine moves.keeps_closed staged single sole.present ?_
        by_contra opened
        simp [isOpen_of_not_closed opened] at closed
    · right
      refine ⟨stage, ?_, committed⟩
      rw [List.getElem?_set_ne own]
      exact here

theorem Sole.step (sole : Sole id service stages pid)
    (once : stages.countP (Stage.isArmed id) ≤ 1)
    (moves : Moves config service stages event following stages')
    (staged : Staged config stages service) (single : service.reopens id event = false)
    (kept : service.resends id event = false) : Sole id following stages' pid := by
  obtain ⟨row, found⟩ := sole.present
  obtain ⟨after, present, _⟩ := moves.keeps_row staged found
  obtain ⟨entry, recorded, sends⟩ := sole.sent
  have member : entry ∈ service.history := (List.mem_filter.mp recorded).1
  have owned : entry.pid = pid := by simpa using (List.mem_filter.mp recorded).2
  have below : pid < service.processes.length := owned ▸ staged.recorded entry member
  refine {
    called := (moves.keeps_call below).trans sole.called
    sent := ⟨entry, List.mem_filter.mpr ⟨moves.keeps_entry member, by simpa using owned⟩, sends⟩
    sends := ?_
    present := ⟨after, present⟩
    commits := fun _ _ found' committed => sole.commits_step once moves found' committed
    holds := sole.holds_step moves staged single kept }
  intro entry recorded sends
  rcases moves.history with ⟨same, _⟩ |
    ⟨resumed, choice, before, op, outcome, after, _, here, _, transition, _, _, history, _⟩
  · rw [same] at recorded
    exact sole.sends entry recorded sends
  · rw [history] at recorded
    rcases List.mem_append.mp recorded with earlier | new
    · exact sole.sends entry earlier sends
    · obtain rfl := List.mem_singleton.mp new
      obtain ⟨rfl, _⟩ := Stage.send_next transition sends
      exact sole.commits resumed _ here (by simp [Stage.isCommitted])

theorem OneSender.first (sender : OneSender id service stages) (none : service.sends id = 0)
    (moves : Moves config service stages event following stages')
    (staged : Staged config stages service) (once : stages'.countP (Stage.isArmed id) ≤ 1) :
    following.sends id = 0 ∨ ∃ pid, Sole id following stages' pid := by
  rcases moves.history with ⟨same, _⟩ |
    ⟨resumed, choice, before, op, outcome, after, _, found, _, transition, _, _, history, rfl⟩
  · left
    rw [sends, same]
    exact none
  by_cases sends : op.isSendOf id = true
  · right
    obtain ⟨rfl, committed⟩ := Stage.send_next transition sends
    obtain ⟨request, called, serves⟩ := staged.call found
    obtain rfl : request = .dispatch id := serves
    obtain ⟨row, present⟩ := sender.present resumed _ found (by simp [Stage.isCommitted])
    obtain ⟨row', present', _⟩ := moves.keeps_row staged present
    have below := (List.getElem?_eq_some_iff.mp found).1
    have here : (stages.set resumed after)[resumed]? = some after := by simp [below]
    refine ⟨resumed, {
      called := (moves.keeps_call (staged.length ▸ below)).trans called
      sent := ⟨⟨resumed, op, outcome.reply, outcome.effective⟩, ?_, sends⟩
      sends := ?_
      present := ⟨row', present'⟩
      commits := ?_
      holds := Or.inr ⟨after, here, committed⟩ }⟩
    · rw [trace, history]
      simp
    · intro entry recorded sends
      rw [history] at recorded
      rcases List.mem_append.mp recorded with earlier | new
      · have silent := List.countP_eq_zero.mp none entry earlier
        exact absurd sends silent
      · rw [List.mem_singleton.mp new]
    · intro other stage found' committed'
      exact position_unique once found' here (Stage.committed_armed committed')
        (Stage.committed_armed committed)
  · left
    rw [Service.sends, history, List.countP_append, ← Service.sends, none]
    simp [sends]

theorem Moves.oneSender (moves : Moves config service stages event following stages')
    (staged : Staged config stages service) (sender : OneSender id service stages)
    (single : service.runsOneJob id event = true) (kept : service.resends id event = false) :
    OneSender id following stages' := by
  simp only [runsOneJob, Bool.and_eq_true, Bool.not_eq_true'] at single
  obtain ⟨unopened, exclusive⟩ := single
  have once : stages'.countP (Stage.isArmed id) ≤ 1 := by
    refine moves.armed staged sender.armed ?_
    rintro index job rfl found rfl
    simpa [found, or_iff_not_imp_left] using exclusive
  refine {
    armed := once
    present := fun _ _ found committed => moves.present staged sender.present found committed
    sole := ?_ }
  rcases sender.sole with none | ⟨pid, sole⟩
  · exact sender.first none moves staged once
  · exact Or.inr ⟨pid, sole.step sender.armed moves staged unopened kept⟩

/-- All executions of one job call the providers no more often than one execution may, if none of
them rejects after a call while the message is still to be sent. -/
theorem job_sends_within (reaches : Reaches (step config) (fun service event =>
      service.runsOneJob id event = true ∧ service.resends id event = false) initial service) :
    service.sends id ≤ config.providers.length * config.maxRetries := by
  obtain ⟨stages, staged, sender⟩ := invariant (OneSender id) reaches
    { armed := by simp, present := by simp, sole := Or.inl rfl }
    (fun _ _ _ _ _ staged sender kept moves => moves.oneSender staged sender kept.1 kept.2)
  rcases sender.sole with none | ⟨pid, sole⟩
  · omega
  · have one : service.sends id ≤ service.sendsTo (fun _ => true) pid := by
      refine List.countP_mono_left ?_
      intro entry recorded sends
      have owned := sole.sends entry recorded sends
      have calls : entry.op.isSendTo (fun _ => true) = true := by
        cases op : entry.op <;> simp [op, Op.isSendOf, Op.isSendTo] at sends ⊢
      simp [owned, calls]
    have within : service.sendsTo (fun _ => true) pid ≤
        config.providers.countP (fun _ => true) * config.maxRetries := sendsTo_le reaches sole.called
    rw [List.countP_true] at within
    exact one.trans within

/-- The throttle rejects before the first call, and the dead letter is rejected after the row was
closed: both times the job is executed again. -/
theorem job_sends_within_retried : ∃ service,
    Reaches (step (.defaults ["twilio"])) (fun service event =>
      service.runsOneJob 0 event = true ∧ service.resends 0 event = false) initial service ∧
    service.call 3 = some (.dispatch 0) ∧ service.sends 0 ≤ 1 * 3 := by
  obtain ⟨service, reaches, found⟩ := execute_exists (step (.defaults ["twilio"]))
    (fun service event => service.runsOneJob 0 event = true ∧ service.resends 0 event = false)
    initial
    ([Event.sends "key"] ++ Event.answers 0 8 ++ [.execute 0] ++ Event.answers 1 3 ++
      [.resume 1 (.rejected none), .settle 0, .execute 0] ++ Event.answers 2 7 ++
      [.resume 2 (.rejected none), .settle 0, .execute 0] ++ Event.answers 3 1)
    (fun service => service.call 3 = some (.dispatch 0))
    (by decide)
  exact ⟨service, reaches, by simpa using found, job_sends_within reaches⟩

/-- Three calls fail, the failure cannot be recorded, and the next execution starts over. -/
theorem job_resends : ∃ service,
    Reaches (step (.defaults ["twilio"])) (fun service event =>
      service.runsOneJob 0 event = true) initial service ∧
    service.sends 0 = 4 ∧ (Config.defaults ["twilio"]).maxRetries = 3 := by
  obtain ⟨service, reaches, found⟩ := execute_exists (step (.defaults ["twilio"]))
    (fun service event => service.runsOneJob 0 event = true) initial
    ([Event.sends "key"] ++ Event.answers 0 8 ++ [.execute 0] ++
      List.replicate 14 (.resume 1 (.answered { sms := { success := false, isRetryable := true } })) ++
      [.resume 1 (.rejected none), .settle 0, .execute 0] ++ Event.answers 2 5)
    (fun service => service.sends 0 == 4)
    (by decide)
  exact ⟨service, reaches, by simpa using found, rfl⟩

end Service

end SmsNotification
