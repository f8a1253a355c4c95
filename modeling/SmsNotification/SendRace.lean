import SmsNotification.Progression

/-!
One dispatch of a message against the callbacks about it. The provider knows the external id before
the row does, so a callback may look for a row that does not carry the id yet and is dropped. The
condition `misses` on a step tells when a callback is dropped that had an outcome to record.
-/

namespace SmsNotification

open Concurrency

def Call.deliveryCallback? (caseMapping : Js.CaseMapping) : Call → Option DeliveryStatusCallback
  | twilio callback => (mapTwilioStatus caseMapping callback.messageStatus).map
      (TwilioWebhookService.deliveryCallback caseMapping callback)
  | bird _ event => (mapBirdEventType caseMapping event.type).map
      (BirdWebhookService.deliveryCallback caseMapping event)
  | _ => none

def Call.reports (provider providerMessageId : String) : Call → Bool
  | twilio callback => provider = "twilio" && callback.messageSid = providerMessageId
  | bird _ event => provider = "bird" && event.smsId = providerMessageId
  | _ => false

namespace DeliveryStatusCallback

def update? (id : MessageId) (clock : Date) (callback : DeliveryStatusCallback) :
    Option ApplyDeliveryStatusParams :=
  match callback.status with
  | .inherited _ => none
  | .status status => (allowedPreviousStatusesFor status).map fun allowedPreviousStatuses =>
      DeliveryStatusService.updateParams id status allowedPreviousStatuses callback.lastError
        (callback.eventAt.getD clock)

def isApplicable (callback : DeliveryStatusCallback) : Bool :=
  match callback.status with
  | .inherited _ => false
  | .status status => (allowedPreviousStatusesFor status).isSome

def isTerminal (callback : DeliveryStatusCallback) : Bool :=
  deliveryTerminalStatuses.any fun status => callback.status = .status status

variable {callback : DeliveryStatusCallback} {id : MessageId} {clock : Date}
  {params : ApplyDeliveryStatusParams}

theorem update?_params (issued : callback.update? id clock = some params) :
    Stage.DeliveryParams callback id params := by
  unfold update? at issued
  split at issued
  · simp at issued
  · rename_i status mapped
    obtain ⟨allowedPreviousStatuses, policy, rfl⟩ := Option.map_eq_some_iff.mp issued
    refine ⟨status, allowedPreviousStatuses, _, mapped, policy, ?_, rfl⟩
    cases callback.eventAt with
    | none => exact Or.inr rfl
    | some eventAt => exact Or.inl rfl

theorem update?_sent (issued : callback.update? id clock = some params)
    (notTerminal : callback.isTerminal = false) : params.status = .sent := by
  unfold update? at issued
  split at issued
  · simp at issued
  · rename_i status mapped
    obtain ⟨allowedPreviousStatuses, policy, rfl⟩ := Option.map_eq_some_iff.mp issued
    have sent : status = .sent := by
      cases status <;> simp [isTerminal, mapped, deliveryTerminalStatuses] at notTerminal
      all_goals first | rfl | cases policy
    subst sent
    rfl

end DeliveryStatusCallback

def decides (pid : Nat) : Entry Op Op.Reply Failure → Bool
  | ⟨other, .update (.applyDeliveryStatus _), _, _⟩ => other = pid
  | ⟨other, .findByProviderMessageId _ _, .ok none, _⟩ => other = pid
  | _ => false

def repeats (pid : Nat) : Entry Op Op.Reply Failure → Bool
  | ⟨other, .claimBirdWebhook _, .ok false, _⟩ => other = pid
  | _ => false

namespace Stage

variable {caseMapping : Js.CaseMapping} {call : Call} {callback : DeliveryStatusCallback}
  {claim : Option String} {provider providerMessageId : String}

theorem Delivers.deliveryCallback? (delivers : Delivers caseMapping call callback claim) :
    call.deliveryCallback? caseMapping = some callback := by
  cases claim with
  | none =>
      obtain ⟨received, status, rfl, mapped, rfl⟩ := delivers
      simp [Call.deliveryCallback?, mapped]
  | some webhookId =>
      obtain ⟨event, status, rfl, mapped, rfl⟩ := delivers
      simp [Call.deliveryCallback?, mapped]

theorem Delivers.reports (delivers : Delivers caseMapping call callback claim)
    (reports : call.reports provider providerMessageId = true) :
    callback.provider = provider ∧ callback.providerMessageId = providerMessageId := by
  cases claim with
  | none =>
      obtain ⟨received, status, rfl, _, rfl⟩ := delivers
      simp only [Call.reports, Bool.and_eq_true, decide_eq_true_eq] at reports
      exact ⟨reports.1.symm, reports.2⟩
  | some webhookId =>
      obtain ⟨event, status, rfl, _, rfl⟩ := delivers
      simp only [Call.reports, Bool.and_eq_true, decide_eq_true_eq] at reports
      exact ⟨reports.1.symm, reports.2⟩

/-- How far the process `pid` has come with its callback, when no call rejects. Before the row is
`marked` no callback resolves. -/
def Handling (caseMapping : Js.CaseMapping) (id : MessageId) (marked : Bool)
    (history : List (Entry Op Op.Reply Failure)) (pid : Nat) (call : Call) : Stage → Prop
  | claiming _ _ | receiving _ _ => True
  | resolved _ _ other => marked = true ∧ other = id
  | duplicate _ => ∃ entry ∈ history, repeats pid entry = true
  | skipped _ _ | processed _ => ∀ callback, call.deliveryCallback? caseMapping = some callback →
      callback.isApplicable = true → ∃ entry ∈ history, decides pid entry = true
  | _ => False

variable {id : MessageId} {marked : Bool} {history : List (Entry Op Op.Reply Failure)} {pid : Nat}
  {stage stage' : Stage} {op : Op}

theorem Handling.mono (handling : Handling caseMapping id marked history pid call stage)
    {later : List (Entry Op Op.Reply Failure)} (grown : ∀ entry ∈ history, entry ∈ later) :
    Handling caseMapping id marked later pid call stage := by
  cases stage with
  | claiming | receiving => trivial
  | resolved => exact handling
  | duplicate =>
      obtain ⟨entry, member, same⟩ := handling
      exact ⟨entry, grown entry member, same⟩
  | skipped | processed =>
      intro callback delivers applicable
      obtain ⟨entry, member, same⟩ := handling callback delivers applicable
      exact ⟨entry, grown entry member, same⟩
  | _ => exact handling.elim

theorem handling_start (reports : call.reports provider providerMessageId = true) :
    Handling caseMapping id marked history pid call (start caseMapping call) := by
  cases call with
  | twilio callback =>
      simp only [start]
      split
      · rename_i unmapped
        intro callback delivers
        simp [Call.deliveryCallback?, unmapped] at delivers
      · trivial
  | bird => trivial
  | _ => simp [Call.reports] at reports

theorem handling_next {reply : Except Failure op.Reply} {effective : Bool}
    (handling : Handling caseMapping id marked history pid call stage)
    (serves : stage.Serves caseMapping call)
    (transition : Transition caseMapping stage op reply stage')
    (answered : ∀ error, reply ≠ .error error)
    (resolves : ∀ claim callback other, stage' = .resolved claim callback other →
      marked = true ∧ other = id) :
    Handling caseMapping id marked (history ++ [⟨pid, op, reply, effective⟩]) pid call stage' := by
  have grown : ∀ entry ∈ history, entry ∈ history ++ [⟨pid, op, reply, effective⟩] :=
    fun _ => List.mem_append_left _
  have last : (⟨pid, op, reply, effective⟩ : Entry Op Op.Reply Failure) ∈
      history ++ [⟨pid, op, reply, effective⟩] :=
    List.mem_append_right _ (List.mem_singleton.mpr rfl)
  cases transition with
  | quiet => exact handling.mono grown
  | stored source =>
      rcases source with rfl | rfl <;> exact handling.elim
  | unlocked allowed =>
      rcases allowed with ⟨_, rfl⟩ | ⟨_, _, rfl⟩ | ⟨_, _, rfl⟩ | rfl <;> exact handling.elim
  | delivery => trivial
  | notDelivery unmapped =>
      obtain rfl := serves
      intro callback delivers
      simp [Call.deliveryCallback?, unmapped] at delivers
  | duplicate => exact ⟨_, last, by simp [repeats]⟩
  | claimRejected | failed | failedClaim => exact absurd rfl (answered _)
  | found => exact resolves _ _ _ rfl
  | notApplicable inapplicable =>
      intro other delivers applicable
      rw [Delivers.deliveryCallback? serves, Option.some.injEq] at delivers
      subst delivers
      unfold DeliveryStatusCallback.isApplicable at applicable
      split at applicable
      · simp at applicable
      · rename_i status mapped
        simp [inapplicable status mapped] at applicable
  | unknown | applied | notApplied => exact fun _ _ _ => ⟨_, last, by simp [decides]⟩
  | classified =>
      intro callback delivers applicable
      exact Handling.mono handling grown callback delivers applicable
  | _ => exact handling.elim

theorem handling_op (handling : Handling caseMapping id marked history pid call stage)
    (serves : stage.Serves caseMapping call)
    (reports : call.reports provider providerMessageId = true) (allowed : stage.Allowed op) :
    (∃ claim callback params, op = .update (.applyDeliveryStatus params) ∧
      stage = .resolved claim callback id ∧ marked = true ∧ DeliveryParams callback id params) ∨
    (∃ claim callback, op = .findByProviderMessageId provider providerMessageId ∧
      stage = .receiving claim callback ∧ call.deliveryCallback? caseMapping = some callback) ∨
    (∀ statement, op ≠ .update statement) ∧ (∀ key dto, op ≠ .createQueuedMessage key dto) ∧
      ∀ provider providerMessageId, op ≠ .findByProviderMessageId provider providerMessageId := by
  cases op with
  | update statement =>
      left
      cases statement with
      | applyDeliveryStatus params =>
          obtain ⟨claim, callback, other, rfl, issued⟩ := allowed
          obtain ⟨marked, rfl⟩ := handling
          exact ⟨claim, callback, params, rfl, rfl, marked, issued⟩
      | markQueuePublishFailed =>
          obtain ⟨key, rfl⟩ := allowed
          exact handling.elim
      | transitionFatalFailureToQueued =>
          obtain ⟨snapshot, rfl, _⟩ := allowed
          exact handling.elim
      | restoreFatalFailure =>
          obtain ⟨snapshot, error, rfl, _⟩ := allowed
          exact handling.elim
      | _ =>
          cases allowed
          exact handling.elim
  | createQueuedMessage key dto =>
      cases allowed
      exact handling.elim
  | findByProviderMessageId askedProvider askedId =>
      obtain ⟨claim, callback, rfl, rfl, rfl⟩ := allowed
      obtain ⟨rfl, rfl⟩ := Delivers.reports serves reports
      exact Or.inr (Or.inl ⟨claim, callback, rfl, rfl, Delivers.deliveryCallback? serves⟩)
  | _ => exact Or.inr (Or.inr ⟨by simp, by simp, by simp⟩)

theorem resolved_next {world : World} {choice : Choice} {outcome : World.Outcome op}
    {other : MessageId}
    (transition : Transition caseMapping stage op outcome.reply (.resolved claim callback other))
    (executed : world.exec op choice = some outcome) :
    stage = .resolved claim callback other ∨ ∃ row,
      world.messages.findById other = some row ∧
        row.selectedProvider = some callback.provider ∧
        row.providerMessageId = some callback.providerMessageId := by
  generalize answer : outcome.reply = reply at transition
  cases transition with
  | quiet | unlocked => exact Or.inl rfl
  | stored source => simp at source
  | found provider external =>
      obtain ⟨found, _⟩ := World.exec_findByProviderMessageId executed answer
      exact Or.inr ⟨_, found, provider, external⟩

theorem Serves.dispatch (serves : stage.Serves caseMapping (.dispatch id)) :
    stage = .dispatching id ∨ stage = .loaded id ∨ stage = .skipping id ∨ stage = .sending id ∨
      stage = .counted id ∨ stage = .throttled id ∨
      (∃ provider providerMessageId, stage = .accepted id provider providerMessageId) ∨
      stage = .dead id ∨ stage = .aborted id ∨ stage = .finished := by
  have noClaim : ∀ {claim : Option String}, ¬ Claims (.dispatch id) claim := by
    rintro (_ | webhookId) ⟨_, same⟩ <;> simp at same
  cases stage with
  | receiving | resolved => exact (noClaim (Delivers.claims serves)).elim
  | skipped | processed => exact (noClaim serves).elim
  | _ => simp_all [Serves]

def isDispatching : Stage → Bool
  | dispatching _ | loaded _ | sending _ | counted _ | throttled _ => true
  | _ => false

end Stage

namespace Service

def dispatching (config : Config) (world : World) (id : MessageId) : Service :=
  { initial with world := world }.spawn (.dispatch id) (Call.program config (.dispatch id))

def issues (provider providerMessageId : String) : Entry Op Op.Reply Failure → Bool
  | ⟨_, .sendSms other _, .ok result, _⟩ => other = provider && result.success &&
      result.providerMessageId = some providerMessageId
  | _ => false

def issued (provider providerMessageId : String) (service : Service) : Bool :=
  service.history.any (issues provider providerMessageId)

/-- The steps of one dispatch and of callbacks that arrive once their external id was issued, none
of whose calls fails. -/
def races (provider providerMessageId : String) (service : Service) : Event → Bool
  | .request call => call.reports provider providerMessageId &&
      service.issued provider providerMessageId
  | .resume _ choice => choice.isAnswered
  | .execute _ => false
  | .settle _ => false
  | .stall _ => false
  | _ => true

/-- Whether the step looks for the message of a callback with an outcome before any row carries
the external id. -/
def misses (config : Config) (provider providerMessageId : String) (service : Service) :
    Event → Bool
  | .resume pid _ => match service.call pid, service.awaits pid with
      | some call, some (.findByProviderMessageId _ _) =>
          (service.world.messages.findByProviderMessageId provider providerMessageId).isEmpty &&
            (call.deliveryCallback? config.caseMapping).any DeliveryStatusCallback.isTerminal
      | _, _ => false
  | _ => false

/-- The update that decides on a callback: the one it executed or, when its lookup found nothing,
the one it would have executed for message `id`. -/
def decision (caseMapping : Js.CaseMapping) (id : MessageId) (clock : Date)
    (calls : Nat → Option Call) : Entry Op Op.Reply Failure → Option ApplyDeliveryStatusParams
  | ⟨_, .update (.applyDeliveryStatus params), _, _⟩ => some params
  | ⟨pid, .findByProviderMessageId _ _, .ok none, _⟩ => do
      let call ← calls pid
      let callback ← call.deliveryCallback? caseMapping
      callback.update? id clock
  | _ => none

/-- The callbacks in the order in which they were handled, as the updates they stand for. -/
def decisions (config : Config) (id : MessageId) (clock : Date) (service : Service) :
    List ApplyDeliveryStatusParams :=
  service.history.filterMap (decision config.caseMapping id clock service.call)

variable {config : Config} {service following : Service} {stages stages' : List Stage}
  {event : Event} {provider providerMessageId : String} {id : MessageId} {clock : Date}
  {row : SmsMessage}

def Carried (provider providerMessageId : String) (carrier : Option MessageId) (table : Table) :
    Prop :=
  ∀ other found, table.findById other = some found → found.selectedProvider = some provider →
    found.providerMessageId = some providerMessageId → carrier = some other

structure Receiving (config : Config) (provider providerMessageId : String) (id : MessageId)
    (marked : Bool) (service : Service) (stages : List Stage) : Prop where
  dispatch : service.call 0 = some (.dispatch id)
  reports : ∀ pid call, 0 < pid → service.call pid = some call →
    call.reports provider providerMessageId = true
  handling : ∀ (pid : Nat) (call : Call) (stage : Stage), 0 < pid → service.call pid = some call →
    stages[pid]? = some stage →
    stage.Handling config.caseMapping id marked service.history pid call

def Derived (row found : SmsMessage) : Prop :=
  ∃ status lastError attempts,
    found = { row with status := status, lastError := lastError, attempts := attempts }

structure Pending (config : Config) (provider providerMessageId : String) (id : MessageId)
    (row : SmsMessage) (service : Service) (stage : Stage) : Prop where
  dispatch : service.call 0 = some (.dispatch id)
  unissued : service.issued provider providerMessageId = false
  undecided : ∀ clock, service.decisions config id clock = []
  unsent : stage.isDispatching = true →
    Carried provider providerMessageId none service.world.messages ∧
      ∃ found, service.world.messages.findById id = some found ∧ Derived row found

/-- The provider has issued the external id, but no row carries it. -/
structure Accepted (config : Config) (provider providerMessageId : String) (id : MessageId)
    (row : SmsMessage) (clock : Date) (service : Service) (stages : List Stage) : Prop where
  dispatch : stages[0]? = some (.accepted id provider (some providerMessageId))
  receiving : Receiving config provider providerMessageId id false service stages
  uncarried : Carried provider providerMessageId none service.world.messages
  unsent : ∃ found, service.world.messages.findById id = some found ∧ Derived row found
  decided : ∀ params ∈ service.decisions config id clock,
    DeliveryUpdate id params ∧ params.status = .sent

/-- The row carries the external id, and has been through all callbacks that were handled. -/
structure Marked (config : Config) (provider providerMessageId : String) (id : MessageId)
    (row : SmsMessage) (clock : Date) (service : Service) (stages : List Stage) : Prop where
  dispatch : stages[0]? = some .finished
  receiving : Receiving config provider providerMessageId id true service stages
  carried : Carried provider providerMessageId (some id) service.world.messages
  sent : ∃ attempts sentAt, service.world.messages.findById id = some
    (((Update.markSent id provider (some providerMessageId) sentAt).set
      { row with attempts := attempts }).afterUpdates (service.decisions config id clock))
  decided : ∀ params ∈ service.decisions config id clock, DeliveryUpdate id params

theorem decisions_append {entry : Entry Op Op.Reply Failure}
    (history : following.history = service.history ++ [entry])
    (calls : ∀ other, following.call other = service.call other) :
    following.decisions config id clock = service.decisions config id clock ++
      (decision config.caseMapping id clock service.call entry).toList := by
  have same : following.call = service.call := funext calls
  rw [decisions, decisions, history, same, List.filterMap_append]
  cases decided : decision config.caseMapping id clock service.call entry <;> simp [decided]

theorem decisions_same (history : following.history = service.history)
    (calls : ∀ entry ∈ service.history, following.call entry.pid = service.call entry.pid) :
    following.decisions config id clock = service.decisions config id clock := by
  rw [decisions, decisions, history]
  apply List.filterMap_congr
  intro entry member
  have same := calls entry member
  unfold decision
  split <;> simp_all

section Resume

variable {pid : Nat} {choice : Choice} {before after : Stage} {op : Op}
  {outcome : World.Outcome op}

theorem Receiving.resume {marked marked' : Bool}
    (receiving : Receiving config provider providerMessageId id marked service stages)
    (history : following.history = service.history ++ [⟨pid, op, outcome.reply, outcome.effective⟩])
    (calls : ∀ other, following.call other = service.call other)
    (later : marked = true → marked' = true)
    (own : ∀ call, 0 < pid → service.call pid = some call →
      after.Handling config.caseMapping id marked' following.history pid call) :
    Receiving config provider providerMessageId id marked' following (stages.set pid after) where
  dispatch := by
    rw [calls]
    exact receiving.dispatch
  reports other call positive called := by
    rw [calls] at called
    exact receiving.reports other call positive called
  handling := by
    intro other call stage positive called found
    rw [calls] at called
    rcases getElem?_set_cases found with ⟨rfl, rfl⟩ | ⟨_, present⟩
    · exact own call positive called
    · have handling := receiving.handling other call stage positive called present
      have grown := handling.mono (fun entry (member : entry ∈ service.history) =>
        (show entry ∈ following.history by rw [history]; exact List.mem_append_left _ member))
      cases stage with
      | resolved => exact ⟨later grown.1, grown.2⟩
      | _ => exact grown

theorem infallible_other (infallible : op.fallible = false) :
    (∀ statement, op ≠ .update statement) ∧ (∀ key dto, op ≠ .createQueuedMessage key dto) ∧
      ∀ provider providerMessageId, op ≠ .findByProviderMessageId provider providerMessageId := by
  refine ⟨?_, ?_, ?_⟩ <;> rintro _ <;> intros <;> rintro rfl <;> simp [Op.fallible] at infallible

theorem decision_other {caseMapping : Js.CaseMapping} {calls : Nat → Option Call}
    {reply : Except Failure op.Reply} {effective : Bool} (noUpdate : ∀ statement, op ≠ .update statement)
    (noLookup : ∀ provider providerMessageId,
      op ≠ .findByProviderMessageId provider providerMessageId) :
    decision caseMapping id clock calls ⟨pid, op, reply, effective⟩ = none := by
  unfold decision
  split
  · rename_i same
    cases same
    exact absurd rfl (noUpdate _)
  · rename_i same
    cases same
    exact absurd rfl (noLookup _ _)
  · rfl

theorem messages_other (executed : service.world.exec op choice = some outcome)
    (world : following.world = outcome.world) (noUpdate : ∀ statement, op ≠ .update statement)
    (noInsert : ∀ key dto, op ≠ .createQueuedMessage key dto) :
    following.world.messages = service.world.messages := by
  rw [world]
  exact World.exec_messages_other executed noUpdate noInsert

theorem Carried.lookup {table : Table} (uncarried : Carried provider providerMessageId none table) :
    table.findByProviderMessageId provider providerMessageId = [] := by
  by_contra some
  obtain ⟨row, member⟩ := List.exists_mem_of_ne_nil _ some
  obtain ⟨found, selected, external⟩ := Table.findByProviderMessageId_mem member
  simpa using uncarried _ row found selected external

theorem Carried.update {carrier : Option MessageId} {table : Table} {statement : Update}
    (carried : Carried provider providerMessageId carrier table)
    (keeps : statement.keepsExternalId = true) :
    Carried provider providerMessageId carrier (table.update statement) := by
  intro other found present selected external
  obtain ⟨earlier, before, rfl⟩ := Table.findById_update_some present
  obtain ⟨sameProvider, sameId⟩ := Update.run_externalId keeps earlier
  rw [sameProvider] at selected
  rw [sameId] at external
  exact carried other earlier before selected external

theorem Marked.lookup
    (marked : Marked config provider providerMessageId id row clock service stages) :
    service.world.messages.findByProviderMessageId provider providerMessageId ≠ [] := by
  obtain ⟨attempts, sentAt, present⟩ := marked.sent
  have same := Table.findById_id present
  simp only [SmsMessage.afterUpdates_id, Update.set_id] at same
  have issued : ∀ params ∈ service.decisions config id clock, DeliveryUpdate
      ((Update.markSent id provider (some providerMessageId) sentAt).set
        { row with attempts := attempts }).id params := by
    intro params member
    simpa [same] using marked.decided params member
  have columns := SmsMessage.afterUpdates_columns issued
  apply List.ne_nil_of_mem
  exact Table.mem_findByProviderMessageId present columns.2.1 columns.2.2

theorem decision_lookup {caseMapping : Js.CaseMapping} {calls : Nat → Option Call}
    {reply : Except Failure (Option SmsMessage)} {effective : Bool}
    {params : ApplyDeliveryStatusParams}
    (decided : decision caseMapping id clock calls
      ⟨pid, .findByProviderMessageId provider providerMessageId, reply, effective⟩ = some params) :
    reply = .ok none ∧ ∃ call callback, calls pid = some call ∧
      call.deliveryCallback? caseMapping = some callback ∧
      callback.update? id clock = some params := by
  rcases reply with _ | _ | _
  · simp [decision] at decided
  · obtain ⟨call, called, decided⟩ := Option.bind_eq_some_iff.mp decided
    obtain ⟨callback, delivers, decided⟩ := Option.bind_eq_some_iff.mp decided
    exact ⟨rfl, call, callback, called, delivers, decided⟩
  · simp [decision] at decided

theorem resolves {call : Call} {carrier : Option MessageId} {claim : Option String}
    {callback : DeliveryStatusCallback} {other : MessageId}
    (carried : Carried provider providerMessageId carrier service.world.messages)
    (serves : before.Serves config.caseMapping call)
    (reports : call.reports provider providerMessageId = true)
    (transition : Stage.Transition config.caseMapping before op outcome.reply
      (.resolved claim callback other))
    (executed : service.world.exec op choice = some outcome) :
    before = .resolved claim callback other ∨ carrier = some other := by
  have delivers : Stage.Delivers config.caseMapping call callback claim :=
    Stage.serves_next serves transition
  obtain ⟨rfl, rfl⟩ := delivers.reports reports
  rcases Stage.resolved_next transition executed with same | ⟨row, found, provider, external⟩
  · exact Or.inl same
  · exact Or.inr (carried other row found provider external)

variable (staged : Staged config stages service) (found : stages[pid]? = some before)
  (awaits : service.awaits pid = some op) (allowed : before.Allowed op)
  (transition : Stage.Transition config.caseMapping before op outcome.reply after)
  (executed : service.world.exec op choice = some outcome)
  (world : following.world = outcome.world)
  (history : following.history = service.history ++ [⟨pid, op, outcome.reply, outcome.effective⟩])
  (calls : ∀ other, following.call other = service.call other)
  (answered : choice.isAnswered = true) (positive : 0 < pid)
include staged found awaits allowed transition executed world history calls answered positive

theorem Accepted.callback
    (accepted : Accepted config provider providerMessageId id row clock service stages)
    (kept : service.misses config provider providerMessageId (.resume pid choice) = false) :
    Accepted config provider providerMessageId id row clock following (stages.set pid after) := by
  obtain ⟨call, called, serves⟩ := staged.call found
  have reports := accepted.receiving.reports pid call positive called
  have handling := accepted.receiving.handling pid call before positive called found
  have replied := World.exec_answered executed answered
  have first : (stages.set pid after)[0]? = some (.accepted id provider (some providerMessageId)) := by
    rw [List.getElem?_set_ne (by omega)]
    exact accepted.dispatch
  have noResolution : ∀ claim callback other, after = .resolved claim callback other →
      false = true ∧ other = id := by
    rintro claim callback other rfl
    rcases resolves accepted.uncarried serves reports transition executed with rfl | carrier
    · exact handling
    · simp at carrier
  have receives : (∀ key dto, op ≠ .createQueuedMessage key dto) →
      Receiving config provider providerMessageId id false following (stages.set pid after) := by
    intro noInsert
    refine accepted.receiving.resume history calls (fun same => same) ?_
    intro other _ called'
    rw [called, Option.some.injEq] at called'
    subst called'
    rw [history]
    exact Stage.handling_next handling serves transition (replied noInsert) noResolution
  rcases Stage.handling_op handling serves reports allowed with
    ⟨_, _, _, _, _, marked, _⟩ | ⟨claim, callback, rfl, rfl, delivers⟩ |
    ⟨noUpdate, noInsert, noLookup⟩
  · simp at marked
  · have same := messages_other executed world (by simp) (by simp)
    refine ⟨first, receives (by simp), same ▸ accepted.uncarried, same ▸ accepted.unsent, ?_⟩
    intro params member
    rw [decisions_append history calls] at member
    rcases List.mem_append.mp member with earlier | new
    · exact accepted.decided params earlier
    · obtain ⟨_, call', callback', called', delivers', issued⟩ :=
        decision_lookup (Option.mem_toList.mp new)
      rw [called, Option.some.injEq] at called'
      subst called'
      rw [delivers, Option.some.injEq] at delivers'
      subst delivers'
      have wellFormed := Stage.Delivers.wellFormed serves
      have notTerminal : callback.isTerminal = false := by
        simpa [misses, called, awaits, accepted.uncarried.lookup, delivers] using kept
      exact ⟨wellFormed.update (DeliveryStatusCallback.update?_params issued),
        DeliveryStatusCallback.update?_sent issued notTerminal⟩
  · have same := messages_other executed world noUpdate noInsert
    refine ⟨first, receives noInsert, same ▸ accepted.uncarried, same ▸ accepted.unsent, ?_⟩
    rw [decisions_append history calls, decision_other noUpdate noLookup]
    simpa using accepted.decided

omit awaits in
theorem Marked.callback
    (marked : Marked config provider providerMessageId id row clock service stages) :
    Marked config provider providerMessageId id row clock following (stages.set pid after) := by
  obtain ⟨call, called, serves⟩ := staged.call found
  have reports := marked.receiving.reports pid call positive called
  have handling := marked.receiving.handling pid call before positive called found
  have replied := World.exec_answered executed answered
  have first : (stages.set pid after)[0]? = some .finished := by
    rw [List.getElem?_set_ne (by omega)]
    exact marked.dispatch
  have resolution : ∀ claim callback other, after = .resolved claim callback other →
      true = true ∧ other = id := by
    rintro claim callback other rfl
    rcases resolves marked.carried serves reports transition executed with rfl | carrier
    · exact handling
    · exact ⟨rfl, by simpa using carrier.symm⟩
  have receives : (∀ key dto, op ≠ .createQueuedMessage key dto) →
      Receiving config provider providerMessageId id true following (stages.set pid after) := by
    intro noInsert
    refine marked.receiving.resume history calls (fun same => same) ?_
    intro other _ called'
    rw [called, Option.some.injEq] at called'
    subst called'
    rw [history]
    exact Stage.handling_next handling serves transition (replied noInsert) resolution
  obtain ⟨attempts, sentAt, present⟩ := marked.sent
  rcases Stage.handling_op handling serves reports allowed with
    ⟨claim, callback, params, rfl, rfl, _, issued⟩ | ⟨claim, callback, rfl, rfl, delivers⟩ |
    ⟨noUpdate, noInsert, noLookup⟩
  · have update := (Stage.Delivers.wellFormed serves).update issued
    have updated : following.world.messages =
        service.world.messages.update (.applyDeliveryStatus params) := by
      rw [world]
      exact World.exec_update_messages executed answered
    have decided : following.decisions config id clock =
        service.decisions config id clock ++ [params] := decisions_append history calls
    refine ⟨first, receives (by simp), ?_, ⟨attempts, sentAt, ?_⟩, ?_⟩
    · rw [updated]
      exact marked.carried.update rfl
    · rw [updated, Table.findById_update, present, decided, SmsMessage.afterUpdates_concat]
      rfl
    · rw [decided]
      intro params' member
      rcases List.mem_append.mp member with earlier | new
      · exact marked.decided params' earlier
      · rw [List.mem_singleton.mp new]
        exact update
  · have same := messages_other executed world (by simp) (by simp)
    have undecided : decision config.caseMapping id clock service.call
        ⟨pid, .findByProviderMessageId provider providerMessageId, outcome.reply,
          outcome.effective⟩ = none := by
      by_contra decided
      obtain ⟨params, decided⟩ := Option.ne_none_iff_exists'.mp decided
      exact marked.lookup
        (World.exec_findByProviderMessageId_none executed (decision_lookup decided).1)
    refine ⟨first, receives (by simp), same ▸ marked.carried, ?_, ?_⟩
    · rw [decisions_append history calls, undecided, same]
      simpa using marked.sent
    · rw [decisions_append history calls, undecided]
      simpa using marked.decided
  · have same := messages_other executed world noUpdate noInsert
    refine ⟨first, receives noInsert, same ▸ marked.carried, ?_, ?_⟩
    · rw [decisions_append history calls, decision_other noUpdate noLookup, same]
      simpa using marked.sent
    · rw [decisions_append history calls, decision_other noUpdate noLookup]
      simpa using marked.decided

end Resume

section Dispatch

variable {choice : Choice} {before after : Stage} {op : Op} {outcome : World.Outcome op}

theorem issued_append {entry : Entry Op Op.Reply Failure}
    (history : following.history = service.history ++ [entry]) :
    following.issued provider providerMessageId =
      (service.issued provider providerMessageId ||
        issues provider providerMessageId entry) := by
  simp [issued, history, List.any_append]

theorem Pending.next {entry : Entry Op Op.Reply Failure}
    (pending : Pending config provider providerMessageId id row service before)
    (history : following.history = service.history ++ [entry])
    (calls : ∀ other, following.call other = service.call other)
    (noIssue : issues provider providerMessageId entry = false)
    (noDecision : ∀ clock, decision config.caseMapping id clock service.call entry = none)
    (unsent : after.isDispatching = true →
      Carried provider providerMessageId none following.world.messages ∧
        ∃ found, following.world.messages.findById id = some found ∧ Derived row found) :
    Pending config provider providerMessageId id row following after where
  dispatch := by
    rw [calls]
    exact pending.dispatch
  unissued := by
    rw [issued_append history, pending.unissued, noIssue]
    rfl
  undecided clock := by
    rw [decisions_append history calls, pending.undecided, noDecision]
    rfl
  unsent := unsent

theorem Derived.update {found : SmsMessage} {statement : Update} (derived : Derived row found)
    (claims : statement = .markProcessing id ∨ statement = .incrementAttempts id) :
    Derived row (statement.run found) := by
  obtain ⟨status, lastError, attempts, rfl⟩ := derived
  unfold Update.run
  split
  · rcases claims with rfl | rfl
    · exact ⟨.processing, none, attempts, rfl⟩
    · exact ⟨status, lastError, attempts + 1, rfl⟩
  · exact ⟨status, lastError, attempts, rfl⟩

theorem Staged.alone {stage : Stage} (staged : Staged config [stage] service) (pid : Nat)
    (positive : 0 < pid) : service.call pid = none := by
  have length := staged.length
  simp only [Service.call, Option.map_eq_none_iff, List.getElem?_eq_none_iff]
  simp only [List.length_singleton] at length
  omega

variable (pending : Pending config provider providerMessageId id row service before)
  (executed : service.world.exec op choice = some outcome)
  (world : following.world = outcome.world)
  (history : following.history = service.history ++ [⟨0, op, outcome.reply, outcome.effective⟩])
  (calls : ∀ other, following.call other = service.call other)
include pending executed world history calls

theorem Pending.reads (noUpdate : ∀ statement, op ≠ .update statement)
    (noInsert : ∀ key dto, op ≠ .createQueuedMessage key dto)
    (noLookup : ∀ provider providerMessageId,
      op ≠ .findByProviderMessageId provider providerMessageId)
    (noIssue : issues provider providerMessageId
      ⟨0, op, outcome.reply, outcome.effective⟩ = false)
    (dispatching : after.isDispatching = true → before.isDispatching = true) :
    Pending config provider providerMessageId id row following after := by
  have same := messages_other executed world noUpdate noInsert
  refine pending.next history calls noIssue (fun _ => decision_other noUpdate noLookup) ?_
  intro goes
  rw [same]
  exact pending.unsent (dispatching goes)

theorem Pending.writes {statement : Update} (same : op = .update statement)
    (claims : statement = .markProcessing id ∨ statement = .incrementAttempts id)
    (answered : choice.isAnswered = true) (dispatching : before.isDispatching = true) :
    Pending config provider providerMessageId id row following after := by
  subst same
  obtain ⟨uncarried, found, present, derived⟩ := pending.unsent dispatching
  have updated : following.world.messages = service.world.messages.update statement := by
    rw [world]
    exact World.exec_update_messages executed answered
  have keeps : statement.keepsExternalId = true := by
    rcases claims with rfl | rfl <;> rfl
  refine pending.next history calls rfl ?_ ?_
  · intro clock
    rcases claims with rfl | rfl <;> rfl
  · intro _
    rw [updated]
    refine ⟨uncarried.update keeps, statement.run found, ?_, derived.update claims⟩
    rw [Table.findById_update, present]
    rfl

theorem Pending.resume (staged : Staged config [before] service)
    (allowed : before.Allowed op)
    (transition : Stage.Transition config.caseMapping before op outcome.reply after)
    (answered : choice.isAnswered = true) :
    Pending config provider providerMessageId id row following after ∨
      Accepted config provider providerMessageId id row clock following [after] := by
  have serves := staged.serves 0 _ before pending.dispatch rfl
  generalize answer : outcome.reply = reply at transition
  have replied := World.exec_answered executed answered
  cases transition with
  | quiet infallible =>
      left
      cases op with
      | newDate | sleep | log =>
          exact pending.reads executed world history calls (by simp) (by simp) (by simp) rfl
            (fun same => same)
      | _ => simp [Op.fallible] at infallible
  | stored source => rcases source with rfl | rfl <;> exact absurd serves.dispatch (by simp)
  | unlocked allowed =>
      rcases allowed with ⟨_, rfl⟩ | ⟨_, _, rfl⟩ | ⟨_, _, rfl⟩ | rfl <;>
        exact absurd serves.dispatch (by simp)
  | loadFailed | claimFailed | countFailed | throttleFailed | sentFailed | fatalFailed =>
      exact absurd answer (replied (by simp) _)
  | failed _ handles | failedClaim _ handles =>
      rcases handles with ⟨_, rfl⟩ | ⟨_, _, rfl⟩ | ⟨_, rfl⟩ <;>
        exact absurd serves.dispatch (by simp)
  | loaded | notDispatchable | missing | throttled | skipped | deadLettered =>
      left
      exact pending.reads executed world history calls (by simp) (by simp) (by simp) rfl
        (by simp [Stage.isDispatching])
  | claimed | notClaimed =>
      obtain rfl : _ = id := by simpa using serves.dispatch
      exact Or.inl (pending.writes executed world history calls rfl (Or.inl rfl) answered rfl)
  | counted =>
      obtain rfl : _ = id := by simpa using serves.dispatch
      exact Or.inl (pending.writes executed world history calls rfl (Or.inr rfl) answered rfl)
  | @notAccepted _ _ _ reply _ unsuccessful =>
      left
      refine pending.reads executed world history calls (by simp) (by simp) (by simp) ?_
        (by simp [Stage.isDispatching])
      rw [answer]
      cases reply with
      | error error => rfl
      | ok result => simp [issues, unsuccessful result rfl]
  | sent | fatal => exact Or.inl (pending.next history calls rfl (fun _ => rfl) (by simp [Stage.isDispatching]))
  | @accepted sender provider' options result same success =>
      obtain rfl : sender = id := by simpa using serves.dispatch
      rw [answer] at history
      by_cases issue : provider' = provider ∧ result.providerMessageId = some providerMessageId
      · right
        obtain ⟨rfl, external⟩ := issue
        obtain ⟨uncarried, unsent⟩ := pending.unsent rfl
        have messages := messages_other executed world (by simp) (by simp)
        have alone : ∀ pid, 0 < pid → service.call pid = none := staged.alone
        rw [external]
        refine ⟨rfl, ⟨?_, ?_, ?_⟩, messages ▸ uncarried, messages ▸ unsent, ?_⟩
        · rw [calls]
          exact pending.dispatch
        · intro pid call positive called
          rw [calls, alone pid positive] at called
          simp at called
        · intro pid call stage positive called
          rw [calls, alone pid positive] at called
          simp at called
        · rw [decisions_append history calls, pending.undecided]
          simp [decision]
      · left
        refine pending.next history calls ?_ (fun _ => rfl) (by simp [Stage.isDispatching])
        simp only [issues, success, Bool.and_true, Bool.and_eq_false_imp, decide_eq_true_eq,
          decide_eq_false_iff_not]
        exact fun sameProvider sameId => issue ⟨sameProvider, sameId⟩
  | _ => exact absurd serves.dispatch (by simp)

omit pending

theorem Accepted.resume
    (accepted : Accepted config provider providerMessageId id row clock service stages)
    (found : stages[0]? = some before)
    (transition : Stage.Transition config.caseMapping before op outcome.reply after)
    (answered : choice.isAnswered = true) :
    Accepted config provider providerMessageId id row clock following (stages.set 0 after) ∨
      Marked config provider providerMessageId id row clock following (stages.set 0 after) := by
  rw [accepted.dispatch, Option.some.injEq] at found
  subst found
  have below := (List.getElem?_eq_some_iff.mp accepted.dispatch).1
  generalize answer : outcome.reply = reply at transition
  have replied := World.exec_answered executed answered
  have receives : ∀ marked, Receiving config provider providerMessageId id marked following
      (stages.set 0 after) := fun marked =>
    accepted.receiving.resume history calls (by simp) (by omega)
  cases transition with
  | quiet infallible =>
      left
      obtain ⟨noUpdate, noInsert, noLookup⟩ := infallible_other infallible
      have messages := messages_other executed world noUpdate noInsert
      refine ⟨List.getElem?_set_self below, receives false, messages ▸ accepted.uncarried,
        messages ▸ accepted.unsent, ?_⟩
      rw [decisions_append history calls, decision_other noUpdate noLookup]
      simpa using accepted.decided
  | stored source => simp at source
  | unlocked allowed => simp [Stage.Allowed] at allowed
  | sentFailed => exact absurd answer (replied (by simp) _)
  | failed _ handles | failedClaim _ handles => simp [Stage.Handles] at handles
  | @sent _ _ _ sentAt =>
      right
      have updated : following.world.messages = service.world.messages.update
          (.markSent id provider (some providerMessageId) sentAt) := by
        rw [world]
        exact World.exec_update_messages executed answered
      have undecided : following.decisions config id clock = service.decisions config id clock := by
        rw [decisions_append history calls]
        simp [decision]
      obtain ⟨found, present, status, lastError, attempts, rfl⟩ := accepted.unsent
      have same := Table.findById_id present
      simp only at same
      refine ⟨List.getElem?_set_self below, receives true, ?_, ⟨attempts, sentAt, ?_⟩, ?_⟩
      · rw [updated]
        intro other found present' selected external
        by_cases own : other = id
        · rw [own]
        · rw [Table.findById_update_of_ne own] at present'
          simpa using accepted.uncarried other found present' selected external
      · have issued : ∀ params ∈ service.decisions config id clock, DeliveryUpdate
            ((Update.markSent id provider (some providerMessageId) sentAt).set
              { row with attempts := attempts }).id params := by
          intro params member
          simpa [same] using (accepted.decided params member).1
        have onlySent := fun params member => (accepted.decided params member).2
        rw [undecided, (SmsMessage.afterUpdates_sent issued onlySent).2 rfl, updated,
          Table.findById_update, present]
        simp [Update.run, Update.guard, Update.set, Update.messageId, same]
      · rw [undecided]
        exact fun params member => (accepted.decided params member).1

theorem Marked.resume
    (marked : Marked config provider providerMessageId id row clock service stages)
    (found : stages[0]? = some before)
    (transition : Stage.Transition config.caseMapping before op outcome.reply after) :
    Marked config provider providerMessageId id row clock following (stages.set 0 after) := by
  rw [marked.dispatch, Option.some.injEq] at found
  subst found
  have below := (List.getElem?_eq_some_iff.mp marked.dispatch).1
  generalize answer : outcome.reply = reply at transition
  cases transition with
  | quiet infallible =>
      obtain ⟨noUpdate, noInsert, noLookup⟩ := infallible_other infallible
      have messages := messages_other executed world noUpdate noInsert
      refine ⟨List.getElem?_set_self below,
        marked.receiving.resume history calls (fun same => same) (by omega),
        messages ▸ marked.carried, ?_, ?_⟩
      · rw [decisions_append history calls, decision_other noUpdate noLookup, messages]
        simpa using marked.sent
      · rw [decisions_append history calls, decision_other noUpdate noLookup]
        simpa using marked.decided
  | stored source => simp at source
  | unlocked allowed => simp [Stage.Allowed] at allowed
  | failed _ handles | failedClaim _ handles => simp [Stage.Handles] at handles

end Dispatch

theorem call_spawn_before {request : Call} {program : Action Answer} {pid : Nat} {call : Call}
    (called : service.call pid = some call) :
    Service.call (service.spawn request program) pid = some call := by
  obtain ⟨process, found, rfl⟩ := Option.map_eq_some_iff.mp called
  have below := (List.getElem?_eq_some_iff.mp found).1
  simp [Service.call, Pool.spawn, List.getElem?_append_left below, found]

theorem Receiving.spawn {marked : Bool} {request : Call} {program : Action Answer}
    (staged : Staged config stages service)
    (receiving : Receiving config provider providerMessageId id marked service stages)
    (reports : request.reports provider providerMessageId = true) :
    Receiving config provider providerMessageId id marked (service.spawn request program)
      (stages ++ [Stage.start config.caseMapping request]) where
  dispatch := call_spawn_before receiving.dispatch
  reports pid call positive called := by
    rcases call_spawn called with before | ⟨_, rfl⟩
    · exact receiving.reports pid call positive before
    · exact reports
  handling pid call stage positive called found := by
    have length := staged.length
    rcases getElem?_concat_cases found with before | ⟨last, rfl⟩
    · have below := (List.getElem?_eq_some_iff.mp before).1
      rcases call_spawn called with called | ⟨last, _⟩
      · exact receiving.handling pid call stage positive called before
      · omega
    · rcases call_spawn called with called | ⟨_, rfl⟩
      · obtain ⟨process, present, _⟩ := Option.map_eq_some_iff.mp called
        have below := (List.getElem?_eq_some_iff.mp present).1
        omega
      · exact Stage.handling_start reports

theorem decisions_spawn {request : Call} {program : Action Answer}
    (staged : Staged config stages service) :
    decisions config id clock (service.spawn request program) =
      service.decisions config id clock := by
  refine decisions_same rfl ?_
  intro entry member
  have below := staged.recorded entry member
  have called : service.call entry.pid = some (service.processes[entry.pid]).tag := by
    simp [Service.call, List.getElem?_eq_getElem below]
  rw [called, call_spawn_before called]

def Racing (config : Config) (provider providerMessageId : String) (id : MessageId)
    (row : SmsMessage) (clock : Date) (service : Service) (stages : List Stage) : Prop :=
  (∃ stage, stages = [stage] ∧
    Pending config provider providerMessageId id row service stage) ∨
  Accepted config provider providerMessageId id row clock service stages ∨
  Marked config provider providerMessageId id row clock service stages

theorem Racing.of_world (racing : Racing config provider providerMessageId id row clock service stages)
    {world : World} (same : world.messages = service.world.messages) :
    Racing config provider providerMessageId id row clock { service with world := world } stages := by
  rcases racing with ⟨stage, alone, pending⟩ | accepted | marked
  · refine Or.inl ⟨stage, alone, pending.dispatch, pending.unissued, pending.undecided, ?_⟩
    simpa only [same] using pending.unsent
  · refine Or.inr (Or.inl ⟨accepted.dispatch, ⟨accepted.receiving.dispatch,
      accepted.receiving.reports, accepted.receiving.handling⟩, ?_, ?_, accepted.decided⟩)
    · simpa only [same] using accepted.uncarried
    · simpa only [same] using accepted.unsent
  · refine Or.inr (Or.inr ⟨marked.dispatch, ⟨marked.receiving.dispatch,
      marked.receiving.reports, marked.receiving.handling⟩, ?_, ?_, marked.decided⟩)
    · simpa only [same] using marked.carried
    · obtain ⟨attempts, sentAt, present⟩ := marked.sent
      refine ⟨attempts, sentAt, ?_⟩
      simp only [same]
      exact present

theorem Moves.racing (moves : Moves config service stages event following stages')
    (staged : Staged config stages service)
    (racing : Racing config provider providerMessageId id row clock service stages)
    (races : service.races provider providerMessageId event = true)
    (kept : service.misses config provider providerMessageId event = false) :
    Racing config provider providerMessageId id row clock following stages' := by
  cases moves with
  | @request request _ =>
      simp only [Service.races, Bool.and_eq_true] at races
      obtain ⟨reports, issued⟩ := races
      rcases racing with ⟨stage, rfl, pending⟩ | accepted | marked
      · simp [pending.unissued] at issued
      · refine Or.inr (Or.inl ⟨?_, accepted.receiving.spawn staged reports, accepted.uncarried,
          accepted.unsent, ?_⟩)
        · have below := (List.getElem?_eq_some_iff.mp accepted.dispatch).1
          rw [List.getElem?_append_left below]
          exact accepted.dispatch
        · rw [decisions_spawn staged]
          exact accepted.decided
      · refine Or.inr (Or.inr ⟨?_, marked.receiving.spawn staged reports, marked.carried, ?_, ?_⟩)
        · have below := (List.getElem?_eq_some_iff.mp marked.dispatch).1
          rw [List.getElem?_append_left below]
          exact marked.dispatch
        · rw [decisions_spawn staged]
          exact marked.sent
        · rw [decisions_spawn staged]
          exact marked.decided
  | execute | settle | stall => simp [Service.races] at races
  | expireCache | expireLock | expireClaim => exact racing.of_world rfl
  | @resume pid choice before after op outcome _ found awaits allowed transition executed world
      history calls =>
      have answered : choice.isAnswered = true := races
      rcases racing with ⟨stage, rfl, pending⟩ | accepted | marked
      · have first : pid = 0 := by
          have below := (List.getElem?_eq_some_iff.mp found).1
          simp only [List.length_singleton] at below
          omega
        subst first
        obtain rfl : stage = before := by simpa using found
        rcases pending.resume executed world history calls staged allowed transition answered with
          pending | accepted
        · exact Or.inl ⟨after, rfl, pending⟩
        · exact Or.inr (Or.inl accepted)
      · by_cases first : pid = 0
        · subst first
          exact Or.inr (accepted.resume executed world history calls found transition answered)
        · exact Or.inr (Or.inl (accepted.callback staged found awaits allowed transition executed
            world history calls answered (by omega) kept))
      · by_cases first : pid = 0
        · subst first
          exact Or.inr (Or.inr (marked.resume executed world history calls found transition))
        · exact Or.inr (Or.inr (marked.callback staged found allowed transition executed
            world history calls answered (by omega)))

theorem dispatching_racing {world : World} (found : world.messages.findById id = some row)
    (fresh : world.messages.findByProviderMessageId provider providerMessageId = []) :
    Racing config provider providerMessageId id row clock (dispatching config world id)
      [.dispatching id] := by
  refine Or.inl ⟨_, rfl, rfl, rfl, fun _ => rfl, ?_⟩
  intro _
  refine ⟨?_, row, found, row.status, row.lastError, row.attempts, rfl⟩
  intro other carrier present selected external
  have member : carrier ∈
      world.messages.findByProviderMessageId provider providerMessageId :=
    Table.mem_findByProviderMessageId present selected external
  simp [fresh] at member

def allFinished (service : Service) : Bool :=
  service.processes.all fun process => process.program.result.isSome

theorem allFinished_result (finished : service.allFinished = true) {pid : Nat} {call : Call}
    (called : service.call pid = some call) : ∃ result, service.result pid = some result := by
  obtain ⟨process, present, _⟩ := Option.map_eq_some_iff.mp called
  have settled := List.all_eq_true.mp finished process (List.mem_of_getElem? present)
  simpa [Service.result, present, Option.isSome_iff_exists] using settled

theorem Receiving.complete (staged : Staged config stages service)
    (receiving : Receiving config provider providerMessageId id true service stages)
    (finished : service.allFinished = true) {pid : Nat} {call : Call}
    {callback : DeliveryStatusCallback} (called : service.call pid = some call)
    (delivers : call.deliveryCallback? config.caseMapping = some callback)
    (applicable : callback.isApplicable = true) :
    ∃ entry ∈ service.history, decides pid entry = true ∨ repeats pid entry = true := by
  have positive : 0 < pid := by
    apply Nat.pos_of_ne_zero
    rintro rfl
    rw [receiving.dispatch, Option.some.injEq] at called
    subst called
    simp [Call.deliveryCallback?] at delivers
  obtain ⟨result, settled⟩ := allFinished_result finished called
  obtain ⟨request, stage, called', found, settles⟩ := staged.result settled
  rw [called, Option.some.injEq] at called'
  subst called'
  have handling := receiving.handling pid call stage positive called found
  have processed : ∀ claim, stage = .processed claim →
      ∃ entry ∈ service.history, decides pid entry = true ∨ repeats pid entry = true := by
    rintro claim rfl
    obtain ⟨entry, member, decided⟩ := handling callback delivers applicable
    exact ⟨entry, member, Or.inl decided⟩
  cases call with
  | twilio received =>
      cases result with
      | ok answer => exact processed none settles
      | error error =>
          obtain rfl : stage = .finished := settles
          exact handling.elim
  | bird webhookId event =>
      cases result with
      | ok answer =>
          rcases settles with rfl | rfl
          · exact processed (some webhookId) rfl
          · obtain ⟨entry, member, repeated⟩ := handling
            exact ⟨entry, member, Or.inr repeated⟩
      | error error =>
          obtain rfl : stage = .finished := settles
          exact handling.elim
  | send | requeue | dispatch => simp [Call.deliveryCallback?] at delivers

/-- In every race whose steps miss no outcome, the row ends up as if all callbacks had been handled
after `markSent`, in the order in which they were handled. -/
theorem callbacks_kept {world : World} (found : world.messages.findById id = some row)
    (fresh : world.messages.findByProviderMessageId provider providerMessageId = [])
    (reaches : Reaches (step config) (fun service event =>
      service.races provider providerMessageId event = true ∧
        service.misses config provider providerMessageId event = false)
      (dispatching config world id) service)
    (issued : service.issued provider providerMessageId = true)
    (finished : service.allFinished = true) (clock : Date) :
    (∃ attempts sentAt, service.world.messages.findById id = some
      (((Update.markSent id provider (some providerMessageId) sentAt).set
        { row with attempts := attempts }).afterUpdates (service.decisions config id clock))) ∧
    ∀ pid call callback, service.call pid = some call →
      call.deliveryCallback? config.caseMapping = some callback → callback.isApplicable = true →
      ∃ entry ∈ service.history, decides pid entry = true ∨ repeats pid entry = true := by
  have start : Staged config [.dispatching id] (dispatching config world id) :=
    (initial_staged.of_world world).spawn (.dispatch id)
  obtain ⟨stages, staged, racing⟩ := invariant_from
    (Racing config provider providerMessageId id row clock) reaches start
    (dispatching_racing found fresh)
    (fun _ _ _ _ _ staged racing permitted moves =>
      moves.racing staged racing permitted.1 permitted.2)
  rcases racing with ⟨stage, rfl, pending⟩ | accepted | marked
  · simp [pending.unissued] at issued
  · obtain ⟨result, settled⟩ := allFinished_result finished accepted.receiving.dispatch
    obtain ⟨request, stage, called, present, settles⟩ := staged.result settled
    rw [accepted.receiving.dispatch, Option.some.injEq] at called
    rw [accepted.dispatch, Option.some.injEq] at present
    subst called present
    cases result <;> simp [Stage.Settles] at settles
  · exact ⟨marked.sent, fun _ _ _ => marked.receiving.complete staged finished⟩

def waitingMessage : SmsMessage :=
  queuedMessage 0 0 "key" { «to» := "+15550100", message := "hello", metadata := none }

def waitingWorld : World :=
  { World.initial with messages := Table.empty.insert waitingMessage (by decide) (by decide) }

/-- The provider reports `sent` before `markSent` and `delivered` after it. -/
theorem callbacks_kept_delivered : ∃ service,
    Reaches (step (.defaults ["twilio"])) (fun service event =>
        service.races "twilio" "SM1" event = true ∧
          service.misses (.defaults ["twilio"]) "twilio" "SM1" event = false)
        (dispatching (.defaults ["twilio"]) waitingWorld 0) service ∧
      service.allFinished = true ∧
      (service.world.messages.findById 0).any (fun row => row.status = .delivered) = true ∧
      ∃ attempts sentAt, service.world.messages.findById 0 = some
        (((Update.markSent 0 "twilio" (some "SM1") sentAt).set
          { waitingMessage with attempts := attempts }).afterUpdates
          (service.decisions (.defaults ["twilio"]) 0 0)) := by
  obtain ⟨service, reaches, found⟩ := execute_exists (step (.defaults ["twilio"]))
    (fun service event => service.races "twilio" "SM1" event = true ∧
      service.misses (.defaults ["twilio"]) "twilio" "SM1" event = false)
    (dispatching (.defaults ["twilio"]) waitingWorld 0)
    (Event.answers 0 4 ++ [Event.accepts 0 "SM1", Event.reports "SM1" "sent"] ++
      Event.answers 1 3 ++ Event.answers 0 2 ++ [Event.reports "SM1" "delivered"] ++
      Event.answers 2 5)
    (fun service => service.allFinished && service.issued "twilio" "SM1" &&
      (service.world.messages.findById 0).any fun row => row.status = .delivered)
    (by decide)
  simp only [Bool.and_eq_true] at found
  obtain ⟨⟨finished, issued⟩, delivered⟩ := found
  exact ⟨service, reaches, finished, delivered,
    (callbacks_kept (by decide) (by decide) reaches issued finished 0).1⟩

/-- The provider reports `delivered` before `markSent`: the callback is answered and dropped, and
the message stays `SENT` although the same callback after `markSent` makes it `DELIVERED`. -/
theorem callback_dropped : ∃ service row,
    Reaches (step (.defaults ["twilio"])) (fun service event =>
        service.races "twilio" "SM1" event = true)
        (dispatching (.defaults ["twilio"]) waitingWorld 0) service ∧
      service.issued "twilio" "SM1" = true ∧ service.allFinished = true ∧
      service.world.messages.findById 0 = some row ∧ row.status = .sent ∧
      ∀ attempts sentAt,
        (((Update.markSent 0 "twilio" (some "SM1") sentAt).set
          { waitingMessage with attempts := attempts }).afterUpdates
          (service.decisions (.defaults ["twilio"]) 0 0)).status = .delivered := by
  obtain ⟨service, reaches, found⟩ := execute_exists (step (.defaults ["twilio"]))
    (fun service event => service.races "twilio" "SM1" event = true)
    (dispatching (.defaults ["twilio"]) waitingWorld 0)
    (Event.answers 0 4 ++ [Event.accepts 0 "SM1", Event.reports "SM1" "delivered"] ++
      Event.answers 1 3 ++ Event.answers 0 2)
    (fun service => service.allFinished && service.issued "twilio" "SM1" &&
      ((service.world.messages.findById 0).any fun row => row.status = .sent) &&
      service.decisions (.defaults ["twilio"]) 0 0 ==
        [DeliveryStatusService.updateParams 0 .delivered
          [.queued, .processing, .sent, .undelivered, .rejected, .failed] none 0])
    (by decide)
  simp only [Bool.and_eq_true, Option.any_eq_true, decide_eq_true_eq, beq_iff_eq] at found
  obtain ⟨⟨⟨finished, issued⟩, row, present, sent⟩, decided⟩ := found
  refine ⟨service, row, reaches, issued, finished, present, sent, ?_⟩
  intro attempts sentAt
  rw [decided]
  rfl

end Service

end SmsNotification
