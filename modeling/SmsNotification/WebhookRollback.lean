import SmsNotification.Concurrency.Interleaving
import SmsNotification.Effects
import SmsNotification.WebhookRequests

/-!
A webhook that is rejected undoes what it did: the claim it took is released before the error leaves
the handler, and the only statement that changes a row is never followed by an error.
-/

namespace SmsNotification

open Concurrency

/-- What one delivery has done so far; `delivers` is the id it may claim. -/
structure DeliveryTrace where
  delivers : Option String := none
  claim : Option String := none
  released : Bool := false
  wrote : Bool := false
  deriving DecidableEq

namespace DeliveryTrace

/-- A delivery claims once, and releases its own claim as the last thing it does. -/
def Allowed (trace : DeliveryTrace) : Op → Prop
  | .claimBirdWebhook webhookId =>
      trace.released = false ∧ trace.claim = none ∧ trace.delivers = some webhookId
  | .releaseBirdWebhook webhookId => trace.released = false ∧ trace.claim = some webhookId
  | .createQueuedMessage _ _ => False
  | _ => trace.released = false

def next (trace : DeliveryTrace) : (op : Op) → Except Failure op.Reply → DeliveryTrace
  | .claimBirdWebhook webhookId, .ok true => { trace with claim := some webhookId }
  | .releaseBirdWebhook _, _ => { trace with released := true }
  | .update _, .ok true => { trace with wrote := true }
  | _, _ => trace

def Replies (op : Op) (reply : Except Failure op.Reply) : Prop :=
  (op.fallible = false ∨ ∃ webhookId, op = .releaseBirdWebhook webhookId) →
    ∃ answer, reply = .ok answer

abbrev protocol : Protocol Op Op.Reply Failure where
  Stage := DeliveryTrace
  allowed := Allowed
  replies := Replies
  next := next

def Undone (trace : DeliveryTrace) : Except Failure Unit → Prop
  | .ok _ => True
  | .error _ => trace.wrote = false ∧ (trace.claim.isSome = true → trace.released = true)

end DeliveryTrace

open DeliveryTrace

abbrev Action.Leaves {α : Type} (program : Action α) (trace : DeliveryTrace)
    (post : DeliveryTrace → Except Failure α → Prop) : Prop :=
  program.Follows DeliveryTrace.protocol post trace

section Handlers

variable {trace : DeliveryTrace} {α : Type}

theorem leaves_read {op : Op} {post : DeliveryTrace → Except Failure op.Reply → Prop}
    (allowed : trace.Allowed op) (same : ∀ reply, trace.next op reply = trace)
    (holds : ∀ reply, post trace reply) : (call op).Leaves trace post := by
  refine ⟨allowed, fun reply _ => ?_⟩
  have stays : DeliveryTrace.protocol.next trace op reply = trace := same reply
  rw [stays]
  exact holds reply

theorem log_leaves {level : LogLevel} {event text : String} {fields : List (String × LogValue)}
    {post : DeliveryTrace → Except Failure Unit → Prop} (kept : trace.released = false)
    (holds : post trace (.ok ())) :
    (DeliveryStatusService.log level event fields text).Leaves trace post := by
  refine ⟨kept, fun reply answers => ?_⟩
  obtain ⟨answer, rfl⟩ := answers (.inl rfl)
  exact holds

def Handled (claim : Option String) (trace : DeliveryTrace) : Except Failure α → Prop
  | .ok _ => trace.claim = claim ∧ trace.released = false
  | .error _ => trace.claim = claim ∧ trace.released = false ∧ trace.wrote = false

theorem logSkippedCallback_leaves {callback : DeliveryStatusCallback}
    {status previousStatus : SmsStatus} {id : MessageId} (kept : trace.released = false)
    (clean : trace.wrote = false) :
    (DeliveryStatusService.logSkippedCallback callback status id previousStatus).Leaves trace
      (Handled trace.claim) := by
  unfold DeliveryStatusService.logSkippedCallback SmsService.findById
  refine (Program.follows_bind _ _).mpr (leaves_read kept (fun _ => rfl) fun reply => ?_)
  cases reply with
  | error error => exact ⟨rfl, kept, clean⟩
  | ok latestMessage =>
      simp only [Program.then_ok]
      split <;>
        · refine (Program.follows_bind _ _).mpr (log_leaves kept ?_)
          exact ⟨rfl, kept⟩

theorem eventDate_leaves {callback : DeliveryStatusCallback}
    {post : DeliveryTrace → Except Failure Date → Prop} (kept : trace.released = false)
    (holds : ∀ eventAt, post trace (.ok eventAt)) :
    (DeliveryStatusService.eventDate callback).Leaves trace post := by
  unfold DeliveryStatusService.eventDate
  cases callback.eventAt with
  | some eventAt => exact holds eventAt
  | none =>
      refine ⟨kept, fun reply answers => ?_⟩
      obtain ⟨now, rfl⟩ := answers (.inl rfl)
      exact holds now

theorem updateFound_leaves {callback : DeliveryStatusCallback} {message : SmsMessage}
    {status : SmsStatus} {allowed : List SmsStatus} (kept : trace.released = false)
    (clean : trace.wrote = false) :
    (DeliveryStatusService.updateFound callback message status allowed).Leaves trace
      (Handled trace.claim) := by
  unfold DeliveryStatusService.updateFound SmsService.applyDeliveryStatus
  refine (Program.follows_bind _ _).mpr (eventDate_leaves kept fun eventAt => ?_)
  refine (Program.follows_bind _ _).mpr ⟨kept, fun reply _ => ?_⟩
  cases reply with
  | error error => exact ⟨rfl, kept, clean⟩
  | ok updated =>
      cases updated with
      | true =>
          -- after the write nothing is left that can reject
          exact (Program.follows_bind _ _).mpr (log_leaves kept ⟨rfl, kept⟩)
      | false => exact logSkippedCallback_leaves kept clean

theorem ignoreStatus_leaves {callback : DeliveryStatusCallback} {message : SmsMessage}
    (kept : trace.released = false) :
    (DeliveryStatusService.ignoreStatus callback message).Leaves trace (Handled trace.claim) :=
  (Program.follows_bind _ _).mpr (log_leaves kept ⟨rfl, kept⟩)

theorem apply_leaves (callback : DeliveryStatusCallback) (kept : trace.released = false)
    (clean : trace.wrote = false) :
    (DeliveryStatusService.apply callback).Leaves trace (Handled trace.claim) := by
  unfold DeliveryStatusService.apply SmsService.findByProviderMessageId
  refine (Program.follows_bind _ _).mpr (leaves_read kept (fun _ => rfl) fun reply => ?_)
  cases reply with
  | error error => exact ⟨rfl, kept, clean⟩
  | ok found =>
      cases found with
      | none => exact (Program.follows_bind _ _).mpr (log_leaves kept ⟨rfl, kept⟩)
      | some message =>
          simp only [Program.then_ok]
          split
          next => exact ignoreStatus_leaves kept
          next =>
            split
            next => exact ignoreStatus_leaves kept
            next => exact updateFound_leaves kept clean

theorem processEvent_leaves (caseMapping : Js.CaseMapping) (event : BirdDeliveryEvent)
    (kept : trace.released = false) (clean : trace.wrote = false) :
    (BirdWebhookService.processEvent caseMapping event).Leaves trace (Handled trace.claim) := by
  unfold BirdWebhookService.processEvent
  split
  next => exact log_leaves kept ⟨rfl, kept⟩
  next =>
    refine (Program.follows_bind _ _).mpr ((apply_leaves _ kept clean).mono ?_)
    intro stage result handled
    cases result with
    | ok outcome => exact handled
    | error error => exact handled

theorem log_throw_leaves {level : LogLevel} {event text : String}
    {fields : List (String × LogValue)} {error : Failure} {delivers : Option String} :
    (do DeliveryStatusService.log level event fields text
        throw error : Action Unit).Leaves { delivers := delivers } Undone :=
  (Program.follows_bind _ _).mpr (log_leaves rfl ⟨rfl, fun claimed => absurd claimed (by simp)⟩)

theorem releaseClaim_throw_leaves {webhookId : String} {error : Failure}
    (held : trace.claim = some webhookId) (kept : trace.released = false)
    (clean : trace.wrote = false) :
    (do BirdWebhookService.releaseClaim webhookId
        throw error : Action Unit).Leaves trace Undone := by
  refine (Program.follows_bind _ _).mpr ((Program.follows_tryCatch _ _).mpr ⟨⟨kept, held⟩, ?_⟩)
  intro reply answers
  obtain ⟨answer, rfl⟩ := answers (.inr ⟨webhookId, rfl⟩)
  exact ⟨clean, fun _ => rfl⟩

theorem BirdWebhookService.handleVerified_leaves (caseMapping : Js.CaseMapping) (webhookId : String)
    (event : BirdDeliveryEvent) :
    (BirdWebhookService.handleVerified caseMapping webhookId (some event)).Leaves
      { delivers := some webhookId } Undone := by
  unfold BirdWebhookService.handleVerified
  refine (Program.follows_bind _ _).mpr (log_leaves rfl ?_)
  refine (Program.follows_bind _ _).mpr ⟨⟨rfl, rfl, rfl⟩, fun reply _ => ?_⟩
  cases reply with
  | error error => exact ⟨rfl, fun claimed => absurd claimed (by simp [DeliveryTrace.next])⟩
  | ok claimed =>
      cases claimed with
      | false => exact log_leaves rfl trivial
      | true =>
          refine (Program.follows_tryCatch _ _).mpr
            ((processEvent_leaves caseMapping event rfl rfl).mono ?_)
          intro trace result handled
          cases result with
          | ok _ => trivial
          | error error => exact releaseClaim_throw_leaves handled.1 handled.2.1 handled.2.2

def BirdVerificationResult.delivery (config : WebhookConfig) :
    BirdVerificationResult → Option (String × BirdDeliveryEvent)
  | .ok webhookId event => (extractBirdDeliveryEvent config event).map fun event => (webhookId, event)
  | .failed _ => none

theorem BirdWebhookService.handleVerification_leaves (config : WebhookConfig)
    (verification : BirdVerificationResult) :
    (BirdWebhookService.handleVerification config verification).Leaves
      { delivers := (verification.delivery config).map Prod.fst } Undone := by
  cases verification with
  | ok webhookId payload =>
      unfold handleVerification BirdVerificationResult.delivery
      cases extracted : extractBirdDeliveryEvent config payload with
      | none =>
          simp only [extracted]
          exact log_throw_leaves
      | some event =>
          simp only [extracted]
          exact handleVerified_leaves config.caseMapping webhookId event
  | failed reason => exact log_throw_leaves

theorem TwilioWebhookService.handle_leaves (config : WebhookConfig) (signature : Option String)
    (body : Js.Value) : (TwilioWebhookService.handle config signature body).Leaves {} Undone := by
  unfold handle
  split
  next =>
    unfold handleVerified
    split
    next => exact log_throw_leaves
    next callback =>
      refine (Program.follows_bind _ _).mpr (log_leaves rfl ?_)
      simp only [Program.then_ok]
      split
      next => exact log_leaves rfl trivial
      next =>
        refine (Program.follows_bind _ _).mpr ((apply_leaves _ rfl rfl).mono ?_)
        intro trace result handled
        cases result with
        | ok _ => trivial
        | error error => exact ⟨handled.2.2, fun claimed => absurd claimed (by simp [handled.1])⟩
  next => exact log_throw_leaves

end Handlers

/-! What the trace says about the worlds that the steps met. -/

abbrev WebhookStep := OwnStep World.exec

/-- A command that rejects had no effect, and the release succeeds. -/
structure Undisturbed (steps : List WebhookStep) : Prop where
  effects : ∀ step ∈ steps, step.choice.isLost = false
  release : ∀ step ∈ steps, ∀ webhookId, step.op = .releaseBirdWebhook webhookId →
    step.choice.isAnswered = true

theorem Undisturbed.replies {steps : List WebhookStep} (undisturbed : Undisturbed steps) :
    ∀ step ∈ steps, DeliveryTrace.Replies step.op step.completion.reply := by
  intro step found answers
  cases replied : step.completion.reply with
  | ok answer => exact ⟨answer, rfl⟩
  | error error =>
      rcases answers with infallible | ⟨webhookId, release⟩
      · have possible := World.exec_replies step.executed
        rw [replied] at possible
        rw [possible.1] at infallible
        exact absurd infallible (by decide)
      · have answered := undisturbed.release step found webhookId release
        refine absurd replied (World.exec_answered step.executed answered ?_ error)
        simp [release]

namespace DeliveryTrace

variable {trace : DeliveryTrace}

theorem wrote_next {op : Op} {reply : Except Failure op.Reply} (wrote : trace.wrote = true) :
    (trace.next op reply).wrote = true := by
  unfold next
  split <;> first | exact wrote | rfl

theorem claim_next {op : Op} {reply : Except Failure op.Reply} {webhookId : String}
    (allowed : trace.Allowed op) (held : trace.claim = some webhookId) :
    (trace.next op reply).claim = some webhookId := by
  unfold next
  split
  next => simp [Allowed, held] at allowed
  all_goals exact held

theorem delivers_next {op : Op} {reply : Except Failure op.Reply} :
    (trace.next op reply).delivers = trace.delivers := by
  unfold next
  split <;> rfl

theorem released_next {op : Op} {reply : Except Failure op.Reply} (kept : trace.released = false)
    (released : (trace.next op reply).released = true) :
    ∃ webhookId, op = .releaseBirdWebhook webhookId := by
  unfold next at released
  split at released
  next => simp [kept] at released
  next webhookId _ => exact ⟨webhookId, rfl⟩
  next => simp [kept] at released
  next => simp [kept] at released

theorem not_allowed_released {op : Op} (released : trace.released = true) : ¬trace.Allowed op := by
  intro allowed
  cases op <;> simp [Allowed, released] at allowed

theorem wrote_after {steps : List WebhookStep} (wrote : trace.wrote = true) :
    (protocol.after trace steps).wrote = true := by
  induction steps generalizing trace with
  | nil => exact wrote
  | cons step rest ih => exact ih (wrote_next wrote)

theorem claim_after {steps : List WebhookStep} {webhookId : String}
    (permits : protocol.Permits trace steps) (held : trace.claim = some webhookId) :
    (protocol.after trace steps).claim = some webhookId := by
  induction steps generalizing trace with
  | nil => exact held
  | cons step rest ih => exact ih permits.2 (claim_next permits.1 held)

theorem released_last {steps : List WebhookStep} {webhookId : String}
    (permits : protocol.Permits trace steps) (kept : trace.released = false)
    (released : (protocol.after trace steps).released = true)
    (held : (protocol.after trace steps).claim = some webhookId) :
    ∃ last, steps.getLast? = some last ∧ last.op = .releaseBirdWebhook webhookId := by
  induction steps generalizing trace with
  | nil =>
      rw [Protocol.after, kept] at released
      simp at released
  | cons step rest ih =>
      cases now : (trace.next step.op step.completion.reply).released with
      | false =>
          obtain ⟨last, isLast, operation⟩ := ih permits.2 now released held
          have nonempty : rest ≠ [] := by
            intro empty
            simp [empty] at isLast
          exact ⟨last, by rw [List.getLast?_cons_of_ne_nil nonempty, isLast], operation⟩
      | true =>
          obtain ⟨released, operation⟩ := released_next kept now
          have allowed := permits.1
          simp only [operation, Allowed] at allowed
          have claimed : (trace.next step.op step.completion.reply).claim = some released :=
            claim_next permits.1 allowed.2
          have same : released = webhookId :=
            Option.some.inj ((claim_after permits.2 claimed).symm.trans held)
          cases rest with
          | nil => exact ⟨step, rfl, by rw [operation, same]⟩
          | cons following rest => exact absurd permits.2.1 (not_allowed_released now)

end DeliveryTrace

theorem webhookStep_messages {trace : DeliveryTrace} (step : WebhookStep)
    (effects : step.choice.isLost = false) (allowed : trace.Allowed step.op)
    (clean : (trace.next step.op step.completion.reply).wrote = false) :
    step.completion.world.messages = step.before.messages := by
  obtain ⟨before, op, choice, completion, executed⟩ := step
  rcases World.exec_messages executed with
    same | ⟨statement, rfl, _⟩ | ⟨key, dto, _, _, _, _, rfl, _⟩
  · exact same
  · rcases World.exec_update executed with ⟨same, _⟩ | ⟨updated, _, ⟨_, reply⟩ | ⟨lost, _⟩⟩
    · simp [same]
    · cases affected : before.messages.affected statement with
      | true =>
          simp only [reply, affected] at clean
          simp [DeliveryTrace.next] at clean
      | false => simp [updated, Table.update_of_not_affected affected]
    · simp [effects] at lost
  · exact absurd allowed id

theorem webhookStep_granted {trace : DeliveryTrace} (step : WebhookStep) {webhookId : String}
    (effects : step.choice.isLost = false) (operation : step.op = .claimBirdWebhook webhookId)
    (effective : step.completion.effective = true) :
    (trace.next step.op step.completion.reply).claim = some webhookId := by
  obtain ⟨before, op, choice, completion, executed⟩ := step
  simp only at operation
  subst operation
  rcases World.exec_cases executed with ⟨_, idle, _⟩ | ⟨hint, inner, performed, _, same, reply⟩
  · simp [idle] at effective
  · rcases reply with ⟨_, reply⟩ | ⟨lost, _⟩
    · simp only [World.perform] at performed
      split at performed
      · simp only [Option.some.injEq] at performed
        simp [← performed] at same
        simp [same] at effective
      · simp only [Option.some.injEq] at performed
        have granted : completion.reply = .ok true := by rw [reply, ← performed]
        simp only [granted]
        rfl
    · simp [effects] at lost

theorem webhookStep_released (step : WebhookStep) {webhookId : String}
    (operation : step.op = .releaseBirdWebhook webhookId) (answered : step.choice.isAnswered = true) :
    step.completion.world.claims webhookId = false := by
  obtain ⟨before, op, choice, completion, executed⟩ := step
  simp only at operation
  subst operation
  rw [World.exec_releaseBirdWebhook executed answered]
  simp

section Undoing

variable {trace : DeliveryTrace} {steps : List WebhookStep}

theorem messages_kept (permits : DeliveryTrace.protocol.Permits trace steps)
    (effects : ∀ step ∈ steps, step.choice.isLost = false)
    (clean : (DeliveryTrace.protocol.after trace steps).wrote = false) :
    ∀ step ∈ steps, step.completion.world.messages = step.before.messages := by
  induction steps generalizing trace with
  | nil => simp
  | cons first rest ih =>
      have firstClean : (trace.next first.op first.completion.reply).wrote = false := by
        cases wrote : (trace.next first.op first.completion.reply).wrote with
        | false => rfl
        | true => exact absurd ((wrote_after wrote).symm.trans clean) (by simp)
      have following := ih permits.2 (fun step found => effects step (by simp [found])) clean
      intro step found
      rw [List.mem_cons] at found
      cases found with
      | inl same =>
          subst same
          exact webhookStep_messages step (effects step (by simp)) permits.1 firstClean
      | inr later => exact following step later

theorem claims_delivery {webhookId : String}
    (permits : DeliveryTrace.protocol.Permits trace steps)
    (claims : ∃ step ∈ steps, step.op = .claimBirdWebhook webhookId) :
    trace.delivers = some webhookId := by
  induction steps generalizing trace with
  | nil => simp at claims
  | cons first rest ih =>
      obtain ⟨step, found, operation⟩ := claims
      rw [List.mem_cons] at found
      cases found with
      | inl same =>
          have allowed := permits.1
          simp only [← same, operation, Allowed] at allowed
          exact allowed.2.2
      | inr later =>
          have following := ih permits.2 ⟨step, later, operation⟩
          rw [delivers_next] at following
          exact following

theorem claim_kept {webhookId : String} (permits : DeliveryTrace.protocol.Permits trace steps)
    (effects : ∀ step ∈ steps, step.choice.isLost = false)
    (granted : ∃ step ∈ steps, step.op = .claimBirdWebhook webhookId ∧
      step.completion.effective = true) :
    (DeliveryTrace.protocol.after trace steps).claim = some webhookId := by
  induction steps generalizing trace with
  | nil => simp at granted
  | cons first rest ih =>
      obtain ⟨step, found, operation, effective⟩ := granted
      rw [List.mem_cons] at found
      cases found with
      | inl same =>
          subst same
          have persists := claim_after permits.2
            (webhookStep_granted step (effects step (by simp)) operation effective)
          exact persists
      | inr later =>
          exact ih permits.2 (fun step found => effects step (by simp [found]))
            ⟨step, later, operation, effective⟩

theorem undone {program : Action Unit} {error : Failure} {delivers : Option String}
    (leaves : program.Leaves { delivers := delivers } Undone)
    (settles : program.Settles World.exec steps (.error error))
    (undisturbed : Undisturbed steps) :
    (∀ step ∈ steps, step.completion.world.messages = step.before.messages) ∧
      ∀ webhookId, (∃ step ∈ steps, step.op = .claimBirdWebhook webhookId ∧
          step.completion.effective = true) →
        delivers = some webhookId ∧ ∃ last, steps.getLast? = some last ∧ last.op = .releaseBirdWebhook webhookId ∧
          last.completion.world.claims webhookId = false := by
  have kept := leaves.settles settles undisturbed.replies
  refine ⟨messages_kept kept.1 undisturbed.effects kept.2.1, ?_⟩
  intro webhookId granted
  have claimed := claim_kept kept.1 undisturbed.effects granted
  have released := kept.2.2 (by rw [claimed]; rfl)
  obtain ⟨last, isLast, operation⟩ := released_last kept.1 rfl released claimed
  have answered := undisturbed.release last (List.mem_of_getLast? isLast) webhookId operation
  obtain ⟨step, found, claims, _⟩ := granted
  exact ⟨claims_delivery kept.1 ⟨step, found, claims⟩, last, isLast, operation,
    webhookStep_released last operation answered⟩

end Undoing

theorem Choice.isLost_of_answered {choice : Choice} (answered : choice.isAnswered = true) :
    choice.isLost = false := by
  cases choice with
  | answered hint => rfl
  | rejected message => rfl
  | lost hint message => simp [Choice.isAnswered] at answered

theorem redelivery_claims {config : WebhookConfig} {verification : BirdVerificationResult}
    {webhookId : String} {surroundings : Surroundings} {world : World}
    {ran : Ran Op Op.Reply Failure Unit World}
    (delivers : (verification.delivery config).map Prod.fst = some webhookId)
    (free : world.claims webhookId = false)
    (answered : ∀ record, (surroundings record (.claimBirdWebhook webhookId)).isAnswered = true)
    (runs : (BirdWebhookService.handleVerification config verification).run World.exec surroundings
      world [] = some ran) :
    ⟨.claimBirdWebhook webhookId, .ok true⟩ ∈ ran.trace := by
  cases verification with
  | failed reason => simp [BirdVerificationResult.delivery] at delivers
  | ok id payload =>
      cases extracted : extractBirdDeliveryEvent config payload with
      | none => simp [BirdVerificationResult.delivery, extracted] at delivers
      | some event =>
          simp only [BirdVerificationResult.delivery, extracted, Option.map_some,
            Option.some.injEq] at delivers
          subst delivers
          simp only [BirdWebhookService.handleVerification, extracted] at runs
          have yields : (BirdWebhookService.handleVerified config.caseMapping id
              (some event)).Yields World.exec surroundings (fun _ _ record => record = ran.trace)
              world [] := ⟨ran, runs, rfl⟩
          obtain ⟨logged, wrote, following⟩ := (Program.yields_await (Op.log _) _).mp yields
          have logs := World.exec_log wrote
          rw [logs.1, logs.2] at following
          obtain ⟨claimed, took, rest⟩ :=
            (Program.yields_await (Op.claimBirdWebhook id) _).mp following
          have granted : claimed.reply = .ok true := by
            rcases World.exec_claimBirdWebhook took with
              ⟨_, message, rejected⟩ | ⟨held, _⟩ | ⟨_, _, ⟨_, granted⟩ | lost⟩
            · have unanswered := World.exec_rejection took rejected
              rw [answered] at unanswered
              exact absurd unanswered (by decide)
            · rw [free] at held
              exact absurd held (by decide)
            · exact granted
            · exact absurd (lost.symm.trans (Choice.isLost_of_answered (answered _))) (by decide)
          obtain ⟨final, processes, same⟩ := rest
          have earlier := (Program.run_trace processes).subset
          rw [same, granted] at earlier
          exact earlier (by simp)

/-- A rejected webhook leaves no trace, at whatever point its handling rejects and whatever other
processes do between its steps: none of them changes a row, and a claim that it took is released, so
that an identical delivery is processed when it is handled next. -/
theorem rejected_webhook_undone (config : WebhookConfig) :
    (∀ (verifier : BirdSignatureVerifier config) (now : Date) (rawBody : Option Js.Buffer)
        (headers : Js.Record) (steps : List WebhookStep) (error : Failure),
      (BirdWebhookService.handle verifier now rawBody headers).1.Settles World.exec steps
          (.error error) → Undisturbed steps →
        (∀ step ∈ steps, step.completion.world.messages = step.before.messages) ∧
        ∀ webhookId, (∃ step ∈ steps, step.op = .claimBirdWebhook webhookId ∧
            step.completion.effective = true) →
          ∃ last, steps.getLast? = some last ∧ last.op = .releaseBirdWebhook webhookId ∧
            last.completion.world.claims webhookId = false ∧
            ∀ (later : BirdSignatureVerifier config) (nextNow : Date)
              (nextBody : Option Js.Buffer) (nextHeaders : Js.Record) (surroundings : Surroundings)
              (ran : Ran Op Op.Reply Failure Unit World),
              (later.verify nextNow nextBody nextHeaders).1 =
                (verifier.verify now rawBody headers).1 →
              (∀ record, (surroundings record (.claimBirdWebhook webhookId)).isAnswered = true) →
              (BirdWebhookService.handle later nextNow nextBody nextHeaders).1.run World.exec
                surroundings last.completion.world [] = some ran →
              ⟨.claimBirdWebhook webhookId, .ok true⟩ ∈ ran.trace) ∧
    ∀ (signature : Option String) (body : Js.Value) (steps : List WebhookStep) (error : Failure),
      (TwilioWebhookService.handle config signature body).Settles World.exec steps
          (.error error) → Undisturbed steps →
        ∀ step ∈ steps, step.completion.world.messages = step.before.messages := by
  constructor
  · intro verifier now rawBody headers steps error settles undisturbed
    have undoes := undone (BirdWebhookService.handleVerification_leaves config
      (verifier.verify now rawBody headers).1) settles undisturbed
    refine ⟨undoes.1, fun webhookId granted => ?_⟩
    obtain ⟨delivers, last, isLast, operation, free⟩ := undoes.2 webhookId granted
    refine ⟨last, isLast, operation, free, ?_⟩
    intro later nextNow nextBody nextHeaders surroundings ran identical answered runs
    rw [← identical] at delivers
    exact redelivery_claims delivers free answered runs
  · intro signature body steps error settles undisturbed
    exact (undone (TwilioWebhookService.handle_leaves config signature body) settles
      undisturbed).1

theorem webhookStep_effective (step : WebhookStep) {webhookId : String}
    (exchange : step.exchange = ⟨.claimBirdWebhook webhookId, .ok true⟩) :
    step.op = .claimBirdWebhook webhookId ∧ step.completion.effective = true := by
  obtain ⟨before, op, choice, completion, executed⟩ := step
  simp only [OwnStep.exchange, Exchange.mk.injEq] at exchange
  obtain ⟨rfl, reply⟩ := exchange
  obtain ⟨hint, inner, performed, answer, _, effective⟩ :=
    World.exec_ok executed (eq_of_heq reply)
  refine ⟨rfl, ?_⟩
  simp only [World.perform] at performed
  split at performed
  · simp only [Option.some.injEq] at performed
    rw [← performed] at answer
    simp at answer
  · simp only [Option.some.injEq] at performed
    simp only [effective, ← performed]

/-! A delivery whose lookup rejects after it took the claim. -/

def WebhookConfig.admitting (payload : Js.Value) : WebhookConfig where
  birdSecret := some "secret"
  birdToleranceSeconds := none
  twilioAuthToken := some "token"
  publicBaseUrl := none
  clientFactory _ _ _ := some payload
  validateRequest _ _ _ _ := true
  parseDate _ := none
  caseMapping := Js.asciiCase

def birdHeaders (webhookId : String) : Js.Record :=
  [("webhook-id", .string webhookId), ("webhook-timestamp", .string "0"),
    ("webhook-signature", .string "v1")]

def deliveredPayload : Js.Value :=
  .object [("type", .string "sms.delivered"), ("data", .object [("sms_id", .string "B1")])]

def lookupRejects : Surroundings
  | _, .findByProviderMessageId _ _ => .rejected none
  | _, _ => .answered {}

theorem lookupRejects_undisturbed {steps : List WebhookStep}
    (choices : ∀ step ∈ steps, ∃ record, step.choice = lookupRejects record step.op) :
    Undisturbed steps := by
  constructor
  · intro step found
    obtain ⟨record, choice⟩ := choices step found
    rw [choice]
    unfold lookupRejects
    split <;> rfl
  · intro step found webhookId release
    obtain ⟨record, choice⟩ := choices step found
    rw [choice, release]
    rfl

theorem rejected_webhook_undone_lookup : ∃ steps : List WebhookStep, ∃ error last,
    (BirdWebhookService.handle (.initial (.admitting deliveredPayload)) 0 (some ⟨2, "body"⟩)
      (birdHeaders "W1")).1.Settles World.exec steps (.error error) ∧
    (∀ step ∈ steps, step.completion.world.messages = step.before.messages) ∧
    steps.getLast? = some last ∧ last.op = .releaseBirdWebhook "W1" ∧
    last.completion.world.claims "W1" = false := by
  obtain ⟨ran, runs, rejected, claimed⟩ : ∃ ran,
      (BirdWebhookService.handle (.initial (.admitting deliveredPayload)) 0 (some ⟨2, "body"⟩)
        (birdHeaders "W1")).1.run World.exec lookupRejects World.initial [] = some ran ∧
      ran.result = .error (.rejection none) ∧
      ran.trace[1]? = some ⟨.claimBirdWebhook "W1", .ok true⟩ := ⟨_, rfl, rfl, rfl⟩
  obtain ⟨steps, settles, exchanges, choices, _⟩ := Program.settles_of_run runs
  rw [rejected] at settles
  rw [exchanges, List.nil_append, List.getElem?_map, Option.map_eq_some_iff] at claimed
  obtain ⟨step, found, exchange⟩ := claimed
  obtain ⟨unchanged, undo⟩ := (rejected_webhook_undone (.admitting deliveredPayload)).1 _ 0 _ _
    steps _ settles (lookupRejects_undisturbed choices)
  obtain ⟨last, isLast, operation, free, _⟩ := undo "W1"
    ⟨step, List.mem_of_getElem? found, webhookStep_effective step exchange⟩
  exact ⟨steps, _, last, settles, unchanged, isLast, operation, free⟩

end SmsNotification
