import SmsNotification.CallbackEffect
import SmsNotification.Replay

/-!
Bird deliveries handled one after another, with and without their deduplication. Since an event is
absorbed by its row, a repeated delivery may be dropped or processed again.
-/

namespace SmsNotification

open Concurrency

structure BirdDelivery where
  webhookId : String
  event : Option BirdDeliveryEvent
  now : Date
  claims : String → Bool

namespace BirdDelivery

def callback? (caseMapping : Js.CaseMapping) (delivery : BirdDelivery) :
    Option DeliveryStatusCallback :=
  delivery.event.bind fun event => (mapBirdEventType caseMapping event.type).map fun status =>
    BirdWebhookService.deliveryCallback caseMapping event status

def isProcessed (delivery : BirdDelivery) : Bool :=
  delivery.event.isSome && !delivery.claims delivery.webhookId

def claimed (delivery : BirdDelivery) : String → Bool :=
  if delivery.isProcessed then Function.update delivery.claims delivery.webhookId true
  else delivery.claims

/-- Among several rows with one external id, the lookups of a webhook id pick the same one. -/
def hint (caseMapping : Js.CaseMapping) (pick : String → Nat) (table : Table)
    (delivery : BirdDelivery) : Hint where
  date := delivery.now
  index := match delivery.callback? caseMapping with
    | none => 0
    | some callback => pick delivery.webhookId % (callback.rows table).length

def effect (caseMapping : Js.CaseMapping) (pick : String → Nat) (delivery : BirdDelivery)
    (table : Table) : Table :=
  match delivery.callback? caseMapping with
  | none => table
  | some callback => callback.effect (pick delivery.webhookId) delivery.now table

def handle (caseMapping : Js.CaseMapping) (pick : String → Nat) (world : World)
    (delivery : BirdDelivery) : Option World :=
  ((BirdWebhookService.handleVerified caseMapping delivery.webhookId delivery.event).run World.exec
    (answering (delivery.hint caseMapping pick world.messages))
    { world with claims := delivery.claims } []).map Ran.world

/-- A handler without deduplication processes whatever event it is given. -/
def processVerified (caseMapping : Js.CaseMapping) (webhookId : String) :
    Option BirdDeliveryEvent → Action Unit
  | none => BirdWebhookService.handleVerified caseMapping webhookId none
  | some event => BirdWebhookService.processEvent caseMapping event

def process (caseMapping : Js.CaseMapping) (pick : String → Nat) (world : World)
    (delivery : BirdDelivery) : Option World :=
  ((processVerified caseMapping delivery.webhookId delivery.event).run World.exec
    (answering (delivery.hint caseMapping pick world.messages)) world []).map Ran.world

variable {caseMapping : Js.CaseMapping} {pick : String → Nat} {delivery : BirdDelivery}
  {world : World} {record : Record}

theorem processEvent_yields {event : BirdDeliveryEvent} (given : delivery.event = some event)
    (claims : String → Bool) :
    (BirdWebhookService.processEvent caseMapping event).Yields World.exec
      (answering (delivery.hint caseMapping pick world.messages))
      (fun result following _ => result = .ok () ∧ following = { world with
        claims := claims
        messages := delivery.effect caseMapping pick world.messages })
      { world with claims := claims } record := by
  unfold BirdWebhookService.processEvent effect hint
  cases mapped : mapBirdEventType caseMapping event.type with
  | none =>
      have silent : delivery.callback? caseMapping = none := by simp [callback?, given, mapped]
      simp only [silent]
      exact DeliveryStatusService.log_yields fun _ => by simp
  | some status =>
      have speaks : delivery.callback? caseMapping =
          some (BirdWebhookService.deliveryCallback caseMapping event status) := by
        simp [callback?, given, mapped]
      simp only [speaks, Program.yields_bind]
      refine (DeliveryStatusService.apply_yields rfl).mono ?_
      rintro result following _ ⟨⟨outcome, rfl⟩, rfl⟩
      exact (Program.yields_pure ()).mpr ⟨rfl, rfl⟩

theorem handleVerified_yields :
    (BirdWebhookService.handleVerified caseMapping delivery.webhookId delivery.event).Yields
      World.exec (answering (delivery.hint caseMapping pick world.messages))
      (fun _ following _ => following.claims = delivery.claimed ∧
        following.messages =
          if delivery.claims delivery.webhookId then world.messages
          else delivery.effect caseMapping pick world.messages)
      { world with claims := delivery.claims } [] := by
  cases given : delivery.event with
  | none =>
      unfold BirdWebhookService.handleVerified
      rw [Program.yields_bind]
      refine DeliveryStatusService.log_yields fun _ => ?_
      simp [claimed, isProcessed, effect, callback?, given]
  | some event =>
      unfold BirdWebhookService.handleVerified BirdWebhookService.claimBirdWebhook
      simp only [Program.yields_bind]
      refine DeliveryStatusService.log_yields fun record => ?_
      cases held : delivery.claims delivery.webhookId with
      | true =>
          refine yields_answering _ ⟨_, World.perform_claimed held, ?_⟩
          refine DeliveryStatusService.log_yields fun _ => ?_
          simp [claimed, isProcessed, held]
      | false =>
          refine yields_answering _ ⟨_, World.perform_unclaimed held, ?_⟩
          simp only [Bool.not_true, Bool.false_eq_true, if_false, Program.yields_tryCatch]
          refine (processEvent_yields given _).mono ?_
          rintro result following _ ⟨rfl, rfl⟩
          simp [claimed, isProcessed, given, held]

theorem processVerified_yields :
    (processVerified caseMapping delivery.webhookId delivery.event).Yields World.exec
      (answering (delivery.hint caseMapping pick world.messages))
      (fun _ following _ => following.messages = delivery.effect caseMapping pick world.messages)
      world [] := by
  cases given : delivery.event with
  | none =>
      unfold processVerified BirdWebhookService.handleVerified
      rw [Program.yields_bind]
      refine DeliveryStatusService.log_yields fun _ => ?_
      simp [effect, callback?, given]
  | some event =>
      refine (processEvent_yields given world.claims).mono ?_
      rintro result following _ ⟨_, rfl⟩
      rfl

theorem handle_some (caseMapping : Js.CaseMapping) (pick : String → Nat) (world : World)
    (delivery : BirdDelivery) :
    ∃ following, delivery.handle caseMapping pick world = some following ∧
      following.claims = delivery.claimed ∧ following.messages =
        if delivery.claims delivery.webhookId then world.messages
        else delivery.effect caseMapping pick world.messages := by
  obtain ⟨ran, runs, claims, messages⟩ : (BirdWebhookService.handleVerified caseMapping
    delivery.webhookId delivery.event).Yields _ _ _ _ _ := handleVerified_yields
  exact ⟨ran.world, by simp only [handle, runs]; rfl, claims, messages⟩

theorem process_some (caseMapping : Js.CaseMapping) (pick : String → Nat) (world : World)
    (delivery : BirdDelivery) :
    ∃ following, delivery.process caseMapping pick world = some following ∧
      following.messages = delivery.effect caseMapping pick world.messages := by
  obtain ⟨ran, runs, messages⟩ : (processVerified caseMapping delivery.webhookId
    delivery.event).Yields _ _ _ _ _ := processVerified_yields
  exact ⟨ran.world, by simp only [process, runs]; rfl, messages⟩

def Spent (caseMapping : Js.CaseMapping) (pick : String → Nat) (delivery : BirdDelivery)
    (table : Table) : Prop :=
  ∀ callback, delivery.callback? caseMapping = some callback →
    callback.Spent (pick delivery.webhookId) table

theorem callback?_wellFormed {callback : DeliveryStatusCallback}
    (speaks : delivery.callback? caseMapping = some callback) : callback.WellFormed := by
  simp only [callback?, Option.bind_eq_some_iff, Option.map_eq_some_iff] at speaks
  obtain ⟨event, _, status, _, rfl⟩ := speaks
  exact ⟨buildBirdLastError caseMapping event, rfl⟩

theorem effect_absorbing (caseMapping : Js.CaseMapping) (pick : String → Nat) :
    Replay.Absorbing (effect caseMapping pick) (Spent caseMapping pick) where
  idle {delivery table} spent := by
    unfold effect
    cases speaks : delivery.callback? caseMapping with
    | none => rfl
    | some callback => exact (spent callback speaks).idle delivery.now
  after delivery table := by
    intro callback speaks
    simp only [effect, speaks]
    exact DeliveryStatusCallback.spent_after (callback?_wellFormed speaks) _ delivery.now table
  kept {delivery table} other spent := by
    intro callback speaks
    unfold effect
    cases heard : other.callback? caseMapping with
    | none => exact spent callback speaks
    | some received => exact (spent callback speaks).kept (callback?_wellFormed heard) _ other.now

theorem Spent.repeated {earlier : BirdDelivery} {table : Table}
    (spent : earlier.Spent caseMapping pick table)
    (same : earlier.webhookId = delivery.webhookId ∧ earlier.event = delivery.event) :
    delivery.Spent caseMapping pick table := by
  intro callback speaks
  rw [← same.1]
  refine spent callback ?_
  rw [← speaks, callback?, callback?, same.2]

/-- The store answers that a delivery is a duplicate only if an earlier one was processed. -/
def ClaimsEarned (deliveries : List BirdDelivery) : Prop :=
  ∀ earlier delivery later, deliveries = earlier ++ delivery :: later →
    delivery.claims delivery.webhookId = true →
    ∃ other ∈ earlier, other.webhookId = delivery.webhookId ∧ other.isProcessed = true

/-- A store that starts with the claims `held` may lose any of them at any time, and has no others
than the deliveries have taken. -/
def LosesClaims : (held : String → Bool) → List BirdDelivery → Prop
  | _, [] => True
  | held, delivery :: rest =>
      (∀ webhookId, delivery.claims webhookId = true → held webhookId = true) ∧
        LosesClaims delivery.claimed rest

theorem LosesClaims.earned {held : String → Bool} {before deliveries : List BirdDelivery}
    (loses : LosesClaims held deliveries)
    (earned : ∀ webhookId, held webhookId = true →
      ∃ other ∈ before, other.webhookId = webhookId ∧ other.isProcessed = true) :
    ∀ earlier delivery later, deliveries = earlier ++ delivery :: later →
      delivery.claims delivery.webhookId = true →
      ∃ other ∈ before ++ earlier, other.webhookId = delivery.webhookId ∧
        other.isProcessed = true := by
  induction deliveries generalizing held before with
  | nil => intro earlier delivery later split; simp at split
  | cons first rest ih =>
      intro earlier delivery later split claimed
      obtain ⟨kept, losesRest⟩ := loses
      cases earlier with
      | nil =>
          cases split
          rw [List.append_nil]
          exact earned _ (kept _ claimed)
      | cons head earlier =>
          rw [List.cons_append, List.cons.injEq] at split
          obtain ⟨rfl, split⟩ := split
          have earnedRest : ∀ webhookId, first.claimed webhookId = true →
              ∃ other ∈ before ++ [first], other.webhookId = webhookId ∧
                other.isProcessed = true := by
            intro webhookId taken
            by_cases own : first.isProcessed = true ∧ first.webhookId = webhookId
            · exact ⟨first, by simp, own.2, own.1⟩
            · have held' : first.claims webhookId = true := by
                unfold BirdDelivery.claimed at taken
                split at taken
                next processed =>
                  have other : webhookId ≠ first.webhookId := fun same =>
                    own ⟨processed, same.symm⟩
                  simpa [Function.update_of_ne other] using taken
                next => exact taken
              obtain ⟨other, member, same, processed⟩ := earned _ (kept _ held')
              exact ⟨other, List.mem_append_left _ member, same, processed⟩
          have found := ih losesRest earnedRest earlier delivery later split claimed
          rwa [List.append_assoc, List.singleton_append] at found

theorem LosesClaims.claimsEarned {deliveries : List BirdDelivery}
    (loses : LosesClaims (fun _ => false) deliveries) : ClaimsEarned deliveries := by
  intro earlier delivery later split claimed
  have start : ∀ webhookId : String, false = true → ∃ other ∈ ([] : List BirdDelivery),
      other.webhookId = webhookId ∧ other.isProcessed = true := by simp
  exact loses.earned start earlier delivery later split claimed

theorem handleAll_messages (caseMapping : Js.CaseMapping) (pick : String → Nat)
    (deliveries : List BirdDelivery) (world : World) :
    ∃ final, deliveries.foldlM (handle caseMapping pick) world = some final ∧
      final.messages = Replay.applyAll (effect caseMapping pick)
        (deliveries.filter fun delivery => !delivery.claims delivery.webhookId)
        world.messages := by
  induction deliveries generalizing world with
  | nil => exact ⟨world, rfl, rfl⟩
  | cons delivery rest ih =>
      obtain ⟨following, handled, _, messages⟩ := handle_some caseMapping pick world delivery
      obtain ⟨final, runs, ends⟩ := ih following
      refine ⟨final, by rw [List.foldlM_cons, handled]; exact runs, ?_⟩
      rw [ends, messages]
      cases held : delivery.claims delivery.webhookId with
      | true => simp [held]
      | false => simp [held]

theorem processAll_messages (caseMapping : Js.CaseMapping) (pick : String → Nat)
    (deliveries : List BirdDelivery) (world : World) :
    ∃ final, deliveries.foldlM (process caseMapping pick) world = some final ∧
      final.messages = Replay.applyAll (effect caseMapping pick) deliveries world.messages := by
  induction deliveries generalizing world with
  | nil => exact ⟨world, rfl, rfl⟩
  | cons delivery rest ih =>
      obtain ⟨following, processed, messages⟩ := process_some caseMapping pick world delivery
      obtain ⟨final, runs, ends⟩ := ih following
      refine ⟨final, by rw [List.foldlM_cons, processed]; exact runs, ?_⟩
      rw [ends, messages, Replay.applyAll_cons]

theorem ClaimsEarned.thins {deliveries : List BirdDelivery} (earned : ClaimsEarned deliveries)
    (equal : ∀ first ∈ deliveries, ∀ second ∈ deliveries, first.webhookId = second.webhookId →
      first.event = second.event) {before after kept : List BirdDelivery}
    (parts : deliveries = before ++ after)
    (recorded : ∀ delivery ∈ before, delivery.isProcessed = true → delivery ∈ kept) :
    Replay.Thins (fun first second : BirdDelivery =>
        first.webhookId = second.webhookId ∧ first.event = second.event) kept after
      (after.filter fun delivery => !delivery.claims delivery.webhookId) := by
  induction after generalizing before kept with
  | nil => exact .nil
  | cons delivery rest ih =>
      have parts' : deliveries = (before ++ [delivery]) ++ rest := by
        rw [parts, List.append_assoc, List.singleton_append]
      cases held : delivery.claims delivery.webhookId with
      | true =>
          obtain ⟨other, member, same, processed⟩ := earned before delivery rest parts held
          have event := equal other (by simp [parts, member]) delivery (by simp [parts]) same
          simp only [List.filter_cons, held, Bool.not_true, Bool.false_eq_true, if_false]
          refine .skip (recorded other member processed) ⟨same, event⟩ (ih parts' ?_)
          intro earlier among processed'
          rcases List.mem_append.mp among with before' | now
          · exact recorded earlier before' processed'
          · simp only [List.mem_singleton] at now
            simp [now, isProcessed, held] at processed'
      | false =>
          simp only [List.filter_cons, held, Bool.not_false, if_true]
          refine .keep (ih parts' ?_)
          intro earlier among processed
          rcases List.mem_append.mp among with before' | now
          · exact List.mem_cons_of_mem _ (recorded earlier before' processed)
          · simp only [List.mem_singleton] at now
            exact List.mem_cons.mpr (Or.inl now)

/-- Deduplication only saves work: with any claims lost, and with none kept at all, the table ends
the same. -/
theorem deduplication_unobservable (caseMapping : Js.CaseMapping) (pick : String → Nat)
    (world : World) {deliveries : List BirdDelivery} (earned : ClaimsEarned deliveries)
    (equal : ∀ first ∈ deliveries, ∀ second ∈ deliveries, first.webhookId = second.webhookId →
      first.event = second.event) :
    ∃ deduplicated processed,
      deliveries.foldlM (handle caseMapping pick) world = some deduplicated ∧
      deliveries.foldlM (process caseMapping pick) world = some processed ∧
      deduplicated.messages = processed.messages := by
  obtain ⟨deduplicated, handled, messages⟩ := handleAll_messages caseMapping pick deliveries world
  obtain ⟨processed, runs, messages'⟩ := processAll_messages caseMapping pick deliveries world
  refine ⟨deduplicated, processed, handled, runs, ?_⟩
  have thins := earned.thins equal (List.nil_append deliveries).symm
    (fun delivery member _ => member)
  have absorbing := effect_absorbing caseMapping pick
  rw [messages, messages']
  exact (absorbing.applyAll_thinned (fun same spent => spent.repeated same) thins (by simp)).symm

def sentRow : SmsMessage where
  id := 0
  idempotencyKey := "key"
  recipientPhone := "+15550100"
  messageBody := "hello"
  metadata := none
  status := .sent
  attempts := 1
  selectedProvider := some "bird"
  providerMessageId := some "sms_1"
  lastError := none
  sentAt := some 5
  deliveredAt := none
  failedAt := none
  createdAt := 0

def sentWorld : World :=
  { World.initial with messages := Table.empty.insert sentRow (by decide) (by decide) }

def arrives (now : Date) (claims : String → Bool) : BirdDelivery where
  webhookId := "msg_1"
  event := some {
    type := "sms.delivered"
    smsId := "sms_1"
    occurredAt := none
    errorCode := none }
  now := now
  claims := claims

def redeliveries : List BirdDelivery :=
  [arrives 10 fun _ => false, arrives 20 fun webhookId => webhookId == "msg_1",
    arrives 30 fun _ => false]

theorem deduplication_unobservable_expired : ∃ deduplicated processed,
    redeliveries.foldlM (handle Js.asciiCase fun _ => 0) sentWorld = some deduplicated ∧
    redeliveries.foldlM (process Js.asciiCase fun _ => 0) sentWorld = some processed ∧
    deduplicated.messages = processed.messages ∧
    deduplicated.messages.rows.map SmsMessage.deliveredAt = [some 10] := by
  have loses : LosesClaims (fun _ => false) redeliveries := by
    refine ⟨by simp [arrives], ?_, by simp [arrives], trivial⟩
    intro webhookId held
    have same : webhookId = "msg_1" := by simpa [arrives] using held
    rw [same]
    decide
  obtain ⟨deduplicated, processed, handled, runs, same⟩ :=
    deduplication_unobservable Js.asciiCase (fun _ => 0) sentWorld loses.claimsEarned (by decide)
  refine ⟨deduplicated, processed, handled, runs, same, ?_⟩
  have times : (redeliveries.foldlM (handle Js.asciiCase fun _ => 0) sentWorld).map
      (fun world => world.messages.rows.map SmsMessage.deliveredAt) = some [some 10] := by decide
  rw [handled] at times
  simpa using times

end BirdDelivery

end SmsNotification
