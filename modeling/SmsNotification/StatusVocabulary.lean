import SmsNotification.Webhooks

/-!
The status tables are object literals that a provider's text indexes. What the mappers make of a text
is what the table says, except for the names that every object inherits.
-/

namespace SmsNotification

open Concurrency

def webhookStatuses : List SmsStatus := [.sent, .delivered, .undelivered, .failed, .rejected]

structure MappedExactly (table : List (String × SmsStatus)) (key : String)
    (result : Option MappedStatus) : Prop where
  accepts : ∀ status, result = some (.status status) ↔ (key, status) ∈ table
  vocabulary : ∀ status, result = some (.status status) → status ∈ webhookStatuses
  rejects : (∀ status, (key, status) ∉ table) → result = none

theorem lookup_eq_some_iff {table : List (String × SmsStatus)}
    (distinct : (table.map Prod.fst).Nodup) (key : String) (status : SmsStatus) :
    table.lookup key = some status ↔ (key, status) ∈ table := by
  induction table with
  | nil => simp
  | cons entry rest ih =>
      obtain ⟨name, value⟩ := entry
      rw [List.map_cons, List.nodup_cons] at distinct
      rw [List.lookup_cons]
      by_cases same : key = name
      · subst same
        have absent : (key, status) ∉ rest :=
          fun found => distinct.1 (List.mem_map.mpr ⟨_, found, rfl⟩)
        simp [absent, eq_comm]
      · have different : (key == name) = false := beq_false_of_ne same
        simp [different, same, ih distinct.2]

theorem objectLookup_exact_iff {table : List (String × SmsStatus)}
    (distinct : (table.map Prod.fst).Nodup)
    (statuses : ∀ entry ∈ table, entry.2 ∈ webhookStatuses)
    (own : ∀ entry ∈ table, entry.1 ∉ objectPrototypeProperties) (key : String) :
    MappedExactly table key (objectLookup table key) ↔ key ∉ objectPrototypeProperties := by
  unfold objectLookup
  cases found : table.lookup key with
  | some status =>
      have entry := (lookup_eq_some_iff distinct key status).mp found
      constructor
      · intro exact
        exact own _ entry
      · intro free
        constructor
        · intro other
          rw [← lookup_eq_some_iff distinct, found]
          simp
        · intro other same
          simp only [Option.some.injEq, MappedStatus.status.injEq] at same
          exact same ▸ statuses _ entry
        · intro absent
          exact absurd entry (absent status)
  | none =>
      have absent : ∀ status, (key, status) ∉ table := by
        intro status entry
        rw [← lookup_eq_some_iff distinct, found] at entry
        simp at entry
      by_cases inherited : key ∈ objectPrototypeProperties
      · constructor
        · intro exact
          have nothing := exact.rejects absent
          simp [inherited] at nothing
        · intro free
          exact absurd inherited free
      · constructor
        · intro exact
          exact inherited
        · intro free
          constructor
          · intro status
            simp [inherited, absent status]
          · intro status same
            simp [inherited] at same
          · intro absent
            simp [inherited]

theorem mapTwilioStatus_exact_iff (caseMapping : Js.CaseMapping) (status : String) :
    MappedExactly twilioStatusMap (caseMapping.toLowerCase (Js.trim status))
        (mapTwilioStatus caseMapping status) ↔
      caseMapping.toLowerCase (Js.trim status) ∉ objectPrototypeProperties :=
  objectLookup_exact_iff (by decide) (by decide) (by decide) _

theorem mapBirdEventType_exact_iff (caseMapping : Js.CaseMapping) (eventType : String) :
    MappedExactly birdEventStatusMap (caseMapping.toLowerCase (Js.trim eventType))
        (mapBirdEventType caseMapping eventType) ↔
      caseMapping.toLowerCase (Js.trim eventType) ∉ objectPrototypeProperties :=
  objectLookup_exact_iff (by decide) (by decide) (by decide) _

/-! The handlers, for a text that the table does not hold. -/

def Op.onTable : Op → Bool
  | .findById _ | .findByIdempotencyKey _ | .findByProviderMessageId _ _ => true
  | .createQueuedMessage _ _ | .update _ => true
  | _ => false

def offTable : Protocol Op Op.Reply Failure where
  Stage := Unit
  allowed _ op := op.onTable = false
  replies _ _ := True
  next stage _ _ := stage

def Ignores (program : Action Unit) : Prop :=
  program.Follows offTable (fun _ _ => True) ()

theorem ignores_log (level : LogLevel) (event : String) (fields : List (String × LogValue))
    (text : String) : Ignores (DeliveryStatusService.log level event fields text) := by
  exact ⟨rfl, fun _ _ => trivial⟩

theorem objectLookup_unknown {table : List (String × SmsStatus)} {key : String}
    (unknown : table.lookup key = none) :
    (objectLookup table key = none ∧ key ∉ objectPrototypeProperties) ∨
      (objectLookup table key = some (.inherited key) ∧ key ∈ objectPrototypeProperties) := by
  unfold objectLookup
  by_cases inherited : key ∈ objectPrototypeProperties
  · simp [unknown, inherited]
  · simp [unknown, inherited]

theorem apply_looksUp (callback : DeliveryStatusCallback) :
    ¬Ignores (do let _ ← DeliveryStatusService.apply callback) := by
  intro ignores
  have allowed : Op.onTable (.findByProviderMessageId callback.provider
    callback.providerMessageId) = false := ignores.1
  simp [Op.onTable] at allowed

theorem ignores_bind {α : Type} {program : Action α} {rest : α → Action Unit}
    (first : program.Follows offTable (fun _ _ => True) ())
    (following : ∀ value, Ignores (rest value)) : Ignores (program >>= rest) := by
  refine (Program.follows_bind program rest).mpr (first.mono ?_)
  intro stage result _
  cases result with
  | ok value => exact following value
  | error error => trivial

theorem twilio_ignores_iff (caseMapping : Js.CaseMapping) (callback : TwilioStatusCallback)
    (unknown : twilioStatusMap.lookup
      (caseMapping.toLowerCase (Js.trim callback.messageStatus)) = none) :
    Ignores (TwilioWebhookService.handleVerified caseMapping (some callback)) ↔
      caseMapping.toLowerCase (Js.trim callback.messageStatus) ∉ objectPrototypeProperties := by
  have mapped : (mapTwilioStatus caseMapping callback.messageStatus = none ∧ _) ∨
      (mapTwilioStatus caseMapping callback.messageStatus = some _ ∧ _) :=
    objectLookup_unknown unknown
  unfold TwilioWebhookService.handleVerified
  rcases mapped with ⟨absent, free⟩ | ⟨inherited, taken⟩
  · simp only [absent, free, not_false_eq_true, iff_true]
    exact ignores_bind (ignores_log _ _ _ _) fun _ => ignores_log _ _ _ _
  · simp only [inherited, taken, not_true_eq_false, iff_false]
    intro ignores
    exact apply_looksUp _ (ignores.2 (.ok ()) trivial)

theorem ignores_releaseClaim (webhookId : String) :
    Ignores (BirdWebhookService.releaseClaim webhookId) := by
  refine (Program.follows_tryCatch _ _).mpr ⟨rfl, fun reply _ => ?_⟩
  cases reply with
  | ok _ => trivial
  | error error => exact ⟨rfl, fun _ _ => trivial⟩

theorem bird_ignores_iff (caseMapping : Js.CaseMapping) (webhookId : String)
    (event : BirdDeliveryEvent)
    (unknown : birdEventStatusMap.lookup (caseMapping.toLowerCase (Js.trim event.type)) = none) :
    Ignores (BirdWebhookService.handleVerified caseMapping webhookId (some event)) ↔
      caseMapping.toLowerCase (Js.trim event.type) ∉ objectPrototypeProperties := by
  have mapped : (mapBirdEventType caseMapping event.type = none ∧ _) ∨
      (mapBirdEventType caseMapping event.type = some _ ∧ _) :=
    objectLookup_unknown unknown
  unfold BirdWebhookService.handleVerified BirdWebhookService.processEvent
  rcases mapped with ⟨absent, free⟩ | ⟨inherited, taken⟩
  · simp only [absent, free, not_false_eq_true, iff_true]
    refine ignores_bind (ignores_log _ _ _ _) fun _ => ignores_bind ?_ fun claimed => ?_
    · exact ⟨rfl, fun _ _ => trivial⟩
    · cases claimed with
      | false => exact ignores_log _ _ _ _
      | true =>
          refine (Program.follows_tryCatch _ _).mpr ⟨rfl, fun reply _ => ?_⟩
          cases reply with
          | ok _ => trivial
          | error error => exact ignores_bind (ignores_releaseClaim webhookId) fun _ => trivial
  · simp only [inherited, taken, not_true_eq_false, iff_false]
    intro ignores
    have processed := (ignores.2 (.ok ()) trivial).2 (.ok true) trivial
    have allowed : Op.onTable (.findByProviderMessageId "bird" event.smsId) = false := processed.1
    simp [Op.onTable] at allowed

/-- The mappers accept what their tables hold and nothing else, and the handlers ignore everything
else before any lookup, for exactly the texts that do not name a property every object inherits. -/
theorem statusMappers_exact_iff (caseMapping : Js.CaseMapping) :
    (∀ status, MappedExactly twilioStatusMap (caseMapping.toLowerCase (Js.trim status))
        (mapTwilioStatus caseMapping status) ↔
      caseMapping.toLowerCase (Js.trim status) ∉ objectPrototypeProperties) ∧
    (∀ eventType, MappedExactly birdEventStatusMap (caseMapping.toLowerCase (Js.trim eventType))
        (mapBirdEventType caseMapping eventType) ↔
      caseMapping.toLowerCase (Js.trim eventType) ∉ objectPrototypeProperties) ∧
    (∀ callback : TwilioStatusCallback,
      twilioStatusMap.lookup (caseMapping.toLowerCase (Js.trim callback.messageStatus)) = none →
        (Ignores (TwilioWebhookService.handleVerified caseMapping (some callback)) ↔
          caseMapping.toLowerCase (Js.trim callback.messageStatus) ∉ objectPrototypeProperties)) ∧
    ∀ (webhookId : String) (event : BirdDeliveryEvent),
      birdEventStatusMap.lookup (caseMapping.toLowerCase (Js.trim event.type)) = none →
        (Ignores (BirdWebhookService.handleVerified caseMapping webhookId (some event)) ↔
          caseMapping.toLowerCase (Js.trim event.type) ∉ objectPrototypeProperties) := by
  refine ⟨?_, ?_, ?_, ?_⟩
  · exact mapTwilioStatus_exact_iff caseMapping
  · exact mapBirdEventType_exact_iff caseMapping
  · exact twilio_ignores_iff caseMapping
  · exact bird_ignores_iff caseMapping

/-- `constructor` is in neither table, but is not mapped to `null`. -/
theorem inherited_name_is_mapped :
    mapTwilioStatus Js.asciiCase "constructor" = some (.inherited "constructor") ∧
      ¬∀ (caseMapping : Js.CaseMapping) (status : String),
        MappedExactly twilioStatusMap (caseMapping.toLowerCase (Js.trim status))
          (mapTwilioStatus caseMapping status) := by
  have mapped : mapTwilioStatus Js.asciiCase "constructor" = some (.inherited "constructor") := by
    decide
  refine ⟨mapped, fun exact => ?_⟩
  have nothing := (exact Js.asciiCase "constructor").rejects fun status => by
    cases status <;> decide
  rw [mapped] at nothing
  simp at nothing

end SmsNotification
