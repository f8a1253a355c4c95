import SmsNotification.Statements

/-!
A row under a sequence of callback updates. The condition each update carries makes the result a
matter of which update comes first, not of how many follow.
-/

namespace SmsNotification

def Update.keepsExternalId : Update → Bool
  | markProcessing _ => true
  | incrementAttempts _ => true
  | markQueuePublishFailed _ _ => true
  | applyDeliveryStatus _ => true
  | _ => false

theorem Update.run_externalId {statement : Update} (keeps : statement.keepsExternalId = true)
    (row : SmsMessage) : (statement.run row).selectedProvider = row.selectedProvider ∧
      (statement.run row).providerMessageId = row.providerMessageId := by
  unfold run
  split
  · cases statement <;> simp [keepsExternalId] at keeps <;> exact ⟨rfl, rfl⟩
  · exact ⟨rfl, rfl⟩

theorem Table.findByProviderMessageId_update (table : Table)
    (params : ApplyDeliveryStatusParams) (provider providerMessageId : String) :
    (table.update (.applyDeliveryStatus params)).findByProviderMessageId provider
        providerMessageId =
      (table.findByProviderMessageId provider providerMessageId).map
        (Update.applyDeliveryStatus params).run := by
  simp only [Table.findByProviderMessageId, Table.update, List.filter_map]
  congr 1
  apply List.filter_congr
  intro row _
  have keeps : (Update.applyDeliveryStatus params).keepsExternalId = true := rfl
  obtain ⟨selected, external⟩ := Update.run_externalId keeps row
  rw [Function.comp_apply, selected, external]

def SmsMessage.afterUpdates (row : SmsMessage) (updates : List ApplyDeliveryStatusParams) :
    SmsMessage :=
  updates.foldl (fun row params => (Update.applyDeliveryStatus params).run row) row

variable {row : SmsMessage} {params : ApplyDeliveryStatusParams}
  {updates : List ApplyDeliveryStatusParams}

@[simp] theorem SmsMessage.afterUpdates_nil : row.afterUpdates [] = row := rfl

@[simp] theorem SmsMessage.afterUpdates_cons :
    row.afterUpdates (params :: updates) =
      ((Update.applyDeliveryStatus params).run row).afterUpdates updates := rfl

theorem SmsMessage.afterUpdates_concat :
    row.afterUpdates (updates ++ [params]) =
      (Update.applyDeliveryStatus params).run (row.afterUpdates updates) := by
  simp [SmsMessage.afterUpdates, List.foldl_append]

@[simp] theorem SmsMessage.afterUpdates_id : (row.afterUpdates updates).id = row.id := by
  induction updates generalizing row with
  | nil => rfl
  | cons params updates ih => simp [ih]

namespace DeliveryUpdate

theorem messageId {id : MessageId} (issued : DeliveryUpdate id params) : params.messageId = id := by
  cases issued <;> rfl

theorem status_known {id : MessageId} (issued : DeliveryUpdate id params) :
    params.status = .sent ∨ params.status = .delivered ∨
      isDeliveryFailureStatus params.status = true := by
  cases issued with
  | sent => exact Or.inl rfl
  | delivered => exact Or.inr (Or.inl rfl)
  | failure failed => exact Or.inr (Or.inr failed)

theorem run_skipped
    (skipped : (Update.applyDeliveryStatus params).guard row.status = false) :
    (Update.applyDeliveryStatus params).run row = row := by
  simp [Update.run, skipped]

theorem run_applied (issued : DeliveryUpdate row.id params)
    (applied : (Update.applyDeliveryStatus params).guard row.status = true) :
    (Update.applyDeliveryStatus params).run row = (Update.applyDeliveryStatus params).set row := by
  simp [Update.run, applied, Update.messageId, issued.messageId]

theorem guard_iff {id : MessageId} (issued : DeliveryUpdate id params) (status : SmsStatus) :
    (Update.applyDeliveryStatus params).guard status = true ↔
      status.isOpen = true ∨ (status = .sent ∧ params.status ≠ .sent) ∨
        (isDeliveryFailureStatus status = true ∧ params.status = .delivered) := by
  cases issued with
  | sent eventAt | delivered eventAt =>
      cases status <;> simp [Update.guard, SmsStatus.isOpen, isDeliveryFailureStatus,
        deliveryFailureStatuses]
  | @failure outcome failure error eventAt =>
      cases outcome <;> simp [isDeliveryFailureStatus, deliveryFailureStatuses] at failure <;>
        cases status <;> simp [Update.guard, SmsStatus.isOpen, isDeliveryFailureStatus,
          deliveryFailureStatuses]

theorem run_closed (issued : DeliveryUpdate row.id params)
    (closed : row.status = .delivered ∨ row.status = .fatalFailure) :
    (Update.applyDeliveryStatus params).run row = row := by
  apply run_skipped
  by_contra applied
  have allowed := (issued.guard_iff row.status).mp (by simpa using applied)
  rcases closed with status | status <;>
    simp [status, SmsStatus.isOpen, isDeliveryFailureStatus, deliveryFailureStatuses] at allowed

theorem run_status (issued : DeliveryUpdate row.id params)
    (applied : (Update.applyDeliveryStatus params).guard row.status = true) :
    ((Update.applyDeliveryStatus params).run row).status = params.status ∧
      params.status ≠ row.status := by
  have allowed := (issued.guard_iff row.status).mp applied
  rw [issued.run_applied applied]
  refine ⟨rfl, ?_⟩
  intro same
  have known := issued.status_known
  rw [same] at allowed known
  cases status : row.status <;>
    simp [status, SmsStatus.isOpen, isDeliveryFailureStatus, deliveryFailureStatuses] at allowed known

theorem run_columns (issued : DeliveryUpdate row.id params) :
    ((Update.applyDeliveryStatus params).run row).attempts = row.attempts ∧
      ((Update.applyDeliveryStatus params).run row).selectedProvider = row.selectedProvider ∧
      ((Update.applyDeliveryStatus params).run row).providerMessageId = row.providerMessageId := by
  cases applied : (Update.applyDeliveryStatus params).guard row.status with
  | false => simp [run_skipped applied]
  | true =>
      rw [issued.run_applied applied]
      exact ⟨rfl, rfl, rfl⟩

theorem run_sentAt (issued : DeliveryUpdate row.id params)
    (changed : ((Update.applyDeliveryStatus params).run row).sentAt ≠ row.sentAt) :
    row.sentAt = none ∧ params.status = .sent ∧
      ((Update.applyDeliveryStatus params).run row).sentAt = params.sentAtWhenMissing := by
  cases applied : (Update.applyDeliveryStatus params).guard row.status with
  | false => exact absurd (by rw [run_skipped applied]) changed
  | true =>
      rw [issued.run_applied applied] at changed ⊢
      cases issued with
      | sent eventAt =>
          cases missing : row.sentAt with
          | none => simp [Update.set, missing]
          | some sentAt => simp [Update.set, missing] at changed
      | delivered | failure => simp [Update.set] at changed

end DeliveryUpdate

namespace SmsMessage

theorem afterUpdates_columns (issued : ∀ params ∈ updates, DeliveryUpdate row.id params) :
    (row.afterUpdates updates).attempts = row.attempts ∧
      (row.afterUpdates updates).selectedProvider = row.selectedProvider ∧
      (row.afterUpdates updates).providerMessageId = row.providerMessageId := by
  induction updates generalizing row with
  | nil => simp
  | cons params updates ih =>
      obtain ⟨attempts, provider, external⟩ :=
        DeliveryUpdate.run_columns (issued params List.mem_cons_self)
      have later : ∀ other ∈ updates,
          DeliveryUpdate ((Update.applyDeliveryStatus params).run row).id other :=
        fun other member => by simpa using issued other (List.mem_cons_of_mem _ member)
      have rest := ih later
      simpa only [afterUpdates_cons, attempts, provider, external] using rest

theorem afterUpdates_closed (issued : ∀ params ∈ updates, DeliveryUpdate row.id params)
    (closed : row.status = .delivered ∨ row.status = .fatalFailure) :
    row.afterUpdates updates = row := by
  induction updates with
  | nil => rfl
  | cons params updates ih =>
      have unchanged := DeliveryUpdate.run_closed (issued params List.mem_cons_self) closed
      rw [afterUpdates_cons, unchanged]
      exact ih fun other member => issued other (List.mem_cons_of_mem _ member)

theorem issued_later {head : ApplyDeliveryStatusParams}
    (issued : ∀ params ∈ head :: updates, DeliveryUpdate row.id params) :
    ∀ other ∈ updates, DeliveryUpdate ((Update.applyDeliveryStatus head).run row).id other := by
  intro other member
  simpa using issued other (List.mem_cons_of_mem _ member)

theorem afterUpdates_delivered (issued : ∀ params ∈ updates, DeliveryUpdate row.id params)
    (undelivered : row.status ≠ .delivered) (notFatal : row.status ≠ .fatalFailure)
    (first : updates.find? (·.status = .delivered) = some params) :
    ∃ eventAt, params.deliveredAt = some (some eventAt) ∧
      (row.afterUpdates updates).status = .delivered ∧
      (row.afterUpdates updates).deliveredAt = some eventAt ∧
      (row.afterUpdates updates).failedAt = none ∧ (row.afterUpdates updates).lastError = none := by
  induction updates generalizing row with
  | nil => simp at first
  | cons head updates ih =>
      have update := issued head List.mem_cons_self
      have later := issued_later issued
      rw [afterUpdates_cons]
      by_cases delivered : head.status = .delivered
      · have same : head = params := by simpa [delivered] using first
        subst same
        have applied : (Update.applyDeliveryStatus head).guard row.status = true := by
          rw [update.guard_iff]
          cases status : row.status <;> simp [status, delivered, SmsStatus.isOpen,
            isDeliveryFailureStatus, deliveryFailureStatuses] at undelivered notFatal ⊢
        have closed := (update.run_status applied).1.trans delivered
        rw [afterUpdates_closed later (Or.inl closed), update.run_applied applied]
        cases update with
        | delivered eventAt => exact ⟨eventAt, rfl, rfl, rfl, rfl, rfl⟩
        | sent => simp at delivered
        | failure failed =>
            have status := delivered
            simp only at status
            simp [isDeliveryFailureStatus, deliveryFailureStatuses, status] at failed
      · have rest : updates.find? (·.status = .delivered) = some params := by
          simpa [delivered] using first
        cases applied : (Update.applyDeliveryStatus head).guard row.status with
        | false =>
            rw [DeliveryUpdate.run_skipped applied] at later ⊢
            exact ih later undelivered notFatal rest
        | true =>
            have status := (update.run_status applied).1
            refine ih later ?_ ?_ rest <;> rw [status]
            · exact delivered
            · intro fatal
              have known := update.status_known
              simp [fatal, isDeliveryFailureStatus, deliveryFailureStatuses] at known

theorem afterUpdates_failed (issued : ∀ params ∈ updates, DeliveryUpdate row.id params)
    (failed : isDeliveryFailureStatus row.status = true)
    (undelivered : ∀ params ∈ updates, params.status ≠ .delivered) :
    row.afterUpdates updates = row := by
  induction updates with
  | nil => rfl
  | cons params updates ih =>
      have update := issued params List.mem_cons_self
      have other := undelivered params List.mem_cons_self
      have skipped : (Update.applyDeliveryStatus params).guard row.status = false := by
        by_contra applied
        have allowed := (update.guard_iff row.status).mp (by simpa using applied)
        cases status : row.status <;> simp [status, other, SmsStatus.isOpen,
          isDeliveryFailureStatus, deliveryFailureStatuses] at failed allowed
      rw [afterUpdates_cons, DeliveryUpdate.run_skipped skipped]
      exact ih (fun params member => issued params (List.mem_cons_of_mem _ member))
        (fun params member => undelivered params (List.mem_cons_of_mem _ member))

theorem afterUpdates_failure (issued : ∀ params ∈ updates, DeliveryUpdate row.id params)
    (unsettled : row.status.isOpen = true ∨ row.status = .sent)
    (undelivered : ∀ params ∈ updates, params.status ≠ .delivered)
    (first : updates.find? (isDeliveryFailureStatus ·.status) = some params) :
    ∃ eventAt, params.failedAt = some (some eventAt) ∧
      (row.afterUpdates updates).status = params.status ∧
      (row.afterUpdates updates).failedAt = some eventAt ∧
      (row.afterUpdates updates).lastError = params.lastError := by
  induction updates generalizing row with
  | nil => simp at first
  | cons head updates ih =>
      have update := issued head List.mem_cons_self
      have later := issued_later issued
      have rest : ∀ params ∈ updates, params.status ≠ .delivered := fun params member =>
        undelivered params (List.mem_cons_of_mem _ member)
      have other := undelivered head List.mem_cons_self
      rw [afterUpdates_cons]
      by_cases failed : isDeliveryFailureStatus head.status = true
      · have same : head = params := by simpa [failed] using first
        subst same
        have applied := (update.guard_iff row.status).mpr (by
          rcases unsettled with opened | sent
          · exact Or.inl opened
          · refine Or.inr (Or.inl ⟨sent, ?_⟩)
            intro same
            simp [same, isDeliveryFailureStatus, deliveryFailureStatuses] at failed)
        have recorded := failed
        rw [← (update.run_status applied).1] at recorded
        rw [afterUpdates_failed later recorded rest, update.run_applied applied]
        cases update with
        | sent | delivered => simp [isDeliveryFailureStatus, deliveryFailureStatuses] at failed
        | failure _ error eventAt => exact ⟨eventAt, rfl, rfl, rfl, rfl⟩
      · have sent : head.status = .sent := by
          rcases update.status_known with sent | delivered | failure
          · exact sent
          · exact absurd delivered other
          · exact absurd failure failed
        have found : updates.find? (isDeliveryFailureStatus ·.status) = some params := by
          simpa [failed] using first
        refine ih later (Or.inr ?_) rest found
        cases applied : (Update.applyDeliveryStatus head).guard row.status with
        | true => exact (update.run_status applied).1.trans sent
        | false =>
            rw [DeliveryUpdate.run_skipped applied]
            rcases unsettled with opened | already
            · have allowed := (update.guard_iff row.status).mpr (Or.inl opened)
              simp [applied] at allowed
            · exact already

theorem afterUpdates_sent (issued : ∀ params ∈ updates, DeliveryUpdate row.id params)
    (onlySent : ∀ params ∈ updates, params.status = .sent) :
    (row.status.isOpen = true → updates ≠ [] → (row.afterUpdates updates).status = .sent) ∧
      (row.status = .sent → row.afterUpdates updates = row) := by
  induction updates generalizing row with
  | nil => simp
  | cons head updates ih =>
      have update := issued head List.mem_cons_self
      have status := onlySent head List.mem_cons_self
      have later := issued_later issued
      have rest := ih later
        (fun params member => onlySent params (List.mem_cons_of_mem _ member))
      rw [afterUpdates_cons]
      constructor
      · intro opened _
        have applied := (update.guard_iff row.status).mpr (Or.inl opened)
        have sent := (update.run_status applied).1.trans status
        rw [rest.2 sent]
        exact sent
      · intro sent
        have skipped : (Update.applyDeliveryStatus head).guard row.status = false := by
          by_contra applied
          have allowed := (update.guard_iff row.status).mp (by simpa using applied)
          simp [sent, status, SmsStatus.isOpen, isDeliveryFailureStatus,
            deliveryFailureStatuses] at allowed
        rw [DeliveryUpdate.run_skipped skipped] at rest ⊢
        exact rest.2 sent

end SmsMessage

end SmsNotification
