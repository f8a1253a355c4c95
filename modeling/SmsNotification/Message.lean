import Mathlib.Data.List.Nodup

/-!
The entity `SmsMessage`, the statements that change it and the table `sms_messages`. Every method
of `SmsService` that writes a row is one `UPDATE` with a condition on the row's status, so one
definition gives all of them their meaning.
-/

namespace SmsNotification

/-- A `uuid` column. -/
abbrev MessageId := Nat

abbrev Date := Int

inductive SmsStatus
  | queued
  | processing
  | sent
  | delivered
  | undelivered
  | rejected
  | failed
  | fatalFailure
  deriving DecidableEq, Repr

structure SmsMessage where
  id : MessageId
  idempotencyKey : String
  recipientPhone : String
  messageBody : String
  metadata : Option String
  status : SmsStatus
  attempts : Nat
  selectedProvider : Option String
  providerMessageId : Option String
  lastError : Option String
  sentAt : Option Date
  deliveredAt : Option Date
  failedAt : Option Date
  createdAt : Date
  deriving DecidableEq, Repr

structure SendSmsDto where
  «to» : String
  message : String
  metadata : Option String
  deriving DecidableEq, Repr

/-- The row that `createQueuedMessage` inserts; the database supplies the id and the date. -/
def queuedMessage (id : MessageId) (createdAt : Date) (idempotencyKey : String)
    (dto : SendSmsDto) : SmsMessage where
  id := id
  idempotencyKey := idempotencyKey
  recipientPhone := dto.«to»
  messageBody := dto.message
  metadata := dto.metadata
  status := .queued
  attempts := 0
  selectedProvider := none
  providerMessageId := none
  lastError := none
  sentAt := none
  deliveredAt := none
  failedAt := none
  createdAt := createdAt

/-- An absent optional field leaves its column alone; `some none` writes `NULL`. -/
structure ApplyDeliveryStatusParams where
  messageId : MessageId
  status : SmsStatus
  allowedPreviousStatuses : List SmsStatus
  lastError : Option String
  deliveredAt : Option (Option Date) := none
  failedAt : Option (Option Date) := none
  sentAtWhenMissing : Option Date := none
  deriving DecidableEq, Repr

/-- The `UPDATE` statements of `SmsService`, with the values they bind. -/
inductive Update
  | markProcessing (messageId : MessageId)
  | incrementAttempts (messageId : MessageId)
  | markSent (messageId : MessageId) (selectedProvider : String)
      (providerMessageId : Option String) (sentAt : Date)
  | markFatalFailure (messageId : MessageId) (selectedProvider : String) (lastError : String)
      (failedAt : Date)
  | markQueuePublishFailed (messageId : MessageId) (failedAt : Date)
  | transitionFatalFailureToQueued (messageId : MessageId)
  | restoreFatalFailure (messageId : MessageId) (selectedProvider : Option String)
      (lastError : String) (failedAt : Date)
  | applyDeliveryStatus (params : ApplyDeliveryStatusParams)
  deriving DecidableEq, Repr

def queuePublishFailedError : String := "QUEUE_PUBLISH_FAILED"

def requeuePublishFailedError : String := "REQUEUE_PUBLISH_FAILED"

namespace Update

def messageId : Update → MessageId
  | markProcessing id => id
  | incrementAttempts id => id
  | markSent id _ _ _ => id
  | markFatalFailure id _ _ _ => id
  | markQueuePublishFailed id _ => id
  | transitionFatalFailureToQueued id => id
  | restoreFatalFailure id _ _ _ => id
  | applyDeliveryStatus params => params.messageId

/-- The condition on `status` in the `WHERE` clause, next to the one on `id`. -/
def guard : Update → SmsStatus → Bool
  | markProcessing _, status => status = .queued || status = .processing
  | transitionFatalFailureToQueued _, status => status = .fatalFailure
  | applyDeliveryStatus params, status => params.allowedPreviousStatuses.contains status
  | _, _ => true

/-- The `SET` clause. -/
def set : Update → SmsMessage → SmsMessage
  | markProcessing _, row => { row with status := .processing, lastError := none }
  | incrementAttempts _, row => { row with attempts := row.attempts + 1 }
  | markSent _ selectedProvider providerMessageId sentAt, row => { row with
      status := .sent
      selectedProvider := some selectedProvider
      providerMessageId := providerMessageId
      lastError := none
      sentAt := some sentAt
      failedAt := none }
  | markFatalFailure _ selectedProvider lastError failedAt, row => { row with
      status := .fatalFailure
      selectedProvider := some selectedProvider
      providerMessageId := none
      lastError := some lastError
      sentAt := none
      failedAt := some failedAt }
  | markQueuePublishFailed _ failedAt, row => { row with
      status := .failed
      lastError := some queuePublishFailedError
      failedAt := some failedAt }
  | transitionFatalFailureToQueued _, row => { row with
      status := .queued
      selectedProvider := none
      providerMessageId := none
      lastError := none
      sentAt := none
      failedAt := none }
  | restoreFatalFailure _ selectedProvider lastError failedAt, row => { row with
      status := .fatalFailure
      selectedProvider := selectedProvider
      providerMessageId := none
      lastError := some lastError
      sentAt := none
      failedAt := some failedAt }
  | applyDeliveryStatus params, row => { row with
      status := params.status
      lastError := params.lastError
      deliveredAt := params.deliveredAt.getD row.deliveredAt
      failedAt := params.failedAt.getD row.failedAt
      -- `COALESCE(sent_at, :sentAtFallback)` when the fallback is given
      sentAt := match params.sentAtWhenMissing with
        | some fallback => some (row.sentAt.getD fallback)
        | none => row.sentAt }

@[simp] theorem set_id (update : Update) (row : SmsMessage) : (update.set row).id = row.id := by
  cases update <;> rfl

@[simp] theorem set_idempotencyKey (update : Update) (row : SmsMessage) :
    (update.set row).idempotencyKey = row.idempotencyKey := by
  cases update <;> rfl

def run (update : Update) (row : SmsMessage) : SmsMessage :=
  if row.id = update.messageId ∧ update.guard row.status = true then update.set row else row

@[simp] theorem run_id (update : Update) (row : SmsMessage) : (update.run row).id = row.id := by
  unfold run
  split <;> simp

@[simp] theorem run_idempotencyKey (update : Update) (row : SmsMessage) :
    (update.run row).idempotencyKey = row.idempotencyKey := by
  unfold run
  split <;> simp

end Update

/-- The table with the constraints PostgreSQL enforces on it. -/
structure Table where
  rows : List SmsMessage
  primaryKey : (rows.map SmsMessage.id).Nodup
  uniqueIdempotencyKey : (rows.map SmsMessage.idempotencyKey).Nodup

namespace Table

def empty : Table := ⟨[], List.nodup_nil, List.nodup_nil⟩

def findById (table : Table) (id : MessageId) : Option SmsMessage :=
  table.rows.find? fun row => row.id == id

def findByIdempotencyKey (table : Table) (key : String) : Option SmsMessage :=
  table.rows.find? fun row => row.idempotencyKey == key

/-- The rows a lookup by provider and external id may return, in any order. -/
def findByProviderMessageId (table : Table) (provider providerMessageId : String) :
    List SmsMessage :=
  table.rows.filter fun row =>
    row.selectedProvider == some provider && row.providerMessageId == some providerMessageId

def insert (table : Table) (row : SmsMessage) (newId : row.id ∉ table.rows.map SmsMessage.id)
    (newKey : row.idempotencyKey ∉ table.rows.map SmsMessage.idempotencyKey) : Table where
  rows := table.rows ++ [row]
  primaryKey := by
    rw [List.map_append, List.map_singleton, List.nodup_append_comm]
    exact List.nodup_cons.mpr ⟨newId, table.primaryKey⟩
  uniqueIdempotencyKey := by
    rw [List.map_append, List.map_singleton, List.nodup_append_comm]
    exact List.nodup_cons.mpr ⟨newKey, table.uniqueIdempotencyKey⟩

def update (table : Table) (statement : Update) : Table where
  rows := table.rows.map statement.run
  primaryKey := by
    rw [List.map_map, show SmsMessage.id ∘ statement.run = SmsMessage.id from
      funext fun row => statement.run_id row]
    exact table.primaryKey
  uniqueIdempotencyKey := by
    rw [List.map_map, show SmsMessage.idempotencyKey ∘ statement.run = SmsMessage.idempotencyKey
      from funext fun row => statement.run_idempotencyKey row]
    exact table.uniqueIdempotencyKey

/-- Whether the statement selects a row, `affected > 0` in the source. -/
def affected (table : Table) (statement : Update) : Bool :=
  match table.findById statement.messageId with
  | some row => statement.guard row.status
  | none => false

variable {table : Table} {id : MessageId} {row : SmsMessage} {key : String}

theorem findById_mem (found : table.findById id = some row) : row ∈ table.rows ∧ row.id = id :=
  ⟨List.mem_of_find?_eq_some found, by simpa using List.find?_some found⟩

@[simp] theorem findById_id (found : table.findById id = some row) : row.id = id :=
  (findById_mem found).2

theorem mem_findById (member : row ∈ table.rows) : table.findById row.id = some row := by
  cases found : table.findById row.id with
  | none =>
      have absent := List.find?_eq_none.mp found row member
      simp at absent
  | some other =>
      obtain ⟨otherMember, same⟩ := findById_mem found
      rw [List.inj_on_of_nodup_map table.primaryKey otherMember member same]

theorem findById_eq_none : table.findById id = none ↔ id ∉ table.rows.map SmsMessage.id := by
  simp [findById]

theorem findByIdempotencyKey_some (found : table.findByIdempotencyKey key = some row) :
    table.findById row.id = some row ∧ row.idempotencyKey = key :=
  ⟨mem_findById (List.mem_of_find?_eq_some found), by simpa using List.find?_some found⟩

theorem idempotencyKey_unique {first second : SmsMessage} {other : MessageId}
    (left : table.findById id = some first) (right : table.findById other = some second)
    (same : first.idempotencyKey = second.idempotencyKey) : first = second :=
  List.inj_on_of_nodup_map table.uniqueIdempotencyKey (findById_mem left).1 (findById_mem right).1
    same

theorem findByProviderMessageId_mem {provider providerMessageId : String}
    (member : row ∈ table.findByProviderMessageId provider providerMessageId) :
    table.findById row.id = some row ∧ row.selectedProvider = some provider ∧
      row.providerMessageId = some providerMessageId := by
  simp only [findByProviderMessageId, List.mem_filter, Bool.and_eq_true, beq_iff_eq] at member
  exact ⟨mem_findById member.1, member.2.1, member.2.2⟩

theorem mem_findByProviderMessageId {provider providerMessageId : String}
    (found : table.findById id = some row) (selected : row.selectedProvider = some provider)
    (external : row.providerMessageId = some providerMessageId) :
    row ∈ table.findByProviderMessageId provider providerMessageId := by
  simp [findByProviderMessageId, (findById_mem found).1, selected, external]

theorem findById_update (statement : Update) (id : MessageId) :
    (table.update statement).findById id = (table.findById id).map statement.run := by
  have same : (fun row : SmsMessage => row.id == id) ∘ statement.run = fun row => row.id == id := by
    funext row
    simp
  simp only [findById, update, List.find?_map, same]

theorem findById_insert {newId newKey} (id : MessageId) :
    (table.insert row newId newKey).findById id =
      if id = row.id then some row else table.findById id := by
  unfold findById insert
  rw [List.find?_append]
  by_cases same : id = row.id
  · subst same
    have absent := findById_eq_none.mpr newId
    unfold findById at absent
    simp [absent]
  · have other : row.id ≠ id := fun equal => same equal.symm
    simp [same, other]

theorem findById_inserted (newId newKey) :
    (table.insert row newId newKey).findById row.id = some row := by
  rw [findById_insert, if_pos rfl]

theorem findById_insert_some {newId newKey} {before : SmsMessage}
    (found : table.findById id = some before) :
    (table.insert row newId newKey).findById id = some before := by
  rw [findById_insert, if_neg]
  · exact found
  · rintro rfl
    rw [findById_eq_none.mpr newId] at found
    simp at found

theorem findById_insert_new (newId newKey) {after : SmsMessage}
    (absent : table.findById id = none)
    (found : (table.insert row newId newKey).findById id = some after) : row.id = id := by
  by_contra different
  rw [findById_insert, if_neg (Ne.symm different), absent] at found
  simp at found

theorem findById_update_of_ne {statement : Update} (other : id ≠ statement.messageId) :
    (table.update statement).findById id = table.findById id := by
  rw [findById_update]
  cases found : table.findById id with
  | none => rfl
  | some row =>
      have same : row.id = id := findById_id found
      simp [Update.run, same, other]

theorem eq_of_rows {first second : Table} (same : first.rows = second.rows) : first = second := by
  cases first
  cases second
  cases same
  rfl

theorem update_of_not_affected {statement : Update} (none : table.affected statement = false) :
    table.update statement = table := by
  have unchanged : ∀ row ∈ table.rows, statement.run row = row := by
    intro row member
    by_cases same : row.id = statement.messageId
    · have found := mem_findById member
      rw [same] at found
      simp only [affected, found] at none
      simp [Update.run, none]
    · simp [Update.run, same]
  exact eq_of_rows ((List.map_congr_left unchanged).trans (List.map_id _))

theorem findById_update_some {statement : Update}
    (found : (table.update statement).findById id = some row) :
    ∃ before, table.findById id = some before ∧ row = statement.run before := by
  rw [findById_update] at found
  obtain ⟨before, present, same⟩ := Option.map_eq_some_iff.mp found
  exact ⟨before, present, same.symm⟩

end Table

end SmsNotification
