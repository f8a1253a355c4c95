import SmsNotification.Statements

/-!
Whether `DELIVERED` is final. The guarded statements respect it; four statements do not look at the
status, and a stalled worker or a late compensation can issue them after a callback. The condition
`NoLateWrite` on a step is exactly what keeps a delivered row delivered.
-/

namespace SmsNotification

open Concurrency

def SmsMessage.Stamped (row : SmsMessage) : Prop :=
  row.deliveredAt.isSome → row.status = .delivered

namespace Update

variable {statement : Update} {stage : Stage} {row : SmsMessage}

theorem unguarded_leaves (unguarded : statement.isUnguardedStatus = true)
    (selected : row.id = statement.messageId) : (statement.run row).status ≠ .delivered := by
  cases statement <;> simp [isUnguardedStatus] at unguarded <;>
    simp_all [run, guard, set, messageId]

theorem guarded_keeps (guarded : statement.isUnguardedStatus = false)
    (issued : statement.Issued) (delivered : row.status = .delivered) :
    (statement.run row).status = .delivered := by
  unfold run
  split
  · rename_i selected
    have condition := selected.2
    rw [delivered] at condition
    cases statement with
    | markProcessing id => simp [guard] at condition
    | incrementAttempts id => exact delivered
    | transitionFatalFailureToQueued id => simp [guard] at condition
    | applyDeliveryStatus params =>
        -- no update of a callback admits a delivered row before it
        obtain ⟨id, update⟩ := issued
        cases update <;> simp [guard] at condition
    | markSent | markFatalFailure | markQueuePublishFailed | restoreFatalFailure =>
        simp [isUnguardedStatus] at guarded
  · exact delivered

theorem guarded_stamped (guarded : statement.isUnguardedStatus = false)
    (issued : statement.Issued) (stamped : row.Stamped) : (statement.run row).Stamped := by
  by_cases delivered : row.status = .delivered
  · intro _
    exact guarded_keeps guarded issued delivered
  · have unset : row.deliveredAt = none := by
      cases deliveredAt : row.deliveredAt with
      | none => rfl
      | some date => exact absurd (stamped (by simp [deliveredAt])) delivered
    unfold run
    split
    · cases statement with
      | applyDeliveryStatus params =>
          obtain ⟨id, update⟩ := issued
          cases update <;> simp [SmsMessage.Stamped, set, unset]
      | _ => simp [SmsMessage.Stamped, set, unset]
    · exact stamped

theorem unguarded_stamped (unguarded : statement.isUnguardedStatus = true)
    (stamped : row.Stamped)
    (pending : row.id = statement.messageId → row.status ≠ .delivered) :
    (statement.run row).Stamped := by
  unfold run
  split
  · rename_i selected
    have unset : row.deliveredAt = none := by
      cases deliveredAt : row.deliveredAt with
      | none => rfl
      | some date => exact absurd (stamped (by simp [deliveredAt])) (pending selected.1)
    cases statement <;> simp [isUnguardedStatus] at unguarded <;>
      simp [SmsMessage.Stamped, set, unset]
  · exact stamped

end Update

namespace Service

variable {config : Config} {service following middle final : Service}
  {stages stages' : List Stage} {event : Event}

/-- Whether the step executes an unguarded status write on a delivered row. -/
def lateWrite (service : Service) (event : Event) : Bool :=
  match service.executes event with
  | some (.update statement) => statement.isUnguardedStatus &&
      (service.world.messages.findById statement.messageId).any fun row => row.status = .delivered
  | _ => false

abbrev NoLateWrite (service : Service) (event : Event) : Prop := service.lateWrite event = false

theorem lateWrite_iff : service.lateWrite event = true ↔
    ∃ statement row, service.executes event = some (.update statement) ∧
      statement.isUnguardedStatus = true ∧
      service.world.messages.findById statement.messageId = some row ∧
      row.status = .delivered := by
  constructor
  · intro late
    unfold lateWrite at late
    split at late
    · rename_i statement executed
      simp only [Bool.and_eq_true, Option.any_eq_true, decide_eq_true_eq] at late
      obtain ⟨unguarded, row, found, delivered⟩ := late
      exact ⟨statement, row, executed, unguarded, found, delivered⟩
    · simp at late
  · rintro ⟨statement, row, executed, unguarded, found, delivered⟩
    simp [lateWrite, executed, unguarded, found, delivered]

theorem NoLateWrite.pending {statement : Update} {row : SmsMessage}
    (timely : NoLateWrite service event)
    (executed : service.executes event = some (.update statement))
    (unguarded : statement.isUnguardedStatus = true)
    (found : service.world.messages.findById statement.messageId = some row) :
    row.status ≠ .delivered := by
  intro delivered
  have late := lateWrite_iff.mpr ⟨statement, row, executed, unguarded, found, delivered⟩
  simp [timely] at late

def Delivered (service : Service) (id : MessageId) : Prop :=
  ∃ row, service.world.messages.findById id = some row ∧ row.status = .delivered

def RowsStamped (service : Service) : Prop :=
  ∀ id row, service.world.messages.findById id = some row → row.Stamped

theorem Moves.keeps_delivered (moves : Moves config service stages event following stages')
    (staged : Staged config stages service) (timely : NoLateWrite service event) {id : MessageId}
    (delivered : service.Delivered id) : following.Delivered id := by
  obtain ⟨row, found, status⟩ := delivered
  obtain ⟨after, present, same⟩ := moves.row staged found
  refine ⟨after, present, ?_⟩
  rcases same with rfl | ⟨statement, executed, issued, rfl⟩
  · exact status
  · cases guarded : statement.isUnguardedStatus with
    | false => exact Update.guarded_keeps guarded issued status
    | true =>
        have other : row.id ≠ statement.messageId := by
          intro selected
          have same : row.id = id := Table.findById_id found
          rw [← same, selected] at found
          exact timely.pending executed guarded found status
        rw [Update.run, if_neg (fun selected => other selected.1)]
        exact status

theorem Moves.rowsStamped (moves : Moves config service stages event following stages')
    (staged : Staged config stages service) (timely : NoLateWrite service event)
    (stamped : service.RowsStamped) : following.RowsStamped := by
  intro id row found
  rcases moves.messages staged with ⟨same, _⟩ | ⟨statement, executed, issued, updated⟩ |
    ⟨_, _, _, _, _, _, _, inserted⟩
  · rw [same] at found
    exact stamped id row found
  · rw [updated] at found
    obtain ⟨before, present, rfl⟩ := Table.findById_update_some found
    cases guarded : statement.isUnguardedStatus with
    | false => exact Update.guarded_stamped guarded issued (stamped id before present)
    | true =>
        refine Update.unguarded_stamped guarded (stamped id before present) ?_
        intro selected
        have same : before.id = id := Table.findById_id present
        rw [← same, selected] at present
        exact timely.pending executed guarded present
  · rw [inserted, Table.findById_insert] at found
    split at found
    · simp only [Option.some.injEq] at found
      subst found
      simp [SmsMessage.Stamped, queuedMessage]
    · exact stamped id row found

/-- A run keeps delivered rows delivered, and delivery times on them only, exactly as long as its
steps meet `NoLateWrite`: the first step that does not takes a delivered row to another status. -/
theorem delivered_final_iff (reaches : Reaches (step config) NoLateWrite initial middle) :
    (∀ final, Reaches (step config) NoLateWrite middle final →
      (∀ id, middle.Delivered id → final.Delivered id) ∧
        ∀ row ∈ final.world.messages.rows, row.deliveredAt.isSome → row.status = .delivered) ∧
    ∀ event following, step config middle event = some following →
      ((∀ id, middle.Delivered id → following.Delivered id) ↔ NoLateWrite middle event) := by
  obtain ⟨stages, staged, stamped⟩ := invariant (fun service _ => service.RowsStamped)
    reaches (fun id row found => by simp [initial, World.initial, Table.empty, Table.findById] at found)
    (fun _ _ _ _ _ staged stamped timely moves => moves.rowsStamped staged timely stamped)
  constructor
  · intro final later
    obtain ⟨_, _, stamped, delivered⟩ := invariant_from
      (fun service _ => service.RowsStamped ∧
        ∀ id, middle.Delivered id → service.Delivered id)
      later staged ⟨stamped, fun id delivered => delivered⟩
      (fun _ _ _ _ _ staged holding timely moves => ⟨moves.rowsStamped staged timely holding.1,
        fun id delivered => moves.keeps_delivered staged timely (holding.2 id delivered)⟩)
    exact ⟨delivered, fun row member => stamped row.id row (Table.mem_findById member)⟩
  · intro event following stepped
    obtain ⟨stages', moves, _⟩ := step_moves staged stepped
    constructor
    · intro keeps
      by_contra late
      obtain ⟨statement, row, executed, unguarded, found, delivered⟩ :=
        lateWrite_iff.mp (by simpa using late)
      obtain ⟨after, present, status⟩ := keeps statement.messageId ⟨row, found, delivered⟩
      rw [moves.update staged executed, Table.findById_update, found] at present
      simp only [Option.map_some, Option.some.injEq] at present
      subst present
      exact Update.unguarded_leaves unguarded (Table.findById_id found) status
    · intro timely id delivered
      exact moves.keeps_delivered staged timely delivered

/-- A message that is sent and then reported delivered stays delivered while its steps are timely. -/
theorem delivered_final_iff_timely : ∃ middle,
    Reaches (step (.defaults ["twilio"])) NoLateWrite initial middle ∧ middle.Delivered 0 ∧
      ∀ final, Reaches (step (.defaults ["twilio"])) NoLateWrite middle final →
        final.Delivered 0 := by
  obtain ⟨middle, reaches, found⟩ := execute_exists
    (step (.defaults ["twilio"])) NoLateWrite initial
    ([Event.sends "key"] ++
      Event.answers 0 8 ++ [.execute 0] ++ Event.answers 1 4 ++ [Event.accepts 1 "SM1"] ++
      Event.answers 1 2 ++
      [Event.reports "SM1" "delivered"] ++
      Event.answers 2 5)
    (fun service => (service.world.messages.findById 0).any fun row => row.status = .delivered)
    (by decide)
  simp only [Option.any_eq_true, decide_eq_true_eq] at found
  exact ⟨middle, reaches, found,
    fun final later => ((delivered_final_iff reaches).1 final later).1 0 found⟩

/-- A stalled job is handed out again while its first worker lives. Both workers send; the second
one records its success after the callback for the first one was applied. -/
theorem delivered_overwritten : ∃ middle final row,
    Reaches (step (.defaults ["twilio"])) (fun _ _ => True) initial middle ∧
      middle.Delivered 0 ∧
      Reaches (step (.defaults ["twilio"])) (fun _ _ => True) middle final ∧
      final.world.messages.findById 0 = some row ∧ row.status = .sent ∧
      row.deliveredAt.isSome := by
  obtain ⟨middle, reaches, found⟩ := execute_exists
    (step (.defaults ["twilio"])) (fun _ _ => True) initial
    ([Event.sends "key"] ++
      Event.answers 0 8 ++ [.execute 0] ++ Event.answers 1 4 ++ [.stall 0, .execute 0] ++
      Event.answers 2 4 ++ [Event.accepts 1 "SM1"] ++ Event.answers 1 2 ++
      [Event.reports "SM1" "delivered"] ++
      Event.answers 3 5)
    (fun service =>
      (service.world.messages.findById 0).any (fun row => row.status = .delivered) &&
        (execute (step (.defaults ["twilio"])) (fun _ _ => True)
          ([Event.accepts 2 "SM2"] ++ Event.answers 2 2) service).any fun final =>
            (final.world.messages.findById 0).any fun row =>
              row.status = .sent && row.deliveredAt.isSome)
    (by decide)
  simp only [Bool.and_eq_true, Option.any_eq_true, decide_eq_true_eq] at found
  obtain ⟨⟨row, present, status⟩, final, executed, after, later, sent⟩ := found
  exact ⟨middle, final, after, reaches, ⟨row, present, status⟩, execute_reaches _ executed, later,
    sent⟩

end Service

end SmsNotification
