import SmsNotification.AtMostOnce
import SmsNotification.Concurrency.Balance
import SmsNotification.Footprints
import SmsNotification.Systems

/-!
The turns of a dispatch at a provider: an attempt is counted, then the rate limiter lets it through,
then the provider is called. No step is skipped and none is used twice.
-/

namespace SmsNotification

open Concurrency

/-- What a dispatch has to do next: ask the rate limiter, or call the provider it was let through to. -/
inductive Turn
  | counted
  | permitted (providerName : String)
  deriving DecidableEq

def Op.takes : Op → Option Turn
  | throttle _ => some .counted
  | sendSms providerName _ => some (.permitted providerName)
  | _ => none

def Op.turns : (op : Op) → Except Failure op.Reply → Option Turn
  | .update (.incrementAttempts _), .ok _ => some .counted
  | .throttle providerName, .ok _ => some (.permitted providerName)
  | _, _ => none

abbrev turnProtocol : Protocol Op Op.Reply Failure :=
  .ofObligations Op.takes Op.turns Stage.Replies

def Op.isTurn : Op → Bool
  | update (.incrementAttempts _) => true
  | throttle _ => true
  | sendSms _ _ => true
  | _ => false

section Conformance

variable {config : Config} {message : SmsMessage} {α : Type} {program : Action α}

theorem takes_none {op : Op} (other : op.isTurn = false) : op.takes = none := by
  cases op <;> first | rfl | simp [Op.isTurn] at other

theorem turns_none {op : Op} (other : op.isTurn = false) (reply : Except Failure op.Reply) :
    op.turns reply = none := by
  cases op with
  | update statement =>
      cases statement <;> first
        | rfl
        | simp [Op.isTurn] at other
  | throttle => simp [Op.isTurn] at other
  | _ => rfl

theorem turnless_follows (idle : program.AtMost Op.isTurn 0) :
    program.Follows turnProtocol (fun due _ => due = none) none :=
  idle.owesNothing (fun _ other => takes_none other) fun _ reply other => turns_none other reply

theorem turnless_call {op : Op} (other : op.isTurn = false) : (call op).AtMost Op.isTurn 0 :=
  Program.atMost_perform (by simp [other])

theorem turn_call {op : Op} {due : Option Turn} {post : Option Turn → Except Failure op.Reply → Prop}
    (allowed : op.takes = due) (answered : ∀ reply, post (op.turns reply) reply) :
    (call op).Follows turnProtocol post due :=
  ⟨allowed, fun reply _ => answered reply⟩

open SmsDispatcherService

theorem sendWithProvider_turns (providerName : String) :
    (sendWithProvider message providerName).Follows turnProtocol (fun due _ => due = none)
      (some (.permitted providerName)) := by
  simp only [sendWithProvider, Program.follows_tryCatch]
  apply turn_call rfl
  rintro (error | result) <;> rfl

theorem attemptProvider_turns (providerName : String) (remaining attempt : Nat)
    (lastError : String) :
    (attemptProvider config message providerName remaining attempt lastError).Follows turnProtocol
      (fun due _ => due = none) none := by
  induction remaining generalizing attempt lastError with
  | zero => rfl
  | succ remaining ih =>
      simp only [attemptProvider, SmsService.incrementAttempts, throttle, Program.follows_bind]
      apply turn_call rfl
      rintro (error | affected)
      · rfl
      simp only [Program.then_ok, Program.follows_pure, Program.follows_bind]
      apply turn_call rfl
      rintro (error | _)
      · rfl
      simp only [Program.then_ok, Program.follows_bind]
      apply (sendWithProvider_turns providerName).mono
      rintro due (error | result) rfl
      · rfl
      simp only [Program.then_ok]
      split
      · have marks : (SmsService.markSent message.id providerName
            result.providerMessageId).AtMost Op.isTurn 0 :=
          (turnless_call rfl).idle_bind fun _ =>
            (turnless_call rfl).idle_bind fun _ => Program.atMost_pure _
        exact turnless_follows (marks.idle_bind fun _ => Program.atMost_pure _)
      · split
        · rfl
        · split
          · rfl
          · simp only [sleep, Program.follows_bind]
            apply turn_call rfl
            rintro (error | _)
            · rfl
            · exact ih _ _

theorem dispatchProviders_turns (providers : List String) (lastProviderName lastError : String) :
    (dispatchProviders config message providers lastProviderName lastError).Follows turnProtocol
      (fun due _ => due = none) none := by
  induction providers generalizing lastProviderName lastError with
  | nil =>
      have marks : (SmsService.markFatalFailure message.id lastProviderName
          lastError).AtMost Op.isTurn 0 :=
        (turnless_call rfl).idle_bind fun _ =>
          (turnless_call rfl).idle_bind fun _ => Program.atMost_pure _
      exact turnless_follows (marks.idle_bind fun _ => turnless_call rfl)
  | cons providerName rest ih =>
      simp only [dispatchProviders, Program.follows_bind]
      apply (attemptProvider_turns providerName _ _ _).mono
      rintro due (error | outcome) rfl
      · rfl
      · cases outcome with
        | sent => rfl
        | exhausted lastError => exact ih providerName lastError

theorem dispatch_turns (id : MessageId) :
    (dispatch config id).Follows turnProtocol (fun due _ => due = none) none := by
  simp only [dispatch, SmsService.findById, Program.follows_bind]
  apply turn_call rfl
  rintro (error | _ | message)
  · rfl
  · rfl
  · simp only [Program.then_ok, SmsService.markProcessing]
    split
    · rfl
    · simp only [Program.follows_bind]
      apply turn_call rfl
      rintro (error | claimed)
      · rfl
      · simp only [Program.then_ok]
        split
        · exact turnless_follows ((turnless_call rfl).idle_bind fun _ => Program.atMost_pure _)
        · exact dispatchProviders_turns _ _ _

end Conformance

theorem turnless {caseMapping : Js.CaseMapping} {call : Call} {stage : Stage} {op : Op}
    (other : call.isDispatch = false) (serves : stage.Serves caseMapping call)
    (allowed : stage.Allowed op) : op.isTurn = false := by
  cases op with
  | throttle providerName =>
      obtain ⟨id, rfl⟩ := allowed
      cases serves
      cases other
  | sendSms providerName options =>
      cases allowed
      cases serves
      cases other
  | update statement =>
      cases statement with
      | incrementAttempts id =>
          cases allowed
          cases serves
          cases other
      | _ => rfl
  | _ => rfl

theorem program_turns {config : Config} (request : Call) :
    (request.program config).Follows turnProtocol (fun due _ => due = none) none := by
  cases request with
  | dispatch id =>
      simp only [Call.program, Program.follows_bind]
      apply (dispatch_turns id).mono
      rintro due (error | _) rfl <;> rfl
  | _ =>
      apply Call.follows_of_stages _ (fun _ due => due = none) rfl (fun _ _ possible => possible)
      · rintro stage _ op serves rfl allowed
        exact takes_none (turnless rfl serves allowed)
      · rintro stage _ op reply following serves rfl allowed _ _
        exact turns_none (turnless rfl serves allowed) reply
      · intro _ _ _ _ related _
        exact related

namespace Service

variable {config : Config} {service : Service}

def turnDiscipline (config : Config) :
    Discipline (system config (fun _ _ _ => True) (fun _ _ => True)) :=
  .ofObligations Op.takes Op.turns Stage.Replies _ program_turns
    fun _ _ _ _ executed => World.exec_replies executed

theorem turns_reached {permitted : Service → Event → Prop}
    (reaches : Reaches (step config) permitted initial service) :
    (turnDiscipline config).Obeyed service := by
  apply (Discipline.invariant (turnDiscipline config) id (fun _ => True) reaches (initial_obeyed _)
    trivial _ fun _ _ _ _ _ _ => trivial).1
  intro service event following _ stepped
  exact steps stepped (fun _ _ _ => trivial) fun _ _ => trivial

/-- Each permission of the rate limiter is used for one call of its provider, which is then the next
thing its process awaits, and each counted attempt for one request to the rate limiter. -/
theorem calls_permitted {permitted : Service → Event → Prop}
    (reaches : Reaches (step config) permitted initial service) (due : Turn) :
    service.history.countP (fun entry => entry.op.turns entry.reply = some due) =
      service.history.countP (fun entry => entry.op.takes = some due) +
        service.processes.countP fun process =>
          process.program.awaited.any fun op => op.takes = some due :=
  Discipline.obligations_balance (turns_reached reaches) due

/-- A dispatch has been let through and is about to call its provider. -/
theorem call_permitted : ∃ service : Service,
    service.awaits 1 = some (.sendSms "twilio"
      { «to» := "+15550100", body := "hello", referenceId := 0 }) ∧
    service.history.countP
      (fun entry => entry.op.turns entry.reply = some (.permitted "twilio")) = 1 := by
  obtain ⟨service, reaches, found⟩ := execute_exists
    (step (.defaults ["twilio"])) (fun _ _ => True) initial
    ([Event.sends "key"] ++ Event.answers 0 6 ++ [.execute 0] ++ Event.answers 1 4)
    (fun service => service.awaits 1 = some (.sendSms "twilio"
        { «to» := "+15550100", body := "hello", referenceId := 0 }) &&
      service.history.countP
        (fun entry => entry.op.takes = some (.permitted "twilio")) == 0 &&
      service.processes.countP (fun process =>
        process.program.awaited.any fun op => op.takes = some (.permitted "twilio")) == 1)
    (by decide)
  simp only [Bool.and_eq_true, decide_eq_true_eq, beq_iff_eq] at found
  obtain ⟨⟨awaits, none⟩, waiting⟩ := found
  have balance := calls_permitted reaches (.permitted "twilio")
  exact ⟨service, awaits, by omega⟩

end Service

end SmsNotification
