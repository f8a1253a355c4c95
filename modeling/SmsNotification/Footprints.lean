import SmsNotification.Concurrency.Budget
import SmsNotification.Service

/-!
Which operations the parts of a call await at all, whatever the replies are: the lookups of a request,
the publication of a new message, the attempts at one provider.
-/

namespace SmsNotification

open Concurrency

def Op.beyondLookup : Op → Bool
  | findById _ => false
  | findByIdempotencyKey _ => false
  | getMessageId _ => false
  | storeMessageId _ _ => false
  | deleteMessageId _ => false
  | sleep _ => false
  | _ => true

def Op.beyondPublication (row : SmsMessage) : Op → Bool
  | enqueueSms id _ => id ≠ row.id
  | update (.markQueuePublishFailed id _) => id ≠ row.id
  | newDate => false
  | _ => true

/-- What a dispatch of the row hands to a provider. -/
def SmsMessage.sendOptions (row : SmsMessage) : SendSmsOptions where
  «to» := row.recipientPhone
  body := row.messageBody
  referenceId := row.id

def Op.beyondAttempt (row : SmsMessage) : Op → Bool
  | update (.incrementAttempts id) => id ≠ row.id
  | update (.markSent id _ _ _) => id ≠ row.id
  | throttle _ => false
  | sendSms _ options => options ≠ row.sendOptions
  | newDate => false
  | sleep _ => false
  | _ => true

section Lookup

variable {key : String}

open SmsService

theorem call_lookup {op : Op} (own : op.beyondLookup = false) :
    (call op).AtMost Op.beyondLookup 0 :=
  Program.atMost_perform (by simp [own])

theorem findFromIdempotencyCache_lookup :
    (findFromIdempotencyCache key).AtMost Op.beyondLookup 0 := by
  refine (call_lookup rfl).idle_bind fun cachedMessageId => ?_
  cases cachedMessageId with
  | none => exact Program.atMost_pure _
  | some id =>
      refine (call_lookup rfl).idle_bind fun row => ?_
      cases row with
      | none => exact (call_lookup rfl).idle_bind fun _ => Program.atMost_pure _
      | some message => exact Program.atMost_pure _

theorem waitForMessageCreatedByConcurrentRequest_lookup (attempts : Nat) :
    (waitForMessageCreatedByConcurrentRequest key attempts).AtMost Op.beyondLookup 0 := by
  induction attempts with
  | zero => exact Program.atMost_pure _
  | succ attempts ih =>
      refine (call_lookup rfl).idle_bind fun _ => ?_
      refine (call_lookup rfl).idle_bind fun row => ?_
      cases row with
      | none => exact ih
      | some message => exact (call_lookup rfl).idle_bind fun _ => Program.atMost_pure _

theorem recoverUnderLock_lookup (error : Failure) :
    (recoverUnderLock key error).AtMost Op.beyondLookup 0 := by
  have found : (findExistingAfterUniqueViolation key error).AtMost Op.beyondLookup 0 := by
    unfold findExistingAfterUniqueViolation
    split
    · refine (call_lookup rfl).idle_bind fun row => ?_
      cases row with
      | none => exact Program.atMost_throw _
      | some message => exact Program.atMost_pure _
    · exact Program.atMost_pure _
  refine found.idle_bind fun row => ?_
  cases row with
  | none => exact Program.atMost_throw _
  | some message => exact (call_lookup rfl).idle_bind fun _ => Program.atMost_pure _

end Lookup

section Publication

variable {config : Config} {message : SmsMessage}

open SmsService

theorem call_publication {op : Op} (own : op.beyondPublication message = false) :
    (call op).AtMost (Op.beyondPublication message) 0 :=
  Program.atMost_perform (by simp [own])

theorem publishQueuedMessage_publication :
    (publishQueuedMessage config message).AtMost (Op.beyondPublication message) 0 := by
  have publishes : (call (.enqueueSms message.id config.jobAttempts)).AtMost
      (Op.beyondPublication message) 0 := call_publication (by simp [Op.beyondPublication])
  have marks : (markQueuePublishFailed message.id).AtMost (Op.beyondPublication message) 0 :=
    (call_publication rfl).idle_bind fun _ =>
      (call_publication (by simp [Op.beyondPublication])).idle_bind fun _ => Program.atMost_pure _
  exact publishes.tryCatch_idle fun _ => marks.idle_bind fun _ => Program.atMost_throw _

end Publication

section Attempts

variable {config : Config} {message : SmsMessage}

open SmsDispatcherService

theorem call_attempt {op : Op} (own : op.beyondAttempt message = false) :
    (call op).AtMost (Op.beyondAttempt message) 0 :=
  Program.atMost_perform (by simp [own])

theorem markSent_attempt (provider : String) (providerMessageId : Option String) :
    (SmsService.markSent message.id provider providerMessageId).AtMost (Op.beyondAttempt message) 0 :=
  (call_attempt rfl).idle_bind fun _ =>
    (call_attempt (by simp [Op.beyondAttempt])).idle_bind fun _ => Program.atMost_pure _

theorem sendWithProvider_attempt (provider : String) :
    (sendWithProvider message provider).AtMost (Op.beyondAttempt message) 0 := by
  have own : (call (.sendSms provider message.sendOptions)).AtMost (Op.beyondAttempt message) 0 :=
    call_attempt (by simp [Op.beyondAttempt])
  exact own.tryCatch_idle fun _ => Program.atMost_pure _

theorem attemptProvider_attempt (provider : String) (remaining attempt : Nat)
    (lastError : String) : (attemptProvider config message provider remaining attempt
      lastError).AtMost (Op.beyondAttempt message) 0 := by
  induction remaining generalizing attempt lastError with
  | zero => exact Program.atMost_pure _
  | succ remaining ih =>
      have counts : (SmsService.incrementAttempts message.id).AtMost (Op.beyondAttempt message) 0 :=
        (call_attempt (by simp [Op.beyondAttempt])).idle_bind fun _ => Program.atMost_pure _
      refine counts.idle_bind fun _ => ?_
      refine (call_attempt rfl).idle_bind fun _ => ?_
      refine (sendWithProvider_attempt provider).idle_bind fun result => ?_
      split
      · exact (markSent_attempt provider _).idle_bind fun _ => Program.atMost_pure _
      · split
        · exact Program.atMost_pure _
        · split
          · exact Program.atMost_throw _
          · exact (call_attempt rfl).idle_bind fun _ => ih _ _

end Attempts

end SmsNotification
