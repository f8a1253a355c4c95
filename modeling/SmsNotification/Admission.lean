import Mathlib.Data.List.DropRight
import SmsNotification.ErrorCatalog
import SmsNotification.Numerals
import SmsNotification.PhoneMasking
import SmsNotification.ProvidedService

/-!
What stands between a client and `sendSmsRequest`: the decorator that reads the idempotency key and
the validation of the body. Every row and every call of a vendor keeps to what they let through.
-/

namespace Js

def codeUnits (text : String) : CodeUnits :=
  text.toList.flatMap fun char =>
    if char.toNat < 0x10000 then [UInt16.ofNat char.toNat]
    else [UInt16.ofNat (0xD800 + (char.toNat - 0x10000) / 0x400),
      UInt16.ofNat (0xDC00 + (char.toNat - 0x10000) % 0x400)]

theorem codeUnits_length (text : String) : (codeUnits text).length = utf16Length text := by
  unfold codeUnits utf16Length
  induction text.toList with
  | nil => rfl
  | cons char chars ih =>
      rw [List.flatMap_cons, List.length_append, ih, List.map_cons, List.sum_cons]
      by_cases basic : char.toNat < 0x10000
      · rw [if_pos basic, if_pos basic]
        rfl
      · rw [if_neg basic, if_neg basic]
        rfl

theorem length_le_utf16Length (text : String) : text.length ≤ utf16Length text := by
  rw [← String.length_toList]
  unfold utf16Length
  induction text.toList with
  | nil => exact Nat.le_refl 0
  | cons char chars ih =>
      rw [List.length_cons, List.map_cons, List.sum_cons]
      by_cases basic : char.toNat < 0x10000
      · rw [if_pos basic]
        omega
      · rw [if_neg basic]
        omega

theorem trimList_trimList (chars : List Char) : trimList (trimList chars) = trimList chars := by
  have leading := dropWhile_trimList chars
  have trailing : (trimList chars).reverse.dropWhile isWhiteSpace = (trimList chars).reverse := by
    rw [trimList, List.reverse_reverse, List.dropWhile_idempotent]
  rw [trimList, leading, trailing, List.reverse_reverse]

theorem trim_trim (text : String) : trim (trim text) = trim text := by
  rw [trim, trim, String.toList_ofList, trimList_trimList]

/-- `/\S/` -/
def hasContent (text : String) : Bool := text.toList.any fun char => !isWhiteSpace char

end Js

namespace SmsNotification

open Concurrency

/-- The decorator `IdempotencyKey`, from the value of its header. An empty value is blank too. -/
def readIdempotencyKey : Option String → Except ErrorCode String
  | none => .error .smsIdempotencyKeyRequired
  | some value =>
      if Js.utf16Length (Js.trim value) = 0 then .error .smsIdempotencyKeyRequired
      else if Js.utf16Length (Js.trim value) > idempotencyKeyMaxLength then
        .error .smsIdempotencyKeyTooLong
      else .ok (Js.trim value)

/-- What the decorators of `SendSmsDto` promise of a body that the `ValidationPipe` lets through:
`@Matches()` twice, and `@IsOptional()` with `@IsObject()`. The column takes the metadata's JSON
text. -/
structure SendSmsDto.Validates (stringify : Js.Value → String)
    (validationPipe : Js.Value → Option SendSmsDto) : Prop where
  «to» : ∀ body dto, validationPipe body = some dto →
    isE164PhoneNumber (Js.codeUnits dto.to) = true
  message : ∀ body dto, validationPipe body = some dto → Js.hasContent dto.message = true
  metadata : ∀ body dto, validationPipe body = some dto →
    dto.metadata = none ∨ ∃ fields, dto.metadata = some (stringify (.object fields))

inductive Refusal
  | app (code : ErrorCode)
  | validation
  deriving DecidableEq

/-- The arguments of the handler `send`: the decorator is asked before the body. -/
def readRequest (validationPipe : Js.Value → Option SendSmsDto) (header : Option String)
    (body : Js.Value) : Except Refusal (String × SendSmsDto) :=
  match readIdempotencyKey header with
  | .error code => .error (.app code)
  | .ok key =>
      match validationPipe body with
      | none => .error .validation
      | some dto => .ok (key, dto)

structure Admitted (stringify : Js.Value → String) (idempotencyKey : String) (dto : SendSmsDto) :
    Prop where
  trimmed : Js.trim idempotencyKey = idempotencyKey
  present : 0 < Js.utf16Length idempotencyKey
  bounded : Js.utf16Length idempotencyKey ≤ idempotencyKeyMaxLength
  phone : isE164PhoneNumber (Js.codeUnits dto.to) = true
  content : Js.hasContent dto.message = true
  metadata : dto.metadata = none ∨ ∃ fields, dto.metadata = some (stringify (.object fields))

section Admission

variable {stringify : Js.Value → String} {validationPipe : Js.Value → Option SendSmsDto}
  {header : Option String} {body : Js.Value} {key : String} {dto : SendSmsDto}

theorem readIdempotencyKey_ok : readIdempotencyKey header = .ok key ↔
    ∃ value, header = some value ∧ key = Js.trim value ∧ 0 < Js.utf16Length key ∧
      Js.utf16Length key ≤ idempotencyKeyMaxLength := by
  cases header with
  | none => simp [readIdempotencyKey]
  | some value =>
      rw [readIdempotencyKey]
      by_cases blank : Js.utf16Length (Js.trim value) = 0
      · rw [if_pos blank]
        constructor
        · intro refused
          cases refused
        · rintro ⟨_, same, rfl, present, _⟩
          cases same
          omega
      · rw [if_neg blank]
        by_cases long : Js.utf16Length (Js.trim value) > idempotencyKeyMaxLength
        · rw [if_pos long]
          constructor
          · intro refused
            cases refused
          · rintro ⟨_, same, rfl, _, bounded⟩
            cases same
            omega
        · rw [if_neg long]
          constructor
          · intro read
            cases read
            exact ⟨value, rfl, rfl, by omega, by omega⟩
          · rintro ⟨_, same, rfl, _, _⟩
            cases same
            rfl

theorem readRequest_ok (validates : SendSmsDto.Validates stringify validationPipe)
    (admits : readRequest validationPipe header body = .ok (key, dto)) :
    Admitted stringify key dto := by
  unfold readRequest at admits
  cases read : readIdempotencyKey header with
  | error code =>
      rw [read] at admits
      cases admits
  | ok own =>
      rw [read] at admits
      cases valid : validationPipe body with
      | none =>
          simp only [valid] at admits
          cases admits
      | some given =>
          simp only [valid] at admits
          cases admits
          obtain ⟨value, _, rfl, present, bounded⟩ := readIdempotencyKey_ok.mp read
          exact {
            trimmed := Js.trim_trim value
            present := present
            bounded := bounded
            phone := validates.to body dto valid
            content := validates.message body dto valid
            metadata := validates.metadata body dto valid }

theorem isE164PhoneNumber_length {phone : Js.CodeUnits} (valid : isE164PhoneNumber phone = true) :
    phone.length ≤ 16 := by
  cases phone with
  | nil => cases valid
  | cons plus units =>
      cases units with
      | nil => cases valid
      | cons first rest =>
          simp only [isE164PhoneNumber, Bool.and_eq_true, decide_eq_true_eq] at valid
          rw [List.length_cons, List.length_cons]
          omega

end Admission

namespace Service

variable {config : Config} {service following : Service}

theorem step_tags {event : Event} {pid : Nat} {call : Call}
    (stepped : service.step config event = some following)
    (tagged : following.tagOf pid = some call) :
    service.tagOf pid = some call ∨ event = .request call ∨ call.isDispatch = true := by
  have spawned : ∀ (earlier : Service) (own : Call) (program : Action Answer),
      earlier.processes = service.processes →
      (earlier.spawn own program).tagOf pid = some call →
      service.tagOf pid = some call ∨ call = own := by
    intro earlier own program same found
    obtain ⟨process, present, rfl⟩ := Option.map_eq_some_iff.mp found
    rcases getElem?_concat_cases present with before | ⟨_, rfl⟩
    · rw [same] at before
      exact Or.inl (by rw [Pool.tagOf, before, Option.map_some])
    · exact Or.inr rfl
  cases event with
  | request own =>
      simp only [step] at stepped
      split at stepped
      · cases stepped
      · cases stepped
        rcases spawned _ own _ rfl tagged with before | rfl
        · exact Or.inl before
        · exact Or.inr (Or.inl rfl)
  | execute index =>
      obtain ⟨job, _, started⟩ := Option.bind_eq_some_iff.mp stepped
      split at started
      · cases started
        rcases spawned _ _ _ rfl tagged with before | rfl
        · exact Or.inl before
        · exact Or.inr (Or.inr rfl)
      · cases started
  | resume own choice =>
      obtain ⟨_, tags, _⟩ := Pool.resume_keeps stepped
      rw [tags] at tagged
      exact Or.inl tagged
  | settle index =>
      obtain ⟨job, _, ended⟩ := Option.bind_eq_some_iff.mp stepped
      split at ended
      · obtain ⟨result, _, same⟩ := Option.bind_eq_some_iff.mp ended
        cases same
        exact Or.inl tagged
      · cases ended
  | stall index =>
      obtain ⟨job, _, given⟩ := Option.bind_eq_some_iff.mp stepped
      split at given
      · cases given
        exact Or.inl tagged
      · cases given
  | expireCache | expireLock | expireClaim =>
      cases stepped
      exact Or.inl tagged

end Service

theorem ProvidedService.step_tags {settings : ProviderSettings} {config : Config}
    {provided following : ProvidedService} {event : Event} {pid : Nat} {call : Call}
    (stepped : provided.step settings config event = some following)
    (tagged : following.service.tagOf pid = some call) :
    provided.service.tagOf pid = some call ∨ event = .inner (.request call) ∨
      call.isDispatch = true := by
  cases event with
  | inner event =>
      simp only [step] at stepped
      split at stepped
      · cases stepped
      · obtain ⟨service, moved, same⟩ := Option.bind_eq_some_iff.mp stepped
        cases same
        rcases Service.step_tags moved tagged with before | rfl | dispatch
        · exact Or.inl before
        · exact Or.inr (Or.inl rfl)
        · exact Or.inr (Or.inr dispatch)
  | sendSms own =>
      simp only [step] at stepped
      split at stepped
      · split at stepped
        · cases stepped
        · obtain ⟨provider, _, same⟩ := Option.bind_eq_some_iff.mp stepped
          cases same
          exact Or.inl tagged
      · cases stepped
  | exchange index choice =>
      obtain ⟨strategies, _, same⟩ := Option.bind_eq_some_iff.mp stepped
      cases same
      exact Or.inl tagged
  | receive index =>
      obtain ⟨caller, _, stepped⟩ := Option.bind_eq_some_iff.mp stepped
      obtain ⟨process, _, stepped⟩ := Option.bind_eq_some_iff.mp stepped
      obtain ⟨result, _, stepped⟩ := Option.bind_eq_some_iff.mp stepped
      split at stepped
      · cases stepped
      · obtain ⟨service, moved, same⟩ := Option.bind_eq_some_iff.mp stepped
        cases same
        -- a reply resumes a process and starts none
        rcases Service.step_tags moved tagged with before | other | dispatch
        · exact Or.inl before
        · cases other
        · exact Or.inr (Or.inr dispatch)

/-- A row that came with an admitted request, and that fits the columns of its table. -/
structure SmsMessage.Admissible (stringify : Js.Value → String) (config : Config)
    (row : SmsMessage) : Prop where
  admitted : Admitted stringify row.idempotencyKey
    { «to» := row.recipientPhone, message := row.messageBody, metadata := row.metadata }
  short : Js.utf16Length row.messageBody ≤ config.maxMessageLength
  keyFits : row.idempotencyKey.length ≤ 255
  phoneFits : row.recipientPhone.length ≤ 32

theorem RequestData.Requested.admissible {stringify : Js.Value → String} {config : Config}
    {row : SmsMessage} {key : String} {dto : SendSmsDto}
    (requested : row.requestData.Requested config key dto)
    (admitted : Admitted stringify key dto) : row.Admissible stringify config := by
  have keys : row.idempotencyKey = key := requested.key
  have phones : row.recipientPhone = dto.to := requested.phone
  have bodies : row.messageBody = dto.message := requested.body
  have data : row.metadata = dto.metadata := requested.metadata
  constructor
  · rw [keys, phones, bodies, data]
    exact admitted
  · rw [bodies]
    exact requested.short
  · rw [keys]
    exact (Js.length_le_utf16Length key).trans admitted.bounded
  · rw [phones]
    have units := isE164PhoneNumber_length admitted.phone
    rw [Js.codeUnits_length] at units
    have characters := Js.length_le_utf16Length dto.to
    omega

namespace AdmittedService

/-- A request to send comes as a header and a body; everything else happens as before. -/
inductive Event
  | post (header : Option String) (body : Js.Value)
  | inner (event : ProvidedService.Event)

def sends : ProvidedService.Event → Bool
  | .inner (.request (.send _ _)) => true
  | _ => false

def step (validationPipe : Js.Value → Option SendSmsDto) (settings : ProviderSettings)
    (config : Config) (provided : ProvidedService) : Event → Option ProvidedService
  | .post header body =>
      match readRequest validationPipe header body with
      | .ok (key, dto) => provided.step settings config (.inner (.request (.send key dto)))
      | .error _ => some provided
  | .inner event => if sends event then none else provided.step settings config event

variable {stringify : Js.Value → String} {validationPipe : Js.Value → Option SendSmsDto}
  {settings : ProviderSettings} {config : Config} {provided following : ProvidedService}

theorem step_inner {event : Event} (validates : SendSmsDto.Validates stringify validationPipe)
    (stepped : step validationPipe settings config provided event = some following) :
    following = provided ∨ ∃ inner, provided.step settings config inner = some following ∧
      ∀ key dto, inner = .inner (.request (.send key dto)) → Admitted stringify key dto := by
  cases event with
  | post header body =>
      simp only [step] at stepped
      cases admits : readRequest validationPipe header body with
      | error refusal =>
          simp only [admits] at stepped
          exact Or.inl (Option.some.inj stepped).symm
      | ok given =>
          obtain ⟨key, dto⟩ := given
          simp only [admits] at stepped
          refine Or.inr ⟨_, stepped, ?_⟩
          intro key' dto' same
          cases same
          exact readRequest_ok validates admits
  | inner event =>
      simp only [step] at stepped
      by_cases sent : sends event = true
      · rw [if_pos sent] at stepped
        cases stepped
      · rw [if_neg sent] at stepped
        refine Or.inr ⟨event, stepped, ?_⟩
        rintro key dto rfl
        exact absurd rfl sent

theorem refines_provided (validates : SendSmsDto.Validates stringify validationPipe)
    (reaches : Reaches (step validationPipe settings config) (fun _ _ => True) .initial provided) :
    Reaches (ProvidedService.step settings config) (fun _ _ => True) .initial provided ∧
      ∀ pid key dto, provided.service.tagOf pid = some (.send key dto) →
        Admitted stringify key dto := by
  induction reaches with
  | refl =>
      refine ⟨.refl, ?_⟩
      intro pid key dto tagged
      simp [Pool.tagOf, ProvidedService.initial, Service.initial] at tagged
  | step earlier _ stepped ih =>
      obtain ⟨run, admitted⟩ := ih
      rcases step_inner validates stepped with rfl | ⟨inner, moved, admits⟩
      · exact ⟨run, admitted⟩
      · refine ⟨.step run trivial moved, ?_⟩
        intro pid key dto tagged
        rcases ProvidedService.step_tags moved tagged with before | same | dispatch
        · exact admitted pid key dto before
        · exact admits key dto same
        -- what a worker starts is a dispatch, not a request to send
        · cases dispatch

/-- Behind the decorator and the validation, every row holds a trimmed key, an E.164 number and a
text that fit their columns and limits, whatever else happens, and a vendor is only ever handed what
its strategy builds from such a row's recipient, body and id. -/
theorem vendors_get_admitted (validates : SendSmsDto.Validates stringify validationPipe)
    (reaches : Reaches (step validationPipe settings config) (fun _ _ => True) .initial provided) :
    (∀ id row, provided.service.world.messages.findById id = some row →
      row.Admissible stringify config) ∧
    ∀ entry ∈ provided.strategies.history, entry.op.isSend = true →
      ∃ (call : ProviderCall) (reply : Except Js.Thrown String) (row : SmsMessage),
        entry.exchange = call.exchange settings reply ∧
        provided.service.world.messages.findById call.options.referenceId = some row ∧
        call.options = row.sendOptions ∧ row.Admissible stringify config := by
  obtain ⟨run, admitted⟩ := refines_provided validates reaches
  obtain ⟨_, carries⟩ :=
    Service.carriesRequests_reached (ProvidedService.refines_service run)
  have admissible : ∀ id row, provided.service.world.messages.findById id = some row →
      row.Admissible stringify config := by
    intro id row found
    obtain ⟨sender, key, dto, sent, requested⟩ := carries.requested id row found
    exact requested.admissible (admitted sender key dto sent)
  refine ⟨admissible, ?_⟩
  intro entry member sends
  obtain ⟨call, reply, tagged, exchanged⟩ := ProvidedService.handed_over run member sends
  obtain ⟨row, found, asked⟩ := (ProvidedService.provided_reached run).loaded _ call tagged
  exact ⟨call, reply, row, exchanged, found, asked, admissible _ row found⟩

def callsBird : List Event :=
  ((Service.Event.answers 0 6 ++ Service.Event.execute 0 :: Service.Event.answers 1 4).map
    ProvidedService.Event.inner ++
      ([.sendSms 1, .exchange 0 (.answered ""), .exchange 0 (.answered ""),
        .exchange 0 (.answered ""), .exchange 0 (.answered "b1")] : List ProvidedService.Event)).map
    Event.inner

/-- What the pipe does with a body that has a recipient and a message and nothing else. -/
def validatePlain : Js.Value → Option SendSmsDto
  | .object [("to", .string recipient), ("message", .string message)] =>
      if isE164PhoneNumber (Js.codeUnits recipient) && Js.hasContent message then
        some { «to» := recipient, message := message, metadata := none }
      else none
  | _ => none

theorem validatePlain_validates : SendSmsDto.Validates stringify validatePlain := by
  have checked : ∀ body dto, validatePlain body = some dto →
      isE164PhoneNumber (Js.codeUnits dto.to) = true ∧ Js.hasContent dto.message = true ∧
        dto.metadata = none := by
    intro body dto valid
    unfold validatePlain at valid
    split at valid
    · obtain ⟨checks, same⟩ := Option.ite_none_right_eq_some.mp valid
      obtain ⟨phone, content⟩ := Bool.and_eq_true_iff.mp checks
      cases same
      exact ⟨phone, content, rfl⟩
    · cases valid
  constructor
  · exact fun body dto valid => (checked body dto valid).1
  · exact fun body dto valid => (checked body dto valid).2.1
  · exact fun body dto valid => Or.inl (checked body dto valid).2.2

/-- A request without a key and one without content change nothing; the next one is accepted and
handed to Bird. -/
theorem admitted_message_handed : ∃ (provided : ProvidedService)
    (entry : Entry SdkOp SdkOp.Reply Js.Thrown) (call : ProviderCall)
    (reply : Except Js.Thrown String) (row : SmsMessage),
    Reaches (step validatePlain .configured (.defaults ["bird"])) (fun _ _ => True) .initial
      provided ∧
    entry ∈ provided.strategies.history ∧ entry.op.isSend = true ∧
    entry.exchange = call.exchange .configured reply ∧
    provided.service.world.messages.findById call.options.referenceId = some row ∧
    call.options = row.sendOptions ∧ row.Admissible (fun _ => "{}") (.defaults ["bird"]) := by
  let body (message : String) : Js.Value :=
    .object [("to", .string "+15550100"), ("message", .string message)]
  obtain ⟨provided, reaches, found⟩ := execute_exists
    (step validatePlain .configured (.defaults ["bird"])) (fun _ _ => True) .initial
    (.post (some " ") (body " hello ") :: .post (some " key ") (body " ") ::
      .post (some " key ") (body " hello ") :: callsBird)
    (fun provided => provided.strategies.history.any fun entry => entry.op.isSend)
    (by decide)
  obtain ⟨entry, member, sends⟩ := List.any_eq_true.mp found
  obtain ⟨call, reply, row, exchanged, present, asked, admissible⟩ :=
    (vendors_get_admitted validatePlain_validates reaches).2 entry member sends
  exact ⟨provided, entry, call, reply, row, reaches, member, sends, exchanged, present, asked,
    admissible⟩

end AdmittedService

end SmsNotification
