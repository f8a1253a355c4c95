import SmsNotification.Numerals
import SmsNotification.WebhookRequests

/-!
The timestamp of a Bird delivery. It is read by `parseInt`, which stops at the first character that
is no digit, so the check takes some headers for integers that they are not.
-/

namespace SmsNotification

namespace BirdSignatureVerifier

variable {config : WebhookConfig}

def unwrapped (webhookId : String) : Option Js.Value → BirdVerificationResult
  | some event => .ok webhookId event
  | none => .failed .invalidSignature

/-- `verify` with the call of `unwrap` as an effect, in whatever monad the SDK is called. -/
def verifyWith {m : Type → Type} [Monad m]
    (unwrap : String → List (String × String) → m (Option Js.Value)) (config : WebhookConfig)
    (now : Date) (rawBody : Option Js.Buffer) (headers : Js.Record) : m BirdVerificationResult :=
  if config.secret = "" then pure (.failed .secretNotConfigured)
  else match rawBody.filter (·.length ≠ 0) with
  | none => pure (.failed .missingRawBody)
  | some rawBody =>
      match readHeader config headers birdWebhookIdHeader,
        readHeader config headers birdWebhookTimestampHeader,
        readHeader config headers birdWebhookSignatureHeader with
      | some webhookId, some webhookTimestamp, some webhookSignature =>
          match verifyTimestamp config now webhookTimestamp with
          | some failure => pure (.failed failure)
          | none => do
              let event ← unwrap rawBody.text [(birdWebhookIdHeader, webhookId),
                (birdWebhookTimestampHeader, webhookTimestamp),
                (birdWebhookSignatureHeader, webhookSignature)]
              pure (unwrapped webhookId event)
      | _, _, _ => pure (.failed .missingHeaders)

def unwrap (payload : String) (headers : List (String × String)) :
    StateM (BirdSignatureVerifier config) (Option Js.Value) := fun verifier =>
  let (unwrapper, verifier) := verifier.getUnwrapper
  (unwrapper payload headers, verifier)

theorem verifyWith_unreadable {m : Type → Type} [Monad m]
    (unwrap : String → List (String × String) → m (Option Js.Value)) (now : Date)
    {rawBody : Option Js.Buffer} {headers : Js.Record} (configured : config.secret ≠ "")
    (hasBody : (rawBody.filter (·.length ≠ 0)).isSome = true)
    (unreadable : readHeader config headers birdWebhookTimestampHeader = none) :
    verifyWith unwrap config now rawBody headers = pure (.failed .missingHeaders) := by
  obtain ⟨body, hasBody⟩ := Option.isSome_iff_exists.mp hasBody
  rw [verifyWith, if_neg configured, hasBody, unreadable]
  cases readHeader config headers birdWebhookIdHeader <;> rfl

theorem verify_eq (verifier : BirdSignatureVerifier config) (now : Date)
    (rawBody : Option Js.Buffer) (headers : Js.Record) :
    verifier.verify now rawBody headers =
      verifyWith unwrap config now rawBody headers verifier := by
  by_cases configured : config.secret = ""
  · rw [verify, verifyWith, if_pos configured, if_pos configured]
    rfl
  rw [verify, verifyWith, if_neg configured, if_neg configured]
  cases rawBody.filter (·.length ≠ 0) with
  | none => rfl
  | some body =>
      cases readHeader config headers birdWebhookIdHeader with
      | none => rfl
      | some webhookId =>
          cases readHeader config headers birdWebhookTimestampHeader with
          | none => rfl
          | some webhookTimestamp =>
              cases readHeader config headers birdWebhookSignatureHeader with
              | none => rfl
              | some webhookSignature =>
                  simp only
                  cases verifyTimestamp config now webhookTimestamp with
                  | some failure => rfl
                  | none =>
                      change _ = (unwrapped webhookId (verifier.getUnwrapper.1 body.text _),
                        verifier.getUnwrapper.2)
                      simp only
                      split
                      next event answered => rw [answered, unwrapped]
                      next answered => rw [answered, unwrapped]

end BirdSignatureVerifier

/-- A request that gets as far as the check of its timestamp, with what has been read of it. -/
structure TimestampedRequest (config : WebhookConfig) where
  rawBody : Option Js.Buffer
  headers : Js.Record
  body : Js.Buffer
  webhookId : String
  webhookTimestamp : String
  webhookSignature : String
  configured : config.secret ≠ ""
  hasBody : rawBody.filter (·.length ≠ 0) = some body
  hasId : readHeader config headers birdWebhookIdHeader = some webhookId
  hasTimestamp : readHeader config headers birdWebhookTimestampHeader = some webhookTimestamp
  hasSignature : readHeader config headers birdWebhookSignatureHeader = some webhookSignature

namespace TimestampedRequest

open BirdSignatureVerifier

variable {config : WebhookConfig} (request : TimestampedRequest config) (now : Date)

/-- Whatever `unwrap` does, it is called once, and its answer decides. -/
def Proceeds : Prop :=
  ∀ (m : Type → Type) [Monad m] (unwrap : String → List (String × String) → m (Option Js.Value)),
    verifyWith unwrap config now request.rawBody request.headers = do
      let event ← unwrap request.body.text [(birdWebhookIdHeader, request.webhookId),
        (birdWebhookTimestampHeader, request.webhookTimestamp),
        (birdWebhookSignatureHeader, request.webhookSignature)]
      pure (unwrapped request.webhookId event)

def Rejects (reason : BirdVerificationFailure) : Prop :=
  ∀ (m : Type → Type) [Monad m] (unwrap : String → List (String × String) → m (Option Js.Value)),
    verifyWith unwrap config now request.rawBody request.headers = pure (.failed reason)

variable {request now}

theorem proceeds_iff :
    request.Proceeds now ↔ verifyTimestamp config now request.webhookTimestamp = none := by
  constructor
  · intro proceeds
    have asked := proceeds Option fun _ _ => none
    simp only [verifyWith, request.configured, request.hasBody, request.hasId,
      request.hasTimestamp, request.hasSignature, if_false] at asked
    cases checked : verifyTimestamp config now request.webhookTimestamp with
    | none => rfl
    | some failure => simp [checked] at asked
  · intro checked m _ unwrap
    simp only [verifyWith, request.configured, request.hasBody, request.hasId,
      request.hasTimestamp, request.hasSignature, checked, if_false]

theorem rejects_iff {reason : BirdVerificationFailure} :
    request.Rejects now reason ↔
      verifyTimestamp config now request.webhookTimestamp = some reason := by
  constructor
  · intro rejects
    have unasked := rejects Option fun _ _ => none
    simp only [verifyWith, request.configured, request.hasBody, request.hasId,
      request.hasTimestamp, request.hasSignature, if_false] at unasked
    cases checked : verifyTimestamp config now request.webhookTimestamp with
    | none => simp [checked] at unasked
    | some failure =>
        simp only [checked, Option.pure_def, Option.some.injEq,
          BirdVerificationResult.failed.injEq] at unasked
        rw [unasked]
  · intro checked m _ unwrap
    simp only [verifyWith, request.configured, request.hasBody, request.hasId,
      request.hasTimestamp, request.hasSignature, checked, if_false]

theorem Proceeds.verify (proceeds : request.Proceeds now)
    (verifier : BirdSignatureVerifier config) :
    verifier.verify now request.rawBody request.headers =
      (unwrapped request.webhookId (verifier.getUnwrapper.1 request.body.text
        [(birdWebhookIdHeader, request.webhookId),
          (birdWebhookTimestampHeader, request.webhookTimestamp),
          (birdWebhookSignatureHeader, request.webhookSignature)]), verifier.getUnwrapper.2) := by
  rw [verify_eq, proceeds]
  rfl

theorem Rejects.verify {reason : BirdVerificationFailure} (rejects : request.Rejects now reason)
    (verifier : BirdSignatureVerifier config) :
    verifier.verify now request.rawBody request.headers = (.failed reason, verifier) := by
  rw [verify_eq, rejects]
  rfl

end TimestampedRequest

def WebhookConfig.receiving : WebhookConfig where
  birdSecret := some "secret"
  birdToleranceSeconds := some 300
  twilioAuthToken := none
  publicBaseUrl := none
  clientFactory _ _ _ := none
  validateRequest _ _ _ _ := false
  parseDate _ := none
  caseMapping := Js.asciiCase

section Timestamps

variable {config : WebhookConfig} {now : Date} {text : String} {number : Int} {rest : List Char}

open TimestampedRequest

def InWindow (config : WebhookConfig) (now : Date) (seconds : Int) : Prop :=
  |now / 1000 - seconds| ≤ config.toleranceSeconds

/-- The tolerance holds for the nearest double, in the arithmetic of doubles. -/
def InWindowAsDouble (config : WebhookConfig) (now : Date) (seconds : Int) : Prop :=
  ∃ double distance, Js.toDouble seconds = some double ∧
    Js.distance (now / 1000) double = some distance ∧ distance ≤ config.toleranceSeconds

/-- An integer that the header begins with is all of it exactly when it has a double, and then it is
in the window exactly when its double is. -/
def ReadAsWritten (config : WebhookConfig) (now : Date) (webhookTimestamp : String) : Prop :=
  ∀ number rest, Js.Leads number rest webhookTimestamp.toList →
    (rest = [] ↔ (Js.toDouble number).isSome = true) ∧
      (rest = [] → (InWindowAsDouble config now number ↔ InWindow config now number))

theorem readHeader_trimmed {headers : Js.Record} {name : String}
    (read : readHeader config headers name = some text) :
    text.toList.dropWhile Js.isWhiteSpace = text.toList := by
  have trimmed : ∀ value, readText value = some text →
      text.toList.dropWhile Js.isWhiteSpace = text.toList := by
    intro value found
    obtain ⟨_, same⟩ := Option.ite_none_right_eq_some.mp found
    rw [← Option.some.inj same, Js.trim, String.toList_ofList]
    exact Js.dropWhile_trimList value.toList
  unfold readHeader at read
  split at read
  · exact trimmed _ read
  · exact trimmed _ read
  · simp at read

open BirdSignatureVerifier

theorem verifyTimestamp_unread (trimmed : text.toList.dropWhile Js.isWhiteSpace = text.toList)
    (unread : Js.readInteger text.toList = none) :
    verifyTimestamp config now text = some .invalidTimestamp := by
  have parsed : Js.parseInt text = none := by rw [Js.parseInt_eq, trimmed, unread, Option.bind_none]
  simp only [verifyTimestamp, parsed]

theorem verifyTimestamp_cases (config : WebhookConfig) (now : Date)
    (trimmed : text.toList.dropWhile Js.isWhiteSpace = text.toList)
    (leads : Js.Leads number rest text.toList) :
    Js.toDouble number = none ∧ verifyTimestamp config now text = some .invalidTimestamp ∨
      (Js.toDouble number).isSome = true ∧ InWindowAsDouble config now number ∧
        verifyTimestamp config now text = none ∨
      (Js.toDouble number).isSome = true ∧ ¬InWindowAsDouble config now number ∧
        verifyTimestamp config now text = some .timestampOutOfTolerance := by
  have parsed : Js.parseInt text = Js.toDouble number := by
    rw [Js.parseInt_eq, trimmed, Js.readInteger_eq_some_iff.mpr leads, Option.bind_some]
  unfold verifyTimestamp
  rw [parsed]
  cases rounded : Js.toDouble number with
  | none => exact Or.inl ⟨rfl, rfl⟩
  | some double =>
      refine Or.inr ?_
      cases apart : Js.distance (now / 1000) double with
      | none =>
          refine Or.inr ⟨rfl, ?_, by simp [apart]⟩
          rintro ⟨other, distance, same, found, _⟩
          rw [rounded, Option.some.injEq] at same
          rw [← same, apart] at found
          simp at found
      | some distance =>
          by_cases near : (distance : Int) ≤ config.toleranceSeconds
          · refine Or.inl ⟨rfl, ⟨double, distance, rounded, apart, near⟩, ?_⟩
            simp [apart, near]
          · refine Or.inr ⟨rfl, ?_, by simpa [apart] using near⟩
            rintro ⟨other, distance', same, found, near'⟩
            rw [rounded, Option.some.injEq] at same
            rw [← same, apart, Option.some.injEq] at found
            rw [found] at near
            exact near near'

theorem far_apart {clock bound seconds : Int} (exact : bound + |clock| < 2 ^ 53)
    (large : 2 ^ 53 ≤ seconds.natAbs) : ¬|clock - seconds| ≤ bound := by
  intro near
  have apart : |seconds| ≤ |clock| + |clock - seconds| := by
    rw [abs_sub_comm]
    simpa using abs_add_le clock (seconds - clock)
  rw [Int.abs_eq_natAbs seconds] at apart
  omega

/-- As long as a double can hold both the clock and the tolerance, rounding crosses no edge of the
window: what is rounded is far out of it. -/
theorem inWindowAsDouble_iff (exact : config.toleranceSeconds + |now / 1000| < 2 ^ 53)
    (rounded : (Js.toDouble number).isSome = true) :
    InWindowAsDouble config now number ↔ InWindow config now number := by
  have bound : config.toleranceSeconds < 2 ^ 53 := by
    have clock : (0 : Int) ≤ |now / 1000| := abs_nonneg (now / 1000)
    omega
  obtain ⟨double, rounds⟩ := Option.isSome_iff_exists.mp rounded
  have decides : InWindowAsDouble config now number ↔
      |now / 1000 - double| ≤ config.toleranceSeconds := by
    rw [← Js.distance_le_iff bound]
    constructor
    · rintro ⟨other, apart, same, found, near⟩
      rw [rounds, Option.some.injEq] at same
      rw [← same] at found
      exact ⟨apart, found, near⟩
    · rintro ⟨apart, found, near⟩
      exact ⟨double, apart, rounds, found, near⟩
  rw [decides, InWindow]
  rcases Js.toDouble_cases rounds with ⟨_, rfl⟩ | ⟨large, largeDouble⟩
  · rfl
  · exact iff_of_false (far_apart exact largeDouble) (far_apart exact large)

theorem readAsWritten_iff (exact : config.toleranceSeconds + |now / 1000| < 2 ^ 53) :
    ReadAsWritten config now text ↔ ∀ number rest, Js.Leads number rest text.toList →
      (rest = [] ↔ (Js.toDouble number).isSome = true) := by
  constructor
  · intro reads number rest leads
    exact (reads number rest leads).1
  · intro reads number rest leads
    have whole := reads number rest leads
    exact ⟨whole, fun ends => inWindowAsDouble_iff exact (whole.mp ends)⟩

/-- Verify goes on exactly with the integers in the window, and otherwise says which of the two is
missing. -/
structure TimestampedRequest.Exact (request : TimestampedRequest config) (now : Date) : Prop where
  proceeds : request.Proceeds now ↔ ∃ seconds,
    Js.IsInteger request.webhookTimestamp.toList seconds ∧ InWindow config now seconds
  invalid : (∀ seconds, ¬Js.IsInteger request.webhookTimestamp.toList seconds) →
    request.Rejects now .invalidTimestamp
  outside : ∀ seconds, Js.IsInteger request.webhookTimestamp.toList seconds →
    ¬InWindow config now seconds → request.Rejects now .timestampOutOfTolerance

theorem exact_written {request : TimestampedRequest config}
    (integer : Js.IsInteger request.webhookTimestamp.toList number) :
    request.Exact now ↔
      (verifyTimestamp config now request.webhookTimestamp = none ↔ InWindow config now number) ∧
        (¬InWindow config now number → verifyTimestamp config now request.webhookTimestamp =
          some .timestampOutOfTolerance) := by
  have only : ∀ seconds, Js.IsInteger request.webhookTimestamp.toList seconds → seconds = number :=
    fun seconds other => ((Js.leads_nil_iff.mpr other).unique (Js.leads_nil_iff.mpr integer)).1
  have window : (∃ seconds, Js.IsInteger request.webhookTimestamp.toList seconds ∧
      InWindow config now seconds) ↔ InWindow config now number := by
    constructor
    · rintro ⟨seconds, other, near⟩
      rwa [only seconds other] at near
    · intro near
      exact ⟨number, integer, near⟩
  rw [← proceeds_iff, ← rejects_iff, ← window]
  constructor
  · intro exact
    exact ⟨exact.proceeds, fun far => exact.outside number integer (window.not.mp far)⟩
  · rintro ⟨proceeds, rejects⟩
    refine ⟨proceeds, fun noInteger => absurd integer (noInteger number), ?_⟩
    intro seconds other far
    rw [only seconds other] at far
    exact rejects (window.not.mpr far)

theorem exact_unwritten {request : TimestampedRequest config}
    (noInteger : ∀ seconds, ¬Js.IsInteger request.webhookTimestamp.toList seconds) :
    request.Exact now ↔
      verifyTimestamp config now request.webhookTimestamp = some .invalidTimestamp := by
  constructor
  · intro exact
    exact rejects_iff.mp (exact.invalid noInteger)
  · intro failed
    refine ⟨?_, fun _ => rejects_iff.mpr failed,
      fun seconds integer => absurd integer (noInteger seconds)⟩
    rw [proceeds_iff, failed]
    refine iff_of_false (by simp) ?_
    rintro ⟨seconds, integer, _⟩
    exact noInteger seconds integer

theorem exact_whole {request : TimestampedRequest config}
    (integer : Js.IsInteger request.webhookTimestamp.toList number) :
    request.Exact now ↔ (Js.toDouble number).isSome = true ∧
      (InWindowAsDouble config now number ↔ InWindow config now number) := by
  rw [exact_written integer]
  rcases verifyTimestamp_cases config now (readHeader_trimmed request.hasTimestamp)
    (Js.leads_nil_iff.mpr integer) with
      ⟨unrounded, failed⟩ | ⟨rounded, near, passed⟩ | ⟨rounded, far, failed⟩
  · simp [unrounded, failed]
  · simp [rounded, near, passed]
  · simp [rounded, far, failed]

theorem exact_followed {request : TimestampedRequest config}
    (leads : Js.Leads number rest request.webhookTimestamp.toList) (followed : rest ≠ []) :
    request.Exact now ↔ Js.toDouble number = none := by
  rw [exact_unwritten fun seconds integer =>
    followed (leads.unique (Js.leads_nil_iff.mpr integer)).2]
  rcases verifyTimestamp_cases config now (readHeader_trimmed request.hasTimestamp) leads with
    ⟨unrounded, failed⟩ | ⟨rounded, _, passed⟩ | ⟨rounded, _, failed⟩
  · exact iff_of_true failed unrounded
  · exact iff_of_false (by simp [passed]) (Option.isSome_iff_ne_none.mp rounded)
  · exact iff_of_false (by simp [failed]) (Option.isSome_iff_ne_none.mp rounded)

theorem exact_unread {request : TimestampedRequest config}
    (unread : Js.readInteger request.webhookTimestamp.toList = none) : request.Exact now := by
  have noInteger : ∀ seconds, ¬Js.IsInteger request.webhookTimestamp.toList seconds := by
    intro seconds integer
    have read := Js.readInteger_eq_some_iff.mpr (Js.leads_nil_iff.mpr integer)
    simp [unread] at read
  exact (exact_unwritten noInteger).mpr
    (verifyTimestamp_unread (readHeader_trimmed request.hasTimestamp) unread)

/-- The check is exact for the headers that are read as they are written, and whatever the header,
nothing is asked of the SDK unless the check is passed. -/
theorem bird_timestamp_exact_iff (request : TimestampedRequest config) (now : Date) :
    (request.Exact now ↔ ReadAsWritten config now request.webhookTimestamp) ∧
      (request.Proceeds now ∨ request.Rejects now .invalidTimestamp ∨
        request.Rejects now .timestampOutOfTolerance) := by
  cases read : Js.readInteger request.webhookTimestamp.toList with
  | none =>
      have unread : ReadAsWritten config now request.webhookTimestamp := by
        intro number rest leads
        rw [← Js.readInteger_eq_some_iff, read] at leads
        simp at leads
      have failed : verifyTimestamp config now request.webhookTimestamp = some .invalidTimestamp :=
        verifyTimestamp_unread (readHeader_trimmed request.hasTimestamp) read
      exact ⟨iff_of_true (exact_unread read) unread, Or.inr (Or.inl (rejects_iff.mpr failed))⟩
  | some result =>
      obtain ⟨number, rest⟩ := result
      have leads := Js.readInteger_eq_some_iff.mp read
      constructor
      · have condition : ReadAsWritten config now request.webhookTimestamp ↔
            (rest = [] ↔ (Js.toDouble number).isSome = true) ∧
              (rest = [] → (InWindowAsDouble config now number ↔ InWindow config now number)) := by
          constructor
          · intro reads
            exact reads number rest leads
          · intro reads other rest' leads'
            obtain ⟨rfl, rfl⟩ := leads.unique leads'
            exact reads
        rw [condition]
        by_cases followed : rest = []
        · subst followed
          rw [exact_whole (Js.leads_nil_iff.mp leads)]
          simp
        · rw [exact_followed leads followed]
          simp [followed]
      · rcases verifyTimestamp_cases config now (readHeader_trimmed request.hasTimestamp) leads with
          ⟨_, failed⟩ | ⟨_, _, passed⟩ | ⟨_, _, failed⟩
        · exact Or.inr (Or.inl (rejects_iff.mpr failed))
        · exact Or.inl (proceeds_iff.mpr passed)
        · exact Or.inr (Or.inr (rejects_iff.mpr failed))

def trailing : TimestampedRequest WebhookConfig.receiving where
  rawBody := some ⟨2, "{}"⟩
  headers := [("webhook-id", .string "W1"), ("webhook-timestamp", .string "1700000000abc"),
    ("webhook-signature", .string "v1,")]
  body := ⟨2, "{}"⟩
  webhookId := "W1"
  webhookTimestamp := "1700000000abc"
  webhookSignature := "v1,"
  configured := by decide
  hasBody := rfl
  hasId := by decide
  hasTimestamp := by decide
  hasSignature := by decide

theorem trailing_text_is_accepted :
    trailing.webhookTimestamp = "1700000000abc" ∧ trailing.Proceeds 1700000001000 ∧
      ¬trailing.Exact 1700000001000 := by
  have leads : Js.Leads 1700000000 ['a', 'b', 'c'] trailing.webhookTimestamp.toList :=
    Js.readInteger_eq_some_iff.mp (by decide)
  have accepted : verifyTimestamp .receiving 1700000001000 trailing.webhookTimestamp = none := by
    decide
  refine ⟨rfl, proceeds_iff.mpr accepted, fun exact => ?_⟩
  have unrounded := (exact_followed leads (by simp)).mp exact
  exact absurd unrounded (by decide)

end Timestamps

end SmsNotification
