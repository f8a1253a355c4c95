import SmsNotification.Webhooks
import SmsNotification.Runs

/-!
The shape of the codes `sanitizeDiagnosticCode` returns, and of the `lastError` texts that the
webhook services build from them.
-/

namespace SmsNotification

/-- At most 64 of `A`-`Z` and `0`-`9`, with single underscores strictly between them. -/
structure CanonicalCode (code : String) : Prop where
  nonempty : code ≠ ""
  short : code.length ≤ 64
  alphabet : ∀ char ∈ code.toList,
    ('A' ≤ char ∧ char ≤ 'Z') ∨ ('0' ≤ char ∧ char ≤ '9') ∨ char = '_'
  single : code.toList.IsChain fun left right => ¬(left = '_' ∧ right = '_')
  starts : code.toList.head? ≠ some '_'
  ends : code.toList.getLast? ≠ some '_'

theorem isCodeChar_iff (char : Char) :
    isCodeChar char = true ↔ ('A' ≤ char ∧ char ≤ 'Z') ∨ ('0' ≤ char ∧ char ≤ '9') := by
  simp [isCodeChar]

theorem canonicalCode_iff (chars : List Char) :
    CanonicalCode (String.ofList chars) ↔
      chars ≠ [] ∧ chars.length ≤ 64 ∧ Runs.Separated isCodeChar '_' chars := by
  constructor
  · intro canonical
    have nonempty := canonical.nonempty
    have short := canonical.short
    have alphabet := canonical.alphabet
    have single := canonical.single
    have starts := canonical.starts
    have ends := canonical.ends
    simp only [String.toList_ofList, String.length_ofList] at *
    refine ⟨by simpa using nonempty, short, ?_, single, starts, ends⟩
    intro char found
    rw [isCodeChar_iff, or_assoc]
    exact alphabet char found
  · rintro ⟨nonempty, short, separated⟩
    constructor
    · simpa using nonempty
    · simpa using short
    · intro char found
      rw [String.toList_ofList] at found
      rw [← or_assoc, ← isCodeChar_iff]
      exact separated.alphabet char found
    · simpa using separated.single
    · simpa using separated.starts
    · simpa using separated.ends

theorem collapseRuns_eq (inRun : Bool) (chars : List Char) :
    collapseRuns inRun chars = Runs.collapse isCodeChar '_' inRun chars := by
  induction chars generalizing inRun with
  | nil => rfl
  | cons char rest ih => simp [collapseRuns, Runs.collapse, ih]

theorem stripUnderscores_collapseRuns (chars : List Char) :
    stripUnderscores (collapseRuns false chars) =
      Runs.strip '_' (Runs.collapse isCodeChar '_' false chars) := by
  rw [collapseRuns_eq]
  rfl

/-- The maximal runs of `A`-`Z` and `0`-`9` in what is normalized. -/
def codeWords (caseMapping : Js.CaseMapping) (value : String) : List (List Char) :=
  Runs.words isCodeChar (caseMapping.toUpperCase (Js.trim value)).toList

/-- The words up to one that is not the last take 63 characters, with the underscores between them,
so that the underscore after them is the last character that is kept. -/
def CutAfterWord (caseMapping : Js.CaseMapping) (value : String) : Prop :=
  ∃ closed, closed + 1 < (codeWords caseMapping value).length ∧
    (((codeWords caseMapping value).take (closed + 1)).map List.length).sum + closed =
      maxDiagnosticCodeLength - 1

theorem sanitized_canonical_iff (caseMapping : Js.CaseMapping) (value : String) :
    CanonicalCode (sanitizeDiagnosticCode caseMapping value) ↔ ¬CutAfterWord caseMapping value := by
  have positive : 0 < maxDiagnosticCodeLength := by decide
  have cut := Runs.take_strip_collapse_iff isCodeChar '_' (by decide)
    (caseMapping.toUpperCase (Js.trim value)).toList positive
  rw [← stripUnderscores_collapseRuns] at cut
  rw [CutAfterWord, codeWords, ← cut]
  simp only [sanitizeDiagnosticCode]
  generalize stripUnderscores _ = sanitized
  by_cases empty : sanitized.length = 0
  · have unknown : CanonicalCode "UNKNOWN" := by
      have spelled : String.ofList "UNKNOWN".toList = "UNKNOWN" := String.ofList_toList
      rw [← spelled, canonicalCode_iff]
      have kept : "UNKNOWN".toList.all isCodeChar = true := by decide
      refine ⟨by decide, by decide, ?_⟩
      exact Runs.separated_of_kept isCodeChar '_' (by decide) (List.all_eq_true.mp kept)
    rw [if_pos empty, List.length_eq_zero_iff.mp empty]
    constructor
    · intro canonical
      exact Runs.separated_of_kept isCodeChar '_' (by decide) (by simp)
    · intro separated
      exact unknown
  · rw [if_neg empty, canonicalCode_iff]
    have short : (sanitized.take maxDiagnosticCodeLength).length ≤ 64 := by
      rw [List.length_take]
      exact Nat.min_le_left 64 _
    have nonempty : sanitized.take maxDiagnosticCodeLength ≠ [] := by
      intro none
      have taken := congrArg List.length none
      rw [List.length_take, List.length_nil] at taken
      omega
    constructor
    · intro canonical
      exact canonical.2.2
    · intro separated
      exact ⟨nonempty, short, separated⟩

def InCodeRange (char : Char) : Prop :=
  (48 ≤ char.toNat ∧ char.toNat ≤ 57) ∨ (65 ≤ char.toNat ∧ char.toNat ≤ 90) ∨ char.toNat = 95

theorem inCodeRange {char : Char} (allowed : isCodeChar char = true ∨ char = '_') :
    InCodeRange char := by
  cases allowed with
  | inl codeChar =>
      rw [isCodeChar_iff] at codeChar
      simp only [Char.le_def, UInt32.le_iff_toNat_le] at codeChar
      have value : char.val.toNat = char.toNat := rfl
      have bounds : 'A'.val.toNat = 65 ∧ 'Z'.val.toNat = 90 ∧ '0'.val.toNat = 48 ∧
          '9'.val.toNat = 57 := by decide
      unfold InCodeRange
      omega
  | inr underscore =>
      rw [underscore]
      unfold InCodeRange
      decide

theorem InCodeRange.not_whiteSpace {char : Char} (range : InCodeRange char) :
    Js.isWhiteSpace char = false := by
  unfold InCodeRange at range
  simp only [Js.isWhiteSpace, Bool.or_eq_false_iff, Bool.and_eq_false_iff, decide_eq_false_iff_not,
    beq_eq_false_iff_ne]
  omega

theorem InCodeRange.toUpper {char : Char} (range : InCodeRange char) : char.toUpper = char := by
  unfold InCodeRange at range
  have notLower : ¬('a'.val ≤ char.val ∧ char.val ≤ 'z'.val) := by
    have value : char.val.toNat = char.toNat := rfl
    have bounds : 'a'.val.toNat = 97 ∧ 'z'.val.toNat = 122 := by decide
    simp only [UInt32.le_iff_toNat_le]
    omega
  exact dif_neg notLower

theorem trimList_of_inCodeRange {chars : List Char} (range : ∀ char ∈ chars, InCodeRange char) :
    Js.trimList chars = chars := by
  have dropped : ∀ chars : List Char, (∀ char ∈ chars, InCodeRange char) →
      chars.dropWhile Js.isWhiteSpace = chars := by
    intro chars range
    cases chars with
    | nil => rfl
    | cons char rest => simp [(range char (by simp)).not_whiteSpace]
  rw [Js.trimList, dropped chars range, dropped chars.reverse (by simpa using range),
    List.reverse_reverse]

theorem CanonicalCode.sanitized {code : String} (canonical : CanonicalCode code)
    (caseMapping : Js.CaseMapping) : sanitizeDiagnosticCode caseMapping code = code := by
  have spelled : String.ofList code.toList = code := String.ofList_toList
  rw [← spelled, canonicalCode_iff] at canonical
  have range : ∀ char ∈ code.toList, InCodeRange char :=
    fun char found => inCodeRange (canonical.2.2.alphabet char found)
  have trimmed : Js.trim code = code := by
    rw [Js.trim, trimList_of_inCodeRange range, spelled]
  have upper : caseMapping.toUpperCase code = code := by
    rw [caseMapping.upper_ascii]
    · have same : code.toList.map Char.toUpper = code.toList :=
        List.map_congr_left (fun char found => (range char found).toUpper) |>.trans (List.map_id _)
      rw [same, spelled]
    · intro char found
      have bound := range char found
      unfold InCodeRange at bound
      omega
  have stripped := canonical.2.2.strip_collapse
  rw [sanitizeDiagnosticCode, trimmed, upper, stripUnderscores_collapseRuns, stripped]
  have positive := List.length_pos_iff.mpr canonical.1
  have whole : code.toList.take maxDiagnosticCodeLength = code.toList :=
    List.take_of_length_le canonical.2.1
  rw [if_neg (by omega), whole, spelled]

def twilioDiagnostic (callback : TwilioStatusCallback) : String :=
  (callback.errorCode.filter (· != "")).getD callback.messageStatus

def birdDiagnostic (event : BirdDeliveryEvent) : String :=
  (event.errorCode.filter (· != "")).getD (eventSuffix event.type)

theorem twilioPrefixes_ne (left right : String) :
    "TWILIO_ERROR_" ++ left ≠ "TWILIO_STATUS_" ++ right := by
  intro equal
  have chars := congrArg String.toList equal
  simp at chars

theorem buildTwilioLastError_canonical_iff (caseMapping : Js.CaseMapping)
    (callback : TwilioStatusCallback) :
    (∃ code, CanonicalCode code ∧
      (buildTwilioLastError caseMapping callback = "TWILIO_ERROR_" ++ code ∨
        buildTwilioLastError caseMapping callback = "TWILIO_STATUS_" ++ code)) ↔
      CanonicalCode (sanitizeDiagnosticCode caseMapping (twilioDiagnostic callback)) := by
  unfold buildTwilioLastError twilioDiagnostic
  cases callback.errorCode.filter (· != "") with
  | none =>
      constructor
      · rintro ⟨code, canonical, errorText | statusText⟩
        · exact absurd errorText.symm (twilioPrefixes_ne _ _)
        · rw [String.append_right_inj] at statusText
          exact statusText ▸ canonical
      · intro canonical
        exact ⟨_, canonical, .inr rfl⟩
  | some errorCode =>
      constructor
      · rintro ⟨code, canonical, errorText | statusText⟩
        · rw [String.append_right_inj] at errorText
          exact errorText ▸ canonical
        · exact absurd statusText (twilioPrefixes_ne _ _)
      · intro canonical
        exact ⟨_, canonical, .inl rfl⟩

theorem buildBirdLastError_canonical_iff (caseMapping : Js.CaseMapping)
    (event : BirdDeliveryEvent) :
    (∃ code, CanonicalCode code ∧ buildBirdLastError caseMapping event = "BIRD_" ++ code) ↔
      CanonicalCode (sanitizeDiagnosticCode caseMapping (birdDiagnostic event)) := by
  have built : buildBirdLastError caseMapping event =
      "BIRD_" ++ sanitizeDiagnosticCode caseMapping (birdDiagnostic event) := by
    unfold buildBirdLastError birdDiagnostic
    cases event.errorCode.filter (· != "") with
    | none => rfl
    | some errorCode => rfl
  rw [built]
  constructor
  · rintro ⟨code, canonical, text⟩
    rw [String.append_right_inj] at text
    exact text ▸ canonical
  · intro canonical
    exact ⟨_, canonical, rfl⟩

/-- A code is canonical, and stays as it is, unless the cut at 64 characters leaves an underscore at
its end; a `lastError` ends in a canonical code exactly when the text it is built from avoids
that. -/
theorem diagnosticCodes_canonical_iff (caseMapping : Js.CaseMapping) :
    (∀ value, (CanonicalCode (sanitizeDiagnosticCode caseMapping value) ∧
        sanitizeDiagnosticCode caseMapping (sanitizeDiagnosticCode caseMapping value) =
          sanitizeDiagnosticCode caseMapping value) ↔ ¬CutAfterWord caseMapping value) ∧
      (∀ callback : TwilioStatusCallback, (∃ code, CanonicalCode code ∧
        (buildTwilioLastError caseMapping callback = "TWILIO_ERROR_" ++ code ∨
          buildTwilioLastError caseMapping callback = "TWILIO_STATUS_" ++ code)) ↔
        ¬CutAfterWord caseMapping (twilioDiagnostic callback)) ∧
      ∀ event : BirdDeliveryEvent, (∃ code, CanonicalCode code ∧
        buildBirdLastError caseMapping event = "BIRD_" ++ code) ↔
        ¬CutAfterWord caseMapping (birdDiagnostic event) := by
  refine ⟨?_, ?_, ?_⟩
  · intro value
    rw [← sanitized_canonical_iff]
    constructor
    · intro both
      exact both.1
    · intro canonical
      exact ⟨canonical, canonical.sanitized caseMapping⟩
  · intro callback
    rw [← sanitized_canonical_iff]
    exact buildTwilioLastError_canonical_iff caseMapping callback
  · intro event
    rw [← sanitized_canonical_iff]
    exact buildBirdLastError_canonical_iff caseMapping event

/-- Sixty-three letters, a separator and one letter more. -/
theorem truncated_code_ends_in_underscore :
    sanitizeDiagnosticCode Js.asciiCase (String.ofList (List.replicate 63 'A' ++ ['-', 'B'])) =
        String.ofList (List.replicate 63 'A' ++ ['_']) ∧
      ¬∀ (caseMapping : Js.CaseMapping) (value : String),
        CanonicalCode (sanitizeDiagnosticCode caseMapping value) ∧
          sanitizeDiagnosticCode caseMapping (sanitizeDiagnosticCode caseMapping value) =
            sanitizeDiagnosticCode caseMapping value := by
  have cut : sanitizeDiagnosticCode Js.asciiCase
      (String.ofList (List.replicate 63 'A' ++ ['-', 'B'])) =
        String.ofList (List.replicate 63 'A' ++ ['_']) := by decide
  refine ⟨cut, fun canonical => ?_⟩
  have ends := (canonical Js.asciiCase
    (String.ofList (List.replicate 63 'A' ++ ['-', 'B']))).1.ends
  rw [cut, String.toList_ofList] at ends
  exact ends (by decide)

end SmsNotification
