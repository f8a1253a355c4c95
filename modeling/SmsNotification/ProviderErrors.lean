import Mathlib.Data.Int.Log
import Mathlib.Data.Rat.Floor
import Mathlib.Tactic.NormNum
import SmsNotification.Js

/-!
`provider-error-classifier`: what a value that a provider's SDK throws says about the failure, and
where that is the documented rule.
-/

namespace Js

def roundHalfEven (value : Rat) : Int :=
  let below := value.floor
  let rest := value - below
  if rest < 1 / 2 ∨ (rest = 1 / 2 ∧ below % 2 = 0) then below else below + 1

namespace Number

def round (value : Rat) : Number :=
  if value = 0 then .finite 0
  else
    let exponent := max (Int.log 2 |value|) (-1022)
    let unit : Rat := 2 ^ (exponent - 52)
    let rounded := roundHalfEven (value / unit) * unit
    if 2 ^ 1024 ≤ rounded then .infinity
    else if rounded ≤ -2 ^ 1024 then .negativeInfinity
    else .finite rounded

def times (number : Number) (factor : Rat) : Number :=
  match number with
  | finite value => round (value * factor)
  | other => other

def isPositive : Number → Bool
  | finite value => 0 < value
  | infinity => true
  | _ => false

def isFinite : Number → Bool
  | finite _ => true
  | _ => false

end Number

/-- A value that `throw` can throw. A record or an `Error` comes with its properties; an `Error` also
with its message and the name of its constructor. -/
inductive Thrown
  | undefined
  | null
  | boolean (value : Bool)
  | number (value : Number)
  | bigint (value : Int)
  | symbol
  | string (value : String)
  | function
  | record (properties : List (String × Thrown))
  | error (constructorName message : String) (properties : List (String × Thrown))

namespace Thrown

/-- `value[propertyName]` of an object; `name` is a property of `Error.prototype`. -/
def property (propertyName : String) : Thrown → Option Thrown
  | record properties => properties.lookup propertyName
  | error _ _ properties =>
      properties.lookup propertyName <|>
        if propertyName = "name" then some (.string "Error") else none
  | _ => none

/-- `left ?? right` -/
def orElse : Option Thrown → Option Thrown → Option Thrown
  | none, right => right
  | some undefined, right => right
  | some null, right => right
  | left, _ => left

end Thrown

end Js

namespace SmsNotification

open Js

def retryableStatusCodes : List Number :=
  [.finite 429, .finite 500, .finite 502, .finite 503, .finite 504]

def retryableErrorCodes : List String := ["ECONNRESET", "ETIMEDOUT", "ECONNABORTED", "ENOTFOUND"]

def birdNonRetryableErrorNames : List String :=
  ["BirdAuthError", "BirdPermissionError", "BirdValidationError", "BirdMissingApiKeyError"]

def birdRetryableErrorNames : List String :=
  ["BirdTimeoutError", "BirdConnectionError", "BirdRateLimitError"]

structure NormalizedProviderError where
  message : String
  isRetryable : Bool
  retryAfterMs : Option Number
  deriving DecidableEq

def sanitizeErrorMessage : Thrown → String
  | .error _ message _ =>
      if (Js.trim message).length > 0 then message else "Provider request failed."
  | _ => "Provider request failed."

def isRetryableTransportError (code : Option String) (statusCode : Option Number) : Bool :=
  if code.any fun code => code != "" && retryableErrorCodes.contains code then true
  else statusCode.any retryableStatusCodes.contains

def getNumericProperty (value : Thrown) (propertyName : String) : Option Number :=
  match value.property propertyName with
  | some (.number number) => some number
  | _ => none

def getStringProperty (value : Thrown) (propertyName : String) : Option String :=
  match value.property propertyName with
  | some (.string text) => some text
  | _ => none

/-- `toNumber` is `Number` on a text. -/
def getRetryAfterHeader (toNumber : String → Number) (error : Thrown) : Option Number :=
  match error.property "headers" with
  | none => none
  | some headers =>
      match Thrown.orElse (headers.property "retry-after") (headers.property "Retry-After") with
      | some (.number number) => some number
      | some (.string text) =>
          if (Js.trim text).length > 0 then (some (toNumber text)).filter Number.isFinite else none
      | _ => none

def extractRetryAfterMs (toNumber : String → Number) (error : Thrown) : Option Number :=
  match (getNumericProperty error "retryAfterMs").filter Number.isPositive with
  | some retryAfterMs => some retryAfterMs
  | none =>
      let retryAfter := getNumericProperty error "retryAfter" <|> getRetryAfterHeader toNumber error
      (retryAfter.filter Number.isPositive).map (Number.times · 1000)

def getErrorName : Thrown → Option String
  | error@(.error constructorName _ _) =>
      if constructorName ≠ "" then some constructorName else getStringProperty error "name"
  | error => getStringProperty error "name"

def normalizeTwilioError (toNumber : String → Number) (error : Thrown) :
    NormalizedProviderError where
  message := sanitizeErrorMessage error
  isRetryable := isRetryableTransportError (getStringProperty error "code")
    (getNumericProperty error "status")
  retryAfterMs := extractRetryAfterMs toNumber error

def normalizeBirdError (toNumber : String → Number) (error : Thrown) : NormalizedProviderError where
  message := sanitizeErrorMessage error
  isRetryable :=
    match (getErrorName error).filter (· != "") with
    | some errorName =>
        if birdRetryableErrorNames.contains errorName then true
        else if birdNonRetryableErrorNames.contains errorName then false
        else isRetryableTransportError (getStringProperty error "code")
          (getNumericProperty error "statusCode")
    | none => isRetryableTransportError (getStringProperty error "code")
        (getNumericProperty error "statusCode")
  retryAfterMs := extractRetryAfterMs toNumber error

/-! The rule of the code's list and the documentation's, which has every server error. -/

end SmsNotification
