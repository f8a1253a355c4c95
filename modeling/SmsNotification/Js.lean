import Mathlib.Algebra.Order.Field.Rat
import Mathlib.Algebra.Order.Ring.Nat

/-! The string operations of the JavaScript runtime that the service relies on. -/

namespace Js

/-- `WhiteSpace` and `LineTerminator` of ECMAScript, the characters `trim` removes. -/
def isWhiteSpace (char : Char) : Bool :=
  let code := char.toNat
  (0x09 ≤ code && code ≤ 0x0D) || code == 0x20 || code == 0xA0 || code == 0x1680 ||
    (0x2000 ≤ code && code ≤ 0x200A) || code == 0x2028 || code == 0x2029 || code == 0x202F ||
    code == 0x205F || code == 0x3000 || code == 0xFEFF

def trimList (chars : List Char) : List Char :=
  ((chars.dropWhile isWhiteSpace).reverse.dropWhile isWhiteSpace).reverse

def trim (text : String) : String :=
  String.ofList (trimList text.toList)

/-- `split` at every occurrence of a one-character separator. -/
def split (text : String) (separator : Char) : List String :=
  (text.toList.splitOn separator).map String.ofList

/-- `length` counts UTF-16 code units. -/
def utf16Length (text : String) : Nat :=
  (text.toList.map fun char => if char.toNat < 0x10000 then 1 else 2).sum

/-- A string by its UTF-16 code units, where a method may cut a surrogate pair in two. -/
abbrev CodeUnits := List UInt16

def sliceIndex (length : Nat) (index : Int) : Nat :=
  if index < 0 then (length + index).toNat else min index.toNat length

/-- `slice(start)`, or `slice(start, stop)`. -/
def CodeUnits.slice (units : CodeUnits) (start : Int) (stop : Option Int) : CodeUnits :=
  let last := (stop.map (sliceIndex units.length)).getD units.length
  (units.take last).drop (sliceIndex units.length start)

/-- The case conversions of the runtime. Outside ASCII they come from the Unicode tables, which may
change the length of a text and depend on context, so they are a parameter here. -/
structure CaseMapping where
  toLowerCase : String → String
  toUpperCase : String → String
  lower_ascii : ∀ text : String, (∀ char ∈ text.toList, char.toNat < 128) →
    toLowerCase text = String.ofList (text.toList.map Char.toLower)
  upper_ascii : ∀ text : String, (∀ char ∈ text.toList, char.toNat < 128) →
    toUpperCase text = String.ofList (text.toList.map Char.toUpper)

def asciiCase : CaseMapping where
  toLowerCase text := String.ofList (text.toList.map Char.toLower)
  toUpperCase text := String.ofList (text.toList.map Char.toUpper)
  lower_ascii _ _ := rfl
  upper_ascii _ _ := rfl

/-- The nearest double, ties to even; `none` is an overflow to `Infinity`. -/
def roundToDouble (value : Nat) : Option Nat :=
  if value < 2 ^ 53 then some value
  else
    let unit := 2 ^ (Nat.log2 value - 52)
    let below := value / unit
    let rounded :=
      if 2 * (value % unit) < unit ∨ (2 * (value % unit) = unit ∧ below % 2 = 0) then below * unit
      else (below + 1) * unit
    if rounded < 2 ^ 1024 then some rounded else none

/-- `Math.abs(left - right)` for two integers; `none` is `Infinity`. -/
def distance (left right : Int) : Option Nat := roundToDouble (left - right).natAbs

def decimalValue (digits : List Char) : Nat :=
  digits.foldl (fun value digit => 10 * value + (digit.toNat - '0'.toNat)) 0

/-- `Number.parseInt(text, 10)`, which stops at the first character that is not a digit; `none` when
the result is not finite. -/
def parseInt (text : String) : Option Int :=
  let chars := text.toList.dropWhile isWhiteSpace
  let negative := chars.head? = some '-'
  let digits := (if negative ∨ chars.head? = some '+' then chars.drop 1 else chars).takeWhile
    Char.isDigit
  if digits = [] then none
  else (roundToDouble (decimalValue digits)).map fun magnitude =>
    if negative then -(magnitude : Int) else magnitude

example : parseInt " +12abc" = some 12 := by decide

example : parseInt "seven" = none := by decide

inductive Number
  | finite (value : Rat)
  | infinity
  | negativeInfinity
  | notANumber
  deriving DecidableEq

def mathMax : Number → Number → Number
  | .notANumber, _ => .notANumber
  | _, .notANumber => .notANumber
  | .infinity, _ => .infinity
  | _, .infinity => .infinity
  | .negativeInfinity, right => right
  | left, .negativeInfinity => left
  | .finite left, .finite right => .finite (max left right)

/-- `number <= bound` -/
def Number.atMost (bound : Rat) : Number → Prop
  | finite value => value ≤ bound
  | negativeInfinity => True
  | _ => False

/-- A value of type `unknown`. A number comes with what `String` makes of it, when it is finite. -/
inductive Value
  | undefined
  | null
  | boolean (value : Bool)
  | number (text : Option String)
  | string (value : String)
  | array (items : List Value)
  | object (fields : List (String × Value))

abbrev Record := List (String × Value)

/-- `record[field]` -/
def Record.get (record : Record) (field : String) : Value :=
  (record.lookup field).getD .undefined

/-- `left ?? right` -/
def Value.orElse : Value → Value → Value
  | undefined, right => right
  | null, right => right
  | left, _ => left

/-- A `Buffer`, with the text of `toString('utf8')`. -/
structure Buffer where
  length : Nat
  text : String

end Js
