import Mathlib.Algebra.Order.Ring.Int
import Mathlib.Data.List.TakeWhile
import SmsNotification.Js

/-!
Integers at the beginning of a text. `parseInt` takes an optional sign and as many digits as there
are, and does not look at what follows them.
-/

namespace Js

/-- An optional sign and digits, and nothing else. -/
inductive IsInteger : List Char → Int → Prop
  | unsigned {digits : List Char} : digits ≠ [] → (∀ char ∈ digits, char.isDigit = true) →
      IsInteger digits (decimalValue digits)
  | positive {digits : List Char} : digits ≠ [] → (∀ char ∈ digits, char.isDigit = true) →
      IsInteger ('+' :: digits) (decimalValue digits)
  | negative {digits : List Char} : digits ≠ [] → (∀ char ∈ digits, char.isDigit = true) →
      IsInteger ('-' :: digits) (-decimalValue digits)

/-- The text begins with this integer, which goes on as far as there are digits, and then comes the
rest. -/
def Leads (number : Int) (rest chars : List Char) : Prop :=
  ∃ written, IsInteger written number ∧ chars = written ++ rest ∧
    ∀ next ∈ rest.head?, next.isDigit = false

def withoutSign (chars : List Char) : List Char :=
  if chars.head? = some '-' ∨ chars.head? = some '+' then chars.drop 1 else chars

def readInteger (chars : List Char) : Option (Int × List Char) :=
  if (withoutSign chars).takeWhile Char.isDigit = [] then none
  else
    let magnitude := decimalValue ((withoutSign chars).takeWhile Char.isDigit)
    some (if chars.head? = some '-' then -magnitude else magnitude,
      (withoutSign chars).dropWhile Char.isDigit)

def toDouble (number : Int) : Option Int :=
  (roundToDouble number.natAbs).map fun magnitude : Nat => number.sign * magnitude

variable {chars digits rest : List Char} {number : Int}

theorem toDouble_natCast (value : Nat) :
    toDouble value = (roundToDouble value).map Nat.cast := by
  cases value with
  | zero => rfl
  | succ value =>
      rw [toDouble, Int.natAbs_natCast, Int.sign_eq_one_of_pos (by omega)]
      cases roundToDouble (value + 1) <;> simp

theorem toDouble_neg (number : Int) :
    toDouble (-number) = (toDouble number).map fun double => -double := by
  rw [toDouble, toDouble, Int.natAbs_neg, Int.sign_neg, Option.map_map]
  simp [Function.comp_def]

theorem roundToDouble_of_lt {value : Nat} (small : value < 2 ^ 53) :
    roundToDouble value = some value := by
  rw [roundToDouble, if_pos small]

theorem le_of_roundToDouble {value rounded : Nat} (large : 2 ^ 53 ≤ value)
    (rounds : roundToDouble value = some rounded) : 2 ^ 53 ≤ rounded := by
  have nonzero : value ≠ 0 := by
    have positive : 0 < 2 ^ 53 := Nat.two_pow_pos 53
    omega
  have exponent : 53 ≤ Nat.log2 value := (Nat.le_log2 nonzero).mpr large
  -- the mantissa has 53 bits, so that cutting the rest off leaves the leading one
  have mantissa : 2 ^ 52 ≤ value / 2 ^ (Nat.log2 value - 52) := by
    rw [Nat.le_div_iff_mul_le (Nat.two_pow_pos _), ← Nat.pow_add,
      Nat.add_sub_cancel' (by omega)]
    exact Nat.log2_self_le nonzero
  have unit : 2 ≤ 2 ^ (Nat.log2 value - 52) := by
    calc 2 = 2 ^ 1 := rfl
      _ ≤ 2 ^ (Nat.log2 value - 52) := Nat.pow_le_pow_right (by decide) (by omega)
  have cut : 2 ^ 53 ≤ value / 2 ^ (Nat.log2 value - 52) * 2 ^ (Nat.log2 value - 52) := by
    calc 2 ^ 53 = 2 ^ 52 * 2 := Nat.pow_succ 2 52
      _ ≤ _ := Nat.mul_le_mul mantissa unit
  rw [roundToDouble, if_neg (Nat.not_lt.mpr large)] at rounds
  obtain ⟨_, same⟩ := Option.ite_none_right_eq_some.mp rounds
  rw [← Option.some.inj same]
  split
  · exact cut
  · exact cut.trans (Nat.mul_le_mul_right _ (Nat.le_succ _))

theorem toDouble_cases {double : Int} (rounds : toDouble number = some double) :
    number.natAbs < 2 ^ 53 ∧ double = number ∨
      2 ^ 53 ≤ number.natAbs ∧ 2 ^ 53 ≤ double.natAbs := by
  obtain ⟨magnitude, rounded, rfl⟩ := Option.map_eq_some_iff.mp rounds
  rcases Nat.lt_or_ge number.natAbs (2 ^ 53) with small | large
  · rw [roundToDouble_of_lt small, Option.some.injEq] at rounded
    exact Or.inl ⟨small, by rw [← rounded, Int.sign_mul_natAbs]⟩
  · have nonzero : number ≠ 0 := by
      rintro rfl
      simp at large
    refine Or.inr ⟨large, ?_⟩
    rw [Int.natAbs_mul, Int.natAbs_sign_of_ne_zero nonzero, Int.natAbs_natCast, Nat.one_mul]
    exact le_of_roundToDouble large rounded

theorem distance_le_iff {left right bound : Int} (exact : bound < 2 ^ 53) :
    (∃ apart, distance left right = some apart ∧ apart ≤ bound) ↔ |left - right| ≤ bound := by
  rw [Int.abs_eq_natAbs]
  rcases Nat.lt_or_ge (left - right).natAbs (2 ^ 53) with small | large
  · rw [distance, roundToDouble_of_lt small]
    simp
  · have far : ¬((left - right).natAbs : Int) ≤ bound := by omega
    refine iff_of_false ?_ far
    rintro ⟨apart, rounded, near⟩
    have rounds : 2 ^ 53 ≤ apart := le_of_roundToDouble large rounded
    omega

theorem parseInt_eq (text : String) :
    parseInt text = (readInteger (text.toList.dropWhile isWhiteSpace)).bind
      fun read => toDouble read.1 := by
  unfold parseInt readInteger
  simp only [← withoutSign.eq_def]
  generalize text.toList.dropWhile isWhiteSpace = chars
  split
  · rfl
  · rw [Option.bind_some]
    split
    · rw [toDouble_neg, toDouble_natCast]
      cases roundToDouble (decimalValue ((withoutSign chars).takeWhile Char.isDigit)) <;> rfl
    · rw [toDouble_natCast]
      cases roundToDouble (decimalValue ((withoutSign chars).takeWhile Char.isDigit)) <;> rfl

theorem digits_split (digit : ∀ char ∈ digits, char.isDigit = true)
    (stops : ∀ next ∈ rest.head?, next.isDigit = false) :
    (digits ++ rest).takeWhile Char.isDigit = digits ∧
      (digits ++ rest).dropWhile Char.isDigit = rest := by
  have taken : rest.takeWhile Char.isDigit = [] := by
    cases rest with
    | nil => rfl
    | cons next rest => simp [stops next rfl]
  have dropped : rest.dropWhile Char.isDigit = rest := by
    cases rest with
    | nil => rfl
    | cons next rest => simp [stops next rfl]
  rw [List.takeWhile_append_of_pos digit, List.dropWhile_append_of_pos digit, taken, dropped]
  simp

theorem dropWhile_stops (chars : List Char) :
    ∀ next ∈ (chars.dropWhile Char.isDigit).head?, next.isDigit = false := by
  intro next first
  have stops := List.head?_dropWhile_not Char.isDigit chars
  rw [Option.mem_def] at first
  rw [first] at stops
  exact stops

theorem readInteger_leads (read : readInteger chars = some (number, rest)) :
    Leads number rest chars := by
  unfold readInteger at read
  split at read
  · simp at read
  next nonempty =>
    simp only [Option.some.injEq, Prod.mk.injEq] at read
    obtain ⟨rfl, rfl⟩ := read
    have digit : ∀ unsigned : List Char,
        ∀ char ∈ unsigned.takeWhile Char.isDigit, char.isDigit = true :=
      fun unsigned char member => List.mem_takeWhile_imp member
    by_cases negative : chars.head? = some '-'
    · obtain ⟨tail, rfl⟩ := List.head?_eq_some_iff.mp negative
      simp only [withoutSign, List.head?_cons, true_or, if_true, List.drop_one, List.tail_cons]
        at nonempty ⊢
      exact ⟨_, .negative nonempty (digit tail), by simp, dropWhile_stops tail⟩
    · rw [if_neg negative]
      by_cases positive : chars.head? = some '+'
      · obtain ⟨tail, rfl⟩ := List.head?_eq_some_iff.mp positive
        simp only [withoutSign, List.head?_cons, or_true, if_true, List.drop_one, List.tail_cons]
          at nonempty ⊢
        exact ⟨_, .positive nonempty (digit tail), by simp, dropWhile_stops tail⟩
      · simp only [withoutSign, negative, positive, or_self, if_false] at nonempty ⊢
        exact ⟨_, .unsigned nonempty (digit chars), by simp, dropWhile_stops chars⟩

theorem readInteger_eq_some_iff :
    readInteger chars = some (number, rest) ↔ Leads number rest chars := by
  constructor
  · exact readInteger_leads
  · rintro ⟨written, integer, rfl, stops⟩
    cases integer with
    | unsigned nonempty digit =>
        obtain ⟨taken, dropped⟩ := digits_split digit stops
        cases written with
        | nil => exact absurd rfl nonempty
        | cons first others =>
            have isDigit := digit first (by simp)
            have minus : first ≠ '-' := by
              rintro rfl
              exact absurd isDigit (by decide)
            have plus : first ≠ '+' := by
              rintro rfl
              exact absurd isDigit (by decide)
            rw [List.cons_append] at taken dropped
            simp [readInteger, withoutSign, minus, plus, taken, dropped]
    | positive nonempty digit =>
        obtain ⟨taken, dropped⟩ := digits_split digit stops
        simp [readInteger, withoutSign, taken, dropped, nonempty]
    | negative nonempty digit =>
        obtain ⟨taken, dropped⟩ := digits_split digit stops
        simp [readInteger, withoutSign, taken, dropped, nonempty]

theorem Leads.unique {other : Int} {rest' : List Char} (leads : Leads number rest chars)
    (leads' : Leads other rest' chars) : number = other ∧ rest = rest' := by
  rw [← readInteger_eq_some_iff] at leads leads'
  simpa using leads.symm.trans leads'

theorem dropWhile_trimList (chars : List Char) :
    (trimList chars).dropWhile isWhiteSpace = trimList chars := by
  obtain ⟨removed, split⟩ :
      (chars.dropWhile isWhiteSpace).reverse.dropWhile isWhiteSpace <:+
        (chars.dropWhile isWhiteSpace).reverse := List.dropWhile_suffix _
  have kept : chars.dropWhile isWhiteSpace = trimList chars ++ removed.reverse := by
    rw [trimList, ← List.reverse_append, split, List.reverse_reverse]
  cases trimmed : trimList chars with
  | nil => rfl
  | cons first others =>
      have stops := List.head?_dropWhile_not isWhiteSpace chars
      rw [kept, trimmed] at stops
      simp only [List.cons_append, List.head?_cons] at stops
      simp [stops]

theorem leads_nil_iff : Leads number [] chars ↔ IsInteger chars number := by
  constructor
  · rintro ⟨written, integer, rfl, _⟩
    simpa using integer
  · intro integer
    exact ⟨chars, integer, by simp, by simp⟩

end Js
