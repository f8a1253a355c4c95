import Mathlib.Data.List.Basic
import Mathlib.Tactic.Common
import SmsNotification.Js

/-!
`maskPhoneNumber`, which keeps the ends of a phone number in the log, and what its two length
regimes leave hidden.
-/

namespace SmsNotification

open Js

def asterisks : CodeUnits := [0x2A, 0x2A, 0x2A]

def maskPhoneNumber (phone : CodeUnits) : CodeUnits :=
  if phone.length ≤ 7 then phone.slice 0 (some 2) ++ asterisks ++ phone.slice (-2) none
  else phone.slice 0 (some 5) ++ asterisks ++ phone.slice (-4) none

/-- `\d` -/
def isDigitUnit (unit : UInt16) : Bool := 0x30 ≤ unit && unit ≤ 0x39

/-- `/^\+[1-9]\d{6,14}$/` -/
def isE164PhoneNumber : CodeUnits → Bool
  | plus :: first :: rest => plus == 0x2B && (0x31 ≤ first && first ≤ 0x39) &&
      rest.all isDigitUnit && (6 ≤ rest.length && rest.length ≤ 14)
  | _ => false

def shownPrefix (phone : CodeUnits) : CodeUnits :=
  phone.slice 0 (some (if phone.length ≤ 7 then 2 else 5))

def shownSuffix (phone : CodeUnits) : CodeUnits :=
  phone.slice (if phone.length ≤ 7 then -2 else -4) none

theorem maskPhoneNumber_eq (phone : CodeUnits) :
    maskPhoneNumber phone = shownPrefix phone ++ asterisks ++ shownSuffix phone := by
  unfold maskPhoneNumber shownPrefix shownSuffix
  split <;> rfl

theorem shownPrefix_eq (phone : CodeUnits) :
    shownPrefix phone = phone.take (if phone.length ≤ 7 then 2 else 5) := by
  unfold shownPrefix CodeUnits.slice sliceIndex
  split <;> simp

theorem shownSuffix_eq (phone : CodeUnits) :
    shownSuffix phone = phone.drop (phone.length - if phone.length ≤ 7 then 2 else 4) := by
  unfold shownSuffix CodeUnits.slice sliceIndex
  split
  · have index : ((phone.length : Int) + -2).toNat = phone.length - 2 := by omega
    simp [index]
  · have index : ((phone.length : Int) + -4).toNat = phone.length - 4 := by omega
    simp [index]

structure SameShape (phone other : CodeUnits) : Prop where
  length : other.length = phone.length
  digits : other.map isDigitUnit = phone.map isDigitUnit
  admitted : isE164PhoneNumber other = isE164PhoneNumber phone

def otherUnit (unit : UInt16) : UInt16 :=
  if isDigitUnit unit then if unit = 0x30 then 0x31 else 0x30
  else if unit = 0x61 then 0x62 else 0x61

theorem otherUnit_ne (unit : UInt16) : otherUnit unit ≠ unit := by
  unfold otherUnit
  split
  · split
    next zero => rw [zero]; decide
    next different => exact fun same => different same.symm
  · split
    next letter => rw [letter]; decide
    next different => exact fun same => different same.symm

theorem otherUnit_isDigit (unit : UInt16) : isDigitUnit (otherUnit unit) = isDigitUnit unit := by
  unfold otherUnit
  split
  next digit =>
    rw [digit]
    split <;> decide
  next other =>
    rw [Bool.not_eq_true] at other
    rw [other]
    split <;> decide

theorem isE164PhoneNumber_set (phone : CodeUnits) {index : Nat} (later : 2 ≤ index)
    {unit : UInt16} (digits : (phone.set index unit).map isDigitUnit = phone.map isDigitUnit) :
    isE164PhoneNumber (phone.set index unit) = isE164PhoneNumber phone := by
  obtain ⟨index, rfl⟩ : ∃ position, index = position + 2 := ⟨index - 2, by omega⟩
  cases phone with
  | nil => rfl
  | cons plus phone =>
      cases phone with
      | nil => rfl
      | cons first rest =>
          simp only [List.set_cons_succ, List.map_cons, List.cons.injEq, true_and] at digits
          have all : (rest.set index unit).all isDigitUnit = rest.all isDigitUnit := by
            have flags : ∀ units : CodeUnits,
                units.all isDigitUnit = (units.map isDigitUnit).all id := by
              intro units
              rw [List.all_map]
              rfl
            rw [flags, flags, digits]
          simp [isE164PhoneNumber, all]

theorem hidden_replaceable {phone : CodeUnits} {index : Nat}
    (afterPrefix : (shownPrefix phone).length ≤ index) (later : 2 ≤ index)
    (beforeSuffix : index + (shownSuffix phone).length < phone.length) :
    ∃ other, other ≠ phone ∧ SameShape phone other ∧
      maskPhoneNumber other = maskPhoneNumber phone := by
  have present : index < phone.length := by omega
  refine ⟨phone.set index (otherUnit phone[index]), ?_, ?_, ?_⟩
  · intro same
    have units := congrArg (fun units => units[index]?) same
    simp [present, otherUnit_ne] at units
  · have digits : (phone.set index (otherUnit phone[index])).map isDigitUnit =
        phone.map isDigitUnit := by
      rw [List.map_set, otherUnit_isDigit, ← List.getElem_map isDigitUnit, List.set_getElem_self]
      simpa using present
    exact {
      length := by simp
      digits := digits
      admitted := isE164PhoneNumber_set phone later digits }
  · rw [shownPrefix_eq] at afterPrefix
    rw [shownSuffix_eq] at beforeSuffix
    rw [List.length_take] at afterPrefix
    rw [List.length_drop] at beforeSuffix
    rw [maskPhoneNumber_eq, maskPhoneNumber_eq, shownPrefix_eq, shownPrefix_eq, shownSuffix_eq,
      shownSuffix_eq, List.length_set, List.take_set_of_le, List.drop_set_of_lt]
    · omega
    · omega

theorem shown_length (phone : CodeUnits) (long : 5 ≤ phone.length) :
    (shownPrefix phone).length + (shownSuffix phone).length =
      if phone.length ≤ 7 then 4 else 9 := by
  rw [shownPrefix_eq, shownSuffix_eq, List.length_take, List.length_drop]
  split <;> omega

theorem eq_of_mask {phone other : CodeUnits} (length : other.length = phone.length)
    (shown : phone.length ≤ (shownPrefix phone).length + (shownSuffix phone).length)
    (masks : maskPhoneNumber other = maskPhoneNumber phone) : other = phone := by
  rw [maskPhoneNumber_eq, maskPhoneNumber_eq, List.append_assoc, List.append_assoc] at masks
  have prefixLength : (shownPrefix other).length = (shownPrefix phone).length := by
    rw [shownPrefix_eq, shownPrefix_eq, List.length_take, List.length_take, length]
  have parts := List.append_inj masks prefixLength
  have suffixes := List.append_cancel_left parts.2
  have prefixes := parts.1
  rw [shownPrefix_eq, shownSuffix_eq, List.length_take, List.length_drop] at shown
  rw [shownPrefix_eq, shownPrefix_eq, length] at prefixes
  rw [shownSuffix_eq, shownSuffix_eq, length] at suffixes
  generalize (if phone.length ≤ 7 then 2 else 5) = shownFirst at *
  generalize phone.length - (if phone.length ≤ 7 then 2 else 4) = lastStart at *
  by_cases overlap : lastStart ≤ shownFirst
  · have front := congrArg (List.take lastStart) prefixes
    rw [List.take_take, List.take_take, Nat.min_eq_left overlap] at front
    rw [← List.take_append_drop lastStart other, front, suffixes, List.take_append_drop]
  · have whole : phone.length ≤ shownFirst := by omega
    rw [List.take_of_length_le (by omega), List.take_of_length_le whole] at prefixes
    exact prefixes

/-- The mask leaves a unit uncovered, and another number of the same shape has the same mask, except
at 8 and 9 characters. -/
theorem maskPhoneNumber_hides_iff (phone : CodeUnits) (long : 5 ≤ phone.length) :
    ((shownPrefix phone).length + (shownSuffix phone).length < phone.length ↔
        phone.length ≠ 8 ∧ phone.length ≠ 9) ∧
      ((∃ other, other ≠ phone ∧ SameShape phone other ∧
          maskPhoneNumber other = maskPhoneNumber phone) ↔
        phone.length ≠ 8 ∧ phone.length ≠ 9) := by
  have shown := shown_length phone long
  have hides : (shownPrefix phone).length + (shownSuffix phone).length < phone.length ↔
      phone.length ≠ 8 ∧ phone.length ≠ 9 := by
    split at shown
    · omega
    · omega
  refine ⟨hides, ?_⟩
  rw [← hides]
  constructor
  · rintro ⟨other, different, shape, masks⟩
    by_contra covered
    exact different (eq_of_mask shape.length (by omega) masks)
  · intro uncovered
    have afterFirst : 2 ≤ (shownPrefix phone).length := by
      rw [shownPrefix_eq, List.length_take]
      split <;> omega
    exact hidden_replaceable (Nat.le_refl _) afterFirst uncovered

theorem maskPhoneNumber_hides_ten :
    (shownPrefix (List.replicate 10 0x31)).length + (shownSuffix (List.replicate 10 0x31)).length <
        (List.replicate 10 (0x31 : UInt16)).length ∧
      ∃ other, other ≠ List.replicate 10 0x31 ∧ SameShape (List.replicate 10 0x31) other ∧
        maskPhoneNumber other = maskPhoneNumber (List.replicate 10 0x31) := by
  have hides := maskPhoneNumber_hides_iff (List.replicate 10 0x31) (by decide)
  exact ⟨hides.1.mpr (by decide), hides.2.mpr (by decide)⟩

/-- `+1234567`, which the request check admits, is shown whole. -/
theorem shortest_number_is_shown :
    ∃ phone : CodeUnits, isE164PhoneNumber phone = true ∧ 5 ≤ phone.length ∧
      ¬((shownPrefix phone).length + (shownSuffix phone).length < phone.length) ∧
      ¬∃ other, other ≠ phone ∧ SameShape phone other ∧
        maskPhoneNumber other = maskPhoneNumber phone := by
  refine ⟨[0x2B, 0x31, 0x32, 0x33, 0x34, 0x35, 0x36, 0x37], by decide, by decide, by decide, ?_⟩
  rintro ⟨other, different, shape, masks⟩
  exact different (eq_of_mask shape.length (by decide) masks)

end SmsNotification
