import Mathlib.Algebra.BigOperators.Group.List.Basic
import Mathlib.Data.List.GetD
import Mathlib.Data.List.Nodup

/-!
Texts of a fixed shape. A template lists for each place the characters that may stand there; a number
below the number of such texts is written by the character it picks at each place.
-/

abbrev Template := List (List Char)

namespace Template

variable {template : Template} {first second : Nat}

def size (template : Template) : Nat := (template.map List.length).prod

def write : Template → Nat → List Char
  | [], _ => []
  | place :: rest, number =>
      place.getD (number % place.length) ' ' :: write rest (number / place.length)

def fits : List (Char → Bool) → List Char → Bool
  | [], [] => true
  | admits :: rest, character :: text => admits character && fits rest text
  | _, _ => false

@[simp] theorem length_write (template : Template) (number : Nat) :
    (write template number).length = template.length := by
  induction template generalizing number with
  | nil => rfl
  | cons place rest ih => rw [write, List.length_cons, ih, List.length_cons]

theorem getD_mem {place : List Char} (inhabited : place ≠ []) (number : Nat) :
    place.getD (number % place.length) ' ' ∈ place := by
  have below : number % place.length < place.length :=
    Nat.mod_lt _ (List.length_pos_of_ne_nil inhabited)
  rw [List.getD_eq_getElem _ _ below]
  exact List.getElem_mem below

theorem write_injective (distinct : ∀ place ∈ template, place.Nodup)
    (firstBelow : first < template.size) (secondBelow : second < template.size)
    (same : write template first = write template second) : first = second := by
  induction template generalizing first second with
  | nil =>
      simp only [size, List.map_nil, List.prod_nil] at firstBelow secondBelow
      omega
  | cons place rest ih =>
      simp only [size, List.map_cons, List.prod_cons] at firstBelow secondBelow
      rw [write, write, List.cons.injEq] at same
      obtain ⟨head, tail⟩ := same
      have inhabited : 0 < place.length := by
        apply Nat.pos_of_ne_zero
        intro none
        rw [none, Nat.zero_mul] at firstBelow
        omega
      have quotients : first / place.length = second / place.length := by
        apply ih (fun place member => distinct place (List.mem_cons_of_mem _ member)) _ _ tail
        · exact Nat.div_lt_of_lt_mul firstBelow
        · exact Nat.div_lt_of_lt_mul secondBelow
      have remainders : first % place.length = second % place.length := by
        have firstPlace := Nat.mod_lt first inhabited
        have secondPlace := Nat.mod_lt second inhabited
        rw [List.getD_eq_getElem _ _ firstPlace, List.getD_eq_getElem _ _ secondPlace] at head
        exact (List.Nodup.getElem_inj_iff (distinct place List.mem_cons_self)).mp head
      rw [← Nat.div_add_mod first place.length, quotients, remainders, Nat.div_add_mod]

theorem fits_write {pattern : List (Char → Bool)}
    (admits : List.Forall₂ (fun place admits => place ≠ [] ∧ place.all admits = true)
      template pattern) (number : Nat) : fits pattern (write template number) = true := by
  induction admits generalizing number with
  | nil => rfl
  | cons admitted rest ih =>
      obtain ⟨inhabited, all⟩ := admitted
      rw [write, fits, ih, Bool.and_true]
      exact List.all_eq_true.mp all _ (getD_mem inhabited number)

end Template
