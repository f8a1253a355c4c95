import Mathlib.Data.List.Basic

/-!
Fixed-window rate limiting in general. Time is cut into windows of one length for each owner, and an
arrival is admitted while its owner has made fewer arrivals in the window than the limit allows.
-/

namespace FixedWindow

structure Limit where
  max : Nat
  length : Nat
  length_pos : 1 ≤ length

structure Arrival (κ : Type) where
  owner : κ
  time : Nat
  deriving DecidableEq

variable {κ : Type} [DecidableEq κ]

def Arrival.isIn (owner : κ) (length window : Nat) (arrival : Arrival κ) : Bool :=
  arrival.owner = owner && arrival.time / length = window

/-- The arrivals that count against a new one; the newest of `history` comes first. -/
def used (limits : κ → Limit) (history : List (Arrival κ)) (arrival : Arrival κ) : Nat :=
  history.countP (Arrival.isIn arrival.owner (limits arrival.owner).length
    (arrival.time / (limits arrival.owner).length))

def admitted (limits : κ → Limit) : List (Arrival κ) → List (Arrival κ)
  | [] => []
  | arrival :: history =>
      if used limits history arrival < (limits arrival.owner).max then
        arrival :: admitted limits history
      else admitted limits history

variable {limits : κ → Limit} {history : List (Arrival κ)} {owner : κ}

theorem admitted_bounds (window : Nat) :
    (admitted limits history).countP (Arrival.isIn owner (limits owner).length window) ≤
        history.countP (Arrival.isIn owner (limits owner).length window) ∧
      (admitted limits history).countP (Arrival.isIn owner (limits owner).length window) ≤
        (limits owner).max := by
  induction history with
  | nil => simp [admitted]
  | cons arrival history ih =>
      obtain ⟨arrived, limited⟩ := ih
      rw [admitted, List.countP_cons]
      by_cases fits : used limits history arrival < (limits arrival.owner).max
      · rw [if_pos fits, List.countP_cons]
        by_cases inside : arrival.isIn owner (limits owner).length window = true
        · obtain ⟨same, number⟩ : arrival.owner = owner ∧
              arrival.time / (limits owner).length = window := by
            simpa [Arrival.isIn] using inside
          rw [used, same, number] at fits
          rw [if_pos inside]
          omega
        · rw [if_neg inside]
          omega
      · rw [if_neg fits]
        omega

theorem admitted_le (window : Nat) :
    (admitted limits history).countP (Arrival.isIn owner (limits owner).length window) ≤
      (limits owner).max :=
  (admitted_bounds window).2

theorem window_cases {length start time : Nat} (positive : 1 ≤ length) (after : start ≤ time)
    (before : time < start + length) :
    time / length = start / length ∨ time / length = start / length + 1 := by
  have lower : start / length ≤ time / length := Nat.div_le_div_right after
  have upper : time / length ≤ (start + length) / length := Nat.div_le_div_right (by omega)
  rw [Nat.add_div_right start (by omega)] at upper
  omega

theorem countP_interval_cover {α : Type} (xs : List α) (p : α → Bool) (time : α → Nat)
    {length : Nat} (positive : 1 ≤ length) (start : Nat) :
    xs.countP (fun x => p x && (start ≤ time x && time x < start + length)) ≤
      xs.countP (fun x => p x && time x / length = start / length) +
        xs.countP (fun x => p x && time x / length = start / length + 1) := by
  induction xs with
  | nil => simp
  | cons x xs ih =>
      simp only [List.countP_cons]
      by_cases inside : (p x && (start ≤ time x && time x < start + length)) = true
      · simp only [Bool.and_eq_true, decide_eq_true_eq] at inside
        obtain ⟨holds, after, before⟩ := inside
        rcases window_cases positive after before with first | second
        · simp only [holds, first, after, before, decide_true, Bool.and_self, if_true]
          omega
        · simp only [holds, second, after, before, decide_true, Bool.and_self, if_true]
          omega
      · rw [if_neg inside]
        omega

theorem countP_interval_le {α : Type} {xs : List α} {p : α → Bool} {time : α → Nat}
    {length bound : Nat} (positive : 1 ≤ length)
    (windows : ∀ window, xs.countP (fun x => p x && time x / length = window) ≤ bound)
    (start : Nat) :
    xs.countP (fun x => p x && (start ≤ time x && time x < start + length)) ≤ 2 * bound := by
  have cover := countP_interval_cover xs p time positive start
  have first := windows (start / length)
  have second := windows (start / length + 1)
  omega

end FixedWindow
