import Mathlib.Data.List.Basic

/-!
Erasable inputs of a machine. An input that changes nothing of what can be seen of the state may be
left out of a sequence: what is seen in the end, and the answers to the other inputs, stay the same.
-/

namespace Erasure

variable {State Input Output View : Type}

def run (step : State → Input → Option (State × Output)) :
    State → List Input → Option (State × List (Input × Output))
  | state, [] => some (state, [])
  | state, input :: rest =>
      (step state input).bind fun (following, output) =>
        (run step following rest).map fun (final, outputs) => (final, (input, output) :: outputs)

/-- `view` is what can be seen of a state. An erasable input leaves it alone, and the step of any
other input depends on nothing else. -/
structure Erases (step : State → Input → Option (State × Output)) (view : State → View)
    (erasable : Input → Bool) : Prop where
  silent : ∀ {input} state, erasable input = true →
    ∃ following output, step state input = some (following, output) ∧ view following = view state
  respects : ∀ {input first second}, erasable input = false → view first = view second →
    (step first input).map (Prod.map view id) = (step second input).map (Prod.map view id)

variable {step : State → Input → Option (State × Output)} {view : State → View}
  {erasable : Input → Bool}

def seen (view : State → View) (erasable : Input → Bool) :
    State × List (Input × Output) → View × List (Input × Output)
  | (final, outputs) => (view final, outputs.filter fun answer => !erasable answer.1)

theorem Erases.step_cases (erases : Erases step view erasable) {input : Input}
    {first second : State} (kept : erasable input = false) (same : view first = view second) :
    (step first input = none ∧ step second input = none) ∨
      ∃ firstNext secondNext output, step first input = some (firstNext, output) ∧
        step second input = some (secondNext, output) ∧ view firstNext = view secondNext := by
  have respects := erases.respects kept same
  cases left : step first input with
  | none =>
      rw [left, Option.map_none] at respects
      exact Or.inl ⟨rfl, Option.map_eq_none_iff.mp respects.symm⟩
  | some firstResult =>
      obtain ⟨firstNext, output⟩ := firstResult
      rw [left, Option.map_some] at respects
      obtain ⟨secondResult, right, pair⟩ := Option.map_eq_some_iff.mp respects.symm
      obtain ⟨secondNext, other⟩ := secondResult
      simp only [Prod.map, id_eq, Prod.mk.injEq] at pair
      obtain ⟨views, rfl⟩ := pair
      exact Or.inr ⟨firstNext, secondNext, other, rfl, right, views.symm⟩

theorem Erases.run_filter (erases : Erases step view erasable) (inputs : List Input)
    {first second : State} (same : view first = view second) :
    (run step first inputs).map (seen view erasable) =
      (run step second (inputs.filter fun input => !erasable input)).map (Prod.map view id) := by
  induction inputs generalizing first second with
  | nil => simp [run, seen, same]
  | cons input rest ih =>
      cases kept : erasable input with
      | true =>
          obtain ⟨following, output, steps, views⟩ := erases.silent first kept
          have later := ih (views.trans same)
          simp only [run, steps, Option.bind_some, List.filter_cons, kept, Bool.not_true,
            Bool.false_eq_true, if_false, Option.map_map]
          rw [← later]
          congr 1
          funext result
          simp [seen, kept]
      | false =>
          simp only [List.filter_cons, kept, Bool.not_false, if_true, run]
          rcases erases.step_cases kept same with ⟨left, right⟩ |
            ⟨firstNext, secondNext, output, left, right, views⟩
          · rw [left, right]
            rfl
          · have later := ih views
            -- the answer to this input goes in front of what is seen of the rest
            have front : seen view erasable ∘ (fun (result : State × List (Input × Output)) =>
                (result.1, (input, output) :: result.2)) =
                (fun seen => (seen.1, (input, output) :: seen.2)) ∘ seen view erasable := by
              funext result
              simp [seen, kept]
            simp only [left, right, Option.bind_some, Option.map_map]
            rw [front, ← Option.map_map, later, Option.map_map]
            rfl

end Erasure
