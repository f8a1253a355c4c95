import Mathlib.Data.List.Basic

/-!
Replays of a log of entries. Where an entry that was applied once is spent, and stays spent under
every other entry, an entry that repeats an earlier one may be left out.
-/

namespace Replay

variable {Entry State : Type}

def applyAll (apply : Entry → State → State) (entries : List Entry) (state : State) : State :=
  entries.foldl (fun state entry => apply entry state) state

@[simp] theorem applyAll_nil (apply : Entry → State → State) (state : State) :
    applyAll apply [] state = state := rfl

@[simp] theorem applyAll_cons (apply : Entry → State → State) (entry : Entry)
    (entries : List Entry) (state : State) :
    applyAll apply (entry :: entries) state = applyAll apply entries (apply entry state) := rfl

/-- A spent entry does nothing; applying an entry spends it, and nothing revives it. -/
structure Absorbing (apply : Entry → State → State) (spent : Entry → State → Prop) : Prop where
  idle : ∀ {entry state}, spent entry state → apply entry state = state
  after : ∀ entry state, spent entry (apply entry state)
  kept : ∀ {entry state} other, spent entry state → spent entry (apply other state)

/-- The second list leaves out entries of the first one, each of which is alike to an entry that was
kept before it; `kept` holds those of an earlier part. -/
inductive Thins (alike : Entry → Entry → Prop) : (kept : List Entry) → List Entry → List Entry → Prop
  | nil {kept} : Thins alike kept [] []
  | keep {kept entry entries rest} : Thins alike (entry :: kept) entries rest →
      Thins alike kept (entry :: entries) (entry :: rest)
  | skip {kept entry earlier entries rest} : earlier ∈ kept → alike earlier entry →
      Thins alike kept entries rest → Thins alike kept (entry :: entries) rest

variable {apply : Entry → State → State} {spent : Entry → State → Prop}
  {alike : Entry → Entry → Prop}

theorem Absorbing.applyAll_thinned (absorbing : Absorbing apply spent)
    (transports : ∀ {earlier entry state}, alike earlier entry → spent earlier state →
      spent entry state)
    {kept entries rest : List Entry} (thins : Thins alike kept entries rest) {state : State}
    (settled : ∀ earlier ∈ kept, spent earlier state) :
    applyAll apply entries state = applyAll apply rest state := by
  induction thins generalizing state with
  | nil => rfl
  | @keep kept entry entries rest _ ih =>
      rw [applyAll_cons, applyAll_cons]
      refine ih ?_
      intro earlier member
      rcases List.mem_cons.mp member with rfl | before
      · exact absorbing.after earlier state
      · exact absorbing.kept entry (settled earlier before)
  | @skip kept entry earlier entries rest member same _ ih =>
      have unchanged : apply entry state = state :=
        absorbing.idle (transports same (settled earlier member))
      rw [applyAll_cons, unchanged]
      exact ih settled

end Replay
