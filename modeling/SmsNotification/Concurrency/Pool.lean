import SmsNotification.Concurrency.Program

/-!
Runs of a transition system, and pools of programs that interleave their operations over one
world. The invariant rules at the end tie every program of a pool to the stage of its protocol.
-/

namespace Concurrency

section Runs

variable {State Event : Type} (step : State → Event → Option State)
  (permitted : State → Event → Prop)

/-- The states reached from `start` by steps whose events are permitted where they happen. -/
inductive Reaches (start : State) : State → Prop
  | refl : Reaches start start
  | step {state next : State} {event : Event} : Reaches start state → permitted state event →
      step state event = some next → Reaches start next

variable {step permitted} {start middle final : State}

theorem Reaches.trans (first : Reaches step permitted start middle)
    (second : Reaches step permitted middle final) : Reaches step permitted start final := by
  induction second with
  | refl => exact first
  | step _ allowed moved ih => exact .step ih allowed moved

theorem Reaches.mono {weaker : State → Event → Prop}
    (reaches : Reaches step permitted start final)
    (implies : ∀ state event, permitted state event → weaker state event) :
    Reaches step weaker start final := by
  induction reaches with
  | refl => exact .refl
  | step _ allowed moved ih => exact .step ih (implies _ _ allowed) moved

theorem Reaches.embed {Event' : Type} {step' : State → Event' → Option State}
    {permitted' : State → Event' → Prop} (reaches : Reaches step permitted start final)
    (embeds : ∀ state event next, permitted state event → step state event = some next →
      ∃ event', permitted' state event' ∧ step' state event' = some next) :
    Reaches step' permitted' start final := by
  induction reaches with
  | refl => exact .refl
  | step _ allowed moved ih =>
      obtain ⟨event', allowed', moved'⟩ := embeds _ _ _ allowed moved
      exact .step ih allowed' moved'

theorem Reaches.invariant (reaches : Reaches step permitted start final) (holds : State → Prop)
    (initially : holds start)
    (preserved : ∀ state event next, holds state → permitted state event →
      step state event = some next → holds next) : holds final := by
  induction reaches with
  | refl => exact initially
  | step _ allowed moved ih => exact preserved _ _ _ ih allowed moved

/-- Executes a list of events, stopping at the first one that is not permitted or not enabled. -/
def execute (step : State → Event → Option State) (permitted : State → Event → Prop)
    [∀ state event, Decidable (permitted state event)] : List Event → State → Option State
  | [], state => some state
  | event :: rest, state =>
      if permitted state event then
        (step state event).bind (execute step permitted rest)
      else none

theorem execute_reaches [∀ state event, Decidable (permitted state event)] (events : List Event)
    (executed : execute step permitted events start = some final) :
    Reaches step permitted start final := by
  induction events generalizing start with
  | nil =>
      simp only [execute, Option.some.injEq] at executed
      exact executed ▸ .refl
  | cons event rest ih =>
      simp only [execute] at executed
      split at executed
      · rename_i allowed
        obtain ⟨next, moved, later⟩ := Option.bind_eq_some_iff.mp executed
        exact (Reaches.step .refl allowed moved).trans (ih later)
      · simp at executed

/-- A schedule found by evaluation is a run to a state with the evaluated property. -/
theorem execute_exists (step : State → Event → Option State) (permitted : State → Event → Prop)
    [∀ state event, Decidable (permitted state event)] (start : State) (events : List Event)
    (property : State → Bool)
    (found : (execute step permitted events start).any property = true) :
    ∃ final, Reaches step permitted start final ∧ property final = true := by
  cases executed : execute step permitted events start with
  | none => simp [executed] at found
  | some final =>
      rw [executed, Option.any_some] at found
      exact ⟨final, execute_reaches events executed, found⟩

/-- A transition system beside a ghost that records its steps. -/
def observe {Ghost : Type} (step : State → Event → Option State)
    (record : State → Event → State → Ghost → Ghost) (observed : State × Ghost) (event : Event) :
    Option (State × Ghost) :=
  (step observed.1 event).map fun next => (next, record observed.1 event next observed.2)

end Runs

section Positions

variable {α : Type} {xs : List α} {x y : α} {i j : Nat}

theorem getElem?_concat_cases (found : (xs ++ [x])[i]? = some y) :
    xs[i]? = some y ∨ i = xs.length ∧ y = x := by
  rw [List.getElem?_append] at found
  split at found
  · exact Or.inl found
  · have zero : i - xs.length = 0 := by
      have below := (List.getElem?_eq_some_iff.mp found).1
      simpa using below
    rw [zero] at found
    simp only [List.getElem?_cons_zero, Option.some.injEq] at found
    exact Or.inr ⟨by omega, found.symm⟩

theorem getElem?_set_cases (found : (xs.set i x)[j]? = some y) :
    j = i ∧ y = x ∨ j ≠ i ∧ xs[j]? = some y := by
  rw [List.getElem?_set] at found
  split at found
  · rename_i same
    split at found
    · exact Or.inl ⟨same.symm, by simpa using found.symm⟩
    · simp at found
  · rename_i different
    exact Or.inr ⟨fun same => different same.symm, found⟩

theorem map_set_same {β : Type} (f : α → β) (found : xs[i]? = some x) (same : f y = f x) :
    (xs.set i y).map f = xs.map f := by
  obtain ⟨below, rfl⟩ := List.getElem?_eq_some_iff.mp found
  rw [List.map_set, same, ← List.getElem_map f, List.set_getElem_self]
  simpa using below

theorem countP_set_add (p : α → Bool) (found : xs[i]? = some x) :
    (xs.set i y).countP p + (if p x then 1 else 0) = xs.countP p + (if p y then 1 else 0) := by
  obtain ⟨below, rfl⟩ := List.getElem?_eq_some_iff.mp found
  have counted : (if p xs[i] then 1 else 0) ≤ xs.countP p := List.boole_getElem_le_countP below
  rw [List.countP_set below]
  omega

theorem countP_set_le (p : α → Bool) (found : xs[i]? = some x) (kept : p y = true → p x = true) :
    (xs.set i y).countP p ≤ xs.countP p := by
  have moved := countP_set_add (y := y) p found
  by_cases now : p y = true
  · rw [if_pos now, if_pos (kept now)] at moved
    omega
  · rw [if_neg now] at moved
    omega

theorem position_unique {p : α → Bool} (once : xs.countP p ≤ 1) (first : xs[i]? = some x)
    (second : xs[j]? = some y) (holdsFirst : p x = true) (holdsSecond : p y = true) : i = j := by
  induction xs generalizing i j with
  | nil => simp at first
  | cons head tail ih =>
      rw [List.countP_cons] at once
      have counted : ∀ {k : Nat} {z : α}, tail[k]? = some z → p z = true → 0 < tail.countP p :=
        fun found holds => List.countP_pos_iff.mpr ⟨_, List.mem_of_getElem? found, holds⟩
      cases i with
      | zero =>
          cases j with
          | zero => rfl
          | succ j =>
              obtain rfl : head = x := by simpa using first
              have later := counted second holdsSecond
              rw [if_pos holdsFirst] at once
              omega
      | succ i =>
          cases j with
          | zero =>
              obtain rfl : head = y := by simpa using second
              have later := counted first holdsFirst
              rw [if_pos holdsSecond] at once
              omega
          | succ j =>
              have same := ih (by omega) first second
              omega

theorem countP_le_positions {β : Type} {xs : List α} {ys : List β} {p : α → Bool} {q : β → Bool}
    (length : xs.length = ys.length)
    (implies : ∀ (i : Nat) (x : α) (y : β), xs[i]? = some x → ys[i]? = some y → p x = true →
      q y = true) : xs.countP p ≤ ys.countP q := by
  induction xs generalizing ys with
  | nil => simp
  | cons x xs ih =>
      cases ys with
      | nil => simp at length
      | cons y ys =>
          have rest : xs.countP p ≤ ys.countP q := by
            refine ih (by simpa using length) ?_
            intro i
            exact implies (i + 1)
          have head : p x = true → q y = true := implies 0 x y rfl rfl
          simp only [List.countP_cons]
          by_cases counted : p x = true
          · rw [if_pos counted, if_pos (head counted)]
            omega
          · rw [if_neg counted]
            omega

end Positions

structure Process (Op : Type) (Reply : Op → Type) (ε τ α : Type) where
  tag : τ
  program : Program Op Reply ε α

/-- One executed operation: who awaited it, what it replied, and whether it changed anything. The
two can differ, since a reply may be lost after the operation took effect. -/
structure Entry (Op : Type) (Reply : Op → Type) (ε : Type) where
  pid : Nat
  op : Op
  reply : Except ε (Reply op)
  effective : Bool

structure Completion (Reply ε World : Type) where
  reply : Except ε Reply
  world : World
  effective : Bool

structure Pool (Op : Type) (Reply : Op → Type) (ε τ α World : Type) where
  world : World
  processes : List (Process Op Reply ε τ α)
  history : List (Entry Op Reply ε)

namespace Pool

variable {Op : Type} {Reply : Op → Type} {ε τ α World Choice : Type}

def awaits (pool : Pool Op Reply ε τ α World) (pid : Nat) : Option Op :=
  pool.processes[pid]?.bind fun process => process.program.awaited

/-- Lets the process `pid` execute the operation it awaits, with `choice` for what the
environment decides. -/
def resume (exec : World → (op : Op) → Choice → Option (Completion (Reply op) ε World))
    (pool : Pool Op Reply ε τ α World) (pid : Nat) (choice : Choice) :
    Option (Pool Op Reply ε τ α World) :=
  match pool.processes[pid]? with
  | some ⟨tag, .await op next⟩ =>
      (exec pool.world op choice).map fun completion => {
        world := completion.world
        processes := pool.processes.set pid ⟨tag, next completion.reply⟩
        history := pool.history ++ [⟨pid, op, completion.reply, completion.effective⟩]
      }
  | _ => none

def spawn (pool : Pool Op Reply ε τ α World) (tag : τ) (program : Program Op Reply ε α) :
    Pool Op Reply ε τ α World :=
  { pool with processes := pool.processes ++ [⟨tag, program⟩] }

variable {exec : World → (op : Op) → Choice → Option (Completion (Reply op) ε World)}
  {pool next : Pool Op Reply ε τ α World} {pid : Nat} {choice : Choice}

theorem resume_cases (resumed : pool.resume exec pid choice = some next) :
    ∃ tag op rest completion, pool.processes[pid]? = some ⟨tag, .await op rest⟩ ∧
      exec pool.world op choice = some completion ∧
      next = {
        world := completion.world
        processes := pool.processes.set pid ⟨tag, rest completion.reply⟩
        history := pool.history ++ [⟨pid, op, completion.reply, completion.effective⟩] } := by
  unfold resume at resumed
  split at resumed
  · rename_i tag op rest found
    obtain ⟨completion, executed, same⟩ := Option.map_eq_some_iff.mp resumed
    exact ⟨tag, op, rest, completion, found, executed, same.symm⟩
  · simp at resumed

structure Tracked (protocol : Protocol Op Reply ε)
    (post : τ → protocol.Stage → Except ε α → Prop) (stages : List protocol.Stage)
    (pool : Pool Op Reply ε τ α World) : Prop where
  length : stages.length = pool.processes.length
  follows : ∀ (pid : Nat) (stage : protocol.Stage) (process : Process Op Reply ε τ α),
    stages[pid]? = some stage → pool.processes[pid]? = some process →
      process.program.Follows protocol (post process.tag) stage

variable {protocol : Protocol Op Reply ε} {post : τ → protocol.Stage → Except ε α → Prop}
  {stages : List protocol.Stage}

theorem Tracked.stage (tracked : Tracked protocol post stages pool) {process}
    (found : pool.processes[pid]? = some process) :
    ∃ stage, stages[pid]? = some stage ∧
      process.program.Follows protocol (post process.tag) stage := by
  have below : pid < stages.length := by
    rw [tracked.length]
    exact (List.getElem?_eq_some_iff.mp found).1
  exact ⟨stages[pid], List.getElem?_eq_getElem below,
    tracked.follows pid _ process (List.getElem?_eq_getElem below) found⟩

theorem Tracked.process (tracked : Tracked protocol post stages pool) {stage}
    (found : stages[pid]? = some stage) :
    ∃ process, pool.processes[pid]? = some process ∧
      process.program.Follows protocol (post process.tag) stage := by
  have below : pid < pool.processes.length := by
    rw [← tracked.length]
    exact (List.getElem?_eq_some_iff.mp found).1
  exact ⟨pool.processes[pid], List.getElem?_eq_getElem below,
    tracked.follows pid stage _ found (List.getElem?_eq_getElem below)⟩

theorem Tracked.result (tracked : Tracked protocol post stages pool) {process result}
    (found : pool.processes[pid]? = some process) (settled : process.program.result = some result) :
    ∃ stage, stages[pid]? = some stage ∧ post process.tag stage result := by
  obtain ⟨stage, staged, follows⟩ := tracked.stage found
  refine ⟨stage, staged, ?_⟩
  cases program : process.program with
  | settled value =>
      rw [program] at settled follows
      simp only [Program.result, Option.some.injEq] at settled
      exact settled ▸ follows
  | await op rest =>
      rw [program] at settled
      simp [Program.result] at settled

theorem Tracked.resume (tracked : Tracked protocol post stages pool)
    (replies : ∀ world op choice completion, exec world op choice = some completion →
      protocol.replies op completion.reply)
    (resumed : pool.resume exec pid choice = some next) :
    ∃ stage op completion, stages[pid]? = some stage ∧ pool.awaits pid = some op ∧
      protocol.allowed stage op ∧ exec pool.world op choice = some completion ∧
      next.world = completion.world ∧
      next.history = pool.history ++ [⟨pid, op, completion.reply, completion.effective⟩] ∧
      next.processes.map Process.tag = pool.processes.map Process.tag ∧
      Tracked protocol post (stages.set pid (protocol.next stage op completion.reply)) next := by
  obtain ⟨tag, op, rest, completion, found, executed, rfl⟩ := resume_cases resumed
  obtain ⟨stage, staged, follows⟩ := tracked.stage found
  refine ⟨stage, op, completion, staged, by simp [awaits, found, Program.awaited], follows.1,
    executed, rfl, rfl, ?_, ?_⟩
  · exact map_set_same Process.tag found rfl
  · constructor
    · simpa using tracked.length
    · intro other stage' process staged' found'
      rcases getElem?_set_cases staged' with ⟨rfl, rfl⟩ | ⟨different, before⟩
      · rcases getElem?_set_cases found' with ⟨_, rfl⟩ | ⟨different, _⟩
        · exact follows.2 _ (replies _ _ _ _ executed)
        · exact absurd rfl different
      · rcases getElem?_set_cases found' with ⟨same, _⟩ | ⟨_, process⟩
        · exact absurd same different
        · exact tracked.follows other stage' _ before process

theorem Tracked.spawn (tracked : Tracked protocol post stages pool) {tag : τ}
    {program : Program Op Reply ε α} {start : protocol.Stage}
    (follows : program.Follows protocol (post tag) start) :
    Tracked protocol post (stages ++ [start]) (pool.spawn tag program) := by
  constructor
  · simp [Pool.spawn, tracked.length]
  · intro pid stage process staged found
    have length := tracked.length
    rcases getElem?_concat_cases staged with before | ⟨last, rfl⟩
    · have below := (List.getElem?_eq_some_iff.mp before).1
      rcases getElem?_concat_cases found with process | ⟨last, _⟩
      · exact tracked.follows pid stage _ before process
      · omega
    · rcases getElem?_concat_cases found with process | ⟨_, rfl⟩
      · have below := (List.getElem?_eq_some_iff.mp process).1
        omega
      · exact follows

theorem Tracked.of_processes (tracked : Tracked protocol post stages pool)
    (same : next.processes = pool.processes) : Tracked protocol post stages next where
  length := by rw [same]; exact tracked.length
  follows := by rw [same]; exact tracked.follows

end Pool

end Concurrency
