import Mathlib.Data.List.Forall2
import Mathlib.Data.Option.Basic
import SmsNotification.Concurrency.Pool

/-!
Two systems side by side whose data differ only where no program looks. Alike programs await alike
operations and go on alike from alike answers, so that two pools of them take the same steps.
-/

namespace Concurrency

/-- Which operations look alike, and which answers to two that do. -/
structure Likeness (Op : Type) (Reply : Op → Type) where
  ops : Op → Op → Prop
  answers : (first second : Op) → Reply first → Reply second → Prop

variable {Op : Type} {Reply : Op → Type} {ε τ τ' α β γ δ World Choice : Type}

def Outcomes (values : α → β → Prop) : Except ε α → Except ε β → Prop
  | .ok value, .ok other => values value other
  | .error error, .error other => error = other
  | _, _ => False

theorem Outcomes.mono {values weaker : α → β → Prop} {first : Except ε α} {second : Except ε β}
    (outcomes : Outcomes values first second)
    (implies : ∀ value other, values value other → weaker value other) :
    Outcomes weaker first second := by
  cases first <;> cases second
  case ok.ok => exact implies _ _ outcomes
  all_goals exact outcomes

theorem Outcomes.eq {first second : Except ε α} (outcomes : Outcomes Eq first second) :
    first = second := by
  cases first <;> cases second
  case ok.ok => exact congrArg Except.ok outcomes
  case error.error => exact congrArg Except.error outcomes
  all_goals exact outcomes.elim

namespace Program

variable {likeness : Likeness Op Reply} {values : α → β → Prop}

def Like (likeness : Likeness Op Reply) (values : α → β → Prop) :
    Program Op Reply ε α → Program Op Reply ε β → Prop
  | .settled result, second => ∃ other, second = .settled other ∧ Outcomes values result other
  | .await op next, second => ∃ op' rest, second = .await op' rest ∧ likeness.ops op op' ∧
      ∀ reply other, Outcomes (likeness.answers op op') reply other →
        (next reply).Like likeness values (rest other)

theorem like_settled {first : Except ε α} {second : Except ε β}
    (outcomes : Outcomes values first second) :
    (settled first : Program Op Reply ε α).Like likeness values (.settled second) :=
  ⟨second, rfl, outcomes⟩

theorem like_pure {value : α} {other : β} (related : values value other) :
    (pure value : Program Op Reply ε α).Like likeness values (pure other) :=
  ⟨.ok other, rfl, related⟩

theorem like_throw (error : ε) :
    (throw error : Program Op Reply ε α).Like likeness values (throw error : Program Op Reply ε β) :=
  ⟨.error error, rfl, rfl⟩

theorem like_perform {op op' : Op} (alike : likeness.ops op op') :
    (perform op : Program Op Reply ε (Reply op)).Like likeness (likeness.answers op op')
      (perform op') :=
  ⟨op', .settled, rfl, alike, fun _ _ outcomes => like_settled outcomes⟩

theorem Like.mono {first : Program Op Reply ε α} {second : Program Op Reply ε β}
    {weaker : α → β → Prop} (like : first.Like likeness values second)
    (implies : ∀ value other, values value other → weaker value other) :
    first.Like likeness weaker second := by
  induction first generalizing second with
  | settled result =>
      obtain ⟨other, rfl, outcomes⟩ := like
      exact like_settled (outcomes.mono implies)
  | await op next ih =>
      obtain ⟨op', rest, rfl, alike, follow⟩ := like
      exact ⟨op', rest, rfl, alike, fun reply other related => ih reply (follow reply other related)⟩

theorem Like.bind {first : Program Op Reply ε α} {second : Program Op Reply ε β}
    {rest : α → Program Op Reply ε γ} {others : β → Program Op Reply ε δ} {results : γ → δ → Prop}
    (like : first.Like likeness values second)
    (follow : ∀ value other, values value other →
      (rest value).Like likeness results (others other)) :
    (first >>= rest).Like likeness results (second >>= others) := by
  change (first.bind rest).Like likeness results (second.bind others)
  induction first generalizing second with
  | settled result =>
      obtain ⟨other, rfl, outcomes⟩ := like
      cases result <;> cases other
      case ok.ok => exact follow _ _ outcomes
      case error.error => exact like_settled outcomes
      all_goals exact outcomes.elim
  | await op next ih =>
      obtain ⟨op', continuation, rfl, alike, later⟩ := like
      exact ⟨op', _, rfl, alike, fun reply other related => ih reply (later reply other related)⟩

theorem Like.tryCatch {first : Program Op Reply ε α} {second : Program Op Reply ε β}
    {handler : ε → Program Op Reply ε α} {other : ε → Program Op Reply ε β}
    (like : first.Like likeness values second)
    (handles : ∀ error, (handler error).Like likeness values (other error)) :
    (tryCatch first handler).Like likeness values (tryCatch second other) := by
  change (first.handle handler).Like likeness values (second.handle other)
  induction first generalizing second with
  | settled result =>
      obtain ⟨settled', rfl, outcomes⟩ := like
      cases result <;> cases settled'
      case ok.ok => exact like_settled outcomes
      case error.error error _ =>
        cases outcomes
        exact handles error
      all_goals exact outcomes.elim
  | await op next ih =>
      obtain ⟨op', continuation, rfl, alike, later⟩ := like
      exact ⟨op', _, rfl, alike, fun reply other related => ih reply (later reply other related)⟩

theorem Like.finallyDo {first : Program Op Reply ε α} {second : Program Op Reply ε β}
    {cleanup other : Program Op Reply ε Unit} (like : first.Like likeness values second)
    (cleans : cleanup.Like likeness (fun _ _ => True) other) :
    (first.finallyDo cleanup).Like likeness values (second.finallyDo other) := by
  induction first generalizing second with
  | settled result =>
      obtain ⟨settled', rfl, outcomes⟩ := like
      exact cleans.bind fun _ _ _ => like_settled outcomes
  | await op next ih =>
      obtain ⟨op', continuation, rfl, alike, later⟩ := like
      exact ⟨op', _, rfl, alike, fun reply other related => ih reply (later reply other related)⟩

theorem Like.result {first : Program Op Reply ε α} {second : Program Op Reply ε β}
    (like : first.Like likeness values second) :
    Option.Rel (Outcomes values) first.result second.result := by
  cases first with
  | settled result =>
      obtain ⟨other, rfl, outcomes⟩ := like
      exact .some outcomes
  | await op next =>
      obtain ⟨op', rest, rfl, _⟩ := like
      exact .none

end Program

section Lists

variable {relates : α → β → Prop} {xs : List α} {ys : List β}

theorem forall₂_getElem? (all : List.Forall₂ relates xs ys) (position : Nat) :
    Option.Rel relates xs[position]? ys[position]? := by
  induction all generalizing position with
  | nil => exact .none
  | cons head _ ih =>
      cases position with
      | zero => exact .some head
      | succ position => exact ih position

theorem forall₂_set (all : List.Forall₂ relates xs ys) (position : Nat) {x : α} {y : β}
    (related : relates x y) : List.Forall₂ relates (xs.set position x) (ys.set position y) := by
  induction all generalizing position with
  | nil => exact .nil
  | cons head tail ih =>
      cases position with
      | zero => exact .cons related tail
      | succ position => exact .cons head (ih position)

theorem forall₂_find? (all : List.Forall₂ relates xs ys) {p : α → Bool} {q : β → Bool}
    (same : ∀ x y, relates x y → p x = q y) : Option.Rel relates (xs.find? p) (ys.find? q) := by
  induction all with
  | nil => exact .none
  | @cons x y _ _ head _ ih =>
      rw [List.find?_cons, List.find?_cons, ← same x y head]
      cases p x with
      | true => exact .some head
      | false => exact ih

theorem forall₂_concat (all : List.Forall₂ relates xs ys) {x : α} {y : β} (related : relates x y) :
    List.Forall₂ relates (xs ++ [x]) (ys ++ [y]) :=
  List.rel_append all (.cons related .nil)

end Lists

def Likeness.Sound (likeness : Likeness Op Reply)
    (exec : World → (op : Op) → Choice → Option (Completion (Reply op) ε World))
    (worlds : World → World → Prop) : Prop :=
  ∀ (first second : World) (op op' : Op) (choice : Choice), worlds first second →
    likeness.ops op op' →
    Option.Rel (fun left right => Outcomes (likeness.answers op op') left.reply right.reply ∧
        worlds left.world right.world ∧ left.effective = right.effective)
      (exec first op choice) (exec second op' choice)

structure Process.Like (likeness : Likeness Op Reply) (tags : τ → τ' → Prop)
    (values : α → β → Prop) (process : Process Op Reply ε τ α) (other : Process Op Reply ε τ' β) :
    Prop where
  tag : tags process.tag other.tag
  program : process.program.Like likeness values other.program

structure Entry.Like (likeness : Likeness Op Reply) (entry other : Entry Op Reply ε) : Prop where
  pid : entry.pid = other.pid
  op : likeness.ops entry.op other.op
  reply : Outcomes (likeness.answers entry.op other.op) entry.reply other.reply
  effective : entry.effective = other.effective

structure Pool.Like (likeness : Likeness Op Reply) (worlds : World → World → Prop)
    (tags : τ → τ' → Prop) (values : α → β → Prop) (pool : Pool Op Reply ε τ α World)
    (other : Pool Op Reply ε τ' β World) : Prop where
  world : worlds pool.world other.world
  processes : List.Forall₂ (Process.Like likeness tags values) pool.processes other.processes
  history : List.Forall₂ (Entry.Like likeness) pool.history other.history

namespace Pool.Like

variable {likeness : Likeness Op Reply} {worlds : World → World → Prop} {tags : τ → τ' → Prop}
  {values : α → β → Prop} {pool : Pool Op Reply ε τ α World} {other : Pool Op Reply ε τ' β World}
  {exec : World → (op : Op) → Choice → Option (Completion (Reply op) ε World)}

theorem resume (like : Pool.Like likeness worlds tags values pool other)
    (sound : likeness.Sound exec worlds) (pid : Nat) (choice : Choice) :
    Option.Rel (Pool.Like likeness worlds tags values) (pool.resume exec pid choice)
      (other.resume exec pid choice) := by
  have found := forall₂_getElem? like.processes pid
  unfold Pool.resume
  generalize pool.processes[pid]? = process at found ⊢
  generalize other.processes[pid]? = process' at found ⊢
  cases found with
  | none => exact .none
  | @some process process' same =>
      obtain ⟨tag, program⟩ := process
      obtain ⟨tag', program'⟩ := process'
      obtain ⟨tagged, alike⟩ := same
      cases program with
      | settled result =>
          obtain ⟨settled', rfl, _⟩ := alike
          exact .none
      | await op next =>
          obtain ⟨op', rest, rfl, ops, follow⟩ := alike
          have outcome := sound pool.world other.world op op' choice like.world ops
          simp only []
          generalize exec pool.world op choice = left at outcome ⊢
          generalize exec other.world op' choice = right at outcome ⊢
          cases outcome with
          | none => exact .none
          | some outcome =>
              obtain ⟨replies, world, effective⟩ := outcome
              exact .some {
                world := world
                processes := forall₂_set like.processes pid ⟨tagged, follow _ _ replies⟩
                history := forall₂_concat like.history ⟨rfl, ops, replies, effective⟩ }

theorem spawn (like : Pool.Like likeness worlds tags values pool other) {tag : τ} {tag' : τ'}
    {program : Program Op Reply ε α} {program' : Program Op Reply ε β} (tagged : tags tag tag')
    (alike : program.Like likeness values program') :
    Pool.Like likeness worlds tags values (pool.spawn tag program) (other.spawn tag' program') where
  world := like.world
  processes := forall₂_concat like.processes ⟨tagged, alike⟩
  history := like.history

theorem inWorld {world world' : World} (like : Pool.Like likeness worlds tags values pool other)
    (related : worlds world world') :
    Pool.Like likeness worlds tags values { pool with world := world }
      { other with world := world' } where
  world := related
  processes := like.processes
  history := like.history

theorem length (like : Pool.Like likeness worlds tags values pool other) :
    pool.processes.length = other.processes.length :=
  like.processes.length_eq

theorem result (like : Pool.Like likeness worlds tags values pool other) (pid : Nat) :
    Option.Rel (Outcomes values) (pool.processes[pid]?.bind fun process => process.program.result)
      (other.processes[pid]?.bind fun process => process.program.result) := by
  have found := forall₂_getElem? like.processes pid
  generalize pool.processes[pid]? = process at found ⊢
  generalize other.processes[pid]? = process' at found ⊢
  cases found with
  | none => exact .none
  | some same => exact same.program.result

end Pool.Like

section Runs

variable {State Event State' Event' : Type} {step : State → Event → Option State}
  {step' : State' → Event' → Option State'} {relates : State → State' → Prop}
  {alike : Event → Event' → Prop}

theorem execute_rel
    (steps : ∀ state state' event event', relates state state' → alike event event' →
      Option.Rel relates (step state event) (step' state' event'))
    {events : List Event} {events' : List Event'} (all : List.Forall₂ alike events events')
    {start : State} {start' : State'} (related : relates start start') :
    Option.Rel relates (execute step (fun _ _ => True) events start)
      (execute step' (fun _ _ => True) events' start') := by
  induction all generalizing start start' with
  | nil => exact .some related
  | @cons event event' rest rest' same _ ih =>
      have moved := steps start start' event event' related same
      simp only [execute, if_true]
      generalize step start event = next at moved ⊢
      generalize step' start' event' = next' at moved ⊢
      cases moved with
      | none => exact .none
      | some related => exact ih related

end Runs

end Concurrency
