import SmsNotification.Concurrency.Budget

/-!
Programs that run alone. A run lets nothing happen between two operations of its program, so it is a
function of the environment; `Yields` is the total-correctness judgement about it.
-/

namespace Concurrency

structure Exchange (Op : Type) (Reply : Op → Type) (ε : Type) where
  op : Op
  reply : Except ε (Reply op)

structure Ran (Op : Type) (Reply : Op → Type) (ε α World : Type) where
  result : Except ε α
  world : World
  trace : List (Exchange Op Reply ε)

/-- The environment chooses in view of everything that was exchanged before. -/
abbrev Environment (Op : Type) (Reply : Op → Type) (ε Choice : Type) :=
  List (Exchange Op Reply ε) → Op → Choice

namespace Program

variable {Op : Type} {Reply : Op → Type} {ε α β World Choice : Type}
  (exec : World → (op : Op) → Choice → Option (Completion (Reply op) ε World))
  (environment : Environment Op Reply ε Choice)

def run : Program Op Reply ε α → World → List (Exchange Op Reply ε) →
    Option (Ran Op Reply ε α World)
  | .settled result, world, trace => some ⟨result, world, trace⟩
  | .await op next, world, trace =>
      match exec world op (environment trace op) with
      | none => none
      | some completion =>
          (next completion.reply).run completion.world (trace ++ [⟨op, completion.reply⟩])

def Yields (post : Except ε α → World → List (Exchange Op Reply ε) → Prop)
    (program : Program Op Reply ε α) (world : World) (trace : List (Exchange Op Reply ε)) : Prop :=
  ∃ ran, program.run exec environment world trace = some ran ∧ post ran.result ran.world ran.trace

variable {exec environment} {world : World} {trace : List (Exchange Op Reply ε)}
  {post : Except ε α → World → List (Exchange Op Reply ε) → Prop}

@[simp] theorem yields_settled (result : Except ε α) :
    (settled result : Program Op Reply ε α).Yields exec environment post world trace ↔
      post result world trace := by
  simp [Yields, run]

@[simp] theorem yields_pure (value : α) :
    (pure value : Program Op Reply ε α).Yields exec environment post world trace ↔
      post (.ok value) world trace :=
  yields_settled (.ok value)

@[simp] theorem yields_throw (error : ε) :
    (throw error : Program Op Reply ε α).Yields exec environment post world trace ↔
      post (.error error) world trace :=
  yields_settled (.error error)

@[simp] theorem yields_await (op : Op) (next : Except ε (Reply op) → Program Op Reply ε α) :
    (await op next).Yields exec environment post world trace ↔
      ∃ completion, exec world op (environment trace op) = some completion ∧
        (next completion.reply).Yields exec environment post completion.world
          (trace ++ [⟨op, completion.reply⟩]) := by
  simp only [Yields, run]
  cases exec world op (environment trace op) with
  | none => simp
  | some completion => simp

theorem yields_perform (op : Op)
    {post : Except ε (Reply op) → World → List (Exchange Op Reply ε) → Prop} :
    (perform op : Program Op Reply ε (Reply op)).Yields exec environment post world trace ↔
      ∃ completion, exec world op (environment trace op) = some completion ∧
        post completion.reply completion.world (trace ++ [⟨op, completion.reply⟩]) := by
  simp [perform]

@[simp] theorem yields_bind {post : Except ε β → World → List (Exchange Op Reply ε) → Prop}
    (program : Program Op Reply ε α) (rest : α → Program Op Reply ε β) :
    (program >>= rest).Yields exec environment post world trace ↔
      program.Yields exec environment (fun result world trace => match result with
        | .ok value => (rest value).Yields exec environment post world trace
        | .error error => post (.error error) world trace) world trace := by
  change (program.bind rest).Yields exec environment post world trace ↔ _
  induction program generalizing world trace with
  | settled result =>
      cases result with
      | ok value => simp [bind]
      | error error => simp [bind]
  | await op next ih => simp only [bind, yields_await, ih]

@[simp] theorem yields_tryCatch (program : Program Op Reply ε α)
    (handler : ε → Program Op Reply ε α) :
    (tryCatch program handler).Yields exec environment post world trace ↔
      program.Yields exec environment (fun result world trace => match result with
        | .ok value => post (.ok value) world trace
        | .error error => (handler error).Yields exec environment post world trace) world trace := by
  change (program.handle handler).Yields exec environment post world trace ↔ _
  induction program generalizing world trace with
  | settled result =>
      cases result with
      | ok value => simp [handle]
      | error error => simp [handle]
  | await op next ih => simp only [handle, yields_await, ih]

theorem Yields.mono {program : Program Op Reply ε α}
    {weaker : Except ε α → World → List (Exchange Op Reply ε) → Prop}
    (yields : program.Yields exec environment post world trace)
    (implies : ∀ result world trace, post result world trace → weaker result world trace) :
    program.Yields exec environment weaker world trace := by
  obtain ⟨ran, runs, holds⟩ := yields
  exact ⟨ran, runs, implies _ _ _ holds⟩

theorem run_trace {program : Program Op Reply ε α} {ran : Ran Op Reply ε α World}
    (runs : program.run exec environment world trace = some ran) : trace <+: ran.trace := by
  induction program generalizing world trace with
  | settled result =>
      simp only [run, Option.some.injEq] at runs
      exact runs ▸ List.prefix_refl trace
  | await op next ih =>
      simp only [run] at runs
      split at runs
      · simp at runs
      · exact (List.prefix_append trace _).trans (ih _ runs)

theorem run_exchanges {program : Program Op Reply ε α} {ran : Ran Op Reply ε α World}
    {exchange : Exchange Op Reply ε} (runs : program.run exec environment world trace = some ran)
    (member : exchange ∈ ran.trace) : exchange ∈ trace ∨ ∃ world before completion,
      exec world exchange.op (environment before exchange.op) = some completion ∧
        exchange.reply = completion.reply := by
  induction program generalizing world trace with
  | settled result =>
      simp only [run, Option.some.injEq] at runs
      subst runs
      exact Or.inl member
  | await op next ih =>
      simp only [run] at runs
      cases executed : exec world op (environment trace op) with
      | none => simp [executed] at runs
      | some completion =>
          simp only [executed] at runs
          rcases ih completion.reply runs with earlier | later
          · rcases List.mem_append.mp earlier with before | now
            · exact Or.inl before
            · simp only [List.mem_singleton] at now
              subst now
              exact Or.inr ⟨world, trace, completion, executed, rfl⟩
          · exact Or.inr later

theorem run_keeps (Holds : World → Prop) {counted : Op → Bool} {program : Program Op Reply ε α}
    {ran : Ran Op Reply ε α World} (idle : program.AtMost counted 0) (holds : Holds world)
    (keeps : ∀ world op choice completion, counted op = false → Holds world →
      exec world op choice = some completion → Holds completion.world)
    (runs : program.run exec environment world trace = some ran) : Holds ran.world := by
  induction program generalizing world trace with
  | settled result =>
      simp only [run, Option.some.injEq] at runs
      subst runs
      exact holds
  | await op next ih =>
      unfold AtMost at idle
      by_cases count : counted op = true
      · rw [if_pos count] at idle
        exact absurd idle.1 (Nat.lt_irrefl 0)
      · rw [if_neg count] at idle
        simp only [run] at runs
        cases executed : exec world op (environment trace op) with
        | none => simp [executed] at runs
        | some completion =>
            simp only [executed] at runs
            have kept := keeps world op _ completion (by simpa using count) holds executed
            exact ih completion.reply (idle completion.reply) kept runs

end Program

namespace Pool

variable {Op : Type} {Reply : Op → Type} {ε τ α World Choice : Type}
  {exec : World → (op : Op) → Choice → Option (Completion (Reply op) ε World)}
  {environment : Environment Op Reply ε Choice} {pool : Pool Op Reply ε τ α World}

/-- A run is what a pool does while it resumes one process only. -/
theorem reaches_run {pid : Nat} {tag : τ} {program : Program Op Reply ε α}
    {trace : List (Exchange Op Reply ε)} {ran : Ran Op Reply ε α World}
    (found : pool.processes[pid]? = some ⟨tag, program⟩)
    (runs : program.run exec environment pool.world trace = some ran) :
    ∃ final, Reaches (fun pool choice => pool.resume exec pid choice) (fun _ _ => True) pool final ∧
      final.world = ran.world ∧
      final.processes = pool.processes.set pid ⟨tag, .settled ran.result⟩ ∧
      ∀ counted : Op → Bool,
        (final.history.countP fun entry => entry.pid == pid && counted entry.op) +
            trace.countP (fun exchange => counted exchange.op) =
          (pool.history.countP fun entry => entry.pid == pid && counted entry.op) +
            ran.trace.countP fun exchange => counted exchange.op := by
  induction program generalizing pool trace with
  | settled result =>
      simp only [Program.run, Option.some.injEq] at runs
      subst runs
      refine ⟨pool, .refl, rfl, ?_, fun _ => rfl⟩
      obtain ⟨below, same⟩ := List.getElem?_eq_some_iff.mp found
      rw [← same, List.set_getElem_self]
  | await op next ih =>
      simp only [Program.run] at runs
      cases executed : exec pool.world op (environment trace op) with
      | none => simp [executed] at runs
      | some completion =>
          simp only [executed] at runs
          have below := (List.getElem?_eq_some_iff.mp found).1
          obtain ⟨middle, resumed, world, processes, history⟩ : ∃ middle,
              pool.resume exec pid (environment trace op) = some middle ∧
              middle.world = completion.world ∧
              middle.processes = pool.processes.set pid ⟨tag, next completion.reply⟩ ∧
              middle.history =
                pool.history ++ [⟨pid, op, completion.reply, completion.effective⟩] :=
            ⟨⟨completion.world, pool.processes.set pid ⟨tag, next completion.reply⟩,
              pool.history ++ [⟨pid, op, completion.reply, completion.effective⟩]⟩,
              by simp [resume, found, executed], rfl, rfl, rfl⟩
          rw [← world] at runs
          obtain ⟨final, reaches, world', processes', counts⟩ := ih completion.reply
            (by rw [processes, List.getElem?_set_self below]) runs
          refine ⟨final, (Reaches.step .refl trivial resumed).trans reaches, world', ?_, ?_⟩
          · rw [processes', processes, List.set_set]
          · intro counted
            have count := counts counted
            simp only [history, List.countP_append, List.countP_singleton, beq_self_eq_true,
              Bool.true_and] at count
            omega

end Pool

end Concurrency
