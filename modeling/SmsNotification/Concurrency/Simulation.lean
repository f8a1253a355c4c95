import SmsNotification.Concurrency.Pool

/-!
Simulations: of runs by the runs of another system, of a pool by a pool over another world, and of
one protocol by another, so that a program which follows the first follows the second.
-/

namespace Concurrency

section Runs

variable {State Event State' Event' : Type} {step : State → Event → Option State}
  {step' : State' → Event' → Option State'} {permitted : State → Event → Prop}
  {permitted' : State' → Event' → Prop} {start final : State} {start' : State'}

theorem Reaches.simulate (relates : State → State' → Prop)
    (reaches : Reaches step permitted start final) (related : relates start start')
    (simulates : ∀ state event next state', relates state state' → permitted state event →
      step state event = some next →
      ∃ next', Reaches step' permitted' state' next' ∧ relates next next') :
    ∃ final', Reaches step' permitted' start' final' ∧ relates final final' := by
  induction reaches with
  | refl => exact ⟨start', .refl, related⟩
  | step _ allowed moved ih =>
      obtain ⟨middle, before, relatedBefore⟩ := ih
      obtain ⟨next', later, relatedLater⟩ := simulates _ _ _ middle relatedBefore allowed moved
      exact ⟨next', before.trans later, relatedLater⟩

end Runs

variable {Op : Type} {Reply : Op → Type} {ε τ α World World' Choice : Type}

def Pool.inWorld (pool : Pool Op Reply ε τ α World) (world : World') :
    Pool Op Reply ε τ α World' where
  world := world
  processes := pool.processes
  history := pool.history

@[simp] theorem Pool.inWorld_inWorld (pool : Pool Op Reply ε τ α World) (world : World')
    (back : World) : (pool.inWorld world).inWorld back = pool.inWorld back :=
  rfl

theorem Pool.resume_inWorld {pool next : Pool Op Reply ε τ α World} {pid : Nat} {choice : Choice}
    {exec : World → (op : Op) → Choice → Option (Completion (Reply op) ε World)}
    (exec' : World' → (op : Op) → Choice → Option (Completion (Reply op) ε World'))
    (relates : World → World' → Prop) (world' : World')
    (resumed : pool.resume exec pid choice = some next)
    (transfers : ∀ op completion, pool.awaits pid = some op →
      exec pool.world op choice = some completion →
      ∃ left, exec' world' op choice = some ⟨completion.reply, left, completion.effective⟩ ∧
        relates completion.world left) :
    ∃ left, (pool.inWorld world').resume exec' pid choice = some (next.inWorld left) ∧
      relates next.world left := by
  obtain ⟨tag, op, rest, completion, found, executed, rfl⟩ := resume_cases resumed
  have awaits : pool.awaits pid = some op := by simp [awaits, found, Program.awaited]
  obtain ⟨left, executed', related⟩ := transfers op completion awaits executed
  refine ⟨left, ?_, related⟩
  have found' : (pool.inWorld world').processes[pid]? = some ⟨tag, .await op rest⟩ := found
  simp only [resume, found']
  rw [show (pool.inWorld world').world = world' from rfl, executed']
  rfl

structure Protocol.Simulates (first second : Protocol Op Reply ε)
    (relates : first.Stage → second.Stage → Prop) : Prop where
  replies : ∀ op reply, second.replies op reply → first.replies op reply
  allowed : ∀ stage stage' op, relates stage stage' → first.allowed stage op →
    second.allowed stage' op
  next : ∀ stage stage' op reply, relates stage stage' → first.allowed stage op →
    second.replies op reply → relates (first.next stage op reply) (second.next stage' op reply)

theorem Program.Follows.simulate {first second : Protocol Op Reply ε}
    {relates : first.Stage → second.Stage → Prop} (simulates : first.Simulates second relates)
    {program : Program Op Reply ε α} {post : first.Stage → Except ε α → Prop}
    {post' : second.Stage → Except ε α → Prop} {stage : first.Stage} {stage' : second.Stage}
    (follows : program.Follows first post stage) (related : relates stage stage')
    (settles : ∀ stage stage' result, relates stage stage' → post stage result →
      post' stage' result) :
    program.Follows second post' stage' := by
  induction program generalizing stage stage' with
  | settled result => exact settles stage stage' result related follows
  | await op next ih =>
      obtain ⟨allowed, later⟩ := follows
      refine ⟨simulates.allowed stage stage' op related allowed, ?_⟩
      intro reply possible
      exact ih reply (later reply (simulates.replies op reply possible))
        (simulates.next stage stage' op reply related allowed possible)

end Concurrency
