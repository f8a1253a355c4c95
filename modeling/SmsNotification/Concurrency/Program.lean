import Mathlib.Data.List.Basic

/-!
Programs over awaited operations, and the protocols they follow. A program either has settled or
awaits one operation and goes on from its reply; nothing happens between two operations, so a
program is exactly the list of points at which other programs may run.
-/

namespace Concurrency

/-- An operation replies with a value or rejects with an error, and the program goes on from
either. -/
inductive Program (Op : Type) (Reply : Op → Type) (ε α : Type) : Type
  | settled (result : Except ε α)
  | await (op : Op) (next : Except ε (Reply op) → Program Op Reply ε α)

namespace Program

variable {Op : Type} {Reply : Op → Type} {ε α β : Type}

def bind : Program Op Reply ε α → (α → Program Op Reply ε β) → Program Op Reply ε β
  | .settled (.ok value), rest => rest value
  | .settled (.error error), _ => .settled (.error error)
  | .await op next, rest => .await op fun reply => (next reply).bind rest

def handle : Program Op Reply ε α → (ε → Program Op Reply ε α) → Program Op Reply ε α
  | .settled (.ok value), _ => .settled (.ok value)
  | .settled (.error error), handler => handler error
  | .await op next, handler => .await op fun reply => (next reply).handle handler

/-- Runs `cleanup` however `body` settles; an error of the cleanup replaces the result. -/
def finallyDo : Program Op Reply ε α → Program Op Reply ε Unit → Program Op Reply ε α
  | .settled result, cleanup => cleanup.bind fun _ => .settled result
  | .await op next, cleanup => .await op fun reply => (next reply).finallyDo cleanup

def settle : Program Op Reply ε α → (Except ε α → Program Op Reply ε β) → Program Op Reply ε β
  | .settled result, rest => rest result
  | .await op next, rest => .await op fun reply => (next reply).settle rest

def implement (handler : (op : Op) → Program Op Reply ε (Reply op)) :
    Program Op Reply ε α → Program Op Reply ε α
  | .settled result => .settled result
  | .await op next => (handler op).settle fun reply => (next reply).implement handler

instance : Monad (Program Op Reply ε) where
  pure value := .settled (.ok value)
  bind := bind

instance : MonadExceptOf ε (Program Op Reply ε) where
  throw error := .settled (.error error)
  tryCatch := handle

def perform (op : Op) : Program Op Reply ε (Reply op) :=
  .await op .settled

def awaited : Program Op Reply ε α → Option Op
  | .settled _ => none
  | .await op _ => some op

def result : Program Op Reply ε α → Option (Except ε α)
  | .settled result => some result
  | .await _ _ => none

end Program

/-- What programs may do, told by a ghost stage: the operations allowed in each stage, the replies
an operation can give at all, and the stage a reply leads to. -/
structure Protocol (Op : Type) (Reply : Op → Type) (ε : Type) where
  Stage : Type
  allowed : Stage → Op → Prop
  replies : (op : Op) → Except ε (Reply op) → Prop
  next : Stage → (op : Op) → Except ε (Reply op) → Stage

namespace Program

variable {Op : Type} {Reply : Op → Type} {ε α β : Type}

/-- From `stage` on, the program only awaits allowed operations, whatever they reply, and it
settles in stages and with results that satisfy `post`. -/
def Follows (protocol : Protocol Op Reply ε) (post : protocol.Stage → Except ε α → Prop) :
    Program Op Reply ε α → protocol.Stage → Prop
  | .settled result, stage => post stage result
  | .await op next, stage => protocol.allowed stage op ∧
      ∀ reply, protocol.replies op reply →
        (next reply).Follows protocol post (protocol.next stage op reply)

variable {protocol : Protocol Op Reply ε} {post : protocol.Stage → Except ε α → Prop}
  {stage : protocol.Stage}

/-- The postcondition that lets `rest` take over from a value and passes an error on. -/
def Then (protocol : Protocol Op Reply ε) (post : protocol.Stage → Except ε β → Prop)
    (rest : α → Program Op Reply ε β) (stage : protocol.Stage) : Except ε α → Prop
  | .ok value => (rest value).Follows protocol post stage
  | .error error => post stage (.error error)

/-- The postcondition that passes a value on and lets `handler` take over from an error. -/
def Else (protocol : Protocol Op Reply ε) (post : protocol.Stage → Except ε α → Prop)
    (handler : ε → Program Op Reply ε α) (stage : protocol.Stage) : Except ε α → Prop
  | .ok value => post stage (.ok value)
  | .error error => (handler error).Follows protocol post stage

@[simp] theorem follows_settled (result : Except ε α) :
    (settled result : Program Op Reply ε α).Follows protocol post stage ↔ post stage result :=
  Iff.rfl

@[simp] theorem follows_pure (value : α) :
    (pure value : Program Op Reply ε α).Follows protocol post stage ↔ post stage (.ok value) :=
  Iff.rfl

@[simp] theorem follows_throw (error : ε) :
    (throw error : Program Op Reply ε α).Follows protocol post stage ↔
      post stage (.error error) :=
  Iff.rfl

@[simp] theorem follows_perform (op : Op) {post : protocol.Stage → Except ε (Reply op) → Prop} :
    (perform op : Program Op Reply ε (Reply op)).Follows protocol post stage ↔
      protocol.allowed stage op ∧
        ∀ reply, protocol.replies op reply → post (protocol.next stage op reply) reply :=
  Iff.rfl

@[simp] theorem then_ok {post : protocol.Stage → Except ε β → Prop}
    (rest : α → Program Op Reply ε β) (value : α) :
    Then protocol post rest stage (.ok value) ↔ (rest value).Follows protocol post stage :=
  Iff.rfl

@[simp] theorem then_error {post : protocol.Stage → Except ε β → Prop}
    (rest : α → Program Op Reply ε β) (error : ε) :
    Then protocol post rest stage (.error error) ↔ post stage (.error error) :=
  Iff.rfl

@[simp] theorem else_ok (handler : ε → Program Op Reply ε α) (value : α) :
    Else protocol post handler stage (.ok value) ↔ post stage (.ok value) :=
  Iff.rfl

@[simp] theorem else_error (handler : ε → Program Op Reply ε α) (error : ε) :
    Else protocol post handler stage (.error error) ↔
      (handler error).Follows protocol post stage :=
  Iff.rfl

@[simp] theorem follows_bind {post : protocol.Stage → Except ε β → Prop}
    (program : Program Op Reply ε α) (rest : α → Program Op Reply ε β) :
    (program >>= rest).Follows protocol post stage ↔
      program.Follows protocol (Then protocol post rest) stage := by
  change (program.bind rest).Follows protocol post stage ↔ _
  induction program generalizing stage with
  | settled result =>
      cases result with
      | ok value => rfl
      | error error => rfl
  | await op next ih =>
      simp only [bind, Follows]
      exact and_congr_right fun _ => forall_congr' fun reply => imp_congr_right fun _ => ih reply

@[simp] theorem follows_tryCatch (program : Program Op Reply ε α)
    (handler : ε → Program Op Reply ε α) :
    (tryCatch program handler).Follows protocol post stage ↔
      program.Follows protocol (Else protocol post handler) stage := by
  change (program.handle handler).Follows protocol post stage ↔ _
  induction program generalizing stage with
  | settled result =>
      cases result with
      | ok value => rfl
      | error error => rfl
  | await op next ih =>
      simp only [handle, Follows]
      exact and_congr_right fun _ => forall_congr' fun reply => imp_congr_right fun _ => ih reply

@[simp] theorem follows_finallyDo (program : Program Op Reply ε α)
    (cleanup : Program Op Reply ε Unit) :
    (program.finallyDo cleanup).Follows protocol post stage ↔
      program.Follows protocol
        (fun stage result =>
          cleanup.Follows protocol (Then protocol post fun _ => settled result) stage) stage := by
  induction program generalizing stage with
  | settled result => exact follows_bind cleanup fun _ => settled result
  | await op next ih =>
      simp only [finallyDo, Follows]
      exact and_congr_right fun _ => forall_congr' fun reply => imp_congr_right fun _ => ih reply

theorem Follows.mono {program : Program Op Reply ε α} {weaker : protocol.Stage → Except ε α → Prop}
    (follows : program.Follows protocol post stage)
    (implies : ∀ stage result, post stage result → weaker stage result) :
    program.Follows protocol weaker stage := by
  induction program generalizing stage with
  | settled result => exact implies stage result follows
  | await op next ih => exact ⟨follows.1, fun reply possible => ih reply (follows.2 reply possible)⟩

theorem Follows.implement {program : Program Op Reply ε α}
    {handler : (op : Op) → Program Op Reply ε (Reply op)}
    (follows : program.Follows protocol post stage) (free : ∀ op reply, protocol.replies op reply)
    (performs : ∀ stage op, protocol.allowed stage op → handler op = perform op) :
    program.implement handler = program := by
  induction program generalizing stage with
  | settled result => rfl
  | await op next ih =>
      obtain ⟨allowed, later⟩ := follows
      have same : ∀ reply, (next reply).implement handler = next reply :=
        fun reply => ih reply (later reply (free op reply))
      rw [Program.implement, performs stage op allowed]
      simp only [perform, settle, same]

end Program

end Concurrency
