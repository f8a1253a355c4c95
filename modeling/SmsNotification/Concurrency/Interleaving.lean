import SmsNotification.Concurrency.Run

/-!
The steps of one program among others. Between two of them the world may change in any way, so what
is shown of a program's own steps here holds in every interleaving.
-/

namespace Concurrency

variable {Op : Type} {Reply : Op → Type} {ε α World Choice : Type}
  (exec : World → (op : Op) → Choice → Option (Completion (Reply op) ε World))

/-- One executed operation, with the world that it met. -/
structure OwnStep where
  before : World
  op : Op
  choice : Choice
  completion : Completion (Reply op) ε World
  executed : exec before op choice = some completion

/-- The program takes these steps, each in whatever world it meets, and settles. -/
inductive Program.Settles : Program Op Reply ε α → List (OwnStep exec) → Except ε α → Prop
  | settled (result : Except ε α) : Settles (.settled result) [] result
  | await (step : OwnStep exec)
      {rest : Except ε (Reply step.op) → Program Op Reply ε α} {steps : List (OwnStep exec)}
      {result : Except ε α} : Settles (rest step.completion.reply) steps result →
      Settles (.await step.op rest) (step :: steps) result

/-- The program takes these steps, each in whatever world it meets, and has `rest` still to do. -/
inductive Program.Reaches : Program Op Reply ε α → List (OwnStep exec) →
    Program Op Reply ε α → Prop
  | here (program : Program Op Reply ε α) : Reaches program [] program
  | await (step : OwnStep exec)
      {next : Except ε (Reply step.op) → Program Op Reply ε α} {steps : List (OwnStep exec)}
      {rest : Program Op Reply ε α} : Reaches (next step.completion.reply) steps rest →
      Reaches (.await step.op next) (step :: steps) rest

variable {exec} {protocol : Protocol Op Reply ε} {post : protocol.Stage → Except ε α → Prop}

theorem Program.Reaches.step {program rest : Program Op Reply ε α} (step : OwnStep exec)
    {next : Except ε (Reply step.op) → Program Op Reply ε α} {steps : List (OwnStep exec)}
    (awaits : program = .await step.op next)
    (reaches : (next step.completion.reply).Reaches exec steps rest) :
    program.Reaches exec (step :: steps) rest :=
  awaits ▸ .await step reaches

theorem Program.Settles.reaches {program : Program Op Reply ε α} {steps : List (OwnStep exec)}
    {result : Except ε α} (settles : program.Settles exec steps result) :
    program.Reaches exec steps (.settled result) := by
  induction settles with
  | settled result => exact .here (.settled result)
  | await step _ ih => exact .await step ih

theorem Program.Settles.first {op : Op} {next : Except ε (Reply op) → Program Op Reply ε α}
    {steps : List (OwnStep exec)} {result : Except ε α}
    (settles : (Program.await op next).Settles exec steps result) :
    ∃ before choice completion executed rest,
      steps = ⟨before, op, choice, completion, executed⟩ :: rest ∧
        (next completion.reply).Settles exec rest result := by
  generalize awaiting : Program.await op next = program at settles
  cases settles with
  | settled result => simp at awaiting
  | await step settles =>
      obtain ⟨before, stepOp, choice, completion, executed⟩ := step
      simp only [Program.await.injEq] at awaiting
      obtain ⟨rfl, same⟩ := awaiting
      rw [← eq_of_heq same] at settles
      exact ⟨before, choice, completion, executed, _, rfl, settles⟩

namespace Protocol

def after (protocol : Protocol Op Reply ε) (stage : protocol.Stage) :
    List (OwnStep exec) → protocol.Stage
  | [] => stage
  | step :: rest => protocol.after (protocol.next stage step.op step.completion.reply) rest

def Permits (protocol : Protocol Op Reply ε) (stage : protocol.Stage) :
    List (OwnStep exec) → Prop
  | [] => True
  | step :: rest => protocol.allowed stage step.op ∧
      protocol.Permits (protocol.next stage step.op step.completion.reply) rest

theorem after_append {stage : protocol.Stage} (first second : List (OwnStep exec)) :
    protocol.after stage (first ++ second) = protocol.after (protocol.after stage first) second := by
  induction first generalizing stage with
  | nil => rfl
  | cons step first ih => exact ih

theorem permits_append {stage : protocol.Stage} (first second : List (OwnStep exec)) :
    protocol.Permits stage (first ++ second) ↔
      protocol.Permits stage first ∧ protocol.Permits (protocol.after stage first) second := by
  induction first generalizing stage with
  | nil => simp [Permits, after]
  | cons step first ih => simp only [List.cons_append, Permits, after, ih, and_assoc]

end Protocol

theorem Program.Follows.reaches {program rest : Program Op Reply ε α} {stage : protocol.Stage}
    {steps : List (OwnStep exec)} (follows : program.Follows protocol post stage)
    (reaches : program.Reaches exec steps rest)
    (replies : ∀ step ∈ steps, protocol.replies step.op step.completion.reply) :
    protocol.Permits stage steps ∧ rest.Follows protocol post (protocol.after stage steps) := by
  induction reaches generalizing stage with
  | here program => exact ⟨trivial, follows⟩
  | await step _ ih =>
      have following := follows.2 step.completion.reply (replies step (by simp))
      have rest := ih following fun step found => replies step (by simp [found])
      exact ⟨⟨follows.1, rest.1⟩, rest.2⟩

theorem Program.Follows.settles {program : Program Op Reply ε α} {stage : protocol.Stage}
    {steps : List (OwnStep exec)} {result : Except ε α}
    (follows : program.Follows protocol post stage) (settles : program.Settles exec steps result)
    (replies : ∀ step ∈ steps, protocol.replies step.op step.completion.reply) :
    protocol.Permits stage steps ∧ post (protocol.after stage steps) result :=
  follows.reaches settles.reaches replies

def OwnStep.exchange (step : OwnStep exec) : Exchange Op Reply ε :=
  ⟨step.op, step.completion.reply⟩

def Uninterrupted : World → List (OwnStep exec) → Prop
  | _, [] => True
  | world, step :: rest => step.before = world ∧ Uninterrupted step.completion.world rest

theorem Program.settles_of_run {environment : Environment Op Reply ε Choice}
    {program : Program Op Reply ε α} {world : World} {trace : List (Exchange Op Reply ε)}
    {ran : Ran Op Reply ε α World}
    (runs : program.run exec environment world trace = some ran) :
    ∃ steps : List (OwnStep exec), program.Settles exec steps ran.result ∧
      ran.trace = trace ++ steps.map OwnStep.exchange ∧
      (∀ step ∈ steps, ∃ record, step.choice = environment record step.op) ∧
      Uninterrupted world steps := by
  induction program generalizing world trace with
  | settled result =>
      simp only [run, Option.some.injEq] at runs
      subst runs
      exact ⟨[], .settled result, by simp, by simp, trivial⟩
  | await op next ih =>
      simp only [run] at runs
      split at runs
      next => simp at runs
      next completion executed =>
        obtain ⟨steps, settles, exchanges, choices, alone⟩ := ih completion.reply runs
        refine ⟨⟨world, op, environment trace op, completion, executed⟩ :: steps,
          .await ⟨world, op, environment trace op, completion, executed⟩ settles, ?_, ?_,
          rfl, alone⟩
        · rw [exchanges]
          simp [OwnStep.exchange]
        · intro step found
          rw [List.mem_cons] at found
          cases found with
          | inl same => exact ⟨trace, by rw [same]⟩
          | inr later => exact choices step later

end Concurrency
