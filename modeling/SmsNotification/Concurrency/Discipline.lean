import Mathlib.Data.List.Induction
import SmsNotification.Concurrency.Budget
import SmsNotification.Concurrency.Simulation

/-!
Systems whose processes all keep to one protocol. The stage of a process is read off the history, so
statements can speak of it, and an invariant is proved from what one step does to stages and world.
-/

namespace Concurrency

variable {Op : Type} {Reply : Op → Type} {ε τ α World Choice : Type}

def Protocol.reached (protocol : Protocol Op Reply ε) (stage : protocol.Stage)
    (entries : List (Entry Op Reply ε)) : protocol.Stage :=
  entries.foldl (fun stage entry => protocol.next stage entry.op entry.reply) stage

@[simp] theorem Protocol.reached_nil (protocol : Protocol Op Reply ε) (stage : protocol.Stage) :
    protocol.reached stage [] = stage :=
  rfl

@[simp] theorem Protocol.reached_append (protocol : Protocol Op Reply ε) (stage : protocol.Stage)
    (first second : List (Entry Op Reply ε)) :
    protocol.reached stage (first ++ second) = protocol.reached (protocol.reached stage first) second :=
  List.foldl_append

@[simp] theorem Protocol.reached_cons (protocol : Protocol Op Reply ε) (stage : protocol.Stage)
    (entry : Entry Op Reply ε) (rest : List (Entry Op Reply ε)) :
    protocol.reached stage (entry :: rest) =
      protocol.reached (protocol.next stage entry.op entry.reply) rest :=
  rfl

def Protocol.Legal (protocol : Protocol Op Reply ε) (stage : protocol.Stage) :
    List (Entry Op Reply ε) → Prop
  | [] => True
  | entry :: rest => protocol.allowed stage entry.op ∧ protocol.replies entry.op entry.reply ∧
      protocol.Legal (protocol.next stage entry.op entry.reply) rest

theorem Protocol.legal_append {protocol : Protocol Op Reply ε} {stage : protocol.Stage}
    {first second : List (Entry Op Reply ε)} :
    protocol.Legal stage (first ++ second) ↔
      protocol.Legal stage first ∧ protocol.Legal (protocol.reached stage first) second := by
  induction first generalizing stage with
  | nil => simp [Legal]
  | cons entry rest ih => simp only [List.cons_append, Legal, reached_cons, ih, and_assoc]

theorem Protocol.Legal.relates {protocol : Protocol Op Reply ε} {start : protocol.Stage}
    {entries : List (Entry Op Reply ε)} (legal : protocol.Legal start entries)
    (related : protocol.Stage → List (Entry Op Reply ε) → Prop) (initially : related start [])
    (grows : ∀ stage entries entry, related stage entries → protocol.allowed stage entry.op →
      protocol.replies entry.op entry.reply →
      related (protocol.next stage entry.op entry.reply) (entries ++ [entry])) :
    related (protocol.reached start entries) entries := by
  induction entries using List.reverseRecOn with
  | nil => exact initially
  | append_singleton entries entry ih =>
      obtain ⟨before, allowed, possible, _⟩ := legal_append.mp legal
      simp only [reached_append, reached_cons, reached_nil]
      exact grows _ entries entry (ih before) allowed possible

/-- Operations that do not count keep a program among the stages that they do not lead out of. -/
theorem Program.AtMost.follows {counted : Op → Bool} {program : Program Op Reply ε α}
    (protocol : Protocol Op Reply ε) {stage : protocol.Stage} (idle : program.AtMost counted 0)
    (keeps : protocol.Stage → Prop) (start : keeps stage)
    (allowed : ∀ stage op, keeps stage → counted op = false → protocol.allowed stage op)
    (kept : ∀ stage op reply, keeps stage → counted op = false →
      keeps (protocol.next stage op reply)) :
    program.Follows protocol (fun final _ => keeps final) stage := by
  induction program generalizing stage with
  | settled result => exact start
  | await op next ih =>
      unfold AtMost at idle
      by_cases count : counted op = true
      · rw [if_pos count] at idle
        exact absurd idle.1 (Nat.lt_irrefl 0)
      · rw [if_neg count] at idle
        have other : counted op = false := by simpa using count
        exact ⟨allowed stage op start other,
          fun reply _ => ih reply (idle reply) (kept stage op reply start other)⟩

/-- What may happen in a system of processes: `admits` restricts what the environment decides for an
operation, `changes` is what befalls the world apart from operations. -/
structure System (Op : Type) (Reply : Op → Type) (ε τ α World Choice : Type) where
  exec : World → (op : Op) → Choice → Option (Completion (Reply op) ε World)
  program : τ → Program Op Reply ε α
  admits : Pool Op Reply ε τ α World → Nat → Choice → Prop
  changes : Pool Op Reply ε τ α World → World → Prop

namespace Pool

variable {pool next : Pool Op Reply ε τ α World}

def entriesOf (pool : Pool Op Reply ε τ α World) (pid : Nat) : List (Entry Op Reply ε) :=
  pool.history.filter fun entry => entry.pid = pid

def tagOf (pool : Pool Op Reply ε τ α World) (pid : Nat) : Option τ :=
  pool.processes[pid]?.map Process.tag

inductive Steps (system : System Op Reply ε τ α World Choice) (pool : Pool Op Reply ε τ α World) :
    Pool Op Reply ε τ α World → Prop
  | spawn {tag : τ} {world : World} : system.changes pool world →
      Steps system pool ((pool.inWorld world).spawn tag (system.program tag))
  | resume {pid : Nat} {choice : Choice} {next : Pool Op Reply ε τ α World} :
      system.admits pool pid choice → pool.resume system.exec pid choice = some next →
      Steps system pool next
  | change {world : World} : system.changes pool world → Steps system pool (pool.inWorld world)

end Pool

/-- A protocol that all processes of a system keep to, each from a stage that its tag tells. -/
structure Discipline (system : System Op Reply ε τ α World Choice) where
  protocol : Protocol Op Reply ε
  start : τ → protocol.Stage
  settles : τ → protocol.Stage → Except ε α → Prop
  conforms : ∀ tag, (system.program tag).Follows protocol (settles tag) (start tag)
  replies : ∀ world op choice completion, system.exec world op choice = some completion →
    protocol.replies op completion.reply

namespace Discipline

variable {system : System Op Reply ε τ α World Choice} (discipline : Discipline system)
  {pool next : Pool Op Reply ε τ α World} {pid : Nat}

def stage (pool : Pool Op Reply ε τ α World) (pid : Nat) : Option discipline.protocol.Stage :=
  pool.processes[pid]?.map fun process =>
    discipline.protocol.reached (discipline.start process.tag) (pool.entriesOf pid)

structure Obeyed (pool : Pool Op Reply ε τ α World) : Prop where
  follows : ∀ (pid : Nat) (process : Process Op Reply ε τ α), pool.processes[pid]? = some process →
    process.program.Follows discipline.protocol (discipline.settles process.tag)
      (discipline.protocol.reached (discipline.start process.tag) (pool.entriesOf pid))
  legal : ∀ (pid : Nat) (tag : τ), pool.tagOf pid = some tag →
    discipline.protocol.Legal (discipline.start tag) (pool.entriesOf pid)
  recorded : ∀ entry ∈ pool.history, entry.pid < pool.processes.length

variable {discipline}

theorem Obeyed.unrecorded (obeyed : discipline.Obeyed pool) (above : pool.processes.length ≤ pid) :
    pool.entriesOf pid = [] := by
  refine List.filter_eq_nil_iff.mpr ?_
  intro entry member
  have below := obeyed.recorded entry member
  have other : entry.pid ≠ pid := by omega
  simpa using other

theorem Obeyed.result (obeyed : discipline.Obeyed pool) {process : Process Op Reply ε τ α}
    {result : Except ε α} (found : pool.processes[pid]? = some process)
    (settled : process.program.result = some result) :
    ∃ stage, discipline.stage pool pid = some stage ∧
      discipline.settles process.tag stage result := by
  have follows := obeyed.follows pid process found
  refine ⟨_, by simp only [stage, found, Option.map_some]; rfl, ?_⟩
  cases program : process.program with
  | settled value =>
      rw [program] at settled follows
      simp only [Program.result, Option.some.injEq] at settled
      exact settled ▸ follows
  | await op rest =>
      rw [program] at settled
      simp [Program.result] at settled

theorem Obeyed.awaits (obeyed : discipline.Obeyed pool) {op : Op}
    (awaits : pool.awaits pid = some op) :
    ∃ stage, discipline.stage pool pid = some stage ∧ discipline.protocol.allowed stage op := by
  obtain ⟨process, found, awaited⟩ := Option.bind_eq_some_iff.mp awaits
  have follows := obeyed.follows pid process found
  refine ⟨_, by simp only [stage, found, Option.map_some]; rfl, ?_⟩
  cases program : process.program with
  | settled result => simp [program, Program.awaited] at awaited
  | await next rest =>
      rw [program] at awaited follows
      simp only [Program.awaited, Option.some.injEq] at awaited
      exact awaited ▸ follows.1

/-- What a step does to the stages: a step without an operation only adds a process in the stage it
starts in, and an operation moves its own process on. -/
inductive Effect (discipline : Discipline system) (pool next : Pool Op Reply ε τ α World) : Prop
  | quiet : system.changes pool next.world → next.history = pool.history →
      (∀ pid, discipline.stage next pid = discipline.stage pool pid ∧
          next.tagOf pid = pool.tagOf pid ∨
        discipline.stage pool pid = none ∧ ∃ tag, next.tagOf pid = some tag ∧
          discipline.stage next pid = some (discipline.start tag)) →
      Effect discipline pool next
  | operation {pid : Nat} {choice : Choice} {stage : discipline.protocol.Stage} {op : Op}
      {completion : Completion (Reply op) ε World} : system.admits pool pid choice →
      discipline.stage pool pid = some stage → pool.awaits pid = some op →
      discipline.protocol.allowed stage op →
      discipline.protocol.replies op completion.reply →
      system.exec pool.world op choice = some completion → next.world = completion.world →
      next.history = pool.history ++ [⟨pid, op, completion.reply, completion.effective⟩] →
      (∀ other, discipline.stage next other = if other = pid then
        some (discipline.protocol.next stage op completion.reply)
      else discipline.stage pool other) →
      (∀ other, next.tagOf other = pool.tagOf other) →
      Effect discipline pool next

theorem Obeyed.spawn (obeyed : discipline.Obeyed pool) (tag : τ) (world : World) :
    discipline.Obeyed ((pool.inWorld world).spawn tag (system.program tag)) where
  follows := by
    intro pid process found
    rcases getElem?_concat_cases found with before | ⟨last, rfl⟩
    · exact obeyed.follows pid process before
    · have empty : pool.entriesOf pid = [] := obeyed.unrecorded (Nat.le_of_eq last.symm)
      have start : Pool.entriesOf ((pool.inWorld world).spawn tag (system.program tag)) pid = [] :=
        empty
      rw [start]
      exact discipline.conforms tag
  legal := by
    intro pid other tagged
    obtain ⟨process, found, rfl⟩ := Option.map_eq_some_iff.mp tagged
    rcases getElem?_concat_cases found with before | ⟨last, rfl⟩
    · exact obeyed.legal pid _ (congrArg (Option.map Process.tag) before)
    · have empty : Pool.entriesOf ((pool.inWorld world).spawn tag (system.program tag)) pid = [] :=
        obeyed.unrecorded (Nat.le_of_eq last.symm)
      rw [empty]
      trivial
  recorded := by
    intro entry member
    have below := obeyed.recorded entry member
    simp only [Pool.spawn, Pool.inWorld, List.length_append, List.length_singleton]
    omega

theorem Obeyed.resume (obeyed : discipline.Obeyed pool) {choice : Choice}
    (admitted : system.admits pool pid choice)
    (resumed : pool.resume system.exec pid choice = some next) :
    discipline.Obeyed next ∧ discipline.Effect pool next := by
  obtain ⟨tag, op, rest, completion, found, executed, rfl⟩ := Pool.resume_cases resumed
  have follows := obeyed.follows pid _ found
  have possible := discipline.replies _ _ _ _ executed
  have below := (List.getElem?_eq_some_iff.mp found).1
  have others : ∀ other, other ≠ pid → Pool.entriesOf
      { world := completion.world
        processes := pool.processes.set pid ⟨tag, rest completion.reply⟩
        history := pool.history ++ [⟨pid, op, completion.reply, completion.effective⟩] } other =
      pool.entriesOf other := by
    intro other different
    simp [Pool.entriesOf, Ne.symm different]
  have own : Pool.entriesOf
      { world := completion.world
        processes := pool.processes.set pid ⟨tag, rest completion.reply⟩
        history := pool.history ++ [⟨pid, op, completion.reply, completion.effective⟩] } pid =
      pool.entriesOf pid ++ [⟨pid, op, completion.reply, completion.effective⟩] := by
    simp [Pool.entriesOf]
  have tags : ∀ other, Pool.tagOf
      { world := completion.world
        processes := pool.processes.set pid ⟨tag, rest completion.reply⟩
        history := pool.history ++ [⟨pid, op, completion.reply, completion.effective⟩] } other =
      pool.tagOf other := by
    intro other
    rw [Pool.tagOf, Pool.tagOf, ← List.getElem?_map, ← List.getElem?_map]
    exact congrArg (fun tags => tags[other]?) (map_set_same Process.tag found rfl)
  refine ⟨⟨?_, ?_, ?_⟩, .operation admitted (by simp only [stage, found, Option.map_some])
    (by simp [Pool.awaits, found, Program.awaited]) follows.1 possible executed rfl rfl ?_ tags⟩
  · intro other process found'
    rcases getElem?_set_cases found' with ⟨rfl, rfl⟩ | ⟨different, before⟩
    · rw [own]
      simp only [Protocol.reached_append, Protocol.reached_cons, Protocol.reached_nil]
      exact follows.2 _ possible
    · rw [others other different]
      exact obeyed.follows other process before
  · intro other otherTag tagged
    rw [tags other] at tagged
    have legal := obeyed.legal other otherTag tagged
    by_cases same : other = pid
    · subst same
      simp only [Pool.tagOf, found, Option.map_some, Option.some.injEq] at tagged
      subst tagged
      rw [own]
      exact Protocol.legal_append.mpr ⟨legal, follows.1, possible, trivial⟩
    · rw [others other same]
      exact legal
  · intro entry member
    simp only [List.length_set]
    rcases List.mem_append.mp member with earlier | new
    · exact obeyed.recorded entry earlier
    · rw [List.mem_singleton.mp new]
      exact below
  · intro other
    by_cases same : other = pid
    · subst same
      rw [if_pos rfl, stage, own]
      simp [below]
    · rw [if_neg same, stage, others other same, stage]
      simp [Ne.symm same]

theorem Obeyed.step (obeyed : discipline.Obeyed pool) (steps : pool.Steps system next) :
    discipline.Obeyed next ∧ discipline.Effect pool next := by
  cases steps with
  | @spawn tag world changed =>
      refine ⟨obeyed.spawn tag world, .quiet changed rfl ?_⟩
      intro pid
      by_cases below : pid < pool.processes.length
      · left
        simp [stage, Pool.tagOf, Pool.spawn, Pool.inWorld, Pool.entriesOf,
          List.getElem?_append_left below]
      · have above : pool.processes.length ≤ pid := by omega
        have absent : discipline.stage pool pid = none := by
          simp [stage, List.getElem?_eq_none above]
        by_cases last : pid = pool.processes.length
        · right
          subst last
          have empty : pool.history.filter (fun entry => entry.pid = pool.processes.length) = [] :=
            obeyed.unrecorded above
          refine ⟨absent, tag, ?_, ?_⟩
          · simp [Pool.tagOf, Pool.spawn, Pool.inWorld]
          · simp [stage, Pool.spawn, Pool.inWorld, Pool.entriesOf, empty]
        · left
          have beyond : (pool.processes ++ [⟨tag, system.program tag⟩])[pid]? = none := by
            rw [List.getElem?_append_right above, List.getElem?_eq_none]
            rw [List.length_singleton]
            omega
          simp [stage, Pool.tagOf, Pool.spawn, Pool.inWorld, List.getElem?_eq_none above, beyond]
  | resume admitted resumed => exact obeyed.resume admitted resumed
  | @change world changed =>
      exact ⟨⟨obeyed.follows, obeyed.legal, obeyed.recorded⟩, .quiet changed rfl fun _ => Or.inl ⟨rfl, rfl⟩⟩

theorem invariant {State Event : Type} {step : State → Event → Option State}
    {permitted : State → Event → Prop} {start final : State}
    (discipline : Discipline system) (view : State → Pool Op Reply ε τ α World)
    (holds : Pool Op Reply ε τ α World → Prop) (reaches : Reaches step permitted start final)
    (obeyed : discipline.Obeyed (view start)) (initially : holds (view start))
    (moves : ∀ state event next, permitted state event → step state event = some next →
      (view state).Steps system (view next))
    (preserved : ∀ pool next, discipline.Obeyed pool → discipline.Obeyed next → holds pool →
      discipline.Effect pool next → holds next) :
    discipline.Obeyed (view final) ∧ holds (view final) := by
  refine reaches.invariant (fun state => discipline.Obeyed (view state) ∧ holds (view state))
    ⟨obeyed, initially⟩ ?_
  rintro state event next ⟨obeyed, holding⟩ allowed stepped
  obtain ⟨obeyed', effect⟩ := obeyed.step (moves state event next allowed stepped)
  exact ⟨obeyed', preserved _ _ obeyed obeyed' holding effect⟩

end Discipline

end Concurrency
