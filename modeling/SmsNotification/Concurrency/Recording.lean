import SmsNotification.Concurrency.Discipline
import SmsNotification.Concurrency.Run

/-!
The protocol that allows everything and records it, for properties that relate how a program settles
to the replies it was given: an error to its grounds, a value to its source.
-/

namespace Concurrency

variable {Op : Type} {Reply : Op → Type} {ε τ α β γ World Choice : Type}

def Entry.exchange (entry : Entry Op Reply ε) : Exchange Op Reply ε :=
  ⟨entry.op, entry.reply⟩

theorem Exchange.reply_error {exchange : Exchange Op Reply ε} {op : Op} {error : ε}
    (same : exchange = ⟨op, .error error⟩) : exchange.reply = .error error := by
  subst same
  rfl

abbrev Protocol.recording (replies : (op : Op) → Except ε (Reply op) → Prop) :
    Protocol Op Reply ε where
  Stage := List (Exchange Op Reply ε)
  allowed _ _ := True
  replies := replies
  next records op reply := records ++ [⟨op, reply⟩]

theorem Protocol.recording_reached {replies : (op : Op) → Except ε (Reply op) → Prop}
    (records : List (Exchange Op Reply ε)) (entries : List (Entry Op Reply ε)) :
    (Protocol.recording replies).reached records entries =
      records ++ entries.map Entry.exchange := by
  induction entries generalizing records with
  | nil => simp
  | cons entry rest ih =>
      rw [Protocol.reached_cons, ih]
      simp [Entry.exchange]

namespace Program

variable {replies : (op : Op) → Except ε (Reply op) → Prop}
  {grounds inner : ε → List (Exchange Op Reply ε) → Prop} {records : List (Exchange Op Reply ε)}
  {program : Program Op Reply ε α}

/-- From `records` on, an error that the program settles with has its grounds in what was recorded. -/
def Explains (replies : (op : Op) → Except ε (Reply op) → Prop)
    (grounds : ε → List (Exchange Op Reply ε) → Prop) (program : Program Op Reply ε α)
    (records : List (Exchange Op Reply ε)) : Prop :=
  program.Follows (.recording replies) (fun final result =>
    records <+: final ∧ ∀ error, result = .error error → grounds error final) records

theorem explains_pure (value : α) :
    (pure value : Program Op Reply ε α).Explains replies grounds records := by
  refine ⟨List.prefix_rfl, ?_⟩
  intro error impossible
  cases impossible

theorem explains_throw {error : ε} (grounded : grounds error records) :
    (throw error : Program Op Reply ε α).Explains replies grounds records := by
  refine ⟨List.prefix_rfl, ?_⟩
  intro other same
  cases same
  exact grounded

theorem explains_perform {op : Op}
    (rejected : ∀ error, replies op (.error error) →
      grounds error (records ++ [⟨op, .error error⟩])) :
    (perform op : Program Op Reply ε (Reply op)).Explains replies grounds records := by
  refine ⟨trivial, ?_⟩
  intro reply possible
  refine ⟨List.prefix_append _ _, ?_⟩
  rintro error rfl
  exact rejected error possible

theorem Explains.mono {weaker : ε → List (Exchange Op Reply ε) → Prop}
    (explains : program.Explains replies grounds records)
    (implies : ∀ error final, records <+: final → grounds error final → weaker error final) :
    program.Explains replies weaker records := by
  apply Follows.mono explains
  rintro final result ⟨extends_, grounded⟩
  exact ⟨extends_, fun error same => implies error final extends_ (grounded error same)⟩

theorem Explains.later {start : List (Exchange Op Reply ε)} (extends_ : start <+: records)
    (explains : program.Explains replies grounds records) :
    program.Follows (.recording replies) (fun final result =>
      start <+: final ∧ ∀ error, result = .error error → grounds error final) records := by
  apply Follows.mono explains
  rintro final result ⟨further, grounded⟩
  exact ⟨extends_.trans further, grounded⟩

theorem Explains.bind {rest : α → Program Op Reply ε β}
    (first : program.Explains replies grounds records)
    (second : ∀ value final, records <+: final → (rest value).Explains replies grounds final) :
    (program >>= rest).Explains replies grounds records := by
  simp only [Explains, follows_bind]
  apply Follows.mono first
  rintro final (error | value) ⟨extends_, grounded⟩
  · exact ⟨extends_, fun _ same => by cases same; exact grounded error rfl⟩
  · exact (second value final extends_).later extends_

theorem Explains.assoc {middle : α → Program Op Reply ε β} {rest : β → Program Op Reply ε γ}
    (explains : (program >>= fun value => middle value >>= rest).Explains replies grounds records) :
    ((program >>= middle) >>= rest).Explains replies grounds records := by
  simp only [Explains, follows_bind] at explains ⊢
  apply Follows.mono explains
  rintro final (error | value) explained
  · exact explained
  · exact (follows_bind (middle value) rest).mp explained

theorem explains_perform_bind {op : Op} {rest : Reply op → Program Op Reply ε β}
    (rejected : ∀ error, replies op (.error error) →
      grounds error (records ++ [⟨op, .error error⟩]))
    (answered : ∀ answer, replies op (.ok answer) →
      (rest answer).Explains replies grounds (records ++ [⟨op, .ok answer⟩])) :
    (perform op >>= rest).Explains replies grounds records := by
  simp only [Explains, follows_bind]
  refine ⟨trivial, ?_⟩
  rintro (error | answer) possible
  · refine ⟨List.prefix_append _ _, ?_⟩
    intro other same
    cases same
    exact rejected error possible
  · exact (answered answer possible).later (List.prefix_append _ _)

theorem Explains.tryCatch {handler : ε → Program Op Reply ε α}
    (explains : program.Explains replies inner records)
    (handles : ∀ error final, records <+: final → inner error final →
      (handler error).Explains replies grounds final) :
    (tryCatch program handler).Explains replies grounds records := by
  simp only [Explains, follows_tryCatch]
  apply Follows.mono explains
  rintro final (error | value) ⟨extends_, grounded⟩
  · exact (handles error final extends_ (grounded error rfl)).later extends_
  · exact ⟨extends_, fun _ impossible => by cases impossible⟩

theorem Explains.finallyDo {cleanup : Program Op Reply ε Unit}
    (explains : program.Explains replies inner records)
    (grows : ∀ error middle final, records <+: middle → middle <+: final → inner error middle →
      grounds error final)
    (cleans : ∀ final, cleanup.Explains replies (fun _ _ => False) final) :
    (program.finallyDo cleanup).Explains replies grounds records := by
  simp only [Explains, follows_finallyDo]
  apply Follows.mono explains
  rintro middle result ⟨extends_, grounded⟩
  apply Follows.mono (cleans middle)
  rintro final (error | _) ⟨further, failing⟩
  · exact (failing error rfl).elim
  · refine ⟨extends_.trans further, ?_⟩
    rintro error rfl
    exact grows error middle final extends_ further (grounded error rfl)

section Sources

variable {source : α → List (Exchange Op Reply ε) → Prop}

/-- From `records` on, a value that the program settles with has its source in what was recorded. -/
def Derives (replies : (op : Op) → Except ε (Reply op) → Prop)
    (source : α → List (Exchange Op Reply ε) → Prop) (program : Program Op Reply ε α)
    (records : List (Exchange Op Reply ε)) : Prop :=
  program.Follows (.recording replies) (fun final result =>
    records <+: final ∧ ∀ value, result = .ok value → source value final) records

theorem derives_pure {value : α} (sourced : source value records) :
    (pure value : Program Op Reply ε α).Derives replies source records := by
  refine ⟨List.prefix_rfl, ?_⟩
  intro other same
  cases same
  exact sourced

theorem derives_throw (error : ε) :
    (throw error : Program Op Reply ε α).Derives replies source records := by
  refine ⟨List.prefix_rfl, ?_⟩
  intro value impossible
  cases impossible

theorem derives_perform {op : Op} {source : Reply op → List (Exchange Op Reply ε) → Prop}
    (answered : ∀ answer, source answer (records ++ [⟨op, .ok answer⟩])) :
    (perform op : Program Op Reply ε (Reply op)).Derives replies source records := by
  refine ⟨trivial, ?_⟩
  intro reply _
  refine ⟨List.prefix_append _ _, ?_⟩
  rintro answer rfl
  exact answered answer

theorem Derives.later {start : List (Exchange Op Reply ε)} (extends_ : start <+: records)
    (derives : program.Derives replies source records) :
    program.Follows (.recording replies) (fun final result =>
      start <+: final ∧ ∀ value, result = .ok value → source value final) records := by
  apply Follows.mono derives
  rintro final result ⟨further, sourced⟩
  exact ⟨extends_.trans further, sourced⟩

theorem derives_trivial (program : Program Op Reply ε α) :
    program.Derives replies (fun _ _ => True) records := by
  induction program generalizing records with
  | settled result => exact ⟨List.prefix_rfl, fun _ _ => trivial⟩
  | await op next ih =>
      refine ⟨trivial, ?_⟩
      intro reply _
      exact (ih reply).later (List.prefix_append _ _)

theorem Derives.bind {rest : α → Program Op Reply ε β}
    {conclusion : β → List (Exchange Op Reply ε) → Prop}
    (first : program.Derives replies source records)
    (second : ∀ value final, records <+: final → source value final →
      (rest value).Derives replies conclusion final) :
    (program >>= rest).Derives replies conclusion records := by
  simp only [Derives, follows_bind]
  apply Follows.mono first
  rintro final (error | value) ⟨extends_, sourced⟩
  · exact ⟨extends_, fun _ impossible => by cases impossible⟩
  · exact (second value final extends_ (sourced value rfl)).later extends_

theorem derives_perform_bind {op : Op} {rest : Reply op → Program Op Reply ε α}
    (answered : ∀ answer, (rest answer).Derives replies source (records ++ [⟨op, .ok answer⟩])) :
    (perform op >>= rest).Derives replies source records := by
  have performed : (perform op : Program Op Reply ε (Reply op)).Derives replies
      (fun answer final => final = records ++ [⟨op, .ok answer⟩]) records :=
    derives_perform fun _ => rfl
  apply performed.bind
  rintro answer final _ rfl
  exact answered answer

theorem Derives.tryCatch {handler : ε → Program Op Reply ε α}
    (derives : program.Derives replies source records)
    (handles : ∀ error final, records <+: final →
      (handler error).Derives replies source final) :
    (tryCatch program handler).Derives replies source records := by
  simp only [Derives, follows_tryCatch]
  apply Follows.mono derives
  rintro final (error | value) ⟨extends_, sourced⟩
  · exact (handles error final extends_).later extends_
  · exact ⟨extends_, sourced⟩

theorem Derives.finallyDo {cleanup : Program Op Reply ε Unit}
    (derives : program.Derives replies source records)
    (grows : ∀ value middle final, middle <+: final → source value middle → source value final) :
    (program.finallyDo cleanup).Derives replies source records := by
  simp only [Derives, follows_finallyDo]
  apply Follows.mono derives
  rintro middle result ⟨extends_, sourced⟩
  apply Follows.mono (derives_trivial cleanup)
  rintro final (error | _) ⟨further, _⟩
  · exact ⟨extends_.trans further, fun _ impossible => by cases impossible⟩
  · refine ⟨extends_.trans further, ?_⟩
    rintro value rfl
    exact grows value middle final further (sourced value rfl)

end Sources

end Program

namespace Discipline

variable {system : System Op Reply ε τ α World Choice}
  {replies : (op : Op) → Except ε (Reply op) → Prop}
  {grounds : τ → ε → List (Exchange Op Reply ε) → Prop} {pool : Pool Op Reply ε τ α World} {pid : Nat}

def ofGrounds (system : System Op Reply ε τ α World Choice)
    (explains : ∀ tag, (system.program tag).Explains replies (grounds tag) [])
    (possible : ∀ world op choice completion, system.exec world op choice = some completion →
      replies op completion.reply) : Discipline system where
  protocol := .recording replies
  start _ := []
  settles tag records result := ∀ error, result = .error error → grounds tag error records
  conforms tag := Program.Follows.mono (explains tag) fun _ _ explained => explained.2
  replies := possible

theorem grounds_recorded
    {explains : ∀ tag, (system.program tag).Explains replies (grounds tag) []}
    {possible : ∀ world op choice completion, system.exec world op choice = some completion →
      replies op completion.reply}
    (obeyed : (ofGrounds system explains possible).Obeyed pool)
    {process : Process Op Reply ε τ α} {error : ε} (found : pool.processes[pid]? = some process)
    (settled : process.program.result = some (.error error)) :
    grounds process.tag error ((pool.entriesOf pid).map Entry.exchange) := by
  obtain ⟨stage, reached, grounded⟩ := obeyed.result found settled
  simp only [Discipline.stage, found, Option.map_some, Option.some.injEq] at reached
  subst reached
  have records := @Protocol.recording_reached _ _ _ replies [] (pool.entriesOf pid)
  rw [List.nil_append] at records
  rw [← records]
  exact grounded error rfl

def ofSources {source : τ → α → List (Exchange Op Reply ε) → Prop}
    (system : System Op Reply ε τ α World Choice)
    (derives : ∀ tag, (system.program tag).Derives replies (source tag) [])
    (possible : ∀ world op choice completion, system.exec world op choice = some completion →
      replies op completion.reply) : Discipline system where
  protocol := .recording replies
  start _ := []
  settles tag records result := ∀ value, result = .ok value → source tag value records
  conforms tag := Program.Follows.mono (derives tag) fun _ _ derived => derived.2
  replies := possible

theorem source_recorded {source : τ → α → List (Exchange Op Reply ε) → Prop}
    {derives : ∀ tag, (system.program tag).Derives replies (source tag) []}
    {possible : ∀ world op choice completion, system.exec world op choice = some completion →
      replies op completion.reply}
    (obeyed : (ofSources system derives possible).Obeyed pool)
    {process : Process Op Reply ε τ α} {value : α} (found : pool.processes[pid]? = some process)
    (settled : process.program.result = some (.ok value)) :
    source process.tag value ((pool.entriesOf pid).map Entry.exchange) := by
  obtain ⟨stage, reached, sourced⟩ := obeyed.result found settled
  simp only [Discipline.stage, found, Option.map_some, Option.some.injEq] at reached
  subst reached
  have records := @Protocol.recording_reached _ _ _ replies [] (pool.entriesOf pid)
  rw [List.nil_append] at records
  rw [← records]
  exact sourced value rfl

end Discipline

end Concurrency
