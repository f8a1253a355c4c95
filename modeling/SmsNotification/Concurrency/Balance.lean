import Mathlib.Algebra.BigOperators.Group.Finset.Piecewise
import Mathlib.Data.Finset.Dedup
import SmsNotification.Concurrency.Discipline

/-!
Obligations of processes. Where one kind of operation puts its process under an obligation and another
kind meets it, the history of all processes balances with those that have yet to meet theirs.
-/

namespace Concurrency

variable {Op : Type} {Reply : Op → Type} {ε τ α World Choice : Type}

theorem countP_eq_sum_positions {β : Type} (xs : List β) (p : β → Bool) :
    xs.countP p = ∑ i ∈ Finset.range xs.length, if xs[i]?.any p then 1 else 0 := by
  induction xs using List.reverseRecOn with
  | nil => rfl
  | append_singleton xs last ih =>
      rw [List.countP_append, ih, List.length_append, List.length_singleton,
        Finset.sum_range_succ]
      congr 1
      · refine Finset.sum_congr rfl fun i below => ?_
        rw [List.getElem?_append_left (Finset.mem_range.mp below)]
      · simp

theorem countP_eq_sum_fibers {β : Type} (xs : List β) (f : β → Nat) (p : β → Bool) {count : Nat}
    (below : ∀ x ∈ xs, f x < count) :
    xs.countP p = ∑ i ∈ Finset.range count, (xs.filter fun x => f x = i).countP p := by
  induction xs with
  | nil => simp
  | cons first rest ih =>
      have inside : f first ∈ Finset.range count :=
        Finset.mem_range.mpr (below first List.mem_cons_self)
      have split : ∀ i, ((first :: rest).filter fun x => f x = i).countP p =
          (rest.filter fun x => f x = i).countP p +
            if f first = i then (if p first then 1 else 0) else 0 := by
        intro i
        by_cases same : f first = i
        · simp [same, List.countP_cons]
        · simp [same]
      rw [List.countP_cons, ih fun x member => below x (List.mem_cons_of_mem _ member),
        Finset.sum_congr rfl fun i _ => split i, Finset.sum_add_distrib, Finset.sum_ite_eq,
        if_pos inside]

theorem countP_positions_le {β : Type} (xs : List β) (p : β → Bool) {positions : List Nat}
    (distinct : positions.Nodup) :
    positions.countP (fun i => xs[i]?.any p) ≤ xs.countP p := by
  have inside : (positions.filter fun i => xs[i]?.any p).toFinset ⊆
      (Finset.range xs.length).filter fun i => xs[i]?.any p := by
    intro i member
    simp only [List.mem_toFinset, List.mem_filter] at member
    have below : i < xs.length := by
      by_contra above
      simp [List.getElem?_eq_none (Nat.le_of_not_lt above)] at member
    exact Finset.mem_filter.mpr ⟨Finset.mem_range.mpr below, member.2⟩
  have fewer := Finset.card_le_card inside
  rw [List.toFinset_card_of_nodup (distinct.filter _), ← List.countP_eq_length_filter,
    Finset.card_filter] at fewer
  rw [countP_eq_sum_positions xs p]
  exact fewer

namespace Discipline

variable {system : System Op Reply ε τ α World Choice} {discipline : Discipline system}
  {pool : Pool Op Reply ε τ α World}

theorem Obeyed.balance (obeyed : discipline.Obeyed pool) (debit credit : Entry Op Reply ε → Bool)
    (owes : discipline.protocol.Stage → Bool) (meets : Op → Bool)
    (start : ∀ tag, owes (discipline.start tag) = false)
    (books : ∀ stage entry, discipline.protocol.allowed stage entry.op →
      (if owes stage then 1 else 0) + (if debit entry then 1 else 0) =
        (if credit entry then 1 else 0) +
          if owes (discipline.protocol.next stage entry.op entry.reply) then 1 else 0)
    (owed : ∀ stage op, discipline.protocol.allowed stage op → meets op = owes stage)
    (settled : ∀ tag stage result, discipline.settles tag stage result → owes stage = false) :
    pool.history.countP debit = pool.history.countP credit +
      pool.processes.countP fun process => process.program.awaited.any meets := by
  have each : ∀ pid ∈ Finset.range pool.processes.length,
      (pool.entriesOf pid).countP debit = (pool.entriesOf pid).countP credit +
        if pool.processes[pid]?.any fun process => process.program.awaited.any meets
          then 1 else 0 := by
    intro pid below
    obtain ⟨process, found⟩ : ∃ process, pool.processes[pid]? = some process :=
      ⟨_, List.getElem?_eq_getElem (Finset.mem_range.mp below)⟩
    have legal := obeyed.legal pid process.tag (by rw [Pool.tagOf, found]; rfl)
    have balanced := legal.relates
      (fun stage entries => entries.countP debit = entries.countP credit +
        if owes stage then 1 else 0)
      (by simp [start]) (by
        intro stage entries entry balanced allowed _
        have booked := books stage entry allowed
        simp only [List.countP_append, List.countP_singleton]
        omega)
    have follows := obeyed.follows pid process found
    rw [balanced, found, Option.any_some]
    congr 1
    cases program : process.program with
    | settled result =>
        rw [program] at follows
        simp [Program.awaited, settled _ _ _ follows]
    | await op rest =>
        rw [program] at follows
        rw [Program.awaited, Option.any_some, owed _ op follows.1]
  rw [countP_eq_sum_fibers pool.history Entry.pid debit obeyed.recorded,
    countP_eq_sum_fibers pool.history Entry.pid credit obeyed.recorded, countP_eq_sum_positions,
    ← Finset.sum_add_distrib]
  exact Finset.sum_congr rfl each

end Discipline

section Obligations

variable {Due : Type}

abbrev Protocol.ofObligations (meets : Op → Option Due)
    (commits : (op : Op) → Except ε (Reply op) → Option Due)
    (replies : (op : Op) → Except ε (Reply op) → Prop) : Protocol Op Reply ε where
  Stage := Option Due
  allowed due op := meets op = due
  replies := replies
  next _ op reply := commits op reply

variable {meets : Op → Option Due} {commits : (op : Op) → Except ε (Reply op) → Option Due}
  {replies : (op : Op) → Except ε (Reply op) → Prop}

theorem Program.AtMost.owesNothing {counted : Op → Bool} {program : Program Op Reply ε α}
    (idle : program.AtMost counted 0) (free : ∀ op, counted op = false → meets op = none)
    (quiet : ∀ op reply, counted op = false → commits op reply = none) :
    program.Follows (Protocol.ofObligations meets commits replies) (fun due _ => due = none)
      none := by
  apply idle.follows (Protocol.ofObligations meets commits replies) (fun due => due = none) rfl
  · rintro due op rfl other
    exact free op other
  · intro due op reply _ other
    exact quiet op reply other

variable {system : System Op Reply ε τ α World Choice}

variable (meets commits replies system) in
def Discipline.ofObligations
    (conforms : ∀ tag, (system.program tag).Follows (Protocol.ofObligations meets commits replies)
      (fun due _ => due = none) none)
    (possible : ∀ world op choice completion, system.exec world op choice = some completion →
      replies op completion.reply) : Discipline system where
  protocol := Protocol.ofObligations meets commits replies
  start _ := none
  settles _ due _ := due = none
  conforms := conforms
  replies := possible

theorem Discipline.obligations_balance [DecidableEq Due] {conforms possible}
    {pool : Pool Op Reply ε τ α World} (obeyed : (Discipline.ofObligations meets commits
      replies system conforms possible).Obeyed pool) (due : Due) :
    pool.history.countP (fun entry => commits entry.op entry.reply = some due) =
      pool.history.countP (fun entry => meets entry.op = some due) +
        pool.processes.countP fun process =>
          process.program.awaited.any fun op => meets op = some due := by
  apply obeyed.balance _ _ (fun owed : Option Due => owed = some due)
  · intro tag
    rfl
  · rintro owed entry rfl
    rfl
  · rintro owed op rfl
    rfl
  · rintro tag owed result rfl
    rfl

end Obligations

end Concurrency
