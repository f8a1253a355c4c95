import SmsNotification.Concurrency.Pool

/-!
Programs that await operations of one kind a bounded number of times, whatever the replies are, and
what that says of the history of a pool.
-/

namespace Concurrency

namespace Program

variable {Op : Type} {Reply : Op → Type} {ε α β : Type} (counted : Op → Bool)

/-- On every path the program awaits at most `budget` of the counted operations. -/
def AtMost : Program Op Reply ε α → (budget : Nat) → Prop
  | .settled _, _ => True
  | .await op next, budget =>
      if counted op then 0 < budget ∧ ∀ reply, (next reply).AtMost (budget - 1)
      else ∀ reply, (next reply).AtMost budget

variable {counted} {program : Program Op Reply ε α} {budget more : Nat}

@[simp] theorem atMost_settled (result : Except ε α) :
    (settled result : Program Op Reply ε α).AtMost counted budget :=
  trivial

@[simp] theorem atMost_pure (value : α) :
    (pure value : Program Op Reply ε α).AtMost counted budget :=
  trivial

@[simp] theorem atMost_throw (error : ε) :
    (throw error : Program Op Reply ε α).AtMost counted budget :=
  trivial

theorem atMost_perform {op : Op} (within : counted op = true → 0 < budget) :
    (perform op : Program Op Reply ε (Reply op)).AtMost counted budget := by
  unfold perform AtMost
  by_cases count : counted op = true
  · rw [if_pos count]
    exact ⟨within count, fun _ => trivial⟩
  · rw [if_neg count]
    exact fun _ => trivial

theorem AtMost.mono (within : program.AtMost counted budget) (le : budget ≤ more) :
    program.AtMost counted more := by
  induction program generalizing budget more with
  | settled result => trivial
  | await op next ih =>
      unfold AtMost at within ⊢
      by_cases count : counted op = true
      · rw [if_pos count] at within ⊢
        obtain ⟨positive, rest⟩ := within
        exact ⟨by omega, fun reply => ih reply (rest reply) (by omega)⟩
      · rw [if_neg count] at within ⊢
        exact fun reply => ih reply (within reply) le

/-- What follows the replies to one operation may be longer by `more` operations. -/
theorem AtMost.extend {op : Op} {next : Except ε (Reply op) → Program Op Reply ε α}
    {next' : Except ε (Reply op) → Program Op Reply ε β}
    (first : (await op next).AtMost counted budget)
    (longer : ∀ left reply, (next reply).AtMost counted left →
      (next' reply).AtMost counted (left + more)) :
    (await op next').AtMost counted (budget + more) := by
  unfold AtMost at first ⊢
  by_cases count : counted op = true
  · rw [if_pos count] at first ⊢
    obtain ⟨positive, later⟩ := first
    refine ⟨by omega, fun reply => ?_⟩
    have less : budget + more - 1 = budget - 1 + more := by omega
    rw [less]
    exact longer _ reply (later reply)
  · rw [if_neg count] at first ⊢
    exact fun reply => longer _ reply (first reply)

theorem AtMost.bind {rest : α → Program Op Reply ε β} (first : program.AtMost counted budget)
    (second : ∀ value, (rest value).AtMost counted more) :
    (program >>= rest).AtMost counted (budget + more) := by
  change (program.bind rest).AtMost counted (budget + more)
  induction program generalizing budget with
  | settled result =>
      cases result with
      | ok value => exact (second value).mono (by omega)
      | error error => trivial
  | await op next ih =>
      exact first.extend fun _ reply within => ih reply within

theorem AtMost.bind_idle {rest : α → Program Op Reply ε β} (first : program.AtMost counted budget)
    (second : ∀ value, (rest value).AtMost counted 0) :
    (program >>= rest).AtMost counted budget :=
  first.bind second

theorem AtMost.idle_bind {rest : α → Program Op Reply ε β} (first : program.AtMost counted 0)
    (second : ∀ value, (rest value).AtMost counted more) :
    (program >>= rest).AtMost counted more := by
  have within := first.bind second
  rwa [Nat.zero_add] at within

theorem AtMost.tryCatch {handler : ε → Program Op Reply ε α}
    (first : program.AtMost counted budget) (second : ∀ error, (handler error).AtMost counted more) :
    (tryCatch program handler).AtMost counted (budget + more) := by
  change (program.handle handler).AtMost counted (budget + more)
  induction program generalizing budget with
  | settled result =>
      cases result with
      | ok value => trivial
      | error error => exact (second error).mono (by omega)
  | await op next ih =>
      exact first.extend fun _ reply within => ih reply within

theorem AtMost.tryCatch_idle {handler : ε → Program Op Reply ε α}
    (first : program.AtMost counted budget) (second : ∀ error, (handler error).AtMost counted 0) :
    (MonadExceptOf.tryCatch program handler).AtMost counted budget :=
  first.tryCatch second

theorem AtMost.finallyDo {cleanup : Program Op Reply ε Unit}
    (first : program.AtMost counted budget) (second : cleanup.AtMost counted more) :
    (program.finallyDo cleanup).AtMost counted (budget + more) := by
  induction program generalizing budget with
  | settled result =>
      have settles : (cleanup >>= fun _ => settled result).AtMost counted more :=
        second.bind_idle fun _ => atMost_settled result
      exact settles.mono (by omega)
  | await op next ih =>
      exact first.extend fun _ reply within => ih reply within

theorem AtMost.finallyDo_idle {cleanup : Program Op Reply ε Unit}
    (first : program.AtMost counted budget) (second : cleanup.AtMost counted 0) :
    (program.finallyDo cleanup).AtMost counted budget :=
  first.finallyDo second

theorem AtMost.part {fewer : Op → Bool} (idle : program.AtMost counted 0)
    (part : ∀ op, fewer op = true → counted op = true) : program.AtMost fewer 0 := by
  induction program with
  | settled result => trivial
  | await op next ih =>
      unfold AtMost at idle ⊢
      by_cases count : counted op = true
      · rw [if_pos count] at idle
        exact absurd idle.1 (Nat.lt_irrefl 0)
      · rw [if_neg count] at idle
        rw [if_neg fun counted => count (part op counted)]
        exact fun reply => ih reply (idle reply)

end Program

namespace Pool

variable {Op : Type} {Reply : Op → Type} {ε τ α World Choice : Type} {counted : Op → Bool} {tag : τ}
  {bound : Nat} {pool next : Pool Op Reply ε τ α World}
  {exec : World → (op : Op) → Choice → Option (Completion (Reply op) ε World)} {pid : Nat}
  {choice : Choice}

def tally (counted : Op → Bool) (pool : Pool Op Reply ε τ α World) (pid : Nat) : Nat :=
  pool.history.countP fun entry => entry.pid == pid && counted entry.op

/-- The processes of `tag` keep within `bound`: what they have executed and what they may still
await. -/
structure Within (counted : Op → Bool) (tag : τ) (bound : Nat) (pool : Pool Op Reply ε τ α World) :
    Prop where
  recorded : ∀ entry ∈ pool.history, entry.pid < pool.processes.length
  budget : ∀ (pid : Nat) (program : Program Op Reply ε α),
    pool.processes[pid]? = some ⟨tag, program⟩ →
      ∃ budget, program.AtMost counted budget ∧ pool.tally counted pid + budget ≤ bound

theorem Within.resume (within : Within counted tag bound pool)
    (resumed : pool.resume exec pid choice = some next) : Within counted tag bound next := by
  obtain ⟨other, op, rest, completion, found, executed, rfl⟩ := resume_cases resumed
  have below := (List.getElem?_eq_some_iff.mp found).1
  constructor
  · intro entry member
    rw [List.length_set]
    rcases List.mem_append.mp member with earlier | new
    · exact within.recorded entry earlier
    · simp only [List.mem_singleton] at new
      rw [new]
      exact below
  · intro position program found'
    simp only [tally, List.countP_append, List.countP_singleton]
    rcases getElem?_set_cases found' with ⟨rfl, same⟩ | ⟨different, kept⟩
    · cases same
      obtain ⟨budget, awaits, counts⟩ := within.budget _ _ found
      unfold Program.AtMost at awaits
      by_cases count : counted op = true
      · rw [if_pos count] at awaits
        refine ⟨budget - 1, awaits.2 _, ?_⟩
        have positive := awaits.1
        simp only [tally] at counts
        simp only [beq_self_eq_true, count, Bool.and_self, if_true]
        omega
      · rw [if_neg count] at awaits
        refine ⟨budget, awaits _, ?_⟩
        simpa [count, tally] using counts
    · obtain ⟨budget, awaits, counts⟩ := within.budget _ _ kept
      have other : (pid == position) = false := by simpa using fun same : pid = position => different same.symm
      refine ⟨budget, awaits, ?_⟩
      simpa [other, tally] using counts

theorem Within.spawn (within : Within counted tag bound pool) {other : τ}
    {program : Program Op Reply ε α} (keeps : other = tag → program.AtMost counted bound) :
    Within counted tag bound (pool.spawn other program) := by
  constructor
  · intro entry member
    have below := within.recorded entry member
    simp only [Pool.spawn, List.length_append, List.length_singleton]
    omega
  · intro position program' found
    rcases getElem?_concat_cases found with before | ⟨last, same⟩
    · exact within.budget position program' before
    · cases same
      refine ⟨bound, keeps rfl, ?_⟩
      have none : pool.tally counted position = 0 := by
        refine List.countP_eq_zero.mpr ?_
        intro entry member
        have below := within.recorded entry member
        have other : entry.pid ≠ position := by omega
        simp [other]
      have same : (pool.spawn tag program).tally counted position = pool.tally counted position := rfl
      rw [same, none]
      omega

/-- A process with a bound on its operations comes to its end on its own, whatever state the others
are in, when each operation has a choice that executes it. -/
theorem settles_alone (enabled : Choice → Prop)
    (possible : ∀ world op, ∃ choice completion, enabled choice ∧
      exec world op choice = some completion)
    {program : Program Op Reply ε α} {budget : Nat} (within : program.AtMost (fun _ => true) budget)
    (found : pool.processes[pid]? = some ⟨tag, program⟩) :
    ∃ final result, Reaches (fun state (choice : Choice) => resume exec state pid choice)
        (fun _ choice => enabled choice) pool final ∧
      final.processes[pid]? = some ⟨tag, .settled result⟩ := by
  induction program generalizing pool budget with
  | settled result => exact ⟨pool, result, .refl, found⟩
  | await op next ih =>
      unfold Program.AtMost at within
      rw [if_pos rfl] at within
      obtain ⟨choice, completion, chosen, executed⟩ := possible pool.world op
      have below := (List.getElem?_eq_some_iff.mp found).1
      obtain ⟨after, resumed, found⟩ : ∃ after, pool.resume exec pid choice = some after ∧
          after.processes[pid]? = some ⟨tag, next completion.reply⟩ := by
        simp only [resume, found, executed, Option.map_some, Option.some.injEq, exists_eq_left']
        exact List.getElem?_set_self below
      obtain ⟨final, result, reaches, settled⟩ := ih completion.reply (within.2 _) found
      exact ⟨final, result, (Reaches.step .refl chosen resumed).trans reaches, settled⟩

end Pool

end Concurrency
