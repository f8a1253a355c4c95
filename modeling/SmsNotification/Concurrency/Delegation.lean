import SmsNotification.Concurrency.Balance

/-!
Operations that another component carries out. Each call of the component was made by a process that
awaits the operation until it has received the outcome, and by no other call of its own meanwhile.
-/

namespace Concurrency

section Links

variable {Op : Type} {awaits awaits' asks asks' : Nat → Option Op} {callers received : List Nat}
  {pid index : Nat}

def isCalling (callers received : List Nat) (pid : Nat) : Bool :=
  (List.range callers.length).any fun index =>
    callers[index]? = some pid && !received.contains index

theorem received_of_idle (idle : isCalling callers received pid = false)
    (called : callers[index]? = some pid) : index ∈ received := by
  by_contra unreceived
  have below := (List.getElem?_eq_some_iff.mp called).1
  have calling : isCalling callers received pid = true := by
    apply List.any_eq_true.mpr
    exact ⟨index, List.mem_range.mpr below, by simp [called, unreceived]⟩
  rw [idle] at calling
  cases calling

/-- `callers` are the processes behind the calls, in the order of the calls, and `asks` tells what
operation a call carries out. -/
structure Linked (awaits asks : Nat → Option Op) (callers received : List Nat) : Prop where
  waits : ∀ index pid, callers[index]? = some pid → index ∉ received →
    ∃ op, asks index = some op ∧ awaits pid = some op
  once : ∀ first second pid, callers[first]? = some pid → callers[second]? = some pid →
    first ∉ received → second ∉ received → first = second

theorem Linked.nil : Linked awaits asks [] [] := by
  constructor
  · intro index pid called
    simp at called
  · intro first second pid called
    simp at called

theorem Linked.mono (linked : Linked awaits asks callers received)
    (same : ∀ index op, asks index = some op → asks' index = some op)
    (waiting : ∀ index pid op, callers[index]? = some pid → index ∉ received →
      asks index = some op → awaits pid = some op → awaits' pid = some op) :
    Linked awaits' asks' callers received := by
  constructor
  · intro index pid called unreceived
    obtain ⟨op, asked, awaited⟩ := linked.waits index pid called unreceived
    exact ⟨op, same index op asked, waiting index pid op called unreceived asked awaited⟩
  · exact linked.once

theorem Linked.call (linked : Linked awaits asks callers received) {op : Op}
    (idle : isCalling callers received pid = false) (awaited : awaits pid = some op)
    (same : ∀ index op, asks index = some op → asks' index = some op)
    (asked : asks' callers.length = some op) :
    Linked awaits asks' (callers ++ [pid]) received := by
  constructor
  · intro index caller called unreceived
    rcases getElem?_concat_cases called with before | ⟨last, rfl⟩
    · obtain ⟨other, asks, awaits⟩ := linked.waits index caller before unreceived
      exact ⟨other, same index other asks, awaits⟩
    · rw [last]
      exact ⟨op, asked, awaited⟩
  · intro first second caller firstCall secondCall firstOpen secondOpen
    rcases getElem?_concat_cases firstCall with before | ⟨last, rfl⟩
    · rcases getElem?_concat_cases secondCall with before' | ⟨last', rfl⟩
      · exact linked.once first second caller before before' firstOpen secondOpen
      · exact absurd (received_of_idle idle before) firstOpen
    · rcases getElem?_concat_cases secondCall with before' | ⟨last', _⟩
      · exact absurd (received_of_idle idle before') secondOpen
      · rw [last, last']

theorem Linked.receive (linked : Linked awaits asks callers received)
    (called : callers[index]? = some pid) (unreceived : index ∉ received)
    (others : ∀ other, other ≠ pid → awaits' other = awaits other) :
    Linked awaits' asks callers (index :: received) := by
  constructor
  · intro other caller called' open'
    simp only [List.mem_cons, not_or] at open'
    obtain ⟨op, asked, awaited⟩ := linked.waits other caller called' open'.2
    have different : caller ≠ pid := by
      rintro rfl
      exact open'.1 (linked.once other index caller called' called open'.2 unreceived)
    exact ⟨op, asked, (others caller different).trans awaited⟩
  · intro first second caller firstCall secondCall firstOpen secondOpen
    simp only [List.mem_cons, not_or] at firstOpen secondOpen
    exact linked.once first second caller firstCall secondCall firstOpen.2 secondOpen.2

theorem Linked.calls_le {Process : Type} {processes : List Process} {awaited : Process → Option Op}
    (linked : Linked (fun pid => processes[pid]?.bind awaited) asks callers received)
    (counted : Op → Bool) :
    ∑ index ∈ Finset.range callers.length, (if (asks index).any counted then 1 else 0) ≤
      received.countP (fun index => (asks index).any counted) +
        processes.countP fun process => (awaited process).any counted := by
  let settled := (received.filter fun index => (asks index).any counted).toFinset
  let waiting := (Finset.range processes.length).filter fun pid =>
    processes[pid]?.any fun process => (awaited process).any counted
  let calls := (Finset.range callers.length).filter fun index => (asks index).any counted
  have settledCard : settled.card ≤ received.countP fun index => (asks index).any counted := by
    rw [List.countP_eq_length_filter]
    exact List.toFinset_card_le _
  have waitingCard : waiting.card =
      processes.countP fun process => (awaited process).any counted := by
    rw [countP_eq_sum_positions, ← Finset.card_filter]
  have unreceived : ∀ index ∈ calls \ settled, ∃ pid, callers[index]? = some pid ∧
      index ∉ received ∧ pid ∈ waiting := by
    intro index member
    simp only [calls, settled, Finset.mem_sdiff, Finset.mem_filter, Finset.mem_range,
      List.mem_toFinset, List.mem_filter, not_and] at member
    obtain ⟨⟨below, asked⟩, other⟩ := member
    have called := List.getElem?_eq_getElem below
    have fresh : index ∉ received := fun member => other member asked
    obtain ⟨op, asks', awaits⟩ := linked.waits index _ called fresh
    obtain ⟨process, found, awaits⟩ := Option.bind_eq_some_iff.mp awaits
    refine ⟨_, called, fresh, ?_⟩
    apply Finset.mem_filter.mpr
    rw [found, Option.any_some, awaits]
    rw [asks'] at asked
    exact ⟨Finset.mem_range.mpr (List.getElem?_eq_some_iff.mp found).1, asked⟩
  have openCard : (calls \ settled).card ≤ waiting.card := by
    apply Finset.card_le_card_of_injOn fun index => callers[index]?.getD 0
    · intro index member
      obtain ⟨pid, called, _, awaits⟩ := unreceived index member
      simp only [called, Option.getD_some]
      exact awaits
    · intro first firstMember second secondMember same
      obtain ⟨pid, called, fresh, _⟩ := unreceived first firstMember
      obtain ⟨pid', called', fresh', _⟩ := unreceived second secondMember
      simp only [called, called', Option.getD_some] at same
      subst same
      exact linked.once first second pid called called' fresh fresh'
  have split : calls.card ≤ (calls \ settled).card + settled.card :=
    Finset.card_le_card_sdiff_add_card
  rw [← Finset.card_filter]
  change calls.card ≤ _
  omega

end Links

namespace Pool

variable {Op : Type} {Reply : Op → Type} {ε τ α World Choice : Type}
  {system : System Op Reply ε τ α World Choice} {pool next : Pool Op Reply ε τ α World}
  {exec : World → (op : Op) → Choice → Option (Completion (Reply op) ε World)}

theorem Steps.undelegated {delegated : Op → Bool} (steps : pool.Steps system next)
    (idle : ∀ pid choice, system.admits pool pid choice →
      (pool.awaits pid).any delegated = false) :
    (∀ pid op, delegated op = true → pool.awaits pid = some op → next.awaits pid = some op) ∧
      (next.history = pool.history ∨ ∃ entry, delegated entry.op = false ∧
        next.history = pool.history ++ [entry]) := by
  cases steps with
  | spawn =>
      refine ⟨?_, Or.inl rfl⟩
      intro pid op _ awaits
      obtain ⟨process, found, awaited⟩ := Option.bind_eq_some_iff.mp awaits
      have below := (List.getElem?_eq_some_iff.mp found).1
      simp only [Pool.awaits, Pool.spawn, Pool.inWorld, List.getElem?_append_left below, found]
      exact awaited
  | change => exact ⟨fun _ _ _ awaits => awaits, Or.inl rfl⟩
  | @resume at' choice _ admitted resumed =>
      have idle := idle at' choice admitted
      obtain ⟨tag, op, rest, completion, found, executed, rfl⟩ := Pool.resume_cases resumed
      have own : pool.awaits at' = some op := by simp [Pool.awaits, found, Program.awaited]
      rw [own, Option.any_some] at idle
      refine ⟨?_, Or.inr ⟨_, idle, rfl⟩⟩
      intro pid other delegates awaits
      have different : at' ≠ pid := by
        rintro rfl
        rw [own, Option.some.injEq] at awaits
        subst awaits
        rw [idle] at delegates
        cases delegates
      simp only [Pool.awaits, List.getElem?_set_ne different]
      exact awaits

theorem resume_awaits {pid : Nat} {choice : Choice} {op : Op}
    (resumed : pool.resume exec pid choice = some next) (awaits : pool.awaits pid = some op) :
    (∀ other, other ≠ pid → next.awaits other = pool.awaits other) ∧
      ∃ completion, exec pool.world op choice = some completion ∧ next.world = completion.world ∧
        next.history = pool.history ++ [⟨pid, op, completion.reply, completion.effective⟩] := by
  obtain ⟨tag, own, rest, completion, found, executed, rfl⟩ := Pool.resume_cases resumed
  have awaiting : pool.awaits pid = some own := by simp [Pool.awaits, found, Program.awaited]
  obtain rfl := Option.some.inj (awaiting.symm.trans awaits)
  refine ⟨?_, completion, executed, rfl, rfl⟩
  intro other different
  simp only [Pool.awaits, List.getElem?_set_ne (Ne.symm different)]

theorem resume_keeps {pid : Nat} {choice : Choice}
    (resumed : pool.resume exec pid choice = some next) :
    next.processes.length = pool.processes.length ∧
      (∀ other, next.tagOf other = pool.tagOf other) ∧
      ∀ (other : Nat) (tag : τ) (result : Except ε α),
        pool.processes[other]? = some ⟨tag, .settled result⟩ →
        next.processes[other]? = some ⟨tag, .settled result⟩ := by
  obtain ⟨tag, op, rest, completion, found, executed, rfl⟩ := Pool.resume_cases resumed
  refine ⟨List.length_set, ?_, ?_⟩
  · intro other
    simp only [Pool.tagOf, ← List.getElem?_map]
    have same : (pool.processes.set pid ⟨tag, rest completion.reply⟩).map Process.tag =
        pool.processes.map Process.tag := map_set_same Process.tag found rfl
    rw [same]
  · intro other tag' result settled
    have different : pid ≠ other := by
      rintro rfl
      rw [found] at settled
      cases settled
    simp only [List.getElem?_set_ne different]
    exact settled

end Pool

end Concurrency
