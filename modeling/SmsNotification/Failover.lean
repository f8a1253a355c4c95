import Mathlib.Data.List.Count
import Mathlib.Data.List.Flatten

/-!
Retries with failover, as a policy on replies alone: a call is repeated at its provider while it may
be, and then the next provider follows.
-/

namespace Failover

inductive Verdict
  | accepted
  | retryable
  | refused
  deriving DecidableEq

section Policy

variable {Provider Reply : Type} (verdict : Reply → Verdict) (limit : Nat)

/-- The replies of one provider from attempt `attempt` on, and whether the last one accepted. -/
inductive Attempts : (attempt : Nat) → List Reply → (accepted : Bool) → Prop
  | accepted {attempt : Nat} {reply : Reply} : verdict reply = .accepted →
      Attempts attempt [reply] true
  | refused {attempt : Nat} {reply : Reply} : verdict reply = .refused →
      Attempts attempt [reply] false
  | exhausted {attempt : Nat} {reply : Reply} : verdict reply = .retryable → limit ≤ attempt →
      Attempts attempt [reply] false
  | retried {attempt : Nat} {reply : Reply} {replies : List Reply} {accepted : Bool} :
      verdict reply = .retryable → attempt < limit → Attempts (attempt + 1) replies accepted →
      Attempts attempt (reply :: replies) accepted

/-- The calls of one dispatch, in order, and whether the last one was accepted. -/
inductive Calls : List Provider → List (Provider × Reply) → (accepted : Bool) → Prop
  | exhausted : Calls [] [] false
  | accepted {provider : Provider} {providers : List Provider} {replies : List Reply} :
      Attempts verdict limit 1 replies true →
      Calls (provider :: providers) (replies.map (provider, ·)) true
  | next {provider : Provider} {providers : List Provider} {replies : List Reply}
      {calls : List (Provider × Reply)} {accepted : Bool} :
      Attempts verdict limit 1 replies false → Calls providers calls accepted →
      Calls (provider :: providers) (replies.map (provider, ·) ++ calls) accepted

end Policy

section Facts

variable {Provider Reply : Type} {verdict : Reply → Verdict} {limit attempt : Nat}
  {replies : List Reply} {providers : List Provider} {calls : List (Provider × Reply)}
  {accepted : Bool}

theorem Attempts.length_le (attempts : Attempts verdict limit attempt replies accepted)
    (within : attempt ≤ limit) : replies.length + attempt ≤ limit + 1 := by
  induction attempts with
  | accepted _ => simp; omega
  | refused _ => simp; omega
  | exhausted _ _ => simp; omega
  | retried _ below _ ih =>
      have rest := ih (by omega)
      simp only [List.length_cons]
      omega

theorem Attempts.last (attempts : Attempts verdict limit attempt replies accepted) :
    ∃ before reply, replies = before ++ [reply] ∧ (∀ other ∈ before, verdict other = .retryable) ∧
      (verdict reply = .accepted ↔ accepted = true) := by
  induction attempts with
  | @accepted _ reply accepts => exact ⟨[], reply, rfl, by simp, by simp [accepts]⟩
  | @refused _ reply refuses => exact ⟨[], reply, rfl, by simp, by simp [refuses]⟩
  | @exhausted _ reply retryable _ => exact ⟨[], reply, rfl, by simp, by simp [retryable]⟩
  | @retried _ first _ _ retryable _ _ ih =>
      obtain ⟨before, reply, rfl, earlier, last⟩ := ih
      exact ⟨first :: before, reply, rfl, by simpa [retryable] using earlier, last⟩

theorem Calls.length_le (dispatched : Calls verdict limit providers calls accepted)
    (positive : 1 ≤ limit) : calls.length ≤ providers.length * limit := by
  induction dispatched with
  | exhausted => simp
  | accepted attempts =>
      have here := attempts.length_le positive
      rw [List.length_map, List.length_cons, Nat.succ_mul]
      omega
  | next attempts _ ih =>
      have here := attempts.length_le positive
      rw [List.length_append, List.length_map, List.length_cons, Nat.succ_mul]
      omega

theorem Attempts.length_eq (attempts : Attempts verdict limit attempt replies accepted)
    (within : attempt ≤ limit) (retryable : ∀ reply ∈ replies, verdict reply = .retryable) :
    replies.length + attempt = limit + 1 := by
  induction attempts with
  | @accepted _ reply accepts => simp [retryable reply List.mem_cons_self] at accepts
  | @refused _ reply refuses => simp [retryable reply List.mem_cons_self] at refuses
  | exhausted _ last =>
      rw [List.length_singleton]
      omega
  | retried _ below _ ih =>
      have rest := ih (by omega) fun reply member => retryable reply (List.mem_cons_of_mem _ member)
      rw [List.length_cons]
      omega

theorem Calls.accepts (dispatched : Calls verdict limit providers calls accepted)
    (left : providers ≠ []) (accepts : ∀ call ∈ calls, verdict call.2 = .accepted) :
    accepted = true := by
  cases dispatched with
  | exhausted => exact absurd rfl left
  | accepted _ => rfl
  | @next provider _ replies _ _ attempts _ =>
      obtain ⟨before, reply, rfl, _, last⟩ := attempts.last
      have member : (provider, reply) ∈ (before ++ [reply]).map (provider, ·) := by simp
      have accepted := last.mp (accepts _ (List.mem_append_left _ member))
      cases accepted

theorem Calls.countP_eq (dispatched : Calls verdict limit providers calls accepted)
    (positive : 1 ≤ limit) (retryable : ∀ call ∈ calls, verdict call.2 = .retryable)
    (selected : Provider → Bool) :
    calls.countP (fun call => selected call.1) = providers.countP selected * limit := by
  induction dispatched with
  | exhausted => simp
  | @accepted provider providers replies attempts =>
      obtain ⟨before, reply, rfl, _, last⟩ := attempts.last
      have again := retryable (provider, reply) (by simp)
      simp [last.mpr rfl] at again
  | @next provider providers replies calls accepted attempts _ ih =>
      have here := attempts.length_eq positive fun reply member =>
        retryable (provider, reply) (by simp [member])
      have rest := ih fun call member => retryable call (List.mem_append_right _ member)
      have same : (fun call : Provider × Reply => selected call.1) ∘ (fun reply => (provider, reply)) =
          fun _ => selected provider := rfl
      rw [List.countP_append, rest, List.countP_map, same, List.countP_cons]
      by_cases chosen : selected provider = true
      · simp only [chosen, List.countP_true, if_true, Nat.add_mul, Nat.one_mul]
        omega
      · simp [chosen]

end Facts

end Failover
