import SmsNotification.Concurrency.Interleaving

/-!
Two programs side by side. They are coupled when they await the same operations as long as the
replies are related, and then two runs of them in related worlds do the same, whatever happens in
between that keeps the worlds related.
-/

namespace Concurrency

/-- Which operations may be awaited, and which replies to one of them look the same. -/
structure Coupling (Op : Type) (Reply : Op → Type) (ε : Type) where
  allowed : Op → Prop
  related : (op : Op) → Except ε (Reply op) → Except ε (Reply op) → Prop

namespace Program

variable {Op : Type} {Reply : Op → Type} {ε α β γ δ World Choice : Type}

/-- Both programs await the same allowed operations, and settle in results that `post` relates. -/
def Coupled (coupling : Coupling Op Reply ε) (post : Except ε α → Except ε β → Prop) :
    Program Op Reply ε α → Program Op Reply ε β → Prop
  | .settled result, second => ∃ other, second = .settled other ∧ post result other
  | .await op next, second => coupling.allowed op ∧ ∃ rest, second = .await op rest ∧
      ∀ reply other, coupling.related op reply other →
        (next reply).Coupled coupling post (rest other)

variable {coupling : Coupling Op Reply ε} {post : Except ε α → Except ε β → Prop}

theorem coupled_settled {first : Except ε α} {second : Except ε β} (related : post first second) :
    (settled first : Program Op Reply ε α).Coupled coupling post (.settled second) :=
  ⟨second, rfl, related⟩

theorem coupled_await {op : Op} {next : Except ε (Reply op) → Program Op Reply ε α}
    {rest : Except ε (Reply op) → Program Op Reply ε β} (allowed : coupling.allowed op)
    (follow : ∀ reply other, coupling.related op reply other →
      (next reply).Coupled coupling post (rest other)) :
    (await op next).Coupled coupling post (.await op rest) :=
  ⟨allowed, rest, rfl, follow⟩

theorem Coupled.mono {first : Program Op Reply ε α} {second : Program Op Reply ε β}
    {weaker : Except ε α → Except ε β → Prop} (coupled : first.Coupled coupling post second)
    (implies : ∀ result other, post result other → weaker result other) :
    first.Coupled coupling weaker second := by
  induction first generalizing second with
  | settled result =>
      obtain ⟨other, rfl, related⟩ := coupled
      exact coupled_settled (implies result other related)
  | await op next ih =>
      obtain ⟨allowed, rest, rfl, follow⟩ := coupled
      exact coupled_await allowed fun reply other related => ih reply (follow reply other related)

def Both (coupling : Coupling Op Reply ε) (post : Except ε γ → Except ε δ → Prop)
    (first : α → Program Op Reply ε γ) (second : β → Program Op Reply ε δ) :
    Except ε α → Except ε β → Prop
  | .ok value, .ok other => (first value).Coupled coupling post (second other)
  | .error error, .error other => post (.error error) (.error other)
  | _, _ => False

theorem Coupled.bind {post : Except ε γ → Except ε δ → Prop} {first : Program Op Reply ε α}
    {second : Program Op Reply ε β} {firstRest : α → Program Op Reply ε γ}
    {secondRest : β → Program Op Reply ε δ}
    (coupled : first.Coupled coupling (Both coupling post firstRest secondRest) second) :
    (first >>= firstRest).Coupled coupling post (second >>= secondRest) := by
  change (first.bind firstRest).Coupled coupling post (second.bind secondRest)
  induction first generalizing second with
  | settled result =>
      obtain ⟨other, rfl, related⟩ := coupled
      cases result <;> cases other
      case ok.ok => exact related
      case error.error => exact coupled_settled related
      all_goals exact related.elim
  | await op next ih =>
      obtain ⟨allowed, rest, rfl, follow⟩ := coupled
      exact coupled_await allowed fun reply other related => ih reply (follow reply other related)

def Either (coupling : Coupling Op Reply ε) (post : Except ε α → Except ε β → Prop)
    (first : ε → Program Op Reply ε α) (second : ε → Program Op Reply ε β) :
    Except ε α → Except ε β → Prop
  | .ok value, .ok other => post (.ok value) (.ok other)
  | .error error, .error other => (first error).Coupled coupling post (second other)
  | _, _ => False

theorem Coupled.tryCatch {first : Program Op Reply ε α} {second : Program Op Reply ε β}
    {firstHandler : ε → Program Op Reply ε α} {secondHandler : ε → Program Op Reply ε β}
    (coupled : first.Coupled coupling (Either coupling post firstHandler secondHandler) second) :
    (tryCatch first firstHandler).Coupled coupling post (tryCatch second secondHandler) := by
  change (first.handle firstHandler).Coupled coupling post (second.handle secondHandler)
  induction first generalizing second with
  | settled result =>
      obtain ⟨other, rfl, related⟩ := coupled
      cases result <;> cases other
      case ok.ok => exact coupled_settled related
      case error.error => exact related
      all_goals exact related.elim
  | await op next ih =>
      obtain ⟨allowed, rest, rfl, follow⟩ := coupled
      exact coupled_await allowed fun reply other related => ih reply (follow reply other related)

theorem Coupled.seq {first second : Program Op Reply ε α}
    {firstRest secondRest : α → Program Op Reply ε β}
    (coupled : first.Coupled coupling Eq second)
    (follow : ∀ value, (firstRest value).Coupled coupling Eq (secondRest value)) :
    (first >>= firstRest).Coupled coupling Eq (second >>= secondRest) := by
  refine (coupled.mono ?_).bind
  rintro result _ rfl
  cases result with
  | ok value => exact follow value
  | error error => rfl

theorem Coupled.guarded {first second : Program Op Reply ε α}
    {firstHandler secondHandler : ε → Program Op Reply ε α}
    (coupled : first.Coupled coupling Eq second)
    (follow : ∀ error, (firstHandler error).Coupled coupling Eq (secondHandler error)) :
    (MonadExceptOf.tryCatch first firstHandler).Coupled coupling Eq
      (MonadExceptOf.tryCatch second secondHandler) := by
  refine (coupled.mono ?_).tryCatch
  rintro result _ rfl
  cases result with
  | ok value => rfl
  | error error => exact follow error

end Program

variable {Op : Type} {Reply : Op → Type} {ε α β World Choice : Type}
  {exec : World → (op : Op) → Choice → Option (Completion (Reply op) ε World)}

/-- An allowed operation, executed with the same choice in two worlds that look the same, gives
replies and worlds that look the same. -/
def Coupling.Sound (coupling : Coupling Op Reply ε)
    (exec : World → (op : Op) → Choice → Option (Completion (Reply op) ε World))
    (alike : World → World → Prop) : Prop :=
  ∀ (first second : World) (op : Op) (choice : Choice) (left right : Completion (Reply op) ε World),
    coupling.allowed op → alike first second → exec first op choice = some left →
    exec second op choice = some right →
    coupling.related op left.reply right.reply ∧ alike left.world right.world

/-- Two lists of steps, taken from two worlds, with the same choices; what happens before each step
keeps worlds alike that were. -/
def Parallel (alike : World → World → Prop) :
    World → World → List (OwnStep exec) → List (OwnStep exec) → Prop
  | first, second, step :: rest, other :: others =>
      (alike first second → alike step.before other.before) ∧ step.choice = other.choice ∧
        Parallel alike step.completion.world other.completion.world rest others
  | _, _, _, _ => True

theorem Uninterrupted.parallel {alike : World → World → Prop} {first second : World}
    {steps others : List (OwnStep exec)} (alone : Uninterrupted first steps)
    (alone' : Uninterrupted second others)
    (choices : ∀ (position : Nat) (step other : OwnStep exec), steps[position]? = some step →
      others[position]? = some other → step.choice = other.choice) :
    Parallel alike first second steps others := by
  induction steps generalizing first second others with
  | nil => exact trivial
  | cons step steps ih =>
      cases others with
      | nil => exact trivial
      | cons other others =>
          obtain ⟨rfl, alone⟩ := alone
          obtain ⟨rfl, alone'⟩ := alone'
          have first := choices 0 step other rfl rfl
          have later := ih alone alone' fun position _ _ found found' =>
            choices (position + 1) _ _ found found'
          exact ⟨id, first, later⟩

def OwnStep.final (world : World) (steps : List (OwnStep exec)) : World :=
  (steps.getLast?.map fun step => step.completion.world).getD world

theorem OwnStep.final_cons (world : World) (step : OwnStep exec) (steps : List (OwnStep exec)) :
    OwnStep.final world (step :: steps) = OwnStep.final step.completion.world steps := by
  cases steps with
  | nil => rfl
  | cons second rest => simp [OwnStep.final, List.getLast?_eq_some_getLast]

theorem Program.Coupled.settles {coupling : Coupling Op Reply ε} {alike : World → World → Prop}
    {post : Except ε α → Except ε β → Prop} {first : Program Op Reply ε α}
    {second : Program Op Reply ε β} {left right : World} {steps others : List (OwnStep exec)}
    {result : Except ε α} {other : Except ε β} (sound : coupling.Sound exec alike)
    (coupled : first.Coupled coupling post second) (settles : first.Settles exec steps result)
    (settles' : second.Settles exec others other) (start : alike left right)
    (parallel : Parallel alike left right steps others) :
    post result other ∧ steps.map OwnStep.op = others.map OwnStep.op ∧
      alike (OwnStep.final left steps) (OwnStep.final right others) := by
  induction settles generalizing second others left right with
  | settled result =>
      obtain ⟨same, rfl, related⟩ := coupled
      cases settles'
      exact ⟨related, rfl, start⟩
  | await step _ ih =>
      obtain ⟨allowed, rest, rfl, follow⟩ := coupled
      obtain ⟨before, choice, completion, executed, later, rfl, following⟩ :=
        settles'.first
      obtain ⟨met, same, parallel⟩ := parallel
      simp only at same
      rw [← same] at executed
      obtain ⟨related, stays⟩ := sound _ _ _ _ _ _ allowed (met start) step.executed executed
      obtain ⟨results, operations, worlds⟩ := ih (follow _ _ related) following stays parallel
      refine ⟨results, ?_, ?_⟩
      · simp [operations]
      · rw [OwnStep.final_cons, OwnStep.final_cons]
        exact worlds

end Concurrency
