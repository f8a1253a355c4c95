import SmsNotification.BirdClaims

/-!
Whose claim the key of a webhook id is. A claim runs out after its time to live even while its
delivery goes on, so the delivery may find a later claim in its place when it releases.
-/

namespace SmsNotification

open Concurrency Service

namespace Stage

variable {caseMapping : Js.CaseMapping} {stage stage' : Stage} {op : Op} {webhookId : String}

def isOver : Stage → Bool
  | processed _ => true
  | duplicate _ => true
  | finished => true
  | _ => false

theorem over_next {reply : Except Failure op.Reply}
    (transition : Transition caseMapping stage op reply stage') (ended : stage.isOver = true) :
    stage' = stage := by
  cases transition with
  | quiet | unlocked | stored => rfl
  | failed allowed handles | failedClaim allowed handles =>
      rcases handles with ⟨callback, rfl⟩ | ⟨callback, id, rfl⟩ | ⟨id, rfl⟩ <;>
        simp [isOver] at ended
  | _ => simp [isOver] at ended

def Took (webhookId : String) (stage : Stage) : Prop :=
  stage.holds webhookId = true ∨ stage = .finished

theorem took_next {reply : Except Failure op.Reply}
    (transition : Transition caseMapping stage op reply stage') (took : stage.Took webhookId) :
    stage'.Took webhookId := by
  rcases took with holds | rfl
  · cases op with
    | claimBirdWebhook other =>
        obtain ⟨⟨event, rfl⟩, _⟩ := claim_cases transition
        simp [Stage.holds] at holds
    | releaseBirdWebhook other => exact Or.inr (release_cases transition).2
    | _ => exact Or.inl ((holds_next transition rfl).trans holds)
  · exact Or.inr (over_next transition rfl)

end Stage

namespace World

variable {world : World} {op : Op} {choice : Choice} {outcome : World.Outcome op}

theorem exec_idle (executed : world.exec op choice = some outcome)
    (idle : choice.isExecuted = false) : outcome.world = world := by
  rcases exec_cases executed with ⟨same, _⟩ | ⟨_, _, _, _, _, ⟨ran, _⟩ | ⟨ran, _⟩⟩
  · exact same
  all_goals cases choice <;> simp [Choice.isExecuted, Choice.isAnswered, Choice.isLost] at idle ran

def claimsAfter (claims : String → Bool) : Op → String → Bool
  | .claimBirdWebhook webhookId => Function.update claims webhookId true
  | .releaseBirdWebhook webhookId => Function.update claims webhookId false
  | _ => claims

theorem exec_claimsAfter (executed : world.exec op choice = some outcome)
    (ran : choice.isExecuted = true) : outcome.world.claims = claimsAfter world.claims op := by
  rcases exec_cases executed with ⟨_, _, idle, _⟩ | ⟨hint, inner, performed, same, _⟩
  · simp [ran] at idle
  · rw [same]
    cases op with
    | claimBirdWebhook webhookId =>
        simp only [perform] at performed
        split at performed
        · rename_i held
          simp only [Option.some.injEq] at performed
          rw [← performed, claimsAfter, ← held, Function.update_eq_self]
        · simp only [Option.some.injEq] at performed
          rw [← performed, claimsAfter]
    | _ =>
        simp only [perform] at performed
        grind [addJob_claims, claimsAfter]

theorem exec_claim_free {webhookId : String} {outcome : World.Outcome (.claimBirdWebhook webhookId)}
    (executed : world.exec (.claimBirdWebhook webhookId) choice = some outcome)
    (free : world.claims webhookId = false) : outcome.reply ≠ .ok false := by
  intro refused
  obtain ⟨hint, inner, performed, reply, _⟩ := exec_ok executed refused
  simp only [perform, free, Bool.false_eq_true, if_false, Option.some.injEq] at performed
  rw [← performed] at reply
  simp at reply

end World

/-- A webhook id, with `WEBHOOK_IDEMPOTENCY_TTL_SECONDS`. -/
structure ClaimKey where
  webhookId : String
  ttlSeconds : Nat
  ttlSeconds_pos : 1 ≤ ttlSeconds

structure Grant where
  pid : Nat
  takenAt : Nat
  deriving DecidableEq, Repr

def ClaimKey.expiry (key : ClaimKey) (grant : Grant) : Nat :=
  grant.takenAt + 1000 * key.ttlSeconds

/-- The service under a clock. `claim` is the claim that the key holds, `grants` are all that were
taken; `removals` pairs a delivery with the claim its release removed, `completions` a process with
the time at which it succeeded. -/
structure ClaimTimeline where
  service : Service
  now : Nat
  claim : Option Grant
  grants : List Grant
  removals : List (Nat × Grant)
  completions : List (Nat × Nat)

inductive Tick
  | advance (milliseconds : Nat)
  | service (event : Event)

namespace ClaimTimeline

def initial : ClaimTimeline where
  service := Service.initial
  now := 0
  claim := none
  grants := []
  removals := []
  completions := []

def advance (key : ClaimKey) (timeline : ClaimTimeline) (milliseconds : Nat) : ClaimTimeline :=
  let now := timeline.now + milliseconds
  if timeline.claim.any fun grant => key.expiry grant ≤ now then
    { timeline with
      now := now
      claim := none
      service := { timeline.service with world := { timeline.service.world with
        claims := Function.update timeline.service.world.claims key.webhookId false } } }
  else { timeline with now := now }

/-- What an executed operation does to the claim: `SET … NX` takes it when the key is free, `DEL`
removes it whoever took it. -/
def recordClaim (key : ClaimKey) (timeline : ClaimTimeline) (pid : Nat) : Op → ClaimTimeline
  | .claimBirdWebhook webhookId =>
      if webhookId = key.webhookId ∧ timeline.service.world.claims webhookId = false then
        { timeline with
          claim := some ⟨pid, timeline.now⟩
          grants := timeline.grants ++ [⟨pid, timeline.now⟩] }
      else timeline
  | .releaseBirdWebhook webhookId =>
      if webhookId = key.webhookId then
        { timeline with
          claim := none
          removals := timeline.removals ++ (timeline.claim.map fun grant => (pid, grant)).toList }
      else timeline
  | _ => timeline

def recordCompletion (timeline : ClaimTimeline) (pid : Nat) : ClaimTimeline :=
  if timeline.service.succeeded pid then
    { timeline with completions := timeline.completions ++ [(pid, timeline.now)] }
  else timeline

def recordExecuted (key : ClaimKey) (timeline : ClaimTimeline) (pid : Nat) :
    Option Op → ClaimTimeline
  | some op => timeline.recordClaim key pid op
  | none => timeline

def record (key : ClaimKey) (timeline : ClaimTimeline) (following : Service) :
    Event → ClaimTimeline
  | .resume pid choice =>
      { timeline.recordExecuted key pid (timeline.service.executes (.resume pid choice)) with
        service := following }.recordCompletion pid
  | _ => { timeline with service := following }

def isExpiry (key : ClaimKey) : Event → Bool
  | .expireClaim webhookId => webhookId = key.webhookId
  | _ => false

def step (config : Config) (key : ClaimKey) (timeline : ClaimTimeline) :
    Tick → Option ClaimTimeline
  | .advance milliseconds => some (timeline.advance key milliseconds)
  | .service event =>
      if isExpiry key event then none
      else (Service.step config timeline.service event).map fun following =>
        timeline.record key following event

/-- No release removed the claim of another delivery. -/
def OwnReleases (timeline : ClaimTimeline) : Prop :=
  ∀ removal ∈ timeline.removals, removal.2.pid = removal.1

/-- When a claim was taken before an earlier one was due, the delivery with the earlier one did not
succeed in its time. -/
def ProcessedOnce (key : ClaimKey) (timeline : ClaimTimeline) : Prop :=
  timeline.grants.Pairwise fun earlier later => later.takenAt < key.expiry earlier →
    ∀ completion ∈ timeline.completions, completion.1 = earlier.pid →
      key.expiry earlier ≤ completion.2

/-- A delivery executes its release while a claim of its own is not due yet, or finds no claim. -/
def releasesInTime (key : ClaimKey) (timeline : ClaimTimeline) : Tick → Bool
  | .service (.resume pid choice) =>
      match timeline.service.executes (.resume pid choice) with
      | some (.releaseBirdWebhook webhookId) =>
          webhookId ≠ key.webhookId || timeline.claim.isNone || timeline.grants.any fun grant =>
            grant.pid = pid && timeline.now < key.expiry grant
      | _ => true
  | _ => true

variable {config : Config} {key : ClaimKey} {timeline : ClaimTimeline} {stages stages' : List Stage}
  {following : Service} {event : Event}

/-- Each claim that is not due is still in place, or its delivery has dropped it; a claim was taken
before another was due only after that one was dropped. -/
structure Owned (key : ClaimKey) (timeline : ClaimTimeline) (stages : List Stage) : Prop where
  granted : ∀ grant ∈ timeline.grants,
    (∃ event, timeline.service.call grant.pid = some (.bird key.webhookId event)) ∧
      ∃ stage, stages[grant.pid]? = some stage ∧ stage.Took key.webhookId
  current : ∀ grant ∈ timeline.grants, timeline.now < key.expiry grant →
    timeline.claim = some grant ∨ stages[grant.pid]? = some .finished
  superseded : timeline.grants.Pairwise fun earlier later =>
    later.takenAt < key.expiry earlier → stages[earlier.pid]? = some .finished
  own : timeline.OwnReleases
  completed : ∀ completion ∈ timeline.completions, completion.1 < stages.length ∧
    ∀ event, timeline.service.call completion.1 = some (.bird key.webhookId event) →
      stages[completion.1]? = some (.processed (some key.webhookId)) ∨
        stages[completion.1]? = some (.duplicate key.webhookId)

def Synced (key : ClaimKey) (timeline : ClaimTimeline) : Prop :=
  timeline.service.world.claims key.webhookId = timeline.claim.isSome

theorem initial_owned : Owned key initial [] where
  granted grant member := by simp [initial] at member
  current grant member := by simp [initial] at member
  superseded := List.Pairwise.nil
  own removal member := by simp [initial] at member
  completed completion member := by simp [initial] at member

theorem Owned.advance (owned : Owned key timeline stages) (milliseconds : Nat) :
    Owned key (timeline.advance key milliseconds) stages := by
  unfold ClaimTimeline.advance
  dsimp only
  split
  · rename_i due
    refine { owned with current := ?_ }
    intro grant member early
    simp only at early
    rcases owned.current grant member (by omega) with held | dropped
    · simp only [held, Option.any_some, decide_eq_true_eq] at due
      omega
    · exact Or.inr dropped
  · refine { owned with current := ?_ }
    intro grant member early
    simp only at early
    exact owned.current grant member (by omega)

theorem Synced.advance (synced : Synced key timeline) (milliseconds : Nat) :
    Synced key (timeline.advance key milliseconds) := by
  unfold ClaimTimeline.advance Synced
  dsimp only
  split
  · simp
  · exact synced

theorem moves_stage (webhookId : String)
    (moves : Moves config timeline.service stages event following stages') {pid : Nat}
    {stage : Stage} (found : stages[pid]? = some stage) :
    ∃ stage', stages'[pid]? = some stage' ∧
      (stage.Took webhookId → stage'.Took webhookId) ∧
      (stage.isOver = true → stage' = stage) := by
  have below := (List.getElem?_eq_some_iff.mp found).1
  rcases moves.history with ⟨_, requests, rfl⟩ |
    ⟨other, choice, before, op, outcome, after, rfl, found', _, transition, _, _, _, rfl⟩
  · exact ⟨stage, by rw [List.getElem?_append_left below, found], id, fun _ => rfl⟩
  · by_cases same : other = pid
    · subst same
      rw [found, Option.some.injEq] at found'
      subst found'
      exact ⟨after, by rw [List.getElem?_set_self below], Stage.took_next transition,
        Stage.over_next transition⟩
    · exact ⟨stage, by rw [List.getElem?_set_ne same, found], id, fun _ => rfl⟩

theorem moves_over (moves : Moves config timeline.service stages event following stages')
    {pid : Nat} {stage : Stage} (found : stages[pid]? = some stage) (ended : stage.isOver = true) :
    stages'[pid]? = some stage := by
  obtain ⟨stage', found', _, same⟩ := moves_stage "" moves found
  rw [found', same ended]

theorem Owned.moves (owned : Owned key timeline stages)
    (staged : Staged config stages timeline.service)
    (moves : Moves config timeline.service stages event following stages') :
    Owned key { timeline with service := following } stages' where
  granted := by
    intro grant member
    obtain ⟨⟨received, called⟩, stage, found, took⟩ := owned.granted grant member
    obtain ⟨stage', found', keeps, _⟩ := moves_stage key.webhookId moves found
    refine ⟨⟨received, ?_⟩, stage', found', keeps took⟩
    rw [← called]
    exact moves.keeps_call (call_below called)
  current := by
    intro grant member early
    rcases owned.current grant member early with held | dropped
    · exact Or.inl held
    · exact Or.inr (moves_over moves dropped rfl)
  superseded := owned.superseded.imp fun dropped early => moves_over moves (dropped early) rfl
  own := owned.own
  completed := by
    intro completion member
    obtain ⟨below, ended⟩ := owned.completed completion member
    obtain ⟨stage', found', _⟩ := moves_stage key.webhookId moves (List.getElem?_eq_getElem below)
    refine ⟨(List.getElem?_eq_some_iff.mp found').1, ?_⟩
    intro received called
    rw [moves.keeps_call (staged.length ▸ below)] at called
    rcases ended received called with processed | duplicate
    · exact Or.inl (moves_over moves processed rfl)
    · exact Or.inr (moves_over moves duplicate rfl)

theorem Owned.take (owned : Owned key timeline stages) (free : timeline.claim = none) {pid : Nat}
    {received : BirdDeliveryEvent} {stage : Stage}
    (called : timeline.service.call pid = some (.bird key.webhookId received))
    (found : stages[pid]? = some stage) (took : stage.Took key.webhookId) :
    Owned key { timeline with
      claim := some ⟨pid, timeline.now⟩
      grants := timeline.grants ++ [⟨pid, timeline.now⟩] } stages where
  granted := by
    intro grant member
    rcases List.mem_append.mp member with earlier | new
    · exact owned.granted grant earlier
    · rw [List.mem_singleton.mp new]
      exact ⟨⟨received, called⟩, stage, found, took⟩
  current := by
    intro grant member early
    rcases List.mem_append.mp member with earlier | new
    · rcases owned.current grant earlier early with held | dropped
      · rw [free] at held
        simp at held
      · exact Or.inr dropped
    · rw [List.mem_singleton.mp new]
      exact Or.inl rfl
  superseded := by
    refine List.pairwise_append.mpr ⟨owned.superseded, List.pairwise_singleton _ _, ?_⟩
    intro earlier member later new early
    rw [List.mem_singleton.mp new] at early
    rcases owned.current earlier member early with held | dropped
    · rw [free] at held
      simp at held
    · exact dropped
  own := owned.own
  completed := owned.completed

theorem Owned.release (owned : Owned key timeline stages) {pid : Nat}
    (mine : ∀ grant, timeline.claim = some grant → grant.pid = pid)
    (dropped : stages[pid]? = some .finished) :
    Owned key { timeline with
      claim := none
      removals := timeline.removals ++ (timeline.claim.map fun grant => (pid, grant)).toList }
      stages where
  granted := owned.granted
  current := by
    intro grant member early
    rcases owned.current grant member early with held | gone
    · rw [mine grant held]
      exact Or.inr dropped
    · exact Or.inr gone
  superseded := owned.superseded
  own := by
    intro removal member
    rcases List.mem_append.mp member with earlier | new
    · exact owned.own removal earlier
    · obtain ⟨grant, held, rfl⟩ := Option.map_eq_some_iff.mp (Option.mem_toList.mp new)
      exact mine grant held
  completed := owned.completed

theorem Owned.recordCompletion (owned : Owned key timeline stages)
    (staged : Staged config stages timeline.service) (pid : Nat) :
    Owned key (timeline.recordCompletion pid) stages := by
  unfold ClaimTimeline.recordCompletion
  split
  · rename_i succeeded
    refine { owned with completed := ?_ }
    intro completion member
    rcases List.mem_append.mp member with earlier | new
    · exact owned.completed completion earlier
    · rw [List.mem_singleton.mp new]
      obtain ⟨answer, settled⟩ := succeeded_result succeeded
      obtain ⟨request, stage, called, found, settles⟩ := staged.result settled
      refine ⟨(List.getElem?_eq_some_iff.mp found).1, ?_⟩
      intro received called'
      rw [called, Option.some.injEq] at called'
      subst called'
      rcases settles with rfl | rfl
      · exact Or.inl found
      · exact Or.inr found
  · exact owned

theorem claim_takes {service : Service} (staged : Staged config stages service) {pid : Nat}
    {webhookId : String} {choice : Choice} {stage stage' : Stage}
    {outcome : World.Outcome (.claimBirdWebhook webhookId)} (found : stages[pid]? = some stage)
    (transition : stage.Transition config.caseMapping (.claimBirdWebhook webhookId) outcome.reply
      stage')
    (executed : service.world.exec (.claimBirdWebhook webhookId) choice = some outcome)
    (free : service.world.claims webhookId = false) :
    ∃ event, service.call pid = some (.bird webhookId event) ∧ stage'.Took webhookId := by
  obtain ⟨⟨event, rfl⟩, reply⟩ := Stage.claim_cases transition
  obtain ⟨request, called, serves⟩ := staged.call found
  refine ⟨event, called.trans (congrArg some serves), ?_⟩
  rcases reply with ⟨_, ⟨callback, rfl⟩ | rfl⟩ | ⟨refused, _⟩ | ⟨_, rfl⟩
  · exact Or.inl (by simp [Stage.holds])
  · exact Or.inl (by simp [Stage.holds])
  · exact absurd refused (World.exec_claim_free executed free)
  · exact Or.inr rfl

theorem Owned.holder (owned : Owned key timeline stages) {pid : Nat} {choice : Choice}
    (inTime : releasesInTime key timeline (.service (.resume pid choice)) = true)
    (executes : timeline.service.executes (.resume pid choice) =
      some (.releaseBirdWebhook key.webhookId))
    (found : stages[pid]? = some (.failing key.webhookId)) {grant : Grant}
    (held : timeline.claim = some grant) : grant.pid = pid := by
  simp only [releasesInTime, executes, ne_eq, not_true_eq_false, decide_false, Bool.false_or, held,
    Option.isNone_some, List.any_eq_true, Bool.and_eq_true, decide_eq_true_eq] at inTime
  obtain ⟨own, member, rfl, early⟩ := inTime
  rcases owned.current own member early with current | gone
  · rw [held, Option.some.injEq] at current
    rw [current]
  · rw [found, Option.some.injEq] at gone
    simp at gone

theorem Owned.recordClaim (owned : Owned key timeline stages) (synced : Synced key timeline)
    (staged : Staged config stages timeline.service) {pid : Nat} {choice : Choice} {op : Op}
    {stage stage' : Stage} {outcome : World.Outcome op}
    (moves : Moves config timeline.service stages (.resume pid choice) following
      (stages.set pid stage'))
    (inTime : releasesInTime key timeline (.service (.resume pid choice)) = true)
    (executes : timeline.service.executes (.resume pid choice) = some op)
    (found : stages[pid]? = some stage)
    (transition : stage.Transition config.caseMapping op outcome.reply stage')
    (executed : timeline.service.world.exec op choice = some outcome)
    (ran : choice.isExecuted = true) (world : following.world = outcome.world) :
    Owned key { timeline.recordClaim key pid op with service := following } (stages.set pid stage') ∧
      Synced key { timeline.recordClaim key pid op with service := following } := by
  have moved := owned.moves staged moves
  have below := (List.getElem?_eq_some_iff.mp found).1
  have claims : following.world.claims = World.claimsAfter timeline.service.world.claims op := by
    rw [world]
    exact World.exec_claimsAfter executed ran
  have elsewhere : World.claimsAfter timeline.service.world.claims op key.webhookId =
      timeline.service.world.claims key.webhookId →
      Owned key { timeline with service := following } (stages.set pid stage') ∧
        Synced key { timeline with service := following } := by
    intro same
    refine ⟨moved, ?_⟩
    unfold Synced at synced ⊢
    rw [claims, same, synced]
  cases op with
  | claimBirdWebhook webhookId =>
      simp only [ClaimTimeline.recordClaim]
      split
      · rename_i taken
        obtain ⟨rfl, free⟩ := taken
        unfold Synced at synced
        have none : timeline.claim = none := by
          rw [free] at synced
          simpa using synced.symm
        obtain ⟨event, called, took⟩ := claim_takes staged found transition executed free
        have delivery : following.call pid = some (.bird key.webhookId event) := by
          rw [moves.keeps_call (call_below called), called]
        refine ⟨moved.take none delivery (List.getElem?_set_self below) took, ?_⟩
        simp [Synced, claims, World.claimsAfter]
      · rename_i kept
        refine elsewhere ?_
        by_cases same : webhookId = key.webhookId
        · subst same
          have held : timeline.service.world.claims key.webhookId = true := by simpa using kept
          simp [World.claimsAfter, held]
        · exact Function.update_of_ne (Ne.symm same) _ _
  | releaseBirdWebhook webhookId =>
      simp only [ClaimTimeline.recordClaim]
      split
      · rename_i same
        subst same
        obtain ⟨rfl, rfl⟩ := Stage.release_cases transition
        have dropped : (stages.set pid .finished)[pid]? = some .finished :=
          List.getElem?_set_self below
        refine ⟨moved.release (fun _ => owned.holder inTime executes found) dropped, ?_⟩
        simp [Synced, claims, World.claimsAfter]
      · rename_i other
        exact elsewhere (Function.update_of_ne (Ne.symm other) _ _)
  | _ => exact elsewhere rfl

@[simp] theorem recordCompletion_service (timeline : ClaimTimeline) (pid : Nat) :
    (timeline.recordCompletion pid).service = timeline.service := by
  unfold ClaimTimeline.recordCompletion
  split <;> rfl

theorem Synced.recordCompletion (synced : Synced key timeline) (pid : Nat) :
    Synced key (timeline.recordCompletion pid) := by
  unfold ClaimTimeline.recordCompletion
  split <;> exact synced

@[simp] theorem record_service (event : Event) :
    (timeline.record key following event).service = following := by
  cases event with
  | resume pid choice => exact recordCompletion_service _ pid
  | _ => rfl

theorem Owned.record (owned : Owned key timeline stages) (synced : Synced key timeline)
    (staged : Staged config stages timeline.service)
    (staged' : Staged config stages' following)
    (moves : Moves config timeline.service stages event following stages')
    (inTime : releasesInTime key timeline (.service event) = true)
    (clocked : isExpiry key event = false) :
    Owned key (timeline.record key following event) stages' ∧
      Synced key (timeline.record key following event) := by
  have moved := owned.moves staged moves
  have same := moves
  cases same with
  | @resume pid choice stage stage' op outcome _ found awaits allowed transition executed world =>
      obtain ⟨recorded, stays⟩ :
          Owned key { timeline.recordExecuted key pid
              (timeline.service.executes (.resume pid choice)) with service := following }
            (stages.set pid stage') ∧
          Synced key { timeline.recordExecuted key pid
              (timeline.service.executes (.resume pid choice)) with service := following } := by
        by_cases ran : choice.isExecuted = true
        · have executes : timeline.service.executes (.resume pid choice) = some op := by
            simp [Service.executes, ran, awaits]
          rw [executes]
          exact owned.recordClaim synced staged moves inTime executes found transition executed ran
            world
        · have idle : choice.isExecuted = false := by simpa using ran
          have nothing : timeline.service.executes (.resume pid choice) = none := by
            simp [Service.executes, idle]
          rw [nothing]
          refine ⟨moved, ?_⟩
          have unchanged := World.exec_idle executed idle
          unfold Synced at synced
          change following.world.claims key.webhookId = timeline.claim.isSome
          rw [world, unchanged, synced]
      exact ⟨recorded.recordCompletion staged' pid, stays.recordCompletion pid⟩
  | expireClaim webhookId =>
      refine ⟨moved, ?_⟩
      have other : webhookId ≠ key.webhookId := by simpa [isExpiry] using clocked
      unfold Synced at synced ⊢
      simp [ClaimTimeline.record, Function.update_of_ne (Ne.symm other), synced]
  | _ => exact ⟨moved, synced⟩

theorem step_owned {next : ClaimTimeline} {tick : Tick} (owned : Owned key timeline stages)
    (synced : Synced key timeline) (staged : Staged config stages timeline.service)
    (inTime : releasesInTime key timeline tick = true)
    (stepped : timeline.step config key tick = some next) :
    ∃ stages', Staged config stages' next.service ∧ Owned key next stages' ∧ Synced key next := by
  cases tick with
  | advance milliseconds =>
      simp only [step, Option.some.injEq] at stepped
      subst stepped
      refine ⟨stages, ?_, owned.advance milliseconds, synced.advance milliseconds⟩
      unfold ClaimTimeline.advance
      dsimp only
      split
      · exact staged.of_world _
      · exact staged
  | service event =>
      simp only [step] at stepped
      split at stepped
      · simp at stepped
      · rename_i clocked
        obtain ⟨following, moved, rfl⟩ := Option.map_eq_some_iff.mp stepped
        obtain ⟨stages', moves, staged'⟩ := step_moves staged moved
        have recorded := owned.record synced staged staged' moves inTime (by simpa using clocked)
        exact ⟨stages', by rw [record_service]; exact staged', recorded⟩

theorem Owned.processedOnce (owned : Owned key timeline stages) : timeline.ProcessedOnce key := by
  refine owned.superseded.imp_of_mem ?_
  intro earlier later member _ dropped early completion completed same
  obtain ⟨⟨received, called⟩, _⟩ := owned.granted earlier member
  have ended := (owned.completed completion completed).2 received (same ▸ called)
  rw [same, dropped early] at ended
  simp at ended

/-- Only its own claim is released, and an event whose delivery succeeded before its claim was due
is not claimed again before that, in every run in which each release is in time. -/
theorem claims_released_by_owner
    (reaches : Reaches (step config key)
      (fun timeline tick => releasesInTime key timeline tick = true) initial timeline) :
    timeline.OwnReleases ∧ timeline.ProcessedOnce key := by
  obtain ⟨stages, _, owned, _⟩ := reaches.invariant
    (fun timeline => ∃ stages, Staged config stages timeline.service ∧
      Owned key timeline stages ∧ Synced key timeline)
    ⟨[], initial_staged, initial_owned, rfl⟩
    (fun _ _ _ ⟨_, staged, owned, synced⟩ inTime stepped =>
      step_owned owned synced staged inTime stepped)
  exact ⟨owned.own, owned.processedOnce⟩

def shortLived : ClaimKey where
  webhookId := "wh"
  ttlSeconds := 1
  ttlSeconds_pos := by decide

def Tick.notifies (count : Nat) : List Tick :=
  List.replicate count (.service (.notifies "wh" "sms"))

def Tick.answers (pid count : Nat) : List Tick :=
  (Event.answers pid count).map Tick.service

/-- A delivery fails in time and releases its claim, and the next one is processed. -/
theorem claims_released_by_owner_retry : ∃ timeline,
    Reaches (step (.defaults ["bird"]) shortLived)
      (fun timeline tick => releasesInTime shortLived timeline tick = true) initial timeline ∧
    timeline.removals = [(0, ⟨0, 0⟩)] ∧ timeline.grants = [⟨0, 0⟩, ⟨1, 999⟩] ∧
    timeline.completions = [(1, 999)] ∧ timeline.OwnReleases ∧
    timeline.ProcessedOnce shortLived := by
  obtain ⟨timeline, reaches, found⟩ := execute_exists (step (.defaults ["bird"]) shortLived)
    (fun timeline tick => releasesInTime shortLived timeline tick = true) initial
    (Tick.notifies 2 ++ Tick.answers 0 2 ++ [.advance 999] ++
      [.service (.resume 0 (.rejected none))] ++ Tick.answers 0 1 ++ Tick.answers 1 4)
    (fun timeline => timeline.removals = [(0, ⟨0, 0⟩)] &&
      timeline.grants = [⟨0, 0⟩, ⟨1, 999⟩] && timeline.completions = [(1, 999)])
    (by decide)
  simp only [Bool.and_eq_true, decide_eq_true_eq] at found
  obtain ⟨⟨removals, grants⟩, completions⟩ := found
  exact ⟨timeline, reaches, removals, grants, completions, claims_released_by_owner reaches⟩

/-- The claim of a slow delivery runs out and a second delivery takes the key. Then the first one
fails and releases it, the second one succeeds, and a third one takes the key again, a second
before it was due. -/
theorem late_release_removes_claim : ∃ timeline,
    Reaches (step (.defaults ["bird"]) shortLived) (fun _ _ => True) initial timeline ∧
    ¬ timeline.OwnReleases ∧ ¬ timeline.ProcessedOnce shortLived := by
  obtain ⟨timeline, reaches, found⟩ := execute_exists (step (.defaults ["bird"]) shortLived)
    (fun _ _ => True) initial
    (Tick.notifies 3 ++ Tick.answers 0 2 ++ [.advance 1000] ++ Tick.answers 1 2 ++
      [.service (.resume 0 (.rejected none))] ++ Tick.answers 0 1 ++ Tick.answers 1 2 ++
      Tick.answers 2 2)
    (fun timeline => timeline.removals = [(0, ⟨1, 1000⟩)] &&
      timeline.grants = [⟨0, 0⟩, ⟨1, 1000⟩, ⟨2, 1000⟩] && timeline.completions = [(1, 1000)])
    (by decide)
  simp only [Bool.and_eq_true, decide_eq_true_eq] at found
  obtain ⟨⟨removals, grants⟩, completions⟩ := found
  refine ⟨timeline, reaches, ?_, ?_⟩
  · intro own
    have mine := own (0, ⟨1, 1000⟩) (by simp [removals])
    exact absurd mine (by decide)
  · intro once
    unfold ProcessedOnce at once
    rw [grants, completions] at once
    have pair := (List.pairwise_cons.mp (List.pairwise_cons.mp once).2).1 ⟨2, 1000⟩ (by simp)
    have late := pair (by decide) (1, 1000) (by simp) rfl
    exact absurd late (by decide)

end ClaimTimeline

end SmsNotification
