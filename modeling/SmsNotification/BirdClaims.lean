import SmsNotification.Moves

/-!
What a `204` to a Bird delivery promises. A duplicate is answered as soon as it sees the claim, so
its answer holds only if the delivery with the claim does not fail afterwards. The condition
`NoSwallow` on a step rules out the two orders in which it does.
-/

namespace SmsNotification

open Concurrency

namespace Stage

variable {caseMapping : Js.CaseMapping} {stage stage' : Stage} {op : Op} {webhookId : String}

def holds (webhookId : String) : Stage → Bool
  | receiving claim _ => claim = some webhookId
  | resolved claim _ _ => claim = some webhookId
  | skipped claim _ => claim = some webhookId
  | processed claim => claim = some webhookId
  | failing other => other = webhookId
  | _ => false

def isClaimOp : Op → Bool
  | .claimBirdWebhook _ => true
  | .releaseBirdWebhook _ => true
  | _ => false

theorem holds_next {reply : Except Failure op.Reply}
    (transition : Transition caseMapping stage op reply stage') (other : isClaimOp op = false) :
    stage'.holds webhookId = stage.holds webhookId := by
  cases transition with
  | failed _ handles | failedClaim _ handles =>
      rcases handles with ⟨callback, rfl⟩ | ⟨callback, id, rfl⟩ | ⟨id, rfl⟩ <;> simp [holds]
  | delivery | notDelivery | duplicate | claimRejected | released => simp [isClaimOp] at other
  | _ => rfl

theorem duplicate_next {reply : Except Failure op.Reply}
    (transition : Transition caseMapping stage op reply (.duplicate webhookId)) :
    stage = .duplicate webhookId ∨ op = .claimBirdWebhook webhookId ∧ ∃ event,
      stage = .claiming webhookId event := by
  cases transition with
  | quiet | unlocked => exact Or.inl rfl
  | stored source => simp at source
  | @duplicate _ event => exact Or.inr ⟨rfl, event, rfl⟩

theorem failing_next {reply : Except Failure op.Reply}
    (transition : Transition caseMapping stage op reply (.failing webhookId)) :
    Handles (some webhookId) stage ∧ stage.Allowed op ∧ ∃ error, reply = .error error := by
  cases transition with
  | quiet _ settled => simp [isFailing] at settled
  | unlocked allowed => simp [Allowed] at allowed
  | stored source => simp at source
  | @failedClaim _ _ error _ allowed handles => exact ⟨handles, allowed, error, rfl⟩

theorem claim_cases {reply : Except Failure Bool}
    (transition : Transition caseMapping stage (.claimBirdWebhook webhookId) reply stage') :
    (∃ event, stage = .claiming webhookId event) ∧
      (reply = .ok true ∧ ((∃ callback, stage' = .receiving (some webhookId) callback) ∨
        stage' = .processed (some webhookId)) ∨
      reply = .ok false ∧ stage' = .duplicate webhookId ∨
      (∃ error, reply = .error error) ∧ stage' = .finished) := by
  cases transition with
  | quiet infallible => simp [Op.fallible] at infallible
  | @delivery _ event status => exact ⟨⟨event, rfl⟩, Or.inl ⟨rfl, Or.inl ⟨_, rfl⟩⟩⟩
  | @notDelivery _ event => exact ⟨⟨event, rfl⟩, Or.inl ⟨rfl, Or.inr rfl⟩⟩
  | @duplicate _ event => exact ⟨⟨event, rfl⟩, Or.inr (Or.inl ⟨rfl, rfl⟩)⟩
  | @claimRejected _ event error => exact ⟨⟨event, rfl⟩, Or.inr (Or.inr ⟨⟨error, rfl⟩, rfl⟩)⟩
  | failed allowed handles | failedClaim allowed handles =>
      obtain ⟨event, rfl⟩ := allowed
      simp [Handles] at handles

theorem release_cases {reply : Except Failure Unit}
    (transition : Transition caseMapping stage (.releaseBirdWebhook webhookId) reply stage') :
    stage = .failing webhookId ∧ stage' = .finished := by
  cases transition with
  | quiet infallible => simp [Op.fallible] at infallible
  | released => exact ⟨rfl, rfl⟩
  | failed allowed handles | failedClaim allowed handles =>
      cases allowed
      simp [Handles] at handles

theorem handles_rejection {world : World} {choice : Choice} {outcome : World.Outcome op}
    {error : Failure} (handles : Handles (some webhookId) stage) (allowed : stage.Allowed op)
    (executed : world.exec op choice = some outcome) (failed : outcome.reply = .error error) :
    choice.isAnswered = false := by
  have possible := World.exec_replies executed
  rw [failed] at possible
  rcases possible.2 with ⟨message, rfl⟩ | ⟨_, key, dto, rfl⟩
  · exact World.exec_rejection executed failed
  · rcases handles with ⟨callback, rfl⟩ | ⟨callback, id, rfl⟩ | ⟨id, rfl⟩ <;>
      simp [Allowed] at allowed

variable {request : Call}

theorem Serves.of_holds (serves : stage.Serves caseMapping request)
    (holds : stage.holds webhookId = true) : ∃ event, request = .bird webhookId event := by
  have claims : ∀ {claim : Option String}, Claims request claim → claim = some webhookId →
      ∃ event, request = .bird webhookId event := by
    rintro claim claims rfl
    exact claims
  cases stage with
  | receiving claim callback | resolved claim callback id =>
      exact claims (Delivers.claims serves) (by simpa [Stage.holds] using holds)
  | skipped claim id | processed claim =>
      exact claims serves (by simpa [Stage.holds] using holds)
  | failing other =>
      have same : other = webhookId := by simpa [Stage.holds] using holds
      exact same ▸ serves
  | _ => simp [Stage.holds] at holds

theorem initial_holds (initial : stage.isInitial = true) : stage.holds webhookId = false := by
  cases stage with
  | receiving claim _ | processed claim => cases claim <;> simp_all [isInitial, Stage.holds]
  | _ => simp_all [isInitial, Stage.holds]

theorem initial_waits (initial : stage.isInitial = true) :
    stage ≠ .duplicate webhookId ∧ stage ≠ .failing webhookId := by
  constructor
  · rintro rfl
    simp [isInitial] at initial
  · rintro rfl
    simp [isInitial] at initial

end Stage

def BirdDeliveryEvent.delivers (smsId : String) : BirdDeliveryEvent where
  type := "sms.delivered"
  smsId := smsId
  occurredAt := some 0
  errorCode := none

namespace Service

def Event.notifies (webhookId smsId : String) : Event :=
  .request (.bird webhookId (.delivers smsId))

variable {config : Config} {service following : Service} {stages stages' : List Stage}
  {event : Event} {webhookId : String} {delivered : BirdDeliveryEvent}

def grants (webhookId : String) : Entry Op Op.Reply Failure → Bool
  | ⟨_, .claimBirdWebhook other, .ok true, _⟩ => other = webhookId
  | _ => false

def lastClaim (webhookId : String) (history : List (Entry Op Op.Reply Failure)) : Option Bool :=
  history.foldl (fun last entry => match entry with
    | ⟨_, .claimBirdWebhook other, .ok granted, _⟩ =>
        if other = webhookId then some granted else last
    | _ => last) none

def releasing (service : Service) (webhookId : String) : Bool :=
  service.processes.any fun process =>
    process.program.awaited = some (.releaseBirdWebhook webhookId)

/-- Whether the step lets a duplicate be answered for a delivery that fails: the claim is answered
while its holder is about to release it, or the holder fails after a duplicate was answered. -/
def swallows (webhookId : String) (service : Service) : Event → Bool
  | .resume pid choice => match service.call pid, service.awaits pid with
      | some (.bird other _), some op => other = webhookId && match op with
          | .claimBirdWebhook _ => choice.isAnswered && service.releasing webhookId
          | .releaseBirdWebhook _ => false
          | _ => !choice.isAnswered && lastClaim webhookId service.history = some false
      | _, _ => false
  | _ => false

/-- The steps of runs in which every delivery of the webhook id carries the same event, its claim
does not expire, a claim that rejects was not taken, and a release is answered. -/
def carries (webhookId : String) (delivered : BirdDeliveryEvent) (service : Service) :
    Event → Bool
  | .request (.bird other received) => other ≠ webhookId || received = delivered
  | .expireClaim other => other ≠ webhookId
  | .resume pid choice => match service.awaits pid with
      | some (.claimBirdWebhook other) => other ≠ webhookId || !choice.isLost
      | some (.releaseBirdWebhook other) => other ≠ webhookId || choice.isAnswered
      | _ => true
  | _ => true

def succeeded (service : Service) (pid : Nat) : Bool :=
  match service.result pid with
  | some (.ok _) => true
  | _ => false

/-- Some delivery of the event was granted the claim and ran `processEvent` to completion. -/
def processedOnce (webhookId : String) (delivered : BirdDeliveryEvent) (service : Service) : Bool :=
  (List.range service.processes.length).any fun pid =>
    service.call pid = some (.bird webhookId delivered) && service.succeeded pid &&
      service.history.any fun entry => entry.pid = pid && grants webhookId entry

def deliveriesFinished (webhookId : String) (service : Service) : Bool :=
  (List.range service.processes.length).all fun pid => match service.call pid with
    | some (.bird other _) => other ≠ webhookId || (service.result pid).isSome
    | _ => true

def deliveryAnswered (webhookId : String) (service : Service) : Bool :=
  (List.range service.processes.length).any fun pid => match service.call pid with
    | some (.bird other _) => other = webhookId && service.succeeded pid
    | _ => false

structure Claimed (webhookId : String) (delivered : BirdDeliveryEvent) (service : Service)
    (stages : List Stage) : Prop where
  holders : stages.countP (Stage.holds webhookId) =
    if service.world.claims webhookId then 1 else 0
  granted : ∀ (pid : Nat) (stage : Stage), stages[pid]? = some stage →
    stage.holds webhookId = true →
    ∃ entry ∈ service.history, entry.pid = pid ∧ grants webhookId entry = true
  duplicates : .duplicate webhookId ∈ stages → service.world.claims webhookId = true ∧
    lastClaim webhookId service.history = some false ∧ .failing webhookId ∉ stages
  carried : ∀ pid received, service.call pid = some (.bird webhookId received) →
    received = delivered

theorem Staged.failing_awaits (staged : Staged config stages service) {pid : Nat}
    (found : stages[pid]? = some (.failing webhookId)) :
    service.awaits pid = some (.releaseBirdWebhook webhookId) := by
  obtain ⟨process, present, follows⟩ := staged.tracked.process found
  cases program : process.program with
  | settled result =>
      rw [program] at follows
      cases tag : process.tag <;> cases result <;> simp [tag, Stage.Settles] at follows
  | await op next =>
      rw [program] at follows
      have allowed : Stage.Allowed (.failing webhookId) op := follows.1
      have same : op = .releaseBirdWebhook webhookId := by
        cases op with
        | update statement => cases statement <;> simp [Stage.Allowed, Stage.AllowedUpdate] at allowed
        | _ => simp_all [Stage.Allowed, Stage.isFailing]
      simp [Pool.awaits, present, program, Program.awaited, same]

theorem Staged.failing_releasing (staged : Staged config stages service)
    (failing : .failing webhookId ∈ stages) : service.releasing webhookId = true := by
  obtain ⟨pid, found⟩ := List.mem_iff_getElem?.mp failing
  obtain ⟨process, present, awaited⟩ := Option.bind_eq_some_iff.mp (staged.failing_awaits found)
  simp only [Service.releasing, List.any_eq_true, decide_eq_true_eq]
  exact ⟨process, List.mem_of_getElem? present, awaited⟩

theorem lastClaim_append (history : List (Entry Op Op.Reply Failure))
    (entry : Entry Op Op.Reply Failure) :
    lastClaim webhookId (history ++ [entry]) = match entry with
      | ⟨_, .claimBirdWebhook other, .ok granted, _⟩ =>
          if other = webhookId then some granted else lastClaim webhookId history
      | _ => lastClaim webhookId history := by
  simp only [lastClaim, List.foldl_append, List.foldl_cons, List.foldl_nil]

theorem lastClaim_other {history : List (Entry Op Op.Reply Failure)} {pid : Nat} {op : Op}
    {reply : Except Failure op.Reply} {effective : Bool} (other : Stage.isClaimOp op = false) :
    lastClaim webhookId (history ++ [⟨pid, op, reply, effective⟩]) =
      lastClaim webhookId history := by
  rw [lastClaim_append]
  cases op <;> first | rfl | simp [Stage.isClaimOp] at other

section Resume

variable {pid : Nat} {choice : Choice} {before after : Stage}

theorem granted_after {op : Op} {reply : Except Failure op.Reply} {effective : Bool}
    (claimed : Claimed webhookId delivered service stages)
    (history : following.history = service.history ++ [⟨pid, op, reply, effective⟩])
    (source : after.holds webhookId = true → (∃ stage, stages[pid]? = some stage ∧
      stage.holds webhookId = true) ∨ grants webhookId ⟨pid, op, reply, effective⟩ = true)
    {other : Nat} {stage : Stage} (found : (stages.set pid after)[other]? = some stage)
    (holds : stage.holds webhookId = true) :
    ∃ entry ∈ following.history, entry.pid = other ∧ grants webhookId entry = true := by
  have kept : ∀ {stage : Stage}, stages[other]? = some stage → stage.holds webhookId = true →
      ∃ entry ∈ following.history, entry.pid = other ∧ grants webhookId entry = true := by
    intro stage present held
    obtain ⟨entry, member, granted⟩ := claimed.granted other stage present held
    exact ⟨entry, by rw [history]; exact List.mem_append_left _ member, granted⟩
  rcases getElem?_set_cases found with ⟨rfl, rfl⟩ | ⟨_, present⟩
  · rcases source holds with ⟨stage', present, held⟩ | granted
    · exact kept present held
    · refine ⟨_, ?_, rfl, granted⟩
      rw [history]
      exact List.mem_append_right _ (List.mem_singleton.mpr rfl)
  · exact kept present holds

theorem Claimed.keeps {op : Op} {reply : Except Failure op.Reply} {effective : Bool}
    (claimed : Claimed webhookId delivered service stages)
    (found : stages[pid]? = some before)
    (history : following.history = service.history ++ [⟨pid, op, reply, effective⟩])
    (calls : ∀ other, following.call other = service.call other)
    (sameClaims : following.world.claims webhookId = service.world.claims webhookId)
    (sameHolds : after.holds webhookId = before.holds webhookId)
    (sameLast : lastClaim webhookId following.history = lastClaim webhookId service.history)
    (noDuplicate : after = .duplicate webhookId → before = .duplicate webhookId)
    (noFailing : .duplicate webhookId ∈ stages → after ≠ .failing webhookId) :
    Claimed webhookId delivered following (stages.set pid after) where
  holders := by
    have counted := countP_set_add (y := after) (Stage.holds webhookId) found
    rw [sameHolds] at counted
    rw [sameClaims, ← claimed.holders]
    omega
  granted _ _ present holds := granted_after claimed history (fun holds =>
    Or.inl ⟨before, found, by rw [← sameHolds]; exact holds⟩) present holds
  duplicates := by
    intro member
    have earlier : .duplicate webhookId ∈ stages := by
      rcases List.mem_or_eq_of_mem_set member with earlier | same
      · exact earlier
      · exact noDuplicate same.symm ▸ List.mem_of_getElem? found
    obtain ⟨taken, last, noFailed⟩ := claimed.duplicates earlier
    refine ⟨by rw [sameClaims]; exact taken, by rw [sameLast]; exact last, ?_⟩
    intro failing
    rcases List.mem_or_eq_of_mem_set failing with failed | same
    · exact noFailed failed
    · exact noFailing earlier same.symm
  carried other received called := claimed.carried other received (by rw [← calls]; exact called)

theorem Claimed.other {op : Op} {outcome : World.Outcome op}
    (claimed : Claimed webhookId delivered service stages) (staged : Staged config stages service)
    (found : stages[pid]? = some before) (awaits : service.awaits pid = some op)
    (transition : Stage.Transition config.caseMapping before op outcome.reply after)
    (executed : service.world.exec op choice = some outcome)
    (world : following.world = outcome.world)
    (history : following.history = service.history ++ [⟨pid, op, outcome.reply, outcome.effective⟩])
    (calls : ∀ other, following.call other = service.call other)
    (answers : service.swallows webhookId (.resume pid choice) = false)
    (other : Stage.isClaimOp op = false) :
    Claimed webhookId delivered following (stages.set pid after) := by
  refine claimed.keeps found history calls ?_ (Stage.holds_next transition other)
    (by rw [history, lastClaim_other other]) ?_ ?_
  · rw [world]
    rcases World.exec_claims executed with same | ⟨_, rfl, _⟩ | ⟨_, rfl, _⟩
    · rw [same]
    · simp [Stage.isClaimOp] at other
    · simp [Stage.isClaimOp] at other
  · rintro rfl
    rcases Stage.duplicate_next transition with same | ⟨rfl, _⟩
    · exact same
    · simp [Stage.isClaimOp] at other
  · rintro duplicate rfl
    obtain ⟨_, last, _⟩ := claimed.duplicates duplicate
    obtain ⟨handles, allowed, error, reply⟩ := Stage.failing_next transition
    obtain ⟨request, called, serves⟩ := staged.call found
    obtain ⟨received, rfl⟩ := serves.claims handles
    have rejected : choice.isAnswered = false :=
      Stage.handles_rejection handles allowed executed reply
    have swallowed : service.swallows webhookId (.resume pid choice) = true := by
      cases op <;> simp [Stage.isClaimOp] at other <;>
        simp [swallows, called, awaits, rejected, last]
    simp [swallowed] at answers

theorem Claimed.elsewhere {op : Op} {outcome : World.Outcome op}
    (claimed : Claimed webhookId delivered service stages) (found : stages[pid]? = some before)
    (transition : Stage.Transition config.caseMapping before op outcome.reply after)
    (executed : service.world.exec op choice = some outcome)
    (world : following.world = outcome.world)
    (history : following.history = service.history ++ [⟨pid, op, outcome.reply, outcome.effective⟩])
    (calls : ∀ other, following.call other = service.call other) {other : String}
    (different : other ≠ webhookId)
    (claim : op = .claimBirdWebhook other ∨ op = .releaseBirdWebhook other) :
    Claimed webhookId delivered following (stages.set pid after) := by
  have sameClaims : following.world.claims webhookId = service.world.claims webhookId := by
    rw [world]
    rcases World.exec_claims executed with same | ⟨claimedId, same, _, updated⟩ |
      ⟨claimedId, same, updated⟩
    · rw [same]
    · have otherId : claimedId = other := by
        rcases claim with rfl | rfl <;> simp at same
        exact same.symm
      rw [updated, otherId]
      exact Function.update_of_ne different.symm _ _
    · have otherId : claimedId = other := by
        rcases claim with rfl | rfl <;> simp at same
        exact same.symm
      rw [updated, otherId]
      exact Function.update_of_ne different.symm _ _
  have sameLast : lastClaim webhookId following.history = lastClaim webhookId service.history := by
    rw [history, lastClaim_append]
    rcases claim with rfl | rfl
    · cases outcome.reply <;> simp [different]
    · rfl
  rcases claim with rfl | rfl
  · obtain ⟨⟨received, rfl⟩, answer⟩ := Stage.claim_cases transition
    rcases answer with ⟨_, ⟨callback, rfl⟩ | rfl⟩ | ⟨_, rfl⟩ | ⟨_, rfl⟩
    all_goals
      refine claimed.keeps found history calls sameClaims ?_ sameLast ?_ ?_ <;>
        simp [Stage.holds, different]
  · obtain ⟨rfl, rfl⟩ := Stage.release_cases transition
    refine claimed.keeps found history calls sameClaims ?_ sameLast ?_ ?_ <;>
      simp [Stage.holds, different]

theorem Claimed.claim {outcome : World.Outcome (.claimBirdWebhook webhookId)}
    (claimed : Claimed webhookId delivered service stages) (staged : Staged config stages service)
    (found : stages[pid]? = some before)
    (awaits : service.awaits pid = some (.claimBirdWebhook webhookId))
    (transition : Stage.Transition config.caseMapping before (.claimBirdWebhook webhookId)
      outcome.reply after)
    (executed : service.world.exec (.claimBirdWebhook webhookId) choice = some outcome)
    (world : following.world = outcome.world)
    (history : following.history = service.history ++
      [⟨pid, .claimBirdWebhook webhookId, outcome.reply, outcome.effective⟩])
    (calls : ∀ other, following.call other = service.call other)
    (answers : service.swallows webhookId (.resume pid choice) = false)
    (carries : service.carries webhookId delivered (.resume pid choice) = true) :
    Claimed webhookId delivered following (stages.set pid after) := by
  have counted := countP_set_add (y := after) (Stage.holds webhookId) found
  have holders := claimed.holders
  have kept : choice.isLost = false := by simpa [Service.carries, awaits] using carries
  obtain ⟨⟨received, rfl⟩, answer⟩ := Stage.claim_cases transition
  have carried : ∀ other received, following.call other = some (.bird webhookId received) →
      received = delivered :=
    fun other received called => claimed.carried other received (by rw [← calls]; exact called)
  have earlier : ∀ {stage : Stage}, stage ∈ stages.set pid after → stage ≠ after →
      stage ∈ stages := by
    intro stage member different
    rcases List.mem_or_eq_of_mem_set member with kept | same
    · exact kept
    · exact absurd same different
  rcases World.exec_claimBirdWebhook executed with
    ⟨same, message, reply⟩ | ⟨taken, same, answered, reply⟩ | ⟨free, claim, reply⟩
  · -- the claim rejects and is not taken
    have finished : after = .finished := by simpa [reply] using answer
    subst finished
    refine claimed.keeps found history calls (by rw [world, same]) rfl ?_ (by simp) (by simp)
    rw [history, lastClaim_append, reply]
  · -- a duplicate
    have duplicate : after = .duplicate webhookId := by simpa [reply] using answer
    subst duplicate
    refine ⟨?_, ?_, ?_, carried⟩
    · simp only [Stage.holds, Bool.false_eq_true, if_false] at counted
      rw [world, same, ← holders]
      omega
    · exact fun _ _ present holds => granted_after claimed history (by simp [Stage.holds]) present
        holds
    · intro _
      rw [world, same, history, lastClaim_append, reply]
      refine ⟨taken, by simp, ?_⟩
      intro failing
      have releasing := staged.failing_releasing (earlier failing (by simp))
      obtain ⟨request, called, serves⟩ := staged.call found
      have bird : request = .bird webhookId received := serves
      subst bird
      simp [swallows, called, awaits, answered, releasing] at answers
  · -- the claim is granted
    rcases reply with ⟨_, granted⟩ | lost
    · have stage : (∃ callback, after = .receiving (some webhookId) callback) ∨
          after = .processed (some webhookId) := by simpa [granted] using answer
      have held : after.holds webhookId = true := by
        rcases stage with ⟨callback, rfl⟩ | rfl <;> simp [Stage.holds]
      have other : .duplicate webhookId ≠ after := by
        rcases stage with ⟨callback, rfl⟩ | rfl <;> simp
      refine ⟨?_, ?_, ?_, carried⟩
      · rw [if_pos held] at counted
        rw [free] at holders
        rw [world, claim]
        simp only [Stage.holds, Bool.false_eq_true, if_false] at counted holders
        simp only [Function.update_self, if_true]
        omega
      · exact fun _ _ present holds => granted_after claimed history
          (fun _ => Or.inr (by simp [grants, granted])) present holds
      · intro member
        obtain ⟨taken, _⟩ := claimed.duplicates (earlier member other)
        simp [free] at taken
    · simp [lost] at kept

theorem Claimed.release {outcome : World.Outcome (.releaseBirdWebhook webhookId)}
    (claimed : Claimed webhookId delivered service stages)
    (found : stages[pid]? = some before)
    (awaits : service.awaits pid = some (.releaseBirdWebhook webhookId))
    (transition : Stage.Transition config.caseMapping before (.releaseBirdWebhook webhookId)
      outcome.reply after)
    (executed : service.world.exec (.releaseBirdWebhook webhookId) choice = some outcome)
    (world : following.world = outcome.world)
    (history : following.history = service.history ++
      [⟨pid, .releaseBirdWebhook webhookId, outcome.reply, outcome.effective⟩])
    (calls : ∀ other, following.call other = service.call other)
    (carries : service.carries webhookId delivered (.resume pid choice) = true) :
    Claimed webhookId delivered following (stages.set pid after) := by
  have counted := countP_set_add (y := after) (Stage.holds webhookId) found
  have holders := claimed.holders
  have answered : choice.isAnswered = true := by simpa [Service.carries, awaits] using carries
  obtain ⟨rfl, rfl⟩ := Stage.release_cases transition
  refine ⟨?_, ?_, ?_, fun other received called =>
    claimed.carried other received (by rw [← calls]; exact called)⟩
  · have released := World.exec_releaseBirdWebhook executed answered
    rw [world, released]
    simp only [Stage.holds, decide_true, if_true, Bool.false_eq_true, if_false] at counted
    simp only [Function.update_self, Bool.false_eq_true, if_false]
    split at holders <;> omega
  · exact fun _ _ present holds => granted_after claimed history (by simp [Stage.holds]) present
      holds
  · intro member
    have earlier : .duplicate webhookId ∈ stages := by
      rcases List.mem_or_eq_of_mem_set member with kept | same
      · exact kept
      · simp at same
    exact absurd (List.mem_of_getElem? found) (claimed.duplicates earlier).2.2

end Resume

theorem Claimed.spawn (config : Config) {request : Call} {program : Action Answer} {world : World}
    (claimed : Claimed webhookId delivered service stages)
    (sameClaims : world.claims = service.world.claims)
    (carried : ∀ received, request = .bird webhookId received → received = delivered) :
    Claimed webhookId delivered ({ service with world := world }.spawn request program)
      (stages ++ [Stage.start config.caseMapping request]) where
  holders := by
    rw [List.countP_append, List.countP_singleton, Stage.initial_holds (Stage.start_isInitial _ _)]
    simp only [Pool.spawn, sameClaims, Bool.false_eq_true, if_false, Nat.add_zero]
    exact claimed.holders
  granted pid stage found holds := by
    rcases getElem?_concat_cases found with before | ⟨_, rfl⟩
    · exact claimed.granted pid stage before holds
    · simp [Stage.initial_holds (Stage.start_isInitial _ _)] at holds
  duplicates := by
    intro member
    have earlier : .duplicate webhookId ∈ stages := by
      rcases List.mem_append.mp member with earlier | new
      · exact earlier
      · exact absurd (List.mem_singleton.mp new).symm (Stage.initial_waits (Stage.start_isInitial _ _)).1
    obtain ⟨taken, last, noFailing⟩ := claimed.duplicates earlier
    refine ⟨by simp only [Pool.spawn, sameClaims]; exact taken, last, ?_⟩
    intro failing
    rcases List.mem_append.mp failing with failed | new
    · exact noFailing failed
    · exact (Stage.initial_waits (Stage.start_isInitial _ _)).2 (List.mem_singleton.mp new).symm
  carried pid received called := by
    rcases call_spawn called with before | ⟨_, same⟩
    · exact claimed.carried pid received before
    · exact carried received same.symm

theorem Claimed.of_world {world : World} (claimed : Claimed webhookId delivered service stages)
    (same : world.claims webhookId = service.world.claims webhookId) :
    Claimed webhookId delivered { service with world := world } stages where
  holders := by
    simp only [same]
    exact claimed.holders
  granted := claimed.granted
  duplicates member := by
    simp only [same]
    exact claimed.duplicates member
  carried := claimed.carried

theorem Moves.claimed (moves : Moves config service stages event following stages')
    (staged : Staged config stages service) (claimed : Claimed webhookId delivered service stages)
    (carries : service.carries webhookId delivered event = true)
    (answers : service.swallows webhookId event = false) :
    Claimed webhookId delivered following stages' := by
  cases moves with
  | @request request _ =>
      refine claimed.spawn config rfl ?_
      rintro received rfl
      simpa [Service.carries] using carries
  | @execute index job =>
      have request : ∀ received, Call.dispatch job.messageId = .bird webhookId received →
          received = delivered := by simp
      exact claimed.spawn config rfl request
  | @resume pid choice before after op outcome _ found awaits _ transition executed world history
      calls =>
      cases op with
      | claimBirdWebhook other =>
          by_cases same : other = webhookId
          · subst same
            exact claimed.claim staged found awaits transition executed world history calls
              answers carries
          · exact claimed.elsewhere found transition executed world history calls same
              (Or.inl rfl)
      | releaseBirdWebhook other =>
          by_cases same : other = webhookId
          · subst same
            exact claimed.release found awaits transition executed world history calls carries
          · exact claimed.elsewhere found transition executed world history calls same
              (Or.inr rfl)
      | _ =>
          exact claimed.other staged found awaits transition executed world history calls answers
            rfl
  | settle | stall | expireCache | expireLock => exact claimed.of_world rfl
  | expireClaim other =>
      refine claimed.of_world ?_
      have different : other ≠ webhookId := by simpa [Service.carries] using carries
      exact Function.update_of_ne different.symm _ _

theorem initial_claimed : Claimed webhookId delivered initial [] where
  holders := rfl
  granted pid stage found := by simp at found
  duplicates member := by simp at member
  carried pid received called := by simp [call, initial] at called

theorem finished_result {pid : Nat} {received : BirdDeliveryEvent}
    (finished : service.deliveriesFinished webhookId = true)
    (called : service.call pid = some (.bird webhookId received)) :
    ∃ result, service.result pid = some result := by
  have settled := List.all_eq_true.mp finished pid (List.mem_range.mpr (call_below called))
  simpa [called, Option.isSome_iff_exists] using settled

theorem succeeded_result {pid : Nat} (succeeded : service.succeeded pid = true) :
    ∃ answer, service.result pid = some (.ok answer) := by
  unfold Service.succeeded at succeeded
  split at succeeded
  · exact ⟨_, by assumption⟩
  · simp at succeeded

theorem Claimed.processed (claimed : Claimed webhookId delivered service stages)
    (staged : Staged config stages service)
    (finished : service.deliveriesFinished webhookId = true) {pid : Nat} {stage : Stage}
    (found : stages[pid]? = some stage) (holds : stage.holds webhookId = true) :
    service.processedOnce webhookId delivered = true := by
  obtain ⟨entry, member, byPid, granted⟩ := claimed.granted pid stage found holds
  obtain ⟨request, called, serves⟩ := staged.call found
  obtain ⟨received, rfl⟩ := serves.of_holds holds
  have same := claimed.carried pid received called
  subst same
  obtain ⟨result, settled⟩ := finished_result finished called
  obtain ⟨request, stage', called', found', settles⟩ := staged.result settled
  rw [called, Option.some.injEq] at called'
  rw [found, Option.some.injEq] at found'
  subst called' found'
  have succeeded : service.succeeded pid = true := by
    cases result with
    | ok answer => simp [Service.succeeded, settled]
    | error error =>
        have dropped : stage = .finished := settles
        simp [dropped, Stage.holds] at holds
  have entered : service.history.any (fun entry =>
      entry.pid = pid && grants webhookId entry) = true :=
    List.any_eq_true.mpr ⟨entry, member, by simp [byPid, granted]⟩
  exact List.any_eq_true.mpr ⟨pid, List.mem_range.mpr (call_below called), by
    simp [called, succeeded, entered]⟩

/-- Once all deliveries of a webhook id have finished and one of them was answered `204`, the event
has been processed, in every run whose steps swallow no answer. -/
theorem answered_processed
    (reaches : Reaches (step config) (fun service event =>
      service.carries webhookId delivered event = true ∧
        service.swallows webhookId event = false) initial service)
    (finished : service.deliveriesFinished webhookId = true)
    (answered : service.deliveryAnswered webhookId = true) :
    service.processedOnce webhookId delivered = true := by
  obtain ⟨stages, staged, claimed⟩ := invariant (Claimed webhookId delivered) reaches
    initial_claimed (fun _ _ _ _ _ staged claimed permitted moves =>
      moves.claimed staged claimed permitted.1 permitted.2)
  obtain ⟨pid, _, delivery⟩ := List.any_eq_true.mp answered
  split at delivery
  · rename_i other received called
    simp only [Bool.and_eq_true, decide_eq_true_eq] at delivery
    obtain ⟨rfl, succeeded⟩ := delivery
    obtain ⟨answer, settled⟩ := succeeded_result succeeded
    obtain ⟨request, stage, called', found, settles⟩ := staged.result settled
    rw [called, Option.some.injEq] at called'
    subst called'
    rcases settles with rfl | rfl
    · exact claimed.processed staged finished found (by simp [Stage.holds])
    · -- a duplicate was answered under the claim of a delivery that still holds it
      obtain ⟨taken, _⟩ := claimed.duplicates (List.mem_of_getElem? found)
      have holders := claimed.holders
      rw [if_pos taken] at holders
      have positive : 0 < stages.countP (Stage.holds other) := by omega
      obtain ⟨stage, member, holds⟩ := List.countP_pos_iff.mp positive
      obtain ⟨holder, found⟩ := List.mem_iff_getElem?.mp member
      exact claimed.processed staged finished found holds
  · simp at delivery

/-- An original delivery and a duplicate answered while it is processed. -/
theorem answered_processed_duplicate : ∃ service,
    Reaches (step (.defaults ["bird"])) (fun service event =>
        service.carries "wh" (.delivers "sms") event = true ∧
          service.swallows "wh" event = false) initial service ∧
      service.deliveryAnswered "wh" = true ∧
      service.processedOnce "wh" (.delivers "sms") = true := by
  obtain ⟨service, reaches, found⟩ := execute_exists (step (.defaults ["bird"]))
    (fun service event => service.carries "wh" (.delivers "sms") event = true ∧
      service.swallows "wh" event = false) initial
    ([Event.notifies "wh" "sms", Event.notifies "wh" "sms"] ++ Event.answers 0 2 ++
      Event.answers 1 3 ++ Event.answers 0 2)
    (fun service => service.deliveriesFinished "wh" && service.deliveryAnswered "wh")
    (by decide)
  simp only [Bool.and_eq_true] at found
  exact ⟨service, reaches, found.2, answered_processed reaches found.1 found.2⟩

/-- A duplicate is answered `204` while the original delivery is processed, the lookup of the
original rejects, and it releases the claim: nothing has been recorded and no one retries. -/
theorem answered_unprocessed : ∃ service,
    Reaches (step (.defaults ["bird"])) (fun service event =>
        service.carries "wh" (.delivers "sms") event = true) initial service ∧
      service.deliveriesFinished "wh" = true ∧ service.deliveryAnswered "wh" = true ∧
      service.processedOnce "wh" (.delivers "sms") = false := by
  obtain ⟨service, reaches, found⟩ := execute_exists (step (.defaults ["bird"]))
    (fun service event => service.carries "wh" (.delivers "sms") event = true) initial
    ([Event.notifies "wh" "sms", Event.notifies "wh" "sms"] ++ Event.answers 0 2 ++
      Event.answers 1 3 ++ [.resume 0 (.rejected none)] ++ Event.answers 0 1)
    (fun service => service.deliveriesFinished "wh" && service.deliveryAnswered "wh" &&
      !service.processedOnce "wh" (.delivers "sms"))
    (by decide)
  simp only [Bool.and_eq_true, Bool.not_eq_true'] at found
  exact ⟨service, reaches, found.1.1, found.1.2, found.2⟩

end Service

end SmsNotification
