import SmsNotification.DispatchTrace
import SmsNotification.ProviderRegistry
import SmsNotification.RateLimiter

/-!
What is checked when the service starts: the registry resolves the priority list to provider
objects, and the rate limiter looks for the limits of each. A dispatch that runs afterwards meets
none of the errors these checks are there for.
-/

namespace SmsNotification

open Concurrency

inductive StartupError
  | registry (error : RegistryError)
  | rateLimit (error : RateLimitNotConfiguredError)
  deriving DecidableEq

/-- The map `providers` with the objects in it, each of them under its own `providerName`. -/
structure ProviderObjects {Provider : Type} (providerName : Provider → String) where
  values : List Provider
  unique : (values.map providerName).Nodup

namespace ProviderObjects

variable {Provider : Type} {providerName : Provider → String}

def registry (objects : ProviderObjects providerName) : ProviderRegistryService where
  providers := objects.values.map providerName
  unique := objects.unique

def register (objects : ProviderObjects providerName) (provider : Provider) :
    Except RegistryError (ProviderObjects providerName) :=
  if taken : providerName provider ∈ objects.values.map providerName then
    .error (.duplicateProvider (providerName provider))
  else .ok {
    values := objects.values ++ [provider]
    unique := by
      rw [List.map_append, List.nodup_append_comm]
      exact List.nodup_cons.mpr ⟨taken, objects.unique⟩ }

def create (providerName : Provider → String) (providers : List Provider) :
    Except RegistryError (ProviderObjects providerName) :=
  providers.foldlM register ⟨[], List.nodup_nil⟩

def getProvider (objects : ProviderObjects providerName) (name : String) :
    Except RegistryError Provider :=
  match objects.values.find? fun provider => providerName provider = name with
  | some provider => .ok provider
  | none => .error (.providerNotRegistered name)

/-- `onModuleInit`: the objects that `getProviders` returns from then on. -/
def resolveConfiguredProviders (objects : ProviderObjects providerName) (rawValue : String) :
    Except RegistryError (List Provider) := do
  let providerNames ← objects.registry.getConfiguredProviderNames rawValue
  providerNames.mapM objects.getProvider

theorem register_registry (objects : ProviderObjects providerName) (provider : Provider) :
    (objects.register provider).map registry =
      objects.registry.register (providerName provider) := by
  by_cases taken : providerName provider ∈ objects.values.map providerName
  · have known : providerName provider ∈ objects.registry.providers := taken
    rw [register, dif_pos taken, ProviderRegistryService.register, dif_pos known]
    rfl
  · have free : providerName provider ∉ objects.registry.providers := taken
    rw [register, dif_neg taken, ProviderRegistryService.register, dif_neg free]
    simp [Except.map, registry]

theorem foldlM_registry (objects : ProviderObjects providerName) (providers : List Provider) :
    (providers.foldlM register objects).map registry =
      (providers.map providerName).foldlM ProviderRegistryService.register objects.registry := by
  induction providers generalizing objects with
  | nil => rfl
  | cons provider providers ih =>
      rw [List.foldlM_cons, List.map_cons, List.foldlM_cons, ← register_registry]
      cases objects.register provider with
      | error error => rfl
      | ok following => exact ih following

theorem create_registry (providers : List Provider) :
    (create providerName providers).map registry =
      ProviderRegistryService.create (providers.map providerName) :=
  foldlM_registry ⟨[], List.nodup_nil⟩ providers

theorem register_values {objects following : ProviderObjects providerName} {provider : Provider}
    (registered : objects.register provider = .ok following) :
    following.values = objects.values ++ [provider] := by
  unfold register at registered
  split at registered
  · simp at registered
  · simp only [Except.ok.injEq] at registered
    rw [← registered]

theorem foldlM_values {objects following : ProviderObjects providerName} {providers : List Provider}
    (registered : providers.foldlM register objects = .ok following) :
    following.values = objects.values ++ providers := by
  induction providers generalizing objects with
  | nil =>
      have same : objects = following := by simpa [pure, Except.pure] using registered
      rw [same, List.append_nil]
  | cons provider providers ih =>
      rw [List.foldlM_cons] at registered
      cases first : objects.register provider with
      | error error => simp [first, bind, Except.bind] at registered
      | ok middle =>
          rw [first] at registered
          rw [ih registered, register_values first, List.append_assoc]
          rfl

theorem create_values {providers : List Provider} {objects : ProviderObjects providerName}
    (created : create providerName providers = .ok objects) : objects.values = providers :=
  foldlM_values created

theorem getProvider_ok {objects : ProviderObjects providerName} {name : String}
    {provider : Provider} (found : objects.getProvider name = .ok provider) :
    providerName provider = name ∧ provider ∈ objects.values := by
  unfold getProvider at found
  split at found
  · rename_i first matched
    simp only [Except.ok.injEq] at found
    subst found
    have named := List.find?_some matched
    exact ⟨by simpa using named, List.mem_of_find?_eq_some matched⟩
  · simp at found

theorem mapM_getProvider {objects : ProviderObjects providerName} {names : List String}
    {ordered : List Provider} (resolved : names.mapM objects.getProvider = .ok ordered) :
    ordered.map providerName = names ∧ ∀ provider ∈ ordered, provider ∈ objects.values := by
  induction names generalizing ordered with
  | nil =>
      have none : ordered = [] := by simpa [pure, Except.pure] using resolved
      simp [none]
  | cons name names ih =>
      rw [List.mapM_cons] at resolved
      cases first : objects.getProvider name with
      | error error => simp [first, bind, Except.bind] at resolved
      | ok provider =>
          cases rest : names.mapM objects.getProvider with
          | error error => simp [first, rest, bind, Except.bind] at resolved
          | ok providers =>
              simp only [first, rest, bind, Except.bind, pure, Except.pure, Except.ok.injEq]
                at resolved
              subst resolved
              obtain ⟨named, present⟩ := getProvider_ok first
              obtain ⟨sameNames, members⟩ := ih rest
              refine ⟨by rw [List.map_cons, named, sameNames], ?_⟩
              rintro other member
              rcases List.mem_cons.mp member with rfl | later
              · exact present
              · exact members other later

theorem resolved_registry {objects : ProviderObjects providerName} {rawValue : String}
    {ordered : List Provider} (resolved : objects.resolveConfiguredProviders rawValue = .ok ordered) :
    objects.registry.resolveConfiguredProviders rawValue = .ok (ordered.map providerName) ∧
      ∀ provider ∈ ordered, provider ∈ objects.values := by
  unfold resolveConfiguredProviders at resolved
  unfold ProviderRegistryService.resolveConfiguredProviders
  cases configured : objects.registry.getConfiguredProviderNames rawValue with
  | error error => simp [configured, bind, Except.bind] at resolved
  | ok names =>
      rw [configured] at resolved
      obtain ⟨named, members⟩ := mapM_getProvider resolved
      have known : ∀ name ∈ names, objects.registry.providers.contains name = true := by
        intro name member
        rw [← named] at member
        obtain ⟨provider, found, rfl⟩ := List.mem_map.mp member
        exact List.contains_iff_mem.mpr (List.mem_map_of_mem (members provider found))
      have same : names.mapM objects.registry.getProvider = .ok names :=
        ProviderRegistryService.mapM_getProvider known
      rw [named]
      exact ⟨same, members⟩

end ProviderObjects

/-- `onModuleInit` of the rate limiter. -/
def checkLimits (configService : ConfigService) (registry : ProviderRegistryService)
    (rawValue : String) : Except StartupError Unit := do
  let providerNames ← (registry.getConfiguredProviderNames rawValue).mapError .registry
  forM providerNames fun providerName =>
    ((getLimitConfig configService providerName).mapError .rateLimit).map fun _ => ()

/-- The constructor of the registry and the two `onModuleInit`; what `getProviders` returns. -/
def startup {Provider : Type} (configService : ConfigService) (providerName : Provider → String)
    (rawValue : String) (providers : List Provider) : Except StartupError (List Provider) := do
  let objects ← (ProviderObjects.create providerName providers).mapError .registry
  let orderedProviders ← (objects.resolveConfiguredProviders rawValue).mapError .registry
  checkLimits configService objects.registry rawValue
  pure orderedProviders

/-- `throttle` of the rate limiter, which looks for the limits before it starts to count. -/
def ProviderRateLimiterService.throttle (configService : ConfigService) (providerName : String) :
    Action Unit :=
  match getLimitConfig configService providerName with
  | .error error => throw (.app (.rateLimitNotConfigured error.providerName))
  | .ok _ => call (.throttle providerName)

def limiting (configService : ConfigService) : (op : Op) → Action op.Reply
  | .throttle providerName => ProviderRateLimiterService.throttle configService providerName
  | op => call op

def limitedDispatch (configService : ConfigService) (config : Config) (id : MessageId) :
    Action Unit :=
  (SmsDispatcherService.dispatch config id).implement (limiting configService)

def Failure.isConfiguration : Failure → Bool
  | .app (.rateLimitNotConfigured _) => true
  | .app (.invalidRetryConfiguration _ _) => true
  | .app (.providerNotRegistered _) => true
  | _ => false

/-- What the startup checks are there for, of a dispatch that took `steps` and has `rest` to do. -/
structure Configured (steps : List (OwnStep World.exec)) (rest : Action Unit) : Prop where
  thrown : ∀ error, rest = .settled (.error error) → error.isConfiguration = false
  /-- At most two answered calls lie between the claim and the first call to a provider. -/
  called : ∀ before claim after id, steps = before ++ claim :: after →
    claim.exchange = ⟨.update (.markProcessing id), .ok true⟩ →
    (∃ step ∈ steps, step.op.isSendSms = true) ∨
      (∃ step ∈ steps, step.op.isSendSms = false ∧ ∃ error, step.completion.reply = .error error) ∨
      rest.awaited.isSome = true ∧ after.length ≤ 2
  /-- The failure that is written is that of the last call. -/
  failed : ∀ before failure after id provider lastError failedAt,
    steps = before ++ failure :: after →
    failure.op = .update (.markFatalFailure id provider lastError failedAt) →
    ∃ earlier call later options reply, before = earlier ++ call :: later ∧
      call.exchange = ⟨.sendSms provider options, reply⟩ ∧
      (∀ step ∈ later, step.op.isSendSms = false) ∧ lastError = failureText (provider, reply)

section Started

variable {configService : ConfigService} {config : Config} {id : MessageId}
  {steps : List (OwnStep World.exec)} {rest : Action Unit}

theorem forM_ok {ε α : Type} {check : α → Except ε Unit} {values : List α} {result : Unit}
    (checked : forM values check = .ok result) :
    ∀ value ∈ values, ∃ result, check value = .ok result := by
  induction values with
  | nil => simp
  | cons value values ih =>
      rw [List.forM_cons] at checked
      cases first : check value with
      | error error => simp [first, bind, Except.bind] at checked
      | ok answer =>
          rw [first] at checked
          intro other member
          rcases List.mem_cons.mp member with rfl | later
          · exact ⟨answer, first⟩
          · exact ih checked other later

theorem checkLimits_ok {registry : ProviderRegistryService} {rawValue : String}
    (checked : checkLimits configService registry rawValue = .ok ()) :
    ∀ name ∈ ProviderRegistryService.priorityNames rawValue,
      ∃ limit, getLimitConfig configService name = .ok limit := by
  unfold checkLimits at checked
  cases configured : registry.getConfiguredProviderNames rawValue with
  | error error => simp [configured, bind, Except.bind, Except.mapError] at checked
  | ok providerNames =>
      rw [configured] at checked
      rw [← ProviderRegistryService.configured_names configured]
      intro name member
      obtain ⟨answer, answered⟩ := forM_ok checked name member
      cases found : getLimitConfig configService name with
      | error error => simp [found, Except.mapError, Except.map] at answered
      | ok limit => exact ⟨limit, rfl⟩

theorem startup_ok {Provider : Type} {providerName : Provider → String} {rawValue : String}
    {providers ordered : List Provider}
    (started : startup configService providerName rawValue providers = .ok ordered) :
    ∃ objects, ProviderObjects.create providerName providers = .ok objects ∧
      objects.resolveConfiguredProviders rawValue = .ok ordered ∧
      checkLimits configService objects.registry rawValue = .ok () := by
  unfold startup at started
  cases created : ProviderObjects.create providerName providers with
  | error error => simp [created, bind, Except.bind, Except.mapError] at started
  | ok objects =>
      cases resolved : objects.resolveConfiguredProviders rawValue with
      | error error => simp [created, resolved, bind, Except.bind, Except.mapError] at started
      | ok selected =>
          cases checked : checkLimits configService objects.registry rawValue with
          | error error =>
              simp [created, resolved, checked, bind, Except.bind, Except.mapError] at started
          | ok answer =>
              simp only [created, resolved, checked, bind, Except.bind, Except.mapError, pure,
                Except.pure, Except.ok.injEq] at started
              subst started
              exact ⟨objects, rfl, resolved, checked⟩

theorem limitedDispatch_eq (limits : ∀ name ∈ config.providers,
      ∃ limit, getLimitConfig configService name = .ok limit) :
    limitedDispatch configService config id = SmsDispatcherService.dispatch config id := by
  refine (dispatch_traced id).implement (fun _ _ => trivial) ?_
  rintro stage op ⟨_, allowed⟩
  cases op with
  | throttle provider =>
      obtain ⟨limit, found⟩ := limits provider allowed
      simp only [limiting, ProviderRateLimiterService.throttle, found]
  | _ => rfl

theorem lastCall_called
    (found : ((dispatchTrace config).after {} steps).lastCall.isSome = true) :
    ∃ step ∈ steps, step.op.isSendSms = true := by
  obtain ⟨⟨provider, reply⟩, called⟩ := Option.isSome_iff_exists.mp found
  rcases after_lastCall called with ⟨absent, _⟩ | ⟨earlier, call, later, options, rfl, exchange, _⟩
  · simp at absent
  · refine ⟨call, by simp, ?_⟩
    have same : call.op = .sendSms provider options := congrArg Exchange.op exchange
    rw [same]
    rfl

theorem dispatch_configured (selects : config.providers ≠ [])
    (reaches : (SmsDispatcherService.dispatch config id).Reaches World.exec steps rest) :
    Configured steps rest := by
  obtain ⟨permits, follows⟩ := dispatch_permits reaches
  refine ⟨?_, ?_, ?_⟩
  · rintro error rfl
    rcases follows.2 error rfl with rfl | rejected
    · rfl
    · rcases after_rejected rejected with absent | ⟨step, _, _, failed⟩
      · simp at absent
      · have possible := World.exec_replies step.executed
        rw [failed] at possible
        rcases possible.2 with ⟨message, rfl⟩ | ⟨rfl, _⟩
        · rfl
        · rfl
  · rintro before claim after id rfl claimed
    obtain ⟨count, counted⟩ : ∃ count, ((dispatchTrace config).after {}
        (before ++ claim :: after)).claimed = some (count + after.length) :=
      claimed_since claimed
    by_cases calls :
        ((dispatchTrace config).after {} (before ++ claim :: after)).lastCall.isSome = true
    · exact Or.inl (lastCall_called calls)
    · refine Or.inr ?_
      cases rest with
      | settled result =>
          rcases follows.1 selects (by simp [counted]) with called | rejects
          · exact absurd called calls
          · obtain ⟨error, rejected⟩ := Option.isSome_iff_exists.mp rejects
            rcases after_rejected rejected with absent | ⟨step, member, infrastructure, failed⟩
            · simp at absent
            · exact Or.inl ⟨step, member, infrastructure, error, failed⟩
      | await op next =>
          have within := follows.1.1 (by simpa using calls) _ counted
          exact Or.inr ⟨rfl, by omega⟩
  · rintro before failure after id provider lastError failedAt rfl written
    rw [Protocol.permits_append] at permits
    have allowed := permits.2.1.2
    rw [written] at allowed
    obtain ⟨reply, called, told⟩ := allowed selects
    rcases after_lastCall called with
      ⟨absent, _⟩ | ⟨earlier, call, later, options, split, exchange, last⟩
    · simp at absent
    · exact ⟨earlier, call, later, options, reply, split, exchange, last, told⟩

/-- Once the service has started, `getProviders` is the priority list in provider objects, and no
dispatch meets an error that the startup was to exclude: with the limits found and the priority list
not empty, each claimed dispatch calls a provider and tells of a failure what its last call told. -/
theorem startup_excludes_configuration_errors {Provider : Type} {providerName : Provider → String}
    {rawValue : String} {providers ordered : List Provider}
    (started : startup configService providerName rawValue providers = .ok ordered)
    (config : Config) :
    ordered.map providerName = ProviderRegistryService.priorityNames rawValue ∧ ordered ≠ [] ∧
      (∀ provider ∈ ordered, provider ∈ providers) ∧
      ∀ id steps rest,
        (limitedDispatch configService
          { config with providers := ordered.map providerName } id).Reaches World.exec steps rest →
        Configured steps rest := by
  obtain ⟨objects, created, resolved, checked⟩ := startup_ok started
  obtain ⟨resolved, members⟩ := ProviderObjects.resolved_registry resolved
  obtain ⟨named, selects, _⟩ := ProviderRegistryService.resolved_names resolved
  rw [ProviderObjects.create_values created] at members
  have limits := checkLimits_ok checked
  rw [← named] at limits
  refine ⟨named, by simpa using selects, members, ?_⟩
  intro id steps rest reaches
  rw [limitedDispatch_eq limits] at reaches
  exact dispatch_configured selects reaches

theorem startup_excludes_configuration_errors_twilio :
    ["bird", "twilio"] ≠ ([] : List String) ∧ ∀ steps rest,
      (limitedDispatch (fun _ => .number 10) (.defaults ["bird", "twilio"]) 0).Reaches World.exec
        steps rest → Configured steps rest := by
  have started : startup (fun _ => .number 10) id " bird,, twilio" ["twilio", "bird"] =
      .ok ["bird", "twilio"] := rfl
  obtain ⟨_, selects, _, configured⟩ :=
    startup_excludes_configuration_errors started (.defaults ["bird", "twilio"])
  exact ⟨selects, configured 0⟩

end Started

end SmsNotification
