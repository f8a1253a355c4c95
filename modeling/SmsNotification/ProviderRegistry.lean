import Mathlib.Data.List.Nodup
import SmsNotification.Js

/-!
`ProviderRegistryService`: the registered providers under their names, and the ones that
`SMS_PROVIDER_PRIORITY` selects, in its order.
-/

namespace SmsNotification

inductive RegistryError
  | duplicateProvider (provider : String)
  | providerPriorityEmpty
  | unknownProvider (provider : String)
  | providerNotRegistered (provider : String)
  deriving DecidableEq, Repr

def RegistryError.message : RegistryError → String
  | duplicateProvider _ => "More than one SMS provider is registered under the same name."
  | providerPriorityEmpty => "SMS_PROVIDER_PRIORITY must contain at least one provider."
  | unknownProvider _ => "Unknown SMS provider."
  | providerNotRegistered _ => "SMS provider is not registered."

/-- The keys of the map `providers`; the constructor refuses a name that is taken. -/
structure ProviderRegistryService where
  providers : List String
  unique : providers.Nodup

namespace ProviderRegistryService

/-- One round of the constructor's loop. -/
def register (registry : ProviderRegistryService) (provider : String) :
    Except RegistryError ProviderRegistryService :=
  if taken : provider ∈ registry.providers then .error (.duplicateProvider provider)
  else .ok {
    providers := registry.providers ++ [provider]
    unique := by
      rw [List.nodup_append_comm]
      exact List.nodup_cons.mpr ⟨taken, registry.unique⟩ }

def create (providers : List String) : Except RegistryError ProviderRegistryService :=
  providers.foldlM register ⟨[], List.nodup_nil⟩

/-- The names in `SMS_PROVIDER_PRIORITY`, before they are checked. -/
def priorityNames (rawValue : String) : List String :=
  ((Js.split rawValue ',').map Js.trim).filter fun providerName => Js.utf16Length providerName > 0

def getConfiguredProviderNames (registry : ProviderRegistryService) (rawValue : String) :
    Except RegistryError (List String) :=
  let providerNames := priorityNames rawValue
  if providerNames.length = 0 then .error .providerPriorityEmpty
  else
    match providerNames.find? fun providerName => !registry.providers.contains providerName with
    | some unknownProviderName => .error (.unknownProvider unknownProviderName)
    | none => .ok providerNames

def getProvider (registry : ProviderRegistryService) (providerName : String) :
    Except RegistryError String :=
  if registry.providers.contains providerName then .ok providerName
  else .error (.providerNotRegistered providerName)

/-- `onModuleInit`: what `getProviders` returns from then on. -/
def resolveConfiguredProviders (registry : ProviderRegistryService) (rawValue : String) :
    Except RegistryError (List String) := do
  let providerNames ← registry.getConfiguredProviderNames rawValue
  providerNames.mapM registry.getProvider

variable {registry : ProviderRegistryService} {rawValue : String} {names : List String}

theorem configured_names (configured : registry.getConfiguredProviderNames rawValue = .ok names) :
    names = priorityNames rawValue := by
  simp only [getConfiguredProviderNames] at configured
  split at configured
  · simp at configured
  · split at configured
    · simp at configured
    · simp only [Except.ok.injEq] at configured
      exact configured.symm

theorem mapM_getProvider (known : ∀ name ∈ names, registry.providers.contains name = true) :
    names.mapM registry.getProvider = .ok names := by
  induction names with
  | nil => rfl
  | cons name names ih =>
      have first : registry.getProvider name = .ok name := by
        rw [getProvider, if_pos (known name List.mem_cons_self)]
      have rest := ih fun other member => known other (List.mem_cons_of_mem name member)
      rw [List.mapM_cons, first, rest]
      rfl

theorem resolved_names (resolved : registry.resolveConfiguredProviders rawValue = .ok names) :
    names = priorityNames rawValue ∧ names ≠ [] ∧ ∀ name ∈ names, name ∈ registry.providers := by
  unfold resolveConfiguredProviders getConfiguredProviderNames at resolved
  by_cases empty : (priorityNames rawValue).length = 0
  · simp [empty, bind, Except.bind] at resolved
  · cases unknown : (priorityNames rawValue).find? fun name => !registry.providers.contains name with
    | some name => simp only [empty, unknown, if_false, bind, Except.bind, reduceCtorEq] at resolved
    | none =>
        have known : ∀ name ∈ priorityNames rawValue, registry.providers.contains name = true := by
          simpa using List.find?_eq_none.mp unknown
        simp only [empty, unknown, if_false, bind, Except.bind, mapM_getProvider known,
          Except.ok.injEq] at resolved
        subst resolved
        exact ⟨rfl, by simpa using empty, fun name member => by simpa using known name member⟩

example : (do
    let registry ← create ["twilio", "bird"]
    registry.resolveConfiguredProviders " bird,, twilio") = .ok ["bird", "twilio"] := by
  rfl

end ProviderRegistryService

end SmsNotification
