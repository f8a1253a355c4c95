import SmsNotification.LimitedService
import SmsNotification.ProvidedService

/-!
The service as it is deployed: a dispatch waits for the rate limiter and then for its provider. A run
of it is at once a run of the service with its limiter and one of the service with its providers, and
the vendors are called no more often than the limits of their providers allow. As in the limiter, an
iteration of `throttle` reads the clock and counts at one instant.
-/

namespace SmsNotification

open Concurrency

structure DeployedService where
  limited : LimitedService
  strategies : Strategies
  callers : List Nat
  received : List Nat

namespace DeployedService

def initial (start : Nat) : DeployedService where
  limited := .initial start
  strategies := ProvidedService.initial.strategies
  callers := []
  received := []

def provided (deployed : DeployedService) : ProvidedService where
  service := deployed.limited.service
  strategies := deployed.strategies
  callers := deployed.callers
  received := deployed.received

def adopt (deployed : DeployedService) (provided : ProvidedService) : DeployedService where
  limited := { deployed.limited with service := provided.service }
  strategies := provided.strategies
  callers := provided.callers
  received := provided.received

inductive Event
  | limited (event : LimitedService.Event)
  | provided (event : ProvidedService.Event)

def answersSend (service : Service) : LimitedService.Event → Bool
  | .inner event => ProvidedService.answersSend service event
  | _ => false

def isInner : ProvidedService.Event → Bool
  | .inner _ => true
  | _ => false

def step (settings : ProviderSettings) (configService : ConfigService) (config : Config)
    (deployed : DeployedService) : Event → Option DeployedService
  | .limited event => do
      -- a call of a provider is answered by the provider
      if answersSend deployed.limited.service event then none
      else
        let limited ← deployed.limited.step configService config event
        some { deployed with limited := limited }
  | .provided event => do
      -- what the service does on its own is an event of the limited service
      if isInner event then none
      else
        let provided ← deployed.provided.step settings config event
        some (deployed.adopt provided)

variable {settings : ProviderSettings} {configService : ConfigService} {config : Config}
  {deployed following : DeployedService}

theorem limiter_answers {limited limited' : LimitedService} {event : LimitedService.Event}
    {start : Nat} (sound : LimitedService.Sound configService start limited)
    (own : ∀ inner, event ≠ .inner inner)
    (stepped : limited.step configService config event = some limited') :
    limited'.service = limited.service ∨
      ∃ pid choice providerName, limited.service.awaits pid = some (.throttle providerName) ∧
        limited.service.step config (.resume pid choice) = some limited'.service := by
  cases event with
  | inner event => exact absurd rfl (own event)
  | throttle pid =>
      simp only [LimitedService.step] at stepped
      split at stepped
      · split at stepped
        · cases stepped
        · split at stepped
          · cases stepped
          · obtain ⟨limiting, _, same⟩ := Option.bind_eq_some_iff.mp stepped
            cases same
            exact Or.inl rfl
      · cases stepped
  | iterate index reply =>
      obtain ⟨limiting, _, same⟩ := Option.bind_eq_some_iff.mp stepped
      cases same
      exact Or.inl rfl
  | tick milliseconds =>
      cases stepped
      exact Or.inl rfl
  | receive index message =>
      obtain ⟨pid, called, stepped⟩ := Option.bind_eq_some_iff.mp stepped
      obtain ⟨throttle, found, stepped⟩ := Option.bind_eq_some_iff.mp stepped
      obtain ⟨choice, _, stepped⟩ := Option.bind_eq_some_iff.mp stepped
      split at stepped
      · cases stepped
      · rename_i fresh
        obtain ⟨service, moved, same⟩ := Option.bind_eq_some_iff.mp stepped
        cases same
        obtain ⟨op, asked, waits⟩ := sound.linked.waits index pid called (by simpa using fresh)
        obtain ⟨throttle, _, rfl⟩ := Option.map_eq_some_iff.mp asked
        exact Or.inr ⟨pid, choice, throttle.providerName, waits, moved⟩

theorem provider_answers {provided provided' : ProvidedService} {event : ProvidedService.Event}
    (provides : ProvidedService.Provided provided) (own : isInner event = false)
    (stepped : provided.step settings config event = some provided') :
    provided'.service = provided.service ∨
      ∃ pid choice providerName options,
        provided.service.awaits pid = some (.sendSms providerName options) ∧
        provided.service.step config (.resume pid choice) = some provided'.service := by
  cases event with
  | inner event => cases own
  | sendSms pid =>
      simp only [ProvidedService.step] at stepped
      split at stepped
      · split at stepped
        · cases stepped
        · obtain ⟨provider, _, same⟩ := Option.bind_eq_some_iff.mp stepped
          cases same
          exact Or.inl rfl
      · cases stepped
  | exchange index choice =>
      obtain ⟨strategies, _, same⟩ := Option.bind_eq_some_iff.mp stepped
      cases same
      exact Or.inl rfl
  | receive index =>
      obtain ⟨pid, called, stepped⟩ := Option.bind_eq_some_iff.mp stepped
      obtain ⟨process, found, stepped⟩ := Option.bind_eq_some_iff.mp stepped
      obtain ⟨result, _, stepped⟩ := Option.bind_eq_some_iff.mp stepped
      split at stepped
      · cases stepped
      · rename_i fresh
        obtain ⟨service, moved, same⟩ := Option.bind_eq_some_iff.mp stepped
        cases same
        obtain ⟨op, asked, waits⟩ := provides.linked.waits index pid called (by simpa using fresh)
        obtain ⟨call, _, rfl⟩ := Option.map_eq_some_iff.mp asked
        exact Or.inr ⟨pid, _, call.provider.value, call.options, waits, moved⟩

/-- The limiter and the providers do not see each other: what one of them does is for the other a
step of the service on its own, or nothing. -/
theorem refines_components {start : Nat}
    (reaches : Reaches (step settings configService config) (fun _ _ => True) (initial start)
      deployed) :
    Reaches (LimitedService.step configService config) (fun _ _ => True) (.initial start)
        deployed.limited ∧
      Reaches (ProvidedService.step settings config) (fun _ _ => True) .initial
        deployed.provided := by
  induction reaches with
  | refl => exact ⟨.refl, .refl⟩
  | @step deployed following event earlier _ stepped ih =>
      obtain ⟨limitedRun, providedRun⟩ := ih
      cases event with
      | limited event =>
          simp only [step] at stepped
          split at stepped
          · cases stepped
          · rename_i unanswered
            obtain ⟨limited, moved, same⟩ := Option.bind_eq_some_iff.mp stepped
            cases same
            refine ⟨.step limitedRun trivial moved, ?_⟩
            have byService : ∀ inner,
                ProvidedService.answersSend deployed.limited.service inner = false →
                deployed.limited.service.step config inner = some limited.service →
                Reaches (ProvidedService.step settings config) (fun _ _ => True) .initial
                  (provided { deployed with limited := limited }) := by
              intro inner other inside
              have onward : deployed.provided.step settings config (.inner inner) =
                  some (provided { deployed with limited := limited }) := by
                simp only [ProvidedService.step, provided, other, inside, Option.bind_eq_bind,
                  Bool.false_eq_true, if_false, Option.bind_some]
              exact .step providedRun trivial onward
            cases event with
            | inner inner =>
                simp only [LimitedService.step] at moved
                split at moved
                · cases moved
                · obtain ⟨service, inside, same⟩ := Option.bind_eq_some_iff.mp moved
                  cases same
                  exact byService inner (by simpa [answersSend] using unanswered) inside
            | _ =>
                rcases limiter_answers (LimitedService.sound_reached limitedRun) (by simp)
                    moved with same | ⟨pid, choice, _, awaits, inside⟩
                · have unchanged : provided { deployed with limited := limited } =
                      deployed.provided := by
                    simp only [provided, same]
                  rw [unchanged]
                  exact providedRun
                · apply byService (.resume pid choice) _ inside
                  simp [ProvidedService.answersSend, awaits, Op.isSendSms]
      | provided event =>
          simp only [step] at stepped
          split at stepped
          · cases stepped
          · rename_i own
            obtain ⟨provided', moved, same⟩ := Option.bind_eq_some_iff.mp stepped
            cases same
            refine ⟨?_, .step providedRun trivial moved⟩
            rcases provider_answers (ProvidedService.provided_reached providedRun)
                (by simpa using own) moved with same | ⟨pid, choice, _, _, awaits, inside⟩
            · have unchanged : (deployed.adopt provided').limited = deployed.limited := by
                simp only [adopt, same, provided]
              rw [unchanged]
              exact limitedRun
            · have awaits : deployed.limited.service.awaits pid = _ := awaits
              have inside : deployed.limited.service.step config (.resume pid choice) = _ := inside
              have onward : deployed.limited.step configService config
                  (.inner (.resume pid choice)) = some (deployed.adopt provided').limited := by
                simp only [LimitedService.step, LimitedService.answersThrottle, awaits,
                  Op.isThrottle, Option.any_some, inside, adopt, Bool.false_eq_true, if_false,
                  Option.bind_eq_bind, Option.bind_some]
              exact .step limitedRun trivial onward

/-- In every run of the deployed service, any number of dispatches and any passage of time
between the iterations of `throttle`, a vendor is handed no more messages than the limit of its
provider allows for as many windows as have begun since the start. -/
theorem vendor_calls_within_limits {start : Nat} {provider : SmsProviderName}
    {limit : ProviderRateLimitConfig}
    (reaches : Reaches (step settings configService config) (fun _ _ => True) (initial start)
      deployed)
    (accepted : getLimitConfig configService provider.value = .ok limit) :
    deployed.strategies.history.countP (fun entry => entry.op.vendor = some provider) ≤
      (deployed.limited.limiting.now / limit.durationMs + 1 - start / limit.durationMs) *
        limit.max := by
  obtain ⟨limitedRun, providedRun⟩ := refines_components reaches
  have vendor := ProvidedService.vendor_calls_le providedRun provider
  have balance := Discipline.obligations_balance
    (Service.turns_reached (LimitedService.refines_service limitedRun))
    (.permitted provider.value)
  have permitted := LimitedService.permissions_within_limits limitedRun accepted
  calc deployed.strategies.history.countP (fun entry => entry.op.vendor = some provider)
      ≤ _ := vendor
    _ = _ := balance.symm
    _ ≤ _ := permitted

/-- Twilio is handed one message in the first window. -/
theorem vendor_called_once : ∃ (deployed : DeployedService) (limit : ProviderRateLimitConfig),
    getLimitConfig RateLimiting.oncePerSecond "twilio" = .ok limit ∧
    deployed.strategies.history.countP (fun entry => entry.op.vendor = some .twilio) = 1 ∧
    1 ≤ (deployed.limited.limiting.now / limit.durationMs + 1 - 1500 / limit.durationMs) *
      limit.max := by
  have accepted : getLimitConfig RateLimiting.oncePerSecond "twilio" =
      .ok { max := 1, durationMs := 1000, max_pos := le_rfl, durationMs_pos := by decide } :=
    rfl
  let accepts : List Service.Event :=
    (.sends "key" :: Service.Event.answers 0 6) ++ .execute 0 :: Service.Event.answers 1 3
  let turn : List LimitedService.Event :=
    accepts.map .inner ++ [.throttle 1, .iterate 0 .answered, .receive 0 none]
  let calls : List ProvidedService.Event :=
    [.sendSms 1, .exchange 0 (.answered ""), .exchange 0 (.answered ""),
      .exchange 0 (.answered ""), .exchange 0 (.answered "SM1"), .receive 0]
  obtain ⟨deployed, reaches, found⟩ := execute_exists
    (step .configured RateLimiting.oncePerSecond (.defaults ["twilio"])) (fun _ _ => True)
    (initial 1500) (turn.map .limited ++ calls.map .provided)
    (fun deployed => deployed.strategies.history.countP
      (fun entry => entry.op.vendor = some .twilio) == 1)
    (by decide)
  have once : deployed.strategies.history.countP
      (fun entry => entry.op.vendor = some .twilio) = 1 := by simpa using found
  have within := @vendor_calls_within_limits _ _ _ _ _ .twilio _ reaches accepted
  rw [once] at within
  exact ⟨deployed, _, accepted, once, within⟩

end DeployedService

end SmsNotification
