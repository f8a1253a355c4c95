import SmsNotification.Effects
import SmsNotification.Erasure
import SmsNotification.WebhookRequests

/-!
A process that serves webhook requests one by one. Whatever a request that fails its verification or
carries no callback does to the process, the client it may have the verifier build is the one that
any other request would have got.
-/

namespace SmsNotification

open Concurrency

inductive WebhookRequest
  | twilio (signature : Option String) (body : Js.Value)
  | bird (rawBody : Option Js.Buffer) (headers : Js.Record)

/-- A request with what `Date.now()` answers to its verification, and what the environment answers to
its handling; the logger always answers. -/
structure WebhookArrival where
  request : WebhookRequest
  now : Date
  surroundings : Surroundings
  logs : ∀ record entry, (surroundings record (.log entry)).isAnswered = true

inductive WebhookEvent
  | request (arrival : WebhookArrival)
  | claimExpires (webhookId : String)

structure WebhookServer (config : WebhookConfig) where
  world : World
  verifier : BirdSignatureVerifier config

def WebhookArrival.isRejected (config : WebhookConfig) (arrival : WebhookArrival) : Bool :=
  match arrival.request with
  | .twilio signature body =>
      !TwilioSignatureVerifier.verify config signature body ||
        (extractTwilioStatusCallback body).isNone
  | .bird rawBody headers =>
      match ((BirdSignatureVerifier.initial config).verify arrival.now rawBody headers).1 with
      | .failed _ => true
      | .ok _ event => (extractBirdDeliveryEvent config event).isNone

def WebhookEvent.isRejected (config : WebhookConfig) : WebhookEvent → Bool
  | request arrival => arrival.isRejected config
  | claimExpires _ => false

namespace WebhookServer

variable {config : WebhookConfig}

def serve (server : WebhookServer config) (arrival : WebhookArrival) :
    Option (WebhookServer config × Except Failure Unit) :=
  match arrival.request with
  | .twilio signature body =>
      ((TwilioWebhookService.handle config signature body).run World.exec arrival.surroundings
        server.world []).map fun ran => ({ server with world := ran.world }, ran.result)
  | .bird rawBody headers =>
      let (program, verifier) :=
        BirdWebhookService.handle server.verifier arrival.now rawBody headers
      (program.run World.exec arrival.surroundings server.world []).map fun ran =>
        ({ world := ran.world, verifier := verifier }, ran.result)

def step (server : WebhookServer config) :
    WebhookEvent → Option (WebhookServer config × Except Failure Unit)
  | .request arrival => server.serve arrival
  | .claimExpires webhookId => some ({ server with world := { server.world with
      claims := Function.update server.world.claims webhookId false } }, .ok ())

end WebhookServer

namespace BirdSignatureVerifier

variable {config : WebhookConfig}

theorem getUnwrapper_client (verifier : BirdSignatureVerifier config) :
    verifier.getUnwrapper.1 = config.clientFactory config.secret := by
  unfold getUnwrapper
  split
  next client cached => exact verifier.built client cached
  next => rfl

theorem verify_verdict (verifier other : BirdSignatureVerifier config) (now : Date)
    (rawBody : Option Js.Buffer) (headers : Js.Record) :
    (verifier.verify now rawBody headers).1 = (other.verify now rawBody headers).1 := by
  have same : verifier.getUnwrapper.1 = other.getUnwrapper.1 := by
    rw [getUnwrapper_client, getUnwrapper_client]
  unfold verify
  split
  · rfl
  split
  · rfl
  split
  next =>
    split
    · rfl
    · simp only [same]
      split <;> rfl
  next => rfl

end BirdSignatureVerifier

section Rejections

variable {config : WebhookConfig} {surroundings : Surroundings} {world : World}

theorem log_throw_yields {level : LogLevel} {event : String} {fields : List (String × LogValue)}
    {text : String} {error : Failure}
    (logs : ∀ record entry, (surroundings record (.log entry)).isAnswered = true) :
    (do DeliveryStatusService.log level event fields text
        throw error : Action Unit).Yields World.exec surroundings
      (fun _ following _ => following = world) world [] := by
  rw [Program.yields_bind]
  refine yields_call (.log _) (logs [] _) fun hint => ⟨_, rfl, ?_⟩
  simp

theorem TwilioWebhookService.handle_rejected {signature : Option String} {body : Js.Value}
    (logs : ∀ record entry, (surroundings record (.log entry)).isAnswered = true)
    (rejected : (!TwilioSignatureVerifier.verify config signature body ||
      (extractTwilioStatusCallback body).isNone) = true) :
    (TwilioWebhookService.handle config signature body).Yields World.exec surroundings
      (fun _ following _ => following = world) world [] := by
  unfold handle
  cases verified : TwilioSignatureVerifier.verify config signature body with
  | false => exact log_throw_yields logs
  | true =>
      cases extracted : extractTwilioStatusCallback body with
      | none => exact log_throw_yields logs
      | some callback => simp [verified, extracted] at rejected

theorem BirdWebhookService.handleVerification_failed {reason : BirdVerificationFailure}
    (logs : ∀ record entry, (surroundings record (.log entry)).isAnswered = true) :
    (BirdWebhookService.handleVerification config (.failed reason)).Yields World.exec surroundings
      (fun _ following _ => following = world) world [] :=
  log_throw_yields logs

theorem BirdWebhookService.handleVerification_unidentified {webhookId : String} {event : Js.Value}
    (logs : ∀ record entry, (surroundings record (.log entry)).isAnswered = true)
    (unidentified : extractBirdDeliveryEvent config event = none) :
    (BirdWebhookService.handleVerification config (.ok webhookId event)).Yields World.exec
      surroundings (fun _ following _ => following = world) world [] := by
  unfold handleVerification
  simp only [unidentified]
  exact log_throw_yields logs

end Rejections

namespace WebhookServer

variable {config : WebhookConfig}

theorem serve_rejected (server : WebhookServer config) {arrival : WebhookArrival}
    (rejected : arrival.isRejected config = true) :
    ∃ following answer, server.serve arrival = some (following, answer) ∧
      following.world = server.world := by
  unfold WebhookArrival.isRejected at rejected
  unfold serve
  cases asked : arrival.request with
  | twilio signature body =>
      simp only [asked] at rejected
      obtain ⟨ran, runs, unchanged⟩ : (TwilioWebhookService.handle config signature body).Yields
        World.exec arrival.surroundings (fun _ following _ => following = server.world)
        server.world [] := TwilioWebhookService.handle_rejected arrival.logs rejected
      exact ⟨_, _, by simp only [runs]; rfl, unchanged⟩
  | bird rawBody headers =>
      simp only [asked] at rejected
      simp only [BirdWebhookService.handle]
      rw [server.verifier.verify_verdict (.initial config)]
      obtain ⟨ran, runs, unchanged⟩ : (BirdWebhookService.handleVerification config
          ((BirdSignatureVerifier.initial config).verify arrival.now rawBody headers).1).Yields
          World.exec arrival.surroundings (fun _ following _ => following = server.world)
          server.world [] := by
        cases verdict : ((BirdSignatureVerifier.initial config).verify arrival.now rawBody
            headers).1 with
        | failed reason => exact BirdWebhookService.handleVerification_failed arrival.logs
        | ok webhookId event =>
            simp only [verdict, Option.isNone_iff_eq_none] at rejected
            exact BirdWebhookService.handleVerification_unidentified arrival.logs rejected
      exact ⟨_, _, by simp only [runs]; rfl, unchanged⟩

theorem serve_world {first second : WebhookServer config} (same : first.world = second.world)
    (arrival : WebhookArrival) :
    (first.serve arrival).map (Prod.map world id) =
      (second.serve arrival).map (Prod.map world id) := by
  unfold serve
  cases arrival.request with
  | twilio signature body =>
      simp only [same, Option.map_map]
      rfl
  | bird rawBody headers =>
      simp only [BirdWebhookService.handle, same, Option.map_map]
      rw [first.verifier.verify_verdict second.verifier]
      rfl

theorem step_erases (config : WebhookConfig) :
    Erasure.Erases (@step config) world (WebhookEvent.isRejected config) where
  silent {event} server rejected := by
    cases event with
    | request arrival => exact server.serve_rejected rejected
    | claimExpires webhookId => simp [WebhookEvent.isRejected] at rejected
  respects {event first second} _ same := by
    cases event with
    | request arrival => exact serve_world same arrival
    | claimExpires webhookId => simp [step, same]

/-- Requests that are rejected may be left out: the world, with its rows and claims, ends the same,
and so do the answers to all other requests. -/
theorem unauthenticated_erasable (server : WebhookServer config) (events : List WebhookEvent) :
    (Erasure.run step server events).map
        (Erasure.seen world (WebhookEvent.isRejected config)) =
      (Erasure.run step server
        (events.filter fun event => !event.isRejected config)).map (Prod.map world id) :=
  (step_erases config).run_filter events rfl

end WebhookServer

end SmsNotification
