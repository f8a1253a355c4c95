import SmsNotification.Stage
import SmsNotification.Conformance
import SmsNotification.Effects
import SmsNotification.Moves
import SmsNotification.RowConsistency
import SmsNotification.DeliveredFinal
import SmsNotification.SendEpochs
import SmsNotification.IdempotentCreation
import SmsNotification.AcceptedRequests
import SmsNotification.BirdClaims
import SmsNotification.CallbackOutcome
import SmsNotification.SendRace
import SmsNotification.Stranding
import SmsNotification.AtMostOnce
import SmsNotification.RequeueBudget
import SmsNotification.Concurrency.Run
import SmsNotification.Failover
import SmsNotification.Concurrency.Budget
import SmsNotification.DispatchPolicy
import SmsNotification.ProviderRegistry
import SmsNotification.ProviderBounds
import SmsNotification.AttemptsCount
import SmsNotification.CallbackTarget
import SmsNotification.PublishFailure
import SmsNotification.JobRetries
import SmsNotification.FixedWindow
import SmsNotification.RateLimitSafety
import SmsNotification.Replay
import SmsNotification.BirdRedelivery
import SmsNotification.WebhookRequests
import SmsNotification.Erasure
import SmsNotification.WebhookErasure
import SmsNotification.DiagnosticCodes
import SmsNotification.PhoneMasking
import SmsNotification.StatusVocabulary
import SmsNotification.ProviderErrors
import SmsNotification.Concurrency.Interleaving
import SmsNotification.WebhookRollback
import SmsNotification.Concurrency.Coupling
import SmsNotification.CallbackPrivacy
import SmsNotification.ClaimOwnership
import SmsNotification.RequeueRestore
import SmsNotification.DispatchTrace
import SmsNotification.RetryPause
import SmsNotification.Startup
import SmsNotification.Numerals
import SmsNotification.RedisKeys
import SmsNotification.BirdTimestamp
import SmsNotification.RateLimitWaits
import SmsNotification.Concurrency.Discipline
import SmsNotification.CriticalSection
import SmsNotification.LockLeases
import SmsNotification.RequestData
import SmsNotification.Concurrency.Balance
import SmsNotification.Publications
import SmsNotification.LimitedService
import SmsNotification.Concurrency.Recording
import SmsNotification.ErrorCatalog
import SmsNotification.Responses
import SmsNotification.WaitFreedom
import SmsNotification.ExternalIds
import SmsNotification.Concurrency.Delegation
import SmsNotification.Strategies
import SmsNotification.ProvidedService
import SmsNotification.DeployedService
import SmsNotification.Admission
import SmsNotification.References
import SmsNotification.Template
import SmsNotification.Queues
import SmsNotification.Tracking
import SmsNotification.Concurrency.Likeness
import SmsNotification.RequestPrivacy
import SmsNotification.Recovery
