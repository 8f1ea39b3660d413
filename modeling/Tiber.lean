import Tiber.System.Acceptance
import Tiber.System.DispatchMoment
import Tiber.System.JobSafety
import Tiber.System.Recording
import Tiber.System.IntakeRuns
import Tiber.Library.Fence
import Tiber.System.IntakeCoverage
import Tiber.Domain.Postponement
import Tiber.Infrastructure.RecipientWrite
import Tiber.Library.UniqueIndex
import Tiber.System.AcceptRuns
import Tiber.System.AddressBook
import Tiber.System.Advisory
import Tiber.System.ContentSafety
import Tiber.System.Critical
import Tiber.System.FanOut
import Tiber.System.TopicConsent
import Tiber.Application.ApiKeys
import Tiber.Application.OutboxRelay
import Tiber.Library.Clocked
import Tiber.System.ApiKeyCaching
import Tiber.System.ApiKeyRevocation
import Tiber.System.Punctuality
import Tiber.System.RelayRuns
import Tiber.System.RelaySafety
import Tiber.System.RetryBudget
import Tiber.System.SingleDelivery
import Tiber.Application.Accounts
import Tiber.Infrastructure.AccountTable
import Tiber.System.AccountHistory
import Tiber.System.EmailActivation
import Tiber.System.PasswordProof
import Tiber.System.TokenEpoch
import Tiber.System.Verification
import Tiber.Application.AuthExpiry
import Tiber.Domain.Blackouts
import Tiber.Domain.Resumption
import Tiber.System.CodeGuesses
import Tiber.System.PolicyFacts
import Tiber.System.ResetTokens
import Tiber.System.SessionRevocation
import Tiber.System.TemplateEdits
import Tiber.System.Tenants
import Tiber.System.TenantAccept
import Tiber.System.TenantProcess
import Tiber.System.TenantDelivery
import Tiber.System.TenantIsolation
import Tiber.Infrastructure.IntakeCodec
import Tiber.System.IntakeReload
import Tiber.Library.Placeholders
import Tiber.System.Rendering
import Tiber.System.DecisionSpace
import Tiber.System.AskedOnly
import Tiber.Library.JsonTree
import Tiber.System.CacheDecoding
import Tiber.Application.RecipientResolution
import Tiber.System.Resolution
import Tiber.Infrastructure.UnitOfWork
import Tiber.System.UnitsOfWork
import Tiber.Domain.Slug
import Tiber.Infrastructure.TemplateRow
import Tiber.System.TemplateLife
import Tiber.Api.ContentModel
import Tiber.Api.Responses
import Tiber.System.ReadBack
import Tiber.Library.JsonText
import Tiber.Library.JsonRecord
import Tiber.Application.RequestFingerprint
import Tiber.System.RequestFingerprint
import Tiber.System.OutboxLedger
import Tiber.System.DeliveryLedger
import Tiber.System.Reading
import Tiber.Infrastructure.ResendEmail
import Tiber.Application.AccessTokens
import Tiber.System.Logout
import Tiber.System.ApiPromises
import Tiber.Api.Authorization
import Tiber.Library.Interference
import Tiber.Api.CreateRequest
import Tiber.System.Callers
