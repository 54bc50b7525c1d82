import TenantAuth.Access.Pipeline
import TenantAuth.Access.Policy
import TenantAuth.Access.Principal
import TenantAuth.Calendar.Moment
import TenantAuth.Codec.Base64
import TenantAuth.Credential.Account
import TenantAuth.Credential.Login
import TenantAuth.Credential.LoginRequest
import TenantAuth.Credential.Store
import TenantAuth.Crypto.Bcrypt
import TenantAuth.Crypto.Blowfish
import TenantAuth.Crypto.Blowfish.Initial
import TenantAuth.Crypto.Hmac
import TenantAuth.Crypto.Sha2
import TenantAuth.Datum.Basic
import TenantAuth.Datum.Column
import TenantAuth.Datum.Compare
import TenantAuth.Datum.Display
import TenantAuth.Datum.Json
import TenantAuth.Datum.Whole
import TenantAuth.Delegated.Plan
import TenantAuth.Delegated.Verifier
import TenantAuth.Fault
import TenantAuth.Http.Cors
import TenantAuth.Http.Message
import TenantAuth.Http.Router
import TenantAuth.Log
import TenantAuth.Numeric.Binary64
import TenantAuth.Numeric.Extended
import TenantAuth.Numeric.Shortest
import TenantAuth.Password
import TenantAuth.Portal.Server
import TenantAuth.Portal.Service
import TenantAuth.Proofs.Bookkeeping
import TenantAuth.Proofs.Lockout
import TenantAuth.Proofs.Contention
import TenantAuth.Proofs.StoreRuns
import TenantAuth.Proofs.TokenRoundTrip
import TenantAuth.Proofs.AccessStages
import TenantAuth.Proofs.UnlockEndpoint
import TenantAuth.Proofs.AccessDecision
import TenantAuth.Role
import TenantAuth.Schema.Issue
import TenantAuth.Schema.Lax
import TenantAuth.Session.Claims
import TenantAuth.Session.Jws
import TenantAuth.Session.Token
import TenantAuth.Settings
import TenantAuth.Tenant.Config
import TenantAuth.Tenant.Directory
import TenantAuth.Text.Blank
import TenantAuth.Text.Case
import TenantAuth.Text.Numeral
import TenantAuth.Text.Quote
import TenantAuth.Url
import TenantAuth.Yaml.Document
import TenantAuth.Yaml.Node
import TenantAuth.Yaml.Tag
import TenantAuth.Yaml.Token
import TenantAuth.Yaml.TokenStream
import TenantAuth.Yaml.TokenStream.Next
import TenantAuth.Yaml.TokenStream.Scalars
import TenantAuth.Proofs.JsonReading
import TenantAuth.Proofs.TokenSegments
import TenantAuth.Proofs.ClaimsSchema
import TenantAuth.Proofs.TokenSoundness
import TenantAuth.Proofs.AccountKeys
import TenantAuth.Proofs.LoginDecision
import TenantAuth.Proofs.LoginWrites
import TenantAuth.Proofs.HashAcceptance
import TenantAuth.Proofs.LoginResult
import TenantAuth.Proofs.TenantIsolation
import TenantAuth.Proofs.HashUpgrade
import TenantAuth.Proofs.TenantLookup
import TenantAuth.Proofs.TokenFaults
import TenantAuth.Proofs.DelegatedFold
import TenantAuth.Proofs.TenantDocuments
import TenantAuth.Proofs.TenantResolution
import TenantAuth.Proofs.TenantListing
