import Accounts.Access.Authority
import Accounts.Access.Permission
import Accounts.Api.Endpoint
import Accounts.Api.Handler
import Accounts.Api.Server
import Accounts.Base64
import Accounts.Decimal.Binary64
import Accounts.Decimal.Shortest
import Accounts.Digest.Hmac
import Accounts.Digest.Sha2
import Accounts.Digest.Sha3
import Accounts.Email
import Accounts.Entity.Kinds
import Accounts.Entity.Records
import Accounts.Error
import Accounts.Http.Cors
import Accounts.Http.Message
import Accounts.Http.Query
import Accounts.Http.Url
import Accounts.IpAddress
import Accounts.Json.Basic
import Accounts.Json.Encoding
import Accounts.Json.Parser
import Accounts.Json.Printer
import Accounts.Launch
import Accounts.Main
import Accounts.Password
import Accounts.Pattern.Basic
import Accounts.Pattern.Parser
import Accounts.Payload.Catalogue
import Accounts.Payload.Checked
import Accounts.Payload.Forms
import Accounts.Payload.Scalar
import Accounts.Pool.Machine
import Accounts.Profile
import Accounts.Proofs.Access
import Accounts.Proofs.Access.Monotone
import Accounts.Proofs.Api.Anonymous
import Accounts.Proofs.Api.Bearer
import Accounts.Proofs.Api.Body
import Accounts.Proofs.Api.Calls
import Accounts.Proofs.Api.Commit
import Accounts.Proofs.Api.Isolation
import Accounts.Proofs.Api.Path
import Accounts.Proofs.Api.Privilege
import Accounts.Proofs.Api.Routing
import Accounts.Proofs.Api.Sessions
import Accounts.Proofs.Api.Unknown
import Accounts.Proofs.Api.Update
import Accounts.Proofs.Base64
import Accounts.Proofs.Base64.Reading
import Accounts.Proofs.Checks
import Accounts.Proofs.Credentials.Attachment
import Accounts.Proofs.Credentials.Ledger
import Accounts.Proofs.Credentials.Revocation
import Accounts.Proofs.Credentials.Tokens
import Accounts.Proofs.Email
import Accounts.Proofs.Enrollment
import Accounts.Proofs.Failure
import Accounts.Proofs.History
import Accounts.Proofs.Json
import Accounts.Proofs.Json.Depth
import Accounts.Proofs.Op
import Accounts.Proofs.Paging
import Accounts.Proofs.Password
import Accounts.Proofs.Password.Format
import Accounts.Proofs.Pattern
import Accounts.Proofs.Payload
import Accounts.Proofs.Payload.Changes
import Accounts.Proofs.Pool.Discipline
import Accounts.Proofs.Pool.Moves
import Accounts.Proofs.Profile.Fetching
import Accounts.Proofs.Profile.Merging
import Accounts.Proofs.Profile.ReadBack
import Accounts.Proofs.Profile.Regular
import Accounts.Proofs.Reconciliation
import Accounts.Proofs.Reconciliation.Account
import Accounts.Proofs.Reconciliation.Received
import Accounts.Proofs.RoleCache.Bookkeeping
import Accounts.Proofs.RoleCache.Coherence
import Accounts.Proofs.RoleCache.Freshness
import Accounts.Proofs.RoleCache.Services
import Accounts.Proofs.RoleCache.Shortage
import Accounts.Proofs.RoleCache.Sweeping
import Accounts.Proofs.RoleCache.Traffic
import Accounts.Proofs.RoleCache.Transparency
import Accounts.Proofs.Route.Grammar
import Accounts.Proofs.Route.Precedence
import Accounts.Proofs.Route.Rules
import Accounts.Proofs.Route.Shape
import Accounts.Proofs.Rows
import Accounts.Proofs.SagaIds
import Accounts.Proofs.Run
import Accounts.Proofs.Service.Basic
import Accounts.Proofs.Service.Credentials
import Accounts.Proofs.Service.RoleChange
import Accounts.Proofs.Service.Roles
import Accounts.Proofs.Service.SignIn
import Accounts.Proofs.Service.Users
import Accounts.Proofs.SessionToken
import Accounts.Proofs.SessionToken.Refusal
import Accounts.Proofs.SessionToken.Signed
import Accounts.Proofs.Store.Commit
import Accounts.Proofs.Store.Sound
import Accounts.Proofs.Table
import Accounts.Proofs.Text.Normal
import Accounts.Proofs.Text.Numeral
import Accounts.Proofs.Text.Split
import Accounts.Proofs.Timestamp.Calendar
import Accounts.Proofs.Timestamp.Reading
import Accounts.Proofs.Timestamp.Text
import Accounts.Proofs.TwoRuns
import Accounts.Proofs.World
import Accounts.Report
import Accounts.RoleCache.Basic
import Accounts.RoleCache.Machine
import Accounts.Route.Rules
import Accounts.Route.Table
import Accounts.Service.Credentials
import Accounts.Service.Roles
import Accounts.Service.SignIn
import Accounts.Service.Users
import Accounts.Session
import Accounts.SessionToken.Codec
import Accounts.SessionToken.Key
import Accounts.Settings
import Accounts.Store
import Accounts.Table
import Accounts.Text.Blank
import Accounts.Text.Case
import Accounts.Text.CaseVariant
import Accounts.Text.Category
import Accounts.Text.CharName
import Accounts.Text.Digit
import Accounts.Text.IntegerText
import Accounts.Text.Normal
import Accounts.Text.Quoted
import Accounts.Text.Table
import Accounts.Text.Utf8
import Accounts.Timestamp.Basic
import Accounts.Timestamp.Reader
import Accounts.World
