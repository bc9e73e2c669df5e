import Accounts.Account.Fault
import Accounts.Account.Request
import Accounts.Account.Work
import Accounts.Base64
import Accounts.Decimal.Natural
import Accounts.Decimal.Reading
import Accounts.Decimal.Shortest
import Accounts.Digest.Argon2
import Accounts.Digest.Blake2b
import Accounts.Digest.Hmac
import Accounts.Digest.Sha2
import Accounts.Email.Address
import Accounts.Email.Domain
import Accounts.Gate.Authenticate
import Accounts.Gate.Bearer
import Accounts.Gate.Roles
import Accounts.Hostname.Direction
import Accounts.Hostname.International
import Accounts.Hostname.Joiner
import Accounts.Hostname.Punycode
import Accounts.Hostname.Respelling
import Accounts.Hostname.RespellingTable
import Accounts.Http.Body
import Accounts.Http.Endpoint
import Accounts.Http.Headers
import Accounts.Http.MediaType
import Accounts.Http.Request
import Accounts.Http.Response
import Accounts.Http.Serve
import Accounts.Json.Fault
import Accounts.Json.Node
import Accounts.Json.Numeral
import Accounts.Json.Reading
import Accounts.Json.Token
import Accounts.Json.Value
import Accounts.Log.Filter
import Accounts.Log.Format
import Accounts.Log.Start
import Accounts.Metrics.Counter
import Accounts.Metrics.Histogram
import Accounts.Metrics.Page
import Accounts.Metrics.Path
import Accounts.Net.Address
import Accounts.Net.Url
import Accounts.Password.Fault
import Accounts.Password.HashText
import Accounts.Password.Scheme
import Accounts.Proofs.Account.Comparison
import Accounts.Proofs.Account.Integrity
import Accounts.Proofs.Account.Login
import Accounts.Proofs.Account.Privilege
import Accounts.Proofs.Account.Work
import Accounts.Proofs.Base64
import Accounts.Proofs.Decimal
import Accounts.Proofs.Gate.Agreement
import Accounts.Proofs.Gate.Bearer
import Accounts.Proofs.Gate.Guards
import Accounts.Proofs.Http.Effect
import Accounts.Proofs.Http.Logout
import Accounts.Proofs.Http.Protection
import Accounts.Proofs.Http.Segments
import Accounts.Proofs.Json.Record
import Accounts.Proofs.Json.Scanning
import Accounts.Proofs.Json.Tokens
import Accounts.Proofs.Json.Tree
import Accounts.Proofs.Lookup
import Accounts.Proofs.Metrics.Conservation
import Accounts.Proofs.Metrics.Labels
import Accounts.Proofs.Metrics.Projection
import Accounts.Proofs.Metrics.Refusals
import Accounts.Proofs.Metrics.Trace
import Accounts.Proofs.Outcome
import Accounts.Proofs.Revocation.Finality
import Accounts.Proofs.Revocation.History
import Accounts.Proofs.Revocation.Insertion
import Accounts.Proofs.Revocation.Interleaving
import Accounts.Proofs.Revocation.Logout
import Accounts.Proofs.Revocation.Redis
import Accounts.Proofs.Revocation.Replies
import Accounts.Proofs.Revocation.Run
import Accounts.Proofs.Revocation.Totality
import Accounts.Proofs.Service.Calls
import Accounts.Proofs.Service.Comparison
import Accounts.Proofs.Service.DriverTexts
import Accounts.Proofs.Service.Failure
import Accounts.Proofs.Service.Hashes
import Accounts.Proofs.Service.LookUp
import Accounts.Proofs.Settings.Known
import Accounts.Proofs.Settings.Layers
import Accounts.Proofs.Settings.Spelling
import Accounts.Proofs.Settings.Tree
import Accounts.Proofs.Settings.Variable
import Accounts.Proofs.Settings.Verbatim
import Accounts.Proofs.Text.Blank
import Accounts.Proofs.Text.Pieces
import Accounts.Proofs.Text.Utf8
import Accounts.Proofs.Time.Calendar
import Accounts.Proofs.Time.Reading
import Accounts.Proofs.Token.Claims
import Accounts.Proofs.Token.Expiry
import Accounts.Proofs.Token.Header
import Accounts.Proofs.Token.Payload
import Accounts.Proofs.Token.RoundTrip
import Accounts.Proofs.Token.Segments
import Accounts.Proofs.Token.Signature
import Accounts.Proofs.Token.Soundness
import Accounts.Proofs.Token.Unsigned
import Accounts.Proofs.Toml.Names
import Accounts.Proofs.User
import Accounts.Proofs.Users.Absence
import Accounts.Proofs.Users.Creation
import Accounts.Proofs.Users.Enumeration
import Accounts.Proofs.Users.Integrity
import Accounts.Proofs.Users.Mutations
import Accounts.Proofs.Users.Table
import Accounts.Proofs.Uuid
import Accounts.Proofs.Uuid.Spelling
import Accounts.Revocation.Fault
import Accounts.Revocation.Redis
import Accounts.Revocation.Store
import Accounts.Revocation.Table
import Accounts.Role
import Accounts.Rpc.Calls
import Accounts.Rpc.Status
import Accounts.Rpc.Validation
import Accounts.Rpc.Wire
import Accounts.Service.Basic
import Accounts.Service.Health
import Accounts.Settings.Basic
import Accounts.Settings.EnvFile
import Accounts.Settings.Environment
import Accounts.Settings.KeyPath
import Accounts.Settings.Load
import Accounts.Settings.Reading
import Accounts.Settings.Tree
import Accounts.Text.Alphanumeric
import Accounts.Text.Blank
import Accounts.Text.CombiningClass
import Accounts.Text.Composites
import Accounts.Text.Composition
import Accounts.Text.Digit
import Accounts.Text.Lowercase
import Accounts.Text.Mark
import Accounts.Text.Pieces
import Accounts.Text.Quoted
import Accounts.Text.Ranges
import Accounts.Text.Utf8
import Accounts.Time.Calendar
import Accounts.Time.Reading
import Accounts.Time.Timestamp
import Accounts.Token.Algorithm
import Accounts.Token.Claims
import Accounts.Token.Decode
import Accounts.Token.Header
import Accounts.Token.Issue
import Accounts.Token.KeyMaterial
import Accounts.Token.Outcome
import Accounts.Token.Revoke
import Accounts.Token.Verify
import Accounts.Toml.Document
import Accounts.Toml.Scalar
import Accounts.Toml.Table
import Accounts.Toml.Text
import Accounts.Toml.Value
import Accounts.User
import Accounts.Users.Database
import Accounts.Users.Fault
import Accounts.Users.Store
import Accounts.Users.Table
import Accounts.Uuid
