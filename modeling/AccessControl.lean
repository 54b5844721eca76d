import AccessControl.Account
import AccessControl.Accounts
import AccessControl.Accounts.Client
import AccessControl.Accounts.Register
import AccessControl.Accounts.Store
import AccessControl.Api
import AccessControl.Api.Body
import AccessControl.Api.MediaType
import AccessControl.Api.Operation
import AccessControl.Api.Request
import AccessControl.Api.Response
import AccessControl.Assoc
import AccessControl.Authentication
import AccessControl.Cancellation
import AccessControl.Condition
import AccessControl.Condition.Evaluate
import AccessControl.Decision
import AccessControl.Digest.Sha256
import AccessControl.Digest.Signature
import AccessControl.Double
import AccessControl.Double.Scaled
import AccessControl.Double.Shortest
import AccessControl.Enforcement
import AccessControl.Failure
import AccessControl.Gate
import AccessControl.Group
import AccessControl.Http
import AccessControl.Http.Status
import AccessControl.Http.Url
import AccessControl.InfoPoint
import AccessControl.Json
import AccessControl.Json.Decoder
import AccessControl.Json.Document
import AccessControl.Json.Token
import AccessControl.Launch
import AccessControl.Matcher
import AccessControl.Notices
import AccessControl.Policy
import AccessControl.Program
import AccessControl.Proofs.Accounts.History
import AccessControl.Proofs.Accounts.Register
import AccessControl.Proofs.Api.Course
import AccessControl.Proofs.Api.Mediation
import AccessControl.Proofs.Api.Records
import AccessControl.Proofs.Authority
import AccessControl.Proofs.Authority.Description
import AccessControl.Proofs.Authority.Overlooked
import AccessControl.Proofs.Authority.Told
import AccessControl.Proofs.Concurrent.Concourse
import AccessControl.Proofs.Concurrent.Errands
import AccessControl.Proofs.Concurrent.GivenUp
import AccessControl.Proofs.Concurrent.Memberships
import AccessControl.Proofs.Concurrent.Progress
import AccessControl.Proofs.Concurrent.Ranked
import AccessControl.Proofs.Concurrent.Soundness
import AccessControl.Proofs.Concurrent.Stance
import AccessControl.Proofs.Concurrent.View
import AccessControl.Proofs.Concurrent.World
import AccessControl.Proofs.Condition
import AccessControl.Proofs.Decision
import AccessControl.Proofs.Decision.Arrangement
import AccessControl.Proofs.Decision.Mentioned
import AccessControl.Proofs.Double.Shortest
import AccessControl.Proofs.Enforcement
import AccessControl.Proofs.Enforcement.Merging
import AccessControl.Proofs.Format
import AccessControl.Proofs.Gate
import AccessControl.Proofs.Http
import AccessControl.Proofs.Json.Document
import AccessControl.Proofs.Json.Lasting
import AccessControl.Proofs.Json.Nesting
import AccessControl.Proofs.Json.Number
import AccessControl.Proofs.Json.Numbers
import AccessControl.Proofs.Json.Numeral
import AccessControl.Proofs.Json.Token
import AccessControl.Proofs.Json.Yielded
import AccessControl.Proofs.Matcher
import AccessControl.Proofs.Matcher.Agreement
import AccessControl.Proofs.Notices
import AccessControl.Proofs.Numeral
import AccessControl.Proofs.Ordered
import AccessControl.Proofs.Policies.Standing
import AccessControl.Proofs.Program
import AccessControl.Proofs.Realm.Bridge
import AccessControl.Proofs.Realm.Reading
import AccessControl.Proofs.Realm.Run
import AccessControl.Proofs.Record
import AccessControl.Proofs.Regex.Bracket
import AccessControl.Proofs.Regex.Enclosed
import AccessControl.Proofs.Regex.Escape
import AccessControl.Proofs.Regex.Local
import AccessControl.Proofs.Regex.Reach
import AccessControl.Proofs.Regex.Runs
import AccessControl.Proofs.Regex.Tokens
import AccessControl.Proofs.Regex.Written
import AccessControl.Proofs.Remote
import AccessControl.Proofs.Service.Atomic
import AccessControl.Proofs.Service.Canonical
import AccessControl.Proofs.Service.Declined
import AccessControl.Proofs.Service.Fortune
import AccessControl.Proofs.Settings
import AccessControl.Proofs.Settings.Issuer
import AccessControl.Proofs.Storage.Canonical
import AccessControl.Proofs.Storage.Contents
import AccessControl.Proofs.Storage.Entries
import AccessControl.Proofs.Storage.Interchange
import AccessControl.Proofs.Storage.Names
import AccessControl.Proofs.Storage.Refinement
import AccessControl.Proofs.Storage.Relation
import AccessControl.Proofs.Storage.Rosters
import AccessControl.Proofs.Template
import AccessControl.Proofs.Template.Grammar
import AccessControl.Proofs.Token.Acceptance
import AccessControl.Proofs.Token.Refresh
import AccessControl.Proofs.Token.Revocation
import AccessControl.Proofs.Urn
import AccessControl.Proofs.Urn.Correspondence
import AccessControl.Proofs.Users.Created
import AccessControl.Proofs.Users.Deleted
import AccessControl.Proofs.Users.Directory
import AccessControl.Proofs.Users.Durable
import AccessControl.Proofs.Users.Refinement
import AccessControl.Proofs.Users.Stored
import AccessControl.Proofs.Users.Stores
import AccessControl.Proofs.Users.Written
import AccessControl.Realm
import AccessControl.Record
import AccessControl.Regex
import AccessControl.Regex.Bracket
import AccessControl.Regex.Classes
import AccessControl.Regex.Escape
import AccessControl.Regex.Flags
import AccessControl.Regex.Node
import AccessControl.Regex.Parser
import AccessControl.Regex.Plan
import AccessControl.Regex.Reach
import AccessControl.Regex.Size
import AccessControl.Regex.Tally
import AccessControl.Regex.Tally.Sets
import AccessControl.Regex.Tally.Words
import AccessControl.Remote
import AccessControl.Roster
import AccessControl.Service.Authority
import AccessControl.Service.Groups
import AccessControl.Service.Policies
import AccessControl.Service.Users
import AccessControl.Settings
import AccessControl.Settings.LogFormat
import AccessControl.Settings.SocketAddress
import AccessControl.Storage
import AccessControl.Storage.Memory
import AccessControl.Storage.Table
import AccessControl.Template
import AccessControl.Text.Age
import AccessControl.Text.Base64
import AccessControl.Text.Blank
import AccessControl.Text.Break
import AccessControl.Text.Category
import AccessControl.Text.CharSet
import AccessControl.Text.CharSet.Packed
import AccessControl.Text.Fold
import AccessControl.Text.Numeral
import AccessControl.Text.Percent
import AccessControl.Text.Quoted
import AccessControl.Text.Recent
import AccessControl.Text.Script
import AccessControl.Text.Segment
import AccessControl.Text.Trait
import AccessControl.Text.Utf8
import AccessControl.Token
import AccessControl.Token.Key
import AccessControl.Urn
import AccessControl.User
