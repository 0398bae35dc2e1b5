import Roster.Cache.Generation
import Roster.Cache.Key
import Roster.Cache.Layered
import Roster.Cache.Local
import Roster.Cache.Payload
import Roster.Cache.Remote
import Roster.Cache.Simulated
import Roster.Cache.Trouble
import Roster.Email
import Roster.Error
import Roster.FieldErrors
import Roster.Json.Choice
import Roster.Json.Error
import Roster.Json.Lexeme
import Roster.Json.Printer
import Roster.Json.Reader
import Roster.Json.Record
import Roster.Json.Skip
import Roster.Json.Value
import Roster.Keyed
import Roster.Log.Event
import Roster.Log.Filter
import Roster.Main
import Roster.Net.HostName
import Roster.Net.HostTable
import Roster.Net.IpAddress
import Roster.Net.Percent
import Roster.Net.Punycode
import Roster.Net.Url
import Roster.Number.Binary64
import Roster.Number.Word
import Roster.Page
import Roster.Program
import Roster.Proofs.Cache.Account
import Roster.Proofs.Cache.Admitted
import Roster.Proofs.Cache.Balance
import Roster.Proofs.Cache.Displaced
import Roster.Proofs.Cache.Exact
import Roster.Proofs.Cache.Keys
import Roster.Proofs.Cache.LocalCalls
import Roster.Proofs.Cache.LocalTier
import Roster.Proofs.Cache.Payload
import Roster.Proofs.Cache.Recalled
import Roster.Proofs.Cache.Scheduled
import Roster.Proofs.Cache.Shared
import Roster.Proofs.Cache.Tiers
import Roster.Proofs.Cache.Unusable
import Roster.Proofs.Cache.Upkeep
import Roster.Proofs.Email
import Roster.Proofs.Interleaving
import Roster.Proofs.Json.Printed
import Roster.Proofs.Log.Levels
import Roster.Proofs.Number.Rounding
import Roster.Proofs.Request
import Roster.Proofs.Service.AddressLength
import Roster.Proofs.Service.Atomicity
import Roster.Proofs.Service.Base
import Roster.Proofs.Service.Cached
import Roster.Proofs.Service.Changes
import Roster.Proofs.Service.ConcurrentChanges
import Roster.Proofs.Service.ConcurrentListings
import Roster.Proofs.Service.ConcurrentReads
import Roster.Proofs.Service.Dated
import Roster.Proofs.Service.Degraded
import Roster.Proofs.Service.Economy
import Roster.Proofs.Service.Exactness
import Roster.Proofs.Service.Failures
import Roster.Proofs.Service.Fleet
import Roster.Proofs.Service.Listings
import Roster.Proofs.Service.NormalForm
import Roster.Proofs.Service.Origins
import Roster.Proofs.Service.Requests
import Roster.Proofs.Service.Resolution
import Roster.Proofs.Service.Served
import Roster.Proofs.Service.SideBySide
import Roster.Proofs.Service.Staleness
import Roster.Proofs.Service.Transactions
import Roster.Proofs.Service.Transparency
import Roster.Proofs.Settings.Copies
import Roster.Proofs.Settings.Layers
import Roster.Proofs.Settings.Leaves
import Roster.Proofs.Settings.Overrides
import Roster.Proofs.Settings.Reloads
import Roster.Proofs.Settings.Sayings
import Roster.Proofs.Settings.Shown
import Roster.Proofs.Settings.Spelled
import Roster.Proofs.Settings.Supplied
import Roster.Proofs.Startup
import Roster.Proofs.Steps
import Roster.Proofs.Store.Invariant
import Roster.Proofs.Store.Listing
import Roster.Proofs.Store.Pages
import Roster.Proofs.Store.Rows
import Roster.Proofs.Store.Serial
import Roster.Proofs.Store.Session
import Roster.Proofs.Store.Units
import Roster.Proofs.Text.Digits
import Roster.Proofs.Text.Trimming
import Roster.Proofs.Time.Calendar
import Roster.Proofs.Time.Written
import Roster.Proofs.UserId
import Roster.Redis.Address
import Roster.Redis.Client
import Roster.Request
import Roster.Server
import Roster.Service.Base
import Roster.Service.Cached
import Roster.Service.Operation
import Roster.Service.Probe
import Roster.Service.Stack
import Roster.Settings.Basic
import Roster.Settings.Copies
import Roster.Settings.Dotenv
import Roster.Settings.Environment
import Roster.Settings.Files
import Roster.Settings.Loader
import Roster.Settings.Path
import Roster.Settings.Section
import Roster.Settings.Validation
import Roster.Settings.Value
import Roster.Store.Call
import Roster.Store.Repository
import Roster.Store.Table
import Roster.Text.Blank
import Roster.Text.Bytes
import Roster.Text.CaseTable
import Roster.Text.Digits
import Roster.Text.HiddenTable
import Roster.Text.Lenient
import Roster.Text.LetterTable
import Roster.Text.Letters
import Roster.Text.Lowercase
import Roster.Text.Normal
import Roster.Text.NormalTable
import Roster.Text.Pieces
import Roster.Text.Quoted
import Roster.Text.Rows
import Roster.Text.Spans
import Roster.Time.Date
import Roster.Time.Duration
import Roster.Time.Timestamp
import Roster.Toml.Document
import Roster.Toml.Lexeme
import Roster.Toml.Scalar
import Roster.User
import Roster.UserId
import Roster.Proofs.FieldErrors
import Roster.Proofs.Json.Grammar
import Roster.Proofs.Json.Skipped
import Roster.Proofs.Json.Naturals
import Roster.Proofs.Json.Members
import Roster.Proofs.Page.Requested
import Roster.Proofs.Json.Values
import Roster.Proofs.Page.ReadBack
