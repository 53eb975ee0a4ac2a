import Provision.Cli.Arguments
import Provision.Cli.Commands
import Provision.Cloud.Client
import Provision.Cloud.Credentials
import Provision.Cloud.Envelope
import Provision.Cloud.Product
import Provision.Cloud.Region
import Provision.Cloud.Signature
import Provision.Cloud.Status
import Provision.Digest.Hmac
import Provision.Digest.Sha256
import Provision.Failure
import Provision.Files
import Provision.Identity
import Provision.Json.Basic
import Provision.Json.Mismatch
import Provision.Json.Printer
import Provision.Json.Reading
import Provision.Json.Scanner
import Provision.Json.Source
import Provision.Main
import Provision.Number.Binary64
import Provision.Number.Shortest
import Provision.Proofs.Cli.Handling
import Provision.Proofs.Cli.Recorded
import Provision.Proofs.Cli.RoundTrip
import Provision.Proofs.Cli.StateFile
import Provision.Proofs.Cloud.Posting
import Provision.Proofs.Cloud.Signature
import Provision.Proofs.Files
import Provision.Proofs.Identity
import Provision.Proofs.Json.Faults
import Provision.Proofs.Json.Members
import Provision.Proofs.Json.Nulls
import Provision.Proofs.Json.Numerals
import Provision.Proofs.Json.Records
import Provision.Proofs.Json.Retold
import Provision.Proofs.Json.Secrets
import Provision.Proofs.Json.Texts
import Provision.Proofs.Json.Written
import Provision.Proofs.Number.Numerals
import Provision.Proofs.Number.Rounding
import Provision.Proofs.Number.Texts
import Provision.Proofs.Resource.Accepted
import Provision.Proofs.Resource.AccountHost
import Provision.Proofs.Resource.Addressed
import Provision.Proofs.Resource.Agreement
import Provision.Proofs.Resource.Announced
import Provision.Proofs.Resource.Apply
import Provision.Proofs.Resource.AttachmentIdentity
import Provision.Proofs.Resource.BrokenIdentity
import Provision.Proofs.Resource.CanonicalIdentity
import Provision.Proofs.Resource.Chosen
import Provision.Proofs.Resource.Coherence
import Provision.Proofs.Resource.Converging
import Provision.Proofs.Resource.Course
import Provision.Proofs.Resource.CreatedIdentity
import Provision.Proofs.Resource.Creation
import Provision.Proofs.Resource.Execute
import Provision.Proofs.Resource.Failing
import Provision.Proofs.Resource.Imported
import Provision.Proofs.Resource.Kept
import Provision.Proofs.Resource.Logged
import Provision.Proofs.Resource.Lookup
import Provision.Proofs.Resource.Moves
import Provision.Proofs.Resource.Parts
import Provision.Proofs.Resource.Passwords
import Provision.Proofs.Resource.PlannedUpdate
import Provision.Proofs.Resource.Reached
import Provision.Proofs.Resource.Refresh
import Provision.Proofs.Resource.Refreshed
import Provision.Proofs.Resource.Requests
import Provision.Proofs.Resource.RoundTrip
import Provision.Proofs.Resource.RunningInstance
import Provision.Proofs.Resource.Shown
import Provision.Proofs.Resource.SideBySide
import Provision.Proofs.Resource.Simulation
import Provision.Proofs.Resource.Stages
import Provision.Proofs.Resource.SteadyRefresh
import Provision.Proofs.Resource.Steps
import Provision.Proofs.Resource.Stored
import Provision.Proofs.Resource.Talks
import Provision.Proofs.Schema.Comparison
import Provision.Proofs.Schema.Plan
import Provision.Proofs.Schema.Secrets
import Provision.Proofs.Schema.Sets
import Provision.Proofs.Schema.Validation
import Provision.Proofs.Schema.WellFormed
import Provision.Proofs.SecurityGroups.Enrichment
import Provision.Proofs.SecurityGroups.Listing
import Provision.Proofs.SecurityGroups.Readings
import Provision.Proofs.SecurityGroups.Report
import Provision.Proofs.Session.Along
import Provision.Proofs.Session.Attempts
import Provision.Proofs.Session.Budgets
import Provision.Proofs.Session.Ensures
import Provision.Proofs.Session.Files
import Provision.Proofs.Session.InFlight
import Provision.Proofs.Session.Notices
import Provision.Proofs.Session.Pacing
import Provision.Proofs.Session.Settled
import Provision.Proofs.Session.SideBySide
import Provision.Proofs.Settings
import Provision.Proofs.Text.Excerpts
import Provision.Proofs.Text.Plain
import Provision.Proofs.Vendor.Answers
import Provision.Proofs.Vendor.Calls
import Provision.Proofs.Vendor.Nulls
import Provision.Proofs.Vendor.Numbers
import Provision.Proofs.Vendor.Replies
import Provision.Proofs.Vendor.SideBySide
import Provision.Proofs.Vendor.Steady
import Provision.Proofs.Vendor.Tells
import Provision.Proofs.Vendor.Writable
import Provision.Provider
import Provision.Resource.Account
import Provision.Resource.Attachment
import Provision.Resource.Basic
import Provision.Resource.Document
import Provision.Resource.Instance
import Provision.Resource.Kind
import Provision.Schema.Basic
import Provision.Schema.Plan
import Provision.Schema.Validation
import Provision.SecurityGroups.Query
import Provision.SecurityGroups.Read
import Provision.Session.Basic
import Provision.Session.Exchange
import Provision.Session.InFlight
import Provision.Session.Pacing
import Provision.Session.Retry
import Provision.Session.Script
import Provision.Settings
import Provision.StringSet
import Provision.Text.Blank
import Provision.Text.Decimal
import Provision.Text.Excerpt
import Provision.Text.Lossy
import Provision.Text.Quoted
import Provision.Text.Segments
import Provision.Text.Shown
import Provision.Text.Utf8
import Provision.Time.Calendar
import Provision.Time.Span
import Provision.Url.Address
import Provision.Url.Basic
import Provision.Url.Host
import Provision.Vendor.Accounts
import Provision.Vendor.Basic
import Provision.Vendor.Bindings
import Provision.Vendor.Groups
import Provision.Vendor.Instances
import Provision.Yaml.Block
import Provision.Yaml.Flow
import Provision.Yaml.Scalar
