import RequestPipeline.Filter.Authority
import RequestPipeline.Filter.Basic
import RequestPipeline.Filter.Capability
import RequestPipeline.Filter.Listing
import RequestPipeline.Filter.Marker
import RequestPipeline.Filter.Plan
import RequestPipeline.Filter.Registration
import RequestPipeline.Filter.Scope
import RequestPipeline.Http.Header
import RequestPipeline.Http.Status
import RequestPipeline.Http.Token
import RequestPipeline.Http.Uri
import RequestPipeline.Json.Basic
import RequestPipeline.Json.Binary64
import RequestPipeline.Json.Reader
import RequestPipeline.Json.Writer
import RequestPipeline.Policy.Access
import RequestPipeline.Policy.CrossOrigin
import RequestPipeline.Policy.Envelope
import RequestPipeline.Policy.Fixed
import RequestPipeline.Policy.Script
import RequestPipeline.Request.Action
import RequestPipeline.Request.Answer
import RequestPipeline.Request.Call
import RequestPipeline.Request.Data
import RequestPipeline.Request.Fault
import RequestPipeline.Request.Id
import RequestPipeline.Request.Response
import RequestPipeline.Run.Callback
import RequestPipeline.Run.Dispatcher
import RequestPipeline.Run.Event
import RequestPipeline.Run.Execution
import RequestPipeline.Run.Failure
import RequestPipeline.Run.Observation
import RequestPipeline.Run.State
import RequestPipeline.Run.Step
import RequestPipeline.Run.Summary
import RequestPipeline.Run.Transcript
import RequestPipeline.Settings.Basic
import RequestPipeline.Settings.Decode
import RequestPipeline.Settings.Directive
import RequestPipeline.Settings.Dotenv
import RequestPipeline.Settings.Environment
import RequestPipeline.Settings.Loader
import RequestPipeline.Settings.Pattern
import RequestPipeline.Settings.Validation
import RequestPipeline.Text.Blank
import RequestPipeline.Text.Bytes
import RequestPipeline.Text.CaseTable
import RequestPipeline.Text.Casing
import RequestPipeline.Text.Entries
import RequestPipeline.Text.Hidden
import RequestPipeline.Text.Letters
import RequestPipeline.Text.Quoted
import RequestPipeline.Text.Ranges
import RequestPipeline.Text.Record
import RequestPipeline.Text.Set
import RequestPipeline.Text.Split
import RequestPipeline.Toml.Moment
import RequestPipeline.Toml.Numeral
import RequestPipeline.Toml.Reader
import RequestPipeline.Toml.Table
import RequestPipeline.Proofs.Filter.Authority
import RequestPipeline.Proofs.Filter.Order
import RequestPipeline.Proofs.Run.Trace
import RequestPipeline.Proofs.Run.Course
import RequestPipeline.Proofs.Run.Gate
import RequestPipeline.Proofs.Run.Rendering
import RequestPipeline.Proofs.Run.Resolution
import RequestPipeline.Proofs.Run.ShortCircuit
import RequestPipeline.Proofs.Run.Showing
import RequestPipeline.Proofs.Run.Coverage
import RequestPipeline.Proofs.Run.KeptPlans
import RequestPipeline.Proofs.Run.Alike
import RequestPipeline.Proofs.Run.Counterparts
import RequestPipeline.Proofs.Run.Secrecy
import RequestPipeline.Proofs.Filter.Thinning
import RequestPipeline.Proofs.Run.Inert
import RequestPipeline.Proofs.Run.Preparation
import RequestPipeline.Proofs.Run.Accounts
import RequestPipeline.Proofs.Run.Halts
import RequestPipeline.Proofs.Run.Responses
import RequestPipeline.Proofs.Run.Watched
import RequestPipeline.Proofs.Policy.Preflight
import RequestPipeline.Proofs.Policy.Decoration
import RequestPipeline.Proofs.Http.Header
import RequestPipeline.Proofs.Settings.Layers
import RequestPipeline.Proofs.Run.Reuse
import RequestPipeline.Proofs.Run.Record
import RequestPipeline.Proofs.Policy.Fields
import RequestPipeline.Proofs.Text.Split
import RequestPipeline.Proofs.Policy.PreflightAnswer
import RequestPipeline.Proofs.Http.Sorted
import RequestPipeline.Proofs.Policy.Frame
import RequestPipeline.Proofs.Policy.Grants
import RequestPipeline.Proofs.Http.Moving
import RequestPipeline.Proofs.Request.Response
import RequestPipeline.Proofs.Text.Blank
import RequestPipeline.Proofs.Settings.Variables
import RequestPipeline.Proofs.Filter.Carriers
import RequestPipeline.Proofs.Policy.Envelope
import RequestPipeline.Proofs.Text.Casing
import RequestPipeline.Proofs.Text.Set
import RequestPipeline.Proofs.Policy.Clauses
import RequestPipeline.Proofs.Settings.Validation
import RequestPipeline.Proofs.Json.Compact
import RequestPipeline.Proofs.Settings.Spellings
import RequestPipeline.Proofs.Settings.RoundTrip
