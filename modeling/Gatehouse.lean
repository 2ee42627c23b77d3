import Gatehouse.Access.Basic
import Gatehouse.Access.Display
import Gatehouse.Access.Document
import Gatehouse.Access.Payload
import Gatehouse.Access.Response
import Gatehouse.Agenda.Machine
import Gatehouse.Agenda.Timers
import Gatehouse.Authority.Document
import Gatehouse.Authority.Exchange
import Gatehouse.Authority.Verdict
import Gatehouse.Binding
import Gatehouse.Capacity
import Gatehouse.Check
import Gatehouse.Command
import Gatehouse.Coordinator
import Gatehouse.Database
import Gatehouse.Database.Document
import Gatehouse.Device
import Gatehouse.Device.Reading
import Gatehouse.Digest
import Gatehouse.Fault
import Gatehouse.Fault.Document
import Gatehouse.Field
import Gatehouse.Frame.Buffer
import Gatehouse.Frame.Codec
import Gatehouse.Gateway
import Gatehouse.Happening
import Gatehouse.History
import Gatehouse.Json.Members
import Gatehouse.Json.Order
import Gatehouse.Json.Reader
import Gatehouse.Json.Schema
import Gatehouse.Json.Value
import Gatehouse.Json.Writer
import Gatehouse.Listener
import Gatehouse.Lock
import Gatehouse.Lock.Mutex
import Gatehouse.Lock.Tasks
import Gatehouse.Message
import Gatehouse.Message.Document
import Gatehouse.Message.Draft
import Gatehouse.Message.Text
import Gatehouse.Notice
import Gatehouse.Number.Basic
import Gatehouse.Number.Reading
import Gatehouse.Number.Text
import Gatehouse.Pattern.Basic
import Gatehouse.Pattern.Escape
import Gatehouse.Pattern.Flaw
import Gatehouse.Pattern.Matching
import Gatehouse.Pattern.Reading
import Gatehouse.Proofs.Access.Requests
import Gatehouse.Proofs.Access.Responses
import Gatehouse.Proofs.Agenda.Pool
import Gatehouse.Proofs.Agenda.Timers
import Gatehouse.Proofs.Association
import Gatehouse.Proofs.Authority.Permission
import Gatehouse.Proofs.Check.Bursts
import Gatehouse.Proofs.Check.Remainder
import Gatehouse.Proofs.Check.Replaced
import Gatehouse.Proofs.Frame.Corrupted
import Gatehouse.Proofs.Frame.Cuts
import Gatehouse.Proofs.Frame.Drain
import Gatehouse.Proofs.Frame.Faithful
import Gatehouse.Proofs.Frame.Noise
import Gatehouse.Proofs.Frame.Printable
import Gatehouse.Proofs.Frame.Progress
import Gatehouse.Proofs.Frame.Segments
import Gatehouse.Proofs.Lock.Chain
import Gatehouse.Proofs.Lock.Crew
import Gatehouse.Proofs.Lock.Lines
import Gatehouse.Proofs.Lock.OneAtATime
import Gatehouse.Proofs.Message.Drafts
import Gatehouse.Proofs.Message.Grammar
import Gatehouse.Proofs.Message.Written
import Gatehouse.Proofs.Number.Whole
import Gatehouse.Proofs.Register.Filled
import Gatehouse.Proofs.Register.Recent
import Gatehouse.Proofs.Register.Seeded
import Gatehouse.Proofs.Register.Selected
import Gatehouse.Proofs.Session.Answers
import Gatehouse.Proofs.Session.Books
import Gatehouse.Proofs.Session.Chunks
import Gatehouse.Proofs.Session.Course
import Gatehouse.Proofs.Session.Grants
import Gatehouse.Proofs.Settings.Bounds
import Gatehouse.Proofs.Settings.MountPath
import Gatehouse.Proofs.Station.Driven
import Gatehouse.Proofs.Station.Moves
import Gatehouse.Proofs.Station.Rotations
import Gatehouse.Proofs.Text.Trimmed
import Gatehouse.Proofs.Text.UpperCase
import Gatehouse.Proofs.Time.Calendar
import Gatehouse.Proofs.Time.International
import Gatehouse.Proofs.Time.Printed
import Gatehouse.Proofs.Time.Spelled
import Gatehouse.Proofs.Time.Stamped
import Gatehouse.Proofs.Traffic.Answered
import Gatehouse.Proofs.Traffic.Asking
import Gatehouse.Proofs.Traffic.Attending
import Gatehouse.Proofs.Traffic.Candid
import Gatehouse.Proofs.Traffic.Decided
import Gatehouse.Proofs.Traffic.Floor
import Gatehouse.Proofs.Traffic.InTurn
import Gatehouse.Proofs.Traffic.Others
import Gatehouse.Proofs.Traffic.Passing
import Gatehouse.Proofs.Traffic.Queue
import Gatehouse.Proofs.Traffic.Sessions
import Gatehouse.Proofs.Traffic.Steps
import Gatehouse.Proofs.Traffic.Tidy
import Gatehouse.Proofs.Traffic.Told
import Gatehouse.Proofs.Traffic.Turning
import Gatehouse.Proofs.Traffic.Turns
import Gatehouse.Proofs.Traffic.Views
import Gatehouse.Proofs.Turnstile.Cycles
import Gatehouse.Proofs.Turnstile.Entered
import Gatehouse.Proofs.Turnstile.Limit
import Gatehouse.Proofs.Turnstile.Moves
import Gatehouse.Proofs.Turnstile.OnTime
import Gatehouse.Proofs.Turnstile.Operations
import Gatehouse.Proofs.Turnstile.Punctual
import Gatehouse.Proofs.Turnstile.Record
import Gatehouse.Proofs.Turnstile.Rest
import Gatehouse.Proofs.Turnstile.Words
import Gatehouse.Proofs.Validation.Accounts
import Gatehouse.Proofs.Validation.Acts
import Gatehouse.Proofs.Validation.Affairs
import Gatehouse.Proofs.Validation.Alone
import Gatehouse.Proofs.Validation.Attempts
import Gatehouse.Proofs.Validation.Beats
import Gatehouse.Proofs.Validation.Erasure
import Gatehouse.Proofs.Validation.Failures
import Gatehouse.Proofs.Validation.InTime
import Gatehouse.Proofs.Validation.Inquest
import Gatehouse.Proofs.Validation.Inquired
import Gatehouse.Proofs.Validation.Inquiring
import Gatehouse.Proofs.Validation.Marks
import Gatehouse.Proofs.Validation.Passback
import Gatehouse.Proofs.Validation.Periods
import Gatehouse.Proofs.Validation.Presented
import Gatehouse.Proofs.Validation.Proceedings
import Gatehouse.Proofs.Validation.Referred
import Gatehouse.Proofs.Validation.Requirements
import Gatehouse.Proofs.Validation.Scene
import Gatehouse.Proofs.Validation.Standing
import Gatehouse.Proofs.Validation.Toil
import Gatehouse.Proofs.Web.Guard
import Gatehouse.Proofs.Web.Strangers
import Gatehouse.Register.Document
import Gatehouse.Register.Memory
import Gatehouse.Register.Query
import Gatehouse.Register.Record
import Gatehouse.Register.Seed
import Gatehouse.Register.Sql
import Gatehouse.Session
import Gatehouse.Settings
import Gatehouse.Settings.Document
import Gatehouse.Station
import Gatehouse.Text.Base64
import Gatehouse.Text.BaseLetter
import Gatehouse.Text.Blank
import Gatehouse.Text.Name
import Gatehouse.Text.Percent
import Gatehouse.Text.Units
import Gatehouse.Text.UpperCase
import Gatehouse.Text.Utf8
import Gatehouse.Time.Digits
import Gatehouse.Time.Instant
import Gatehouse.Time.Iso
import Gatehouse.Time.Reading
import Gatehouse.Time.Stamp
import Gatehouse.Time.Token
import Gatehouse.Traffic
import Gatehouse.Turnstile.Alarm
import Gatehouse.Turnstile.Controller
import Gatehouse.Turnstile.Cycle
import Gatehouse.Turnstile.Document
import Gatehouse.Turnstile.Ledger
import Gatehouse.Validation.Desk
import Gatehouse.Validation.Document
import Gatehouse.Validation.Offline
import Gatehouse.Validation.Online
import Gatehouse.Web.Address
import Gatehouse.Web.Charset
import Gatehouse.Web.Content
import Gatehouse.Web.Interface
import Gatehouse.Web.Mount
import Gatehouse.Web.Reply
import Gatehouse.Web.Request
import Gatehouse.Web.Service
import Gatehouse.Web.Simulation
import Gatehouse.Web.Tag
import Gatehouse.Web.Template
