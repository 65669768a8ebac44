import VmAssessment.Agent
import VmAssessment.Capacity
import VmAssessment.Client.Basic
import VmAssessment.Client.Reason
import VmAssessment.Console.Action
import VmAssessment.Console.Basic
import VmAssessment.Console.Handling
import VmAssessment.Console.Key
import VmAssessment.Dispatch.Basic
import VmAssessment.Dispatch.Exchange
import VmAssessment.Display
import VmAssessment.Duration
import VmAssessment.Export
import VmAssessment.Fault
import VmAssessment.Inventory
import VmAssessment.Json.Amount
import VmAssessment.Json.Printer
import VmAssessment.Json.Reader
import VmAssessment.Json.Value
import VmAssessment.Login
import VmAssessment.Number.Binary64
import VmAssessment.Number.Positive
import VmAssessment.Number.Word
import VmAssessment.Proofs.Client.Addresses
import VmAssessment.Proofs.Client.Inventories
import VmAssessment.Proofs.Client.Refusals
import VmAssessment.Proofs.Console.Alarms
import VmAssessment.Proofs.Console.Commuting
import VmAssessment.Proofs.Console.Cycling
import VmAssessment.Proofs.Console.Dismissing
import VmAssessment.Proofs.Console.Failing
import VmAssessment.Proofs.Console.Fetching
import VmAssessment.Proofs.Console.Filling
import VmAssessment.Proofs.Console.Formless
import VmAssessment.Proofs.Console.Locking
import VmAssessment.Proofs.Console.Menus
import VmAssessment.Proofs.Console.Pages
import VmAssessment.Proofs.Console.Parts
import VmAssessment.Proofs.Console.Places
import VmAssessment.Proofs.Console.Redrawing
import VmAssessment.Proofs.Console.Secrecy
import VmAssessment.Proofs.Console.Selecting
import VmAssessment.Proofs.Console.SessionEvents
import VmAssessment.Proofs.Console.Shown
import VmAssessment.Proofs.Console.Speaking
import VmAssessment.Proofs.Console.Spots
import VmAssessment.Proofs.Console.Typing
import VmAssessment.Proofs.Desk.Echoing
import VmAssessment.Proofs.Desk.Exchange
import VmAssessment.Proofs.Desk.Numbering
import VmAssessment.Proofs.Desk.Polling
import VmAssessment.Proofs.Desk.Situation
import VmAssessment.Proofs.Desk.Stopping
import VmAssessment.Proofs.Desk.Toggling
import VmAssessment.Proofs.Desk.Waiting
import VmAssessment.Proofs.Desk.Watch
import VmAssessment.Proofs.Inventory.Accepting
import VmAssessment.Proofs.Inventory.Figures
import VmAssessment.Proofs.Inventory.Keeping
import VmAssessment.Proofs.Json.RoundTrip
import VmAssessment.Proofs.Json.Scalars
import VmAssessment.Proofs.Number.Capacities
import VmAssessment.Proofs.Number.Values
import VmAssessment.Proofs.Report.Caching
import VmAssessment.Proofs.Report.Columns
import VmAssessment.Proofs.Report.Paging
import VmAssessment.Proofs.Report.Searching
import VmAssessment.Proofs.Report.Sizes
import VmAssessment.Proofs.Report.Sorting
import VmAssessment.Proofs.Report.Stability
import VmAssessment.Proofs.Screen.Boxes
import VmAssessment.Proofs.Screen.Centering
import VmAssessment.Proofs.Session.Reporting
import VmAssessment.Proofs.Session.Step
import VmAssessment.Proofs.Session.Tagging
import VmAssessment.Proofs.Session.Turn
import VmAssessment.Proofs.Settings.Durations
import VmAssessment.Proofs.Settings.PageSizes
import VmAssessment.Proofs.Settings.RoundTrip
import VmAssessment.Proofs.Text.Collating
import VmAssessment.Proofs.Text.Lowering
import VmAssessment.Proofs.Text.Runs
import VmAssessment.Proofs.Text.Utf8
import VmAssessment.Proofs.Toml.Documents
import VmAssessment.Proofs.Toml.Strings
import VmAssessment.Proofs.Toml.Values
import VmAssessment.Proofs.Url.Parsing
import VmAssessment.Proofs.Url.Paths
import VmAssessment.Proofs.Url.Slashes
import VmAssessment.Proofs.Wire.Reports
import VmAssessment.Query
import VmAssessment.Query.Chips
import VmAssessment.Report.Matching
import VmAssessment.Report.Ordering
import VmAssessment.Report.View
import VmAssessment.Report.Window
import VmAssessment.Screen.Frame
import VmAssessment.Screen.LoginPage
import VmAssessment.Screen.Overlays
import VmAssessment.Screen.Palette
import VmAssessment.Screen.ReportPage
import VmAssessment.Selection
import VmAssessment.Session.Basic
import VmAssessment.Session.Transition
import VmAssessment.Settings.Basic
import VmAssessment.Settings.File
import VmAssessment.Settings.Text
import VmAssessment.Terminal.Area
import VmAssessment.Terminal.Breaking
import VmAssessment.Terminal.Canvas
import VmAssessment.Terminal.Glyph
import VmAssessment.Terminal.Snapshot
import VmAssessment.Terminal.Style
import VmAssessment.Terminal.Width
import VmAssessment.Text.Blank
import VmAssessment.Text.Cased
import VmAssessment.Text.CodeSet
import VmAssessment.Text.CombiningClass
import VmAssessment.Text.Composition
import VmAssessment.Text.Decomposition
import VmAssessment.Text.DecompositionTable
import VmAssessment.Text.Lowercase
import VmAssessment.Text.Mark
import VmAssessment.Text.Order
import VmAssessment.Text.Printable
import VmAssessment.Text.Quoted
import VmAssessment.Text.Utf8
import VmAssessment.Toml.Reader
import VmAssessment.Toml.Scalar
import VmAssessment.Toml.Text
import VmAssessment.Toml.Value
import VmAssessment.Url.Basic
import VmAssessment.Url.BidiTable
import VmAssessment.Url.Domain
import VmAssessment.Url.DomainTable
import VmAssessment.Url.Host
import VmAssessment.Url.JoiningTable
import VmAssessment.Url.Parser
import VmAssessment.Url.Percent
import VmAssessment.Url.Punycode
import VmAssessment.Vm
import VmAssessment.Wire.Record
import VmAssessment.Wire.Status
import VmAssessment.Wire.Vm
