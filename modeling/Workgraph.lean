import Workgraph.Binary64
import Workgraph.CommandLine
import Workgraph.CommandLine.Signature
import Workgraph.Dataflow
import Workgraph.Dialogue
import Workgraph.Fault
import Workgraph.Graph
import Workgraph.Graph.Builder
import Workgraph.Graph.Codec
import Workgraph.Graph.Definition
import Workgraph.Graph.Issue
import Workgraph.Graph.NodeBody
import Workgraph.Graph.NodeType
import Workgraph.Graph.Plan
import Workgraph.Graph.Port
import Workgraph.Graph.Route
import Workgraph.Graph.Selection
import Workgraph.Graph.Traversal
import Workgraph.Graph.Validity
import Workgraph.Graph.Wiring
import Workgraph.Json
import Workgraph.Json.Decode
import Workgraph.Json.Document
import Workgraph.Json.Number
import Workgraph.Json.Path
import Workgraph.Json.Printer
import Workgraph.Json.Reader
import Workgraph.Keyed
import Workgraph.Main
import Workgraph.Model.Exchange
import Workgraph.Model.Passage
import Workgraph.Model.Usage
import Workgraph.Proofs.Abreast
import Workgraph.Proofs.Absence
import Workgraph.Proofs.Accounts
import Workgraph.Proofs.Agreement
import Workgraph.Proofs.Billing
import Workgraph.Proofs.Calls
import Workgraph.Proofs.Cancellation
import Workgraph.Proofs.CaseChoice
import Workgraph.Proofs.Course
import Workgraph.Proofs.Cycles
import Workgraph.Proofs.Decimals
import Workgraph.Proofs.Delivery
import Workgraph.Proofs.Departure
import Workgraph.Proofs.Descent
import Workgraph.Proofs.Documents
import Workgraph.Proofs.Effects
import Workgraph.Proofs.Evaluations
import Workgraph.Proofs.Exits
import Workgraph.Proofs.Exploration
import Workgraph.Proofs.Failure
import Workgraph.Proofs.Faults
import Workgraph.Proofs.Gathering
import Workgraph.Proofs.Guidance
import Workgraph.Proofs.Hearing
import Workgraph.Proofs.History
import Workgraph.Proofs.Independence
import Workgraph.Proofs.Landing
import Workgraph.Proofs.Legibility
import Workgraph.Proofs.Lexing
import Workgraph.Proofs.Lookup
import Workgraph.Proofs.Maps
import Workgraph.Proofs.MemberOrder
import Workgraph.Proofs.Narration
import Workgraph.Proofs.Numbering
import Workgraph.Proofs.Numerals
import Workgraph.Proofs.Overwriting
import Workgraph.Proofs.Parsing
import Workgraph.Proofs.Paths
import Workgraph.Proofs.Preorder
import Workgraph.Proofs.Quotation
import Workgraph.Proofs.Recall
import Workgraph.Proofs.Record
import Workgraph.Proofs.Recording
import Workgraph.Proofs.Regimes
import Workgraph.Proofs.Reordering
import Workgraph.Proofs.Report
import Workgraph.Proofs.Rereading
import Workgraph.Proofs.Rounds
import Workgraph.Proofs.Scanning
import Workgraph.Proofs.Scope
import Workgraph.Proofs.Sealing
import Workgraph.Proofs.Searches
import Workgraph.Proofs.Simulation
import Workgraph.Proofs.Snapshot
import Workgraph.Proofs.SoundRun
import Workgraph.Proofs.StepLimit
import Workgraph.Proofs.Storage
import Workgraph.Proofs.Trail
import Workgraph.Proofs.Transcription
import Workgraph.Proofs.Upstream
import Workgraph.Proofs.Validity
import Workgraph.Role
import Workgraph.Run.Chain
import Workgraph.Run.Completion
import Workgraph.Run.Event
import Workgraph.Run.Execute
import Workgraph.Run.Host
import Workgraph.Run.Rehearsal
import Workgraph.Run.Result
import Workgraph.Run.Session
import Workgraph.Run.State
import Workgraph.Script.Builtin
import Workgraph.Script.Conversion
import Workgraph.Script.Display
import Workgraph.Script.Engine
import Workgraph.Script.Evaluate
import Workgraph.Script.Globals
import Workgraph.Script.Grammar
import Workgraph.Script.JsonText
import Workgraph.Script.Library
import Workgraph.Script.Lists
import Workgraph.Script.Machine
import Workgraph.Script.Numeral
import Workgraph.Script.Quoted
import Workgraph.Script.Sorting
import Workgraph.Script.Texts
import Workgraph.Script.Token
import Workgraph.Script.Tree
import Workgraph.Script.Units
import Workgraph.Script.Value
import Workgraph.Settings
import Workgraph.Text.Ascii
import Workgraph.Text.Blank
import Workgraph.Text.Integer
import Workgraph.Text.NameCharacter
import Workgraph.Text.Upper
import Workgraph.Tools.Call
import Workgraph.Tools.Gate
import Workgraph.Tools.Offer
import Workgraph.Width
