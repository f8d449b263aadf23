import Pagewalk.Charset.Body
import Pagewalk.Command.Report
import Pagewalk.Cycle
import Pagewalk.Document.Query
import Pagewalk.Event.Hub
import Pagewalk.Main
import Pagewalk.Page
import Pagewalk.Script.Setup
import Pagewalk.Selector.Matching
import Pagewalk.Source.Pairing
import Pagewalk.Url.Parser
import Pagewalk.Walk
import Pagewalk.Window
import Pagewalk.Proofs.Event.Emissions
import Pagewalk.Proofs.Walk.Sequence
import Pagewalk.Proofs.Cycle
import Pagewalk.Proofs.Document.Listing
import Pagewalk.Proofs.Document.Navigation
import Pagewalk.Proofs.Document.Numbers
import Pagewalk.Proofs.Document.Tables
import Pagewalk.Proofs.Document.Trails
import Pagewalk.Proofs.Walk.Coverage
import Pagewalk.Proofs.Source.Positions
import Pagewalk.Proofs.Source.Pairing
import Pagewalk.Proofs.Source.Located
import Pagewalk.Proofs.Script.Queries
import Pagewalk.Proofs.Source.Assignments
import Pagewalk.Proofs.Source.Ignored
import Pagewalk.Proofs.Event.Dispatch
import Pagewalk.Proofs.Event.Register
import Pagewalk.Proofs.Event.Turns
import Pagewalk.Proofs.Nesting
import Pagewalk.Proofs.Script.Ancestry
import Pagewalk.Proofs.Script.Navigation
import Pagewalk.Proofs.Script.Literals
import Pagewalk.Proofs.Pending
import Pagewalk.Proofs.Script.ExactTimes
import Pagewalk.Proofs.Strictness
import Pagewalk.Proofs.Bodies
import Pagewalk.Proofs.Logs
import Pagewalk.Proofs.Event.Renaming
import Pagewalk.Proofs.Event.Bystander
import Pagewalk.Proofs.Script.Records
import Pagewalk.Proofs.Identity
import Pagewalk.Proofs.Isolation
import Pagewalk.Proofs.Source.Lines
import Pagewalk.Proofs.Source.InOrder
import Pagewalk.Proofs.Source.Disorder
import Pagewalk.Proofs.Source.Readings
import Pagewalk.Proofs.Source.TagStates
import Pagewalk.Proofs.Source.Segmentation
import Pagewalk.Proofs.Event.Names
import Pagewalk.Proofs.Document.Creation
import Pagewalk.Proofs.Source.Comments
import Pagewalk.Proofs.Source.Unfinished
import Pagewalk.Proofs.Charset.Labels
import Pagewalk.Proofs.Charset.Precedence
import Pagewalk.Proofs.Charset.PageLabels
import Pagewalk.Proofs.Charset.Search
import Pagewalk.Proofs.Script.Siblings
import Pagewalk.Proofs.Script.Ascents
import Pagewalk.Proofs.Budget
import Pagewalk.Proofs.Command.Grammar
import Pagewalk.Proofs.Command.Reports
import Pagewalk.Proofs.Script.Attributes
