import RouteTable.Main
import RouteTable.Registry
import RouteTable.Proofs.Regex.Reading
import RouteTable.Proofs.Regex.Reading.Class
import RouteTable.Proofs.Regex.Reading.Items
import RouteTable.Proofs.Regex.Groups
import RouteTable.Proofs.Regex.Row
import RouteTable.Proofs.Regex.Anchored
import RouteTable.Proofs.Regex.Spans
import RouteTable.Proofs.Regex.Segment
import RouteTable.Proofs.Regex.Shape
import RouteTable.Proofs.Regex.Meaning
import RouteTable.Proofs.Regex.Reading.Text
import RouteTable.Proofs.Regex.Branch
import RouteTable.Proofs.Regex.Window
import RouteTable.Proofs.Regex.Alone
import RouteTable.Proofs.Pattern.Reading
import RouteTable.Proofs.Pattern.Expression
import RouteTable.Proofs.Pattern.Woven
import RouteTable.Proofs.SortedMap
import RouteTable.Proofs.Pattern.Matching
import RouteTable.Proofs.RouteSet.Chunks
import RouteTable.Proofs.RouteSet.Declare
import RouteTable.Proofs.RouteSet.History
import RouteTable.Proofs.Dispatch.Reference
import RouteTable.Proofs.Dispatch.Loading
import RouteTable.Proofs.Dispatch.Precedence
import RouteTable.Proofs.Dispatch.Growth
import RouteTable.Proofs.Dispatch.Methods
import RouteTable.Proofs.Dispatch.Records
import RouteTable.Proofs.Dispatch.Entry
import RouteTable.Proofs.Dispatch.RoundTrip
import RouteTable.Proofs.Registration.Verdict
import RouteTable.Proofs.Registration.Refusal
import RouteTable.Proofs.Registration.Hoisting
import RouteTable.Proofs.Dispatch.Reordering
import RouteTable.Proofs.Json.Printing
import RouteTable.Proofs.Json.RoundTrip
import RouteTable.Proofs.Store.Text
import RouteTable.Proofs.Files.Tree
import RouteTable.Proofs.Files.Disk
import RouteTable.Proofs.Store.Dumping
import RouteTable.Proofs.Pattern.Grammar
import RouteTable.Proofs.RouteSet.Grouping
import RouteTable.Proofs.RouteSet.Layout
import RouteTable.Proofs.RouteSet.Assembly
import RouteTable.Proofs.RouteSet.LayoutBounds
import RouteTable.Proofs.Dispatch.Values
import RouteTable.Proofs.Dispatch.Substitution
import RouteTable.Proofs.Pattern.Placeholders
import RouteTable.Proofs.Dispatch.Captured
import RouteTable.Proofs.Annotation
import RouteTable.Proofs.Scan
