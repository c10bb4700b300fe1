import ParseScope.Attempt.Panes
import ParseScope.Command.Run
import ParseScope.FileTree
import ParseScope.Main
import ParseScope.Proofs.Attempt.Document
import ParseScope.Proofs.Attempt.Matches
import ParseScope.Proofs.Attempt.Session
import ParseScope.Proofs.Fixture.Layout
import ParseScope.Proofs.Grammar.Search
import ParseScope.Proofs.Location
import ParseScope.Proofs.Surface
import ParseScope.Proofs.Trace.Log
import ParseScope.Proofs.Tree.Drawing
import ParseScope.Text.Bytes
import ParseScope.Proofs.Attempt.Tree
import ParseScope.Proofs.Text.Position
import ParseScope.Proofs.Surface.Changes
import ParseScope.Proofs.Disk
import ParseScope.Proofs.Fixture.Directory
import ParseScope.Proofs.Command.Stages
import ParseScope.Proofs.Trace.Enclosers
import ParseScope.Proofs.Trace.Shown
import ParseScope.Proofs.Grammar.Listing
import ParseScope.Proofs.Trace.Violations
import ParseScope.Proofs.Attempt.Order
import ParseScope.Proofs.Text.Around
import ParseScope.Proofs.Command.Underline
import ParseScope.Proofs.Tree.Reading
import ParseScope.Proofs.Fixture.Refusal
import ParseScope.Proofs.Location.Span
import ParseScope.Proofs.Command.Failures
import ParseScope.Proofs.Trace.Rows
import ParseScope.Proofs.Fixture.Ordered
import ParseScope.Proofs.Fixture.Header
import ParseScope.Proofs.Settings.Path
import ParseScope.Proofs.Settings.Layers
import ParseScope.Proofs.Text.OneLine
import ParseScope.Proofs.Command.ErrorLine
import ParseScope.Proofs.Span
import ParseScope.Proofs.Command.Remarks
import ParseScope.Proofs.Json.Closed
import ParseScope.Proofs.Document.Unordered
import ParseScope.Proofs.Attempt.Members
import ParseScope.Proofs.Json.Append
import ParseScope.Proofs.Grammar.Bytes
