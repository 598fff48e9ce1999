import PropTyper.Main
import PropTyper.Proofs.Batch.Isolation
import PropTyper.Proofs.Batch.Listing
import PropTyper.Proofs.Batch.Turns
import PropTyper.Proofs.Batch.Walk
import PropTyper.Proofs.Batch.WriteBack
import PropTyper.Proofs.Completion.Again
import PropTyper.Proofs.Completion.Budget
import PropTyper.Proofs.Completion.Conservative
import PropTyper.Proofs.Completion.Frame
import PropTyper.Proofs.Completion.Grown
import PropTyper.Proofs.Completion.Missed
import PropTyper.Proofs.Completion.OwnBlock
import PropTyper.Proofs.Completion.Run
import PropTyper.Proofs.Completion.Termination
import PropTyper.Proofs.Completion.Turn
import PropTyper.Proofs.Component.Detected
import PropTyper.Proofs.Component.Inferred
import PropTyper.Proofs.Component.Named
import PropTyper.Proofs.Component.Regenerate
import PropTyper.Proofs.Component.Repeats
import PropTyper.Proofs.Declaration.Declared
import PropTyper.Proofs.Declaration.Depth
import PropTyper.Proofs.Declaration.Kept
import PropTyper.Proofs.Declaration.Operand
import PropTyper.Proofs.Declaration.ReadBack
import PropTyper.Proofs.Declaration.Restated
import PropTyper.Proofs.Declaration.Syntax
import PropTyper.Proofs.Declaration.SyntaxTree
import PropTyper.Proofs.Declaration.Validator
import PropTyper.Proofs.Edit.Kept
import PropTyper.Proofs.Edit.OneByOne
import PropTyper.Proofs.Edit.Overlap
import PropTyper.Proofs.Edit.Splice
import PropTyper.Proofs.Edit.Whole
import PropTyper.Proofs.Evidence.Chain
import PropTyper.Proofs.Evidence.Members
import PropTyper.Proofs.Evidence.Reads
import PropTyper.Proofs.Evidence.Sources
import PropTyper.Proofs.Evidence.Usage
import PropTyper.Proofs.Files.Path
import PropTyper.Proofs.Files.Plain
import PropTyper.Proofs.Files.Shape
import PropTyper.Proofs.Files.Store
import PropTyper.Proofs.Json.Digits
import PropTyper.Proofs.Json.Members
import PropTyper.Proofs.Json.Quoted
import PropTyper.Proofs.Json.RoundTrip
import PropTyper.Proofs.Property.Combine
import PropTyper.Proofs.Property.Covers
import PropTyper.Proofs.Property.Follows
import PropTyper.Proofs.Property.Interleave
import PropTyper.Proofs.Property.Join
import PropTyper.Proofs.Property.Merge
import PropTyper.Proofs.Property.Normalize
import PropTyper.Proofs.Property.Paths
import PropTyper.Proofs.Property.Place
import PropTyper.Proofs.Property.Priority
import PropTyper.Proofs.Property.Unordered
import PropTyper.Proofs.Property.Views
import PropTyper.Proofs.Settings.Check
import PropTyper.Proofs.Settings.Class
import PropTyper.Proofs.Settings.ConfigFile
import PropTyper.Proofs.Settings.Keys
import PropTyper.Proofs.Settings.Layers
import PropTyper.Proofs.Settings.Making
import PropTyper.Proofs.Settings.Reported
import PropTyper.Proofs.StableSort
import PropTyper.Proofs.Text.Case
import PropTyper.Proofs.Text.Lines
import PropTyper.Proofs.Text.Utf8
import PropTyper.Proofs.Tree.Search
import PropTyper.Proofs.Tree.Spans
import PropTyper.Proofs.Tree.Walk
