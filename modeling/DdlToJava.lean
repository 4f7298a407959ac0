import DdlToJava.Main
import DdlToJava.Rules.Writer
import DdlToJava.Run.Machine
import DdlToJava.Proofs.Outcome
import DdlToJava.Proofs.Text.Reading
import DdlToJava.Proofs.Text.Search
import DdlToJava.Proofs.Text.Joined
import DdlToJava.Proofs.Text.Tail
import DdlToJava.Proofs.Text.Squeeze
import DdlToJava.Proofs.Text.Filled
import DdlToJava.Proofs.Ddl.Scan
import DdlToJava.Proofs.Ddl.Columns
import DdlToJava.Proofs.Ddl.Sources
import DdlToJava.Proofs.Ddl.Kept
import DdlToJava.Proofs.Ddl.Clash
import DdlToJava.Proofs.Ddl.Faults
import DdlToJava.Proofs.Ddl.Remark
import DdlToJava.Proofs.Ddl.Settled
import DdlToJava.Proofs.Ddl.Comment
import DdlToJava.Proofs.Ddl.Tidy
import DdlToJava.Proofs.Ddl.Layout
import DdlToJava.Proofs.Ddl.Printed
import DdlToJava.Proofs.Ddl.PrintedBody
import DdlToJava.Proofs.Ddl.PrintedText
import DdlToJava.Proofs.Ddl.PrintedName
import DdlToJava.Proofs.Ddl.PrintedKey
import DdlToJava.Proofs.Ddl.RoundTrip
import DdlToJava.Proofs.Console.Markup
import DdlToJava.Proofs.Console.Sequence
import DdlToJava.Proofs.Console.Layout
import DdlToJava.Proofs.Files.Tree
import DdlToJava.Proofs.Text.Utf8
import DdlToJava.Proofs.Text.Capital
import DdlToJava.Proofs.Run.Notice
import DdlToJava.Proofs.Run.Execution
import DdlToJava.Proofs.Run.Request
import DdlToJava.Proofs.Run.Store
import DdlToJava.Proofs.Run.Delivery
import DdlToJava.Proofs.Artifact.Legible
import DdlToJava.Proofs.Artifact.Entity
import DdlToJava.Proofs.Files.Footprint
import DdlToJava.Proofs.Run.Keeps
import DdlToJava.Proofs.Run.ReadBack
import DdlToJava.Proofs.Run.OwnFiles
import DdlToJava.Proofs.Artifact.Agreement
import DdlToJava.Proofs.Rules.Schema
import DdlToJava.Proofs.Rules.Edit
import DdlToJava.Proofs.Rules.Leaves
import DdlToJava.Proofs.Console.Emoji
import DdlToJava.Proofs.Console.Verbatim
import DdlToJava.Proofs.Run.Effect
import DdlToJava.Proofs.Run.Loading
import DdlToJava.Proofs.Run.Fallback
import DdlToJava.Proofs.Run.Report
import DdlToJava.Proofs.Path
import DdlToJava.Proofs.Json.Printed
import DdlToJava.Proofs.Json.RoundTrip
import DdlToJava.Proofs.Json.Short
import DdlToJava.Proofs.Rules.RoundTrip
import DdlToJava.Proofs.Run.Ignored
import DdlToJava.Proofs.Run.Prompted
import DdlToJava.Proofs.Console.Escaped
import DdlToJava.Proofs.Run.Unreadable
import DdlToJava.Proofs.Run.StoreAgain
import DdlToJava.Proofs.Run.Rerun
import DdlToJava.Proofs.Text.Pattern
import DdlToJava.Proofs.Ddl.Followed
import DdlToJava.Proofs.Ddl.Guarded
import DdlToJava.Proofs.Identifier.Usable
import DdlToJava.Proofs.Ddl.ColumnPattern
import DdlToJava.Proofs.Ddl.ColumnGrammar
import DdlToJava.Proofs.Ddl.SearchPattern
import DdlToJava.Proofs.Ddl.LineDepth
import DdlToJava.Proofs.JavaType.Token
import DdlToJava.Proofs.JavaType.Reading
import DdlToJava.Proofs.JavaType.Range
import DdlToJava.Proofs.Identifier.Camel
import DdlToJava.Proofs.Identifier.Prefix
import DdlToJava.Proofs.Artifact.Separator
