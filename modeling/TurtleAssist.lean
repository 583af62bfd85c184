import TurtleAssist.Catalog.Writer
import TurtleAssist.Main
import TurtleAssist.Proofs.Pattern.Outlook
import TurtleAssist.Proofs.Pattern.Search
import TurtleAssist.Proofs.Pattern.Language
import TurtleAssist.Proofs.Pattern.Capture
import TurtleAssist.Proofs.Pattern.Preferred
import TurtleAssist.Proofs.Text.Token
import TurtleAssist.Proofs.Text.Run
import TurtleAssist.Proofs.Pattern.Name
import TurtleAssist.Proofs.Pattern.Notation
import TurtleAssist.Proofs.Diagnostic.InnerForm
import TurtleAssist.Proofs.Diagnostic.Document
import TurtleAssist.Proofs.Diagnostic.Fallback
import TurtleAssist.Proofs.Server.History
import TurtleAssist.Proofs.Server.Session
import TurtleAssist.Proofs.Identifier.Name
import TurtleAssist.Proofs.Text.Line
import TurtleAssist.Proofs.Identifier.FirstAppearance
import TurtleAssist.Proofs.Diagnostic.Monotone
import TurtleAssist.Proofs.Pattern.Form
import TurtleAssist.Proofs.Diagnostic.Argument
import TurtleAssist.Proofs.Diagnostic.Call
import TurtleAssist.Proofs.Completion.Precedence
import TurtleAssist.Proofs.Diagnostic.Layer
import TurtleAssist.Proofs.Server.Isolation
import TurtleAssist.Proofs.Json.Grammar
import TurtleAssist.Proofs.Json.Characters
import TurtleAssist.Proofs.Json.Skipping
import TurtleAssist.Proofs.Json.Decoding
import TurtleAssist.Proofs.Json.Records
import TurtleAssist.Proofs.Json.Members
import TurtleAssist.Proofs.Catalog.Schema
import TurtleAssist.Proofs.Catalog.RoundTrip
import TurtleAssist.Proofs.Completion.Agreement
import TurtleAssist.Proofs.Completion.FreeWord
import TurtleAssist.Proofs.LineEnding
import TurtleAssist.Proofs.Pattern.Stretch
import TurtleAssist.Proofs.Diagnostic.Occurrence
import TurtleAssist.Proofs.Diagnostic.Locality
import TurtleAssist.Proofs.Identifier.Header
import TurtleAssist.Proofs.Identifier.DefineLine
import TurtleAssist.Proofs.Identifier.WholeName
import TurtleAssist.Proofs.Identifier.Signature
import TurtleAssist.Proofs.Diagnostic.Header
import TurtleAssist.Proofs.Diagnostic.Color
import TurtleAssist.Proofs.Diagnostic.Range
import TurtleAssist.Proofs.Pattern.Alternation
import TurtleAssist.Proofs.Completion.Template
import TurtleAssist.Proofs.Server.SortKey
import TurtleAssist.Proofs.Server.InsertFormat
import TurtleAssist.Proofs.Completion.SnippetReader
import TurtleAssist.Proofs.Server.Publication
import TurtleAssist.Proofs.Server.Version
import TurtleAssist.Proofs.Server.LastLook
import TurtleAssist.Proofs.CommandLine
import TurtleAssist.Proofs.Identifier.Shape
