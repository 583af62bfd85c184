import TurtleAssist.Completion.Basic
import TurtleAssist.Diagnostic.Engine
import TurtleAssist.Json.Value

/-!
# What the server sends

The messages of the server as an editor expects them, in the Language Server
Protocol: completion items, published diagnostics and log messages, each with
its JSON form. Lines and characters are unsigned numbers of thirty-two bits
there.

An editor sorts completions by a text, not by their place in the list. Each
item therefore carries the digits of its place as a sort key, filled up with
zeros to five digits.
-/

namespace TurtleAssist.Server

/-- A place in a document: a line, and a character in UTF-16 code units. -/
structure Place where
  line : UInt32
  character : UInt32
deriving DecidableEq, Repr, Inhabited

/-- A stretch of a document. -/
structure Range where
  start : Place
  stop : Place
deriving DecidableEq, Repr, Inhabited

/-- A diagnostic as it is published. -/
structure PublishedDiagnostic where
  range : Range
  severity : Severity
  message : String
deriving DecidableEq, Repr, Inhabited

/-- The published form of a diagnostic: it begins and ends on its line. -/
def PublishedDiagnostic.ofDiagnostic (diagnostic : Diagnostic) : PublishedDiagnostic where
  range :=
    { start := ⟨.ofNat diagnostic.line, .ofNat diagnostic.startColumn⟩
      stop := ⟨.ofNat diagnostic.line, .ofNat diagnostic.endColumn⟩ }
  severity := diagnostic.severity
  message := diagnostic.message

/-- How an inserted text is to be read. -/
inductive InsertFormat where
  | plainText
  | snippet
deriving DecidableEq, Repr, Inhabited

/-- An entry as it is offered. -/
structure CompletionItem where
  entry : Entry
  format : InsertFormat
  sortKey : String
deriving DecidableEq, Repr, Inhabited

/-- The sort key of a place in the list. -/
def rankDigits (rank : Nat) : String :=
  let digits := Nat.toDigits 10 rank
  String.ofList (List.replicate (5 - digits.length) '0' ++ digits)

/-- The item for the entry at a place in the list. It is a snippet if its text holds a
dollar sign. -/
def CompletionItem.ofEntry (entry : Entry) (rank : Nat) : CompletionItem where
  entry
  format := if Snippet.hasPlaceholder entry.insertText then .snippet else .plainText
  sortKey := rankDigits rank

/-- Everything that is offered for a text, in order of precedence. -/
def completionItems (catalog : Catalog) (text : String) : List CompletionItem :=
  (complete catalog text).zipIdx.map fun (entry, rank) => .ofEntry entry rank

/-- The diagnostics to be published for a text. -/
def publishedDiagnostics (engine : Engine) (text : String) : List PublishedDiagnostic :=
  (engine.diagnose text).map .ofDiagnostic

/-- A message to the editor that asks for no answer. -/
inductive Notification where
  /-- The diagnostics of a document from now on. -/
  | publish (uri : String) (diagnostics : List PublishedDiagnostic) (version : Option Int)
  /-- A line for the log. -/
  | log (message : String)
deriving DecidableEq, Repr

/-! ## JSON forms -/

/-- A number that has no sign. -/
def natural (n : Nat) : Json :=
  .number n

/-- A place as a JSON value. -/
def Place.toJson (place : Place) : Json :=
  .object
    [("line", natural place.line.toNat), ("character", natural place.character.toNat)]

/-- The number of a severity in the protocol. -/
def severityNumber : Severity → Nat
  | .error => 1
  | .warning => 2
  | .information => 3

/-- A published diagnostic as a JSON value. -/
def PublishedDiagnostic.toJson (diagnostic : PublishedDiagnostic) : Json :=
  .object
    [ ("range",
        .object
          [("start", diagnostic.range.start.toJson), ("end", diagnostic.range.stop.toJson)]),
      ("severity", natural (severityNumber diagnostic.severity)),
      ("code", .string Diagnostic.code),
      ("source", .string "turtle"),
      ("message", .string diagnostic.message) ]

/-- The number of a kind of entry in the protocol. -/
def kindNumber : EntryKind → Nat
  | .text => 1
  | .function => 3
  | .variable => 6
  | .keyword => 14
  | .snippet => 15
  | .color => 16
  | .constant => 21

/-- The number of a format in the protocol. -/
def formatNumber : InsertFormat → Nat
  | .plainText => 1
  | .snippet => 2

/-- A completion item as a JSON value. -/
def CompletionItem.toJson (item : CompletionItem) : Json :=
  .object
    [ ("label", .string item.entry.label),
      ("kind", natural (kindNumber item.entry.kind)),
      ("detail", .string item.entry.detail),
      ("documentation",
        .object
          [("kind", .string "markdown"), ("value", .string item.entry.documentation)]),
      ("sortText", .string item.sortKey),
      ("insertText", .string item.entry.insertText),
      ("insertTextFormat", natural (formatNumber item.format)) ]

/-- The name of the method by which a notification is sent. -/
def Notification.method : Notification → String
  | .publish .. => "textDocument/publishDiagnostics"
  | .log _ => "window/logMessage"

/-- The parameters of a notification as a JSON value. -/
def Notification.params : Notification → Json
  | .publish uri diagnostics version =>
    .ofMembers
      [ some ("uri", .string uri),
        some ("diagnostics", .array (diagnostics.map PublishedDiagnostic.toJson)),
        version.map fun number => ("version", .number number) ]
  | .log message => .object [("type", natural 3), ("message", .string message)]

/-- A notification as a JSON value. -/
def Notification.toJson (notification : Notification) : Json :=
  .object [("method", .string notification.method), ("params", notification.params)]

/-- What the server says of itself when an editor connects: it wants the whole text of
a changed document, and it can be asked for completions after an opening
parenthesis. -/
def serverDescription : Json :=
  .object
    [ ("capabilities",
        .object
          [ ("textDocumentSync", natural 1),
            ("completionProvider", .object [("triggerCharacters", .strings ["("])]) ]),
      ("serverInfo",
        .object [("name", .string "turtle-lsp"), ("version", .string "0.1.0")]) ]

end TurtleAssist.Server
