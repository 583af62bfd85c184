import TurtleAssist.Server.Document
import TurtleAssist.Server.Message

/-!
# Sessions

A session is a sequence of events from an editor. Each event changes the state
of the server, sends notifications and may be answered by a result. `step` is
one event; everything that the server does is in it.

Whenever an enabled document is opened or changed, its diagnostics are
published anew with its version. When an open document is closed, the empty
list is published for it without a version. Changes and closings of documents
that are not open are only logged, and so is everything else if the server was
started for debugging.
-/

namespace TurtleAssist.Server

/-- What the server was started with. -/
structure Config where
  debug : Bool := false
  /-- The languages of the documents that are looked at. -/
  languages : List String := ["scheme"]
deriving DecidableEq, Repr, Inhabited

/-- The state of the server. -/
structure State where
  engine : Engine
  config : Config
  documents : Documents

/-- What an editor may send. -/
inductive Event where
  | connect
  | connected
  | shutdown
  | opened (uri language : String) (version : Int) (text : String)
  /-- The whole new texts, applied one after another. -/
  | changed (uri : String) (version : Int) (texts : List String)
  | closed (uri : String)
  | completion (uri : String) (line character : Nat)
deriving DecidableEq, Repr

/-- What an event is answered with. -/
inductive Reply where
  /-- Nothing to be said. -/
  | done
  /-- What the server can do. -/
  | description
  /-- What is offered, unless the document is not looked at. -/
  | completions (items : Option (List CompletionItem))
deriving DecidableEq, Repr

/-- A reply as a JSON value. -/
def Reply.toJson : Reply → Json
  | .done => .null
  | .description => serverDescription
  | .completions none => .null
  | .completions (some items) => .array (items.map CompletionItem.toJson)

/-- What comes of an event. -/
structure Outcome where
  state : State
  reply : Reply
  notifications : List Notification

namespace State

/-- A server without documents. -/
def start (engine : Engine) (config : Config) : State :=
  ⟨engine, config, .empty⟩

/-- A line for the log that is sent only for debugging. -/
def debugLog (state : State) (message : String) : List Notification :=
  if state.config.debug then [.log ("[DEBUG] " ++ message)] else []

/-- The document at an address, if it is open and enabled. -/
def enabled? (state : State) (uri : String) : Option Document :=
  (state.documents.get? uri).filter (·.isEnabled state.config.languages)

/-- The diagnostics of the document at an address, if it is open and enabled. -/
def refresh (state : State) (uri : String) : List Notification :=
  match state.enabled? uri with
  | some document =>
    [.publish uri (publishedDiagnostics state.engine document.text) (some document.version)]
  | none => []

/-- The state after a document has been opened, in place of one with its address. -/
def openDocument (state : State) (uri : String) (document : Document) : State :=
  { state with documents := state.documents.insert uri document }

/-- The state after the texts have been put into the document at an address, if it is
open. -/
def changeDocument (state : State) (uri : String) (version : Int) (texts : List String) : State :=
  match state.documents.get? uri with
  | some document =>
    { state with
      documents := state.documents.insert uri (texts.foldl (·.update version ·) document) }
  | none => state

/-- The state after the document at an address has been closed. -/
def closeDocument (state : State) (uri : String) : State :=
  { state with documents := state.documents.erase uri }

/-- **One event.** -/
def step (state : State) : Event → Outcome
  | .connect => ⟨state, .description, state.debugLog "Initializing turtle LSP server"⟩
  | .connected => ⟨state, .done, [.log "Turtle LSP server initialized"]⟩
  | .shutdown => ⟨state, .done, state.debugLog "Shutting down server"⟩
  | .opened uri language version text =>
    let next := state.openDocument uri ⟨text, language, version⟩
    ⟨next, .done,
      state.debugLog ("Document opened: " ++ uri ++ " (" ++ language ++ ")") ++ next.refresh uri⟩
  | .changed uri version texts =>
    let next := state.changeDocument uri version texts
    ⟨next, .done, state.debugLog ("Document changed: " ++ uri) ++ next.refresh uri⟩
  | .closed uri =>
    let cleared :=
      if (state.documents.get? uri).isSome then [.publish uri [] none] else []
    ⟨state.closeDocument uri, .done, state.debugLog ("Document closed: " ++ uri) ++ cleared⟩
  | .completion uri line character =>
    let items :=
      (state.enabled? uri).map fun document =>
        completionItems state.engine.catalog document.text
    ⟨state, .completions items,
      state.debugLog ("Completion request at Position \x7b line: " ++ toString line
        ++ ", character: " ++ toString character ++ " \x7d")⟩

/-- The outcomes of the events of a session, in order. -/
def run (state : State) : List Event → List Outcome
  | [] => []
  | event :: events =>
    let outcome := state.step event
    outcome :: outcome.state.run events

end State

end TurtleAssist.Server
