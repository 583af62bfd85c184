import TurtleAssist.Json.Record
import TurtleAssist.Server.Session

/-!
# Messages on the wire

An editor sends JSON texts, each after a header that tells its length in bytes.
A message names a method; if it has an `id` it is a request and wants an
answer. The few fields that the server looks at are taken out of the text by
the path of keys that leads to them, and everything else in the message is
passed over.

`receive` turns the text of one message into the texts to be sent back. Around
it the program only has to read and write.
-/

namespace TurtleAssist.Server

open Json (Failure Reader Schema)

/-- The record of one wanted field, whatever else it has. -/
def only {α : Type} (key : String) (read : Reader α) : Schema (Option α) α where
  title := key
  fields := [.of key read (fun value _ => some value) Option.isSome]
  blank := none
  finish draft :=
    match draft with
    | some value => .ok value
    | none => .error key

/-- Reads the value at the end of a path of keys. -/
def within {α : Type} (path : List String) (read : Reader α) : Reader α :=
  path.foldr (fun key inner => Reader.record (only key inner)) read

/-- The value at the end of a path of keys in the text of a message. -/
def field {α : Type} (text : String) (path : List String) (read : Reader α) : Except Failure α :=
  (within path read).run text.toList

/-- Reads an integer. -/
def integer : Reader Int := do
  match ← Reader.next with
  | none => Reader.failAhead .endOfValue
  | some c =>
    if c = '-' ∨ (Json.digitValue? c).isSome then
      if c = '-' then Reader.skip
      match ← Reader.number (c == '-') with
      | .integer value => return value
      | found => Reader.failHere (.wrongType found "an integer")
    else Reader.wrongType c "an integer"

/-- Reads the number or the string by which a request is answered. -/
def requestId : Reader Json := do
  match ← Reader.next with
  | some '"' => .string <$> Reader.text
  | _ => .number <$> integer

/-- The path of a field of the document that a message is about. -/
def ofDocument (key : String) : List String :=
  ["params", "textDocument", key]

/-- The event of a message, if its method is one that the server knows. -/
def Event.ofMessage? (method text : String) : Except Failure (Option Event) := do
  match method with
  | "initialize" => return some .connect
  | "initialized" => return some .connected
  | "shutdown" => return some .shutdown
  | "textDocument/didOpen" =>
    let uri ← field text (ofDocument "uri") Reader.text
    let language ← field text (ofDocument "languageId") Reader.text
    let version ← field text (ofDocument "version") integer
    let content ← field text (ofDocument "text") Reader.text
    return some (.opened uri language version content)
  | "textDocument/didChange" =>
    let uri ← field text (ofDocument "uri") Reader.text
    let version ← field text (ofDocument "version") integer
    let texts ← field text ["params", "contentChanges"] (Reader.list (within ["text"] Reader.text))
    return some (.changed uri version texts)
  | "textDocument/didClose" => return some (.closed (← field text (ofDocument "uri") Reader.text))
  | "textDocument/completion" =>
    let uri ← field text (ofDocument "uri") Reader.text
    let line ← field text ["params", "position", "line"] integer
    let character ← field text ["params", "position", "character"] integer
    return some (.completion uri line.toNat character.toNat)
  | _ => return none

/-- The text of an answer. -/
def answerText (id result : Json) : String :=
  (Json.object [("jsonrpc", .string "2.0"), ("id", id), ("result", result)]).text

/-- The text of an answer that says what went wrong. -/
def failureText (id : Json) (code : Int) (message : String) : String :=
  let failure := Json.object [("code", .number code), ("message", .string message)]
  (Json.object [("jsonrpc", .string "2.0"), ("id", id), ("error", failure)]).text

/-- The text of a notification. -/
def Notification.text (notification : Notification) : String :=
  (Json.object
    [ ("jsonrpc", .string "2.0"),
      ("method", .string notification.method),
      ("params", notification.params) ]).text

/-- A text with the header that tells its length. -/
def framed (text : String) : String :=
  "Content-Length: " ++ toString text.utf8ByteSize ++ "\r\n\r\n" ++ text

/-- What comes of a message: the next state, unless the session is over, and the texts
to be sent. -/
structure Received where
  next : Option State
  sent : List String

/-- The message cannot be understood. -/
def badMessage : Int := -32700

/-- The method is not known. -/
def unknownMethod : Int := -32601

/-- Handles the text of one message. -/
def receive (state : State) (text : String) : Received :=
  match field text ["method"] Reader.text with
  | .error failure => ⟨some state, [failureText .null badMessage failure.message]⟩
  | .ok "exit" => ⟨none, []⟩
  | .ok method =>
    let id := (field text ["id"] requestId).toOption
    let answered (text : Json → String) : List String := (id.map text).toList
    match Event.ofMessage? method text with
    | .error failure =>
      ⟨some state, answered fun id => failureText id badMessage failure.message⟩
    | .ok none =>
      ⟨some state, answered fun id => failureText id unknownMethod "Method not found"⟩
    | .ok (some event) =>
      let outcome := state.step event
      ⟨some outcome.state,
        outcome.notifications.map Notification.text
          ++ answered fun id => answerText id outcome.reply.toJson⟩

end TurtleAssist.Server
