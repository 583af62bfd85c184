import TurtleAssist.Catalog.File
import TurtleAssist.CommandLine
import TurtleAssist.Server.Wire

/-!
# The program

Reads the command line and the catalog, then serves one editor over the
standard streams until it says goodbye. What is read and written is decided
elsewhere; here it is only read and written.
-/

namespace TurtleAssist

/-- How the program is called. -/
def usage : String :=
  "Language Server for TinyScheme turtle scripts\n\n"
    ++ "Usage: turtle-lsp [OPTIONS]\n\n"
    ++ "Options:\n"
    ++ "      --stdio             Use stdio for communication (required)\n"
    ++ "      --debug             Enable debug mode\n"
    ++ "      --catalog <PATH>    JSON catalog replacing the built-in commands, keywords"
    ++ " and variables\n"
    ++ "      --language-id <ID>  Language id that activates the server (repeatable)"
    ++ " [default: scheme]\n"
    ++ "  -h, --help              Print help\n"

/-- What is said of a problem with the command line. -/
def CommandLine.Problem.message : CommandLine.Problem → String
  | .unknownArgument => "error: unexpected argument found"
  | .invalidValue => "error: a value is required"
  | .argumentConflict => "error: an argument cannot be used multiple times"
  | .tooManyValues => "error: unexpected value for an argument"
  | .helpWanted => usage

/-- The bytes of a file, if it can be read. -/
def contentsOf (path : String) : IO (Option ByteArray) := do
  try return some (← IO.FS.readBinFile path) catch _ => return none

/-- The length told by the header of a message, or nothing at the end of the input. -/
partial def readHeader (input : IO.FS.Stream) (length : Nat) : IO (Option Nat) := do
  let line ← input.getLine
  if line.isEmpty then return none
  let words := (Text.tokens line.toList).map String.ofList
  match words with
  | [] => return some length
  | [key, value] =>
    if key = "Content-Length:" then readHeader input (value.toNat?.getD length)
    else readHeader input length
  | _ => readHeader input length

/-- So many bytes of the input, or fewer at its end. -/
partial def readBody (input : IO.FS.Stream) (length : Nat) (taken : ByteArray) : IO ByteArray := do
  if taken.size ≥ length then return taken
  let part ← input.read (USize.ofNat (length - taken.size))
  if part.isEmpty then return taken
  readBody input length (taken ++ part)

/-- Serves messages until the session is over or the input ends. -/
partial def serve (input output : IO.FS.Stream) (state : Server.State) : IO Unit := do
  match ← readHeader input 0 with
  | none => return
  | some length =>
    let body ← readBody input length ByteArray.empty
    let received := Server.receive state ((String.fromUTF8? body).getD "")
    for text in received.sent do
      output.putStr (Server.framed text)
      output.flush
    match received.next with
    | some next => serve input output next
    | none => return

end TurtleAssist

open TurtleAssist in
/-- Starts the server with the options of the command line. -/
def main (arguments : List String) : IO UInt32 := do
  match CommandLine.parse ("turtle-lsp" :: arguments) with
  | .error .helpWanted =>
    IO.print usage
    return 0
  | .error problem =>
    IO.eprintln problem.message
    return 2
  | .ok options =>
    if !options.stdio then
      IO.eprintln "Error: --stdio flag is required"
      return 1
    let contents ← contentsOf (options.catalog.getD "")
    match Catalog.load options.catalog fun _ => contents with
    | .error error =>
      IO.eprintln ("Error: " ++ Catalog.loadContext (options.catalog.getD ""))
      IO.eprintln error.message
      return 1
    | .ok catalog =>
      match Engine.ofCatalog catalog with
      | .error error =>
        IO.eprintln "Error: failed to compile diagnostic rules"
        IO.eprintln error.message
        return 1
      | .ok engine =>
        let config : Server.Config :=
          { debug := options.debug, languages := options.languageIds }
        serve (← IO.getStdin) (← IO.getStdout) (Server.State.start engine config)
        return 0
