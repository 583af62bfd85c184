/-!
# The command line

The server is started with two flags and two options. A flag may be given once
and takes no value. `--catalog` may be given once, `--language-id` any number
of times; the value of either stands after an equals sign or is the next
argument. Explicit languages replace the usual one.

The arguments are read from left to right and the first problem decides. The
program has no positional arguments: whatever is not an option or the value of
one is a problem, also after the two hyphens that end the options.

An option whose value is the next argument stays *pending* until the next option
has been recognised or the arguments end; only then is it entered. An argument
that cannot be recognised at all is therefore noticed before a pending option
that lacks its value, or has a bad one.
-/

namespace TurtleAssist

/-- What the server is started with. -/
structure Options where
  stdio : Bool := false
  debug : Bool := false
  /-- The path of the catalog, if it is not the built-in one. -/
  catalog : Option String := none
  languageIds : List String := ["scheme"]
deriving DecidableEq, Repr, Inhabited

namespace CommandLine

/-- Why there are no options. -/
inductive Problem where
  | unknownArgument
  /-- An option without its value, or a path that is empty. -/
  | invalidValue
  /-- Something is given twice that may be given once. -/
  | argumentConflict
  /-- A flag with a value. -/
  | tooManyValues
  /-- Help is asked for. -/
  | helpWanted
deriving DecidableEq, Repr

/-- What has been given so far. -/
structure Given where
  stdio : Bool := false
  debug : Bool := false
  catalog : Option String := none
  /-- The languages in order. -/
  languageIds : List String := []
deriving DecidableEq, Repr, Inhabited

namespace Given

/-- The options that have been given, with the usual language if none was named. -/
def toOptions (given : Given) : Options where
  stdio := given.stdio
  debug := given.debug
  catalog := given.catalog
  languageIds := if given.languageIds.isEmpty then ["scheme"] else given.languageIds

/-- With the flag for the standard streams. -/
def addStdio (given : Given) : Except Problem Given :=
  if given.stdio then .error .argumentConflict else .ok { given with stdio := true }

/-- With the flag for debugging. -/
def addDebug (given : Given) : Except Problem Given :=
  if given.debug then .error .argumentConflict else .ok { given with debug := true }

/-- With a catalog. -/
def addCatalog (given : Given) (path : String) : Except Problem Given :=
  if given.catalog.isSome then .error .argumentConflict
  else if path = "" then .error .invalidValue
  else .ok { given with catalog := some path }

/-- With one more language. -/
def addLanguage (given : Given) (id : String) : Except Problem Given :=
  .ok { given with languageIds := given.languageIds ++ [id] }

end Given

/-- The options that take a value. -/
inductive Valued where
  | catalog
  | languageId
deriving DecidableEq, Repr

/-- With the value of an option. -/
def Valued.add (option : Valued) (given : Given) (value : String) : Except Problem Given :=
  match option with
  | .catalog => given.addCatalog value
  | .languageId => given.addLanguage value

/-- What an argument is. -/
inductive Argument where
  /-- An option that takes a value, with the value after its equals sign. -/
  | valued (option : Valued) (attached : Option String)
  | stdio
  | debug
  | help
  | problem (problem : Problem)
deriving DecidableEq, Repr

/-- The argument before its first equals sign, and the value after it. -/
def splitValue (argument : List Char) : List Char × Option (List Char) :=
  match argument.dropWhile (· != '=') with
  | [] => (argument, none)
  | _ :: value => (argument.takeWhile (· != '='), some value)

/-- A flag, which must not have a value. -/
def flag (attached : Option (List Char)) (argument : Argument) : Argument :=
  match attached with
  | none => argument
  | some _ => .problem .tooManyValues

/-- Reads an argument of which the two hyphens in front have been taken off. -/
def Argument.ofLong (argument : List Char) : Argument :=
  let (key, attached) := splitValue argument
  match String.ofList key with
  | "catalog" => .valued .catalog (attached.map String.ofList)
  | "language-id" => .valued .languageId (attached.map String.ofList)
  | "stdio" => flag attached .stdio
  | "debug" => flag attached .debug
  | "help" => flag attached .help
  | _ => .problem .unknownArgument

/-- Reads one argument. -/
def Argument.ofText (argument : String) : Argument :=
  match argument.toList with
  | '-' :: '-' :: long => Argument.ofLong long
  | '-' :: 'h' :: _ => .help
  | _ => .problem .unknownArgument

/-- Whether the argument cannot be the value of the option before it. -/
def looksLikeOption (argument : String) : Bool :=
  match argument.toList with
  | '-' :: _ :: _ => true
  | _ => false

/-- An option that takes its value from the next argument, with that value if it has
been read. -/
structure Pending where
  option : Valued
  value : Option String
deriving DecidableEq, Repr

/-- Enters a pending option into what has been given. -/
def settle (pending : Option Pending) (given : Given) : Except Problem Given :=
  match pending with
  | none => .ok given
  | some ⟨_, none⟩ => .error .invalidValue
  | some ⟨option, some value⟩ => option.add given value

/-- The option that the argument is the value of: the one that is pending without a
value, unless the argument looks like an option itself. -/
def awaiting? (pending : Option Pending) (argument : String) : Option Valued :=
  match pending with
  | some ⟨option, none⟩ => if looksLikeOption argument then none else some option
  | _ => none

/-- Adds arguments to what has been given before them. -/
def addAll (given : Given) (pending : Option Pending) : List String → Except Problem Given
  | [] => settle pending given
  | argument :: arguments =>
    if argument = "--" then
      if arguments.isEmpty then settle pending given else .error .unknownArgument
    else
      match awaiting? pending argument with
      | some option => addAll given (some ⟨option, some argument⟩) arguments
      | none =>
        match Argument.ofText argument with
        | .problem problem => .error problem
        | .stdio => do addAll (← (← settle pending given).addStdio) none arguments
        | .debug => do addAll (← (← settle pending given).addDebug) none arguments
        | .help => do
          let _ ← settle pending given
          .error .helpWanted
        | .valued option (some value) => do
          addAll (← option.add (← settle pending given) value) none arguments
        | .valued option none => do
          addAll (← settle pending given) (some ⟨option, none⟩) arguments

/-- The options of a command line. The first argument is the name of the program. -/
def parse (arguments : List String) : Except Problem Options :=
  (addAll {} none (arguments.drop 1)).map Given.toOptions

end CommandLine

end TurtleAssist
