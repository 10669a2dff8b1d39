import BgpTestbed.Export
import BgpTestbed.Report

/-!
# The command line

Arguments are taken from left to right, and the first fault or request for
help decides.  Options may be repeated neither in their short nor in their
long form, and no path may be empty.
-/

namespace BgpTestbed

open Files

namespace CommandLine

/-- What the arguments so far ask for. -/
structure Arguments where
  input : Option String
  out : Option String
  representation : Option String
  placeholders : Bool
  deriving DecidableEq, Repr

def Arguments.none : Arguments where
  input := Option.none
  out := Option.none
  representation := Option.none
  placeholders := false

/-- Why no export is started. -/
inductive Refusal where
  | help
  | usage
  deriving DecidableEq, Repr

/-- The options that need a path. -/
inductive PathOption where
  | out
  | representation
  deriving DecidableEq, Repr

/-- Gives a path to its place, which has to be free. -/
def place (place? : Option String) (path : String) :
    Except Refusal (Option String) :=
  if place?.isSome || path.isEmpty then .error .usage else .ok (some path)

namespace Arguments

def setInput (arguments : Arguments) (path : String) :
    Except Refusal Arguments :=
  (place arguments.input path).map fun input => { arguments with input }

def setPath (arguments : Arguments) (path : String) :
    PathOption → Except Refusal Arguments
  | .out => (place arguments.out path).map fun out => { arguments with out }
  | .representation =>
      (place arguments.representation path).map fun representation =>
        { arguments with representation }

def setPlaceholders (arguments : Arguments) : Except Refusal Arguments :=
  if arguments.placeholders then .error .usage
  else .ok { arguments with placeholders := true }

end Arguments

/-- What an argument leaves to be done: nothing, or to find the path of an
option in the next argument. -/
inductive Step where
  | done (arguments : Arguments)
  | awaiting (option : PathOption) (arguments : Arguments)

/-- Letters behind a single dash.  A letter that needs a path takes the rest
of the argument, without an equals sign in front, if there is any. -/
def shortOptions (arguments : Arguments) :
    List Char → Except Refusal Step
  | [] => .ok (.done arguments)
  | 'h' :: _ => .error .help
  | 'a' :: later => do
      let arguments ← arguments.setPlaceholders
      shortOptions arguments later
  | 'o' :: [] => .ok (.awaiting .out arguments)
  | 'o' :: '=' :: path =>
      (arguments.setPath (String.ofList path) .out).map .done
  | 'o' :: path => (arguments.setPath (String.ofList path) .out).map .done
  | _ :: _ => .error .usage

/-- The name of a long option and the text behind its first equals sign. -/
def splitLong (option : List Char) : List Char × Option (List Char) :=
  (option.takeWhile (· != '='), (option.dropWhile (· != '=')).tail?)

def longOption (arguments : Arguments) (option : List Char) :
    Except Refusal Step :=
  let (name, value?) := splitLong option
  let path (option : PathOption) : Except Refusal Step :=
    match value? with
    | some value =>
        (arguments.setPath (String.ofList value) option).map .done
    | none => .ok (.awaiting option arguments)
  let flag (result : Except Refusal Arguments) : Except Refusal Step :=
    if value?.isSome then .error .usage else result.map .done
  match String.ofList name with
  | "out" => path .out
  | "ir" => path .representation
  | "abstract" => flag arguments.setPlaceholders
  | "help" => flag (.error .help)
  | _ => .error .usage

/-- Whether an argument starts an option; a lone dash is a path. -/
def isOption (argument : String) : Bool :=
  match argument.toList with
  | '-' :: _ :: _ => true
  | _ => false

/-- Behind a double dash there are only paths. -/
def parsePaths (arguments : Arguments) :
    List String → Except Refusal Arguments
  | [] => .ok arguments
  | path :: later => do
      let arguments ← arguments.setInput path
      parsePaths arguments later

def argumentStep (arguments : Arguments) (argument : String) :
    Except Refusal Step :=
  match argument.toList with
  | '-' :: '-' :: option => longOption arguments option
  | '-' :: letter :: letters => shortOptions arguments (letter :: letters)
  | _ => (arguments.setInput argument).map .done

def parseFrom (arguments : Arguments) :
    List String → Except Refusal Arguments
  | [] => .ok arguments
  | "--" :: later => parsePaths arguments later
  | argument :: later =>
      match argumentStep arguments argument with
      | .error refusal => .error refusal
      | .ok (.done arguments) => parseFrom arguments later
      | .ok (.awaiting option arguments) =>
          match later with
          | [] => .error .usage
          | path :: later =>
              if isOption path then .error .usage
              else
                match arguments.setPath path option with
                | .error refusal => .error refusal
                | .ok arguments => parseFrom arguments later

/-- An export as the arguments ask for it. -/
structure Request where
  input : String
  representation : Option String
  settings : Settings
  deriving DecidableEq, Repr

def parse (arguments : List String) : Except Refusal Request := do
  let arguments ← parseFrom .none arguments
  match arguments.input with
  | none => .error .usage
  | some input => .ok {
      input
      representation := arguments.representation
      settings := {
        naming := if arguments.placeholders then .placeholder else default
        outDirectory := arguments.out.getD "output" } }

def perform [Monad m] [Store m] (request : Request) :
    m (Except ExportError (List String)) := do
  match ← readNetwork request.input with
  | .error error => pure (.error error)
  | .ok network =>
      match ← readRepresentation request.representation network with
      | .error error => pure (.error error)
      | .ok representation =>
          let result ← network.writeAll request.settings representation
          pure result.written

/-- How a run of the program ends. -/
inductive Outcome where
  | finished
  | failed (error : ExportError)
  | refused (refusal : Refusal)
  deriving DecidableEq

def run [Monad m] [Store m] (arguments : List String) : m Outcome := do
  match parse arguments with
  | .error refusal => pure (.refused refusal)
  | .ok request =>
      match ← perform request with
      | .error error => pure (.failed error)
      | .ok _ => pure .finished

def Outcome.exitCode : Outcome → Nat
  | .finished | .refused .help => 0
  | .failed _ => 1
  | .refused .usage => 2

/-- The report of a run that failed. -/
def Outcome.report? : Outcome → Option Report
  | .failed error => some {
      severity := .error
      title := "Cannot export the network"
      details := error.message }
  | _ => none

end CommandLine

end BgpTestbed
