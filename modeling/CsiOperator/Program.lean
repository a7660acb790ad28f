import CsiOperator.Asset
import CsiOperator.CommandLine.Options
import CsiOperator.Descriptor.Builtin
import CsiOperator.Descriptor.File
import CsiOperator.Kubeconfig
import CsiOperator.Starter.Basic

/-! The program: what it does for a command line, up to the point where the operator runs. -/

namespace CsiOperator.Program

open CommandLine (Command Invocation Misuse Options Setting)

/-- The bytes of the file that a path leads to. -/
abbrev FileReader (m : Type → Type) := String → m (Except File.Fault (List UInt8))

/-- What comes of a command line. -/
inductive Outcome where
  /-- A text has been printed. -/
  | printed (text : String)
  /-- The command line is not understood, or asks for something else. -/
  | misused (misuse : Misuse)
  /-- Something went wrong. -/
  | failed (failure : Failure)
  /-- The operator is ready to run. -/
  | ready (options : Options) (starter : Starter)
  deriving Repr

variable {m : Type → Type} [Monad m]

/-- Reads a text file. -/
def readText (files : FileReader m) (path : String) : m (Except File.Fault String) := do
  return (← files path).bind File.decodeText

/-- The drivers of the drivers file, or those that are built in. -/
def loadDrivers (files : FileReader m) (options : Options) :
    m (Except Failure (List Descriptor)) := do
  -- A drivers file replaces the builtin drivers altogether.
  match options.driversFile with
  | none => return .ok Descriptor.builtin
  | some path =>
    match ← readText files path with
    | .error fault => return .error (AssetSource.unreadable "load_drivers" path fault)
    | .ok yaml => return Descriptor.load yaml

/-- A failure to find out how to reach the cluster, with the step and the reason. -/
def unreachable (step reason : String) : Failure :=
  .internal "create_client" ("failed to " ++ step ++ ": " ++ reason)

/-- Finds out how to reach the cluster, and which namespace is meant where none is named. Without a
file the program would have to run in the cluster itself. -/
def connect [Decode.Wording] (files : FileReader m) (path : Option String) :
    m (Except Failure String) := do
  -- Whatever keeps the cluster out of reach is told as one kind of failure.
  match path with
  | none => return .error (unreachable "infer config" "no configuration is found")
  | some path =>
    match ← readText files path with
    | .error fault => return .error (unreachable ("read " ++ path) fault.message)
    | .ok yaml =>
      match Kubeconfig.parse yaml with
      | .error fault =>
        return .error (unreachable ("read " ++ path) (Decode.Wording.yaml yaml fault))
      | .ok config =>
        match config.load with
        | .error reason => return .error (unreachable "load kubeconfig" reason)
        | .ok space => return .ok space

/-- Prints the drivers. -/
def printDrivers (files : FileReader m) (options : Options) : m Outcome := do
  -- Drivers are printed only after all of them have been accepted.
  match ← loadDrivers files options with
  | .error failure => return .failed failure
  | .ok ds => return .printed (Descriptor.print ds)

/-- Gets the operator ready. -/
def prepare [Decode.Wording] (files : FileReader m) (options : Options) : m Outcome := do
  -- The cluster is looked for first, so its lack is told even when the drivers are wrong.
  match ← connect files options.kubeconfig with
  | .error failure => return .failed failure
  | .ok _ =>
    match ← loadDrivers files options with
    | .error failure => return .failed failure
    | .ok ds =>
      match Starter.new ds with
      | .error failure => return .failed failure
      | .ok starter => return .ready options starter

/-- Does what a command line asks for. -/
def run [Decode.Wording] (files : FileReader m) (environment : String → Option String)
    (arguments : List String) : m Outcome := do
  -- The arguments decide before any file is read.
  match CommandLine.parse environment arguments with
  | .error misuse => return .misused misuse
  | .ok invocation =>
    match invocation.effective with
    | .controller => prepare files invocation.options
    | .drivers => printDrivers files invocation.options

/-- The name of the program and its version. -/
def version : String := "storage-operator 0.1.0\n"

/-- How the program is called. -/
def help : String :=
  -- Flags are listed in the order of the settings.
  "Usage: storage-operator [OPTIONS] [COMMAND]\n\nCommands:\n" ++
    "  controller  Run the driver starter controller (default mode)\n" ++
    "  drivers     Print the effective driver configs as YAML and exit\n" ++
    "  help        Print this message or the help of the given subcommand(s)\n\nOptions:\n" ++
    String.join (Setting.all.map fun s => "  --" ++ s.flag ++ " [env: " ++ s.variableName ++ "]\n") ++
    "  -h, --help\n  -V, --version\n"

namespace Outcome

/-- The number that the program exits with. -/
def exitCode : Outcome → Nat
  -- Asking for help is no misuse, and being ready means that the rest is up to the cluster.
  | printed _ => 0
  | misused .help => 0
  | misused .version => 0
  | misused _ => 2
  | failed _ => 1
  | ready _ _ => 1

/-- What the program prints. -/
def output : Outcome → String
  -- Complaints are printed elsewhere, so a failure prints nothing here.
  | printed text => text
  | misused .help => help
  | misused .version => version
  | _ => ""

/-- What the program complains about. -/
def complaint [Decode.Wording] : Outcome → String
  -- Every complaint ends its line.
  | misused .help => ""
  | misused .version => ""
  | misused _ => "error: invalid arguments\n\nFor more information, try '--help'.\n"
  | failed failure => "Error: " ++ failure.message ++ "\n"
  | ready _ _ => "Error: no connection to the cluster is at hand\n"
  | printed _ => ""

end Outcome

end CsiOperator.Program
