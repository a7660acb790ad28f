import CsiOperator.Decimal.Width
import CsiOperator.Text.Numeral

/-! The settings of the operator: how each is named, and which values it takes. -/

namespace CsiOperator.CommandLine

/-- What is wrong with a command line, or what it asks for instead of running. -/
inductive Misuse where
  /-- It has an argument that is not known. -/
  | unknownArgument
  /-- A value is missing, empty, or none of those that are possible. -/
  | invalidValue
  /-- A number is not one, or out of range. -/
  | valueValidation
  /-- A setting is given twice. -/
  | argumentConflict
  /-- A word is not a command. -/
  | invalidCommand
  /-- A flag is given a value. -/
  | tooManyValues
  /-- It asks for help. -/
  | help
  /-- It asks for the version. -/
  | version
  deriving DecidableEq, Repr

/-- The form of log lines. -/
inductive LogFormat where
  /-- Lines for people. -/
  | text
  /-- One JSON object a line. -/
  | json
  deriving DecidableEq, Repr, Inhabited

/-- The name of a form. -/
def LogFormat.name : LogFormat → String
  | text => "text"
  | json => "json"

/-- The form that a name stands for. -/
def LogFormat.ofName? (name : String) : Option LogFormat :=
  [text, json].find? fun f => f.name == name

/-- A setting. -/
inductive Setting where
  /-- The file that tells how to reach the cluster. -/
  | kubeconfig
  /-- The seconds between syncs. -/
  | resync
  /-- The folder with the assets. -/
  | assetFolder
  /-- The file with the drivers. -/
  | driversFile
  /-- The seconds between publications of related objects. -/
  | publication
  /-- The form of log lines. -/
  | logFormat
  deriving DecidableEq, Repr

namespace Setting

/-- The settings in the order in which the environment is looked at. -/
def all : List Setting :=
  [kubeconfig, resync, assetFolder, driversFile, publication, logFormat]

/-- The name of a setting on the command line, without the dashes. -/
def flag : Setting → String
  -- Intervals are given in seconds, and their flags say so.
  | kubeconfig => "kubeconfig"
  | resync => "resync-interval-secs"
  | assetFolder => "asset-dir"
  | driversFile => "drivers-file"
  | publication => "related-objects-interval-secs"
  | logFormat => "log-format"

/-- The variable of the environment that gives a setting. -/
def variableName : Setting → String
  -- The variables have the prefix of the program, but for the one that other programs know, too.
  | kubeconfig => "KUBECONFIG"
  | resync => "STORAGE_OPERATOR_RESYNC_INTERVAL_SECS"
  | assetFolder => "STORAGE_OPERATOR_ASSET_DIR"
  | driversFile => "STORAGE_OPERATOR_DRIVERS_FILE"
  | publication => "STORAGE_OPERATOR_RELATED_OBJECTS_INTERVAL_SECS"
  | logFormat => "STORAGE_OPERATOR_LOG_FORMAT"

/-- The setting of a name on the command line. -/
def ofFlag? (flag : String) : Option Setting :=
  all.find? fun s => s.flag == flag

/-- The values of a setting. -/
abbrev Value : Setting → Type
  | kubeconfig => String
  | resync => Nat
  | assetFolder => String
  | driversFile => String
  | publication => Nat
  | logFormat => LogFormat

/-- A path, which is not empty. -/
def readPath (text : String) : Except Misuse String :=
  if text.isEmpty then .error .invalidValue else .ok text

/-- A number of seconds of 64 bits, at least one; a plus sign may come first. -/
def readSeconds (text : String) : Except Misuse Nat :=
  -- One plus sign is passed over; a second one is no digit.
  let digits := match text.toList with
    | '+' :: rest => rest
    | cs => cs
  match Text.natural? 10 digits with
  | some n => if 1 ≤ n && Decimal.fitsUnsigned 64 n then .ok n else .error .valueValidation
  | none => .error .valueValidation

/-- The name of a form. -/
def readLogFormat (text : String) : Except Misuse LogFormat :=
  -- The name has to be that of a form exactly.
  match LogFormat.ofName? text with
  | some f => .ok f
  | none => .error .invalidValue

/-- The value that a text means for a setting. -/
def read : (s : Setting) → String → Except Misuse s.Value
  -- Paths are not looked up yet, so any text that is not empty is one.
  | kubeconfig => readPath
  | resync => readSeconds
  | assetFolder => readPath
  | driversFile => readPath
  | publication => readSeconds
  | logFormat => readLogFormat

end Setting

end CsiOperator.CommandLine
