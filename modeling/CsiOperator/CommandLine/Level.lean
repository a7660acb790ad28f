import CsiOperator.CommandLine.Setting
import CsiOperator.Text.Blank

/-! One level of a command line: the arguments before a command, or those after it. -/

namespace CsiOperator.CommandLine

/-- What the program is to do. -/
inductive Command where
  /-- Run the operator. -/
  | controller
  /-- Print the drivers. -/
  | drivers
  deriving DecidableEq, Repr, Inhabited

namespace Command

/-- The word for a command. -/
def name : Command → String
  | controller => "controller"
  | drivers => "drivers"

/-- The command that a word stands for. -/
def ofName? (name : String) : Option Command :=
  [controller, drivers].find? fun c => c.name == name

/-- The word that asks for help. -/
def helpName : String := "help"

/-- What comes of asking for help with words, which may name one command. -/
def helpOn : List String → Misuse
  -- Help on help is help, and on several commands at once there is none.
  | [] => .help
  | [word] => if (ofName? word).isSome || word == helpName then .help else .invalidCommand
  | _ => .invalidCommand

end Command

/-- Where a value comes from; later origins count more. -/
inductive Origin where
  /-- The environment. -/
  | environment
  /-- The command line. -/
  | arguments
  deriving DecidableEq, Repr

/-- The values given at one level, by setting. -/
abbrev Given := (s : Setting) → Option (Origin × s.Value)

namespace Given

/-- Nothing is given. -/
def nothing : Given := fun _ => none

/-- One more value. -/
def set (given : Given) (s : Setting) (origin : Origin) (value : s.Value) : Given := fun t =>
  if h : s = t then some (origin, h ▸ value) else given t

/-- Takes a value from the command line; no setting may have two. -/
def take (given : Given) (s : Setting) (text : String) : Except Misuse Given :=
  -- The value is looked at only after the check that it is the first one.
  if (given s).isSome then .error .argumentConflict
  else do return given.set s .arguments (← s.read text)

/-- Takes the values of the environment for the settings that have none yet. -/
def complete (environment : String → Option String) : Given → List Setting → Except Misuse Given
  -- The command line has been looked at before, so its values stay.
  | given, [] => .ok given
  | given, s :: rest =>
    match given s, environment s.variableName with
    | none, some text => do
      let value ← s.read text
      complete environment (given.set s .environment value) rest
    | _, _ => complete environment given rest

end Given

/-- A setting that has been named, and whose value is still to be looked at. -/
inductive Pending where
  /-- There is none. -/
  | idle
  /-- The next argument is its value. -/
  | waiting (s : Setting)
  /-- Its value. -/
  | holding (s : Setting) (text : String)
  deriving Repr

/-- Looks at the value of the pending setting. -/
def Pending.settle (pending : Pending) (given : Given) : Except Misuse Given :=
  -- A setting that still waits for its value has none.
  match pending with
  | .idle => .ok given
  | .waiting _ => .error .invalidValue
  | .holding s text => given.take s text

/-- What an argument is by its form. -/
inductive Argument where
  /-- The end of all flags. -/
  | separator
  /-- A long flag, perhaps with a value attached. -/
  | long (name : String) (value : Option String)
  /-- A group of short flags. -/
  | short (first : Char)
  /-- A word. -/
  | word
  deriving DecidableEq, Repr

/-- The form of an argument. -/
def Argument.ofText (argument : String) : Argument :=
  -- Two hyphens alone end the flags, and one hyphen alone is a word.
  match argument.toList with
  | ['-', '-'] => .separator
  | '-' :: '-' :: rest =>
    match Text.splitFirst '=' rest with
    | some (name, value) => .long (String.ofList name) (some (String.ofList value))
    | none => .long (String.ofList rest) none
  | '-' :: first :: _ => .short first
  | _ => .word

/-- What a level leaves: the values, the pending setting, and the command with the arguments after it. -/
structure Level where
  /-- The values looked at. -/
  given : Given
  /-- The setting whose value is still to be looked at. -/
  pending : Pending
  /-- The command and its arguments. -/
  command : Option (Command × List String)

/-- What is wrong with a word that is neither a value nor a command. -/
def strayWord (outer : Bool) : Misuse :=
  if outer then .invalidCommand else .unknownArgument

/-- What is wrong with a word after the end of all flags. -/
def trailingWord (outer : Bool) (word : String) : Misuse :=
  -- A command is no value, so it is told apart from words that mean nothing.
  if outer && ((Command.ofName? word).isSome || word == Command.helpName) then .unknownArgument
  else strayWord outer

/-- Goes through the arguments of a level; only the outer one has commands and tells the version. The
value of a setting is looked at when the next flag comes, unless it is attached to its own. -/
def scan (outer : Bool) (given : Given) (pending : Pending) : List String → Except Misuse Level
  -- The value of a setting is looked at when the next flag comes, so faults come in that order.
  | [] => .ok ⟨given, pending, none⟩
  | argument :: rest =>
    match pending, Argument.ofText argument with
    | _, .separator =>
      match rest with
      | [] => .ok ⟨given, pending, none⟩
      | word :: _ => .error (trailingWord outer word)
    | pending, .long name value =>
      if name == "help" || (outer && name == "version") then
        if value.isSome then .error .tooManyValues else do
        let _ ← pending.settle given
        throw (if name == "help" then .help else .version)
      else
        match Setting.ofFlag? name with
        | none => .error .unknownArgument
        | some s => do
          let given ← pending.settle given
          match value with
          | some text => scan outer (← given.take s text) .idle rest
          | none => scan outer given (.waiting s) rest
    | pending, .short first =>
      if first == 'h' || (outer && first == 'V') then do
        let _ ← pending.settle given
        throw (if first == 'h' then .help else .version)
      else .error .unknownArgument
    | .waiting s, .word => scan outer given (.holding s argument) rest
    | pending, .word =>
      if !outer then .error (strayWord outer)
      else if argument == Command.helpName then .error (Command.helpOn rest)
      else match Command.ofName? argument with
        | some command => .ok ⟨given, pending, some (command, rest)⟩
        | none => .error (strayWord outer)

/-- Without arguments, nothing changes. -/
@[simp] theorem scan_nil (outer : Bool) (given : Given) (pending : Pending) :
    scan outer given pending [] = .ok ⟨given, pending, none⟩ := by
  rw [scan]

/-- The values of a level once its pending setting and the environment have been looked at. -/
def Level.finish (environment : String → Option String) (level : Level) : Except Misuse Given := do
  Given.complete environment (← level.pending.settle level.given) Setting.all

end CsiOperator.CommandLine
