import CsiOperator.File.Path
import CsiOperator.Text.Numeral

/-! Reading files: what is found along a path, and what may stand in the way. -/

namespace CsiOperator.File

/-- Why a file could not be read. -/
inductive Fault where
  /-- There is nothing of that name. -/
  | missing
  /-- A path goes on after something that is not a folder. -/
  | notFolder
  /-- A folder is not a file. -/
  | folder
  /-- A name or the whole path is too long. -/
  | tooLong
  /-- A path leads through too many links. -/
  | tooManyLinks
  /-- A path holds the character that ends paths. -/
  | terminator
  /-- The bytes of the file are not a text. -/
  | notText
  /-- Anything else, in words. -/
  | other (text : String)
  deriving DecidableEq, Repr

/-- A fault of the system with its number. -/
def Fault.numbered (text : String) (number : Nat) : String :=
  text ++ " (os error " ++ Text.decimal number ++ ")"

/-- A fault in words. -/
def Fault.message : Fault → String
  -- Those that the system tells have its number behind the words.
  | missing => numbered "No such file or directory" 2
  | notFolder => numbered "Not a directory" 20
  | folder => numbered "Is a directory" 21
  | tooLong => numbered "File name too long" 36
  | tooManyLinks => numbered "Too many levels of symbolic links" 40
  | terminator => "file name contained an unexpected NUL byte"
  | notText => "stream did not contain valid UTF-8"
  | other text => text

/-- The text that bytes stand for. -/
def decodeText (bytes : List UInt8) : Except Fault String :=
  -- Bytes that are no text at one place make no text at all.
  match String.fromUTF8? ⟨bytes.toArray⟩ with
  | some text => .ok text
  | none => .error .notText

/-- What there may be at a place. -/
inductive Entry where
  /-- A folder. -/
  | folder
  /-- A file with its bytes. -/
  | file (bytes : List UInt8)
  /-- A link, which stands for another path. -/
  | link (target : String)
  deriving DecidableEq, Repr

/-- What there is at places, which are the names along their paths from the root, and the folder in
which paths begin. A folder need not be told if there is anything in it. -/
structure System where
  /-- The files and their bytes. -/
  files : List (List String × List UInt8)
  /-- The working folder. -/
  here : List String
  /-- Folders, among them those that are empty. -/
  folders : List (List String) := []
  /-- Links and the paths that they stand for. -/
  links : List (List String × String) := []
  deriving DecidableEq, Repr

/-- Where names lead as far as links do not turn them elsewhere. -/
inductive Stop where
  /-- All names have been followed to a place. -/
  | arrived (place : List String)
  /-- There is a link in a folder, and names are left. -/
  | turned (folder : List String) (target : String) (rest : List String)
  deriving DecidableEq, Repr

namespace System

/-- The places at which a system tells that there is something. -/
def places (s : System) : List (List String) :=
  s.files.map (·.1) ++ s.folders ++ s.links.map (·.1)

/-- There is a folder at a place: the root, one around the working folder, one that is told, or one
with something in it. -/
def isFolder (s : System) (place : List String) : Bool :=
  -- Folders need not be told, as long as something is in them.
  place.isPrefixOf s.here || s.folders.contains place ||
    s.places.any fun other => place.isPrefixOf other && place.length < other.length

/-- What there is at a place. -/
def entryAt (s : System) (place : List String) : Option Entry :=
  -- Where a folder and a file are told for one place, the folder counts.
  if s.isFolder place then some .folder
  else match s.links.lookup place with
    | some target => some (.link target)
    | none => (s.files.lookup place).map .file

/-- The most bytes that a name may have. -/
def maxName : Nat := 255

/-- The least number of bytes that is too long for a path. -/
def pathLimit : Nat := 4096

/-- The most links that may be followed for one path. -/
def maxLinks : Nat := 40

/-- Goes along names from a place up to the first link. -/
def walk (s : System) : (place : List String) → List String → Except Fault Stop
  -- A name is looked up only in a folder, even if it is a way up.
  | place, [] => .ok (.arrived place)
  | place, name :: rest =>
    if s.entryAt place ≠ some .folder then .error .notFolder
    else if name.isEmpty || name == "." then s.walk place rest
    else if name == ".." then s.walk place.dropLast rest
    else if maxName < name.utf8ByteSize then .error .tooLong
    else match s.entryAt (place ++ [name]) with
      | none => .error .missing
      | some (.link target) => .ok (.turned place target rest)
      | some _ => s.walk (place ++ [name]) rest

/-- Goes along names from a place, following at most so many links. What is returned is where the names
lead, and how many links may still be followed. -/
def follow (s : System) : (links : Nat) → (place : List String) → List String →
    Except Fault (Nat × List String)
  -- A link is followed from the folder it is in, with the rest of the names behind it.
  | 0, place, path => do
    match ← s.walk place path with
    | .arrived reached => return (0, reached)
    | .turned _ _ _ => throw .tooManyLinks
  | links + 1, place, path => do
    match ← s.walk place path with
    | .arrived reached => return (links + 1, reached)
    | .turned folder target rest =>
      s.follow links (origin folder target) (names target ++ rest)

/-- Where a path leads, and how many links may still be followed; an empty path is the working
folder. -/
def lead (s : System) (path : String) : Except Fault (Nat × List String) :=
  s.follow maxLinks (origin s.here path) (names path)

/-- The place that a path leads to. -/
def resolve (s : System) (path : String) : Except Fault (List String) :=
  -- The path is checked as a text before anything is looked up.
  if path.toList.contains '\x00' then .error .terminator
  else if path.isEmpty then .error .missing
  else if pathLimit ≤ path.utf8ByteSize then .error .tooLong
  else (s.lead path).map (·.2)

/-- The bytes of the file at a place. -/
def bytesAt (s : System) (place : List String) : Except Fault (List UInt8) :=
  -- A place with no file either has something else, or nothing.
  match s.entryAt place with
  | some (.file bytes) => .ok bytes
  | some _ => .error .folder
  | none => .error .missing

/-- The bytes of the file that a path leads to. -/
def readBytes (s : System) (path : String) : Except Fault (List UInt8) := do
  s.bytesAt (← s.resolve path)

/-- The text of the file that a path leads to. -/
def readText (s : System) (path : String) : Except Fault String := do
  decodeText (← s.readBytes path)

end System

end CsiOperator.File
