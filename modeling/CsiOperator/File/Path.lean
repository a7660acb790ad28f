import CsiOperator.Text.Blank

/-! Paths of files. -/

namespace CsiOperator.File

/-- A path below a folder. An absolute path stands for itself. -/
def join (folder path : String) : String :=
  -- A folder that is empty or ends in a slash needs no other slash.
  if path.toList.head? == some '/' || folder.isEmpty then path
  else if folder.toList.getLast? == some '/' then folder ++ path
  else folder ++ "/" ++ path

/-- A path that begins at the root of the file system. -/
def isAbsolute (path : String) : Bool :=
  path.toList.head? == some '/'

/-- Where a path begins that is met in a folder. -/
def origin (folder : List String) (path : String) : List String :=
  if isAbsolute path then [] else folder

/-- The names along a path; a repeated or trailing slash leaves an empty name. -/
def names (path : String) : List String :=
  -- An absolute path has an empty name in front of its slash, which is dropped.
  let pieces := (Text.splitAt '/' path.toList).map String.ofList
  if isAbsolute path then pieces.drop 1 else pieces

end CsiOperator.File
