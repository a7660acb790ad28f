import CsiOperator.Failure
import CsiOperator.File.System

/-! Assets: texts of manifests by name. -/

namespace CsiOperator

/-- Where assets come from. -/
abbrev AssetSource := String → Except Failure String

namespace AssetSource

/-- Assets at hand. -/
def ofEntries (assets : List (String × String)) : AssetSource := fun name =>
  -- Names are taken as they are, with nothing looked up around them.
  match assets.lookup name with
  | some text => .ok text
  | none => .error (.notFound "asset" name)

/-- The failure to read a file, with the place where it happened. -/
def unreadable (context path : String) (fault : File.Fault) : Failure :=
  .internal context ("failed to read " ++ path ++ ": " ++ fault.message)

/-- The files below a folder. -/
def ofFolder (files : File.System) (folder : String) : AssetSource := fun name =>
  -- The path is not checked: a name may lead out of the folder by its dots or through a link.
  let path := File.join folder name
  match files.readText path with
  | .ok text => .ok text
  | .error fault => .error (unreadable "load_asset" path fault)

end AssetSource

end CsiOperator
