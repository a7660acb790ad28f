import CsiOperator.Text.Blank

/-! Resource types, and where the API serves the objects of each. -/

namespace CsiOperator

/-- A type of objects and its place in the API. -/
structure ResourceType where
  /-- The API group; empty for the core group. -/
  group : String
  /-- The version within the group. -/
  version : String
  /-- The name of the type in documents. -/
  kind : String
  /-- The name of the type in paths. -/
  plural : String
  deriving DecidableEq, Repr, Inhabited

namespace ResourceType

/-- The group of the objects that configure a cluster. -/
def configGroup : String := "config.openshift.io"

/-- The group of the objects that configure the operators of a cluster. -/
def operatorGroup : String := "operator.openshift.io"

/-- The group and version of a type as documents write them; the core group is left out. -/
def apiVersion (t : ResourceType) : String :=
  if t.group.isEmpty then t.version else t.group ++ "/" ++ t.version

/-- The group and the version before and after the first slash; without one the group is empty. -/
def splitVersion (apiVersion : String) : String × String :=
  -- A second slash belongs to the version.
  match Text.splitFirst '/' apiVersion.toList with
  | some (group, version) => (String.ofList group, String.ofList version)
  | none => ("", apiVersion)

/-- The plural of a kind in lower case, by the spelling rules of English nouns. -/
def pluralOf (kind : String) : String :=
  let word := String.ofList (kind.toList.map Char.toLower)
  let ends (s : String) : Bool := s.toList.isSuffixOf word.toList
  -- The letter before a final y is looked up by the length in bytes.
  let before := if word.utf8ByteSize < 2 then none else word.toList[word.utf8ByteSize - 2]?
  if word == "endpoints" || word == "endpointslices" then word
  else if word == "nodemetrics" then "nodes"
  else if word == "podmetrics" then "pods"
  else if ends "s" || ends "x" || ends "z" || ends "ch" || ends "sh" then word ++ "es"
  else if ends "y" && before.any (fun c => !(['a', 'e', 'i', 'o', 'u'].contains c)) then
    String.ofList (word.toList.dropLast ++ ['i', 'e', 's'])
  else word ++ "s"

/-- The type of a kind in an API version. -/
def ofKind (apiVersion kind : String) : ResourceType :=
  -- The plural is guessed from the kind, as nobody is asked for it.
  let (group, version) := splitVersion apiVersion
  ⟨group, version, kind, pluralOf kind⟩

end ResourceType

end CsiOperator
