import CsiOperator.Api.Reply
import CsiOperator.Json.Merge
import CsiOperator.Json.Printer

/-! A server that stores objects by their paths and numbers its writes. -/

namespace CsiOperator.Api

/-- The objects of a server. -/
structure Server where
  /-- The number of the last write. -/
  version : Nat
  /-- The objects by path. -/
  objects : List (String × Json)
  deriving Repr

namespace Server

/-- A server without objects. -/
def empty : Server :=
  ⟨100, []⟩

/-- An object with the version under which it is stored. -/
def stamped (version : Nat) (object : Json) : Json :=
  -- The version is put in by a merge, so metadata keeps all else.
  .merge (some object) (.object [("metadata", .object [
    ("resourceVersion", .text (Text.decimal version))])])

/-- The version under which an object is stored. -/
def versionOf (object : Json) : Option String := do
  (← (← object.get? "metadata").get? "resourceVersion").text?

/-- Stores an object, which counts as the next write. -/
def store (s : Server) (path : String) (object : Json) : Server :=
  ⟨s.version + 1, (path, stamped (s.version + 1) object) :: s.objects.filter fun o => o.1 != path⟩

/-- Removes an object, which counts as the next write. -/
def remove (s : Server) (path : String) : Server :=
  ⟨s.version + 1, s.objects.filter fun o => o.1 != path⟩

/-- A refusal in the words of a server. -/
def refusal (code : Nat) (reason message : String) : Reply :=
  -- A refusal has the shape of an object, as any reply does.
  .answered code (Json.object [("kind", .text "Status"), ("apiVersion", .text "v1"),
    ("status", .text "Failure"), ("message", .text message), ("reason", .text reason),
    ("code", .integer code)]).compact

/-- The object that a path leads to is not there. -/
def missing : Reply :=
  refusal 404 "NotFound" "not found"

/-- The ending of the paths of observed states. -/
def statusSuffix : List Char := "/status".toList

/-- The path of the object whose observed state a path leads to. -/
def ofStatusPath? (path : String) : Option String :=
  -- Only one part of an object has a path of its own.
  if statusSuffix.isSuffixOf path.toList then
    some (String.ofList (path.toList.take (path.toList.length - statusSuffix.length)))
  else none

/-- Merges a change into the observed state of an object. A change that names a version is refused when
the object is stored under another one. -/
def mergeStatus (s : Server) (path : String) (change : Json) : Reply × Server :=
  -- Only the observed state of the change is taken over, whatever else it may hold.
  match s.objects.lookup path with
  | none => (missing, s)
  | some object =>
    if (versionOf change).isSome && versionOf change != versionOf object then
      (refusal 409 "Conflict" "the object has been modified", s)
    else
      let status := Json.object (((change.get? "status").map fun v => ("status", v)).toList)
      let s := s.store path (.merge (some object) status)
      (.answered 200 ((s.objects.lookup path).getD .null).compact, s)

/-- Answers a request: objects are read, created, and changed in their observed states. -/
def answer (s : Server) (request : Request) : Reply × Server :=
  -- Any other path is answered as that of an object that does not exist.
  let path := request.target.path
  match request.method with
  | .get =>
    match s.objects.lookup path with
    | some object => (.answered 200 object.compact, s)
    | none => (missing, s)
  | .patch =>
    match ofStatusPath? path with
    | some path => s.mergeStatus path (request.body.getD .null)
    | none => (missing, s)
  | .post =>
    let object := request.body.getD .null
    match (object.get? "metadata").bind fun m => (m.get? "name").bind Json.text? with
    | none => (refusal 422 "Invalid" "a name is required", s)
    | some name =>
      let path := path ++ "/" ++ name
      if (s.objects.lookup path).isSome then
        (refusal 409 "AlreadyExists" "the object exists already", s)
      else
        let s := s.store path object
        (.answered 201 ((s.objects.lookup path).getD .null).compact, s)

end Server

end CsiOperator.Api
