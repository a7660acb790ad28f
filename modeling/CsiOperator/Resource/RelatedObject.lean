import CsiOperator.Decode.Source

/-! References to the objects that an operator is responsible for. -/

namespace CsiOperator

open Decode

/-- A reference to an object by its place in the API. -/
structure RelatedObject where
  /-- The API group; empty for the core group. -/
  group : String
  /-- The plural resource name. -/
  resource : String
  /-- The namespace; empty for objects of the whole cluster. -/
  space : String
  /-- The name of the object. -/
  name : String
  deriving DecidableEq, Repr, Inhabited

namespace RelatedObject

/-- A reference to an object of the whole cluster. -/
def clusterScoped (group resource name : String) : RelatedObject :=
  ⟨group, resource, "", name⟩

/-- A reference of which some fields have been read. -/
structure Draft where
  /-- The group, once read. -/
  group : Option String
  /-- The resource, once read. -/
  resource : Option String
  /-- The namespace, once read. -/
  space : Option String
  /-- The name, once read. -/
  name : Option String

/-- The fields of a reference in order. -/
def fields {ν : Type} [Source ν] : List (Field ν Draft) := [
  -- A namespace may be left out, since not every object is in one.
  ⟨"group", (·.group.isSome), fun d n => return { d with group := some (← text n) }, .never⟩,
  ⟨"resource", (·.resource.isSome), fun d n => return { d with resource := some (← text n) },
    .never⟩,
  ⟨"namespace", (·.space.isSome), fun d n => return { d with space := some (← text n) }, .anywhere⟩,
  ⟨"name", (·.name.isSome), fun d n => return { d with name := some (← text n) }, .never⟩]

/-- Reads a reference; an absent namespace is empty. -/
def read {ν : Type} [Source ν] (node : ν) : Read RelatedObject := do
  -- An absent namespace and an empty one are not told apart.
  let d ← record fields ⟨none, none, none, none⟩ node
  return {
    group := ← present "group" d.group
    resource := ← present "resource" d.resource
    space := d.space.getD ""
    name := ← present "name" d.name }

/-- A reference as a value; an empty namespace is left out. -/
def toJson (o : RelatedObject) : Json :=
  -- An empty namespace is not written, so it is read as an absent one.
  .record [
    ("group", some (.text o.group)),
    ("resource", some (.text o.resource)),
    ("namespace", if o.space.isEmpty then none else some (.text o.space)),
    ("name", some (.text o.name))]

end RelatedObject

end CsiOperator
