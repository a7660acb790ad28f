import CsiOperator.Resource.Condition

/-! What every object of the API carries besides its own fields. -/

namespace CsiOperator

open Decode
open Time (Timestamp)

/-- The object that an object belongs to. -/
structure Owner where
  /-- The group and version of the owner. -/
  apiVersion : String
  /-- Whether the owner cannot be deleted before its dependent. -/
  blockOwnerDeletion : Option Bool
  /-- Whether the owner is the managing controller. -/
  controller : Option Bool
  /-- The kind of the owner. -/
  kind : String
  /-- The name of the owner. -/
  name : String
  /-- The identity of the owner. -/
  uid : String
  deriving DecidableEq, Repr

namespace Owner

/-- Reads a text that null leaves empty. -/
def readText {ν : Type} [Source ν] (node : ν) : Read String := do
  return (← nullable text node).getD ""

/-- Reads an owner; whatever is absent is empty. -/
def read {ν : Type} [Source ν] (node : ν) : Read Owner :=
  -- Later fields of a name replace earlier ones, as everywhere in metadata.
  latest [
    ("apiVersion", fun o n => return { o with apiVersion := ← readText n }),
    ("blockOwnerDeletion", fun o n => return { o with blockOwnerDeletion := ← nullable truth n }),
    ("controller", fun o n => return { o with controller := ← nullable truth n }),
    ("kind", fun o n => return { o with kind := ← readText n }),
    ("name", fun o n => return { o with name := ← readText n }),
    ("uid", fun o n => return { o with uid := ← readText n })]
    ⟨"", none, none, "", "", ""⟩ node

/-- An owner as a value. -/
def toJson (o : Owner) : Json :=
  -- Four texts are always written, even if they are empty.
  .record [
    ("apiVersion", some (.text o.apiVersion)),
    ("blockOwnerDeletion", o.blockOwnerDeletion.map .bool),
    ("controller", o.controller.map .bool),
    ("kind", some (.text o.kind)),
    ("name", some (.text o.name)),
    ("uid", some (.text o.uid))]

end Owner

/-- The fields of an object that one manager has set. -/
structure FieldsEntry where
  /-- The version the fields were set in. -/
  apiVersion : Option String
  /-- The format of the fields. -/
  fieldsType : Option String
  /-- The fields in their first format. -/
  fieldsV1 : Option Json
  /-- Who set the fields. -/
  manager : Option String
  /-- How the fields were set. -/
  operation : Option String
  /-- The part of the object that was written. -/
  subresource : Option String
  /-- When the fields were set. -/
  time : Option Timestamp
  deriving Repr

namespace FieldsEntry

/-- Reads an entry; whatever is null is absent. -/
def read {ν : Type} [Source ν] (node : ν) : Read FieldsEntry :=
  -- Nothing has to be there, so there is no draft of an entry.
  latest [
    ("apiVersion", fun e n => return { e with apiVersion := ← nullable text n }),
    ("fieldsType", fun e n => return { e with fieldsType := ← nullable text n }),
    ("fieldsV1", fun e n => return { e with fieldsV1 := ← nullable any n }),
    ("manager", fun e n => return { e with manager := ← nullable text n }),
    ("operation", fun e n => return { e with operation := ← nullable text n }),
    ("subresource", fun e n => return { e with subresource := ← nullable text n }),
    ("time", fun e n => return { e with time := ← nullable instant n })]
    ⟨none, none, none, none, none, none, none⟩ node

/-- An entry as a value. -/
def toJson (e : FieldsEntry) : Json :=
  .record [
    ("apiVersion", e.apiVersion.map .text),
    ("fieldsType", e.fieldsType.map .text),
    ("fieldsV1", e.fieldsV1),
    ("manager", e.manager.map .text),
    ("operation", e.operation.map .text),
    ("subresource", e.subresource.map .text),
    ("time", e.time.map fun t => .text t.text)]

end FieldsEntry

/-- The identity and the bookkeeping of an object. -/
structure Metadata where
  /-- Notes of tools, sorted by name. -/
  annotations : Option (List (String × String))
  /-- When the object was created. -/
  creationTimestamp : Option Timestamp
  /-- How long the object may take to end. -/
  deletionGracePeriodSeconds : Option Int
  /-- When the object is to end. -/
  deletionTimestamp : Option Timestamp
  /-- What has to happen before the object may go. -/
  finalizers : Option (List String)
  /-- The start of a name that the server completes. -/
  generateName : Option String
  /-- The count of changes to what is desired. -/
  generation : Option Int
  /-- Labels for selection, sorted by name. -/
  labels : Option (List (String × String))
  /-- Who set which fields. -/
  managedFields : Option (List FieldsEntry)
  /-- The name of the object. -/
  name : Option String
  /-- The namespace of the object. -/
  space : Option String
  /-- The objects that this one belongs to. -/
  ownerReferences : Option (List Owner)
  /-- The version of the object as the server stores it. -/
  resourceVersion : Option String
  /-- The path of the object. -/
  selfLink : Option String
  /-- The identity of the object over time. -/
  uid : Option String
  deriving Repr, Inhabited

namespace Metadata

/-- Metadata that tells nothing. -/
def empty : Metadata :=
  ⟨none, none, none, none, none, none, none, none, none, none, none, none, none, none, none⟩

/-- Metadata that tells only a name. -/
def named (name : String) : Metadata :=
  { empty with name := some name }

/-- The name, or else the start of a name to be completed, or else nothing. -/
def anyName (m : Metadata) : String :=
  (m.name.orElse fun _ => m.generateName).getD ""

/-- The fields of metadata, each of which may be null. -/
def fields {ν : Type} [Source ν] : List (String × (Metadata → ν → Read Metadata)) := [
  -- Null counts as absent, and a value of the wrong type is a fault.
  ("annotations", fun m n => return { m with annotations := ← nullable (map text) n }),
  ("creationTimestamp",
    fun m n => return { m with creationTimestamp := ← nullable instant n }),
  ("deletionGracePeriodSeconds",
    fun m n => return { m with deletionGracePeriodSeconds := ← nullable integer n }),
  ("deletionTimestamp",
    fun m n => return { m with deletionTimestamp := ← nullable instant n }),
  ("finalizers", fun m n => return { m with finalizers := ← nullable (list text) n }),
  ("generateName", fun m n => return { m with generateName := ← nullable text n }),
  ("generation", fun m n => return { m with generation := ← nullable integer n }),
  ("labels", fun m n => return { m with labels := ← nullable (map text) n }),
  ("managedFields", fun m n => return { m with managedFields := ← nullable (list FieldsEntry.read) n }),
  ("name", fun m n => return { m with name := ← nullable text n }),
  ("namespace", fun m n => return { m with space := ← nullable text n }),
  ("ownerReferences", fun m n => return { m with ownerReferences := ← nullable (list Owner.read) n }),
  ("resourceVersion", fun m n => return { m with resourceVersion := ← nullable text n }),
  ("selfLink", fun m n => return { m with selfLink := ← nullable text n }),
  ("uid", fun m n => return { m with uid := ← nullable text n })]

/-- Reads metadata; a repeated field counts as it is given last. -/
def read {ν : Type} [Source ν] (node : ν) : Read Metadata :=
  latest fields empty node

/-- Metadata as a value. -/
def toJson (m : Metadata) : Json :=
  -- What is absent is left out, so that metadata is read back as it was.
  .record [
    ("annotations", m.annotations.map .textMap),
    ("creationTimestamp", m.creationTimestamp.map fun t => .text t.text),
    ("deletionGracePeriodSeconds", m.deletionGracePeriodSeconds.map .integer),
    ("deletionTimestamp", m.deletionTimestamp.map fun t => .text t.text),
    ("finalizers", m.finalizers.map .texts),
    ("generateName", m.generateName.map .text),
    ("generation", m.generation.map .integer),
    ("labels", m.labels.map .textMap),
    ("managedFields", m.managedFields.map fun es => .array (es.map FieldsEntry.toJson)),
    ("name", m.name.map .text),
    ("namespace", m.space.map .text),
    ("ownerReferences", m.ownerReferences.map fun os => .array (os.map Owner.toJson)),
    ("resourceVersion", m.resourceVersion.map .text),
    ("selfLink", m.selfLink.map .text),
    ("uid", m.uid.map .text)]

end Metadata

end CsiOperator
