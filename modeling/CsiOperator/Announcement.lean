import CsiOperator.Resource.Storage

/-! What the operator announces about itself. -/

namespace CsiOperator

/-- Something worth telling the people who look after a cluster. -/
inductive Announcement where
  /-- The controllers of a CSI driver have been started. -/
  | driverStarted (driver : String)
  deriving DecidableEq, Repr

namespace Announcement

/-- Why it is announced, in one word for programs. -/
def reason : Announcement → String
  | driverStarted _ => "CSIDriverControllerStarted"

/-- What the operator has done. -/
def action : Announcement → String
  | driverStarted _ => "Start"

/-- What is announced, in words for people. -/
def note : Announcement → String
  | driverStarted driver => "Started controllers for CSI driver " ++ driver

end Announcement

/-- A reference to an object by its type and name, any of which may be absent. -/
structure Reference where
  /-- The group and version of its type. -/
  apiVersion : Option String
  /-- The part of the object that is meant. -/
  fieldPath : Option String
  /-- The kind of its type. -/
  kind : Option String
  /-- The name of the object. -/
  name : Option String
  /-- The namespace of the object. -/
  space : Option String
  /-- The version of the object. -/
  resourceVersion : Option String
  /-- The identity of the object. -/
  uid : Option String
  deriving DecidableEq, Repr

namespace Reference

/-- A reference as a value. -/
def toJson (r : Reference) : Json :=
  -- A part that is absent is left out, so that the server fills in what it knows.
  .record [
    ("apiVersion", r.apiVersion.map .text),
    ("fieldPath", r.fieldPath.map .text),
    ("kind", r.kind.map .text),
    ("name", r.name.map .text),
    ("namespace", r.space.map .text),
    ("resourceVersion", r.resourceVersion.map .text),
    ("uid", r.uid.map .text)]

/-- The storage of the cluster, which announcements are about. -/
def storage : Reference :=
  ⟨some Storage.type.apiVersion, none, some Storage.type.kind, some clusterName, none, none, none⟩

end Reference

end CsiOperator
