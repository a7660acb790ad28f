import CsiOperator.Announcement
import CsiOperator.Api.Client
import CsiOperator.Decimal.Width
import CsiOperator.Decode.Instant

/-! Announcements as events of the API. -/

namespace CsiOperator

/-- An instant with six digits of fraction. -/
def Time.Timestamp.microText (t : Time.Timestamp) : String :=
  -- A second is written without its fraction, and six digits are put in its place.
  let whole := Time.Timestamp.text ⟨t.seconds, if t.nanos < 1000000000 then 0 else 1000000000⟩
  String.ofList whole.toList.dropLast ++ "." ++
    Text.padded 6 (Text.decimal (t.nanos % 1000000000 / 1000)) ++ "Z"

/-- The nanoseconds since 1970, or the seconds when those need more than 64 bits. -/
def Time.Timestamp.stamp (t : Time.Timestamp) : Int :=
  -- Before 1677 and after 2262 the nanoseconds do not fit, and then seconds have to do.
  let nanos := t.seconds * 1000000000 + t.nanos
  if Decimal.fitsSigned 64 nanos then nanos else t.seconds

namespace Api

open Decode
open Time (Timestamp)

/-- An event as the operator keeps it. -/
structure Event where
  /-- The name of the event. -/
  name : String
  /-- What it is about. -/
  regarding : Reference
  /-- What it announces. -/
  announcement : Announcement
  /-- When it was first announced. -/
  time : Timestamp
  /-- Who reports it. -/
  reporter : String
  /-- Which instance of the reporter does. -/
  reporterInstance : String
  /-- How often it has been announced and when last, from the second time on. -/
  series : Option (Nat × Timestamp)
  deriving Repr

namespace Event

/-- The resource type of events. -/
def type : ResourceType :=
  ⟨"events.k8s.io", "v1", "Event", "events"⟩

/-- An event as a value. -/
def toJson (e : Event) : Json :=
  -- What is always there is written even if it is empty.
  .record [
    ("apiVersion", some (.text type.apiVersion)),
    ("kind", some (.text type.kind)),
    ("metadata", some { Metadata.named e.name with space := e.regarding.space }.toJson),
    ("action", some (.text e.announcement.action)),
    ("reason", some (.text e.announcement.reason)),
    ("note", some (.text e.announcement.note)),
    ("type", some (.text "Normal")),
    ("eventTime", some (.text e.time.microText)),
    ("regarding", some e.regarding.toJson),
    ("reportingController", some (.text e.reporter)),
    ("reportingInstance", some (.text e.reporterInstance)),
    ("series", e.series.map fun (count, last) => .object [
      ("count", .integer count), ("lastObservedTime", .text last.microText)])]

/-- A text that has to be the given one. -/
def readConstant {ν : Type} [Source ν] (expected : String) (node : ν) : Read Unit := do
  if (← text node) == expected then return () else throw .other

/-- A number of 32 bits. -/
def readCount {ν : Type} [Source ν] (node : ν) : Read Unit := do
  -- The range is that of the field, although nothing is done with the number.
  let n ← integer node
  if Decimal.fitsSigned 32 n then return () else throw .other

/-- A field that only has to be right. -/
def checked {ν α : Type} [Source ν] (name : String) (read : ν → Read α) :
    String × (Unit → ν → Read Unit) :=
  -- The value is read for its faults only.
  (name, fun _ n => do
    let _ ← read n
    return ())

/-- Checks a reference. -/
def checkReference {ν : Type} [Source ν] (node : ν) : Read Unit :=
  -- Every part of a reference is a text that may be null.
  latest (["apiVersion", "fieldPath", "kind", "name", "namespace", "resourceVersion", "uid"].map
    fun name => checked name (nullable text)) () node

/-- Checks that a node is an event. -/
def check {ν : Type} [Source ν] (node : ν) : Read Unit :=
  -- The reply to an event is not used, but one that is no event is a failure.
  latest [
    checked "apiVersion" (readConstant type.apiVersion),
    checked "kind" (readConstant type.kind),
    checked "action" (nullable text),
    checked "deprecatedCount" (nullable readCount),
    checked "deprecatedFirstTimestamp" (nullable instant),
    checked "deprecatedLastTimestamp" (nullable instant),
    checked "deprecatedSource" (nullable (latest [
      checked "component" (nullable text), checked "host" (nullable text)] ())),
    checked "eventTime" (nullable instant),
    checked "metadata" (nullable Metadata.read),
    checked "note" (nullable text),
    checked "reason" (nullable text),
    checked "regarding" (nullable checkReference),
    checked "related" (nullable checkReference),
    checked "reportingController" (nullable text),
    checked "reportingInstance" (nullable text),
    checked "series" (nullable (latest [
      checked "count" (nullable readCount), checked "lastObservedTime" (nullable instant)] ())),
    checked "type" (nullable text)] () node

end Event

/-- Who announces, and the events that have been announced. -/
structure Recorder where
  /-- The name of the reporter. -/
  reporter : String
  /-- The instance of the reporter. -/
  reporterInstance : String
  /-- The last event about each object. -/
  events : List Event
  deriving Repr

namespace Recorder

/-- The name under which the operator announces. -/
def operatorReporter : String := "csi-driver-starter"

/-- A recorder without events; a reporter without an instance of its own is its own instance. -/
def new (reporter : String) (reporterInstance : Option String) : Recorder :=
  ⟨reporter, reporterInstance.getD reporter, []⟩

/-- The event for an announcement: the first one about an object, or the last one once more. -/
def next (r : Recorder) (regarding : Reference) (what : Announcement) (now : Timestamp) : Event :=
  -- A second announcement about an object belongs to the first one's series, whatever it says.
  match r.events.find? fun e => e.regarding == regarding with
  | some e => { e with series := some ((e.series.map (·.1 + 1)).getD 2, now) }
  | none =>
    { name := regarding.name.getD r.reporter ++ "." ++ Text.signed now.stamp, regarding,
      announcement := what, time := now, reporter := r.reporter,
      reporterInstance := r.reporterInstance, series := none }

/-- The request that announces an event. -/
def request (e : Event) : Except ApiFailure Request :=
  -- The namespace of an event is that of its object, or the default one for the whole cluster.
  let place := collection Event.type (some (e.regarding.space.getD "default"))
  if e.series.isSome then Request.merge place e.name "" "" e.toJson
  else Request.create place e.toJson

/-- Announces something about an object. An event that is not accepted is forgotten. -/
def announce (r : Recorder) (regarding : Reference) (what : Announcement) (now : Timestamp) :
    Exchange Recorder := do
  -- Only an event that is accepted is remembered, so a lost one is not taken for the first.
  let event := r.next regarding what now
  match ← exchange (request event) (Event.check (ν := Json.Tree)) with
  | .ok () => return { r with events := event :: r.events.filter fun e => e.regarding != regarding }
  | .error _ => return r

end Recorder

end Api

end CsiOperator
