import CsiOperator.Api.Reply
import CsiOperator.Dialogue
import CsiOperator.Resource.Object

/-! Reading and writing objects through the API. -/

namespace CsiOperator.Api

/-- How many seconds it may take to reach the server. -/
def connectTimeout : Nat := 5

/-- How many seconds a reply may keep silent. -/
def readTimeout : Nat := 30

/-- A computation that sends requests and goes on with the replies. -/
abbrev Exchange (α : Type) := Dialogue Request (fun _ => Reply) α

/-- Sends a request, if it could be made, and reads the object in the reply. -/
def exchange {α : Type} (request : Except ApiFailure Request)
    (read : Json.Tree → Decode.Read α) : Exchange (Except ApiFailure α) :=
  -- A request that could not be made is told without asking the server anything.
  match request with
  | .error failure => .done (.error failure)
  | .ok request => .ask request fun reply => .done (reply.object read)

/-- The word by which a server says that an object does not exist. -/
def notFoundReason : String := "NotFound"

/-- Reads an object of the whole cluster; nothing if the server says that it does not exist. -/
def get? (α : Type) [Kind α] (name : String) : Exchange (Except ApiFailure (Option α)) := do
  -- The reason decides, not the code: another reason with code 404 is a failure.
  match ← exchange (Request.get (collection (Kind.type α) none) name) Kind.read with
  | .ok object => return .ok (some object)
  | .error (.refused status message reason code) =>
    if reason == notFoundReason then return .ok none
    else return .error (.refused status message reason code)
  | .error failure => return .error failure

/-- Creates an object of the whole cluster. -/
def create {α : Type} [Kind α] (object : α) : Exchange (Except ApiFailure α) :=
  exchange (Request.create (collection (Kind.type α) none) (Kind.toJson object)) Kind.read

/-- Merges changes into the observed state of an object of the whole cluster. -/
def mergeStatus (α : Type) [Kind α] (name : String) (change : Json) :
    Exchange (Except ApiFailure α) :=
  -- The change goes to the part of the object that clients may not write otherwise.
  exchange (Request.mergeStatus (collection (Kind.type α) none) name change) Kind.read

/-- The outcome of an exchange as the outcome of an operation. -/
def ofApi {α : Type} : Except ApiFailure α → Except Failure α
  | .ok value => .ok value
  | .error cause => .error (.api cause)

end CsiOperator.Api
