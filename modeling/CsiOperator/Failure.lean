import CsiOperator.Decode.Fault
import CsiOperator.Text.Quoted

/-! What may go wrong, and the words for it. -/

namespace CsiOperator

open Decode (Wording)
open Text (quoted decimal)

/-- Why a request to the API did not bring an object back. -/
inductive ApiFailure where
  /-- The server refused the request. -/
  | refused (status message reason : String) (code : Nat)
  /-- The request or its answer got lost on the way. -/
  | transport (text : String)
  /-- The request could not be made. -/
  | request (text : String)
  /-- The body of the answer is not the object that was asked for. -/
  | response (body : String) (fault : Decode.Fault)
  deriving DecidableEq, Repr

namespace ApiFailure

/-- The failure in words. -/
def message [Wording] : ApiFailure → String
  -- The server's reply is shown whole, as a record with its fields in their order.
  | refused status message reason code =>
    "ApiError: " ++ message ++ ": " ++ reason ++ " (ErrorResponse \x7b status: " ++ quoted status ++
      ", message: " ++ quoted message ++ ", reason: " ++ quoted reason ++ ", code: " ++
      decimal code ++ " \x7d)"
  | transport text => "ServiceError: " ++ text
  | request text => "Failed to build request: " ++ text
  | response body fault => "Error deserializing response: " ++ Wording.json body fault

/-- The code with which the server refused the request. -/
def code? : ApiFailure → Option Nat
  -- Only a reply has a code; whatever goes wrong on the way has none.
  | refused _ _ _ code => some code
  | _ => none

end ApiFailure

/-- Why an operation failed. -/
inductive Failure where
  /-- A request to the API failed. -/
  | api (cause : ApiFailure)
  /-- An object that has to exist does not. -/
  | notFound (kind name : String)
  /-- The description of a driver is invalid. -/
  | validation (driver message : String)
  /-- A document lacks what the operator needs of it. -/
  | serialization (message : String)
  /-- A document does not decode. -/
  | undecodable (document : String) (fault : Decode.Fault)
  /-- Something else went wrong at a known place. -/
  | internal (context message : String)
  deriving DecidableEq, Repr

namespace Failure

/-- Where a failure belongs when nothing better is known. -/
def unknownContext : String := "unknown"

/-- The failure in words. -/
def message [Wording] : Failure → String
  -- Causes tell themselves, behind a word for what was attempted.
  | api cause => "kubernetes error: " ++ cause.message
  | notFound kind name => kind ++ " " ++ quoted name ++ " not found"
  | validation driver message => "invalid driver config " ++ driver ++ ": " ++ message
  | serialization message => "serialization error: " ++ message
  | undecodable document fault => "serialization error: " ++ Wording.yaml document fault
  | internal context message => "internal error [" ++ context ++ "]: " ++ message

/-- Something that was asked for does not exist. -/
def isNotFound : Failure → Bool
  -- The server may say that the object is missing, or a reader may find nothing by itself.
  | notFound _ _ => true
  | api cause => cause.code? == some 404
  | _ => false

/-- A write was refused because the object has changed since it was read. -/
def isConflict : Failure → Bool
  -- The code tells of a conflict, whatever reason stands beside it.
  | api cause => cause.code? == some 409
  | _ => false

/-- The outcome of reading a YAML document as the outcome of an operation. -/
def ofRead {α : Type} (document : String) : Except Decode.Fault α → Except Failure α
  -- A reader's fault is kept with the document, since its words depend on both.
  | .ok value => .ok value
  | .error fault => .error (.undecodable document fault)

end Failure

end CsiOperator
