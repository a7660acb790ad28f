import CsiOperator.Api.Request
import CsiOperator.Decode.Json

/-! Replies of the API: objects, refusals, and answers that got lost. -/

namespace CsiOperator.Api

open Decode

/-- What comes back for a request. -/
inductive Reply where
  /-- Nothing, for a reason in words. -/
  | lost (text : String)
  /-- A status code and a body. -/
  | answered (status : Nat) (body : String)
  deriving DecidableEq, Repr

namespace Reply

/-- The words for the status codes of refusals. -/
def statusWords : List (Nat × String) := [
  -- The codes are those that have words of their own, in their order.
  (400, "Bad Request"), (401, "Unauthorized"), (402, "Payment Required"), (403, "Forbidden"),
  (404, "Not Found"), (405, "Method Not Allowed"), (406, "Not Acceptable"),
  (407, "Proxy Authentication Required"), (408, "Request Timeout"), (409, "Conflict"),
  (410, "Gone"), (411, "Length Required"), (412, "Precondition Failed"),
  (413, "Payload Too Large"), (414, "URI Too Long"), (415, "Unsupported Media Type"),
  (416, "Range Not Satisfiable"), (417, "Expectation Failed"), (418, "I'm a teapot"),
  (421, "Misdirected Request"), (422, "Unprocessable Entity"), (423, "Locked"),
  (424, "Failed Dependency"), (425, "Too Early"), (426, "Upgrade Required"),
  (428, "Precondition Required"), (429, "Too Many Requests"),
  (431, "Request Header Fields Too Large"), (451, "Unavailable For Legal Reasons"),
  (500, "Internal Server Error"), (501, "Not Implemented"), (502, "Bad Gateway"),
  (503, "Service Unavailable"), (504, "Gateway Timeout"), (505, "HTTP Version Not Supported"),
  (506, "Variant Also Negotiates"), (507, "Insufficient Storage"), (508, "Loop Detected"),
  (510, "Not Extended"), (511, "Network Authentication Required")]

/-- A status code with its words. -/
def statusText (status : Nat) : String :=
  Text.decimal status ++ " " ++ (statusWords.lookup status).getD "<unknown status code>"

/-- What a server says about a refusal, as far as it has been read. -/
structure RefusalDraft where
  /-- The outcome, once read. -/
  status : Option String
  /-- The explanation, once read. -/
  message : Option String
  /-- The reason in one word, once read. -/
  reason : Option String
  /-- The code, once read. -/
  code : Option Nat

/-- A number of sixteen bits. -/
def readCode {ν : Type} [Source ν] (node : ν) : Read Nat := do
  -- Codes are numbers of 16 bits, and whether one exists is not asked.
  let n ← integer node
  if 0 ≤ n && n < 65536 then return n.toNat else throw .other

/-- The fields of what a server says about a refusal. -/
def refusalFields {ν : Type} [Source ν] : List (Field ν RefusalDraft) := [
  -- Only the status and the code are needed; the words may be missing.
  ⟨"status", (·.status.isSome), fun d n => return { d with status := some (← text n) }, .never⟩,
  ⟨"message", (·.message.isSome), fun d n => return { d with message := some (← text n) },
    .anywhere⟩,
  ⟨"reason", (·.reason.isSome), fun d n => return { d with reason := some (← text n) }, .anywhere⟩,
  ⟨"code", (·.code.isSome), fun d n => return { d with code := some (← readCode n) }, .never⟩]

/-- Reads what a server says about a refusal. -/
def readRefusal {ν : Type} [Source ν] (node : ν) : Read ApiFailure := do
  -- Words that are missing are empty.
  let d ← record refusalFields ⟨none, none, none, none⟩ node
  return .refused (← present "status" d.status) (d.message.getD "") (d.reason.getD "")
    (← present "code" d.code)

/-- The failure behind a refusal, in the server's words or else in those of its status code. -/
def refusal (status : Nat) (body : String) : ApiFailure :=
  -- A body that is no refusal is shown in quotes, with the words for its code.
  match Json.decode readRefusal body with
  | .ok failure => failure
  | .error _ =>
    .refused (statusText status) (Text.quoted body) "Failed to parse error data" status

/-- A status code of a refusal. -/
def isRefusal (status : Nat) : Bool :=
  400 ≤ status && status < 600

/-- The object in a reply. -/
def object {α : Type} (read : Json.Tree → Read α) : Reply → Except ApiFailure α
  -- A refusal is told by its code alone, and the body then tells why.
  | .lost text => .error (.transport text)
  | .answered status body =>
    if isRefusal status then .error (refusal status body)
    else match Json.decode read body with
      | .ok value => .ok value
      | .error fault => .error (.response body fault)

end Reply

end CsiOperator.Api
