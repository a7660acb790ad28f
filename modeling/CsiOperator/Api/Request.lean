import CsiOperator.Failure
import CsiOperator.Json.Basic
import CsiOperator.Resource.Type
import CsiOperator.Text.Blank

/-! Requests to the API: what they address and what they carry. -/

namespace CsiOperator.Api

/-- What a request does. -/
inductive Method where
  /-- Read. -/
  | get
  /-- Create. -/
  | post
  /-- Change. -/
  | patch
  deriving DecidableEq, Repr

/-- The word for a method. -/
def Method.name : Method → String
  | get => "GET"
  | post => "POST"
  | patch => "PATCH"

/-- What a request addresses. -/
structure Target where
  /-- The path of the resource. -/
  path : String
  /-- The parameters as they are written. -/
  query : String
  deriving DecidableEq, Repr

namespace Target

/-- A character that a path may hold. -/
def inPath (c : Char) : Bool :=
  -- Blanks, controls and a few marks are out; DEL and all that is beyond ASCII are let through.
  let n := c.toNat
  n == 0x21 || n == 0x22 || (0x24 ≤ n && n ≤ 0x3B) || n == 0x3D || (0x40 ≤ n && n ≤ 0x5F) ||
    (0x61 ≤ n && n != 0x7F) || n == 0x7F

/-- A character that parameters may hold. -/
def inQuery (c : Char) : Bool :=
  -- Parameters may hold question marks, but no quotes.
  let n := c.toNat
  n == 0x21 || (0x24 ≤ n && n ≤ 0x3B) || n == 0x3D || 0x3F ≤ n

/-- The most bytes that a target may have. -/
def maxBytes : Nat := 65534

/-- The target that a text denotes: the first question mark begins the parameters, and the first
number sign ends them. -/
def ofText (text : String) : Except ApiFailure Target :=
  -- The length is checked before anything is cut off.
  if maxBytes < text.utf8ByteSize then .error (.request "failed to build request: uri too long") else
  let cs := text.toList.takeWhile (· != '#')
  let path := cs.takeWhile (· != '?')
  let query := (cs.dropWhile (· != '?')).drop 1
  if path.all inPath && query.all inQuery then .ok ⟨String.ofList path, String.ofList query⟩
  else .error (.request "failed to build request: invalid uri character")

/-- A text in which plus signs are blanks and percent signs begin the two digits of a byte. -/
def unescape (text : String) : String :=
  -- Bytes that make no text are replaced one by one.
  let bytes := unescapeBytes text.toUTF8.toList
  match String.fromUTF8? (ByteArray.mk bytes.toArray) with
  | some s => s
  | none => String.ofList (bytes.map fun b => if b < 0x80 then Char.ofNat b.toNat else '\ufffd')
where
  /-- The bytes that a text stands for. -/
  unescapeBytes : List UInt8 → List UInt8
    | 0x25 :: a :: b :: rest =>
      match Text.natural? 16 [Char.ofNat a.toNat, Char.ofNat b.toNat] with
      | some n => UInt8.ofNat n :: unescapeBytes rest
      | none => 0x25 :: unescapeBytes (a :: b :: rest)
    | 0x2B :: rest => 0x20 :: unescapeBytes rest
    | b :: rest => b :: unescapeBytes rest
    | [] => []

/-- The parameters by name, in order; of those with one name the last counts. -/
def parameters (t : Target) : List (String × String) :=
  -- Empty pieces count for nothing, and a piece without an equals sign has an empty value.
  let pieces := (Text.splitAt '&' t.query.toList).filter (!·.isEmpty)
  Json.sortEntries (pieces.map fun piece =>
    match Text.splitFirst '=' piece with
    | some (name, value) => (unescape (String.ofList name), unescape (String.ofList value))
    | none => (unescape (String.ofList piece), ""))

end Target

/-- A request. -/
structure Request where
  /-- What it does. -/
  method : Method
  /-- What it addresses. -/
  target : Target
  /-- How its body is to be understood, if it has one. -/
  contentType : Option String
  /-- Its body, if it has one. -/
  body : Option Json
  deriving Repr

/-- The name under which the operator writes. -/
def fieldManager : String := "cluster-storage-operator"

/-- The path of all objects of a type, in a namespace or in the whole cluster. -/
def collection (t : ResourceType) (space : Option String) : String :=
  -- Only the core group is without a name, and it has a path of its own.
  (if t.group.isEmpty then "/api/" else "/apis/") ++ t.apiVersion ++ "/" ++
    (match space with | some s => "namespaces/" ++ s ++ "/" | none => "") ++ t.plural

namespace Request

/-- An object needs a name to be addressed. -/
def addressed (name : String) : Except ApiFailure Unit :=
  -- The check is for the empty name only, so other names may still fail to make a path.
  if name.isEmpty then
    .error (.request "failed to validate request: A non-empty name is required")
  else .ok ()

/-- Reads an object. -/
def get (collection name : String) : Except ApiFailure Request := do
  -- The name is checked before the path is put together.
  addressed name
  return ⟨.get, ← Target.ofText (collection ++ "/" ++ name), none, none⟩

/-- Creates an object. -/
def create (collection : String) (object : Json) : Except ApiFailure Request := do
  return ⟨.post, ← Target.ofText (collection ++ "?"), some "application/json", some object⟩

/-- Merges changes into an object, or into the part of it that a suffix of its path names. -/
def merge (collection name suffix parameters : String) (change : Json) :
    Except ApiFailure Request := do
  -- The change is given with the type of its format, which tells the server to merge it.
  addressed name
  return ⟨.patch, ← Target.ofText (collection ++ "/" ++ name ++ suffix ++ "?" ++ parameters),
    some "application/merge-patch+json", some change⟩

/-- Merges changes into the observed state of an object. -/
def mergeStatus (collection name : String) (change : Json) : Except ApiFailure Request :=
  merge collection name "/status" ("&fieldManager=" ++ fieldManager) change

/-- Makes an object what it is to be, taking over the fields that others have set. -/
def apply (collection name : String) (object : Json) : Except ApiFailure Request := do
  -- Conflicts with other managers are settled in favour of this one.
  addressed name
  let parameters := "?&force=true&fieldManager=" ++ fieldManager
  return ⟨.patch, ← Target.ofText (collection ++ "/" ++ name ++ parameters),
    some "application/apply-patch+yaml", some object⟩

end Request

end CsiOperator.Api
