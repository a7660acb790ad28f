import CsiOperator.Api.Address
import CsiOperator.Decode.Json
import CsiOperator.Decode.Yaml
import CsiOperator.File.System
import CsiOperator.Json.Printer

/-! Files that tell how to reach a cluster. -/

namespace CsiOperator

open Decode

/-- How to reach a cluster, and in which role and namespace. -/
structure Kubeconfig where
  /-- The addresses of clusters by name, as far as they are given. -/
  clusters : List (String × Option (Option String))
  /-- The names of users, and whether anything is known of each. -/
  users : List (String × Bool)
  /-- The cluster, the user and the namespace of contexts by name, as far as they are given. -/
  contexts : List (String × Option (String × Option String × Option String))
  /-- The context that counts. -/
  current : Option String
  deriving Repr

namespace Kubeconfig

/-- A file that tells nothing. -/
def empty : Kubeconfig :=
  ⟨[], [], [], none⟩

variable {ν σ α : Type} [Source ν]

/-- A field that only has to be right. -/
def checked (name : String) (read : ν → Read α) : Field ν σ :=
  -- Nothing is kept of such a field, so it may be given more than once without notice.
  ⟨name, fun _ => false, fun draft node => do
    let _ ← read node
    return draft, .anywhere⟩

/-- Fields that only have to be texts, if they are not null. -/
def texts (names : List String) : List (Field ν σ) :=
  names.map fun name => checked name (nullable text)

/-- Reads something with a name. -/
def readNamed (what : String) (read : ν → Read α) (node : ν) : Read (String × Option α) := do
  -- The thing itself may be missing, but not its name.
  let fields : List (Field ν (Option String × Option (Option α))) := [
    ⟨"name", (·.1.isSome), fun d n => return (some (← text n), d.2), .never⟩,
    ⟨what, (·.2.isSome), fun d n => return (d.1, some (← nullable read n)), .anywhere⟩]
  let (name, value) ← record fields (none, none) node
  return (← present "name" name, value.join)

/-- Reads the address of a cluster. -/
def readCluster (node : ν) : Read (Option String) := do
  -- Only the address is of use here; all other fields just have to be of their types.
  let fields : List (Field ν (Option (Option String))) := [
    ⟨"server", (·.isSome), fun _ n => return some (← nullable text n), .anywhere⟩,
    checked "insecure-skip-tls-verify" (nullable truth),
    checked "disable-compression" (nullable truth)] ++
    texts ["certificate-authority", "certificate-authority-data", "proxy-url", "tls-server-name"]
  return (← record fields none node).join

/-- Reads what is known of a user. -/
def readUser (node : ν) : Read Unit :=
  -- Credentials are not used here, so they are checked and forgotten.
  record (texts ["username", "password", "token", "tokenFile", "client-certificate",
    "client-certificate-data", "client-key", "client-key-data", "as"] ++
    [checked "as-groups" (nullable (list text))]) () node

/-- Reads the cluster, the user and the namespace of a context. -/
def readContext (node : ν) : Read (String × Option String × Option String) := do
  -- A context without a user or a namespace is one, and one without a cluster is not.
  let fields : List (Field ν (Option String × Option (Option String) × Option (Option String))) := [
    ⟨"cluster", (·.1.isSome), fun d n => return (some (← text n), d.2), .never⟩,
    ⟨"user", (·.2.1.isSome), fun d n => return (d.1, some (← nullable text n), d.2.2), .anywhere⟩,
    ⟨"namespace", (·.2.2.isSome), fun d n => return (d.1, d.2.1, some (← nullable text n)),
      .anywhere⟩]
  let (cluster, user, space) ← record fields (none, none, none) node
  return (← present "cluster" cluster, user.join, space.join)

/-- A file of which some parts have been read. -/
structure Draft where
  /-- The clusters, once read. -/
  clusters : Option (List (String × Option (Option String)))
  /-- The users, once read. -/
  users : Option (List (String × Option Unit))
  /-- The contexts, once read. -/
  contexts : Option (List (String × Option (String × Option String × Option String)))
  /-- The context that counts, once read; it may be null. -/
  current : Option (Option String)

/-- Reads a file. -/
def read (node : ν) : Read Kubeconfig := do
  -- A list may be null as well as missing, and it is empty then.
  let many {α : Type} (read : ν → Read α) (n : ν) : Read (List α) := do
    return (← nullable (list read) n).getD []
  let fields : List (Field ν Draft) := [
    ⟨"clusters", (·.clusters.isSome),
      fun d n => return { d with clusters := some (← many (readNamed "cluster" readCluster) n) },
      .anywhere⟩,
    ⟨"users", (·.users.isSome),
      fun d n => return { d with users := some (← many (readNamed "user" readUser) n) }, .anywhere⟩,
    ⟨"contexts", (·.contexts.isSome),
      fun d n => return { d with contexts := some (← many (readNamed "context" readContext) n) },
      .anywhere⟩,
    ⟨"current-context", (·.current.isSome),
      fun d n => return { d with current := some (← nullable text n) }, .anywhere⟩] ++
    texts ["kind", "apiVersion"]
  let d ← record fields ⟨none, none, none, none⟩ node
  return ⟨d.clusters.getD [], (d.users.getD []).map fun (name, user) => (name, user.isSome),
    d.contexts.getD [], d.current.join⟩

/-- Reads the text of a file; one without a document tells nothing. -/
def parse (yaml : String) : Read Kubeconfig := do
  -- The document is read as a value first, and that value is read once more as a file.
  let value ← Yaml.decode (fun tree => match tree with
    | .void => .ok none
    | tree => return some (← any tree)) yaml
  match value with
  | none => return empty
  | some value => Json.decode read (Json.compact value)

/-- The namespace of the context that counts, if that leads to a known user and a cluster with an
address. What is missing otherwise is told in words. -/
def load (k : Kubeconfig) : Except String String := do
  -- Each step can fail in its own words, in the order in which the file is looked through.
  let some current := k.current | throw "no context is selected"
  let some (some (cluster, user, space)) := k.contexts.lookup current
    | throw "the selected context is missing"
  let some (some server) := k.clusters.lookup cluster | throw "the cluster is missing"
  if let some user := user then
    if k.users.lookup user != some true then throw "the user is missing"
  let some server := server | throw "the cluster has no address"
  if !Api.Address.isValid server then throw "the address of the cluster is invalid"
  return space.getD "default"

end Kubeconfig

end CsiOperator
