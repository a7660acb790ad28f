import CsiOperator.Api.Request

/-! Addresses of servers. -/

namespace CsiOperator.Api.Address

/-- A character that an address may hold. -/
def isAllowed (c : Char) : Bool :=
  -- The percent sign is left to the caller, who has to know where it stands.
  let n := c.toNat
  n == 0x21 || n == 0x23 || n == 0x24 || (0x26 ≤ n && n ≤ 0x3B) || n == 0x3D ||
    (0x3F ≤ n && n ≤ 0x5B) || n == 0x5D || n == 0x5F || (0x61 ≤ n && n ≤ 0x7A) || n == 0x7E

/-- What has been seen of the part of an address that names a host. -/
structure Seen where
  /-- The colons since the last bracket or at sign. -/
  colons : Nat
  /-- A bracket has been opened. -/
  opened : Bool
  /-- A bracket has been closed. -/
  closed : Bool
  /-- A percent sign since the last bracket or at sign. -/
  percent : Bool
  /-- The last character is an at sign. -/
  afterAt : Bool

/-- Goes on after one character of the host, unless it cannot stand there. -/
def Seen.next (s : Seen) (c : Char) : Option Seen :=
  -- Whatever stands in front of an at sign was a name, so counting begins anew behind it.
  let s := { s with afterAt := false }
  if c == ':' then if 8 ≤ s.colons then none else some { s with colons := s.colons + 1 }
  else if c == '[' then if s.percent || s.opened then none else some { s with opened := true }
  else if c == ']' then
    if !s.opened || s.closed then none
    else some { s with closed := true, colons := 0, percent := false }
  else if c == '@' then some { s with afterAt := true, colons := 0, percent := false }
  else if c == '%' then some { s with percent := true }
  else if isAllowed c then some s
  else none

/-- The rest of an address after its host, if the host is one. -/
def afterHost (s : Seen) : List Char → Option (List Char)
  -- Brackets have to be closed, and one colon may part the port from the host.
  | [] => if s.opened == s.closed && s.colons ≤ 1 && !s.percent && !s.afterAt then some [] else none
  | c :: rest =>
    if c == '/' || c == '?' || c == '#' then
      if s.opened == s.closed && s.colons ≤ 1 && !s.percent && !s.afterAt then some (c :: rest) else none
    else match s.next c with
      | some s => afterHost s rest
      | none => none

/-- A host at the start of a text, and the rest. -/
def host? (cs : List Char) : Option (List Char) :=
  afterHost ⟨0, false, false, false, false⟩ cs

/-- A character of the name of a protocol. -/
def inScheme (c : Char) : Bool :=
  c.isAlphanum || c == '+' || c == '-' || c == '.'

/-- The rest of an address after its protocol, if it begins with one. -/
def afterScheme (cs : List Char) : Option (List Char) :=
  -- Three characters end a protocol, and nothing else does.
  match cs.dropWhile inScheme with
  | ':' :: '/' :: '/' :: rest => some rest
  | _ => none

/-- The most characters that the name of a protocol may have. -/
def maxScheme : Nat := 64

/-- A text is the address of a server: a host, or a protocol, a host and perhaps a path. -/
def isValid (address : String) : Bool :=
  -- An address is checked like the target of a request, once its host has been passed over.
  let cs := address.toList
  let target (rest : List Char) : Bool := (Target.ofText (String.ofList rest)).isOk
  match cs with
  | [] => false
  | ['/'] => true
  | ['*'] => true
  | '/' :: _ => target cs
  | _ =>
    match afterScheme cs with
    | some rest =>
      (cs.takeWhile inScheme).length ≤ maxScheme &&
        match host? rest with
        | some path => path.length < rest.length && target path
        | none => false
    | none => host? cs == some []

end CsiOperator.Api.Address
