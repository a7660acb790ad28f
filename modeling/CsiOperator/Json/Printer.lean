import CsiOperator.Json.Basic

/-! JSON text in its compact form: no blanks, and the keys of every object in order. -/

namespace CsiOperator.Json

/-- A character inside a JSON string; only quotes, backslashes and controls are escaped. -/
def escapedChar (c : Char) : List Char :=
  -- Characters beyond ASCII are written as they are.
  match c with
  | '"' => ['\\', '"']
  | '\\' => ['\\', '\\']
  | '\n' => ['\\', 'n']
  | '\r' => ['\\', 'r']
  | '\t' => ['\\', 't']
  | '\x08' => ['\\', 'b']
  | '\x0c' => ['\\', 'f']
  | c =>
    if c.toNat < 0x20 then
      ['\\', 'u', '0', '0', Text.digitChar (c.toNat / 16), Text.digitChar (c.toNat % 16)]
    else [c]

/-- A text as a JSON string. -/
def quote (s : String) : String :=
  String.ofList ('"' :: s.toList.flatMap escapedChar ++ ['"'])

mutual

/-- The compact text of a value. -/
def compact : Json → String
  -- There are no blanks, and the entries of an object are written in the order of their keys.
  | .null => "null"
  | .bool true => "true"
  | .bool false => "false"
  | .number n => n.text
  | .text s => quote s
  | .array items => "[" ++ String.intercalate "," (compactItems items) ++ "]"
  | .object entries =>
    let members := (sortEntries (compactEntries entries)).map fun (k, t) => quote k ++ ":" ++ t
    "\x7b" ++ String.intercalate "," members ++ "\x7d"

/-- The compact texts of the items of a list. -/
def compactItems : List Json → List String
  -- A function of its own lets Lean see that the items are smaller.
  | [] => []
  | v :: rest => compact v :: compactItems rest

/-- The compact texts of the values of an object, with their keys. -/
def compactEntries : List (String × Json) → List (String × String)
  | [] => []
  | (k, v) :: rest => (k, compact v) :: compactEntries rest

end

end CsiOperator.Json
