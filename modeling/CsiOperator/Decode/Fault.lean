/-! Why a document does not decode. -/

namespace CsiOperator.Decode

/-- The first thing wrong with a document, as far as a caller can tell documents apart by it. -/
inductive Fault where
  /-- A field without a default is absent. -/
  | missingField (name : String)
  /-- A field that may be given once is given twice. -/
  | duplicateField (name : String)
  /-- A name is none of those that are allowed. -/
  | unknownVariant
  /-- A value has the wrong shape. -/
  | invalidType
  /-- The text breaks the grammar, or a value of the right shape is out of range. -/
  | other
  deriving DecidableEq, Repr, Inhabited

/-- The kind of a fault in words. -/
def Fault.reason : Fault → String
  -- A missing and a repeated field are told by name, all others by their class alone.
  | .missingField name => "missing field `" ++ name ++ "`"
  | .duplicateField name => "duplicate field `" ++ name ++ "`"
  | .unknownVariant => "unknown variant"
  | .invalidType => "invalid type"
  | .other => "other"

/-- The words of the libraries that read documents.

What they say about a fault may depend on the whole document in which it is found. The operator passes
their words on, and does nothing that depends on them. -/
class Wording where
  /-- The words for a fault of a JSON text. -/
  json : (text : String) → Fault → String
  /-- The words for a fault of a YAML text. -/
  yaml : (text : String) → Fault → String

/-- Words that tell the kind of a fault and nothing else. -/
@[reducible] def Wording.brief : Wording where
  -- The text around the fault is left out.
  json _ fault := fault.reason
  yaml _ fault := fault.reason

end CsiOperator.Decode
