import CsiOperator.Decode.Source
import CsiOperator.Time.Timestamp

/-! Instants in documents. -/

namespace CsiOperator.Decode

/-- An instant, written as a text. -/
def instant {ν : Type} [Source ν] (node : ν) : Read Time.Timestamp := do
  -- A text that is no instant is a fault of its content, not of its shape.
  match Time.Timestamp.ofText? (← text node) with
  | some t => return t
  | none => throw .other

end CsiOperator.Decode
