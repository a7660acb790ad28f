import CsiOperator.Resource.RelatedObject

/-! The references to the objects of every started bundle. -/

namespace CsiOperator

/-- References in the order in which they were recorded, each once. -/
structure Ledger where
  /-- The references. -/
  entries : List RelatedObject
  deriving DecidableEq, Repr, Inhabited

namespace Ledger

/-- A ledger without references. -/
def empty : Ledger :=
  ⟨[]⟩

/-- Records a reference at the end, and tells whether it is new; one that is there already stays. -/
def record (l : Ledger) (object : RelatedObject) : Bool × Ledger :=
  if l.entries.contains object then (false, l) else (true, ⟨l.entries ++ [object]⟩)

/-- The number of references. -/
def size (l : Ledger) : Nat :=
  l.entries.length

/-- Nothing has been recorded. -/
def isEmpty (l : Ledger) : Bool :=
  l.entries.isEmpty

/-- Whether anything has been recorded, and what. -/
def snapshot (l : Ledger) : Bool × List RelatedObject :=
  (!l.isEmpty, l.entries)

end Ledger

end CsiOperator
