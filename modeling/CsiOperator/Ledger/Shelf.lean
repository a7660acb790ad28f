import CsiOperator.Ledger

/-! Ledgers in several hands: every handle of a ledger leads to the same references. -/

namespace CsiOperator.Ledger

/-- What a handle of a ledger is used for. -/
inductive Use where
  /-- Recording a reference. -/
  | record (object : RelatedObject)
  /-- Asking whether anything has been recorded, and what. -/
  | snapshot
  /-- Counting the references. -/
  | size
  /-- Asking whether nothing has been recorded. -/
  | isEmpty
  deriving DecidableEq, Repr

/-- What comes back from a use. -/
inductive Reply where
  /-- Whether the reference is new. -/
  | recorded (new : Bool)
  /-- Whether there are references, and which. -/
  | references (any : Bool) (objects : List RelatedObject)
  /-- How many references there are. -/
  | count (size : Nat)
  /-- Whether there are none. -/
  | vacant (empty : Bool)
  deriving DecidableEq, Repr

/-- One use of a ledger, which nothing else can come between. -/
def serve (l : Ledger) : Use → Reply × Ledger
  -- Only a record changes the ledger.
  | .record object => (.recorded (l.record object).1, (l.record object).2)
  | .snapshot => (.references l.snapshot.1 l.snapshot.2, l)
  | .size => (.count l.size, l)
  | .isEmpty => (.vacant l.isEmpty, l)

/-- A handle of a ledger. -/
structure Handle where
  /-- The number of the ledger that it leads to. -/
  ledger : Nat
  /-- A reader is good for snapshots and nothing else. -/
  reader : Bool
  deriving DecidableEq, Repr

/-- The uses that a handle is good for. -/
def Handle.allows (h : Handle) (use : Use) : Bool :=
  !h.reader || use == .snapshot

/-- The ledgers of a process, and their handles; both are numbered in the order in which they were
made. -/
structure Shelf where
  /-- The ledgers. -/
  ledgers : List Ledger
  /-- The handles. -/
  handles : List Handle
  deriving DecidableEq, Repr

/-- What a process does with ledgers and handles. -/
inductive Action where
  /-- A new ledger, with its first handle. -/
  | create
  /-- Another handle for the ledger of a handle. -/
  | copy (handle : Nat)
  /-- A reader for the ledger of a handle. -/
  | reader (handle : Nat)
  /-- A handle is used. -/
  | use (handle : Nat) (use : Use)
  deriving DecidableEq, Repr

/-- A use that has taken place. -/
structure Told where
  /-- The number of the ledger. -/
  ledger : Nat
  /-- The use. -/
  use : Use
  /-- What came back. -/
  reply : Reply
  deriving DecidableEq, Repr

namespace Shelf

/-- There are no ledgers yet. -/
def empty : Shelf :=
  ⟨[], []⟩

/-- One more handle. -/
def add (s : Shelf) (h : Handle) : Shelf :=
  { s with handles := s.handles ++ [h] }

/-- A handle is used, if it is good for that. -/
def use (s : Shelf) (h : Handle) (use : Use) : Shelf × Option Told :=
  -- A reader records nothing, so a use for that is not served.
  match s.ledgers[h.ledger]? with
  | none => (s, none)
  | some l =>
    if h.allows use then
      ({ s with ledgers := s.ledgers.set h.ledger (l.serve use).2 },
        some ⟨h.ledger, use, (l.serve use).1⟩)
    else (s, none)

/-- One action, and what it tells; through a handle that does not exist nothing is done. -/
def step (s : Shelf) : Action → Shelf × Option Told
  -- A handle that is not there is not copied, and tells nothing.
  | .create => ({ s with ledgers := s.ledgers ++ [Ledger.empty] }.add ⟨s.ledgers.length, false⟩, none)
  | .copy i => (s.handles[i]?.elim s s.add, none)
  | .reader i => (s.handles[i]?.elim s fun h => s.add ⟨h.ledger, true⟩, none)
  | .use i use =>
    match s.handles[i]? with
    | none => (s, none)
    | some h => s.use h use

/-- Any number of actions, and what they tell one after another. -/
def run (s : Shelf) : List Action → Shelf × List Told
  | [] => (s, [])
  | action :: rest =>
    let (next, told) := s.step action
    let (last, later) := next.run rest
    (last, told.toList ++ later)

end Shelf

end CsiOperator.Ledger
