import CsiOperator.Api.Client
import CsiOperator.Proofs.Dialogue

/-! An exchange with replies that come in order, and the requests that it sends. -/

namespace CsiOperator.Api

variable {α : Type}

/-- Takes the next reply for a request, and keeps the request. -/
def inTurn (replies : Nat → Reply) (request : Request) : StateM (List Request) Reply := do
  -- The requests so far tell which reply is the next.
  let sent ← get
  set (sent ++ [request])
  return replies sent.length

/-- What an exchange comes to with the replies in order, and the requests that it sends. -/
def converse (replies : Nat → Reply) (e : Exchange α) : α × List Request :=
  (e.run (inTurn replies)).run []

/-- A request is kept, and what follows goes on with the reply whose turn it is. -/
theorem inTurn_ask (replies : Nat → Reply) (request : Request) (next : Reply → Exchange α)
    (sent : List Request) :
    ((Dialogue.ask request next : Exchange α).run (inTurn replies)).run sent =
      ((next (replies sent.length)).run (inTurn replies)).run (sent ++ [request]) := rfl

/-- What has been sent before only decides where among the replies an exchange begins. -/
theorem inTurn_run (replies : Nat → Reply) (e : Exchange α) (sent : List Request) :
    (e.run (inTurn replies)).run sent =
      let later := converse (fun k => replies (sent.length + k)) e
      (later.1, sent ++ later.2) := by
  -- Induction on the exchange, for any number of requests that have been sent before.
  induction e generalizing replies sent with
  | done value => exact congrArg (Prod.mk value) (List.append_nil sent).symm
  | ask request next ih =>
    -- Both sides pass over the first request, and the rest begins one reply later.
    have passed : converse (fun k => replies (sent.length + k)) (.ask request next) =
        ((next (replies sent.length)).run (inTurn fun k => replies (sent.length + k))).run
          [request] := rfl
    rw [passed, inTurn_ask, ih, ih]
    simp [Nat.add_assoc]

/-- An exchange with nothing left to ask sends nothing. -/
@[simp] theorem converse_done (replies : Nat → Reply) (value : α) :
    converse replies (.done value : Exchange α) = (value, []) := rfl

/-- A request is sent first, and what follows goes on with its reply and the later ones. -/
@[simp] theorem converse_ask (replies : Nat → Reply) (request : Request)
    (next : Reply → Exchange α) :
    converse replies (.ask request next) =
      let later := converse (fun k => replies (k + 1)) (next (replies 0))
      (later.1, request :: later.2) := by
  -- Before the first request nothing has been sent, so that its reply is the first of all.
  rw [converse, inTurn_ask, inTurn_run]
  simp [Nat.add_comm]

/-- An exchange that goes on sends the requests of its first part, and then those of the second one with
the replies that are left. -/
theorem converse_bind {β : Type} (replies : Nat → Reply) (e : Exchange α) (next : α → Exchange β) :
    converse replies (e >>= next) =
      let first := converse replies e
      let later := converse (fun k => replies (first.2.length + k)) (next first.1)
      (later.1, first.2 ++ later.2) := by
  -- What the first part has sent decides with which reply the second part begins.
  show ((e >>= next).run (inTurn replies)).run [] = _
  rw [Dialogue.run_bind_state, inTurn_run]
  rfl

end CsiOperator.Api
