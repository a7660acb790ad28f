/-! Computations that put questions to their surroundings and go on with the answers. -/

namespace CsiOperator

/-- A computation that asks questions of type `Q`, each answered by a value of its own type. -/
inductive Dialogue (Q : Type) (A : Q → Type) (α : Type) where
  /-- Nothing is left to ask. -/
  | done (value : α)
  /-- A question, and how to go on with its answer. -/
  | ask (question : Q) (next : A question → Dialogue Q A α)

namespace Dialogue

variable {Q R : Type} {A : Q → Type} {B : R → Type} {α β : Type}

/-- Goes on with the value of a computation. -/
def bind : Dialogue Q A α → (α → Dialogue Q A β) → Dialogue Q A β
  -- Nothing is asked by a value, so what follows it begins at once.
  | .done value, next => next value
  | .ask question rest, next => .ask question fun answer => (rest answer).bind next

instance : Monad (Dialogue Q A) where
  -- A computation is its questions, so there are no effects but those of the answers.
  pure := .done
  bind := bind

/-- Asks one question. -/
def call (question : Q) : Dialogue Q A (A question) :=
  .ask question .done

/-- Answers every question, with effects of its own kind. -/
def run {m : Type → Type} [Monad m] (answer : (q : Q) → m (A q)) : Dialogue Q A α → m α
  -- The answers may have effects, which happen in the order of the questions.
  | .done value => pure value
  | .ask question next => do run answer (next (← answer question))

/-- Puts every question in other words, each perhaps as several questions. -/
def via (reword : (q : Q) → Dialogue R B (A q)) : Dialogue Q A α → Dialogue R B α
  -- Answers to the new questions are put together before the old computation goes on.
  | .done value => .done value
  | .ask question next => (reword question).bind fun answer => (next answer).via reword

/-- A computation whose questions are the first of two kinds. -/
def left : Dialogue Q A α → Dialogue (Q ⊕ R) (Sum.elim A B) α
  -- The other kind of question is left to whatever this computation is composed with.
  | .done value => .done value
  | .ask question next => .ask (.inl question) fun answer => (next answer).left

/-- A computation whose questions are the second of two kinds. -/
def right : Dialogue R B α → Dialogue (Q ⊕ R) (Sum.elim A B) α
  | .done value => .done value
  | .ask question next => .ask (.inr question) fun answer => (next answer).right

end Dialogue

end CsiOperator
