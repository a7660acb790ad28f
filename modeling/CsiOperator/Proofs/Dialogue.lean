import CsiOperator.Dialogue

/-! Running a computation agrees with how computations are put together. -/

namespace CsiOperator.Dialogue

variable {Q R : Type} {A : Q → Type} {B : R → Type} {α β : Type}

/-- Asking one question and going on is a question with what follows it. -/
theorem call_bind (question : Q) (next : A question → Dialogue Q A β) :
    (call question >>= next) = .ask question next := rfl

/-- A computation that goes on with nothing but its value is the same. -/
theorem bind_done (d : Dialogue Q A α) : d.bind .done = d := by
  -- The computation is the same question by question, and then in its value.
  induction d with
  | done value => rfl
  | ask question next ih => exact congrArg (Dialogue.ask question) (funext ih)

/-- Rewording a computation that goes on rewords its two parts. -/
theorem via_bind (reword : (q : Q) → Dialogue R B (A q)) (d : Dialogue Q A α)
    (next : α → Dialogue Q A β) :
    (d >>= next).via reword = d.via reword >>= fun value => (next value).via reword := by
  -- Both sides ask for the first question in the same words, and only then go separate ways.
  have assoc {γ δ ε : Type} (first : Dialogue R B γ) (second : γ → Dialogue R B δ)
      (third : δ → Dialogue R B ε) :
      (first.bind second).bind third = first.bind fun value => (second value).bind third := by
    induction first with
    | done value => rfl
    | ask question rest ih => exact congrArg (Dialogue.ask question) (funext ih)
  induction d with
  | done value => rfl
  | ask question rest ih =>
    show (reword question).bind (fun answer => (rest answer >>= next).via reword) = _
    simp only [ih]
    exact (assoc _ _ _).symm

/-- Whatever the answers are, a computation puts only questions of one kind. -/
inductive AsksOnly (p : Q → Prop) : Dialogue Q A α → Prop
  /-- Nothing is left to ask. -/
  | done (value : α) : AsksOnly p (.done value)
  /-- The next question is of the kind, and so are those after any answer. -/
  | ask {question : Q} {next : A question → Dialogue Q A α} : p question →
    (∀ answer, AsksOnly p (next answer)) → AsksOnly p (.ask question next)

namespace AsksOnly

/-- A computation that goes on with another one asks what both of them ask. -/
theorem bind {p : Q → Prop} {d : Dialogue Q A α} {next : α → Dialogue Q A β}
    (first : d.AsksOnly p) (later : ∀ value, (next value).AsksOnly p) :
    (d >>= next).AsksOnly p := by
  -- The questions of the first part come first, and behind them those of the second part for its
  -- value.
  induction first with
  | done value => exact later value
  | ask kind _ ih => exact .ask kind ih

/-- The first part of a mixed computation asks only questions of the first kind. -/
theorem left {p : Q ⊕ R → Prop} (d : Dialogue Q A α) (kind : ∀ question, p (.inl question)) :
    (d.left : Dialogue (Q ⊕ R) (Sum.elim A B) α).AsksOnly p := by
  -- A mixed computation has the questions of its first part, each marked as such.
  induction d with
  | done value => exact .done value
  | ask question next ih => exact .ask (kind question) ih

/-- The second part of a mixed computation asks what it asks by itself. -/
theorem right {p : Q ⊕ R → Prop} {d : Dialogue R B α}
    (asks : d.AsksOnly fun question => p (.inr question)) :
    (d.right : Dialogue (Q ⊕ R) (Sum.elim A B) α).AsksOnly p := by
  -- As on the left, with the kind of the questions known from the computation itself.
  induction asks with
  | done value => exact .done value
  | ask kind _ ih => exact .ask kind ih

end AsksOnly

section Monadic

variable {m : Type → Type} [Monad m]

/-- A computation with nothing left to ask runs to its value. -/
@[simp] theorem run_done (answer : (q : Q) → m (A q)) (value : α) :
    (Dialogue.done value).run answer = pure value := rfl

/-- A computation that returns at once runs to its value. -/
@[simp] theorem run_pure (answer : (q : Q) → m (A q)) (value : α) :
    (Pure.pure value : Dialogue Q A α).run answer = pure value := rfl

/-- A question is answered before the computation goes on. -/
@[simp] theorem run_ask (answer : (q : Q) → m (A q)) (question : Q)
    (next : A question → Dialogue Q A α) :
    (Dialogue.ask question next).run answer = (do (next (← answer question)).run answer) := rfl

/-- Running a computation that goes on runs its two parts one after the other. -/
theorem run_bind [LawfulMonad m] (answer : (q : Q) → m (A q)) (d : Dialogue Q A α)
    (next : α → Dialogue Q A β) :
    (d >>= next).run answer = (do (next (← d.run answer)).run answer) := by
  -- The first part is unfolded question by question, and its value hands over to the second part.
  induction d with
  | done value =>
    show (next value).run answer = pure value >>= fun v => (next v).run answer
    rw [pure_bind]
  | ask question rest ih =>
    show (answer question >>= fun a => (rest a >>= next).run answer) = _
    simp only [ih, run_ask, bind_assoc]

/-- Questions of the first kind are all that the first part of a mixed computation asks. -/
theorem run_left (answer : (q : Q ⊕ R) → m (Sum.elim A B q)) (d : Dialogue Q A α) :
    (d.left : Dialogue (Q ⊕ R) (Sum.elim A B) α).run answer = d.run fun q => answer (.inl q) := by
  -- Question by question, both runs put the same question to the same answerer.
  induction d with
  | done value => rfl
  | ask question next ih =>
    -- The question is the same, so only the rest of the computation is left to compare.
    exact congrArg (answer (.inl question) >>= ·) (funext ih)

/-- Questions of the second kind are all that the second part of a mixed computation asks. -/
theorem run_right (answer : (q : Q ⊕ R) → m (Sum.elim A B q)) (d : Dialogue R B α) :
    (d.right : Dialogue (Q ⊕ R) (Sum.elim A B) α).run answer = d.run fun q => answer (.inr q) := by
  -- As on the left, with the other mark.
  induction d with
  | done value => rfl
  | ask question next ih =>
    exact congrArg (answer (.inr question) >>= ·) (funext ih)

/-- Carrying every answer over to another monad carries the whole run over. -/
theorem run_carry {n : Type → Type} [Monad n] (carry : {γ : Type} → m γ → n γ)
    (carry_pure : ∀ {γ : Type} (value : γ), carry (pure value) = pure value)
    (carry_bind : ∀ {γ δ : Type} (first : m γ) (next : γ → m δ),
      carry (first >>= next) = carry first >>= fun value => carry (next value))
    (answer : (q : Q) → m (A q)) (d : Dialogue Q A α) :
    d.run (fun q => carry (answer q)) = carry (d.run answer) := by
  -- Every step of the run is one answer and then the rest, and either can be carried over.
  induction d with
  | done value => exact (carry_pure value).symm
  | ask question next ih =>
    -- The answer is carried over first, and then what follows it.
    simp only [run_ask, carry_bind, ih]

end Monadic

/-- With a memory, a question is answered before the computation goes on with what that leaves. -/
theorem run_ask_state {σ : Type} (answer : (q : Q) → StateM σ (A q)) (question : Q)
    (next : A question → Dialogue Q A α) (s : σ) :
    ((Dialogue.ask question next).run answer).run s =
      ((next ((answer question).run s).1).run answer).run ((answer question).run s).2 := rfl

/-- With a memory, the second part of a computation runs on what the first one leaves. -/
theorem run_bind_state {σ : Type} (answer : (q : Q) → StateM σ (A q)) (d : Dialogue Q A α)
    (next : α → Dialogue Q A β) (s : σ) :
    ((d >>= next).run answer).run s =
      ((next ((d.run answer).run s).1).run answer).run ((d.run answer).run s).2 := by
  -- With a memory, going on after a run is applying the rest to what that leaves.
  rw [run_bind]
  rfl

/-- The questions that a computation puts, in order, when they are answered with a memory. -/
def questions {σ : Type} (answer : (q : Q) → StateM σ (A q)) : Dialogue Q A α → σ → List Q
  -- The memory goes from each answer to the next question.
  | .done _, _ => []
  | .ask question next, s =>
    let (value, later) := (answer question).run s
    question :: questions answer (next value) later

/-- What comes after a question depends on its answer, and on what that leaves in the memory. -/
theorem questions_ask {σ : Type} (answer : (q : Q) → StateM σ (A q)) (question : Q)
    (next : A question → Dialogue Q A α) (s : σ) :
    questions answer (.ask question next) s = question ::
      questions answer (next ((answer question).run s).1) ((answer question).run s).2 := rfl

/-- A computation that goes on puts the questions of its first part, and then those of the second one. -/
theorem questions_bind {σ : Type} (answer : (q : Q) → StateM σ (A q)) (d : Dialogue Q A α)
    (next : α → Dialogue Q A β) (s : σ) :
    questions answer (d >>= next) s = questions answer d s ++
      questions answer (next ((d.run answer).run s).1) ((d.run answer).run s).2 := by
  -- Induction on the first part, for any memory that it may find.
  induction d generalizing s with
  | done value => rfl
  | ask question rest ih =>
    -- The memory after the first question is what the rest of the first part begins with.
    exact congrArg (question :: ·) (ih _ _)

/-- When every answer leaves in one memory what another answer leaves of it in a smaller one, so does a
whole run. -/
theorem run_project {σ τ : Type} (project : σ → τ) {answer : (q : Q) → StateM σ (A q)}
    {plain : (q : Q) → StateM τ (A q)}
    (agrees : ∀ q s, (plain q).run (project s) =
      (((answer q).run s).1, project ((answer q).run s).2)) (d : Dialogue Q A α) (s : σ) :
    (d.run plain).run (project s) = (((d.run answer).run s).1, project ((d.run answer).run s).2) := by
  -- Induction on the computation, for any memory of the larger kind.
  induction d generalizing s with
  | done value => rfl
  | ask question next ih =>
    -- Both runs get the same answer, and go on with memories that still belong together.
    show ((next ((plain question).run (project s)).1).run plain).run
      ((plain question).run (project s)).2 = _
    rw [agrees]
    exact ih _ _

end CsiOperator.Dialogue
