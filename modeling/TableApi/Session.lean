/-
Sessions: computations that send statements to a store.

A session is done, or sends a statement and goes on with the answer. It
says nothing about the store, so it can be run against any answers: the
rows of a `Store`, or answers prepared in advance.
-/
import TableApi.Store.Basic

namespace TableApi

inductive Session (α : Type) where
  | done (result : α)
  | send (statement : Statement) (next : Answer → Session α)

namespace Session

variable {α β σ : Type}

/-- Goes on with the result. -/
protected def bind : Session α → (α → Session β) → Session β
  | done a, f => f a
  | send statement next, f => send statement fun answer => (next answer).bind f

instance : Monad Session where
  pure := done
  bind := Session.bind

/-- Sends one statement. -/
def ask (statement : Statement) : Session Answer := send statement done

/-- A statement that was sent and what was answered. -/
structure Exchange where
  statement : Statement
  answer : Answer

/-- Runs a session against something that answers statements: the
result, the exchanges in order, and the state it ends in. -/
def run (respond : σ → Statement → Answer × σ) : σ → Session α →
    α × List Exchange × σ
  | s, done a => (a, [], s)
  | s, send statement next =>
      let (answer, s) := respond s statement
      let (a, exchanges, s) := run respond s (next answer)
      (a, ⟨statement, answer⟩ :: exchanges, s)

/-- Answers statements with what is queued, and with no rows when the
queue is empty. -/
def fromQueue : List Answer → Statement → Answer × List Answer
  | [], _ => (.ok [], [])
  | answer :: rest, _ => (answer, rest)

@[simp] theorem bind_done (a : α) (f : α → Session β) : (done a).bind f = f a := rfl

@[simp] theorem bind_send (statement : Statement) (next : Answer → Session α)
    (f : α → Session β) :
    (send statement next).bind f = send statement fun answer => (next answer).bind f :=
  rfl

theorem bind_assoc {γ : Type} (f : α → Session β) (g : β → Session γ) :
    ∀ a : Session α, (a.bind f).bind g = a.bind fun x => (f x).bind g
  | done _ => rfl
  | send statement next => congrArg (send statement) (funext fun answer =>
      bind_assoc f g (next answer))

/-- Going on to be done changes nothing. -/
theorem bind_to_done : ∀ a : Session α, a.bind done = a
  | done _ => rfl
  | send statement next => congrArg (send statement) (funext fun answer =>
      bind_to_done (next answer))

@[simp] theorem run_done (respond : σ → Statement → Answer × σ) (s : σ) (a : α) :
    run respond s (done a) = (a, [], s) := rfl

end Session

end TableApi
