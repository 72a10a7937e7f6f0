/-
Module: TilerMapping.Program
Purpose: Calls of the mapper as programs over session calls, the ledger and the log.
Main exports: Effect, Effect.Answer, Program, Program.perform, Program.inSession
-/
import TilerMapping.MappingLedger
import TilerMapping.Session

namespace TilerMapping

/-!
A remap or demap is a program: a tree that performs one effect at a time and goes on as the
effect was answered.  The effects are the calls on the driver session, the two operations on
the ledger, and log records.  A program does not fix who answers: it can be run against a
driver and a ledger, or several can be advanced in turn, one effect at a time.

Receivers of log records do not fail here.  What a failing one does to the ledger is said by
`MappingLedger.add`, which is storing a name and the warning about it in one.
-/

/-- One interaction of a program with its surroundings. -/
inductive Effect where
  | call (request : Call)
  /-- Store the name of a buffer under an address. -/
  | record (address : Address) (id : BufferId)
  /-- Take the name of the buffer behind an address. -/
  | take (address : Address)
  | log (notice : Notice)

/-- What an effect answers: storing a name answers the name it replaced. -/
@[reducible] def Effect.Answer : Effect → Type
  | .call request => request.Answer
  | .record _ _ => Except Abort (Option BufferId)
  | .take _ => Option BufferId
  | .log _ => Unit

/-- A program that ends with a value of type `α`. -/
inductive Program (α : Type) where
  | done (value : α)
  | step (effect : Effect) (next : effect.Answer → Program α)

namespace Program

variable {α β : Type}

/-- Go on with another program where the first one ends. -/
def bind : Program α → (α → Program β) → Program β
  | .done value, rest => rest value
  | .step effect next, rest => .step effect fun answer => (next answer).bind rest

instance : Monad Program where
  pure := .done
  bind := .bind

@[simp] theorem pure_eq_done (value : α) : (pure value : Program α) = .done value := rfl

@[simp] theorem done_bind (value : α) (rest : α → Program β) :
    (Program.done value >>= rest) = rest value := rfl

@[simp] theorem step_bind (effect : Effect) (next : effect.Answer → Program α)
    (rest : α → Program β) :
    (Program.step effect next >>= rest) = .step effect fun answer => next answer >>= rest :=
  rfl

theorem bind_done (program : Program α) : program >>= Program.done = program := by
  induction program with
  | done => rfl
  | step effect next ih =>
    rw [step_bind]
    exact congrArg (Program.step effect) (funext ih)

theorem bind_assoc {γ : Type} (program : Program α) (second : α → Program β)
    (third : β → Program γ) :
    program >>= second >>= third = program >>= fun value => second value >>= third := by
  induction program with
  | done => rfl
  | step effect next ih =>
    simp only [step_bind]
    exact congrArg (Program.step effect) (funext ih)

instance : LawfulMonad Program :=
  LawfulMonad.mk' Program bind_done (fun _ _ => rfl) bind_assoc

/-- The program of a single effect. -/
def perform (effect : Effect) : Program effect.Answer := .step effect .done

/-- Make a call on the session. -/
def call (request : Call) : Program request.Answer := perform (.call request)

/-- Emit a log record. -/
def log (notice : Notice) : Program Unit := perform (.log notice)

/-- Emit log records in order. -/
def logAll : List Notice → Program Unit
  | [] => .done ()
  | notice :: rest => do
    log notice
    logAll rest

/-- Run a program in a session of its own.  The session is closed however the program ends;
if none can be opened, the program does not start. -/
def inSession (program : Program α) : Program (Except IoFault α) := do
  match ← call .openSession with
  | .error fault => return .error fault
  | .ok () =>
    let value ← program
    call .closeSession
    return .ok value

end Program

end TilerMapping
