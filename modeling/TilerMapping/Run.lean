/-
Module: TilerMapping.Run
Purpose: Running programs against a driver and a ledger.
Main exports: World, World.perform, Event, Run, Program.run, Program.run_bind
-/
import TilerMapping.Program

namespace TilerMapping

/-!
`Program.run` answers the effects of a program from a driver and a ledger, and keeps every
effect with its answer in the order performed.  A sequence of programs runs as its parts
(`Program.run_bind`), so what a program does to a world can be read off its pieces.
-/

/-- What a program runs against: the state of the driver and the ledger. -/
structure World (σ : Type) where
  driver : σ
  ledger : MappingLedger := {}

/-- An effect that was performed, and its answer. -/
structure Event where
  effect : Effect
  answer : effect.Answer

namespace Event

/-- The call of an event, if it is one. -/
def call? (event : Event) : Option Call :=
  match event.effect with
  | .call request => some request
  | _ => none

/-- The log record of an event, if it is one. -/
def notice? (event : Event) : Option Notice :=
  match event.effect with
  | .log notice => some notice
  | _ => none

@[simp] theorem call?_call (request : Call) (answer : request.Answer) :
    call? ⟨.call request, answer⟩ = some request := rfl

@[simp] theorem call?_log (notice : Notice) (answer : Unit) :
    call? ⟨.log notice, answer⟩ = none := rfl

@[simp] theorem call?_record (address : Address) (id : BufferId)
    (answer : Except Abort (Option BufferId)) : call? ⟨.record address id, answer⟩ = none := rfl

@[simp] theorem call?_take (address : Address) (answer : Option BufferId) :
    call? ⟨.take address, answer⟩ = none := rfl

end Event

/-- The end of a run: the value of the program, the world it leaves, and what it did. -/
structure Run (σ α : Type) where
  value : α
  world : World σ
  trace : List Event := []

/-- The calls of a run, in order. -/
def Run.calls {σ α : Type} (run : Run σ α) : List Call :=
  run.trace.filterMap Event.call?

/-- The log records of a run, in order. -/
def Run.notices {σ α : Type} (run : Run σ α) : List Notice :=
  run.trace.filterMap Event.notice?

variable {σ α β : Type}

/-- Perform one effect in a world. -/
def World.perform (driver : Driver σ) : (effect : Effect) → World σ → effect.Answer × World σ
  | .call request, world =>
    let reply := driver request world.driver
    (reply.1, { world with driver := reply.2 })
  | .record address id, world =>
    match world.ledger.record address id with
    | .error abort => (.error abort, world)
    | .ok (ledger, previous) => (.ok previous, { world with ledger })
  | .take address, world =>
    let taken := world.ledger.take address
    (taken.1, { world with ledger := taken.2 })
  | .log _, world => ((), world)

/-- Run a program to its end. -/
def Program.run (driver : Driver σ) : Program α → World σ → Run σ α
  | .done value, world => { value, world }
  | .step effect next, world =>
    let reply := world.perform driver effect
    let rest := (next reply.1).run driver reply.2
    { rest with trace := ⟨effect, reply.1⟩ :: rest.trace }

@[simp] theorem Program.run_done (driver : Driver σ) (value : α) (world : World σ) :
    (Program.done value).run driver world = { value, world } := rfl

theorem Program.run_step (driver : Driver σ) (effect : Effect)
    (next : effect.Answer → Program α) (world : World σ) :
    (Program.step effect next).run driver world =
      let reply := world.perform driver effect
      let rest := (next reply.1).run driver reply.2
      { rest with trace := ⟨effect, reply.1⟩ :: rest.trace } := rfl

/-- A sequence of programs runs as its parts, one on the world the other leaves. -/
theorem Program.run_bind (driver : Driver σ) (program : Program α) (rest : α → Program β)
    (world : World σ) :
    (program >>= rest).run driver world =
      let first := program.run driver world
      let second := (rest first.value).run driver first.world
      { second with trace := first.trace ++ second.trace } := by
  induction program generalizing world with
  | done value => simp [Program.run]
  | step effect next ih =>
    simp only [Program.step_bind, Program.run]
    rw [ih]
    simp

/-- A function of the value changes neither the world nor the trace. -/
theorem Program.run_map (driver : Driver σ) (f : α → β) (program : Program α)
    (world : World σ) :
    (f <$> program).run driver world =
      let ran := program.run driver world
      { value := f ran.value, world := ran.world, trace := ran.trace } := by
  rw [map_eq_pure_bind, Program.run_bind]
  simp

end TilerMapping
