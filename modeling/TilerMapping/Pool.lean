/-
Module: TilerMapping.Pool
Purpose: Programs that run at the same time over one driver and one ledger.
Main exports: Program.inTurn, Pool, Pool.Step, Pool.Reaches, Pool.values?
-/
import TilerMapping.Run

namespace TilerMapping

variable {σ α : Type}

/-!
Calls that overlap share the driver and the ledger, and meet in them one effect at a time.
`Pool.Step` advances any one of them by its next effect; `Program.inTurn` is the schedule
that finishes each before the next begins.
-/

/-- Programs one after the other, with their values in order. -/
def Program.inTurn : List (Program α) → Program (List α)
  | [] => .done []
  | program :: rest => do
    let value ← program
    let values ← inTurn rest
    return value :: values

/-- Programs that run at the same time in one world. -/
structure Pool (σ α : Type) where
  world : World σ
  threads : List (Program α)

namespace Pool

/-- One thread performs its next effect.  The label tells the thread and the event. -/
inductive Step (driver : Driver σ) : Pool σ α → Nat × Event → Pool σ α → Prop where
  | perform {pool : Pool σ α} {index : Nat} {effect : Effect}
      {next : effect.Answer → Program α}
      (here : pool.threads[index]? = some (.step effect next)) :
      Step driver pool (index, ⟨effect, (pool.world.perform driver effect).1⟩)
        { world := (pool.world.perform driver effect).2
          threads := pool.threads.set index
            (next (pool.world.perform driver effect).1) }

/-- A pool is reached by a history of steps, the earliest first. -/
inductive Reaches (driver : Driver σ) : Pool σ α → List (Nat × Event) → Pool σ α → Prop where
  | refl (pool : Pool σ α) : Reaches driver pool [] pool
  | step {first second third : Pool σ α} {label : Nat × Event} {history : List (Nat × Event)}
      (head : Step driver first label second) (rest : Reaches driver second history third) :
      Reaches driver first (label :: history) third

/-- The values of all threads, once every thread has ended. -/
def values? (pool : Pool σ α) : Option (List α) :=
  pool.threads.mapM fun
    | .done value => some value
    | .step _ _ => none

end Pool

end TilerMapping
