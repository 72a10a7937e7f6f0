/-
Module: TilerMapping.Fleet
Purpose: Several mappers over one driver, with ledgers of their own or shared.
Main exports: Fleet, Fleet.setLedger, Fleet.run
-/
import TilerMapping.Run

namespace TilerMapping

variable {σ α : Type}

/-- One driver and the ledgers of all mappers on it.  Mappers share a ledger when they
use the same number. -/
structure Fleet (σ : Type) where
  driver : σ
  ledgers : Nat → MappingLedger := fun _ => .empty

/-- The end of a run in a fleet. -/
structure Fleet.Run (σ α : Type) where
  value : α
  fleet : Fleet σ
  trace : List Event := []

namespace Fleet

/-- The fleet in which one ledger has been replaced. -/
def setLedger (fleet : Fleet σ) (number : Nat) (ledger : MappingLedger) : Fleet σ :=
  { fleet with ledgers := fun other => if other = number then ledger else fleet.ledgers other }

/-- The world of a mapper that uses the ledger of the given number. -/
def world (fleet : Fleet σ) (number : Nat) : World σ :=
  { driver := fleet.driver, ledger := fleet.ledgers number }

/-- Run a program of a mapper that uses the ledger of the given number. -/
def run (driver : Driver σ) (number : Nat) (program : Program α) (fleet : Fleet σ) :
    Fleet.Run σ α :=
  let ran := program.run driver (fleet.world number)
  { value := ran.value
    fleet := { fleet with driver := ran.world.driver }.setLedger number ran.world.ledger
    trace := ran.trace }

end Fleet

end TilerMapping
