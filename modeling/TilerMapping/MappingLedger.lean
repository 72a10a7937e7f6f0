/-
Module: TilerMapping.MappingLedger
Purpose: The record of which buffer stands behind each address handed out.
Main exports: MappingLedger, MappingLedger.record, MappingLedger.take, MappingLedger.add
-/
import TilerMapping.Notice
import TilerMapping.Table

namespace TilerMapping

/-!
A demap is given nothing but an address and has to name the buffer behind it to the driver.
The ledger keeps the names.  Taking a name removes it, and there is no other way to read one,
so each recorded name is served at most once.

The ledger is guarded by a lock.  A receiver of log records that fails while the lock is held
leaves it poisoned; as every operation is a single insertion or removal, the entries are
complete all the same, and the ledger goes on serving them.
-/

/-- The buffers behind the addresses handed out. -/
structure MappingLedger where
  entries : Table Address BufferId := {}
  /-- Whether some holder of the lock has failed. -/
  poisoned : Bool := false
deriving Inhabited

namespace MappingLedger

/-- The ledger without entries. -/
def empty : MappingLedger := {}

/-- The entries behind the lock, poisoned or not. -/
def unlock (ledger : MappingLedger) : Table Address BufferId :=
  ledger.entries

/-- Store a name under an address and give back the name that stood there.  The name zero is
refused before the lock is taken. -/
def record (ledger : MappingLedger) (address : Address) (id : BufferId) :
    Except Abort (MappingLedger × Option BufferId) :=
  if id = 0 then .error .zeroBufferId
  else .ok ({ ledger with entries := ledger.unlock.insert address id },
    ledger.unlock.find? address)

/-- The name recorded for an address, and the ledger without it. -/
def take (ledger : MappingLedger) (address : Address) : Option BufferId × MappingLedger :=
  (ledger.unlock.find? address, { ledger with entries := ledger.unlock.erase address })

/-- Whether an address has a name. -/
def contains (ledger : MappingLedger) (address : Address) : Bool :=
  ledger.unlock.contains address

/-- The number of addresses that have a name. -/
def size (ledger : MappingLedger) : Nat :=
  ledger.unlock.size

/-- Whether no address has a name. -/
def isEmpty (ledger : MappingLedger) : Bool :=
  ledger.size == 0

/-- The end of an addition: the ledger as it is left, the records emitted, and whether the
addition was abandoned. -/
structure Addition where
  ledger : MappingLedger
  notices : List Notice := []
  outcome : Except Abort Unit

/-- Store a name under an address and warn if another one stood there.  The warning is given
under the lock, so a receiver that fails on it poisons the ledger; the entry is stored by
then. -/
def add (ledger : MappingLedger) (logger : Logger) (address : Address) (id : BufferId) :
    Addition :=
  match ledger.record address id with
  | .error abort => { ledger, outcome := .error abort }
  | .ok (ledger, none) => { ledger, outcome := .ok () }
  | .ok (ledger, some previous) =>
    let warning := Notice.entryReplaced address previous
    if logger.fails warning then
      { ledger := { ledger with poisoned := true }
        notices := [warning]
        outcome := .error .loggerFailed }
    else
      { ledger, notices := [warning], outcome := .ok () }

end MappingLedger

end TilerMapping
