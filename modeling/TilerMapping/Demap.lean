/-
Module: TilerMapping.Demap
Purpose: Releasing mapped buffers by address.
Main exports: Fault.ofFaults, releaseBuffer, demap, demapStatus
-/
import TilerMapping.Action

namespace TilerMapping

/-!
A demap takes the name behind an address from the ledger, asks the driver for the blocks of
that buffer, gives up the registration and removes the mapping.  Once the name is taken the
buffer is forgotten, whatever fails later, so a second demap of the address misses.  The last
two steps are both attempted, and their faults are reported together.
-/

/-- The faults of a call as one answer: none, the fault itself, or all of them. -/
def Fault.ofFaults : List Fault → Except Fault Unit
  | [] => .ok ()
  | [fault] => .error fault
  | faults => .error (.several faults)

/-- The faults of giving up a registration and of removing a mapping, in this order. -/
def releaseFaults (region : Region) (unregistered unmapped : Except IoFault Unit) :
    List Fault :=
  (match unregistered with
    | .ok () => []
    | .error source => [Fault.unregistration source]) ++
  (match unmapped with
    | .ok () => []
    | .error source => [Fault.unmapping region.base region.len source])

/-- Give up the registration of a buffer and remove the mapping that starts on the page of an
address and has the size of the buffer. -/
def releaseQueried (address : Address) (buffer : Buffer) : Action Fault Unit := do
  Action.log (.unregistration buffer)
  let unregistered ← Action.unregister buffer
  Action.log (.unregistrationReply buffer)
  let region : Region := { base := Page.alignDown address, len := buffer.totalSize }
  let unmapped ← Action.unmap region
  Action.orElse id (Fault.ofFaults (releaseFaults region unregistered unmapped))

/-- The part of a demap that needs a session. -/
def releaseBuffer (address : Address) : Action Fault Unit := do
  match ← Action.take address with
  | none => throw (.unknownAddress address)
  | some id =>
    let asked := Buffer.registered id
    Action.log (.bufferQuery asked)
    let buffer ← Action.orElse .bufferQuery (← Action.queryBuffer asked)
    Action.log (.bufferReply buffer)
    releaseQueried address buffer

/-- Open a session and release the buffer behind an address. -/
def openAndRelease (address : Address) : Program (Except Fault Unit) := do
  match ← (releaseBuffer address).run.inSession with
  | .error source => return .error (.session source)
  | .ok result => return result

/-- Release the buffer behind an address that a remap has answered, and report a fault. -/
def demap (address : Address) : Program (Except Fault Unit) := do
  let result ← openAndRelease address
  match result with
  | .ok () => return result
  | .error fault =>
    Program.log (.demapFailed address fault)
    return result

/-- The status of a demap: zero for success, negative for a fault. -/
def statusOf : Except Fault Unit → Int32
  | .ok () => 0
  | .error fault => fault.status

/-- Demap, and answer a status only. -/
def demapStatus (address : Address) : Program Int32 :=
  statusOf <$> demap address

end TilerMapping
