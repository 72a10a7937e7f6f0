/-
Module: TilerMapping.Remap
Purpose: Mapping device blocks into one contiguous range of the process.
Main exports: Stop, queryBlock, queryBlocks, placeBlocks, mapRegistered, placeBuffer,
  mapBlocks, remap, remapPtr
-/
import TilerMapping.Action
import TilerMapping.AddressMap
import TilerMapping.Run

namespace TilerMapping

/-!
A remap queries its blocks in order, fits the geometry of each to the caller's length,
registers them as one buffer and maps that.  The blocks lie back to back in the mapping.  The
driver's part of a buffer that cannot be mapped is given up again, and the session is closed
on every way out.
-/

/-- Why a remap ends without a mapping. -/
inductive Stop where
  | fault (fault : Fault)
  | abort (abort : Abort)
deriving Repr

/-- Query one block and fit its geometry to the length that the caller gave. -/
def queryBlock (addresses : AddressMap) (index : Nat) (devicePtr : DevicePtr)
    (length : UInt32) : Action Stop Block :=
  let driverPtr := addresses devicePtr
  if driverPtr = 0 then
    throw (.fault (.noDriverAddress index devicePtr))
  else do
    let asked := Block.ofPtr driverPtr
    Action.log (.blockQuery asked)
    let block ← Action.orElse (fun source => .fault (.blockQuery index source))
      (← Action.queryBlock asked)
    Action.log (.blockReply block)
    if block.driverPtr = 0 then
      throw (.fault (.unallocated index devicePtr driverPtr))
    else
      let fit := block.fitLength length
      Action.logAll (fit.notices.map .geometry)
      Action.orElse (fun source => .fault (.geometry index source)) fit.outcome
      return fit.block

/-- Query blocks in order, counted from `index`, and add up their sizes on top of a running
total. -/
def queryBlocks (addresses : AddressMap) (index : Nat) (total : ByteCount) :
    List (DevicePtr × UInt32) → Action Stop (List Block × ByteCount)
  | [] => return ([], total)
  | (devicePtr, length) :: rest => do
    let block ← queryBlock addresses index devicePtr length
    let total ← Action.require (.abort .addOverflow) (Word.add? total block.size)
    let (blocks, total) ← queryBlocks addresses (index + 1) total rest
    return (block :: blocks, total)

/-- Give blocks their addresses, back to back from the first one.  The address after the last
block must still be a word. -/
def placeBlocks (first : Address) : List Block → Except Abort (List Block)
  | [] => .ok []
  | block :: rest =>
    match Word.add? first block.size with
    | none => .error .addOverflow
    | some next =>
      match placeBlocks next rest with
      | .error abort => .error abort
      | .ok placed => .ok ({ block with address := some first } :: placed)

/-- Record the name of a buffer under its address, and warn if another name stood there. -/
def recordAddress (address : Address) (id : BufferId) : Action Stop Unit := do
  let previous ← Action.orElse .abort (← Action.record address id)
  match previous with
  | some previous => Action.log (.entryReplaced address previous)
  | none => pure ()

/-- Recording an address is the addition of its name to the ledger, with a receiver of log
records that does not fail. -/
theorem run_recordAddress {σ : Type} (driver : Driver σ) (address : Address) (id : BufferId)
    (world : World σ) :
    let ran := (recordAddress address id).run.run driver world
    let added := world.ledger.add .reliable address id
    ran.world = { world with ledger := added.ledger } ∧
      ran.calls = [] ∧
      ran.notices = added.notices ∧
      (ran.value = .ok () ↔ added.outcome = .ok ()) := by
  unfold recordAddress MappingLedger.add
  cases stored : world.ledger.record address id with
  | error abort =>
    simp [ExceptT.run_bind, Program.run, World.perform, stored, Run.calls, Run.notices,
      List.filterMap_cons, Event.call?, Event.notice?]
  | ok pair =>
    obtain ⟨ledger, previous⟩ := pair
    cases previous <;>
      simp [ExceptT.run_bind, Program.run, World.perform, stored, Logger.reliable, Run.calls,
        Run.notices, List.filterMap_cons, Event.call?, Event.notice?]

/-- Map a registered buffer.  If that fails the registration is given up; if that fails too,
both faults are reported. -/
def mapRegistered (size : ByteCount) (buffer : Buffer) : Action Stop Region := do
  match ← Action.map size buffer.id with
  | .ok region => return region
  | .error source =>
    let mapping := Fault.mapping size buffer.id source
    match ← Action.unregister buffer with
    | .ok () => throw (.fault mapping)
    | .error source => throw (.fault (.several [mapping, .unregistration source]))

/-- Lay out the blocks of a mapped buffer.  The mapping starts on a page boundary and the
first block keeps its offset within its page.  The buffer is recorded under the address of
the first block before the addresses of the others are added up. -/
def placeBuffer (region : Region) (buffer : Buffer) : Action Stop MappedBuffer :=
  match buffer.blocks with
  | [] => throw (.abort .noFirstBlock)
  | block :: _ => do
    let offset := Page.offset block.driverPtr.toUInt64
    let address ← Action.require (.abort .addOverflow) (Word.add? region.base offset)
    recordAddress address buffer.id
    let blocks ← Action.orElse .abort (placeBlocks address buffer.blocks)
    return { region, offset, buffer := { buffer with blocks } }

/-- The part of a remap that needs a session: query, register, map and lay out. -/
def mapBlocks (addresses : AddressMap) (requests : List (DevicePtr × UInt32)) :
    Action Stop MappedBuffer := do
  let (blocks, size) ← queryBlocks addresses 0 0 requests
  let asked : Buffer := { blocks }
  Action.log (.registration asked)
  let buffer ← Action.orElse (fun source => .fault (.registration source))
    (← Action.register asked)
  Action.log (.registrationReply buffer)
  if buffer.isRegistered then
    let region ← mapRegistered size buffer
    placeBuffer region buffer
  else
    throw (.fault .unnamedBuffer)

/-- Report how a remap ended.  An abort is not reported. -/
def reportRemap : Except Stop MappedBuffer → Program Unit
  | .ok mapped => Program.log (.remapped mapped.address)
  | .error (.fault fault) => Program.log (.remapFailed fault)
  | .error (.abort _) => return ()

/-- Map the blocks behind device pointers into one range of the process.  `lengths` holds the
byte length that the caller allocated for each block.  A call with no blocks, too many blocks
or a wrong number of lengths is refused before the driver is asked. -/
def remap (addresses : AddressMap) (devicePtrs : List DevicePtr) (lengths : List UInt32) :
    Program (Except Stop MappedBuffer) :=
  let count := devicePtrs.length
  if count = 0 ∨ maxBlocks < count then
    return .error (.fault (.blockCount count))
  else if lengths.length ≠ count then
    return .error (.fault (.lengthCount count lengths.length))
  else do
    match ← (mapBlocks addresses (devicePtrs.zip lengths)).run.inSession with
    | .error source =>
      Program.log (.sessionRefused source)
      return .error (.fault (.session source))
    | .ok result =>
      reportRemap result
      return result

/-- The address of a remap's mapping, and the null address after a fault. -/
def addressOrNull : Except Stop MappedBuffer → Except Abort Address
  | .ok mapped => .ok mapped.address
  | .error (.fault _) => .ok 0
  | .error (.abort abort) => .error abort

/-- Remap, and answer an address only: null after any fault. -/
def remapPtr (addresses : AddressMap) (devicePtrs : List DevicePtr) (lengths : List UInt32) :
    Program (Except Abort Address) :=
  addressOrNull <$> remap addresses devicePtrs lengths

end TilerMapping
