/-
Module: TilerMapping.MemoryDriver
Purpose: A tiler driver kept in memory, whose calls can be made to fail.
Main exports: CallName, MemoryDriver, MemoryDriver.answer
-/
import TilerMapping.Session
import TilerMapping.Table

namespace TilerMapping

/-- The calls that a driver can refuse. -/
inductive CallName where
  | openSession
  | queryBlock
  | register
  | queryBuffer
  | unregister
  | map
  | unmap
deriving Repr, DecidableEq

/-- A driver that keeps its blocks, registrations and mappings in tables. -/
structure MemoryDriver where
  /-- What a query of each known driver pointer answers.  The block answered may name another
  driver pointer than the one asked for. -/
  known : Table DriverPtr (Except IoFault Block) := {}
  registered : Table BufferId (List Block) := {}
  mappings : Table Address ByteCount := {}
  /-- The fault with which each call is made to fail, before it does anything. -/
  failing : CallName → Option IoFault := fun _ => none
  /-- The name for every registration, instead of a fresh one. -/
  forcedId : Option BufferId := none
  nextId : BufferId := 0x100000
  nextBase : Address := 0x40000000
  opened : Nat := 0
  closed : Nat := 0

namespace MemoryDriver

/-- The distance of two fresh names. -/
def idStep : BufferId := 0x100000

/-- The distance of two fresh mappings. -/
def baseStep : Address := 0x1000000

/-- A name or mapping that the driver does not have. -/
def invalidArgument : IoFault := .os Errno.invalidArgument

/-- A mapping of a buffer that is not registered. -/
def outOfMemory : IoFault := .os Errno.outOfMemory

/-- The driver in which a call is made to fail, or is no longer. -/
def setFailing (driver : MemoryDriver) (name : CallName) (fault : Option IoFault) :
    MemoryDriver :=
  { driver with
    failing := fun other => if other = name then fault else driver.failing other }

/-- A known block is answered as it is kept; an unknown one loses its driver pointer. -/
def queryBlock (driver : MemoryDriver) (block : Block) : Except IoFault Block :=
  match driver.known.find? block.driverPtr with
  | some answer => answer
  | none => .ok { block with driverPtr := 0 }

/-- The name of the next registration, and the driver that has given it out. -/
def takeId (driver : MemoryDriver) : BufferId × MemoryDriver :=
  match driver.forcedId with
  | some id => (id, driver)
  | none => (driver.nextId, { driver with nextId := driver.nextId + idStep })

/-- Registration names the buffer.  The name zero registers nothing. -/
def register (driver : MemoryDriver) (buffer : Buffer) : Buffer × MemoryDriver :=
  let taken := driver.takeId
  let id := taken.1
  let driver := taken.2
  ({ buffer with id },
    if id = 0 then driver
    else { driver with registered := driver.registered.insert id buffer.blocks })

/-- The buffer with the blocks that are registered under its name. -/
def queryBuffer (driver : MemoryDriver) (buffer : Buffer) : Except IoFault Buffer :=
  match driver.registered.find? buffer.id with
  | some blocks => .ok { buffer with blocks }
  | none => .error invalidArgument

/-- Only a registered buffer can be given up. -/
def unregister (driver : MemoryDriver) (buffer : Buffer) :
    Except IoFault Unit × MemoryDriver :=
  if driver.registered.contains buffer.id then
    (.ok (), { driver with registered := driver.registered.erase buffer.id })
  else
    (.error invalidArgument, driver)

/-- Only a registered buffer can be mapped; its size is not looked at. -/
def map (driver : MemoryDriver) (size : ByteCount) (id : BufferId) :
    Except IoFault Region × MemoryDriver :=
  if driver.registered.contains id then
    let base := driver.nextBase
    (.ok { base, len := size },
      { driver with
        nextBase := base + baseStep
        mappings := driver.mappings.insert base size })
  else
    (.error outOfMemory, driver)

/-- Only a whole mapping can be removed. -/
def unmap (driver : MemoryDriver) (region : Region) : Except IoFault Unit × MemoryDriver :=
  if driver.mappings.find? region.base = some region.len then
    (.ok (), { driver with mappings := driver.mappings.erase region.base })
  else
    (.error invalidArgument, driver)

/-- How the driver answers calls.  A call that is made to fail changes nothing. -/
def answer : Driver MemoryDriver
  | .openSession, driver =>
    match driver.failing .openSession with
    | some fault => (.error fault, driver)
    | none => (.ok (), { driver with opened := driver.opened + 1 })
  | .queryBlock block, driver =>
    match driver.failing .queryBlock with
    | some fault => (.error fault, driver)
    | none => (driver.queryBlock block, driver)
  | .register buffer, driver =>
    match driver.failing .register with
    | some fault => (.error fault, driver)
    | none => (.ok (driver.register buffer).1, (driver.register buffer).2)
  | .queryBuffer buffer, driver =>
    match driver.failing .queryBuffer with
    | some fault => (.error fault, driver)
    | none => (driver.queryBuffer buffer, driver)
  | .unregister buffer, driver =>
    match driver.failing .unregister with
    | some fault => (.error fault, driver)
    | none => driver.unregister buffer
  | .map size id, driver =>
    match driver.failing .map with
    | some fault => (.error fault, driver)
    | none => driver.map size id
  | .unmap region, driver =>
    match driver.failing .unmap with
    | some fault => (.error fault, driver)
    | none => driver.unmap region
  | .closeSession, driver => ((), { driver with closed := driver.closed + 1 })

end MemoryDriver

end TilerMapping
