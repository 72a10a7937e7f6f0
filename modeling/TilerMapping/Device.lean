/-
Module: TilerMapping.Device
Purpose: The tiler device as a driver: session calls as system calls on its file.
Main exports: SystemCall, Kernel, Exchange, Device, Device.exchange, Device.answer
-/
import TilerMapping.Record
import TilerMapping.Session

namespace TilerMapping

/-- A request to the operating system. -/
inductive SystemCall where
  | openFile (path : String) (flags : UInt32)
  /-- Pass a block record to the device. -/
  | controlBlock (code : UInt32) (record : BlockRecord)
  /-- Pass a buffer record to the device. -/
  | controlBuffer (code : UInt32) (record : BufferRecord)
  | mapMemory (hint : Address) (length : ByteCount) (protection sharing : UInt32)
      (offset : UInt32)
  | unmapMemory (base : Address) (length : ByteCount)
  | closeFile
deriving DecidableEq

/-- What the operating system answers: an error number, or a result.  A control request
answers the record as the device leaves it, a mapping its address. -/
@[reducible] def SystemCall.Answer : SystemCall → Type
  | .openFile _ _ => Except Errno Unit
  | .controlBlock _ _ => Except Errno BlockRecord
  | .controlBuffer _ _ => Except Errno BufferRecord
  | .mapMemory _ _ _ _ _ => Except Errno Address
  | .unmapMemory _ _ => Except Errno Unit
  | .closeFile => Unit

/-- An operating system with states `κ`. -/
abbrev Kernel (κ : Type) := (request : SystemCall) → κ → request.Answer × κ

/-! ### Request codes of the device -/

namespace TilerRequest

/-- The letter of the device, `z`. -/
def letter : UInt32 := 0x7a

/-- Read back the blocks of a registered buffer. -/
def queryBuffer : UInt32 :=
  RequestCode.readWrite letter 105 BufferRecord.layout.size.toUInt64

/-- Register a buffer. -/
def registerBuffer : UInt32 :=
  RequestCode.readWrite letter 106 BufferRecord.layout.size.toUInt64

/-- Give up a registration. -/
def unregisterBuffer : UInt32 :=
  RequestCode.readWrite letter 107 BufferRecord.layout.size.toUInt64

/-- Ask for format and extent of a block. -/
def queryBlock : UInt32 :=
  RequestCode.readWrite letter 108 BlockRecord.layout.size.toUInt64

end TilerRequest

/-! ### Session calls as system calls -/

/-- How a session call is answered: on this side, or by one system call. -/
inductive Exchange (α : Type) where
  | here (value : α)
  | ask (request : SystemCall) (next : request.Answer → α)

namespace Exchange

variable {α κ : Type}

/-- The system call of an exchange, if there is one. -/
def systemCall? : Exchange α → Option SystemCall
  | .here _ => none
  | .ask request _ => some request

/-- Carry out an exchange with an operating system. -/
def run (kernel : Kernel κ) : Exchange α → κ → α × κ
  | .here value, state => (value, state)
  | .ask request next, state =>
    let reply := kernel request state
    (next reply.1, reply.2)

end Exchange

/-- The file of a tiler device. -/
structure Device where
  path : String := "/dev/tiler"
deriving Repr, DecidableEq

namespace Device

/-- The flag that opens a file for reading and writing. -/
def readWriteFlag : UInt32 := 0x2

/-- The flag that passes written data on at once. -/
def synchronousFlag : UInt32 := 0x101000

/-- The flag that closes the file in programs that this one starts. -/
def closeOnExecFlag : UInt32 := 0x80000

/-- The flags with which the device is opened. -/
def openFlags : UInt32 := readWriteFlag ||| synchronousFlag ||| closeOnExecFlag

/-- Mappings can be read and written. -/
def mapProtection : UInt32 := 3

/-- Mappings are shared with other processes. -/
def mapSharing : UInt32 := 1

/-- A result whose error number becomes a fault. -/
def orFault {α β : Type} (f : α → β) : Except Errno α → Except IoFault β
  | .ok value => .ok (f value)
  | .error code => .error (.os code)

/-- The session calls of the device as system calls.  A path that holds the character zero
cannot be passed on.  A record that cannot be written is a fault on this side.  A queried
buffer keeps its name, whatever name the reply carries. -/
def exchange (device : Device) : (request : Call) → Exchange request.Answer
  | .openSession =>
    if device.path.toList.contains '\x00' then
      .here (.error (.described .invalidInput
        "file name contained an unexpected NUL byte"))
    else
      .ask (.openFile device.path openFlags) (orFault id)
  | .queryBlock block =>
    match block.toRecord with
    | .error fault => .here (.error fault)
    | .ok record => .ask (.controlBlock TilerRequest.queryBlock record) (orFault Block.ofRecord)
  | .register buffer =>
    match buffer.toRecord with
    | .error fault => .here (.error fault)
    | .ok record =>
      .ask (.controlBuffer TilerRequest.registerBuffer record)
        (orFault fun reply => { buffer with id := reply.offset })
  | .queryBuffer buffer =>
    .ask (.controlBuffer TilerRequest.queryBuffer { offset := buffer.id }) fun
      | .error code => .error (.os code)
      | .ok reply =>
        match Buffer.ofRecord reply with
        | .error fault => .error fault
        | .ok queried => .ok { queried with id := buffer.id }
  | .unregister buffer =>
    match buffer.toRecord with
    | .error fault => .here (.error fault)
    | .ok record =>
      .ask (.controlBuffer TilerRequest.unregisterBuffer record) (orFault fun _ => ())
  | .map size id =>
    .ask (.mapMemory 0 size mapProtection mapSharing id) (orFault fun base => ⟨base, size⟩)
  | .unmap region => .ask (.unmapMemory region.base region.len) (orFault id)
  | .closeSession => .ask .closeFile id

/-- The device as a driver, over an operating system. -/
def answer {κ : Type} (device : Device) (kernel : Kernel κ) : Driver κ :=
  fun request state => (device.exchange request).run kernel state

/-- The system calls that a sequence of session calls makes. -/
def systemCalls (device : Device) (requests : List Call) : List SystemCall :=
  requests.filterMap fun request => (device.exchange request).systemCall?

end Device

end TilerMapping
