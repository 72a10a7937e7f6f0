/-
Module: TilerMapping.Record
Purpose: The records exchanged with the tiler device, and their reading and writing.
Main exports: BlockRecord, BufferRecord, Block.toRecord, Block.ofRecord, Buffer.toRecord,
  Buffer.ofRecord
-/
import TilerMapping.Buffer
import TilerMapping.IoFault
import TilerMapping.Layout
import TilerMapping.RequestCode

namespace TilerMapping

/-!
The device takes and gives fixed records.  A block record holds the extent of its block in
four bytes: a byte length for a page block, and otherwise the width in the lower and the
height in the upper half.  A buffer record has sixteen block slots, of which the first
`count` are in use.
-/

/-- The device's record of a block. -/
structure BlockRecord where
  format : Int32 := 0
  /-- The four bytes of the extent. -/
  extent : UInt32 := 0
  stride : UInt32 := 0
  /-- The process address of the block; zero stands for none. -/
  address : Address := 0
  driverPtr : DriverPtr := 0
deriving Repr, DecidableEq, Inhabited

/-- The device's record of a buffer. -/
structure BufferRecord where
  count : Int32 := 0
  slots : Vector BlockRecord maxBlocks := Vector.replicate maxBlocks {}
  /-- The name of the buffer. -/
  offset : BufferId := 0
deriving DecidableEq, Inhabited

namespace BlockRecord

/-- The two halves of an extent. -/
def areaLayout : Layout := .record [.word 2, .word 2]

/-- An extent is read as an area or as a length. -/
def extentLayout : Layout := .overlay [areaLayout, .word 4]

/-- The fields of a block record in memory. -/
def layout : Layout :=
  .record [.word 4, extentLayout, .word 4, .word 8, .word 4]

/-- The width that an extent states as an area. -/
def width (record : BlockRecord) : UInt16 := record.extent.toUInt16

/-- The height that an extent states as an area. -/
def height (record : BlockRecord) : UInt16 := (record.extent >>> 16).toUInt16

/-- The extent with the given width and height as an area. -/
def areaExtent (width height : UInt16) : UInt32 :=
  (height.toUInt32 <<< 16) ||| width.toUInt32

/-- The written form of an extent shows both of its readings. -/
def renderExtent (record : BlockRecord) : String :=
  "TilerBlockDim \x7b area: TilerArea \x7b width: " ++ Numeral.decimal record.width.toNat ++
    ", height: " ++ Numeral.decimal record.height.toNat ++ " \x7d, len: " ++
    Numeral.decimal record.extent.toNat ++ " \x7d"

end BlockRecord

namespace BufferRecord

/-- The fields of a buffer record in memory. -/
def layout : Layout :=
  .record [.word 4, .array maxBlocks BlockRecord.layout, .word 4]

/-- Slots that hold the given records, with unused slots after them. -/
def slotsOfList (records : List BlockRecord) : Vector BlockRecord maxBlocks :=
  Vector.ofFn fun slot => records.getD slot.val {}

end BufferRecord

/-! ### Blocks -/

/-- The largest width or height of an area record. -/
def maxAreaSide : UInt32 := 0xffff

/-- The four bytes of an extent.  An area must fit two halves. -/
def Extent.toWord : Extent → Except IoFault UInt32
  | .length bytes => .ok bytes
  | .area width height =>
    if width ≤ maxAreaSide ∧ height ≤ maxAreaSide then
      .ok (BlockRecord.areaExtent width.toUInt16 height.toUInt16)
    else
      .error (.described .invalidInput (Numeral.decimal width.toNat ++ "x" ++
        Numeral.decimal height.toNat ++ " block does not fit a tiler area"))

/-- The extent that four bytes state for a format. -/
def Extent.ofRecord (format : ContainerFormat) (record : BlockRecord) : Extent :=
  if format.isPage then .length record.extent
  else .area record.width.toUInt32 record.height.toUInt32

namespace Block

/-- The record of a block, if its extent fits one. -/
def toRecord (block : Block) : Except IoFault BlockRecord :=
  match block.extent.toWord with
  | .error fault => .error fault
  | .ok extent =>
    .ok
      { format := block.format.code
        extent
        stride := block.stride
        address := block.address.getD 0
        driverPtr := block.driverPtr }

/-- The block that a record states. -/
def ofRecord (record : BlockRecord) : Block :=
  let format := ContainerFormat.ofCode record.format
  { driverPtr := record.driverPtr
    address := if record.address = 0 then none else some record.address
    format
    extent := Extent.ofRecord format record
    stride := record.stride }

/-- The records of several blocks, unless one of them has none. -/
def toRecords : List Block → Except IoFault (List BlockRecord)
  | [] => .ok []
  | block :: rest =>
    match block.toRecord with
    | .error fault => .error fault
    | .ok record =>
      match toRecords rest with
      | .error fault => .error fault
      | .ok records => .ok (record :: records)

end Block

/-! ### Buffers -/

namespace Buffer

/-- The record of a buffer, if it has slots enough and every block has a record. -/
def toRecord (buffer : Buffer) : Except IoFault BufferRecord :=
  if maxBlocks < buffer.blocks.length then
    .error (.described .invalidInput
      (Numeral.decimal buffer.blocks.length ++ " blocks exceed the tiler limit"))
  else
    match Block.toRecords buffer.blocks with
    | .error fault => .error fault
    | .ok records =>
      .ok
        { count := Int32.ofNat buffer.blocks.length
          slots := BufferRecord.slotsOfList records
          offset := buffer.id }

/-- The number of slots in use, if the record states a possible one. -/
def usedSlots? (record : BufferRecord) : Option Nat :=
  if 0 ≤ record.count ∧ record.count.toInt ≤ maxBlocks then some record.count.toInt.toNat
  else none

/-- The buffer that a record states, if its count is possible and its size is a word. -/
def ofRecord (record : BufferRecord) : Except IoFault Buffer :=
  match usedSlots? record with
  | none =>
    .error (.described .invalidData
      ("driver reported " ++ Numeral.signedDecimal record.count.toInt ++ " blocks"))
  | some used =>
    let buffer : Buffer :=
      { id := record.offset
        blocks := (record.slots.toList.take used).map Block.ofRecord }
    match buffer.totalSize? with
    | some _ => .ok buffer
    | none =>
      .error (.described .invalidData
        ("driver reported an oversized buffer: " ++ buffer.render))

end Buffer

end TilerMapping
