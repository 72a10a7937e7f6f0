/-
Module: TilerMapping.Buffer
Purpose: Buffers of blocks, mapped regions and mapped buffers.
Main exports: Buffer, Buffer.totalSize?, Buffer.totalSize, Buffer.render, Region, MappedBuffer
-/
import TilerMapping.Block

namespace TilerMapping

/-- The driver keeps at most this many blocks in one buffer. -/
def maxBlocks : Nat := 16

/-- Blocks, in order, that the driver registers as one mappable unit. -/
structure Buffer where
  /-- The driver's name for the buffer; zero until it is registered. -/
  id : BufferId := 0
  blocks : List Block := []
deriving Repr, DecidableEq, Inhabited

namespace Buffer

/-- A registered buffer whose blocks are still to be queried. -/
def registered (id : BufferId) : Buffer := { id }

/-- Whether the driver has named the buffer. -/
def isRegistered (buffer : Buffer) : Bool := buffer.id != 0

/-- The sum of the mapped sizes of blocks on top of a running total, if every partial sum is
a word. -/
def sumSizes? (total : ByteCount) : List Block → Option ByteCount
  | [] => some total
  | block :: rest =>
    match block.size? with
    | none => none
    | some size =>
      match Word.add? total size with
      | none => none
      | some total => sumSizes? total rest

/-- The sum of the mapped sizes of all blocks, if it is a word. -/
def totalSize? (buffer : Buffer) : Option ByteCount :=
  sumSizes? 0 buffer.blocks

/-- The sum of the mapped sizes of all blocks, cut off at the largest word. -/
def totalSize (buffer : Buffer) : ByteCount :=
  buffer.totalSize?.getD Word.largest

/-- The written form of a buffer lists its blocks. -/
def render (buffer : Buffer) : String :=
  "buf=\x7bn=" ++ Numeral.decimal buffer.blocks.length ++ ",id=" ++
    Numeral.hexadecimal buffer.id.toNat ++ "," ++
    String.join (buffer.blocks.map fun block => " " ++ block.render) ++ "\x7d"

end Buffer

/-- A range of process addresses that a driver session has mapped. -/
structure Region where
  /-- The first address of the range. -/
  base : Address
  len : ByteCount
deriving Repr, DecidableEq, Inhabited

/-- A buffer that is registered and mapped.  It stays so until its address is handed back. -/
structure MappedBuffer where
  region : Region
  /-- The distance of the first block from the start of the region, below one page. -/
  offset : UInt64
  buffer : Buffer
deriving Repr, DecidableEq, Inhabited

namespace MappedBuffer

/-- The address of the first block, by which the buffer is handed back. -/
def address (mapped : MappedBuffer) : Address := mapped.region.base + mapped.offset

/-- The driver's name for the buffer. -/
def id (mapped : MappedBuffer) : BufferId := mapped.buffer.id

/-- The blocks, with their addresses. -/
def blocks (mapped : MappedBuffer) : List Block := mapped.buffer.blocks

/-- The bytes of all blocks together. -/
def size (mapped : MappedBuffer) : ByteCount := mapped.buffer.totalSize

/-- The address of the block at an index, if there is such a block. -/
def blockAddress? (mapped : MappedBuffer) (index : Nat) : Option Address :=
  mapped.blocks[index]?.bind (·.address)

end MappedBuffer

end TilerMapping
