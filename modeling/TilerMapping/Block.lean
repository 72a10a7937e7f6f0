/-
Module: TilerMapping.Block
Purpose: Tiler blocks, their mapped size and their written form.
Main exports: Extent, Block, Block.size?, Block.size, Block.render
-/
import TilerMapping.Numeral
import TilerMapping.Page
import TilerMapping.ContainerFormat

namespace TilerMapping

/-- The extent of a block: a byte length, or pixels in two dimensions. -/
inductive Extent where
  | length (bytes : UInt32)
  | area (width height : UInt32)
deriving Repr, DecidableEq

/-- One block of a tiler buffer. -/
structure Block where
  /-- The driver's pointer to the block; zero once the driver has denied the block. -/
  driverPtr : DriverPtr := 0
  /-- The address of the block in the process, once its buffer is mapped. -/
  address : Option Address := none
  format : ContainerFormat := .unset
  extent : Extent := .area 0 0
  /-- The distance of two rows, as the driver or a fit states it. -/
  stride : UInt32 := 0
deriving Repr, DecidableEq, Inhabited

namespace Block

/-- A block known by its driver pointer only, as it is passed to a query. -/
def ofPtr (driverPtr : DriverPtr) : Block := { driverPtr }

/-- A one-dimensional block. -/
def page (driverPtr : DriverPtr) (bytes : UInt32) : Block :=
  { driverPtr, format := .page, extent := .length bytes }

/-- A two-dimensional block. -/
def area (driverPtr : DriverPtr) (format : ContainerFormat) (width height : UInt32) : Block :=
  { driverPtr, format, extent := .area width height }

/-! ### Mapped size -/

/-- The distance of two rows of the given number of bytes: whole pages. -/
def rowStride (rowBytes : UInt64) : Except Abort UInt64 :=
  Page.alignUp rowBytes

/-- The bytes that one row of pixels takes in the mapping, if they are a word. -/
def rowBytes? (format : ContainerFormat) (width : UInt32) : Option UInt64 :=
  (Word.mul? width.toUInt64 format.bytesPerPixel.toUInt64).bind Page.roundUp?

/-- The bytes that the block takes in the mapping, if they are a word.  A page block takes
its length, a block with rows takes whole pages for each row, and a length under a format
with pixels is a single row. -/
def size? (block : Block) : Option ByteCount :=
  match block.format, block.extent with
  | .page, .length bytes => some bytes.toUInt64
  | .page, .area width _ => some width.toUInt64
  | format, .area width height =>
      (rowBytes? format width).bind (Word.mul? height.toUInt64)
  | format, .length bytes => rowBytes? format bytes

/-- The mapped size, cut off at the largest word. -/
def size (block : Block) : ByteCount :=
  block.size?.getD Word.largest

/-! ### Written form -/

/-- The address of a block, or a word for its absence. -/
def renderAddress : Option Address → String
  | some address => Numeral.hexadecimal address.toNat
  | none => "(nil)"

/-- The written form of a block.  A block whose extent does not suit its format is starred,
and shows the first number of its extent and the code of its format. -/
def render (block : Block) : String :=
  let place := renderAddress block.address ++ "(" ++
    Numeral.hexadecimal block.driverPtr.toNat ++ ")"
  let stride := Numeral.decimal block.stride.toNat
  let odd (first : UInt32) : String :=
    "*[p=" ++ place ++ ",l=" ++ Numeral.hexadecimal first.toNat ++ ",s=" ++ stride ++
      ",fmt=" ++ Numeral.hexadecimal block.format.code.toUInt32.toNat ++ "]"
  let rows (width height bits : UInt32) : String :=
    "[p=" ++ place ++ "," ++ Numeral.decimal width.toNat ++ "*" ++
      Numeral.decimal height.toNat ++ "*" ++ Numeral.decimal bits.toNat ++
      ",s=" ++ stride ++ "]"
  match block.format, block.extent with
  | .page, .length bytes =>
      "[p=" ++ place ++ ",l=" ++ Numeral.hexadecimal bytes.toNat ++ ",s=" ++ stride ++ "]"
  | .bit8, .area width height => rows width height 8
  | .bit16, .area width height => rows width height 16
  | .bit32, .area width height => rows width height 32
  | _, .length bytes => odd bytes
  | _, .area width _ => odd width

end Block

end TilerMapping
