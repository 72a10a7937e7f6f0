/-
Module: TilerMapping.RequestCode
Purpose: Device request codes, which pack direction, device letter, number and argument size.
Main exports: RequestCode.pack, RequestCode.readWrite, RequestCode.direction,
  RequestCode.letter, RequestCode.number, RequestCode.size
-/

namespace TilerMapping

/-!
A request code is a 32-bit word with four fields: the number in bits 0 to 7, the letter of
the device in bits 8 to 15, the size of the argument in bits 16 to 29 and the direction of
the transfer in bits 30 and 31.  `pack` joins the fields without masking them, so an argument
that is too wide for its field reaches into the next one.
-/

namespace RequestCode

/-- Bits of the number. -/
def numberBits : UInt32 := 8

/-- Bits of the device letter. -/
def letterBits : UInt32 := 8

/-- Bits of the argument size. -/
def sizeBits : UInt32 := 14

/-- The first bit of the device letter. -/
def letterShift : UInt32 := numberBits

/-- The first bit of the argument size. -/
def sizeShift : UInt32 := letterShift + letterBits

/-- The first bit of the direction. -/
def directionShift : UInt32 := sizeShift + sizeBits

/-- The direction of a request whose argument is written and read back. -/
def readWriteDirection : UInt32 := 3

/-- Join the fields.  The size is cut to 32 bits first, and bits shifted out of the word are
lost. -/
def pack (direction letter number : UInt32) (size : UInt64) : UInt32 :=
  (direction <<< directionShift) ||| (letter <<< letterShift) ||| number |||
    (size.toUInt32 <<< sizeShift)

/-- The code of a request that passes an argument of the given size in both directions. -/
def readWrite (letter number : UInt32) (size : UInt64) : UInt32 :=
  pack readWriteDirection letter number size

/-- The bits of a field, in its lowest place. -/
def fieldMask (bits : UInt32) : UInt32 := (1 <<< bits) - 1

/-- The direction of a code. -/
def direction (code : UInt32) : UInt32 := code >>> directionShift

/-- The device letter of a code. -/
def letter (code : UInt32) : UInt32 := (code >>> letterShift) &&& fieldMask letterBits

/-- The number of a code. -/
def number (code : UInt32) : UInt32 := code &&& fieldMask numberBits

/-- The argument size of a code. -/
def size (code : UInt32) : UInt32 := (code >>> sizeShift) &&& fieldMask sizeBits

end RequestCode

end TilerMapping
