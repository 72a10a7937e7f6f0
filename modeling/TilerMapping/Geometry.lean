/-
Module: TilerMapping.Geometry
Purpose: Recovery of a block's layout from what the driver reports and the known byte length.
Main exports: GeometryFault, GeometryNotice, Container, Fit, Block.fitArea, Block.fitLength
-/
import TilerMapping.Block

namespace TilerMapping

/-!
The driver keeps neither the width nor the stride of a two-dimensional block.  A query
reports the width of the container, in bytes, and a row count that may exceed the real one
by the slack of the format.  The caller knows the byte length that it allocated.  Every row
takes whole pages, so the length lies between the allocation that the reported rows make and
the one that is left when the slack is taken off, and that bounds the pages of one row.  Of
the widths in this range the fit takes the narrowest.
-/

/-- Why reported geometry and known length do not fit together. -/
inductive GeometryFault where
  | zeroLength
  | zeroHeight
  /-- A block with a two-dimensional format has the extent of a page block. -/
  | notAnArea
  /-- No page width lies between the bounds. -/
  | noPageWidth (min max : UInt64)
  | sizeDiffers (expected actual : ByteCount)
deriving Repr, DecidableEq

/-- The text reported for a geometry fault. -/
def GeometryFault.message : GeometryFault → String
  | .zeroLength => "block length is zero"
  | .zeroHeight => "driver reported zero height"
  | .notAnArea => "driver reported a page-mode extent for a 2D format"
  | .noPageWidth min max =>
      "page width range " ++ Numeral.decimal min.toNat ++ "..=" ++ Numeral.decimal max.toNat ++
        " is empty"
  | .sizeDiffers expected actual =>
      "resolved size " ++ Numeral.decimal actual.toNat ++ " does not match length " ++
        Numeral.decimal expected.toNat

/-- What a fit reports beside its result. -/
inductive GeometryNotice where
  /-- The container is narrower than the bound that the slack gives. -/
  | widthLowered (bound capacity : UInt64)
  /-- More than one page width is possible. -/
  | strideAmbiguous (narrowest widest : UInt64)
deriving Repr, DecidableEq

/-- What the driver reports of a two-dimensional block: the width of its container in bytes
and at least as many rows as the block has. -/
structure Container where
  format : ContainerFormat
  width : UInt32
  height : UInt32
deriving Repr, DecidableEq

namespace Container

/-- The allocation of all reported rows at one page each. -/
def upperAllocation (container : Container) : UInt64 :=
  container.height.toUInt64 * pageSize

/-- The bytes of the slack rows at one page each. -/
def slack (container : Container) : UInt64 :=
  container.format.slackRows * pageSize

/-- The allocation at one page a row without the slack, unless nothing is left of it. -/
def lowerAllocation? (container : Container) : Option UInt64 :=
  if container.slack < container.upperAllocation then
    some (container.upperAllocation - container.slack)
  else
    none

/-- The pages of one row of the container. -/
def capacity (container : Container) : UInt64 :=
  container.width.toUInt64 / pageSize

/-- The least page width at which the reported rows hold the length. -/
def narrowest (container : Container) (length : UInt64) : UInt64 :=
  Word.ceilDiv length container.upperAllocation

/-- The least page width at which the rows without slack hold the length. -/
def slackBound? (container : Container) (length : UInt64) : Option UInt64 :=
  container.lowerAllocation?.map (Word.ceilDiv length)

/-- The largest page width considered: that of the slack, but no more than the container
holds, and that of the container where all rows are slack. -/
def widest (container : Container) (length : UInt64) : UInt64 :=
  match container.slackBound? length with
  | some bound => min bound container.capacity
  | none => container.capacity

/-- The report on the upper bound. -/
def widestNotices (container : Container) (length : UInt64) : List GeometryNotice :=
  match container.slackBound? length with
  | some bound =>
      if container.capacity < bound then [.widthLowered bound container.capacity] else []
  | none => []

/-- The report on the choice between several widths. -/
def choiceNotices (container : Container) (length : UInt64) : List GeometryNotice :=
  let narrowest := container.narrowest length
  let widest := container.widest length
  if narrowest = widest then [] else [.strideAmbiguous narrowest widest]

/-- The pixels of a row that takes the given number of pages. -/
def rowPixels (container : Container) (pages : UInt64) : UInt32 :=
  (pageSize * pages / container.format.bytesPerPixel.toUInt64).toUInt32

/-- The full rows that a length fills at the given number of pages each. -/
def rowCount (length pages : UInt64) : UInt32 :=
  (length / pageSize / pages).toUInt32

end Container

/-- The end of a fit: the block as it is left, the reports made on the way, and the
fault if there was one. -/
structure Fit where
  block : Block
  notices : List GeometryNotice := []
  outcome : Except GeometryFault Unit

namespace Block

/-- Fit a two-dimensional block to what the driver reported of it. -/
def fitContainer (block : Block) (container : Container) (length : UInt64) : Fit :=
  let narrowest := container.narrowest length
  let widest := container.widest length
  if widest < narrowest then
    { block
      notices := container.widestNotices length
      outcome := .error (.noPageWidth narrowest widest) }
  else
    let width := container.rowPixels narrowest
    { block :=
        { block with
          extent := .area width (Container.rowCount length narrowest)
          stride := width }
      notices := container.widestNotices length ++ container.choiceNotices length
      outcome := .ok () }

/-- Rebuild width, height and stride of a two-dimensional block of known length.  A block
that is refused is left as it was. -/
def fitArea (block : Block) (length : UInt32) : Fit :=
  match block.extent with
  | .length _ => { block, outcome := .error .notAnArea }
  | .area width height =>
    if length = 0 then { block, outcome := .error .zeroLength }
    else if height = 0 then { block, outcome := .error .zeroHeight }
    else block.fitContainer { format := block.format, width, height } length.toUInt64

/-- Compare the size of a fitted block with the known length. -/
def checkSize (block : Block) (length : UInt32) : Except GeometryFault Unit :=
  if block.size = length.toUInt64 then .ok ()
  else .error (.sizeDiffers length.toUInt64 block.size)

/-- Fill in the geometry of a queried block of known length.  A page block takes the length
as it is; any other is fitted as a two-dimensional block.  In both cases the block must
then have exactly the known size; one that has not is refused, but keeps the new geometry. -/
def fitLength (block : Block) (length : UInt32) : Fit :=
  if block.format.isPage then
    let block := { block with extent := .length length }
    { block, outcome := block.checkSize length }
  else
    let fit := block.fitArea length
    match fit.outcome with
    | .error _ => fit
    | .ok () => { fit with outcome := fit.block.checkSize length }

end Block

end TilerMapping
