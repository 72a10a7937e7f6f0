/-
Module: TilerMapping.ContainerFormat
Purpose: Container formats of tiler blocks and their driver codes.
Main exports: ContainerFormat, ContainerFormat.ofCode, ContainerFormat.code,
  ContainerFormat.bytesPerPixel, ContainerFormat.slackRows
-/

namespace TilerMapping

/-- The container format of a block. -/
inductive ContainerFormat where
  /-- A one-dimensional block, described by its byte length alone. -/
  | page
  | bit8
  | bit16
  | bit32
  /-- A driver code without a named format.  The constructor does not exclude the codes of
  the named formats: `other 4` is a value of its own, apart from `page`. -/
  | other (code : Int32)
deriving Repr, DecidableEq

namespace ContainerFormat

/-- The driver's code of an unset format. -/
def unsetCode : Int32 := 0

/-- The format of a block that was not queried yet. -/
def unset : ContainerFormat := .other unsetCode

instance : Inhabited ContainerFormat := ⟨unset⟩

/-- The driver's code of a format. -/
def code : ContainerFormat → Int32
  | .page => 4
  | .bit8 => 1
  | .bit16 => 2
  | .bit32 => 3
  | .other code => code

/-- The format that the driver means by a code. -/
def ofCode (code : Int32) : ContainerFormat :=
  if code = 4 then .page
  else if code = 1 then .bit8
  else if code = 2 then .bit16
  else if code = 3 then .bit32
  else .other code

/-- Whether blocks of the format are one-dimensional. -/
def isPage : ContainerFormat → Bool
  | .page => true
  | _ => false

/-- Bytes of one pixel.  Formats without pixels count bytes. -/
def bytesPerPixel : ContainerFormat → UInt32
  | .bit32 => 4
  | .bit16 => 2
  | _ => 1

/-- Rows, of one page each, by which the driver may reserve more height than the block has. -/
def slackRows : ContainerFormat → UInt64
  | .bit8 => 63
  | _ => 31

/-- Every code is the code of the format it is read as. -/
@[simp] theorem code_ofCode (code : Int32) : (ofCode code).code = code := by
  unfold ofCode
  split
  · simp_all [ContainerFormat.code]
  split
  · simp_all [ContainerFormat.code]
  split
  · simp_all [ContainerFormat.code]
  split
  · simp_all [ContainerFormat.code]
  rfl

theorem isPage_iff {format : ContainerFormat} : format.isPage = true ↔ format = .page := by
  cases format <;> simp [isPage]

/-- A pixel takes from one to four bytes. -/
theorem bytesPerPixel_bounds (format : ContainerFormat) :
    1 ≤ format.bytesPerPixel.toNat ∧ format.bytesPerPixel.toNat ≤ 4 := by
  cases format with
  | page | bit8 | bit16 | bit32 => decide
  | other code => exact (by decide : 1 ≤ (1 : UInt32).toNat ∧ (1 : UInt32).toNat ≤ 4)

end ContainerFormat

end TilerMapping
