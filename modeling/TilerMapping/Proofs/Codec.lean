/-
Module: TilerMapping.Proofs.Codec
Purpose: Reading back the records that were written for blocks and buffers.
Main exports: Block.Canonical, Block.ofRecord_toRecord, Buffer.ofRecord_toRecord,
  Block.Canonical.fitLength
-/
import TilerMapping.Proofs.Fitting
import TilerMapping.Record

namespace TilerMapping

/-!
A record has one form for what a block can say in several: the extent tells no length from an
area, a code no other format from a named one, and an address no null from none.  Blocks that were
read from a record, and those fitted to a length after that, say everything in the form that is
read back (`Block.Canonical`).
-/

/-! ### Extents -/

namespace BlockRecord

theorem toUInt16_areaExtent (width height : UInt16) :
    (areaExtent width height).toUInt16 = width := by
  unfold areaExtent
  apply UInt16.eq_of_toBitVec_eq
  simp only [UInt32.toBitVec_toUInt16, UInt32.toBitVec_or, UInt32.toBitVec_shiftLeft,
    UInt16.toBitVec_toUInt32]
  ext i hi
  simp

theorem toUInt16_shift_areaExtent (width height : UInt16) :
    (areaExtent width height >>> 16).toUInt16 = height := by
  unfold areaExtent
  apply UInt16.eq_of_toBitVec_eq
  simp only [UInt32.toBitVec_toUInt16, UInt32.toBitVec_or, UInt32.toBitVec_shiftLeft,
    UInt16.toBitVec_toUInt32, UInt32.toBitVec_shiftRight]
  ext i hi
  have inside : 16 + i < 32 := by omega
  have beyond : ¬16 + i < 16 := by omega
  have short : i < 32 := by omega
  simp [inside, beyond, short, BitVec.getLsbD_eq_getElem hi]

/-- A side that fits a half is kept by it. -/
theorem widen {side : UInt32} (fits : side ≤ maxAreaSide) : side.toUInt16.toUInt32 = side := by
  have bound : side.toNat ≤ 65535 := UInt32.le_iff_toNat_le.mp fits
  rw [← UInt32.toNat_inj, UInt16.toNat_toUInt32, UInt32.toNat_toUInt16]
  omega

end BlockRecord

/-! ### Blocks -/

namespace Block

/-- A block says everything in the form in which it is read from a record. -/
structure Canonical (block : Block) : Prop where
  format : ContainerFormat.ofCode block.format.code = block.format
  /-- Page blocks have a length, and others an area. -/
  length : block.format.isPage = true → ∃ bytes, block.extent = .length bytes
  area : block.format.isPage = false → ∃ width height, block.extent = .area width height
  address : block.address ≠ some 0

theorem canonical_ofRecord (record : BlockRecord) : (ofRecord record).Canonical := by
  constructor
  · simp [ofRecord]
  · intro page
    exact ⟨record.extent, by simpa [ofRecord, Extent.ofRecord] using page⟩
  · intro rows
    refine ⟨record.width.toUInt32, record.height.toUInt32, ?_⟩
    have other : ¬(ContainerFormat.ofCode record.format).isPage = true := by
      rw [show (ContainerFormat.ofCode record.format).isPage = false from rows]
      exact Bool.false_ne_true
    simp [ofRecord, Extent.ofRecord, other]
  · unfold ofRecord
    by_cases null : record.address = 0
    · simp [null]
    · simp [null]

/-- A fit changes neither format nor address, and gives a block the extent of its format. -/
theorem Canonical.fitLength {block : Block} (canonical : block.Canonical) {length : UInt32}
    (fits : (block.fitLength length).outcome = .ok ()) :
    (block.fitLength length).block.Canonical := by
  rcases block_fitLength fits with ⟨ofPage, ofPlane⟩
  cases page : block.format.isPage with
  | true =>
    rw [ofPage page]
    refine ⟨canonical.format, fun _ => ⟨length, rfl⟩, fun rows => ?_, canonical.address⟩
    rw [show block.format.isPage = false from rows] at page
    cases page
  | false =>
    rcases ofPlane page with ⟨width, height, stride, left⟩
    rw [left]
    refine ⟨canonical.format, fun isPage => ?_, fun _ => ⟨width, height, rfl⟩, canonical.address⟩
    rw [show block.format.isPage = true from isPage] at page
    cases page

/-- What was written for a canonical block is read back. -/
theorem ofRecord_toRecord {block : Block} {record : BlockRecord} (canonical : block.Canonical)
    (written : block.toRecord = .ok record) : ofRecord record = block := by
  unfold toRecord at written
  split at written
  · cases written
  rename_i extent word
  cases written
  have address : (if block.address.getD 0 = 0 then none else some (block.address.getD 0)) =
      block.address := by
    have nonzero := canonical.address
    cases known : block.address with
    | none => rfl
    | some address =>
      rw [known] at nonzero
      have nonzero : address ≠ 0 := fun zero => nonzero (congrArg some zero)
      simp [nonzero]
  have shape : Extent.ofRecord block.format
      { format := block.format.code, extent, stride := block.stride,
        address := block.address.getD 0, driverPtr := block.driverPtr } = block.extent := by
    unfold Extent.ofRecord
    cases page : block.format.isPage with
    | true =>
      obtain ⟨bytes, known⟩ := canonical.length page
      rw [known] at word ⊢
      cases word
      rfl
    | false =>
      obtain ⟨width, height, known⟩ := canonical.area page
      rw [known] at word ⊢
      unfold Extent.toWord at word
      simp only at word
      split at word
      · rename_i fits
        cases word
        simp only [BlockRecord.width, BlockRecord.height, BlockRecord.toUInt16_areaExtent,
          BlockRecord.toUInt16_shift_areaExtent, BlockRecord.widen fits.1,
          BlockRecord.widen fits.2]
        rfl
      · cases word
  unfold ofRecord
  simp only [canonical.format, address, shape]

/-- A list of records is written and read block by block. -/
theorem map_ofRecord_toRecords {blocks : List Block} {records : List BlockRecord}
    (canonical : ∀ block ∈ blocks, block.Canonical) (written : toRecords blocks = .ok records) :
    records.map ofRecord = blocks := by
  induction blocks generalizing records with
  | nil =>
    cases written
    rfl
  | cons block rest ih =>
    unfold toRecords at written
    split at written
    · cases written
    rename_i record first
    split at written
    · cases written
    rename_i others second
    cases written
    rw [List.map_cons, ofRecord_toRecord (canonical block List.mem_cons_self) first,
      ih (fun other member => canonical other (List.mem_cons_of_mem _ member)) second]

end Block

/-! ### Buffers -/

theorem BufferRecord.take_slotsOfList {records : List BlockRecord}
    (few : records.length ≤ maxBlocks) :
    (slotsOfList records).toList.take records.length = records := by
  apply List.ext_getElem
  · simp [few]
  · intro position short long
    simp [slotsOfList, List.getD_eq_getElem?_getD, List.getElem?_eq_getElem long]

namespace Buffer

theorem usedSlots?_of_count {record : BufferRecord} {used : Nat} (few : used ≤ maxBlocks)
    (count : record.count = Int32.ofNat used) : usedSlots? record = some used := by
  have number : (Int32.ofNat used).toInt = used := by
    refine Int32.toInt_ofNat_of_lt ?_
    unfold maxBlocks at few
    omega
  have positive : 0 ≤ Int32.ofNat used := by
    rw [Int32.le_iff_toInt_le, number]
    exact Int.natCast_nonneg used
  unfold usedSlots?
  rw [count, number, if_pos ⟨positive, Int.ofNat_le.mpr few⟩, Int.toNat_natCast]

/-- The record of a buffer does not depend on its name but for the name. -/
theorem toRecord_rename {buffer : Buffer} {record : BufferRecord}
    (written : buffer.toRecord = .ok record) (id : BufferId) :
    ({ buffer with id } : Buffer).toRecord = .ok { record with offset := id } := by
  unfold toRecord at written ⊢
  split at written
  · cases written
  rename_i few
  rw [if_neg few]
  split at written
  · cases written
  rename_i records known
  cases written
  simp only [known]

/-- A record with the count and the slots that were written for a buffer of canonical blocks is
read as these blocks, if their size is a word. -/
theorem ofRecord_toRecord {buffer : Buffer} {record reply : BufferRecord} {size : ByteCount}
    (canonical : ∀ block ∈ buffer.blocks, block.Canonical)
    (written : buffer.toRecord = .ok record) (count : reply.count = record.count)
    (slots : reply.slots = record.slots) (summed : buffer.totalSize? = some size) :
    ofRecord reply = .ok { buffer with id := reply.offset } := by
  unfold toRecord at written
  split at written
  · cases written
  rename_i few
  split at written
  · cases written
  rename_i records known
  cases written
  have blocks := Block.map_ofRecord_toRecords canonical known
  have length : records.length = buffer.blocks.length := by
    rw [← blocks, List.length_map]
  have limit : buffer.blocks.length ≤ maxBlocks := by omega
  have read : (reply.slots.toList.take buffer.blocks.length).map Block.ofRecord =
      buffer.blocks := by
    rw [slots, ← length, BufferRecord.take_slotsOfList (by omega), blocks]
  unfold ofRecord
  rw [usedSlots?_of_count limit count]
  simp only [read]
  rw [show ({ id := reply.offset, blocks := buffer.blocks } : Buffer).totalSize? = some size from
    summed]

end Buffer

end TilerMapping
