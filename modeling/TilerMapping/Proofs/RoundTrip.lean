/-
Module: TilerMapping.Proofs.RoundTrip
Purpose: What of a block or buffer survives being written and read, and of a record being read and
  written.
Main exports: Extent.number, Extent.toWord_eq_ok_iff, Block.reread, Block.toRecord_ofRecord,
  Block.ofRecord_eq_reread, Block.canonical_iff, Buffer.toRecord_eq_ok_iff,
  BufferRecord.cleared, Buffer.toRecord_of_ofRecord, records_round_trip
-/
import TilerMapping.Proofs.Codec
import TilerMapping.Proofs.ExactSize

namespace TilerMapping

/-!
The code of a record decides how its four bytes of extent are read, while a block that is written
says by its extent how they are meant.  From records to blocks and back the two agree, and nothing
is lost.  From blocks to records and back they agree on canonical blocks only; any other block comes
back in the form that its record is read in (`Block.reread`).
-/

/-! ### Extents -/

/-- The four bytes of an extent as one number: the height of an area is its upper half. -/
def Extent.number : Extent → Nat
  | .length bytes => bytes.toNat
  | .area width height => height.toNat * 65536 + width.toNat

/-- An extent as it is read under a format: the whole number for a page block, and its halves for
any other. -/
def Extent.reread (format : ContainerFormat) (extent : Extent) : Extent :=
  if format.isPage then .length (UInt32.ofNat extent.number)
  else .area (UInt32.ofNat (extent.number % 65536)) (UInt32.ofNat (extent.number / 65536))

/-- The sides of an area fit the halves of four bytes; a length fits them in any case. -/
def Extent.Fits (extent : Extent) : Prop :=
  ∀ width height, extent = .area width height → width.toNat ≤ 65535 ∧ height.toNat ≤ 65535

namespace BlockRecord

theorem toNat_width (record : BlockRecord) : record.width.toNat = record.extent.toNat % 65536 := by
  rw [width, UInt32.toNat_toUInt16]

theorem toNat_height (record : BlockRecord) :
    record.height.toNat = record.extent.toNat / 65536 := by
  have bound := record.extent.toNat_lt
  rw [height, UInt32.toNat_toUInt16, UInt32.toNat_shiftRight,
    show (16 : UInt32).toNat % 32 = 16 from rfl, Nat.shiftRight_eq_div_pow]
  exact Nat.mod_eq_of_lt (by omega)

/-- The extent of two halves is the number that they make. -/
theorem toNat_areaExtent (width height : UInt16) :
    (areaExtent width height).toNat = height.toNat * 65536 + width.toNat := by
  have lower := congrArg UInt16.toNat (toUInt16_areaExtent width height)
  have upper := congrArg UInt16.toNat (toUInt16_shift_areaExtent width height)
  have parts := Nat.div_add_mod' (areaExtent width height).toNat 65536
  rw [UInt32.toNat_toUInt16] at lower
  have half := toNat_height { extent := areaExtent width height }
  rw [BlockRecord.height, upper] at half
  simp only at half
  omega

/-- The halves of an extent make up the extent again. -/
theorem areaExtent_halves (record : BlockRecord) :
    areaExtent record.width record.height = record.extent := by
  rw [← UInt32.toNat_inj, toNat_areaExtent, toNat_width, toNat_height]
  exact Nat.div_add_mod' _ _

end BlockRecord

namespace Extent

theorem fits_length (bytes : UInt32) : (length bytes).Fits := by
  intro width height same
  cases same

theorem fits_area {width height : UInt32} :
    (area width height).Fits ↔ width.toNat ≤ 65535 ∧ height.toNat ≤ 65535 := by
  constructor
  · intro fits
    exact fits width height rfl
  · intro short width height same
    cases same
    exact short

/-- An extent is written exactly where it fits, and as its number. -/
theorem toWord_eq_ok_iff {extent : Extent} {word : UInt32} :
    extent.toWord = .ok word ↔ extent.Fits ∧ word.toNat = extent.number := by
  cases extent with
  | length bytes =>
    rw [toWord, Except.ok.injEq, ← UInt32.toNat_inj, eq_comm]
    exact (and_iff_right (fits_length bytes)).symm
  | area width height =>
    have sides : (width ≤ maxAreaSide ∧ height ≤ maxAreaSide) ↔ (area width height).Fits := by
      rw [fits_area]
      exact and_congr UInt32.le_iff_toNat_le UInt32.le_iff_toNat_le
    rw [toWord]
    split
    · rename_i short
      have fits := fits_area.mp (sides.mp short)
      rw [and_iff_right (sides.mp short), Except.ok.injEq, ← UInt32.toNat_inj,
        BlockRecord.toNat_areaExtent, UInt32.toNat_toUInt16, UInt32.toNat_toUInt16,
        Nat.mod_eq_of_lt (by omega), Nat.mod_eq_of_lt (by omega), eq_comm]
      rfl
    · rename_i long
      simp only [reduceCtorEq, false_iff, not_and]
      intro fits
      exact absurd (sides.mpr fits) long

/-- Four bytes that hold the number of an extent are read as that extent under the format. -/
theorem ofRecord_of_number {extent : Extent} {record : BlockRecord} (format : ContainerFormat)
    (same : record.extent.toNat = extent.number) :
    Extent.ofRecord format record = extent.reread format := by
  have whole : UInt32.ofNat extent.number = record.extent := by
    rw [← same, UInt32.ofNat_toNat]
  have lower : UInt32.ofNat (extent.number % 65536) = record.width.toUInt32 := by
    rw [← same, ← BlockRecord.toNat_width, ← UInt16.toNat_toUInt32, UInt32.ofNat_toNat]
  have upper : UInt32.ofNat (extent.number / 65536) = record.height.toUInt32 := by
    rw [← same, ← BlockRecord.toNat_height, ← UInt16.toNat_toUInt32, UInt32.ofNat_toNat]
  rw [reread, whole, lower, upper]
  rfl

/-- What is read of an extent is written as the same four bytes, whatever the format. -/
theorem toWord_ofRecord (format : ContainerFormat) (record : BlockRecord) :
    (Extent.ofRecord format record).toWord = .ok record.extent := by
  rw [toWord_eq_ok_iff]
  unfold Extent.ofRecord
  split
  · exact ⟨fits_length _, rfl⟩
  · have width := record.width.toNat_lt
    have height := record.height.toNat_lt
    rw [fits_area, number, UInt16.toNat_toUInt32, UInt16.toNat_toUInt32,
      ← BlockRecord.toNat_areaExtent, BlockRecord.areaExtent_halves]
    exact ⟨⟨by omega, by omega⟩, rfl⟩

end Extent

/-! ### Formats -/

/-- The format by its name, where a code without a name was one with a name after all. -/
def ContainerFormat.named : ContainerFormat → ContainerFormat
  | .other code =>
    if code = 1 then .bit8
    else if code = 2 then .bit16
    else if code = 3 then .bit32
    else if code = 4 then .page
    else .other code
  | format => format

theorem ContainerFormat.ofCode_code (format : ContainerFormat) :
    ofCode format.code = format.named := by
  cases format with
  | page | bit8 | bit16 | bit32 => rfl
  | other code =>
    -- The same four codes are singled out in another order.
    unfold ofCode named ContainerFormat.code
    grind

/-- A format goes by its name unless it is one of the four codes that have one. -/
theorem ContainerFormat.named_eq_self_iff {format : ContainerFormat} :
    format.named = format ↔ ∀ code, format = .other code → ¬(1 ≤ code ∧ code ≤ 4) := by
  cases format with
  | page | bit8 | bit16 | bit32 => simp [named]
  | other code =>
    have number (n : Int32) : code = n ↔ code.toInt = n.toInt := Int32.toInt_inj.symm
    have range : (1 ≤ code ∧ code ≤ 4) ↔ code = 1 ∨ code = 2 ∨ code = 3 ∨ code = 4 := by
      simp only [number, Int32.le_iff_toInt_le, show (1 : Int32).toInt = 1 from rfl,
        show (2 : Int32).toInt = 2 from rfl, show (3 : Int32).toInt = 3 from rfl,
        show (4 : Int32).toInt = 4 from rfl]
      omega
    constructor
    · intro same known shape
      cases shape
      rw [range]
      rintro (rfl | rfl | rfl | rfl) <;> cases same
    · intro nameless
      have beyond := nameless code rfl
      rw [range] at beyond
      simp only [not_or] at beyond
      rw [named, if_neg beyond.1, if_neg beyond.2.1, if_neg beyond.2.2.1, if_neg beyond.2.2.2]

/-! ### Blocks -/

namespace Block

/-- A block as it is read from the record that was written for it: the format by its name, a null
address as none, and the extent under that format. -/
def reread (block : Block) : Block :=
  { block with
    address := if block.address = some 0 then none else block.address
    format := block.format.named
    extent := block.extent.reread block.format.named }

theorem toRecord_eq_ok_iff {block : Block} {record : BlockRecord} :
    block.toRecord = .ok record ↔
      ∃ word, block.extent.toWord = .ok word ∧
        record =
          { format := block.format.code
            extent := word
            stride := block.stride
            address := block.address.getD 0
            driverPtr := block.driverPtr } := by
  unfold toRecord
  cases block.extent.toWord with
  | error fault => simp
  | ok word => simp [eq_comm]

/-- What a record states of a block is written as the same record. -/
theorem toRecord_ofRecord (record : BlockRecord) : (ofRecord record).toRecord = .ok record := by
  rw [toRecord_eq_ok_iff]
  refine ⟨record.extent, Extent.toWord_ofRecord _ record, ?_⟩
  have address : (ofRecord record).address.getD 0 = record.address := by
    unfold ofRecord
    by_cases null : record.address = 0
    · simp [null]
    · simp [null]
  rw [address]
  simp [ofRecord]

/-- A block has a record exactly where its extent fits one. -/
theorem exists_toRecord_iff {block : Block} :
    (∃ record, block.toRecord = .ok record) ↔ block.extent.Fits := by
  constructor
  · rintro ⟨record, written⟩
    obtain ⟨word, known, _⟩ := toRecord_eq_ok_iff.mp written
    exact (Extent.toWord_eq_ok_iff.mp known).1
  · intro fits
    cases known : block.extent.toWord with
    | ok word => exact ⟨_, toRecord_eq_ok_iff.mpr ⟨word, known, rfl⟩⟩
    | error fault =>
      cases shape : block.extent with
      | length bytes =>
        rw [shape] at known
        cases known
      | area width height =>
        have sides := fits width height shape
        have short : width ≤ maxAreaSide ∧ height ≤ maxAreaSide :=
          ⟨UInt32.le_iff_toNat_le.mpr sides.1, UInt32.le_iff_toNat_le.mpr sides.2⟩
        rw [shape, Extent.toWord, if_pos short] at known
        cases known

/-- The record of a block is read as the block in the form of its record. -/
theorem ofRecord_eq_reread {block : Block} {record : BlockRecord}
    (written : block.toRecord = .ok record) : ofRecord record = block.reread := by
  obtain ⟨word, known, rfl⟩ := toRecord_eq_ok_iff.mp written
  have number := (Extent.toWord_eq_ok_iff.mp known).2
  have address : (if block.address.getD 0 = 0 then none else some (block.address.getD 0)) =
      if block.address = some 0 then none else block.address := by
    cases block.address with
    | none => rfl
    | some address => simp
  unfold ofRecord reread
  simp only [ContainerFormat.ofCode_code, address]
  rw [Extent.ofRecord_of_number block.format.named number]

/-- A block is canonical if its format goes by its name, its address is not null, and its extent is
a length exactly for a page block. -/
theorem canonical_iff {block : Block} :
    block.Canonical ↔
      (∀ code, block.format = .other code → ¬(1 ≤ code ∧ code ≤ 4)) ∧
        block.address ≠ some 0 ∧
        ((∃ bytes, block.extent = .length bytes) ↔ block.format = .page) := by
  rw [← ContainerFormat.named_eq_self_iff, ← ContainerFormat.ofCode_code,
    ← ContainerFormat.isPage_iff]
  constructor
  · rintro ⟨format, length, area, address⟩
    refine ⟨format, address, ?_, length⟩
    rintro ⟨bytes, shape⟩
    cases page : block.format.isPage with
    | true => rfl
    | false =>
      obtain ⟨width, height, other⟩ := area page
      rw [shape] at other
      cases other
  · rintro ⟨format, address, shape⟩
    refine ⟨format, shape.mpr, fun plane => ?_, address⟩
    cases extent : block.extent with
    | area width height => exact ⟨width, height, rfl⟩
    | length bytes =>
      rw [shape.mp ⟨bytes, extent⟩] at plane
      cases plane

/-- A block that has a record comes back unaltered exactly if it is canonical. -/
theorem reread_eq_self_iff {block : Block} {record : BlockRecord}
    (written : block.toRecord = .ok record) : block.reread = block ↔ block.Canonical := by
  rw [← ofRecord_eq_reread written]
  constructor
  · intro same
    rw [← same]
    exact canonical_ofRecord record
  · intro canonical
    exact ofRecord_toRecord canonical written

/-! ### Lists of blocks -/

/-- Several blocks have records exactly where each has one. -/
theorem toRecords_eq_ok_iff {blocks : List Block} {records : List BlockRecord} :
    toRecords blocks = .ok records ↔ blocks.map toRecord = records.map .ok := by
  induction blocks generalizing records with
  | nil =>
    cases records with
    | nil => simp [toRecords]
    | cons record others => simp [toRecords]
  | cons block rest ih =>
    rw [toRecords]
    cases known : block.toRecord with
    | error fault => cases records <;> simp [known]
    | ok record =>
      cases written : toRecords rest with
      | error fault =>
        cases records with
        | nil => simp [known]
        | cons first others =>
          have missing : ¬rest.map toRecord = others.map .ok := fun all => by
            rw [ih.mpr all] at written
            cases written
          simp [known, missing]
      | ok found =>
        cases records with
        | nil => simp [known]
        | cons first others =>
          have same : found = others ↔ rest.map toRecord = others.map .ok := by
            rw [← ih, written, Except.ok.injEq]
          simp [known, same]

theorem exists_toRecords_iff {blocks : List Block} :
    (∃ records, toRecords blocks = .ok records) ↔ ∀ block ∈ blocks, block.extent.Fits := by
  simp only [toRecords_eq_ok_iff, ← exists_toRecord_iff]
  induction blocks with
  | nil => exact ⟨fun _ _ member => absurd member List.not_mem_nil, fun _ => ⟨[], rfl⟩⟩
  | cons block rest ih =>
    rw [List.forall_mem_cons, ← ih]
    constructor
    · rintro ⟨records, all⟩
      cases records with
      | nil => cases all
      | cons first others =>
        rw [List.map_cons, List.map_cons, List.cons.injEq] at all
        exact ⟨⟨first, all.1⟩, others, all.2⟩
    · rintro ⟨⟨first, known⟩, others, all⟩
      exact ⟨first :: others, by rw [List.map_cons, List.map_cons, known, all]⟩

theorem toRecords_map_ofRecord (records : List BlockRecord) :
    toRecords (records.map ofRecord) = .ok records := by
  rw [toRecords_eq_ok_iff, List.map_map]
  exact List.map_congr_left fun record _ => toRecord_ofRecord record

theorem map_ofRecord_eq_reread {blocks : List Block} {records : List BlockRecord}
    (written : toRecords blocks = .ok records) : records.map ofRecord = blocks.map reread := by
  rw [toRecords_eq_ok_iff] at written
  induction blocks generalizing records with
  | nil =>
    cases records with
    | nil => rfl
    | cons record others => cases written
  | cons block rest ih =>
    cases records with
    | nil => cases written
    | cons record others =>
      rw [List.map_cons, List.map_cons, List.cons.injEq] at written
      rw [List.map_cons, List.map_cons, ofRecord_eq_reread written.1, ih written.2]

end Block

/-! ### Buffers -/

/-- The record with nothing in the slots that it does not use. -/
def BufferRecord.cleared (record : BufferRecord) : BufferRecord :=
  { record with
    slots := Vector.ofFn fun slot =>
      if (slot : Int) < record.count.toInt then record.slots.get slot else {} }

@[simp] theorem BufferRecord.cleared_count (record : BufferRecord) :
    record.cleared.count = record.count := by
  rw [cleared]

@[simp] theorem BufferRecord.cleared_offset (record : BufferRecord) :
    record.cleared.offset = record.offset := by
  rw [cleared]

theorem BufferRecord.get_cleared (record : BufferRecord) (slot : Fin maxBlocks) :
    record.cleared.slots.get slot =
      if (slot : Int) < record.count.toInt then record.slots.get slot else {} :=
  Vector.getElem_ofFn slot.isLt

/-- The slots in use are all that a cleared record states. -/
theorem BufferRecord.slotsOfList_take (record : BufferRecord) {used : Nat}
    (count : record.count.toInt = used) :
    slotsOfList (record.slots.toList.take used) = record.cleared.slots := by
  have slot_eq (slot : Fin maxBlocks) : (record.slots.toList.take used).getD slot {} =
      if (slot : Int) < record.count.toInt then record.slots.get slot else {} := by
    rw [count, List.getD_eq_getElem?_getD, List.getElem?_take]
    by_cases inside : (slot : Nat) < used
    · rw [if_pos inside, if_pos (Int.ofNat_lt.mpr inside)]
      simp
      rfl
    · rw [if_neg inside, if_neg (fun less => inside (Int.ofNat_lt.mp less))]
      rfl
  exact congrArg Vector.ofFn (funext slot_eq)

namespace Buffer

theorem toRecord_eq_ok_iff {buffer : Buffer} {record : BufferRecord} :
    buffer.toRecord = .ok record ↔
      buffer.blocks.length ≤ maxBlocks ∧
        ∃ records, Block.toRecords buffer.blocks = .ok records ∧
          record =
            { count := Int32.ofNat buffer.blocks.length
              slots := BufferRecord.slotsOfList records
              offset := buffer.id } := by
  unfold toRecord
  split
  · rename_i many
    simp only [reduceCtorEq, false_iff, not_and]
    intro few
    exact absurd many (Nat.not_lt.mpr few)
  · rename_i few
    rw [and_iff_right (Nat.not_lt.mp few)]
    cases Block.toRecords buffer.blocks with
    | error fault => simp
    | ok records => simp [eq_comm]

/-- A buffer has a record exactly where it has slots enough and every area fits one. -/
theorem exists_toRecord_iff {buffer : Buffer} :
    (∃ record, buffer.toRecord = .ok record) ↔
      buffer.blocks.length ≤ maxBlocks ∧ ∀ block ∈ buffer.blocks, block.extent.Fits := by
  rw [← Block.exists_toRecords_iff]
  constructor
  · rintro ⟨record, written⟩
    obtain ⟨few, records, known, _⟩ := toRecord_eq_ok_iff.mp written
    exact ⟨few, records, known⟩
  · rintro ⟨few, records, known⟩
    exact ⟨_, toRecord_eq_ok_iff.mpr ⟨few, records, known, rfl⟩⟩

/-- The record of a buffer is read as the buffer with every block in the form of its record. -/
theorem ofRecord_of_toRecord {buffer : Buffer} {record : BufferRecord}
    (written : buffer.toRecord = .ok record) :
    ofRecord record = .ok { buffer with blocks := buffer.blocks.map Block.reread } := by
  obtain ⟨few, records, known, rfl⟩ := toRecord_eq_ok_iff.mp written
  have length : records.length = buffer.blocks.length := by
    have same := congrArg List.length (Block.map_ofRecord_eq_reread known)
    simpa using same
  refine ofRecord_eq_ok_iff.mpr ⟨buffer.blocks.length, usedSlots?_of_count few rfl, ?_⟩
  rw [recorded, ← length, BufferRecord.take_slotsOfList (by omega),
    Block.map_ofRecord_eq_reread known]

/-- A buffer that has a record is read back exactly if all its blocks are canonical. -/
theorem ofRecord_eq_ok_self_iff {buffer : Buffer} {record : BufferRecord}
    (written : buffer.toRecord = .ok record) :
    ofRecord record = .ok buffer ↔ ∀ block ∈ buffer.blocks, block.Canonical := by
  have fits := (exists_toRecord_iff.mp ⟨record, written⟩).2
  have back (block : Block) (member : block ∈ buffer.blocks) :
      block.reread = block ↔ block.Canonical := by
    obtain ⟨slot, known⟩ := Block.exists_toRecord_iff.mpr (fits block member)
    exact Block.reread_eq_self_iff known
  rw [ofRecord_of_toRecord written]
  constructor
  · intro same block member
    rw [Except.ok.injEq] at same
    have blocks : buffer.blocks.map Block.reread = buffer.blocks.map fun block => block := by
      rw [List.map_id']
      exact congrArg (·.blocks) same
    exact (back block member).mp (List.map_inj_left.mp blocks block member)
  · intro canonical
    rw [List.map_congr_left fun block member => (back block member).mpr (canonical block member),
      List.map_id']

/-- What was read from a record is written as the same record, cleared of the slots that it does not
use. -/
theorem toRecord_of_ofRecord {record : BufferRecord} {buffer : Buffer}
    (read : ofRecord record = .ok buffer) : buffer.toRecord = .ok record.cleared := by
  obtain ⟨used, known, rfl⟩ := ofRecord_eq_ok_iff.mp read
  obtain ⟨count, few⟩ := usedSlots?_eq_some_iff.mp known
  have length : (recorded record used).length = used := length_recorded few
  have same : Int32.ofNat used = record.count := by
    rw [← Int32.toInt_inj, count, Int32.toInt_ofNat_of_lt]
    unfold maxBlocks at few
    omega
  refine toRecord_eq_ok_iff.mpr ⟨by rw [length]; exact few, _, Block.toRecords_map_ofRecord _, ?_⟩
  rw [length, same, BufferRecord.slotsOfList_take record count]
  rfl

end Buffer

/-! ### Both ways -/

/-- Records survive being read and written, and buffers survive being written and read as far as
their records can say.

Every block record comes back as it was, whatever its code and extent, and every buffer record that
can be read comes back but for the slots that it does not use, which are zero then.  A buffer can be
written exactly if it has at most sixteen blocks and no area with a side beyond 65535, whatever its
format.  It can then be read again.  It is the same buffer exactly if no block has an unnamed format
with a code from 1 to 4, a null address, or an extent that is not a length exactly for a page block;
and otherwise each block differs in these three points only. -/
theorem records_round_trip (slot : BlockRecord) (record : BufferRecord) (buffer : Buffer) :
    (Block.ofRecord slot).toRecord = .ok slot ∧
    (∀ decoded, Buffer.ofRecord record = .ok decoded →
      ∃ written, decoded.toRecord = .ok written ∧
        written.count = record.count ∧ written.offset = record.offset ∧
        ∀ index : Fin maxBlocks, written.slots.get index =
          if (index : Int) < record.count.toInt then record.slots.get index
          else { format := 0, extent := 0, stride := 0, address := 0, driverPtr := 0 }) ∧
    ((∃ written, buffer.toRecord = .ok written) ↔
      buffer.blocks.length ≤ 16 ∧
        ∀ block ∈ buffer.blocks, ∀ width height, block.extent = .area width height →
          width.toNat ≤ 65535 ∧ height.toNat ≤ 65535) ∧
    (∀ written, buffer.toRecord = .ok written →
      Buffer.ofRecord written = .ok { buffer with blocks := buffer.blocks.map Block.reread } ∧
      (Buffer.ofRecord written = .ok buffer ↔
        ∀ block ∈ buffer.blocks,
          (∀ code, block.format = .other code → ¬(1 ≤ code ∧ code ≤ 4)) ∧
            block.address ≠ some 0 ∧
            ((∃ bytes, block.extent = .length bytes) ↔ block.format = .page))) := by
  refine ⟨Block.toRecord_ofRecord slot, fun decoded read => ?_, Buffer.exists_toRecord_iff,
    fun written known => ⟨Buffer.ofRecord_of_toRecord known, ?_⟩⟩
  · exact ⟨_, Buffer.toRecord_of_ofRecord read, record.cleared_count, record.cleared_offset,
      record.get_cleared⟩
  · simp only [Buffer.ofRecord_eq_ok_self_iff known, Block.canonical_iff]

/-- A record that uses one of its two filled slots. -/
def BufferRecord.oneOfTwo : BufferRecord :=
  { count := 1
    slots := slotsOfList
      [{ format := 3, extent := 0x20001, address := 9 }, { format := 7, stride := 5 }]
    offset := 8 }

/-- A buffer with an area of three rows of two pixels, whose format has the code of pages. -/
def Buffer.unnamedPage : Buffer :=
  { id := 8
    blocks := [{ driverPtr := 6, address := some 0, format := .other 4, extent := .area 2 3 }] }

theorem records_round_trip_oneOfTwo_unnamedPage :
    (∃ decoded written, Buffer.ofRecord .oneOfTwo = .ok decoded ∧ decoded.toRecord = .ok written ∧
      written.slots[0] = BufferRecord.oneOfTwo.slots[0] ∧ written.slots[1] = {}) ∧
    ∃ written, Buffer.unnamedPage.toRecord = .ok written ∧
      Buffer.ofRecord written =
        .ok
          { id := 8, blocks := [{ driverPtr := 6, format := .page, extent := .length 0x30002 }] } ∧
      Buffer.ofRecord written ≠ .ok .unnamedPage := by
  obtain ⟨_, decoded, writable, written⟩ := records_round_trip {} .oneOfTwo .unnamedPage
  constructor
  · obtain ⟨record, known, _, _, slots⟩ := decoded _ rfl
    exact ⟨_, record, rfl, known, (slots ⟨0, by decide⟩).trans (if_pos (by decide)),
      (slots ⟨1, by decide⟩).trans (if_neg (by decide))⟩
  · obtain ⟨record, known⟩ := writable.mpr
      ⟨by decide, fun block member width height shape => by
        rw [List.mem_singleton.mp member] at shape
        cases shape
        decide⟩
    obtain ⟨back, same⟩ := written record known
    refine ⟨record, known, back, fun unaltered => ?_⟩
    exact (same.mp unaltered _ List.mem_cons_self).1 4 rfl (by decide)

end TilerMapping
