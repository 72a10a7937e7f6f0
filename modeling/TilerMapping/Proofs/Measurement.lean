/-
Module: TilerMapping.Proofs.Measurement
Purpose: Sizes are known exactly where they are words, and all that a record states can be measured.
Main exports: Word.ofNat?, Block.size?_eq, Buffer.totalSize?_eq, Buffer.totalSize?_of_perm,
  sizes_exact_or_missing, Buffer.recorded_congr, Buffer.getElem?_recorded, record_read_iff
-/
import Mathlib.Algebra.BigOperators.Group.List.Basic
import Mathlib.Algebra.Order.Floor.Div
import TilerMapping.Proofs.ExactSize

namespace TilerMapping

/-!
A size that is computed in words is the word of the size in unbounded numbers, if that has one, and
the largest word stands for it if it has none.  In this form nothing is left of the order in which
sizes are added up.  A record states sizes that have words, so that no buffer read from one has a
size that is cut off.
-/

/-! ### Words of numbers -/

namespace Word

/-- The word of a number, unless the number is too large to have one. -/
def ofNat? (number : Nat) : Option UInt64 :=
  if number < UInt64.size then some (UInt64.ofNat number) else none

theorem eq_ofNat? {answer : Option UInt64} {number : Nat}
    (known : ∀ word, answer = some word ↔ word.toNat = number) : answer = ofNat? number := by
  unfold ofNat?
  split
  · rename_i small
    exact (known _).mpr (UInt64.toNat_ofNat_of_lt small)
  · rename_i large
    apply Option.eq_none_iff_forall_ne_some.mpr
    intro word found
    have bound := word.toNat_lt_size
    rw [(known word).mp found] at bound
    exact large bound

theorem toNat_getD_ofNat? (number : Nat) :
    ((ofNat? number).getD largest).toNat = min number (UInt64.size - 1) := by
  have top : largest.toNat = UInt64.size - 1 := rfl
  unfold ofNat?
  split
  · rename_i small
    have whole : (UInt64.ofNat number).toNat = number := UInt64.toNat_ofNat_of_lt small
    rw [Option.getD_some, whole]
    omega
  · rename_i large
    rw [Option.getD_none, top]
    omega

/-- The word of a small number is not cut off. -/
theorem ofNat?_of_lt {number : Nat} (small : number < UInt64.size) :
    ofNat? number = some ((ofNat? number).getD largest) ∧
      ((ofNat? number).getD largest).toNat = number := by
  constructor
  · rw [ofNat?, if_pos small, Option.getD_some]
  · rw [toNat_getD_ofNat?]
    omega

end Word

/-! ### Sizes -/

namespace Block

/-- A row takes as many pages as it takes to hold its pixels. -/
theorem exactRowBytes_eq (format : ContainerFormat) (width : UInt32) :
    exactRowBytes format width =
      4096 * (width.toNat * format.bytesPerPixel.toNat ⌈/⌉ 4096) := by
  rw [exactRowBytes, Nat.ceilDiv_eq_add_pred_div, Nat.mul_comm 4096]
  rfl

theorem exactSize_eq (block : Block) :
    block.exactSize =
      if block.format = .page then block.extent.across.toNat
      else block.extent.rows * (4096 *
        (block.extent.across.toNat * block.format.bytesPerPixel.toNat ⌈/⌉ 4096)) := by
  rw [exactSize, exactRowBytes_eq]
  simp only [ContainerFormat.isPage_iff]

theorem size?_eq (block : Block) : block.size? = Word.ofNat? block.exactSize :=
  Word.eq_ofNat? fun _ => size?_eq_some_iff

theorem toNat_size (block : Block) :
    block.size.toNat = min block.exactSize (UInt64.size - 1) := by
  rw [size, size?_eq, Word.toNat_getD_ofNat?]

theorem size?_of_lt {block : Block} (small : block.exactSize < UInt64.size) :
    block.size? = some block.size ∧ block.size.toNat = block.exactSize := by
  rw [size, size?_eq]
  exact Word.ofNat?_of_lt small

end Block

namespace Buffer

theorem exactSize_eq_sum (blocks : List Block) :
    exactSize blocks = (blocks.map Block.exactSize).sum := by
  induction blocks with
  | nil => rfl
  | cons block rest ih => rw [exactSize_cons, ih, List.map_cons, List.sum_cons]

theorem totalSize?_eq (buffer : Buffer) :
    buffer.totalSize? = Word.ofNat? (buffer.blocks.map Block.exactSize).sum := by
  rw [← exactSize_eq_sum]
  exact Word.eq_ofNat? fun _ => totalSize?_eq_some_iff

theorem toNat_totalSize (buffer : Buffer) :
    buffer.totalSize.toNat = min (buffer.blocks.map Block.exactSize).sum (UInt64.size - 1) := by
  rw [totalSize, totalSize?_eq, Word.toNat_getD_ofNat?]

theorem totalSize?_of_lt {buffer : Buffer}
    (small : (buffer.blocks.map Block.exactSize).sum < UInt64.size) :
    buffer.totalSize? = some buffer.totalSize ∧
      buffer.totalSize.toNat = (buffer.blocks.map Block.exactSize).sum := by
  rw [totalSize, totalSize?_eq]
  exact Word.ofNat?_of_lt small

/-- The order of the blocks does not matter, though they are added up one after the other and the
first sum that is no word ends it. -/
theorem totalSize?_of_perm {first second : Buffer} (permuted : first.blocks.Perm second.blocks) :
    first.totalSize? = second.totalSize? := by
  rw [totalSize?_eq, totalSize?_eq, (permuted.map Block.exactSize).sum_eq]

end Buffer

/-- Sizes are exact, or missing and cut off at the largest word.

In unbounded numbers a page block has the bytes of its length, or of its width if it states an area,
and any other block has whole pages for each of its rows, a length being a single row.  The size of
a block is this number if it is a word, and missing otherwise; cut off, it is the smaller of the
number and the largest word.  The same holds of the sum for a buffer, in whatever order its blocks
stand. -/
theorem sizes_exact_or_missing (block : Block) (buffer : Buffer) :
    let bytes := block.exactSize
    let total := (buffer.blocks.map Block.exactSize).sum
    (bytes =
        if block.format = .page then block.extent.across.toNat
        else block.extent.rows *
          (4096 * (block.extent.across.toNat * block.format.bytesPerPixel.toNat ⌈/⌉ 4096))) ∧
      (block.size? = if bytes < UInt64.size then some (UInt64.ofNat bytes) else none) ∧
      block.size.toNat = min bytes (UInt64.size - 1) ∧
      (buffer.totalSize? = if total < UInt64.size then some (UInt64.ofNat total) else none) ∧
      buffer.totalSize.toNat = min total (UInt64.size - 1) ∧
      ∀ other : Buffer, other.blocks.Perm buffer.blocks →
        other.totalSize? = buffer.totalSize? ∧ other.totalSize = buffer.totalSize := by
  refine ⟨block.exactSize_eq, block.size?_eq, block.toNat_size, buffer.totalSize?_eq,
    buffer.toNat_totalSize, fun other permuted => ?_⟩
  have same := Buffer.totalSize?_of_perm permuted
  exact ⟨same, congrArg (·.getD Word.largest) same⟩

/-- A block whose rows leave the words makes the sizes of buffers missing wherever it stands in
them, and a block without rows has no bytes however wide it is. -/
theorem sizes_exact_or_missing_huge :
    let huge := Block.area 0 .bit32 0xffffffff 0xffffffff
    let flat := Block.area 0 .bit32 0xffffffff 0
    huge.size? = none ∧ huge.size = Word.largest ∧ flat.size? = some 0 ∧
      ({ blocks := [huge, flat, .page 0 5] } : Buffer).totalSize? = none ∧
      ({ blocks := [flat, .page 0 5, huge] } : Buffer).totalSize? = none := by
  intro huge flat
  obtain ⟨_, missing, cut, unsummed, _, permuted⟩ := sizes_exact_or_missing huge
    { blocks := [huge, flat, .page 0 5] }
  obtain ⟨_, rowless, _⟩ := sizes_exact_or_missing flat {}
  have beyond : ¬huge.exactSize < UInt64.size := by decide
  have whole : ({ blocks := [huge, flat, .page 0 5] } : Buffer).totalSize? = none :=
    unsummed.trans (if_neg (by decide))
  refine ⟨missing.trans (if_neg beyond), UInt64.toNat_inj.mp (cut.trans (by decide)),
    rowless.trans (by decide), whole, ?_⟩
  exact (permuted { blocks := [flat, .page 0 5, huge] } (by decide)).1.trans whole

/-! ### Buffers read from records -/

namespace Buffer

variable {record other : BufferRecord} {used : Nat}

theorem getElem?_recorded {slot : Fin maxBlocks} (inside : (slot : Nat) < used) :
    (recorded record used)[(slot : Nat)]? = some (Block.ofRecord (record.slots.get slot)) := by
  rw [recorded, List.getElem?_map, List.getElem?_take_of_lt inside]
  simp
  rfl

/-- The slots that are not in use are not read. -/
theorem recorded_congr (few : used ≤ maxBlocks)
    (same : ∀ slot : Fin maxBlocks, (slot : Nat) < used →
      other.slots.get slot = record.slots.get slot) :
    recorded other used = recorded record used := by
  apply List.ext_getElem?
  intro index
  by_cases inside : index < used
  · have slot : index < maxBlocks := Nat.lt_of_lt_of_le inside few
    have first := @getElem?_recorded other used ⟨index, slot⟩ inside
    rw [same _ inside] at first
    exact first.trans (@getElem?_recorded record used ⟨index, slot⟩ inside).symm
  · rw [List.getElem?_eq_none (by rw [length_recorded few]; omega),
      List.getElem?_eq_none (by rw [length_recorded few]; omega)]

theorem exists_ofRecord_iff :
    (∃ buffer, ofRecord record = .ok buffer) ↔
      0 ≤ record.count.toInt ∧ record.count.toInt ≤ maxBlocks := by
  rw [ofRecord_eq]
  cases known : usedSlots? record with
  | none =>
    have outside := usedSlots?_eq_none_iff.mp known
    constructor
    · rintro ⟨buffer, read⟩
      cases read
    · intro inside
      omega
  | some used =>
    obtain ⟨count, few⟩ := usedSlots?_eq_some_iff.mp known
    exact ⟨fun _ => by omega, fun _ => ⟨_, rfl⟩⟩

theorem ofRecord_congr (count : other.count = record.count) (name : other.offset = record.offset)
    (same : ∀ slot : Fin maxBlocks, (slot : Int) < record.count.toInt →
      other.slots.get slot = record.slots.get slot) : ofRecord other = ofRecord record := by
  have slots : usedSlots? other = usedSlots? record := by rw [usedSlots?, usedSlots?, count]
  rw [ofRecord_eq, ofRecord_eq, slots, count, name]
  cases known : usedSlots? record with
  | none => rfl
  | some used =>
    obtain ⟨number, few⟩ := usedSlots?_eq_some_iff.mp known
    simp only
    rw [recorded_congr few]
    intro slot inside
    apply same
    rw [number]
    exact Int.ofNat_lt.mpr inside

end Buffer

/-- A record of a buffer is read exactly if it states from 0 to 16 blocks; it is refused for this
number and nothing else.

What is read has the name in the record and the blocks of the slots in use, in order.  The slots not
in use have no influence.  Every size is a word, and so is their sum, which stays far below the
largest word and is never cut off. -/
theorem record_read_iff (record : BufferRecord) :
    ((∃ buffer, Buffer.ofRecord record = .ok buffer) ↔
      0 ≤ record.count.toInt ∧ record.count.toInt ≤ 16) ∧
    (∀ fault, Buffer.ofRecord record = .error fault →
      fault = .described .invalidData
        ("driver reported " ++ Numeral.signedDecimal record.count.toInt ++ " blocks")) ∧
    (∀ buffer, Buffer.ofRecord record = .ok buffer →
      buffer.id = record.offset ∧ (buffer.blocks.length : Int) = record.count.toInt ∧
        (∀ slot : Fin maxBlocks, (slot : Int) < record.count.toInt →
          buffer.blocks[(slot : Nat)]? = some (Block.ofRecord (record.slots.get slot))) ∧
        (∀ block ∈ buffer.blocks,
          block.size? = some block.size ∧ block.size.toNat = block.exactSize) ∧
        buffer.totalSize? = some buffer.totalSize ∧
        buffer.totalSize.toNat = (buffer.blocks.map Block.exactSize).sum ∧
        buffer.totalSize.toNat ≤ 16 * 65535 * 2 ^ 18 ∧ buffer.totalSize ≠ Word.largest) ∧
    ∀ other : BufferRecord, other.count = record.count → other.offset = record.offset →
      (∀ slot : Fin maxBlocks, (slot : Int) < record.count.toInt →
        other.slots.get slot = record.slots.get slot) →
      Buffer.ofRecord other = Buffer.ofRecord record := by
  refine ⟨Buffer.exists_ofRecord_iff, ?refused, ?read,
    fun other count name same => Buffer.ofRecord_congr count name same⟩
  case refused =>
    intro fault refused
    rw [Buffer.ofRecord_eq] at refused
    split at refused
    · cases refused
    · exact (Except.error.inj refused).symm
  case read =>
    intro buffer read
    obtain ⟨used, known, rfl⟩ := Buffer.ofRecord_eq_ok_iff.mp read
    obtain ⟨count, few⟩ := Buffer.usedSlots?_eq_some_iff.mp known
    have bound : ((Buffer.recorded record used).map Block.exactSize).sum ≤ 16 * 65535 * 2 ^ 18 := by
      rw [← Buffer.exactSize_eq_sum]
      exact Buffer.exactSize_recorded_le few
    obtain ⟨summed, total⟩ := @Buffer.totalSize?_of_lt
      { id := record.offset, blocks := Buffer.recorded record used }
      (Nat.lt_of_le_of_lt bound (by decide))
    rw [count]
    refine ⟨rfl, congrArg Int.ofNat (Buffer.length_recorded few), fun slot inside => ?_,
      fun block member => ?_, summed, total, total ▸ bound, fun cut => ?_⟩
    · exact Buffer.getElem?_recorded (Int.ofNat_lt.mp inside)
    · obtain ⟨slot, _, rfl⟩ := List.mem_map.mp member
      exact Block.size?_of_lt
        (Nat.lt_of_le_of_lt (Block.exactSize_ofRecord_le slot) (by decide))
    · rw [cut] at total
      rw [← total] at bound
      exact absurd bound (by decide)

/-- A record whose sixteen slots all state the largest block. -/
def BufferRecord.fullest : BufferRecord :=
  { count := 16, slots := Vector.replicate maxBlocks { format := 3, extent := 0xffffffff } }

/-- The largest buffer of all is read, and has all the bytes that the bound allows.  A record that
uses one of its slots is read as the record without the others, and one with a slot too many is
refused. -/
theorem record_read_iff_fullest :
    (∃ buffer, Buffer.ofRecord .fullest = .ok buffer ∧ (buffer.blocks.length : Int) = 16 ∧
      buffer.totalSize.toNat = 16 * 65535 * 2 ^ 18) ∧
    Buffer.ofRecord
        { count := 1, slots := BufferRecord.slotsOfList [{ format := 3, extent := 0xffffffff }] } =
      Buffer.ofRecord { BufferRecord.fullest with count := 1 } ∧
    ∃ fault, Buffer.ofRecord { BufferRecord.fullest with count := 17 } = .error fault ∧
      fault = .described .invalidData
        ("driver reported " ++ Numeral.signedDecimal 17 ++ " blocks") := by
  have largest : Buffer.ofRecord .fullest =
      .ok { blocks := List.replicate 16 (.area 0 .bit32 0xffff 0xffff) } := rfl
  obtain ⟨_, count, _, _, _, total, _⟩ := (record_read_iff .fullest).2.2.1 _ largest
  obtain ⟨_, _, _, unread⟩ := record_read_iff { BufferRecord.fullest with count := 1 }
  obtain ⟨_, refused, _⟩ := record_read_iff { BufferRecord.fullest with count := 17 }
  exact ⟨⟨_, largest, count, total.trans (by decide)⟩, unread _ rfl rfl (by decide),
    _, rfl, refused _ rfl⟩

end TilerMapping
