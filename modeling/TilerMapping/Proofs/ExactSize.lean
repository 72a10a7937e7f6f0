/-
Module: TilerMapping.Proofs.ExactSize
Purpose: Mapped sizes in unbounded numbers, and the bound that records put on them.
Main exports: Block.exactSize, Block.size?_eq_some_iff, Buffer.exactSize,
  Buffer.sumSizes?_eq_some_iff, Block.exactSize_ofRecord_le, Buffer.recorded, Buffer.ofRecord_eq
-/
import TilerMapping.Record

namespace TilerMapping

/-!
A size is computed in words, and is missing where a product, a rounding or a partial sum leaves
them.  The same size in unbounded numbers is never missing, so that it can be said what a size is
before it is known to be a word.  What a record states of a block is so small that no buffer read
from a record has a size beyond a word.
-/

/-! ### Blocks -/

/-- The number along a row: the bytes of a length, and the width of an area. -/
def Extent.across : Extent → UInt32
  | .length bytes => bytes
  | .area width _ => width

/-- A length is a single row. -/
def Extent.rows : Extent → Nat
  | .length _ => 1
  | .area _ height => height.toNat

namespace Block

/-- The bytes of one row in the mapping: the least whole pages that hold its pixels. -/
def exactRowBytes (format : ContainerFormat) (width : UInt32) : Nat :=
  (width.toNat * format.bytesPerPixel.toNat + 4095) / 4096 * 4096

/-- The bytes of a block in the mapping, in unbounded numbers. -/
def exactSize (block : Block) : Nat :=
  if block.format.isPage then block.extent.across.toNat
  else block.extent.rows * exactRowBytes block.format block.extent.across

theorem exactSize_of_page {block : Block} (page : block.format.isPage = true) :
    block.exactSize = block.extent.across.toNat := if_pos page

theorem exactSize_of_plane {block : Block} (plane : block.format.isPage = false) :
    block.exactSize = block.extent.rows * exactRowBytes block.format block.extent.across :=
  if_neg (ne_true_of_eq_false plane)

/-- A row of pixels is so short that its whole pages are always a word. -/
theorem rowBytes?_eq_some (format : ContainerFormat) (width : UInt32) :
    rowBytes? format width = some (UInt64.ofNat (exactRowBytes format width)) ∧
      (UInt64.ofNat (exactRowBytes format width)).toNat = exactRowBytes format width := by
  have wide := width.toNat_lt
  have pixel := format.bytesPerPixel_bounds.2
  have short : width.toNat * format.bytesPerPixel.toNat ≤ (2 ^ 32 - 1) * 4 :=
    Nat.mul_le_mul (by omega) pixel
  have word : (UInt64.ofNat (exactRowBytes format width)).toNat = exactRowBytes format width := by
    apply UInt64.toNat_ofNat_of_lt
    rw [exactRowBytes, UInt64.size]
    omega
  have pixels : Word.mul? width.toUInt64 format.bytesPerPixel.toUInt64 =
      some (UInt64.ofNat (width.toNat * format.bytesPerPixel.toNat)) := by
    rw [Word.mul?_eq_some_iff, UInt32.toNat_toUInt64, UInt32.toNat_toUInt64, UInt64.toNat_ofNat',
      Nat.mod_eq_of_lt (by omega)]
  refine ⟨?_, word⟩
  rw [rowBytes?, pixels, Option.bind_some, Page.roundUp?_eq_some_iff, word, UInt64.toNat_ofNat',
    Nat.mod_eq_of_lt (by omega)]
  exact ⟨by rw [UInt64.size]; omega, rfl⟩

/-- A size of rows is there exactly where the rows in unbounded numbers are a word. -/
theorem bind_rowBytes?_eq_some_iff {format : ContainerFormat} {width height : UInt32}
    {size : ByteCount} :
    (rowBytes? format width).bind (Word.mul? height.toUInt64) = some size ↔
      size.toNat = height.toNat * exactRowBytes format width := by
  obtain ⟨row, word⟩ := rowBytes?_eq_some format width
  rw [row, Option.bind_some, Word.mul?_eq_some_iff, word, UInt32.toNat_toUInt64, eq_comm]

theorem rowBytes?_eq_some_iff {format : ContainerFormat} {width : UInt32} {size : ByteCount} :
    rowBytes? format width = some size ↔ size.toNat = exactRowBytes format width := by
  obtain ⟨row, word⟩ := rowBytes?_eq_some format width
  rw [row, Option.some.injEq, ← UInt64.toNat_inj, word, eq_comm]

theorem some_toUInt64_eq_iff {number : UInt32} {size : ByteCount} :
    some number.toUInt64 = some size ↔ size.toNat = number.toNat := by
  rw [Option.some.injEq, ← UInt64.toNat_inj, UInt32.toNat_toUInt64, eq_comm]

/-- The size of a block is known exactly where it is a word in unbounded numbers, and is that
word. -/
theorem size?_eq_some_iff {block : Block} {size : ByteCount} :
    block.size? = some size ↔ size.toNat = block.exactSize := by
  rcases block with ⟨driverPtr, address, format, extent, stride⟩
  cases extent with
  | length bytes =>
    cases format with
    | page => exact some_toUInt64_eq_iff
    | bit8 | bit16 | bit32 | other code =>
      rw [exactSize_of_plane rfl, Extent.rows, Nat.one_mul]
      exact rowBytes?_eq_some_iff
  | area width height =>
    cases format with
    | page => exact some_toUInt64_eq_iff
    | bit8 | bit16 | bit32 | other code =>
      rw [exactSize_of_plane rfl]
      exact bind_rowBytes?_eq_some_iff

end Block

/-! ### Buffers -/

namespace Buffer

/-- The bytes of blocks together in the mapping, in unbounded numbers. -/
def exactSize : List Block → Nat
  | [] => 0
  | block :: rest => block.exactSize + exactSize rest

@[simp] theorem exactSize_nil : exactSize [] = 0 := rfl

@[simp] theorem exactSize_cons (block : Block) (rest : List Block) :
    exactSize (block :: rest) = block.exactSize + exactSize rest := rfl

/-- No partial sum leaves a word unless the whole sum does, so a sum of sizes is known exactly where
it is a word in unbounded numbers. -/
theorem sumSizes?_eq_some_iff {blocks : List Block} {total sum : ByteCount} :
    sumSizes? total blocks = some sum ↔ sum.toNat = total.toNat + exactSize blocks := by
  induction blocks generalizing total with
  | nil =>
    rw [sumSizes?, Option.some.injEq, ← UInt64.toNat_inj, exactSize_nil, eq_comm, Nat.add_zero]
  | cons block rest ih =>
    have bound := sum.toNat_lt_size
    rw [exactSize_cons]
    constructor
    · intro summed
      unfold sumSizes? at summed
      split at summed
      · cases summed
      rename_i size known
      split at summed
      · cases summed
      rename_i next added
      rw [ih.mp summed, ← Word.add?_eq_some_iff.mp added, Block.size?_eq_some_iff.mp known,
        Nat.add_assoc]
    · intro whole
      -- The block is no larger than the whole sum, so its own size is a word.
      have word : (UInt64.ofNat block.exactSize).toNat = block.exactSize :=
        UInt64.toNat_ofNat_of_lt (by omega)
      have known : block.size? = some (UInt64.ofNat block.exactSize) :=
        Block.size?_eq_some_iff.mpr word
      rw [sumSizes?, known]
      cases added : Word.add? total (UInt64.ofNat block.exactSize) with
      | none =>
        rw [Word.add?_eq_none_iff, word] at added
        omega
      | some next =>
        have reached := Word.add?_eq_some_iff.mp added
        simp only [added]
        apply ih.mpr
        omega

theorem totalSize?_eq_some_iff {buffer : Buffer} {size : ByteCount} :
    buffer.totalSize? = some size ↔ size.toNat = exactSize buffer.blocks := by
  rw [totalSize?, sumSizes?_eq_some_iff, UInt64.toNat_zero, Nat.zero_add]

theorem exactSize_le {blocks : List Block} {limit : Nat}
    (bounded : ∀ block ∈ blocks, block.exactSize ≤ limit) :
    exactSize blocks ≤ blocks.length * limit := by
  induction blocks with
  | nil => exact Nat.zero_le _
  | cons block rest ih =>
    have first := bounded block List.mem_cons_self
    have others := ih fun other member => bounded other (List.mem_cons_of_mem _ member)
    rw [exactSize_cons, List.length_cons, Nat.add_mul, Nat.one_mul]
    omega

end Buffer

/-! ### Blocks and buffers read from records -/

/-- The bytes of the largest block that a record can state: as many rows as an area has at most, of
as many pixels of the widest format. -/
def largestRecorded : Nat := 65535 * 262144

namespace Block

theorem exactSize_ofRecord_le (record : BlockRecord) :
    (ofRecord record).exactSize ≤ largestRecorded := by
  have length := record.extent.toNat_lt
  have width := record.width.toNat_lt
  have height := record.height.toNat_lt
  cases page : (ContainerFormat.ofCode record.format).isPage with
  | true =>
    have extent : (ofRecord record).extent = .length record.extent := if_pos page
    rw [exactSize_of_page page, extent, Extent.across, largestRecorded]
    omega
  | false =>
    have extent : (ofRecord record).extent =
        .area record.width.toUInt32 record.height.toUInt32 := if_neg (ne_true_of_eq_false page)
    have pixels : record.width.toNat *
        (ofRecord record).format.bytesPerPixel.toNat ≤ (2 ^ 16 - 1) * 4 :=
      Nat.mul_le_mul (by omega) (ContainerFormat.bytesPerPixel_bounds _).2
    have row : exactRowBytes (ofRecord record).format record.width.toUInt32 ≤ 262144 := by
      rw [exactRowBytes, UInt16.toNat_toUInt32]
      omega
    rw [exactSize_of_plane page, extent, Extent.rows, Extent.across, UInt16.toNat_toUInt32]
    exact Nat.mul_le_mul (by omega) row

end Block

namespace Buffer

theorem usedSlots?_eq_some_iff {record : BufferRecord} {used : Nat} :
    usedSlots? record = some used ↔ record.count.toInt = used ∧ used ≤ maxBlocks := by
  unfold usedSlots?
  simp only [Int32.le_iff_toInt_le, Int32.toInt_zero]
  split
  · rename_i possible
    rw [Option.some.injEq]
    omega
  · rename_i impossible
    simp only [reduceCtorEq, false_iff]
    omega

theorem usedSlots?_eq_none_iff {record : BufferRecord} :
    usedSlots? record = none ↔ record.count.toInt < 0 ∨ (maxBlocks : Int) < record.count.toInt := by
  unfold usedSlots?
  simp only [Int32.le_iff_toInt_le, Int32.toInt_zero]
  split
  · rename_i possible
    simp only [reduceCtorEq, false_iff]
    omega
  · rename_i impossible
    simp only [true_iff]
    omega

/-- The blocks that the first slots of a record state. -/
def recorded (record : BufferRecord) (used : Nat) : List Block :=
  (record.slots.toList.take used).map Block.ofRecord

theorem length_recorded {record : BufferRecord} {used : Nat} (few : used ≤ maxBlocks) :
    (recorded record used).length = used := by
  rw [recorded, List.length_map, List.length_take, Vector.length_toList, Nat.min_eq_left few]

theorem exactSize_recorded_le {record : BufferRecord} {used : Nat} (few : used ≤ maxBlocks) :
    exactSize (recorded record used) ≤ maxBlocks * largestRecorded := by
  have bounded : ∀ block ∈ recorded record used, block.exactSize ≤ largestRecorded := by
    intro block member
    obtain ⟨slot, _, rfl⟩ := List.mem_map.mp member
    exact Block.exactSize_ofRecord_le slot
  have short : (recorded record used).length ≤ maxBlocks := by
    rw [length_recorded few]
    exact few
  exact Nat.le_trans (exactSize_le bounded) (Nat.mul_le_mul_right _ short)

/-- The sizes of blocks read from a record have a sum, whatever the record states. -/
theorem totalSize?_recorded (record : BufferRecord) {used : Nat} (few : used ≤ maxBlocks)
    (id : BufferId) :
    ∃ size, ({ id, blocks := recorded record used } : Buffer).totalSize? = some size ∧
      size.toNat = exactSize (recorded record used) := by
  have bound := @exactSize_recorded_le record _ few
  have word : (UInt64.ofNat (exactSize (recorded record used))).toNat =
      exactSize (recorded record used) :=
    UInt64.toNat_ofNat_of_lt (Nat.lt_of_le_of_lt bound (by decide))
  exact ⟨_, totalSize?_eq_some_iff.mpr word, word⟩

/-- A record is refused for nothing but its count: no size that it can state is beyond a word. -/
theorem ofRecord_eq (record : BufferRecord) :
    ofRecord record =
      match usedSlots? record with
      | some used => .ok { id := record.offset, blocks := recorded record used }
      | none => .error (.described .invalidData
          ("driver reported " ++ Numeral.signedDecimal record.count.toInt ++ " blocks")) := by
  unfold ofRecord
  cases count : usedSlots? record with
  | none => rfl
  | some used =>
    have few := (usedSlots?_eq_some_iff.mp count).2
    obtain ⟨size, summed, -⟩ := totalSize?_recorded record few record.offset
    unfold recorded at summed ⊢
    simp only [summed]

theorem ofRecord_eq_ok_iff {record : BufferRecord} {buffer : Buffer} :
    ofRecord record = .ok buffer ↔
      ∃ used, usedSlots? record = some used ∧
        buffer = { id := record.offset, blocks := recorded record used } := by
  rw [ofRecord_eq]
  cases usedSlots? record with
  | none => simp
  | some used => simp [eq_comm]

end Buffer

end TilerMapping
