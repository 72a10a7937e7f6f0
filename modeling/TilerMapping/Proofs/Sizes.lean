/-
Module: TilerMapping.Proofs.Sizes
Purpose: The sizes of fitted blocks and of buffers made of them, in unbounded numbers.
Main exports: Page.alignDown_of_add?, Block.size?_fitLength, Buffer.bytes, Buffer.toNat_sumSizes?,
  Buffer.sumSizes?_of_lengths, totalLength, largestBuffer, placeBlocks_cons_eq_ok_iff,
  placeBlocks_eq_ok_iff
-/
import TilerMapping.Remap

namespace TilerMapping

/-! ### Sums of words -/

theorem Word.eq_of_add?_eq_some {a b c : UInt64} (added : Word.add? a b = some c) :
    a + b = c := by
  unfold Word.add? at added
  split at added
  · exact Option.some.inj added
  · cases added

/-- An address that lies within one page after a page boundary is on the page that starts
there. -/
theorem Page.alignDown_of_add? {base offset address : UInt64} (aligned : Page.offset base = 0)
    (short : offset.toNat < 4096) (added : Word.add? base offset = some address) :
    Page.alignDown address = base := by
  have sum := Word.add?_eq_some_iff.mp added
  have boundary := congrArg UInt64.toNat aligned
  rw [Page.toNat_offset, UInt64.toNat_zero] at boundary
  rw [← UInt64.toNat_inj, Page.toNat_alignDown]
  omega

/-! ### Fitted blocks -/

namespace Block

theorem size?_of_checkSize {block : Block} {length : UInt32}
    (checked : block.checkSize length = .ok ()) : block.size? = some length.toUInt64 := by
  unfold checkSize at checked
  split at checked
  · rename_i same
    unfold size at same
    cases known : block.size? with
    | some bytes => simpa [known] using same
    | none =>
      -- A length has 32 bits, so it is never the size that stands for too large ones.
      have short := length.toNat_lt
      have large : Word.largest.toNat = length.toUInt64.toNat :=
        congrArg UInt64.toNat (by simpa [known] using same)
      rw [UInt32.toNat_toUInt64] at large
      have largest : Word.largest.toNat = 18446744073709551615 := by decide
      omega
  · cases checked

/-- A block that was fitted to a length has that size. -/
theorem size?_fitLength {block : Block} {length : UInt32}
    (fits : (block.fitLength length).outcome = .ok ()) :
    (block.fitLength length).block.size? = some length.toUInt64 := by
  unfold fitLength at fits ⊢
  split at fits
  · rename_i isPage
    rw [if_pos isPage]
    exact size?_of_checkSize fits
  · rename_i isPage
    rw [if_neg isPage]
    cases fitted : (block.fitArea length).outcome with
    | error fault => simp [fitted] at fits
    | ok =>
      simp only [fitted] at fits ⊢
      exact size?_of_checkSize fits

theorem size_of_size? {block : Block} {bytes : ByteCount} (known : block.size? = some bytes) :
    block.size = bytes := by
  rw [size, known, Option.getD_some]

end Block

/-! ### Buffers -/

/-- The bytes of the largest buffer that lengths can be given for. -/
def largestBuffer : Nat := maxBlocks * (UInt32.size - 1)

/-- The bytes of lengths together, in unbounded numbers. -/
def totalLength : List UInt32 → Nat
  | [] => 0
  | length :: rest => length.toNat + totalLength rest

theorem totalLength_le (lengths : List UInt32) :
    totalLength lengths ≤ lengths.length * (UInt32.size - 1) := by
  induction lengths with
  | nil => exact Nat.le_refl 0
  | cons length rest ih =>
    have short := length.toNat_lt_size
    rw [totalLength, List.length_cons, Nat.add_mul, Nat.one_mul]
    omega

theorem totalLength_append (first second : List UInt32) :
    totalLength (first ++ second) = totalLength first + totalLength second := by
  induction first with
  | nil => exact (Nat.zero_add _).symm
  | cons length rest ih => rw [List.cons_append, totalLength, totalLength, ih, Nat.add_assoc]

theorem totalLength_take_succ {lengths : List UInt32} {index : Nat} {length : UInt32}
    (known : lengths[index]? = some length) :
    totalLength (lengths.take (index + 1)) =
      totalLength (lengths.take index) + length.toNat := by
  rw [List.take_add_one, known, totalLength_append]
  rfl

theorem totalLength_take_le (lengths : List UInt32) {index other : Nat} (less : index ≤ other) :
    totalLength (lengths.take index) ≤ totalLength (lengths.take other) := by
  rcases Nat.exists_eq_add_of_le less with ⟨extra, rfl⟩
  rw [List.take_add, totalLength_append]
  exact Nat.le_add_right _ _

namespace Buffer

/-- The bytes of blocks together, in unbounded numbers. -/
def bytes : List Block → Nat
  | [] => 0
  | block :: rest => block.size.toNat + bytes rest

@[simp] theorem bytes_nil : bytes [] = 0 := rfl

@[simp] theorem bytes_cons (block : Block) (rest : List Block) :
    bytes (block :: rest) = block.size.toNat + bytes rest := rfl

/-- A sum of sizes that is a word is the sum in unbounded numbers. -/
theorem toNat_sumSizes? {blocks : List Block} {total sum : ByteCount}
    (summed : sumSizes? total blocks = some sum) :
    sum.toNat = total.toNat + bytes blocks := by
  induction blocks generalizing total with
  | nil =>
    simp only [sumSizes?, Option.some.injEq] at summed
    simp [summed]
  | cons block rest ih =>
    unfold sumSizes? at summed
    split at summed
    · cases summed
    · rename_i size known
      split at summed
      · cases summed
      · rename_i next added
        rw [ih summed, bytes_cons, Block.size_of_size? known, ← Word.add?_eq_some_iff.mp added]
        omega

/-- Blocks of known lengths have these together. -/
theorem bytes_of_lengths {blocks : List Block} {lengths : List UInt32}
    (sizes : blocks.map Block.size? = lengths.map fun length => some length.toUInt64) :
    bytes blocks = totalLength lengths := by
  induction blocks generalizing lengths with
  | nil =>
    cases lengths with
    | nil => rfl
    | cons length others => cases sizes
  | cons block rest ih =>
    cases lengths with
    | nil => cases sizes
    | cons length others =>
      rw [List.map_cons, List.map_cons, List.cons.injEq] at sizes
      rw [bytes_cons, Block.size_of_size? sizes.1, ih sizes.2, totalLength, UInt32.toNat_toUInt64]

/-- Blocks of known lengths have a sum of sizes, where the lengths together leave room for it. -/
theorem sumSizes?_of_lengths {blocks : List Block} {lengths : List UInt32} {total : ByteCount}
    (sizes : blocks.map Block.size? = lengths.map fun length => some length.toUInt64)
    (room : total.toNat + totalLength lengths < UInt64.size) :
    ∃ sum, sumSizes? total blocks = some sum ∧ sum.toNat = total.toNat + totalLength lengths := by
  induction blocks generalizing lengths total with
  | nil =>
    cases lengths with
    | nil => exact ⟨total, rfl, rfl⟩
    | cons length others => cases sizes
  | cons block rest ih =>
    cases lengths with
    | nil => cases sizes
    | cons length others =>
      rw [List.map_cons, List.map_cons, List.cons.injEq] at sizes
      rcases sizes with ⟨known, sizes⟩
      rw [totalLength] at room ⊢
      cases added : Word.add? total length.toUInt64 with
      | none =>
        rw [Word.add?_eq_none_iff, UInt32.toNat_toUInt64] at added
        omega
      | some next =>
        have nextTotal := Word.add?_eq_some_iff.mp added
        rw [UInt32.toNat_toUInt64] at nextTotal
        rcases @ih others next sizes (by omega) with ⟨sum, summed, wholeTotal⟩
        refine ⟨sum, ?_, by omega⟩
        rw [sumSizes?, known]
        simp only [added, summed]

theorem totalSize_of_sumSizes? {buffer : Buffer} {sum : ByteCount}
    (summed : sumSizes? 0 buffer.blocks = some sum) : buffer.totalSize = sum := by
  rw [totalSize, totalSize?, summed, Option.getD_some]

end Buffer

/-! ### Addresses of placed blocks -/

/-- The first block is placed at the first address and the others behind it. -/
theorem placeBlocks_cons_eq_ok_iff {first : Address} {block : Block} {rest placed : List Block} :
    placeBlocks first (block :: rest) = .ok placed ↔
      ∃ next others, Word.add? first block.size = some next ∧ placeBlocks next rest = .ok others ∧
        placed = { block with address := some first } :: others := by
  rw [placeBlocks]
  cases added : Word.add? first block.size with
  | none => simp
  | some next =>
    cases laid : placeBlocks next rest with
    | error abort => simp [laid]
    | ok others => simp [laid, eq_comm]

/-- Blocks find their places exactly where the address after the last one is a word. -/
theorem placeBlocks_eq_ok_iff {first : Address} {blocks : List Block} :
    (∃ placed, placeBlocks first blocks = .ok placed) ↔
      first.toNat + Buffer.bytes blocks < UInt64.size := by
  induction blocks generalizing first with
  | nil => exact ⟨fun _ => first.toNat_lt_size, fun _ => ⟨[], rfl⟩⟩
  | cons block rest ih =>
    rw [Buffer.bytes_cons, ← Nat.add_assoc]
    constructor
    · rintro ⟨placed, placement⟩
      rcases placeBlocks_cons_eq_ok_iff.mp placement with ⟨next, others, added, laid, _⟩
      rw [Word.add?_eq_some_iff.mp added]
      exact ih.mp ⟨others, laid⟩
    · intro fits
      cases added : Word.add? first block.size with
      | none =>
        have overflow := Word.add?_eq_none_iff.mp added
        omega
      | some next =>
        rw [Word.add?_eq_some_iff.mp added] at fits
        rcases ih.mpr fits with ⟨others, laid⟩
        exact ⟨_, placeBlocks_cons_eq_ok_iff.mpr ⟨next, others, added, laid, rfl⟩⟩

end TilerMapping
