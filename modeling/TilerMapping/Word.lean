/-
Module: TilerMapping.Word
Purpose: Machine words of the mapper, with sums and products that report overflow.
Main exports: Address, ByteCount, DevicePtr, DriverPtr, BufferId, Word.add?, Word.mul?,
  Word.ceilDiv, Word.largest
-/

namespace TilerMapping

/-- An address of the mapping process. -/
abbrev Address := UInt64

/-- A number of bytes in the address space of the mapping process. -/
abbrev ByteCount := UInt64

/-- A block pointer as the accelerator sees it. -/
abbrev DevicePtr := UInt32

/-- A block pointer as the tiler driver sees it.  Zero stands for no block. -/
abbrev DriverPtr := UInt32

/-- The name under which the driver keeps a registered buffer; it doubles as the file offset
of the buffer's mapping.  Zero stands for no buffer. -/
abbrev BufferId := UInt32

/-!
Sizes and addresses are 64-bit words.  A sum or product that leaves the word is never taken
silently: `add?` and `mul?` answer `none` for it, and their lemmas state them in unbounded
numbers.
-/

namespace Word

/-- The largest word, which stands for every size beyond it. -/
def largest : UInt64 := 0xffffffffffffffff

/-- The sum of two words, if it is a word. -/
def add? (a b : UInt64) : Option UInt64 :=
  if a.toNat + b.toNat < UInt64.size then some (a + b) else none

/-- The product of two words, if it is a word. -/
def mul? (a b : UInt64) : Option UInt64 :=
  if a.toNat * b.toNat < UInt64.size then some (a * b) else none

/-- The least number of portions of size `b` that hold `a`. -/
def ceilDiv (a b : UInt64) : UInt64 :=
  if a % b = 0 then a / b else a / b + 1

theorem add?_eq_some_iff {a b c : UInt64} :
    add? a b = some c ↔ a.toNat + b.toNat = c.toNat := by
  have bound := c.toNat_lt_size
  unfold add?
  split
  · rename_i fits
    rw [Option.some.injEq, ← UInt64.toNat_inj, UInt64.toNat_add, Nat.mod_eq_of_lt fits]
  · simp only [reduceCtorEq, false_iff]
    omega

theorem add?_eq_none_iff {a b : UInt64} :
    add? a b = none ↔ UInt64.size ≤ a.toNat + b.toNat := by
  unfold add?
  split <;> simp <;> omega

theorem mul?_eq_some_iff {a b c : UInt64} :
    mul? a b = some c ↔ a.toNat * b.toNat = c.toNat := by
  have bound := c.toNat_lt_size
  unfold mul?
  split
  · rename_i fits
    rw [Option.some.injEq, ← UInt64.toNat_inj, UInt64.toNat_mul, Nat.mod_eq_of_lt fits]
  · simp only [reduceCtorEq, false_iff]
    omega

theorem mul?_eq_none_iff {a b : UInt64} :
    mul? a b = none ↔ UInt64.size ≤ a.toNat * b.toNat := by
  unfold mul?
  split <;> simp <;> omega

end Word

end TilerMapping
