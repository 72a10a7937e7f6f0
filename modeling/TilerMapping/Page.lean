/-
Module: TilerMapping.Page
Purpose: Rounding of addresses and sizes to pages.
Main exports: pageSize, Page.alignUp, Page.roundUp?, Page.alignDown, Page.offset
-/
import TilerMapping.Abort
import TilerMapping.Word

namespace TilerMapping

/-- The page size of the driver and of the mapping process. -/
def pageSize : UInt64 := 4096

/-!
There are two ways of rounding up.  `alignUp` adds a whole page before it steps back by one
byte, so it aborts on every value of the last page of the address space, also on the page
boundary itself.  `roundUp?` adds one byte less than a page and answers `none` only when
there is no boundary left above the value.
-/

namespace Page

/-- The bits of an address that select a byte within its page. -/
def offsetMask : UInt64 := pageSize - 1

/-- The start of the page that holds an address. -/
def alignDown (address : UInt64) : UInt64 :=
  address &&& ~~~offsetMask

/-- The distance of an address from the start of its page. -/
def offset (address : UInt64) : UInt64 :=
  address &&& offsetMask

/-- Round up to a page boundary; the sum with a whole page must be a word. -/
def alignUp (value : UInt64) : Except Abort UInt64 :=
  match Word.add? value pageSize with
  | some sum => .ok (alignDown (sum - 1))
  | none => .error .addOverflow

/-- Round up to a page boundary, if there is one that is a word. -/
def roundUp? (value : UInt64) : Option UInt64 :=
  (Word.add? value offsetMask).map alignDown

/-! ### Pages in unbounded numbers -/

/-- The offset bits of a word are its remainder by the page size. -/
theorem toNat_offset (address : UInt64) : (offset address).toNat = address.toNat % 4096 := by
  have mask : offsetMask.toNat = 2 ^ 12 - 1 := by decide
  rw [offset, UInt64.toNat_and, mask, Nat.and_two_pow_sub_one_eq_mod]

/-- Clearing the offset bits of a word leaves the multiple of the page size below it. -/
theorem toNat_alignDown (address : UInt64) :
    (alignDown address).toNat = address.toNat / 4096 * 4096 := by
  have mask : (~~~offsetMask).toNat = (2 ^ 52 - 1) * 2 ^ 12 := by decide
  have bound := address.toNat_lt
  rw [alignDown, UInt64.toNat_and, mask]
  apply Nat.eq_of_testBit_eq
  intro i
  rw [show (4096 : Nat) = 2 ^ 12 from rfl, Nat.testBit_and, Nat.testBit_mul_two_pow,
    Nat.testBit_mul_two_pow, Nat.testBit_div_two_pow, Nat.testBit_two_pow_sub_one]
  by_cases above : 12 ≤ i
  · by_cases inside : i < 64
    · simp [above, show i - 12 < 52 by omega, Nat.sub_add_cancel above]
    · have clear : address.toNat.testBit i = false :=
        Nat.testBit_lt_two_pow
          (Nat.lt_of_lt_of_le bound (Nat.pow_le_pow_right (by decide) (by omega)))
      simp [clear, Nat.sub_add_cancel above]
  · simp [above]

/-- An address is the start of its page and its offset in it. -/
theorem toNat_alignDown_add_offset (address : UInt64) :
    (alignDown address).toNat + (offset address).toNat = address.toNat := by
  rw [toNat_alignDown, toNat_offset]
  omega

/-- The offset in a page is below the page size. -/
theorem toNat_offset_lt (address : UInt64) : (offset address).toNat < 4096 := by
  rw [toNat_offset]
  omega

theorem roundUp?_eq_some_iff {value rounded : UInt64} :
    roundUp? value = some rounded ↔
      value.toNat + 4095 < UInt64.size ∧ rounded.toNat = (value.toNat + 4095) / 4096 * 4096 := by
  have mask : offsetMask.toNat = 4095 := by decide
  simp only [roundUp?, Option.map_eq_some_iff, Word.add?_eq_some_iff, mask]
  constructor
  · rintro ⟨sum, total, rfl⟩
    have bound := sum.toNat_lt_size
    rw [toNat_alignDown, ← total]
    exact ⟨by omega, rfl⟩
  · rintro ⟨fits, size⟩
    have total : value.toNat + 4095 = (UInt64.ofNat (value.toNat + 4095)).toNat := by
      rw [UInt64.toNat_ofNat', Nat.mod_eq_of_lt fits]
    refine ⟨UInt64.ofNat (value.toNat + 4095), total, ?_⟩
    rw [← UInt64.toNat_inj, toNat_alignDown, size, ← total]

end Page

end TilerMapping
