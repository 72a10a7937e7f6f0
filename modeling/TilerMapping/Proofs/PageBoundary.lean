/-
Module: TilerMapping.Proofs.PageBoundary
Purpose: Which words the two ways of rounding up take to the next page boundary.
Main exports: Page.FirstBoundary, Page.firstBoundary_iff, Page.lastBoundary,
  Page.alignUp_eq_ok_iff, Page.alignUp_eq_error_iff, page_rounding_exact_iff
-/
import Mathlib.Order.Bounds.Basic
import TilerMapping.Block

namespace TilerMapping

/-!
A word has a page boundary at or above it that is a word unless it lies beyond the last boundary of
the address space.  `Page.roundUp?` finds it whenever it is there.  `Page.alignUp` adds a byte more
before it steps back, and that byte is too much for one word: the last boundary itself, which needs
no rounding.
-/

namespace Page

/-- The first page boundary at or above a word, in unbounded numbers. -/
def FirstBoundary (value : UInt64) (boundary : Nat) : Prop :=
  IsLeast {multiple : Nat | 4096 ∣ multiple ∧ value.toNat ≤ multiple} boundary

/-- The last page boundary of the address space. -/
def lastBoundary : UInt64 := 0xfffffffffffff000

variable {value rounded : UInt64}

theorem firstBoundary_iff {boundary : Nat} :
    FirstBoundary value boundary ↔ boundary = (value.toNat + 4095) / 4096 * 4096 := by
  have least : FirstBoundary value ((value.toNat + 4095) / 4096 * 4096) := by
    constructor
    · exact ⟨Nat.dvd_mul_left _ _, by omega⟩
    · rintro multiple ⟨⟨pages, rfl⟩, above⟩
      omega
  constructor
  · intro first
    exact first.unique least
  · rintro rfl
    exact least

theorem roundUp?_eq_some_iff_firstBoundary :
    roundUp? value = some rounded ↔ FirstBoundary value rounded.toNat := by
  have bound := rounded.toNat_lt_size
  rw [roundUp?_eq_some_iff, firstBoundary_iff, and_iff_right_iff_imp]
  -- A value with less than a page above it would be rounded to no word.
  intro size
  unfold UInt64.size at bound ⊢
  omega

theorem alignUp_eq_error_iff {abort : Abort} :
    alignUp value = .error abort ↔
      abort = .addOverflow ∧ UInt64.size ≤ value.toNat + 4096 := by
  have page : pageSize.toNat = 4096 := rfl
  unfold alignUp
  cases added : Word.add? value pageSize with
  | none =>
    have overflow := Word.add?_eq_none_iff.mp added
    rw [page] at overflow
    simp [overflow, eq_comm]
  | some sum =>
    have total := Word.add?_eq_some_iff.mp added
    have bound := sum.toNat_lt_size
    rw [page] at total
    simp only [reduceCtorEq, false_iff, not_and]
    omega

theorem alignUp_eq_ok_iff :
    alignUp value = .ok rounded ↔
      value.toNat + 4096 < UInt64.size ∧ FirstBoundary value rounded.toNat := by
  have page : pageSize.toNat = 4096 := rfl
  rw [firstBoundary_iff]
  unfold alignUp
  cases added : Word.add? value pageSize with
  | none =>
    have overflow := Word.add?_eq_none_iff.mp added
    rw [page] at overflow
    simp only [reduceCtorEq, false_iff, not_and]
    omega
  | some sum =>
    have total := Word.add?_eq_some_iff.mp added
    have bound := sum.toNat_lt_size
    rw [page] at total
    have positive : 1 ≤ sum := by
      rw [UInt64.le_iff_toNat_le, UInt64.toNat_one]
      omega
    have before : (sum - 1).toNat = value.toNat + 4095 := by
      rw [UInt64.toNat_sub_of_le _ _ positive, UInt64.toNat_one]
      omega
    rw [Except.ok.injEq, ← UInt64.toNat_inj, toNat_alignDown, before, eq_comm]
    exact (and_iff_right (by omega)).symm

theorem toNat_lastBoundary : lastBoundary.toNat + 4096 = UInt64.size := by decide

/-- No word beyond the last boundary has one at or above it. -/
theorem FirstBoundary.le_lastBoundary (first : FirstBoundary value rounded.toNat) :
    value.toNat ≤ lastBoundary.toNat := by
  have bound := rounded.toNat_lt_size
  have place := toNat_lastBoundary
  rw [firstBoundary_iff] at first
  unfold UInt64.size at bound place
  omega

end Page

/-- Rounding up to a page boundary.  The rounding that reports its overflow gives the first boundary
at or above a word wherever that is a word.  The rounding that aborts gives the same for each of
these words but one: it aborts at the last boundary of the address space already, and beyond it,
where there is none left.  The distance of two rows is rounded in the second way. -/
theorem page_rounding_exact_iff (value rounded : UInt64) :
    (Page.roundUp? value = some rounded ↔ Page.FirstBoundary value rounded.toNat) ∧
      (Page.alignUp value = .ok rounded ↔
        Page.FirstBoundary value rounded.toNat ∧ value ≠ Page.lastBoundary) ∧
      (Page.alignUp value = .error .addOverflow ↔ Page.lastBoundary ≤ value) ∧
      Block.rowStride value = Page.alignUp value := by
  have place := Page.toNat_lastBoundary
  refine ⟨Page.roundUp?_eq_some_iff_firstBoundary, ?rounds, ?aborts, rfl⟩
  case rounds =>
    rw [Page.alignUp_eq_ok_iff, and_comm, and_congr_right_iff]
    intro first
    have below := first.le_lastBoundary
    rw [Ne, ← UInt64.toNat_inj]
    omega
  case aborts =>
    rw [Page.alignUp_eq_error_iff, eq_self, true_and, UInt64.le_iff_toNat_le]
    omega

/-- The last boundary of the address space is its own first boundary and is refused. -/
theorem page_boundary_refused :
    ¬ ∀ value rounded : UInt64, Page.FirstBoundary value rounded.toNat →
      Page.alignUp value = .ok rounded ∧ Block.rowStride value = .ok rounded := by
  intro rounds
  have first : Page.FirstBoundary Page.lastBoundary Page.lastBoundary.toNat := by
    rw [Page.firstBoundary_iff]
    decide
  have rounded := (rounds _ _ first).1
  have aborted : Page.alignUp Page.lastBoundary = .error .addOverflow := by decide
  rw [aborted] at rounded
  cases rounded

end TilerMapping
