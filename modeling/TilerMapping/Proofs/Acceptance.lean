/-
Module: TilerMapping.Proofs.Acceptance
Purpose: Exactly which two-dimensional blocks a fit accepts, and how it refuses the others.
Main exports: Container.toNat_narrowest_eq, Container.narrowest_le_slackBound,
  Container.narrowest_le_widest_iff, Block.fitLength_outcome, Block.fitLength_block_of_wider,
  fit_accepted_iff
-/
import Mathlib.Algebra.Order.Floor.Div
import TilerMapping.Proofs.Fitting

namespace TilerMapping

/-!
A fit looks at the slack of the format, but the slack decides nothing.  The bound that it gives is
a length divided among fewer rows than were reported, so it never lies below the narrowest width,
and a range of page widths can only be empty because the container has no row that wide.  What is
left is a condition on the length, the reported rows and the pages of the container.
-/

/-! ### The narrowest width -/

namespace Container

variable {container : Container}

/-- The narrowest width is the length over the reported rows, in pages and rounded up. -/
theorem toNat_narrowest_eq (length : UInt32) (tall : 0 < container.height.toNat) :
    (container.narrowest length.toUInt64).toNat =
      length.toNat ⌈/⌉ (4096 * container.height.toNat) := by
  have column : 0 < 4096 * container.height.toNat := Nat.mul_pos (by decide) tall
  -- Both sides are at most a bound under the same condition.
  apply eq_of_forall_ge_iff
  intro pages
  rw [narrowest_le_iff tall, ceilDiv_le_iff_le_mul column, Nat.mul_assoc]

/-- Fewer rows need to be at least as wide, so the bound of the slack never lies below the narrowest
width. -/
theorem narrowest_le_slackBound {length : UInt32} {bound : UInt64}
    (bounded : container.slackBound? length.toUInt64 = some bound) :
    (container.narrowest length.toUInt64).toNat ≤ bound.toNat := by
  rcases slackBound?_le_iff bounded with ⟨sure, holds⟩
  have fewer : (container.height.toNat - container.format.slackRows.toNat) * bound.toNat ≤
      container.height.toNat * bound.toNat := Nat.mul_le_mul_right _ (Nat.sub_le _ _)
  have enough := (holds bound.toNat).mp (Nat.le_refl _)
  apply (narrowest_le_iff (Nat.zero_lt_of_lt sure)).mpr
  exact Nat.le_trans enough (Nat.mul_le_mul_left _ fewer)

/-- A range of page widths has a width in it exactly where the container has a row of the narrowest
one. -/
theorem narrowest_le_widest_iff (length : UInt32) (tall : 0 < container.height.toNat) :
    container.narrowest length.toUInt64 ≤ container.widest length.toUInt64 ↔
      length.toNat ⌈/⌉ (4096 * container.height.toNat) ≤ container.width.toNat / 4096 := by
  rw [UInt64.le_iff_toNat_le, le_widest_iff, ← toNat_narrowest_eq length tall]
  constructor
  · exact And.left
  · intro contained
    exact ⟨contained, fun _ bounded => narrowest_le_slackBound bounded⟩

/-- Where a range of page widths is empty, it ends with the width of the container. -/
theorem toNat_widest_of_lt {length : UInt32} (tall : 0 < container.height.toNat)
    (empty : container.widest length.toUInt64 < container.narrowest length.toUInt64) :
    (container.widest length.toUInt64).toNat = container.width.toNat / 4096 := by
  have outside := UInt64.not_le.mpr empty
  rw [narrowest_le_widest_iff length tall, ← toNat_narrowest_eq length tall] at outside
  apply Nat.le_antisymm
  · exact (le_widest_iff.mp (Nat.le_refl _)).1
  · apply le_widest_iff.mpr
    constructor
    · exact Nat.le_refl _
    · intro bound bounded
      have low := narrowest_le_slackBound bounded
      omega

end Container

/-! ### The end of a fit -/

namespace Block

variable {block : Block} {length width height : UInt32}

/-- A fit of a two-dimensional block ends by the first of four conditions that fails, or
succeeds. -/
theorem fitLength_outcome (plane : block.format.isPage = false)
    (extent : block.extent = .area width height) :
    let pages := length.toNat ⌈/⌉ (4096 * height.toNat)
    let capacity := width.toNat / 4096
    (block.fitLength length).outcome =
      if length = 0 then .error .zeroLength
      else if height = 0 then .error .zeroHeight
      else if capacity < pages then
        .error (.noPageWidth (UInt64.ofNat pages) (UInt64.ofNat capacity))
      else if 4096 * pages ∣ length.toNat then .ok ()
      else
        .error (.sizeDiffers length.toUInt64
          (UInt64.ofNat (length.toNat - length.toNat % (4096 * pages)))) := by
  intro pages capacity
  by_cases empty : length = 0
  · simp [fitLength, fitArea, plane, extent, empty]
  by_cases flat : height = 0
  · simp [fitLength, fitArea, plane, extent, empty, flat]
  let container : Container := { format := block.format, width, height }
  have tall : 0 < container.height.toNat :=
    UInt32.lt_iff_toNat_lt.mp (UInt32.pos_iff_ne_zero.mpr flat)
  have narrowest : (container.narrowest length.toUInt64).toNat = pages :=
    Container.toNat_narrowest_eq length tall
  have range := Container.narrowest_le_widest_iff length tall
  rw [if_neg empty, if_neg flat]
  by_cases contained : pages ≤ capacity
  · have fits := Container.narrowest_fits (range.mpr contained)
    rw [if_neg (Nat.not_lt.mpr contained),
      fitLength_of_le plane extent empty rfl tall (range.mpr contained), ← narrowest]
    exact checkSize_narrowed plane rfl fits
  · have outside := UInt64.not_le.mp fun inside => contained (range.mp inside)
    have widest : (container.widest length.toUInt64).toNat = capacity :=
      Container.toNat_widest_of_lt tall outside
    rw [if_pos (Nat.lt_of_not_le contained), fitLength_of_lt plane extent empty rfl tall outside,
      fitArea_of_lt extent empty rfl tall outside, ← narrowest, ← widest, UInt64.ofNat_toNat,
      UInt64.ofNat_toNat]

/-- A fit of a two-dimensional block succeeds where none of the four conditions fails. -/
theorem fitLength_outcome_eq_ok_iff (plane : block.format.isPage = false)
    (extent : block.extent = .area width height) :
    (block.fitLength length).outcome = .ok () ↔
      length ≠ 0 ∧ height ≠ 0 ∧
        length.toNat ⌈/⌉ (4096 * height.toNat) ≤ width.toNat / 4096 ∧
        4096 * (length.toNat ⌈/⌉ (4096 * height.toNat)) ∣ length.toNat := by
  rw [fitLength_outcome plane extent]
  split
  · rename_i empty
    simp [empty]
  split
  · rename_i flat
    simp [flat]
  rename_i nonempty reported
  split
  · rename_i outside
    simp [Nat.not_le.mpr outside]
  rename_i contained
  split
  · rename_i divides
    exact ⟨fun _ => ⟨nonempty, reported, Nat.not_lt.mp contained, divides⟩, fun _ => rfl⟩
  · rename_i broken
    simp [broken]

/-- The layout that a fit gives a block does not depend on how much wider its container is. -/
theorem fitLength_block_of_wider {wider : UInt32} (plane : block.format.isPage = false)
    (extent : block.extent = .area width height) (nonempty : length ≠ 0) (reported : height ≠ 0)
    (contained : length.toNat ⌈/⌉ (4096 * height.toNat) ≤ width.toNat / 4096)
    (widened : length.toNat ⌈/⌉ (4096 * height.toNat) ≤ wider.toNat / 4096) :
    ({ block with extent := .area wider height }.fitLength length).block =
      (block.fitLength length).block := by
  let container : Container := { format := block.format, width, height }
  let other : Container := { container with width := wider }
  have tall : 0 < height.toNat := UInt32.lt_iff_toNat_lt.mp (UInt32.pos_iff_ne_zero.mpr reported)
  have range : container.narrowest length.toUInt64 ≤ container.widest length.toUInt64 :=
    (Container.narrowest_le_widest_iff length tall).mpr contained
  have otherRange : other.narrowest length.toUInt64 ≤ other.widest length.toUInt64 :=
    (Container.narrowest_le_widest_iff length tall).mpr widened
  have fitted := fitLength_of_le plane extent nonempty rfl tall range
  have otherFitted := @fitLength_of_le { block with extent := .area wider height } other length
    wider height plane rfl nonempty rfl tall otherRange
  rw [fitted, otherFitted]
  rfl

end Block

/-! ### Accepted blocks -/

/-- A block with two dimensions is accepted exactly where its length and rows are not zero, the
container has room for the pages that one row needs at the reported height, and the length is made
of whole rows of that width.  Where it is not, the first of these that fails is reported.  Neither
the slack of a format nor the bound that it gives decides the outcome, and the width of the
container decides nothing once it has room for a row. -/
theorem fit_accepted_iff (block : Block) (length width height : UInt32)
    (plane : block.format.isPage = false) (extent : block.extent = .area width height) :
    let pages := length.toNat ⌈/⌉ (4096 * height.toNat)
    let capacity := width.toNat / 4096
    let container : Container := { format := block.format, width, height }
    let fit := block.fitLength length
    (fit.outcome = .ok () ↔
      length ≠ 0 ∧ height ≠ 0 ∧ pages ≤ capacity ∧ 4096 * pages ∣ length.toNat) ∧
    (fit.outcome =
      if length = 0 then .error .zeroLength
      else if height = 0 then .error .zeroHeight
      else if capacity < pages then
        .error (.noPageWidth (UInt64.ofNat pages) (UInt64.ofNat capacity))
      else if 4096 * pages ∣ length.toNat then .ok ()
      else
        .error (.sizeDiffers length.toUInt64
          (UInt64.ofNat (length.toNat - length.toNat % (4096 * pages))))) ∧
    (∀ format : ContainerFormat, format.isPage = false →
      ({ block with format }.fitLength length).outcome = fit.outcome) ∧
    (∀ bound, container.slackBound? length.toUInt64 = some bound → pages ≤ bound.toNat) ∧
    ∀ wider : UInt32, pages ≤ capacity → pages ≤ wider.toNat / 4096 →
      let other := { block with extent := .area wider height }.fitLength length
      other.outcome = fit.outcome ∧
        (length ≠ 0 → height ≠ 0 → other.block = fit.block) := by
  intro pages capacity container fit
  have outcome : fit.outcome = _ := Block.fitLength_outcome plane extent
  refine ⟨Block.fitLength_outcome_eq_ok_iff plane extent, outcome, ?format, ?slack, ?wider⟩
  case format =>
    intro format otherPlane
    rw [outcome]
    exact @Block.fitLength_outcome { block with format } length width height otherPlane extent
  case slack =>
    intro bound bounded
    have tall : 0 < height.toNat := Nat.zero_lt_of_lt (Container.slackBound?_le_iff bounded).1
    have narrowest : (container.narrowest length.toUInt64).toNat = pages :=
      Container.toNat_narrowest_eq length tall
    rw [← narrowest]
    exact Container.narrowest_le_slackBound bounded
  case wider =>
    intro wider contained widened other
    have otherOutcome : other.outcome = _ :=
      @Block.fitLength_outcome { block with extent := .area wider height } length wider height
        plane rfl
    constructor
    · rw [otherOutcome, outcome, if_neg (Nat.not_lt.mpr contained),
        if_neg (Nat.not_lt.mpr widened)]
    · intro nonempty reported
      exact Block.fitLength_block_of_wider plane extent nonempty reported contained widened

/-- A block of 70 rows of two pages each, reported as 100 rows, is accepted in a container of four
pages, and laid out as in one of two pages. -/
theorem fit_accepted_iff_fourPages :
    let block := { Block.ofPtr 1 with format := .bit8, extent := .area 16384 100 }
    let fit := block.fitLength 573440
    fit.outcome = .ok () ∧
      ({ block with extent := .area 8192 100 }.fitLength 573440).block = fit.block := by
  intro block fit
  have ⟨accepted, _, _, _, wider⟩ := fit_accepted_iff block 573440 16384 100 rfl rfl
  constructor
  · exact accepted.mpr ⟨by decide, by decide, by decide, by decide⟩
  · exact (wider 8192 (by decide) (by decide)).2 (by decide) (by decide)

end TilerMapping
