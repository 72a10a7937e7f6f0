/-
Module: TilerMapping.Proofs.Exactness
Purpose: The arithmetic of a fit with every operation checked, and the bounds of what comes out.
Main exports: Word.sub?, Word.div?, Word.ceilDiv?, Word.narrow?, Block.checkedFit?,
  Block.checkedFit?_eq, Block.WithinReport, Block.withinReport_fitArea, fit_arithmetic_exact
-/
import TilerMapping.Proofs.Acceptance
import TilerMapping.Proofs.Allocation
import TilerMapping.Proofs.Sizes

namespace TilerMapping

/-!
The operations of a fit are those of words: they wrap, cut off and divide by zero without a
report.  Here the same fit is carried out with operations that answer `none` in these cases.  That
it never comes to `none`, and always to what the fit comes to, says that no operation of the fit
leaves its word.
-/

/-! ### Checked operations -/

namespace Word

/-- The difference of two words, if it is a word. -/
def sub? (a b : UInt64) : Option UInt64 :=
  if b ≤ a then some (a - b) else none

/-- The quotient of two words, unless the divisor is zero. -/
def div? (a b : UInt64) : Option UInt64 :=
  if b = 0 then none else some (a / b)

/-- The least number of portions that hold a word, unless they are empty or the portion for the
remainder is one too many. -/
def ceilDiv? (a b : UInt64) : Option UInt64 :=
  if b = 0 then none
  else if a % b = 0 then some (a / b)
  else add? (a / b) 1

/-- The same number in half the bits, if it has as few. -/
def narrow? (a : UInt64) : Option UInt32 :=
  if a.toNat < UInt32.size then some a.toUInt32 else none

theorem sub?_of_le {a b : UInt64} (less : b ≤ a) : sub? a b = some (a - b) := if_pos less

theorem div?_of_ne_zero {a b : UInt64} (nonzero : b ≠ 0) : div? a b = some (a / b) :=
  if_neg nonzero

theorem narrow?_of_lt {a : UInt64} (short : a.toNat < UInt32.size) :
    narrow? a = some a.toUInt32 := if_pos short

theorem mul?_of_lt {a b : UInt64} (short : a.toNat * b.toNat < UInt64.size) :
    mul? a b = some (a * b) := if_pos short

/-- Portions that are not empty can always be counted. -/
theorem ceilDiv?_of_ne_zero {a b : UInt64} (nonzero : b ≠ 0) :
    ceilDiv? a b = some (ceilDiv a b) := by
  unfold ceilDiv? ceilDiv
  rw [if_neg nonzero]
  split
  · rfl
  · rename_i broken
    have positive : 0 < b.toNat := UInt64.lt_iff_toNat_lt.mp (UInt64.pos_iff_ne_zero.mpr nonzero)
    rw [add?_eq_some_iff, toNat_div_add_one broken positive, UInt64.toNat_div, UInt64.toNat_one]

end Word

namespace Container

variable {container : Container}

/-- The narrowest page width, with every operation checked. -/
def checkedNarrowest? (container : Container) (length : UInt64) : Option UInt64 := do
  let upper ← Word.mul? container.height.toUInt64 pageSize
  Word.ceilDiv? length upper

/-- The widest page width, with every operation checked. -/
def checkedWidest? (container : Container) (length : UInt64) : Option UInt64 := do
  let upper ← Word.mul? container.height.toUInt64 pageSize
  let slack ← Word.mul? container.format.slackRows pageSize
  let capacity ← Word.div? container.width.toUInt64 pageSize
  if slack < upper then
    let lower ← Word.sub? upper slack
    let bound ← Word.ceilDiv? length lower
    return min bound capacity
  else
    return capacity

/-- The pixels of a row of the given number of pages, with every operation checked. -/
def checkedRowPixels? (container : Container) (pages : UInt64) : Option UInt32 := do
  let row ← Word.mul? pageSize pages
  let pixels ← Word.div? row container.format.bytesPerPixel.toUInt64
  Word.narrow? pixels

/-- The full rows that a length fills, with every operation checked. -/
def checkedRowCount? (length pages : UInt64) : Option UInt32 := do
  let whole ← Word.div? length pageSize
  let rows ← Word.div? whole pages
  Word.narrow? rows

theorem mul?_upperAllocation (container : Container) :
    Word.mul? container.height.toUInt64 pageSize = some container.upperAllocation := by
  apply Word.mul?_of_lt
  have bound := container.height.toNat_lt
  rw [UInt32.toNat_toUInt64, show pageSize.toNat = 4096 from rfl]
  exact Nat.lt_of_lt_of_le (Nat.mul_lt_mul_of_pos_right bound (by decide)) (by decide)

theorem mul?_slack (container : Container) :
    Word.mul? container.format.slackRows pageSize = some container.slack := by
  apply Word.mul?_of_lt
  rw [toNat_slackRows]
  split <;> decide

theorem upperAllocation_ne_zero (tall : 0 < container.height.toNat) :
    container.upperAllocation ≠ 0 := by
  intro zero
  have empty := congrArg UInt64.toNat zero
  rw [toNat_upperAllocation, UInt64.toNat_zero] at empty
  omega

theorem checkedNarrowest?_eq (length : UInt64) (tall : 0 < container.height.toNat) :
    container.checkedNarrowest? length = some (container.narrowest length) := by
  unfold checkedNarrowest?
  rw [mul?_upperAllocation]
  exact Word.ceilDiv?_of_ne_zero (upperAllocation_ne_zero tall)

theorem checkedWidest?_eq (container : Container) (length : UInt64) :
    container.checkedWidest? length = some (container.widest length) := by
  have capacity : Word.div? container.width.toUInt64 pageSize = some container.capacity :=
    Word.div?_of_ne_zero (by decide)
  unfold checkedWidest? widest slackBound? lowerAllocation?
  rw [mul?_upperAllocation, mul?_slack, capacity]
  simp only [Option.bind_eq_bind, Option.bind_some]
  split
  · rename_i left
    have nonzero : container.upperAllocation - container.slack ≠ 0 := by
      intro zero
      have empty := congrArg UInt64.toNat zero
      rw [UInt64.toNat_sub_of_le _ _ (UInt64.le_of_lt left), UInt64.toNat_zero] at empty
      rw [UInt64.lt_iff_toNat_lt] at left
      omega
    rw [Word.sub?_of_le (UInt64.le_of_lt left), Option.bind_some,
      Word.ceilDiv?_of_ne_zero nonzero]
    rfl
  · rfl

theorem checkedRowPixels?_eq {pages : UInt64} (fits : 4096 * pages.toNat < UInt32.size) :
    container.checkedRowPixels? pages = some (container.rowPixels pages) := by
  have page : pageSize.toNat = 4096 := by decide
  have product : Word.mul? pageSize pages = some (pageSize * pages) := by
    apply Word.mul?_of_lt
    rw [page]
    exact Nat.lt_trans fits (by decide)
  have nonzero : container.format.bytesPerPixel.toUInt64 ≠ 0 := by
    cases container.format with
    | bit32 => decide
    | bit16 => decide
    | _ => exact (by decide : (1 : UInt64) ≠ 0)
  unfold checkedRowPixels?
  rw [product, Option.bind_eq_bind, Option.bind_some, Word.div?_of_ne_zero nonzero]
  apply Word.narrow?_of_lt
  rw [toNat_pagePixels fits]
  exact Nat.lt_of_le_of_lt (Nat.div_le_self _ _) fits

theorem checkedRowCount?_eq {length : UInt32} {pages : UInt64} (nonzero : pages ≠ 0) :
    checkedRowCount? length.toUInt64 pages = some (rowCount length.toUInt64 pages) := by
  have page : pageSize ≠ 0 := by decide
  unfold checkedRowCount?
  rw [Word.div?_of_ne_zero page, Option.bind_eq_bind, Option.bind_some,
    Word.div?_of_ne_zero nonzero]
  apply Word.narrow?_of_lt
  rw [toNat_fullRows]
  exact Nat.lt_of_le_of_lt (Nat.div_le_self _ _) length.toNat_lt

end Container

/-! ### Checked fits -/

namespace Block

/-- The two-dimensional fit of a block, with every operation checked. -/
def checkedFit? (block : Block) (length : UInt32) : Option (Except GeometryFault Block) :=
  match block.extent with
  | .length _ => some (.error .notAnArea)
  | .area width height =>
    if length = 0 then some (.error .zeroLength)
    else if height = 0 then some (.error .zeroHeight)
    else do
      let container : Container := { format := block.format, width, height }
      let narrowest ← container.checkedNarrowest? length.toUInt64
      let widest ← container.checkedWidest? length.toUInt64
      if widest < narrowest then
        return .error (.noPageWidth narrowest widest)
      else
        let pixels ← container.checkedRowPixels? narrowest
        let rows ← Container.checkedRowCount? length.toUInt64 narrowest
        return .ok { block with extent := .area pixels rows, stride := pixels }

variable {block : Block} {length width height : UInt32}

/-- No operation of a fit leaves its word or divides by zero. -/
theorem checkedFit?_eq (block : Block) (length : UInt32) :
    block.checkedFit? length =
      some ((block.fitArea length).outcome.map fun _ => (block.fitArea length).block) := by
  cases extent : block.extent with
  | length bytes => simp [checkedFit?, fitArea, extent, Except.map]
  | area width height =>
    by_cases empty : length = 0
    · simp [checkedFit?, fitArea, extent, empty, Except.map]
    by_cases flat : height = 0
    · simp [checkedFit?, fitArea, extent, empty, flat, Except.map]
    let container : Container := { format := block.format, width, height }
    have tall : 0 < container.height.toNat :=
      UInt32.lt_iff_toNat_lt.mp (UInt32.pos_iff_ne_zero.mpr flat)
    unfold checkedFit?
    simp only [extent, if_neg empty, if_neg flat]
    rw [Container.checkedNarrowest?_eq length.toUInt64 tall, Container.checkedWidest?_eq]
    simp only [Option.bind_eq_bind, Option.bind_some]
    by_cases range : container.widest length.toUInt64 < container.narrowest length.toUInt64
    · rw [if_pos range, fitArea_of_lt extent empty rfl tall range]
      rfl
    · -- A range that is not empty bounds the narrowest width by the container, so its row is short
      -- enough for the casts.
      have nonempty := UInt64.not_lt.mp range
      have nonzero : container.narrowest length.toUInt64 ≠ 0 := by
        intro zero
        have positive := Container.narrowest_pos empty tall
        rw [zero, UInt64.toNat_zero] at positive
        exact Nat.lt_irrefl 0 positive
      rw [if_neg range, Container.checkedRowPixels?_eq (Container.narrowest_fits nonempty),
        Container.checkedRowCount?_eq nonzero, fitArea_of_le extent empty rfl tall nonempty]
      rfl

/-! ### What comes out of a fit -/

/-- A fitted block stays within what was reported of it: its rows take whole pages, at least one
and no more than the container has, there are no more of them than reported, and the size that they
make together leaves less than a row of the known length over. -/
structure WithinReport (block fitted : Block) (width height length : UInt32) (pages rows : Nat) :
    Prop where
  laidOut : block.LaidOut fitted pages rows
  wide : 1 ≤ pages
  contained : pages ≤ width.toNat / 4096
  reported : rows ≤ height.toNat
  size : ∃ bytes, fitted.size? = some bytes ∧ bytes.toNat = rows * (4096 * pages) ∧
    bytes.toNat ≤ length.toNat ∧ length.toNat < bytes.toNat + 4096 * pages

/-- A two-dimensional fit that succeeds has taken the narrowest of a range of page widths. -/
theorem fitArea_ok (extent : block.extent = .area width height)
    (fits : (block.fitArea length).outcome = .ok ()) :
    let container : Container := { format := block.format, width, height }
    length ≠ 0 ∧ 0 < container.height.toNat ∧
      container.narrowest length.toUInt64 ≤ container.widest length.toUInt64 ∧
      (block.fitArea length).block = block.narrowed container length := by
  intro container
  by_cases empty : length = 0
  · simp [fitArea, extent, empty] at fits
  by_cases flat : height = 0
  · simp [fitArea, extent, empty, flat] at fits
  have tall : 0 < container.height.toNat :=
    UInt32.lt_iff_toNat_lt.mp (UInt32.pos_iff_ne_zero.mpr flat)
  by_cases range : container.widest length.toUInt64 < container.narrowest length.toUInt64
  · rw [fitArea_of_lt extent empty rfl tall range] at fits
    cases fits
  · have nonempty := UInt64.not_lt.mp range
    refine ⟨empty, tall, nonempty, ?_⟩
    rw [fitArea_of_le extent empty rfl tall nonempty]

/-- A two-dimensional fit that succeeds stays within the report. -/
theorem withinReport_fitArea (plane : block.format.isPage = false)
    (extent : block.extent = .area width height)
    (fits : (block.fitArea length).outcome = .ok ()) :
    ∃ pages rows,
      block.WithinReport (block.fitArea length).block width height length pages rows := by
  rcases fitArea_ok extent fits with ⟨nonempty, tall, range, fitted⟩
  let container : Container := { format := block.format, width, height }
  let pages := (container.narrowest length.toUInt64).toNat
  have wide : 1 ≤ pages := Container.narrowest_pos nonempty tall
  have row := container.rowPixels_mul_bytesPerPixel (Container.narrowest_fits range)
  have rows := Container.toNat_rowCount length (container.narrowest length.toUInt64)
  have parts := Nat.div_add_mod' length.toNat (4096 * pages)
  have short := Nat.mod_lt length.toNat (Nat.mul_pos (by decide : 0 < 4096) wide)
  refine ⟨pages, length.toNat / (4096 * pages), ?_⟩
  rw [fitted]
  constructor
  case laidOut => exact ⟨_, _, rfl, row, rows⟩
  case wide => exact wide
  case contained => exact Container.narrowest_le_capacity range
  case reported =>
    have holds := (Container.narrowest_le_iff tall).mp (Nat.le_refl pages)
    apply Nat.div_le_of_le_mul
    rw [Nat.mul_assoc, Nat.mul_comm pages]
    exact holds
  case size =>
    rcases @size?_narrowed block container length plane rfl (Container.narrowest_fits range) with
      ⟨bytes, size, full⟩
    have full : bytes.toNat = length.toNat / (4096 * pages) * (4096 * pages) := full
    exact ⟨bytes, size, full, by omega, by omega⟩

/-- Where such a block has the known length, that is the length of its rows, and it has one at
least. -/
theorem WithinReport.rows_eq {fitted : Block} {pages rows : Nat}
    (within : block.WithinReport fitted width height length pages rows) (nonempty : length ≠ 0)
    (known : fitted.size? = some length.toUInt64) :
    1 ≤ rows ∧
      fitted.stride.toNat * block.format.bytesPerPixel.toNat * rows = length.toNat := by
  rcases within.size with ⟨bytes, size, product, _, _⟩
  rcases within.laidOut with ⟨_, _, rfl, row, _⟩
  have same : length.toNat = rows * (4096 * pages) := by
    rw [known, Option.some.injEq] at size
    rw [← product, ← size, UInt32.toNat_toUInt64]
  constructor
  · apply Nat.pos_of_ne_zero
    rintro rfl
    apply nonempty
    rw [← UInt32.toNat_inj, same, Nat.zero_mul, UInt32.toNat_zero]
  · rw [row, same, Nat.mul_comm]

end Block

/-! ### Exact fits -/

/-- The two-dimensional fit of any block can be carried out with operations that refuse to overflow,
to cut off or to divide by zero, and comes to the same.  The block that it leaves stays within what
the driver reported, and has rows that make up the known length where its size is accepted.  An
accepted block has the known length for its extent where it is a page block and an area where it is
not, and names the same block at the same place. -/
theorem fit_arithmetic_exact (block : Block) (length : UInt32) :
    let area := block.fitArea length
    let fit := block.fitLength length
    block.checkedFit? length = some (area.outcome.map fun _ => area.block) ∧
    (∀ width height, block.format ≠ .page → block.extent = .area width height →
      area.outcome = .ok () →
        ∃ pages rows, block.WithinReport area.block width height length pages rows ∧
          (fit.outcome = .ok () → fit.block = area.block ∧ 1 ≤ rows ∧
            fit.block.stride.toNat * block.format.bytesPerPixel.toNat * rows = length.toNat)) ∧
    (fit.outcome = .ok () →
      (fit.block.extent = .length length ↔ block.format = .page) ∧
      ((∃ width height, fit.block.extent = .area width height) ↔ block.format ≠ .page) ∧
      fit.block.driverPtr = block.driverPtr ∧ fit.block.address = block.address ∧
      fit.block.format = block.format) := by
  intro area fit
  have planar (other : block.format ≠ .page) : block.format.isPage = false :=
    Bool.eq_false_iff.mpr fun page => other (ContainerFormat.isPage_iff.mp page)
  refine ⟨block.checkedFit?_eq length, ?within, ?shape⟩
  case within =>
    intro width height other extent fitted
    rcases Block.withinReport_fitArea (planar other) extent fitted with ⟨pages, rows, within⟩
    refine ⟨pages, rows, within, fun accepted => ?_⟩
    rcases Block.fitArea_of_fitLength (planar other) accepted with ⟨_, same⟩
    rcases Block.fitArea_ok extent fitted with ⟨nonempty, _, _, _⟩
    have known := Block.size?_fitLength accepted
    refine ⟨same, ?_⟩
    show _ ∧ (block.fitLength length).block.stride.toNat * _ * _ = _
    rw [same] at known ⊢
    exact within.rows_eq nonempty known
  case shape =>
    intro accepted
    rcases Block.block_fitLength accepted with ⟨ofPage, ofPlane⟩
    by_cases page : block.format = .page
    · have left : fit.block = _ := ofPage (ContainerFormat.isPage_iff.mpr page)
      rw [left]
      simp [page]
    · rcases ofPlane (planar page) with ⟨width, height, stride, left⟩
      have left : fit.block = _ := left
      rw [left]
      simp [page]

/-- The block of 70 rows of two pages that is reported in a container of four pages and 100 rows is
left with rows that make up its length. -/
theorem fit_arithmetic_exact_fourPages :
    let block := { Block.ofPtr 1 with format := .bit8, extent := .area 16384 100 }
    ∃ pages rows,
      block.WithinReport (block.fitLength 573440).block 16384 100 573440 pages rows ∧
        (block.fitLength 573440).block.stride.toNat * 1 * rows = 573440 := by
  intro block
  have accepted : (block.fitLength 573440).outcome = .ok () := by
    apply (@Block.fitLength_outcome_eq_ok_iff block 573440 16384 100 rfl rfl).mpr
    exact ⟨by decide, by decide, by decide, by decide⟩
  have ⟨_, within, _⟩ := fit_arithmetic_exact block 573440
  rcases Block.fitArea_of_fitLength rfl accepted with ⟨fitted, same⟩
  rcases within 16384 100 (by decide) rfl fitted with ⟨pages, rows, reported, rowed⟩
  rcases rowed accepted with ⟨_, _, product⟩
  refine ⟨pages, rows, ?_, product⟩
  rw [same]
  exact reported

end TilerMapping
