/-
Module: TilerMapping.Proofs.Allocation
Purpose: What a fit makes of a block that the driver can really have allocated.
Main exports: Container.Admits, Container.Admits.toNat_narrowest, Block.LaidOut,
  Block.fitLength_of_admits, silent_fit_exact, admitted_fit_accepted_iff
-/
import Mathlib.Order.Nat
import TilerMapping.Notice
import TilerMapping.Proofs.Fitting

namespace TilerMapping

/-!
The driver knows the layout of a block that it allocated, but reports less of it.  The layouts
that it can have had in mind are those that the container admits.  Every one of them has a page
width in the range that a fit considers, and a range of one width is a layout found.  Where the
range is wider the fit takes the narrowest width, and that one need not be the width of any
admitted layout: the pages of the block then do not divide among rows of that width, and the block
is refused although the driver can have allocated it.
-/

namespace Container

/-- A layout that the driver can have allocated for a block of known length: whole pages for each
row, no wider than the container, and as many rows as reported or fewer by the slack. -/
structure Admits (container : Container) (length : UInt32) (pages rows : Nat) : Prop where
  wide : 0 < pages
  tall : 0 < rows
  size : length.toNat = 4096 * pages * rows
  contained : 4096 * pages ≤ container.width.toNat
  reported : rows ≤ container.height.toNat
  slack : container.height.toNat ≤ rows + if container.format = .bit8 then 63 else 31

namespace Admits

variable {container : Container} {length : UInt32} {pages rows : Nat}

theorem height_le (admits : container.Admits length pages rows) :
    container.height.toNat ≤ rows + container.format.slackRows.toNat := by
  rw [toNat_slackRows]
  exact admits.slack

theorem height_pos (admits : container.Admits length pages rows) : 0 < container.height.toNat :=
  Nat.lt_of_lt_of_le admits.tall admits.reported

theorem length_ne_zero (admits : container.Admits length pages rows) : length ≠ 0 := by
  rintro rfl
  have area := Nat.mul_pos (Nat.mul_pos (by decide : 0 < 4096) admits.wide) admits.tall
  rw [← admits.size, UInt32.toNat_zero] at area
  exact Nat.lt_irrefl 0 area

/-- The length counted in pages. -/
theorem size_pages (admits : container.Admits length pages rows) :
    length.toNat = 4096 * (pages * rows) := by
  rw [admits.size, Nat.mul_assoc]

/-- The reported rows are at least the real ones, so no wider row than the real one is needed. -/
theorem narrowest_le (admits : container.Admits length pages rows) :
    (container.narrowest length.toUInt64).toNat ≤ pages := by
  rw [narrowest_le_iff admits.height_pos, admits.size_pages, Nat.mul_comm pages rows]
  exact Nat.mul_le_mul_left _ (Nat.mul_le_mul_right _ admits.reported)

/-- Without the slack no row is left that is not real, so no narrower row than the real one is
ruled out. -/
theorem le_widest (admits : container.Admits length pages rows) :
    pages ≤ (container.widest length.toUInt64).toNat := by
  rw [le_widest_iff]
  constructor
  · rw [Nat.le_div_iff_mul_le (by decide), Nat.mul_comm]
    exact admits.contained
  · intro bound bounded
    have ⟨_, holds⟩ := slackBound?_le_iff bounded
    have height := admits.height_le
    have wide := admits.wide
    have tall := admits.tall
    by_cases less : pages ≤ bound.toNat
    · exact less
    -- One page less in every row would still have to hold all rows.
    have small := (holds (pages - 1)).mp (by omega)
    have fewer : (container.height.toNat - container.format.slackRows.toNat) * (pages - 1) ≤
        rows * (pages - 1) := Nat.mul_le_mul_right _ (by omega)
    have more : rows * (pages - 1) + rows = rows * pages := by
      rw [← Nat.mul_succ, Nat.succ_eq_add_one, Nat.sub_add_cancel wide]
    rw [admits.size_pages, Nat.mul_comm pages rows] at small
    omega

theorem narrowest_le_widest (admits : container.Admits length pages rows) :
    container.narrowest length.toUInt64 ≤ container.widest length.toUInt64 := by
  rw [UInt64.le_iff_toNat_le]
  exact Nat.le_trans admits.narrowest_le admits.le_widest

/-- The narrowest width that a fit considers is the number of pages over the reported rows,
rounded up. -/
theorem toNat_narrowest (admits : container.Admits length pages rows) :
    (container.narrowest length.toUInt64).toNat =
      (pages * rows + container.height.toNat - 1) / container.height.toNat := by
  have tall := admits.height_pos
  -- Both sides are at most a bound under the same condition.
  apply eq_of_forall_ge_iff
  intro bound
  rw [narrowest_le_iff tall, admits.size_pages, Nat.mul_le_mul_left_iff (by decide),
    Nat.div_le_iff_le_mul tall, Nat.mul_comm bound]
  omega

/-- Where no row is slack, the narrowest width is the real one. -/
theorem narrowest_of_height_eq (admits : container.Admits length pages rows)
    (unslack : container.height.toNat = rows) :
    (container.narrowest length.toUInt64).toNat = pages := by
  apply Nat.le_antisymm admits.narrowest_le
  have holds : length.toNat ≤
      4096 * (container.height.toNat * (container.narrowest length.toUInt64).toNat) :=
    (narrowest_le_iff admits.height_pos).mp (Nat.le_refl _)
  rw [admits.size_pages, unslack, Nat.mul_comm pages] at holds
  exact Nat.le_of_mul_le_mul_left (Nat.le_of_mul_le_mul_left holds (by decide)) admits.tall

/-- A range of one width leaves one layout. -/
theorem unique {otherPages otherRows : Nat} (admits : container.Admits length pages rows)
    (single : container.narrowest length.toUInt64 = container.widest length.toUInt64)
    (other : container.Admits length otherPages otherRows) :
    otherPages = pages ∧ otherRows = rows := by
  have width : otherPages = pages := by
    have low := admits.narrowest_le
    have high := admits.le_widest
    have otherLow := other.narrowest_le
    have otherHigh := other.le_widest
    rw [single] at low otherLow
    omega
  subst width
  have same := admits.size.symm.trans other.size
  have area := Nat.mul_pos (by decide : 0 < 4096) admits.wide
  exact ⟨rfl, (Nat.eq_of_mul_eq_mul_left area same).symm⟩

end Admits

end Container

namespace Block

/-- A block has been laid out with whole pages for each row, and is otherwise as it was. -/
def LaidOut (block fitted : Block) (pages rows : Nat) : Prop :=
  ∃ width height : UInt32,
    fitted = { block with extent := .area width height, stride := width } ∧
      width.toNat * block.format.bytesPerPixel.toNat = 4096 * pages ∧ height.toNat = rows

variable {block : Block} {container : Container} {length width height : UInt32} {pages rows : Nat}

/-- A block that the driver can have allocated is laid out with rows of the narrowest width, and
is accepted exactly where its pages divide among such rows. -/
theorem fitLength_of_admits (plane : block.format.isPage = false)
    (extent : block.extent = .area width height)
    (reported : container = { format := block.format, width, height })
    (admits : container.Admits length pages rows) :
    let narrowest := (container.narrowest length.toUInt64).toNat
    block.LaidOut (block.fitLength length).block narrowest (pages * rows / narrowest) ∧
      (block.fitLength length).outcome =
        if narrowest ∣ pages * rows then .ok ()
        else
          .error (.sizeDiffers length.toUInt64
            (UInt64.ofNat (4096 * (pages * rows - pages * rows % narrowest)))) := by
  intro narrowest
  have format : container.format = block.format := by rw [reported]
  have fits := Container.narrowest_fits admits.narrowest_le_widest
  have quotient : length.toNat / (4096 * narrowest) = pages * rows / narrowest := by
    rw [admits.size_pages, Nat.mul_div_mul_left _ _ (by decide)]
  have remainder : length.toNat - length.toNat % (4096 * narrowest) =
      4096 * (pages * rows - pages * rows % narrowest) := by
    rw [admits.size_pages, Nat.mul_mod_mul_left, Nat.mul_sub]
  have divides : 4096 * narrowest ∣ length.toNat ↔ narrowest ∣ pages * rows := by
    rw [admits.size_pages, Nat.mul_dvd_mul_iff_left (by decide)]
  rw [fitLength_of_le plane extent admits.length_ne_zero reported admits.height_pos
    admits.narrowest_le_widest]
  constructor
  · refine ⟨_, _, rfl, ?_, ?_⟩
    · rw [← format]
      exact Container.rowPixels_mul_bytesPerPixel fits
    · rw [Container.toNat_rowCount]
      exact quotient
  · apply (checkSize_narrowed plane format fits).trans
    show (if 4096 * narrowest ∣ length.toNat then _ else
      Except.error (GeometryFault.sizeDiffers _ (UInt64.ofNat (_ - _ % (4096 * narrowest))))) = _
    rw [remainder]
    simp only [divides]

/-- Where an admitted layout has the narrowest width, the fit finds it. -/
theorem fitLength_of_narrowest (plane : block.format.isPage = false)
    (extent : block.extent = .area width height)
    (reported : container = { format := block.format, width, height })
    (admits : container.Admits length pages rows)
    (narrowest : (container.narrowest length.toUInt64).toNat = pages) :
    (block.fitLength length).outcome = .ok () ∧
      block.LaidOut (block.fitLength length).block pages rows := by
  have ⟨laidOut, outcome⟩ := fitLength_of_admits plane extent reported admits
  rw [narrowest, Nat.mul_div_cancel_left rows admits.wide] at laidOut
  rw [narrowest, if_pos (Nat.dvd_mul_right pages rows)] at outcome
  exact ⟨outcome, laidOut⟩

/-- Where a fit gives no warning, the range of page widths has one element. -/
theorem narrowest_eq_widest_of_silent (plane : block.format.isPage = false)
    (extent : block.extent = .area width height)
    (reported : container = { format := block.format, width, height })
    (admits : container.Admits length pages rows)
    (silent : ∀ notice ∈ (block.fitLength length).notices,
      (Notice.geometry notice).level ≠ .warn) :
    container.narrowest length.toUInt64 = container.widest length.toUInt64 := by
  rw [fitLength_of_le plane extent admits.length_ne_zero reported admits.height_pos
      admits.narrowest_le_widest,
    fitArea_of_le extent admits.length_ne_zero reported admits.height_pos
      admits.narrowest_le_widest] at silent
  by_cases same : container.narrowest length.toUInt64 = container.widest length.toUInt64
  · exact same
  · have warned := silent (.strideAmbiguous (container.narrowest length.toUInt64)
      (container.widest length.toUInt64)) (by simp [Container.choiceNotices, same])
    exact absurd rfl warned

end Block

/-! ### Silent fits -/

/-- A layout that the driver can have allocated is among those that a fit considers.  Where the fit
gives no warning, there is only one such layout and the fit finds it; and it finds the layout
where the driver has not reported more rows than there are. -/
theorem silent_fit_exact (block : Block) (length width height : UInt32) (pages rows : Nat)
    (plane : block.format.isPage = false) (extent : block.extent = .area width height)
    (admits : Container.Admits { format := block.format, width, height } length pages rows) :
    let container : Container := { format := block.format, width, height }
    let fit := block.fitLength length
    (block.fitArea length).outcome = .ok () ∧
      (container.narrowest length.toUInt64).toNat ≤ pages ∧
      pages ≤ (container.widest length.toUInt64).toNat ∧
      ((∀ notice ∈ fit.notices, (Notice.geometry notice).level ≠ .warn) →
        fit.outcome = .ok () ∧ block.LaidOut fit.block pages rows ∧
          ∀ otherPages otherRows, container.Admits length otherPages otherRows →
            otherPages = pages ∧ otherRows = rows) ∧
      (height.toNat = rows → fit.outcome = .ok () ∧ block.LaidOut fit.block pages rows) := by
  intro container fit
  refine ⟨?fitted, admits.narrowest_le, admits.le_widest, ?silent, ?exactRows⟩
  case fitted =>
    rw [Block.fitArea_of_le extent admits.length_ne_zero rfl admits.height_pos
      admits.narrowest_le_widest]
  case silent =>
    intro silent
    have single := Block.narrowest_eq_widest_of_silent plane extent rfl admits silent
    have narrowest : (container.narrowest length.toUInt64).toNat = pages := by
      apply Nat.le_antisymm admits.narrowest_le
      rw [single]
      exact admits.le_widest
    have ⟨outcome, laidOut⟩ := Block.fitLength_of_narrowest plane extent rfl admits narrowest
    exact ⟨outcome, laidOut, fun _ _ other => admits.unique single other⟩
  case exactRows =>
    intro exactRows
    exact Block.fitLength_of_narrowest plane extent rfl admits
      (admits.narrowest_of_height_eq exactRows)

/-- A block of 120 rows of two pages each in a container two pages wide, with eight rows of slack
reported, is fitted silently and exactly. -/
theorem silent_fit_exact_twoPages :
    let block := { Block.ofPtr 1 with format := .bit32, extent := .area 8192 128 }
    let fit := block.fitLength 983040
    (fit.outcome = .ok () ∧ block.LaidOut fit.block 2 120) ∧
      (∀ otherPages otherRows,
        Container.Admits { format := .bit32, width := 8192, height := 128 } 983040
          otherPages otherRows → otherPages = 2 ∧ otherRows = 120) := by
  intro block fit
  have admits : Container.Admits { format := .bit32, width := 8192, height := 128 } 983040 2 120 :=
    ⟨by decide, by decide, by decide, by decide, by decide, by decide⟩
  have ⟨_, _, _, silent, _⟩ := silent_fit_exact block 983040 8192 128 2 120 rfl rfl admits
  have ⟨outcome, laidOut, unique⟩ := silent (by decide)
  exact ⟨⟨outcome, laidOut⟩, unique⟩

/-! ### Refused fits -/

/-- A block that the driver can have allocated always gets through the choice of a width, and is
laid out with its pages over the reported rows, rounded up.  It is accepted exactly where its
pages divide among rows of that width; if not, it is refused with the size of the full rows. -/
theorem admitted_fit_accepted_iff (block : Block) (length width height : UInt32)
    (pages rows : Nat) (plane : block.format.isPage = false)
    (extent : block.extent = .area width height)
    (admits : Container.Admits { format := block.format, width, height } length pages rows) :
    let narrowest := (pages * rows + height.toNat - 1) / height.toNat
    let fit := block.fitLength length
    (block.fitArea length).outcome = .ok () ∧
      block.LaidOut fit.block narrowest (pages * rows / narrowest) ∧
      (fit.outcome = .ok () ↔ narrowest ∣ pages * rows) ∧
      (¬ narrowest ∣ pages * rows →
        fit.outcome =
          .error (.sizeDiffers length.toUInt64
            (UInt64.ofNat (4096 * (pages * rows - pages * rows % narrowest))))) := by
  intro narrowest fit
  have ⟨laidOut, outcome⟩ := Block.fitLength_of_admits plane extent rfl admits
  rw [admits.toNat_narrowest] at laidOut outcome
  refine ⟨?_, laidOut, ?_, ?_⟩
  · rw [Block.fitArea_of_le extent admits.length_ne_zero rfl admits.height_pos
      admits.narrowest_le_widest]
  · show (block.fitLength length).outcome = .ok () ↔ _
    rw [outcome]
    simp [narrowest]
  · intro broken
    exact outcome.trans (if_neg broken)

/-- One row of three pages, reported as two rows, is laid out with two pages a row. -/
theorem admitted_fit_accepted_iff_threePages :
    let block := { Block.ofPtr 1 with format := .bit32, extent := .area 12288 2 }
    let fit := block.fitLength 12288
    block.LaidOut fit.block 2 1 ∧ fit.outcome = .error (.sizeDiffers 12288 8192) := by
  intro block fit
  have admits : Container.Admits { format := .bit32, width := 12288, height := 2 } 12288 3 1 :=
    ⟨by decide, by decide, by decide, by decide, by decide, by decide⟩
  have ⟨_, laidOut, _, refused⟩ := admitted_fit_accepted_iff block 12288 12288 2 3 1 rfl rfl admits
  exact ⟨laidOut, refused (by decide)⟩

/-- A fit does not accept every block that the driver can have allocated. -/
theorem admitted_fit_refused :
    ¬ ∀ (block : Block) (length width height : UInt32) (pages rows : Nat),
      block.format.isPage = false → block.extent = .area width height →
        Container.Admits { format := block.format, width, height } length pages rows →
          (block.fitLength length).outcome = .ok () := by
  intro complete
  let block := { Block.ofPtr 1 with format := .bit32, extent := .area 12288 2 }
  have admits : Container.Admits { format := .bit32, width := 12288, height := 2 } 12288 3 1 :=
    ⟨by decide, by decide, by decide, by decide, by decide, by decide⟩
  have extent : block.extent = .area 12288 2 := rfl
  have ⟨_, outcome⟩ := Block.fitLength_of_admits rfl extent rfl admits
  rw [admits.toNat_narrowest, if_neg (by decide),
    complete block 12288 12288 2 3 1 rfl rfl admits] at outcome
  cases outcome

end TilerMapping
