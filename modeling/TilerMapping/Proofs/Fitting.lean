/-
Module: TilerMapping.Proofs.Fitting
Purpose: The fit of a two-dimensional block in unbounded numbers.
Main exports: Word.toNat_ceilDiv_le_iff, Container.narrowest_le_iff, Container.le_widest_iff,
  Block.size?_of_wholePages, Block.narrowed, Block.block_fitLength, Block.fitLength_of_le,
  Block.fitLength_of_lt, Block.checkSize_narrowed
-/
import TilerMapping.Geometry

namespace TilerMapping

/-!
A fit compares page widths that come out of divisions rounded up.  Each bound is told here by
what it holds: a width is at least the narrowest one where the reported rows hold the length,
and at most the widest one where the container holds a row and a page less would leave some of
the length outside the rows that are surely there.  No step of a fit that finds a width leaves
its word.
-/

namespace Word

/-- Where a remainder is left, a portion has more than one unit, so a portion more is still a
word. -/
theorem toNat_div_add_one {a b : UInt64} (broken : a % b ≠ 0) (positive : 0 < b.toNat) :
    (a / b + 1).toNat = a.toNat / b.toNat + 1 := by
  have broken : a.toNat % b.toNat ≠ 0 := by
    rwa [← UInt64.toNat_mod, ← UInt64.toNat_zero, Ne, UInt64.toNat_inj]
  have several : 1 < b.toNat := by
    have less := Nat.mod_lt a.toNat positive
    omega
  have nonempty : 0 < a.toNat := by
    apply Nat.pos_of_ne_zero
    intro zero
    apply broken
    rw [zero, Nat.zero_mod]
  have fewer := Nat.div_lt_self nonempty several
  have bound := a.toNat_lt
  rw [UInt64.toNat_add, UInt64.toNat_div, UInt64.toNat_one, Nat.mod_eq_of_lt (by omega)]

/-- The portions are enough for a length exactly where they hold it. -/
theorem toNat_ceilDiv_le_iff {a b : UInt64} {n : Nat} (positive : 0 < b.toNat) :
    (ceilDiv a b).toNat ≤ n ↔ a.toNat ≤ b.toNat * n := by
  have parts := Nat.div_add_mod a.toNat b.toNat
  unfold ceilDiv
  split
  · rename_i whole
    have whole : a.toNat % b.toNat = 0 := by
      rw [← UInt64.toNat_mod, whole, UInt64.toNat_zero]
    rw [whole, Nat.add_zero] at parts
    rw [UInt64.toNat_div, ← Nat.mul_le_mul_left_iff positive, parts]
  · rename_i broken
    rw [toNat_div_add_one broken positive, Nat.add_one_le_iff, Nat.div_lt_iff_lt_mul positive,
      Nat.mul_comm n]
    constructor
    · exact Nat.le_of_lt
    · intro holds
      apply Nat.lt_of_le_of_ne holds
      intro same
      apply broken
      rw [← UInt64.toNat_inj, UInt64.toNat_mod, same, Nat.mul_mod_right, UInt64.toNat_zero]

end Word

/-! ### The range of page widths -/

namespace Container

variable {container : Container} {length : UInt32} {pages : Nat}

theorem toNat_upperAllocation (container : Container) :
    container.upperAllocation.toNat = container.height.toNat * 4096 := by
  have bound := container.height.toNat_lt
  have page : pageSize.toNat = 4096 := by decide
  rw [upperAllocation, UInt64.toNat_mul, UInt32.toNat_toUInt64, page, Nat.mod_eq_of_lt (by omega)]

theorem toNat_slackRows (format : ContainerFormat) :
    format.slackRows.toNat = if format = .bit8 then 63 else 31 := by
  cases format <;> rfl

theorem toNat_slack (container : Container) :
    container.slack.toNat = container.format.slackRows.toNat * 4096 := by
  have few := toNat_slackRows container.format
  have page : pageSize.toNat = 4096 := by decide
  rw [slack, UInt64.toNat_mul, page, Nat.mod_eq_of_lt]
  split at few <;> omega

theorem toNat_capacity (container : Container) :
    container.capacity.toNat = container.width.toNat / 4096 := by
  have page : pageSize.toNat = 4096 := by decide
  rw [capacity, UInt64.toNat_div, UInt32.toNat_toUInt64, page]

/-- A page width is not below the narrowest one exactly where the reported rows hold the length. -/
theorem narrowest_le_iff (tall : 0 < container.height.toNat) :
    (container.narrowest length.toUInt64).toNat ≤ pages ↔
      length.toNat ≤ 4096 * (container.height.toNat * pages) := by
  have upper := container.toNat_upperAllocation
  have same : container.height.toNat * 4096 * pages =
      4096 * (container.height.toNat * pages) := by
    rw [Nat.mul_comm container.height.toNat, Nat.mul_assoc]
  rw [narrowest, Word.toNat_ceilDiv_le_iff (by omega), upper, UInt32.toNat_toUInt64, same]

/-- The bound of the slack is not above a page width exactly where that width holds the length in
the rows that are surely there. -/
theorem slackBound?_le_iff {bound : UInt64}
    (bounded : container.slackBound? length.toUInt64 = some bound) :
    container.format.slackRows.toNat < container.height.toNat ∧
      ∀ pages, bound.toNat ≤ pages ↔
        length.toNat ≤
          4096 * ((container.height.toNat - container.format.slackRows.toNat) * pages) := by
  have upper := container.toNat_upperAllocation
  have slack := container.toNat_slack
  unfold slackBound? lowerAllocation? at bounded
  split at bounded
  · rename_i left
    rw [UInt64.lt_iff_toNat_lt] at left
    cases bounded
    have lower : (container.upperAllocation - container.slack).toNat =
        (container.height.toNat - container.format.slackRows.toNat) * 4096 := by
      rw [UInt64.toNat_sub_of_le _ _ (UInt64.le_iff_toNat_le.mpr (by omega)), upper, slack,
        Nat.sub_mul]
    constructor
    · omega
    · intro pages
      rw [Word.toNat_ceilDiv_le_iff (by omega), lower, UInt32.toNat_toUInt64,
        Nat.mul_comm _ 4096, Nat.mul_assoc]
  · cases bounded

/-- A page width is not above the widest one exactly where neither the container nor the slack
rules it out. -/
theorem le_widest_iff :
    pages ≤ (container.widest length.toUInt64).toNat ↔
      pages ≤ container.width.toNat / 4096 ∧
        ∀ bound, container.slackBound? length.toUInt64 = some bound → pages ≤ bound.toNat := by
  unfold widest
  cases container.slackBound? length.toUInt64 with
  | none => simp [toNat_capacity]
  | some bound =>
    have least : (min bound container.capacity).toNat =
        min bound.toNat container.capacity.toNat := by
      rw [show min bound container.capacity =
        if bound ≤ container.capacity then bound else container.capacity from rfl]
      split
      · rename_i less
        rw [Nat.min_eq_left (UInt64.le_iff_toNat_le.mp less)]
      · rename_i more
        rw [UInt64.le_iff_toNat_le] at more
        rw [Nat.min_eq_right (by omega)]
    simp only [least, toNat_capacity, Option.some.injEq, forall_eq']
    omega

/-- A range of page widths with a width in it begins with one that the container has room for. -/
theorem narrowest_le_capacity
    (range : container.narrowest length.toUInt64 ≤ container.widest length.toUInt64) :
    (container.narrowest length.toUInt64).toNat ≤ container.width.toNat / 4096 :=
  (le_widest_iff.mp (UInt64.le_iff_toNat_le.mp range)).1

/-- So the bytes of a row of that width are a number of 32 bits, as the width of the container
is. -/
theorem narrowest_fits
    (range : container.narrowest length.toUInt64 ≤ container.widest length.toUInt64) :
    4096 * (container.narrowest length.toUInt64).toNat < UInt32.size := by
  have contained := narrowest_le_capacity range
  have bound := container.width.toNat_lt_size
  omega

/-- A length that is not zero takes a page at least. -/
theorem narrowest_pos (nonempty : length ≠ 0) (tall : 0 < container.height.toNat) :
    0 < (container.narrowest length.toUInt64).toNat := by
  apply Nat.pos_of_ne_zero
  intro zero
  have holds := (narrowest_le_iff tall).mp (Nat.le_of_eq zero)
  apply nonempty
  rw [← UInt32.toNat_inj, UInt32.toNat_zero]
  omega

/-! ### The layout of a page width -/

theorem bytesPerPixel_dvd (format : ContainerFormat) : format.bytesPerPixel.toNat ∣ 4096 := by
  cases format with
  | bit32 => decide
  | bit16 => decide
  | _ => exact Nat.one_dvd 4096

/-- The pixels of whole pages, before they are cut off to a width. -/
theorem toNat_pagePixels {pages : UInt64} (fits : 4096 * pages.toNat < UInt32.size) :
    (pageSize * pages / container.format.bytesPerPixel.toUInt64).toNat =
      4096 * pages.toNat / container.format.bytesPerPixel.toNat := by
  have page : pageSize.toNat = 4096 := by decide
  have size : UInt32.size = 4294967296 := rfl
  rw [UInt64.toNat_div, UInt64.toNat_mul, UInt32.toNat_toUInt64, page,
    Nat.mod_eq_of_lt (by omega)]

/-- The rows of a fitted block take whole pages. -/
theorem rowPixels_mul_bytesPerPixel {pages : UInt64} (fits : 4096 * pages.toNat < UInt32.size) :
    (container.rowPixels pages).toNat * container.format.bytesPerPixel.toNat =
      4096 * pages.toNat := by
  have divides := bytesPerPixel_dvd container.format
  have short := Nat.div_le_self (4096 * pages.toNat) container.format.bytesPerPixel.toNat
  rw [rowPixels, UInt64.toNat_toUInt32, toNat_pagePixels fits,
    Nat.mod_eq_of_lt (Nat.lt_of_le_of_lt short fits)]
  exact Nat.div_mul_cancel (Nat.dvd_mul_right_of_dvd divides _)

/-- The full rows of a length, before they are cut off to a height. -/
theorem toNat_fullRows (length : UInt32) (pages : UInt64) :
    (length.toUInt64 / pageSize / pages).toNat = length.toNat / (4096 * pages.toNat) := by
  have page : pageSize.toNat = 4096 := by decide
  rw [UInt64.toNat_div, UInt64.toNat_div, UInt32.toNat_toUInt64, page, Nat.div_div_eq_div_mul]

theorem toNat_rowCount (length : UInt32) (pages : UInt64) :
    (rowCount length.toUInt64 pages).toNat = length.toNat / (4096 * pages.toNat) := by
  have short := Nat.div_le_self length.toNat (4096 * pages.toNat)
  rw [rowCount, UInt64.toNat_toUInt32, toNat_fullRows,
    Nat.mod_eq_of_lt (Nat.lt_of_le_of_lt short length.toNat_lt)]

end Container

/-! ### The fitted block -/

namespace Block

variable {block : Block} {container : Container} {length width height : UInt32}

/-- A block whose rows take whole pages has the size of its rows. -/
theorem size?_of_wholePages {pages : Nat} {bytes : ByteCount}
    (plane : block.format.isPage = false) (extent : block.extent = .area width height)
    (whole : width.toNat * block.format.bytesPerPixel.toNat = 4096 * pages)
    (product : height.toNat * (4096 * pages) = bytes.toNat) : block.size? = some bytes := by
  have few : block.format.bytesPerPixel.toNat ≤ 4096 :=
    Nat.le_of_dvd (by decide) (Container.bytesPerPixel_dvd block.format)
  have short : 4096 * pages < 4294967296 * 4096 := by
    rw [← whole]
    exact Nat.mul_lt_mul_of_lt_of_le width.toNat_lt few (by decide)
  have word : (UInt64.ofNat (4096 * pages)).toNat = 4096 * pages := by
    rw [UInt64.toNat_ofNat', Nat.mod_eq_of_lt (by omega)]
  have row : rowBytes? block.format width = some (UInt64.ofNat (4096 * pages)) := by
    have total : Word.mul? width.toUInt64 block.format.bytesPerPixel.toUInt64 =
        some (UInt64.ofNat (4096 * pages)) := by
      rw [Word.mul?_eq_some_iff, word, UInt32.toNat_toUInt64, UInt32.toNat_toUInt64, whole]
    have size : UInt64.size = 18446744073709551616 := rfl
    rw [rowBytes?, total, Option.bind_some, Page.roundUp?_eq_some_iff, word]
    omega
  have known : block.size? = (rowBytes? block.format width).bind (Word.mul? height.toUInt64) := by
    unfold size?
    rw [extent]
    cases format : block.format with
    | page =>
      rw [format] at plane
      cases plane
    | _ => rfl
  rw [known, row, Option.bind_some, Word.mul?_eq_some_iff, word, UInt32.toNat_toUInt64, product]

/-- The block with rows of the narrowest page width. -/
def narrowed (block : Block) (container : Container) (length : UInt32) : Block :=
  let pages := container.narrowest length.toUInt64
  { block with
    extent := .area (container.rowPixels pages) (Container.rowCount length.toUInt64 pages)
    stride := container.rowPixels pages }

/-- A two-dimensional fit gives a block a new area and stride, and nothing else. -/
theorem block_fitArea (fits : (block.fitArea length).outcome = .ok ()) :
    ∃ width height stride,
      (block.fitArea length).block = { block with extent := .area width height, stride } := by
  unfold fitArea at fits ⊢
  split at fits
  · cases fits
  · split at fits
    · cases fits
    · split at fits
      · cases fits
      · rename_i nonempty tall
        unfold fitContainer at fits ⊢
        simp only at fits ⊢
        split at fits
        · cases fits
        · rename_i narrow
          simp only [nonempty, tall, narrow, if_false]
          exact ⟨_, _, _, rfl⟩

/-- A block with a two-dimensional format is left as the two-dimensional fit leaves it. -/
theorem fitLength_of_plane (plane : block.format.isPage = false) :
    block.fitLength length =
      { block.fitArea length with
        outcome := (block.fitArea length).outcome.bind fun _ =>
          (block.fitArea length).block.checkSize length } := by
  unfold fitLength
  rw [if_neg (by simp [plane])]
  rcases block.fitArea length with ⟨fitted, notices, outcome⟩
  cases outcome with
  | error fault => rfl
  | ok => rfl

/-- A fit of a two-dimensional format succeeds only where the two-dimensional fit does, and ends
with the block of that. -/
theorem fitArea_of_fitLength (plane : block.format.isPage = false)
    (fits : (block.fitLength length).outcome = .ok ()) :
    (block.fitArea length).outcome = .ok () ∧
      (block.fitLength length).block = (block.fitArea length).block := by
  rw [fitLength_of_plane plane] at fits ⊢
  cases outcome : (block.fitArea length).outcome with
  | ok => exact ⟨rfl, rfl⟩
  | error fault =>
    simp only [outcome] at fits
    cases fits

/-- A fit that succeeds gives a block the extent of its format, and beside the stride changes
nothing else. -/
theorem block_fitLength (fits : (block.fitLength length).outcome = .ok ()) :
    (block.format.isPage = true →
      (block.fitLength length).block = { block with extent := .length length }) ∧
    (block.format.isPage = false → ∃ width height stride,
      (block.fitLength length).block = { block with extent := .area width height, stride }) := by
  constructor
  · intro page
    unfold fitLength
    rw [if_pos page]
  · intro plane
    rcases fitArea_of_fitLength plane fits with ⟨fitted, same⟩
    rw [same]
    exact block_fitArea fitted

theorem driverPtr_fitLength (fits : (block.fitLength length).outcome = .ok ()) :
    (block.fitLength length).block.driverPtr = block.driverPtr := by
  rcases block_fitLength fits with ⟨ofPage, ofPlane⟩
  cases page : block.format.isPage with
  | true => rw [ofPage page]
  | false =>
    rcases ofPlane page with ⟨width, height, stride, left⟩
    rw [left]

/-- Where the range of page widths is not empty, a fit takes the narrowest width. -/
theorem fitArea_of_le (extent : block.extent = .area width height) (nonempty : length ≠ 0)
    (reported : container = { format := block.format, width, height })
    (tall : 0 < container.height.toNat)
    (range : container.narrowest length.toUInt64 ≤ container.widest length.toUInt64) :
    block.fitArea length =
      { block := block.narrowed container length
        notices := container.widestNotices length.toUInt64 ++
          container.choiceNotices length.toUInt64
        outcome := .ok () } := by
  subst reported
  have tall : height ≠ 0 := by
    rintro rfl
    exact Nat.lt_irrefl 0 tall
  simp only [fitArea, extent, if_neg nonempty, if_neg tall, fitContainer,
    if_neg (UInt64.not_lt.mpr range), narrowed]

theorem fitLength_of_le (plane : block.format.isPage = false)
    (extent : block.extent = .area width height) (nonempty : length ≠ 0)
    (reported : container = { format := block.format, width, height })
    (tall : 0 < container.height.toNat)
    (range : container.narrowest length.toUInt64 ≤ container.widest length.toUInt64) :
    block.fitLength length =
      { block := block.narrowed container length
        notices := (block.fitArea length).notices
        outcome := (block.narrowed container length).checkSize length } := by
  rw [fitLength_of_plane plane, fitArea_of_le extent nonempty reported tall range]
  rfl

/-- Where the range of page widths is empty, a fit refuses the block with the range and leaves it as
it was. -/
theorem fitArea_of_lt (extent : block.extent = .area width height) (nonempty : length ≠ 0)
    (reported : container = { format := block.format, width, height })
    (tall : 0 < container.height.toNat)
    (range : container.widest length.toUInt64 < container.narrowest length.toUInt64) :
    block.fitArea length =
      { block
        notices := container.widestNotices length.toUInt64
        outcome := .error (.noPageWidth (container.narrowest length.toUInt64)
          (container.widest length.toUInt64)) } := by
  subst reported
  have tall : height ≠ 0 := by
    rintro rfl
    exact Nat.lt_irrefl 0 tall
  simp only [fitArea, extent, if_neg nonempty, if_neg tall, fitContainer, if_pos range]

theorem fitLength_of_lt (plane : block.format.isPage = false)
    (extent : block.extent = .area width height) (nonempty : length ≠ 0)
    (reported : container = { format := block.format, width, height })
    (tall : 0 < container.height.toNat)
    (range : container.widest length.toUInt64 < container.narrowest length.toUInt64) :
    block.fitLength length = block.fitArea length := by
  rw [fitLength_of_plane plane, fitArea_of_lt extent nonempty reported tall range]
  rfl

/-- A block with rows of the narrowest page width has the size of the full rows of the known
length. -/
theorem size?_narrowed (plane : block.format.isPage = false)
    (reported : container.format = block.format)
    (fits : 4096 * (container.narrowest length.toUInt64).toNat < UInt32.size) :
    let row := 4096 * (container.narrowest length.toUInt64).toNat
    ∃ bytes, (block.narrowed container length).size? = some bytes ∧
      bytes.toNat = length.toNat / row * row := by
  intro row
  have bound := length.toNat_lt
  have full : length.toNat / row * row ≤ length.toNat := Nat.div_mul_le_self _ _
  have whole := container.rowPixels_mul_bytesPerPixel fits
  have rows := Container.toNat_rowCount length (container.narrowest length.toUInt64)
  have word : (UInt64.ofNat (length.toNat / row * row)).toNat = length.toNat / row * row := by
    rw [UInt64.toNat_ofNat', Nat.mod_eq_of_lt (by omega)]
  refine ⟨UInt64.ofNat (length.toNat / row * row), ?_, word⟩
  have plane : (block.narrowed container length).format.isPage = false := plane
  apply size?_of_wholePages plane rfl
  · rw [← whole, reported]
    rfl
  · rw [rows, word]

/-- So it has the known length exactly where such rows divide it.  What they leave over is missing
in its size. -/
theorem checkSize_narrowed (plane : block.format.isPage = false)
    (reported : container.format = block.format)
    (fits : 4096 * (container.narrowest length.toUInt64).toNat < UInt32.size) :
    let row := 4096 * (container.narrowest length.toUInt64).toNat
    (block.narrowed container length).checkSize length =
      if row ∣ length.toNat then .ok ()
      else
        .error (.sizeDiffers length.toUInt64
          (UInt64.ofNat (length.toNat - length.toNat % row))) := by
  intro row
  rcases size?_narrowed plane reported fits with ⟨bytes, size, full⟩
  have parts := Nat.div_add_mod' length.toNat row
  have left : bytes.toNat = length.toNat - length.toNat % row :=
    full.trans (Nat.eq_sub_of_add_eq parts)
  unfold checkSize Block.size
  rw [size, Option.getD_some, ← left, UInt64.ofNat_toNat]
  split
  · rename_i same
    have same := congrArg UInt64.toNat same
    rw [full, UInt32.toNat_toUInt64] at same
    have divides : row ∣ length.toNat / row * row := Nat.dvd_mul_left _ _
    rw [same] at divides
    rw [if_pos divides]
  · rename_i differs
    rw [if_neg]
    intro divides
    apply differs
    rw [← UInt64.toNat_inj, UInt32.toNat_toUInt64, full, Nat.div_mul_cancel divides]

end Block

end TilerMapping
