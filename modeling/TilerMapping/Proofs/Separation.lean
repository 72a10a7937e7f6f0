/-
Module: TilerMapping.Proofs.Separation
Purpose: Which blocks may have no bytes, and which blocks of a mapped buffer share an address.
Main exports: Block.fitLength_zero, Inquiries.page_of_zero, totalLength_take_lt_iff,
  MappedBuffer.BackToBack.lt_iff, zero_length_only_of_page
-/
import TilerMapping.Proofs.Placement

namespace TilerMapping

/-!
A known length of zero is refused where the rows of a block are rebuilt from it.  A page block has
no rows and takes any length, also none.  Such a block is registered and placed like the others, and
the next block gets the same address.
-/

/-! ### Fits to no bytes -/

namespace Block

/-- A block is fitted to no bytes if it is a page block.  Any other is refused, for the length where
it is an area and for its extent where it is not. -/
theorem fitLength_zero (block : Block) :
    (block.fitLength 0).outcome =
      match block.format, block.extent with
      | .page, _ => .ok ()
      | _, .area _ _ => .error .zeroLength
      | _, .length _ => .error .notAnArea := by
  unfold fitLength
  cases format : block.format with
  | page => simp [ContainerFormat.isPage, checkSize, size, size?]
  | _ =>
    cases extent : block.extent with
    | area width height => simp [ContainerFormat.isPage, fitArea, extent]
    | length bytes => simp [ContainerFormat.isPage, fitArea, extent]

theorem fitLength_zero_eq_ok_iff {block : Block} :
    (block.fitLength 0).outcome = .ok () ↔ block.format = .page := by
  rw [fitLength_zero]
  cases block.format with
  | page => simp
  | _ => cases block.extent <;> simp

/-- A fit that succeeds keeps the format. -/
theorem format_fitLength {block : Block} {length : UInt32}
    (fits : (block.fitLength length).outcome = .ok ()) :
    (block.fitLength length).block.format = block.format := by
  rcases block_fitLength fits with ⟨ofPage, ofPlane⟩
  cases page : block.format.isPage with
  | true => rw [ofPage page]
  | false =>
    rcases ofPlane page with ⟨width, height, stride, left⟩
    rw [left]

end Block

/-- Of the blocks that are resolved, those with a length of zero are page blocks. -/
theorem Inquiries.page_of_zero {addresses : AddressMap} {index : Nat}
    {requests : List (DevicePtr × UInt32)} {events : List Event} {blocks : List Block}
    {fault : Option Fault} {place : Nat} {block : Block}
    (inquiries : Inquiries addresses index requests events blocks fault)
    (resolved : blocks[place]? = some block)
    (zero : (requests.map Prod.snd)[place]? = some 0) : block.format = .page := by
  induction inquiries generalizing place with
  | finished => cases resolved
  | stopped => cases resolved
  | resolved inquiry _ ih =>
    cases place with
    | succ place => exact ih resolved zero
    | zero =>
      cases resolved
      cases zero
      cases inquiry with
      | resolved _ _ fits =>
        rw [Block.format_fitLength fits]
        exact Block.fitLength_zero_eq_ok_iff.mp fits

/-! ### Addresses of their own -/

/-- The sum of lengths grows from one index to another exactly where a length from the first one on
and before the other is not zero. -/
theorem totalLength_take_lt_iff {lengths : List UInt32} {index other : Nat}
    (less : index ≤ other) :
    totalLength (lengths.take index) < totalLength (lengths.take other) ↔
      ∃ between length, index ≤ between ∧ between < other ∧
        lengths[between]? = some length ∧ length ≠ 0 := by
  rcases Nat.exists_eq_add_of_le less with ⟨extra, rfl⟩
  induction extra with
  | zero =>
    simp only [Nat.add_zero, Nat.lt_irrefl, false_iff]
    rintro ⟨between, length, after, before, _⟩
    omega
  | succ extra ih =>
    have grown := totalLength_take_le lengths (Nat.le_add_right index extra)
    -- The one index that is new is the last one before the end.
    have split : (∃ between length, index ≤ between ∧ between < index + extra + 1 ∧
          lengths[between]? = some length ∧ length ≠ 0) ↔
        (∃ between length, index ≤ between ∧ between < index + extra ∧
          lengths[between]? = some length ∧ length ≠ 0) ∨
        ∃ length, lengths[index + extra]? = some length ∧ length ≠ 0 := by
      constructor
      · rintro ⟨between, length, after, before, known, nonzero⟩
        rcases Nat.lt_succ_iff_lt_or_eq.mp before with earlier | rfl
        · exact .inl ⟨between, length, after, earlier, known, nonzero⟩
        · exact .inr ⟨length, known, nonzero⟩
      · rintro (⟨between, length, after, before, rest⟩ | ⟨length, rest⟩)
        · exact ⟨between, length, after, Nat.lt_succ_of_lt before, rest⟩
        · exact ⟨index + extra, length, Nat.le_add_right _ _, Nat.lt_succ_self _, rest⟩
    rw [← Nat.add_assoc, split, ← ih (Nat.le_add_right _ _)]
    cases known : lengths[index + extra]? with
    | none =>
      have short : lengths.length ≤ index + extra := List.getElem?_eq_none_iff.mp known
      rw [List.take_of_length_le short, List.take_of_length_le (Nat.le_succ_of_le short)]
      simp
    | some length =>
      have nonzero : length ≠ 0 ↔ length.toNat ≠ 0 := by
        rw [Ne, ← UInt32.toNat_inj, UInt32.toNat_zero]
      rw [totalLength_take_succ known]
      simp only [Option.some.injEq, exists_eq_left', nonzero]
      omega

namespace MappedBuffer.BackToBack

variable {mapped : MappedBuffer} {lengths : List UInt32} {index other : Nat}
  {first second : Address}

/-- A block with an address has an index, and lies behind the lengths before it. -/
theorem toNat_blockAddress (layout : mapped.BackToBack lengths)
    (here : mapped.blockAddress? index = some first) :
    first.toNat = mapped.address.toNat + totalLength (lengths.take index) := by
  have inside : index < lengths.length := by
    apply Nat.lt_of_not_le
    intro outside
    rw [layout.beyond index outside] at here
    cases here
  rcases layout.placed index inside with ⟨address, placed, distance⟩
  rw [here, Option.some.injEq] at placed
  rw [placed, distance]

/-- No block lies before an earlier one, and it lies behind it exactly where a block from the
earlier one on has bytes. -/
theorem lt_iff (layout : mapped.BackToBack lengths) (less : index ≤ other)
    (here : mapped.blockAddress? index = some first)
    (there : mapped.blockAddress? other = some second) :
    first ≤ second ∧
      (first < second ↔ ∃ between length, index ≤ between ∧ between < other ∧
        lengths[between]? = some length ∧ length ≠ 0) := by
  have grown := totalLength_take_le lengths less
  rw [← totalLength_take_lt_iff less, UInt64.le_iff_toNat_le, UInt64.lt_iff_toNat_lt,
    layout.toNat_blockAddress here, layout.toNat_blockAddress there]
  omega

/-- A block has no bytes exactly where its length is zero. -/
theorem size_eq_zero_iff (layout : mapped.BackToBack lengths) {block : Block}
    (known : mapped.blocks[index]? = some block) :
    block.size = 0 ↔ lengths[index]? = some 0 := by
  rcases layout.lookup known with ⟨length, _, given, size, _⟩
  rw [size, given, Option.some.injEq, ← UInt64.toNat_inj, ← UInt32.toNat_inj,
    UInt32.toNat_toUInt64, UInt64.toNat_zero, UInt32.toNat_zero]

end MappedBuffer.BackToBack

/-! ### Remapped buffers -/

/-- With a driver that only names buffers, the blocks of a successful remap are those resolved,
placed from its address on. -/
theorem RemapSession.placed_of_ok {σ : Type} {driver : Driver σ} {world : World σ}
    {addresses : AddressMap} {requests : List (DevicePtr × UInt32)} {events : List Event}
    {mapped : MappedBuffer} (session : RemapSession addresses requests events (.ok mapped))
    (answers : world.Answers driver events) (names : NamesOnly driver) :
    ∃ asked resolved, Inquiries addresses 0 requests asked resolved none ∧
      placeBlocks mapped.address resolved = .ok mapped.blocks := by
  rcases session.of_ok with
    ⟨asked, resolved, _, reply, _, inquiries, _, dealt, _, _, _, placement⟩
  have registered : ⟨.call (.register { blocks := resolved }), .ok reply⟩ ∈ events := by
    rw [dealt]
    simp
  rw [names.blocks_eq answers registered] at placement
  exact ⟨asked, resolved, inquiries, placement⟩

/-- A length of zero fits page blocks alone.  So where a remap succeeds, the blocks that were
registered with no bytes are page blocks.  With a driver that only names buffers, these blocks and
no others have no bytes in the mapped buffer, no block lies before an earlier one, and two blocks
have the same address exactly where the lengths from the first one on and before the second are
zero. -/
theorem zero_length_only_of_page {σ : Type} (driver : Driver σ) (world : World σ)
    (addresses : AddressMap) (devicePtrs : List DevicePtr) (lengths : List UInt32)
    (mapped : MappedBuffer)
    (ok : ((remap addresses devicePtrs lengths).run driver world).value = .ok mapped) :
    (∀ block : Block, (block.fitLength 0).outcome = .ok () ↔ block.format = .page) ∧
    (∃ registered : List Block,
      .register { id := 0, blocks := registered } ∈
        ((remap addresses devicePtrs lengths).run driver world).calls ∧
      registered.length = lengths.length ∧
      ∀ (index : Nat) (block : Block), registered[index]? = some block →
        lengths[index]? = some 0 → block.format = .page) ∧
    (NamesOnly driver →
      (∀ (index : Nat) (block : Block), mapped.blocks[index]? = some block →
        (block.size = 0 ↔ lengths[index]? = some 0) ∧
        (block.size = 0 → block.format = .page)) ∧
      ∀ (index other : Nat) (first second : Address), index ≤ other →
        mapped.blockAddress? index = some first → mapped.blockAddress? other = some second →
          first ≤ second ∧
          (first < second ↔ ∃ between length, index ≤ between ∧ between < other ∧
            lengths[between]? = some length ∧ length ≠ 0)) := by
  obtain ⟨same, session⟩ := remapSession_of_ok ok
  have given : (devicePtrs.zip lengths).map Prod.snd = lengths :=
    List.map_snd_zip (Nat.le_of_eq same)
  refine ⟨fun _ => Block.fitLength_zero_eq_ok_iff, ?registered, ?mapped⟩
  case registered =>
    rcases session.of_ok with ⟨asked, resolved, size, reply, _, inquiries, _, events, _⟩
    refine ⟨resolved, ?_, ?_, ?_⟩
    · rw [Run.calls_eq_dealings, events]
      simp
    · rw [inquiries.length_eq rfl, List.length_zip, same, Nat.min_self]
    · intro index block known zero
      apply inquiries.page_of_zero known
      rw [given]
      exact zero
  case mapped =>
    intro names
    rcases session.placed_of_ok (Program.answers_run _ world) names with
      ⟨asked, resolved, inquiries, placement⟩
    have layout : mapped.BackToBack lengths := by
      apply MappedBuffer.backToBack_of_placement _ placement
      rw [inquiries.sizes_eq rfl, given]
    refine ⟨fun index block known => ⟨layout.size_eq_zero_iff known, fun empty => ?_⟩,
      fun index other first second less here there => layout.lt_iff less here there⟩
    have zero := (layout.size_eq_zero_iff known).mp empty
    rw [getElem?_placeBlocks_eq_map placement] at known
    rcases Option.map_eq_some_iff.mp known with ⟨found, there, rfl⟩
    have page : found.format = .page := inquiries.page_of_zero there (by rw [given, zero])
    exact page

/-- A page of a mapped buffer that has no bytes shares its address with the page behind it. -/
theorem zero_length_only_of_page_twoPages :
    let driver : MemoryDriver :=
      { known := (({} : Table DriverPtr (Except IoFault Block)).insert 0x60001000
          (.ok (.page 0x60001000 4096))).insert 0x60002000
          (.ok (.page 0x60002000 4096)) }
    let ran := (remap AddressMap.identity [0x60001000, 0x60002000] [0, 4096]).run
      MemoryDriver.answer { driver }
    ∃ mapped, ran.value = .ok mapped ∧
      (∀ block, mapped.blocks[0]? = some block → block.size = 0) ∧
      (∀ first second, mapped.blockAddress? 0 = some first →
        mapped.blockAddress? 1 = some second → ¬ first < second) ∧
      mapped.blockAddress? 0 = some 0x40000000 ∧ mapped.blockAddress? 1 = some 0x40000000 := by
  intro driver ran
  let mapped : MappedBuffer :=
    { region := ⟨0x40000000, 4096⟩
      offset := 0
      buffer :=
        { id := 0x100000
          blocks := [{ Block.page 0x60001000 0 with address := some 0x40000000 },
            { Block.page 0x60002000 4096 with address := some 0x40000000 }] } }
  have ok : ran.value = .ok mapped :=
    Outcome.mapped.inj (Outcome.mapped?_eq_some_iff.mp (by decide +kernel))
  obtain ⟨_, _, apart⟩ := zero_length_only_of_page MemoryDriver.answer { driver }
    AddressMap.identity [0x60001000, 0x60002000] [0, 4096] mapped ok
  obtain ⟨sizes, addresses⟩ := apart MemoryDriver.namesOnly
  refine ⟨mapped, ok, fun block known => (sizes 0 block known).1.mpr rfl, ?_, rfl, rfl⟩
  intro first second here there less
  rcases (addresses 0 1 first second (Nat.zero_le 1) here there).2.mp less with
    ⟨between, length, _, before, given, nonzero⟩
  obtain rfl : between = 0 := by omega
  exact nonzero (Option.some.inj given).symm

/-- A length of zero is not refused for every block: a page without bytes is remapped, and the page
behind it has the same address. -/
theorem zero_length_remapped :
    ¬ ∀ (driver : MemoryDriver) (devicePtrs : List DevicePtr) (lengths : List UInt32)
      (mapped : MappedBuffer),
      ((remap AddressMap.identity devicePtrs lengths).run MemoryDriver.answer { driver }).value =
        .ok mapped →
      (∀ length ∈ lengths, length ≠ 0) ∨ (∀ block ∈ mapped.blocks, block.size ≠ 0) ∨
        ∀ index first second, mapped.blockAddress? index = some first →
          mapped.blockAddress? (index + 1) = some second → first < second := by
  intro refused
  let driver : MemoryDriver :=
    { known := (({} : Table DriverPtr (Except IoFault Block)).insert 0x60001000
        (.ok (.page 0x60001000 0))).insert 0x60002000 (.ok (.page 0x60002000 0)) }
  let mapped : MappedBuffer :=
    { region := ⟨0x40000000, 4096⟩
      offset := 0
      buffer :=
        { id := 0x100000
          blocks := [{ Block.page 0x60001000 0 with address := some 0x40000000 },
            { Block.page 0x60002000 4096 with address := some 0x40000000 }] } }
  have ok : ((remap AddressMap.identity [0x60001000, 0x60002000] [0, 4096]).run
      MemoryDriver.answer { driver }).value = .ok mapped :=
    Outcome.mapped.inj (Outcome.mapped?_eq_some_iff.mp (by decide +kernel))
  rcases refused driver _ _ mapped ok with nonzero | filled | apart
  · exact nonzero 0 (by decide) rfl
  · exact filled _ List.mem_cons_self rfl
  · exact absurd (apart 0 0x40000000 0x40000000 rfl rfl) (by decide)

end TilerMapping
