/-
Module: TilerMapping.Proofs.Coverage
Purpose: Which bytes the blocks of a mapped buffer take, and when they lie in the region mapped.
Main exports: Block.Occupies, Region.Spans, placeBlocks_occupies, RemapSession.of_ok,
  RemapSession.placement, mapping_spans_blocks_iff
-/
import TilerMapping.Proofs.Cleanup
import TilerMapping.Proofs.Request

namespace TilerMapping

/-!
The blocks of a mapped buffer take the bytes from its address on, back to back.  The address lies
behind the start of the region by the offset of the first block in its page, but the driver is
asked for the bytes of the blocks alone.  So the last blocks run over the end of the region unless
the rounding of the region to whole pages makes up for the offset.
-/

/-- The byte at an address belongs to a placed block. -/
def Block.Occupies (block : Block) (byte : Nat) : Prop :=
  ∃ address, block.address = some address ∧
    address.toNat ≤ byte ∧ byte < address.toNat + block.size.toNat

/-- The byte at an address belongs to a region, which is mapped in whole pages. -/
def Region.Spans (region : Region) (byte : Nat) : Prop :=
  region.base.toNat ≤ byte ∧ byte < region.base.toNat + (region.len.toNat + 4095) / 4096 * 4096

/-- The bytes asked for and the region answered, where an event is the mapping of a buffer. -/
def Event.mapping? : Event → Option (ByteCount × Region)
  | ⟨.call (.map size _), .ok region⟩ => some (size, region)
  | _ => none

/-! ### Placed blocks -/

/-- Placed blocks take every byte from the first address up to the sum of their sizes, and no
other. -/
theorem placeBlocks_occupies {first : Address} {blocks placed : List Block}
    (placement : placeBlocks first blocks = .ok placed) (byte : Nat) :
    (∃ block ∈ placed, block.Occupies byte) ↔
      first.toNat ≤ byte ∧ byte < first.toNat + Buffer.bytes blocks := by
  induction blocks generalizing first placed with
  | nil =>
    cases placement
    simp
  | cons block rest ih =>
    rcases placeBlocks_cons_eq_ok_iff.mp placement with ⟨next, others, added, laid, rfl⟩
    have sum := Word.add?_eq_some_iff.mp added
    have head : ({ block with address := some first } : Block).Occupies byte ↔
        first.toNat ≤ byte ∧ byte < first.toNat + block.size.toNat := by
      constructor
      · rintro ⟨address, same, bounds⟩
        cases same
        exact bounds
      · exact fun bounds => ⟨first, rfl, bounds⟩
    simp only [List.mem_cons, exists_eq_or_imp]
    rw [head, ih laid, Buffer.bytes_cons]
    omega

/-- Blocks keep their sizes when they are placed. -/
theorem bytes_placeBlocks {first : Address} {blocks placed : List Block}
    (placement : placeBlocks first blocks = .ok placed) :
    Buffer.bytes placed = Buffer.bytes blocks := by
  induction blocks generalizing first placed with
  | nil =>
    cases placement
    rfl
  | cons block rest ih =>
    rcases placeBlocks_cons_eq_ok_iff.mp placement with ⟨next, others, _, laid, rfl⟩
    exact congrArg (block.size.toNat + ·) (ih laid)

/-! ### The mapping of a session -/

/-- A session that succeeds has resolved all blocks, has registered them and mapped the buffer under
the name that was answered, and has recorded that under the address from which on the blocks of the
registered buffer are placed. -/
theorem RemapSession.of_ok {addresses : AddressMap} {requests : List (DevicePtr × UInt32)}
    {events : List Event} {mapped : MappedBuffer}
    (session : RemapSession addresses requests events (.ok mapped)) :
    ∃ asked resolved size reply previous,
      Inquiries addresses 0 requests asked resolved none ∧
      Buffer.sumSizes? 0 resolved = some size ∧
      events = ⟨.call .openSession, .ok ()⟩ :: (asked ++
        [⟨.call (.register { blocks := resolved }), .ok reply⟩,
          ⟨.call (.map size reply.id), .ok mapped.region⟩,
          ⟨.record mapped.address reply.id, .ok previous⟩, ⟨.call .closeSession, ()⟩]) ∧
      mapped.id = reply.id ∧
      (∃ block rest, reply.blocks = block :: rest ∧
        mapped.offset = Page.offset block.driverPtr.toUInt64) ∧
      Word.add? mapped.region.base mapped.offset = some mapped.address ∧
      placeBlocks mapped.address reply.blocks = .ok mapped.blocks := by
  cases session with
  | held dialogue =>
    cases dialogue with
    | @named asked _ resolved reply size _ inquiries summed _ attempt =>
      cases attempt with
      | @placed _ block rest _ _ previous blocks added placement =>
        have sum := Word.eq_of_add?_eq_some added
        subst sum
        exact ⟨asked, resolved, size, reply, previous, inquiries, summed,
          congrArg (_ :: ·) (List.append_assoc _ _ _), rfl, ⟨block, rest, blocks, rfl⟩, added,
          placement⟩

/-- So it has mapped as many bytes as the lengths make together. -/
theorem RemapSession.placement {addresses : AddressMap} {requests : List (DevicePtr × UInt32)}
    {events : List Event} {mapped : MappedBuffer}
    (session : RemapSession addresses requests events (.ok mapped)) :
    ∃ resolved size reply,
      ⟨.call (.register { blocks := resolved }), .ok reply⟩ ∈ events ∧
      ⟨.call (.map size reply.id), .ok mapped.region⟩ ∈ events ∧
      Buffer.bytes resolved = totalLength (requests.map Prod.snd) ∧
      size.toNat = totalLength (requests.map Prod.snd) ∧
      Word.add? mapped.region.base mapped.offset = some mapped.address ∧
      placeBlocks mapped.address reply.blocks = .ok mapped.blocks := by
  rcases session.of_ok with
    ⟨asked, resolved, size, reply, _, inquiries, summed, rfl, _, _, added, placement⟩
  have bytes := inquiries.bytes_eq rfl
  refine ⟨resolved, size, reply, by simp, by simp, bytes, ?_, added, placement⟩
  rw [Buffer.toNat_sumSizes? summed, bytes, UInt64.toNat_zero, Nat.zero_add]

/-- A driver that keeps the blocks of a buffer has kept those of each registration. -/
theorem Holdings.blocks_of_honest {holdings : Holdings} {events : List Event}
    {asked reply : Buffer} (honest : Follows Honest holdings events)
    (registered : ⟨.call (.register asked), .ok reply⟩ ∈ events) : reply.blocks = asked.blocks := by
  induction events generalizing holdings with
  | nil => cases registered
  | cons event rest ih =>
    rcases List.mem_cons.mp registered with rfl | later
    · exact honest.1
    · exact ih honest.2 later

/-! ### Blocks and region -/

/-- The blocks of a successful remap take the bytes from its address on, as many as they have.  With
a driver that maps exactly the bytes asked for, they lie in the region mapped if and only if there
are none, or they still fit when the offset of the first block is added.  With a driver that keeps
the blocks it registers, they have the bytes that the caller gave. -/
theorem mapping_spans_blocks_iff {σ : Type} (driver : Driver σ) (world : World σ)
    (addresses : AddressMap) (devicePtrs : List DevicePtr) (lengths : List UInt32)
    (mapped : MappedBuffer)
    (ok : ((remap addresses devicePtrs lengths).run driver world).value = .ok mapped)
    (whole : ∀ mapping ∈ ((remap addresses devicePtrs lengths).run driver world).trace.filterMap
      Event.mapping?, mapping.2.len = mapping.1) :
    let bytes := Buffer.bytes mapped.blocks
    mapped.region.len.toNat = totalLength lengths ∧
    (∀ byte, (∃ block ∈ mapped.blocks, block.Occupies byte) ↔
      mapped.region.base.toNat + mapped.offset.toNat ≤ byte ∧
        byte < mapped.region.base.toNat + mapped.offset.toNat + bytes) ∧
    ((∀ block ∈ mapped.blocks, ∀ byte, block.Occupies byte → mapped.region.Spans byte) ↔
      bytes = 0 ∨ mapped.offset.toNat + bytes ≤ (totalLength lengths + 4095) / 4096 * 4096) ∧
    ∀ holdings, Holdings.Follows Holdings.Honest holdings
      ((remap addresses devicePtrs lengths).run driver world).trace →
        bytes = totalLength lengths := by
  intro bytes
  have ⟨same, session⟩ := remapSession_of_ok ok
  have ⟨resolved, size, reply, registers, maps, known, requested, added, placement⟩ :=
    session.placement
  rw [List.map_snd_zip (Nat.le_of_eq same)] at known requested
  have sum := Word.add?_eq_some_iff.mp added
  have len : mapped.region.len.toNat = totalLength lengths := by
    rw [← requested, whole (size, mapped.region) ?_]
    exact List.mem_filterMap.mpr ⟨_, (List.mem_filter.mp maps).1, rfl⟩
  have occupied (byte : Nat) : (∃ block ∈ mapped.blocks, block.Occupies byte) ↔
      mapped.region.base.toNat + mapped.offset.toNat ≤ byte ∧
        byte < mapped.region.base.toNat + mapped.offset.toNat + bytes := by
    rw [placeBlocks_occupies placement, ← bytes_placeBlocks placement, sum]
  refine ⟨len, occupied, ?spans, ?honest⟩
  case spans =>
    unfold Region.Spans
    rw [len]
    constructor
    · intro spanned
      by_cases empty : bytes = 0
      · exact .inl empty
      · -- The last byte of the last block is the farthest one.
        have ⟨block, member, last⟩ := (occupied
          (mapped.region.base.toNat + mapped.offset.toNat + bytes - 1)).mpr (by omega)
        have within := spanned block member _ last
        omega
    · intro fits block member byte taken
      have bounds := (occupied byte).mp ⟨block, member, taken⟩
      omega
  case honest =>
    intro holdings honest
    have kept := Holdings.blocks_of_honest honest (List.mem_filter.mp registers).1
    show Buffer.bytes mapped.blocks = _
    rw [bytes_placeBlocks placement, kept, known]

/-- A block at the start of a page lies in the region that is mapped for it. -/
theorem mapping_spans_blocks_iff_aligned :
    let driver : MemoryDriver :=
      { known := ({} : Table DriverPtr (Except IoFault Block)).insert 0x60001000
          (.ok (.page 0x60001000 5000)) }
    ∃ mapped, ((remap AddressMap.identity [0x60001000] [5000]).run MemoryDriver.answer
        { driver }).value = .ok mapped ∧
      ∀ block ∈ mapped.blocks, ∀ byte, block.Occupies byte → mapped.region.Spans byte := by
  intro driver
  let mapped : MappedBuffer :=
    { region := ⟨0x40000000, 5000⟩
      offset := 0
      buffer :=
        { id := 0x100000
          blocks := [{ Block.page 0x60001000 5000 with address := some 0x40000000 }] } }
  have ok : ((remap AddressMap.identity [0x60001000] [5000]).run MemoryDriver.answer
      { driver }).value = .ok mapped :=
    Outcome.mapped.inj (Outcome.mapped?_eq_some_iff.mp (by decide +kernel))
  have ⟨_, _, covered, _⟩ := mapping_spans_blocks_iff MemoryDriver.answer { driver }
    AddressMap.identity [0x60001000] [5000] mapped ok (by decide +kernel)
  exact ⟨mapped, ok, covered.mpr (.inr (by decide))⟩

/-- A block in the middle of a page runs over the end of the region that is mapped for it, which
starts on a page boundary and has exactly the bytes asked for. -/
theorem mapping_misses_block :
    ¬ ∀ (σ : Type) (driver : Driver σ) (world : World σ) (addresses : AddressMap)
      (devicePtrs : List DevicePtr) (lengths : List UInt32) (mapped : MappedBuffer),
      ((remap addresses devicePtrs lengths).run driver world).value = .ok mapped →
      (∀ mapping ∈ ((remap addresses devicePtrs lengths).run driver world).trace.filterMap
        Event.mapping?, Page.offset mapping.2.base = 0 ∧ mapping.2.len = mapping.1) →
      ∀ block ∈ mapped.blocks, ∀ byte, block.Occupies byte → mapped.region.Spans byte := by
  intro covers
  let block : Block := { Block.page 0x60001234 4096 with address := some 0x40000234 }
  let mapped : MappedBuffer :=
    { region := ⟨0x40000000, 4096⟩
      offset := 0x234
      buffer := { id := 0x100000, blocks := [block] } }
  have ok : ((remap AddressMap.identity [0x60001234] [4096]).run MemoryDriver.answer
      { driver := MemoryDriver.onePage }).value = .ok mapped :=
    Outcome.mapped.inj (Outcome.mapped?_eq_some_iff.mp (by decide +kernel))
  have spanned := covers MemoryDriver MemoryDriver.answer { driver := MemoryDriver.onePage }
    AddressMap.identity [0x60001234] [4096] mapped ok (by decide +kernel) block List.mem_cons_self
  have last : block.Occupies 0x40001000 := ⟨0x40000234, rfl, by decide, by decide⟩
  exact absurd (spanned _ last).2 (by decide)

end TilerMapping
