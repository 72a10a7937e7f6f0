/-
Module: TilerMapping.Proofs.Placement
Purpose: Where the blocks of a mapped buffer lie, and what the driver was given for them.
Main exports: NamesOnly, MappedBuffer.BackToBack, getElem?_placeBlocks,
  MappedBuffer.backToBack_of_placement, MappedBuffer.BackToBack.pairwise_disjoint,
  remapped_blocks_back_to_back
-/
import TilerMapping.Proofs.Coverage
import TilerMapping.Proofs.Fitting
import TilerMapping.Proofs.Verdicts

namespace TilerMapping

/-!
The sizes of the blocks are added up twice: once while the blocks are queried, for the bytes to map,
and once while they are placed, for their addresses.  Both sums are those of the lengths that the
caller gave, as each block was resolved to its length and a driver that only names a buffer leaves
its blocks alone.  So a client that adds up its own lengths finds every block.
-/

/-- Registering changes nothing of a buffer but its name. -/
def NamesOnly {σ : Type} (driver : Driver σ) : Prop :=
  ∀ (buffer : Buffer) (state : σ) (reply : Buffer),
    (driver (.register buffer) state).1 = .ok reply → reply = { buffer with id := reply.id }

/-- A registration that such a driver answers keeps the blocks. -/
theorem NamesOnly.blocks_eq {σ : Type} {driver : Driver σ} {world : World σ} {events : List Event}
    {asked reply : Buffer} (names : NamesOnly driver) (answers : world.Answers driver events)
    (registered : ⟨.call (.register asked), .ok reply⟩ ∈ events) : reply.blocks = asked.blocks := by
  rcases answers.of_mem registered with ⟨reached, said⟩
  have named : reply = { asked with id := reply.id } := names _ _ _ said.symm
  rw [named]

/-- The blocks of a mapped buffer lie back to back from its address on, and have the lengths given
for them, in this order. -/
structure MappedBuffer.BackToBack (mapped : MappedBuffer) (lengths : List UInt32) : Prop where
  sizes : mapped.blocks.map Block.size = lengths.map UInt32.toUInt64
  placed : ∀ index < lengths.length, ∃ address, mapped.blockAddress? index = some address ∧
    address.toNat = mapped.address.toNat + totalLength (lengths.take index)
  beyond : ∀ index, lengths.length ≤ index → mapped.blockAddress? index = none
  total : mapped.size.toNat = totalLength lengths

/-! ### Placed blocks -/

/-- Each block keeps its index when blocks are placed, and lies behind those before it. -/
theorem getElem?_placeBlocks {first : Address} {blocks placed : List Block} {index : Nat}
    {block : Block} (placement : placeBlocks first blocks = .ok placed)
    (known : blocks[index]? = some block) :
    ∃ address, placed[index]? = some { block with address := some address } ∧
      address.toNat = first.toNat + Buffer.bytes (blocks.take index) := by
  induction blocks generalizing first placed index with
  | nil => cases known
  | cons head rest ih =>
    rcases placeBlocks_cons_eq_ok_iff.mp placement with ⟨next, others, added, laid, rfl⟩
    cases index with
    | zero =>
      cases known
      exact ⟨first, rfl, rfl⟩
    | succ index =>
      rcases ih laid known with ⟨address, placed, distance⟩
      refine ⟨address, placed, ?_⟩
      rw [distance, List.take_succ_cons, Buffer.bytes_cons, ← Word.add?_eq_some_iff.mp added,
        Nat.add_assoc]

/-- Placing blocks does not change their sizes. -/
theorem map_size?_placeBlocks {first : Address} {blocks placed : List Block}
    (placement : placeBlocks first blocks = .ok placed) :
    placed.map Block.size? = blocks.map Block.size? := by
  induction blocks generalizing first placed with
  | nil =>
    cases placement
    rfl
  | cons block rest ih =>
    rcases placeBlocks_cons_eq_ok_iff.mp placement with ⟨next, others, _, laid, rfl⟩
    exact congrArg (block.size? :: ·) (ih laid)

/-- Placing blocks changes nothing of them but their addresses. -/
theorem getElem?_placeBlocks_eq_map {first : Address} {blocks placed : List Block} {index : Nat}
    (placement : placeBlocks first blocks = .ok placed) :
    placed[index]? = blocks[index]?.map fun block : Block =>
      { block with address := placed[index]?.bind (·.address) } := by
  cases known : blocks[index]? with
  | none =>
    have count := congrArg List.length (map_size?_placeBlocks placement)
    simp only [List.length_map] at count
    rw [List.getElem?_eq_none_iff, ← count] at known
    rw [List.getElem?_eq_none known]
    rfl
  | some block =>
    rcases getElem?_placeBlocks placement known with ⟨address, kept, _⟩
    rw [kept]
    rfl

namespace MappedBuffer

variable {mapped : MappedBuffer} {lengths : List UInt32} {blocks : List Block}

/-- Blocks that are placed from the address of their buffer on lie back to back. -/
theorem backToBack_of_placement
    (sizes : blocks.map Block.size? = lengths.map fun length => some length.toUInt64)
    (placement : placeBlocks mapped.address blocks = .ok mapped.blocks) :
    mapped.BackToBack lengths := by
  have kept := (map_size?_placeBlocks placement).trans sizes
  have count : mapped.blocks.length = lengths.length := by
    simpa using congrArg List.length kept
  constructor
  case sizes =>
    have known := congrArg (List.map fun size => size.getD Word.largest) kept
    rwa [List.map_map, List.map_map] at known
  case placed =>
    intro index inside
    have short : index < blocks.length := by
      have same := congrArg List.length sizes
      simp only [List.length_map] at same
      omega
    rcases getElem?_placeBlocks placement (List.getElem?_eq_getElem short) with
      ⟨address, placed, distance⟩
    have before : Buffer.bytes (blocks.take index) = totalLength (lengths.take index) := by
      apply Buffer.bytes_of_lengths
      rw [List.map_take, sizes, ← List.map_take]
    refine ⟨address, ?_, by rw [distance, before]⟩
    unfold blockAddress?
    rw [placed]
    rfl
  case beyond =>
    intro index outside
    unfold blockAddress?
    rw [List.getElem?_eq_none (by omega), Option.bind_none]
  case total =>
    have room := placeBlocks_eq_ok_iff.mp ⟨_, placement⟩
    rw [Buffer.bytes_of_lengths sizes] at room
    have ⟨sum, summed, total⟩ := @Buffer.sumSizes?_of_lengths mapped.blocks lengths 0 kept
      (by rw [UInt64.toNat_zero]; omega)
    rw [UInt64.toNat_zero, Nat.zero_add] at total
    unfold size
    rw [Buffer.totalSize_of_sumSizes? summed, total]

namespace BackToBack

variable {index : Nat} {block : Block}

theorem length_eq (layout : mapped.BackToBack lengths) : mapped.blocks.length = lengths.length := by
  simpa using congrArg List.length layout.sizes

/-- A block has the length at its index, and lies behind the lengths before it. -/
theorem lookup (layout : mapped.BackToBack lengths)
    (known : mapped.blocks[index]? = some block) :
    ∃ length address, lengths[index]? = some length ∧ block.size = length.toUInt64 ∧
      block.address = some address ∧
      address.toNat = mapped.address.toNat + totalLength (lengths.take index) := by
  have size := congrArg (·[index]?) layout.sizes
  simp only [List.getElem?_map, known, Option.map_some] at size
  cases given : lengths[index]? with
  | none =>
    rw [given] at size
    cases size
  | some length =>
    rw [given, Option.map_some, Option.some.injEq] at size
    have inside : index < lengths.length := (List.getElem?_eq_some_iff.mp given).1
    rcases layout.placed index inside with ⟨address, placed, distance⟩
    unfold blockAddress? at placed
    rw [known, Option.bind_some] at placed
    exact ⟨length, address, rfl, size, placed, distance⟩

/-- A block takes the bytes of its length. -/
theorem occupies_iff (layout : mapped.BackToBack lengths)
    (known : mapped.blocks[index]? = some block) (byte : Nat) :
    block.Occupies byte ↔
      mapped.address.toNat + totalLength (lengths.take index) ≤ byte ∧
        byte < mapped.address.toNat + totalLength (lengths.take (index + 1)) := by
  rcases layout.lookup known with ⟨length, address, given, size, placed, distance⟩
  unfold Block.Occupies
  rw [totalLength_take_succ given, placed]
  simp only [Option.some.injEq, exists_eq_left', size, UInt32.toNat_toUInt64]
  omega

/-- The next block starts where a block ends. -/
theorem adjacent (layout : mapped.BackToBack lengths) {first second : Address}
    (known : mapped.blocks[index]? = some block) (here : mapped.blockAddress? index = some first)
    (next : mapped.blockAddress? (index + 1) = some second) :
    second.toNat = first.toNat + block.size.toNat := by
  rcases layout.lookup known with ⟨length, address, given, size, placed, distance⟩
  have inside : index + 1 < lengths.length := by
    apply Nat.lt_of_not_le
    intro outside
    rw [layout.beyond _ outside] at next
    cases next
  rcases layout.placed _ inside with ⟨_, otherPlaced, otherDistance⟩
  rw [next, Option.some.injEq] at otherPlaced
  unfold blockAddress? at here
  rw [known, Option.bind_some, placed, Option.some.injEq] at here
  subst otherPlaced here
  rw [otherDistance, totalLength_take_succ given, distance, size, UInt32.toNat_toUInt64,
    Nat.add_assoc]

/-- No byte belongs to two blocks. -/
theorem pairwise_disjoint (layout : mapped.BackToBack lengths) :
    mapped.blocks.Pairwise fun first second =>
      ∀ byte, ¬ (first.Occupies byte ∧ second.Occupies byte) := by
  rw [List.pairwise_iff_getElem]
  intro index other short long less byte ⟨inFirst, inSecond⟩
  have ends := ((layout.occupies_iff (List.getElem?_eq_getElem short) byte).mp inFirst).2
  have starts := ((layout.occupies_iff (List.getElem?_eq_getElem long) byte).mp inSecond).1
  have before := totalLength_take_le lengths less
  simp only [Nat.succ_eq_add_one] at before
  omega

end BackToBack

end MappedBuffer

/-! ### Remapped buffers -/

/-- The first block resolved is the one that the driver answers to the first query. -/
theorem Inquiries.driverPtr_head {σ : Type} {driver : Driver σ} {world : World σ}
    {addresses : AddressMap} {index : Nat} {requests : List (DevicePtr × UInt32)}
    {events later : List Event} {block : Block} {blocks : List Block} {fault : Option Fault}
    (inquiries : Inquiries addresses index requests events (block :: blocks) fault)
    (answers : world.Answers driver (events ++ later)) :
    ∃ devicePtr found, (requests.map Prod.fst).head? = some devicePtr ∧
      (driver (.queryBlock (Block.ofPtr (addresses devicePtr))) world.driver).1 = .ok found ∧
      block.driverPtr = found.driverPtr := by
  cases inquiries with
  | @resolved _ devicePtr _ _ _ _ _ _ _ inquiry others =>
    cases inquiry with
    | @resolved found known allocated fits =>
      have said : Except.ok found =
          (driver (.queryBlock (Block.ofPtr (addresses devicePtr))) world.driver).1 := answers.1
      exact ⟨devicePtr, found, rfl, said.symm, Block.driverPtr_fitLength fits⟩

/-- The blocks of a successful remap lie back to back from its address on, in the order and with the
lengths of the caller, so that each ends where the next one starts and no byte belongs to two.  The
address lies in the region mapped as far from its start as the first block lies in its page, by the
answer to the query.  The blocks are those registered, with addresses; the driver was asked to map
the bytes of all lengths; and the ledger has the name of the buffer under the address. -/
theorem remapped_blocks_back_to_back {σ : Type} (driver : Driver σ) (world : World σ)
    (addresses : AddressMap) (devicePtrs : List DevicePtr) (lengths : List UInt32)
    (mapped : MappedBuffer)
    (ok : ((remap addresses devicePtrs lengths).run driver world).value = .ok mapped)
    (names : NamesOnly driver) :
    let ran := (remap addresses devicePtrs lengths).run driver world
    let opened := (driver .openSession world.driver).2
    mapped.BackToBack lengths ∧ mapped.blocks.length = devicePtrs.length ∧
    (∀ index block first second, mapped.blocks[index]? = some block →
      mapped.blockAddress? index = some first →
        mapped.blockAddress? (index + 1) = some second →
          second.toNat = first.toNat + block.size.toNat) ∧
    (mapped.blocks.Pairwise fun first second =>
      ∀ byte, ¬ (first.Occupies byte ∧ second.Occupies byte)) ∧
    (∃ devicePtr found, devicePtrs.head? = some devicePtr ∧
      (driver (.queryBlock (Block.ofPtr (addresses devicePtr))) opened).1 = .ok found ∧
      mapped.blocks.head?.map Block.driverPtr = some found.driverPtr ∧
      mapped.address.toNat = mapped.region.base.toNat + found.driverPtr.toNat % 4096) ∧
    (∃ registered : List Block,
      ran.calls = .openSession :: blockQueries addresses (devicePtrs.zip lengths) ++
        [.register { id := 0, blocks := registered }, .map mapped.size mapped.id,
          .closeSession] ∧
      ∀ index, mapped.blocks[index]? = registered[index]?.map fun block : Block =>
        { block with address := mapped.blockAddress? index }) ∧
    ⟨.call (.map mapped.size mapped.id), .ok mapped.region⟩ ∈ ran.trace ∧
    ran.world.ledger.entries.find? mapped.address = some mapped.id := by
  intro ran opened
  have ⟨same, session⟩ := remapSession_of_ok ok
  have session : RemapSession addresses (devicePtrs.zip lengths) ran.dealings (.ok mapped) :=
    session
  have answers : world.Answers driver ran.dealings := Program.answers_run _ world
  rcases session.of_ok with
    ⟨asked, resolved, size, reply, previous, inquiries, summed, events, name,
      ⟨block, rest, blocks, offset⟩, added, placement⟩
  have registers : ⟨.call (.register { blocks := resolved }), .ok reply⟩ ∈ ran.dealings := by
    rw [events]
    simp
  have maps : ⟨.call (.map size reply.id), .ok mapped.region⟩ ∈ ran.dealings := by
    rw [events]
    simp
  -- The driver names the buffer only, so the blocks that are placed are those resolved.
  have kept : reply.blocks = resolved := by
    rcases answers.of_mem registers with ⟨reached, said⟩
    exact congrArg Buffer.blocks (names _ _ _ said.symm)
  rw [kept] at blocks placement
  have layout : mapped.BackToBack lengths := by
    apply MappedBuffer.backToBack_of_placement _ placement
    rw [inquiries.sizes_eq rfl, List.map_snd_zip (Nat.le_of_eq same)]
  -- The sum of the queries and that of the placed blocks are both the sum of the lengths.
  have requested : size = mapped.size := by
    rw [← UInt64.toNat_inj, layout.total, Buffer.toNat_sumSizes? summed,
      inquiries.bytes_eq rfl, List.map_snd_zip (Nat.le_of_eq same), UInt64.toNat_zero,
      Nat.zero_add]
  subst requested
  refine ⟨layout, ?count, ?adjacent, layout.pairwise_disjoint, ?address, ?registered, ?mapping,
    ?recorded⟩
  case count => rw [layout.length_eq, same]
  case adjacent => exact fun _ _ _ _ known here next => layout.adjacent known here next
  case address =>
    subst blocks
    rw [events] at answers
    rcases inquiries.driverPtr_head answers.2 with ⟨devicePtr, found, first, said, driverPtr⟩
    rw [List.map_fst_zip (Nat.le_of_eq same.symm)] at first
    refine ⟨devicePtr, found, first, said, ?_, ?_⟩
    · rcases placeBlocks_cons_eq_ok_iff.mp placement with ⟨_, _, _, _, placed⟩
      rw [placed, ← driverPtr]
      rfl
    · rw [← Word.add?_eq_some_iff.mp added, offset, Page.toNat_offset, driverPtr,
        UInt32.toNat_toUInt64]
  case registered =>
    refine ⟨resolved, ?_, fun _ => getElem?_placeBlocks_eq_map placement⟩
    rw [ran.calls_eq_dealings, events, name, List.filterMap_cons, List.filterMap_append,
      inquiries.calls_of_finished]
    rfl
  case mapping =>
    rw [name]
    exact (List.mem_filter.mp maps).1
  case recorded =>
    have ledger : ran.world.ledger = _ :=
      (Program.ledger_run _ world).trans (session.ledger_of_ok world.ledger)
    rw [ledger]
    exact Table.find?_insert_self _ _ _

/-- The driver in memory keeps the blocks of a buffer that it names. -/
theorem MemoryDriver.namesOnly : NamesOnly MemoryDriver.answer := by
  intro buffer driver reply answered
  unfold MemoryDriver.answer at answered
  simp only at answered
  split at answered
  · cases answered
  · cases answered
    rfl

/-- A page block in the middle of a page and a two-dimensional block of two rows lie back to back,
from the offset of the first one on. -/
theorem remapped_blocks_back_to_back_mixed :
    let driver : MemoryDriver :=
      { known := (({} : Table DriverPtr (Except IoFault Block)).insert 0x60001234
          (.ok (.page 0x60001234 4096))).insert 0x60002000
          (.ok (.area 0x60002000 .bit8 4096 2)) }
    ∃ mapped, ((remap AddressMap.identity [0x60001234, 0x60002000] [4096, 8192]).run
        MemoryDriver.answer { driver }).value = .ok mapped ∧
      mapped.BackToBack [4096, 8192] ∧ mapped.address.toNat = 0x40000234 := by
  intro driver
  let mapped : MappedBuffer :=
    { region := ⟨0x40000000, 12288⟩
      offset := 0x234
      buffer :=
        { id := 0x100000
          blocks := [{ Block.page 0x60001234 4096 with address := some 0x40000234 },
            { Block.area 0x60002000 .bit8 4096 2 with
              address := some 0x40001234
              stride := 4096 }] } }
  have ok : ((remap AddressMap.identity [0x60001234, 0x60002000] [4096, 8192]).run
      MemoryDriver.answer { driver }).value = .ok mapped :=
    Outcome.mapped.inj (Outcome.mapped?_eq_some_iff.mp (by decide +kernel))
  have ⟨layout, _, _, _, ⟨_, found, _, _, head, address⟩, _⟩ :=
    remapped_blocks_back_to_back MemoryDriver.answer { driver } AddressMap.identity
      [0x60001234, 0x60002000] [4096, 8192] mapped ok MemoryDriver.namesOnly
  have pointer : found.driverPtr = 0x60001234 := (Option.some.inj head).symm
  rw [pointer] at address
  exact ⟨mapped, ok, layout, address⟩

end TilerMapping
