/-
Module: TilerMapping.Proofs.Overrun
Purpose: When a remap is abandoned, and what it leaves behind then.
Main exports: Region.start, MapsRegistered, placeBlocks_eq_error_iff, Block.size?_of_sizeDiffers,
  MapAttempt.abort_iff, RemapSession.attempted, remap_abandoned_iff
-/
import TilerMapping.Proofs.Exactness
import TilerMapping.Proofs.Placement

namespace TilerMapping

/-!
Three sums of a remap can leave the address space: that of the sizes, that of a mapping and the
offset of its first block, and the running one of the addresses.  The sizes come from lengths of 32
bits and there are few of them, so the first never does.  The other two are partial sums of one
total, so whether one of them overflows is a question about the total: the address behind the last
block.  Which of them does decides whether the address of the first block has been recorded.
-/

/-! ### The address behind the last block -/

/-- Where a mapped buffer starts, in unbounded numbers: its first block keeps the offset that it has
within its page. -/
def Region.start (region : Region) (block : Block) : Nat :=
  region.base.toNat + block.driverPtr.toNat % 4096

/-- Among the events a buffer is registered that starts with the block, and a region is mapped under
the name that it was given. -/
def MapsRegistered (events : List Event) (block : Block) (id : BufferId) (region : Region) : Prop :=
  ∃ rest reply size, ⟨.call (.register { blocks := block :: rest }), .ok reply⟩ ∈ events ∧
    reply.id = id ∧ ⟨.call (.map size id), .ok region⟩ ∈ events

theorem Region.add?_start_eq_some_iff {region : Region} {block : Block} {address : Address} :
    Word.add? region.base (Page.offset block.driverPtr.toUInt64) = some address ↔
      address.toNat = region.start block := by
  rw [Word.add?_eq_some_iff, Page.toNat_offset, UInt32.toNat_toUInt64, Region.start, eq_comm]

theorem Region.add?_start_eq_none_iff {region : Region} {block : Block} :
    Word.add? region.base (Page.offset block.driverPtr.toUInt64) = none ↔
      UInt64.size ≤ region.start block := by
  rw [Word.add?_eq_none_iff, Page.toNat_offset, UInt32.toNat_toUInt64, Region.start]

/-- Blocks find no places exactly where the address behind the last one is no word. -/
theorem placeBlocks_eq_error_iff {first : Address} {blocks : List Block} {abort : Abort} :
    placeBlocks first blocks = .error abort ↔
      abort = .addOverflow ∧ UInt64.size ≤ first.toNat + Buffer.bytes blocks := by
  induction blocks generalizing first with
  | nil =>
    have short := first.toNat_lt_size
    simp only [placeBlocks, reduceCtorEq, Buffer.bytes_nil, Nat.add_zero, false_iff, not_and]
    omega
  | cons block rest ih =>
    rw [placeBlocks, Buffer.bytes_cons, ← Nat.add_assoc]
    cases added : Word.add? first block.size with
    | none =>
      have overflow := Word.add?_eq_none_iff.mp added
      simp only [Except.error.injEq]
      exact ⟨fun same => ⟨same.symm, Nat.le_add_right_of_le overflow⟩, fun same => same.1.symm⟩
    | some next =>
      rw [Word.add?_eq_some_iff.mp added, ← ih]
      cases laid : placeBlocks next rest with
      | error other => simp [laid]
      | ok others => simp [laid]

/-! ### Sizes of blocks that are fitted -/

namespace Block

variable {block : Block} {length : UInt32} {expected actual : ByteCount}

theorem fitArea_ne_sizeDiffers :
    (block.fitArea length).outcome ≠ .error (.sizeDiffers expected actual) := by
  unfold fitArea
  split
  · simp
  · split
    · simp
    split
    · simp
    unfold fitContainer
    simp only
    split <;> simp

/-- A size that is compared with the known length, and differs from it, is not cut off. -/
theorem size?_of_sizeDiffers
    (differs : (block.fitLength length).outcome = .error (.sizeDiffers expected actual)) :
    (block.fitLength length).block.size? = some actual := by
  have compared (fitted : Block) (checked : fitted.checkSize length =
      .error (.sizeDiffers expected actual)) : fitted.size = actual := by
    unfold checkSize at checked
    split at checked
    · cases checked
    · cases checked
      rfl
  unfold fitLength at differs ⊢
  split at differs
  case isTrue page =>
    have known : ({ block with extent := .length length } : Block).size? =
        some length.toUInt64 := by
      rw [size?, ContainerFormat.isPage_iff.mp page]
    rw [if_pos page, known, ← compared _ differs, size_of_size? known]
  case isFalse plane =>
    rw [if_neg plane]
    simp only at differs ⊢
    cases fits : (block.fitArea length).outcome with
    | error fault =>
      rw [fits] at differs
      exact absurd (fits.trans (by simpa [fits] using differs)) fitArea_ne_sizeDiffers
    | ok =>
      rw [fits] at differs
      cases extent : block.extent with
      | length bytes => simp [fitArea, extent] at fits
      | area width height =>
        rcases withinReport_fitArea (Bool.eq_false_iff.mpr plane) extent fits with
          ⟨_, _, within⟩
        rcases within.size with ⟨bytes, known, _⟩
        rw [known, ← compared _ differs, size_of_size? known]

/-- A fit stays within words: its operations, the size that it gives a block, and the size that it
finds to differ. -/
theorem fit_within_words (block : Block) (length : UInt32) :
    (block.checkedFit? length).isSome ∧
      ((block.fitLength length).outcome = .ok () →
        (block.fitLength length).block.size? = some length.toUInt64) ∧
      ∀ expected actual, (block.fitLength length).outcome = .error (.sizeDiffers expected actual) →
        (block.fitLength length).block.size? = some actual := by
  rw [block.checkedFit?_eq]
  exact ⟨rfl, size?_fitLength, fun _ _ => size?_of_sizeDiffers⟩

end Block

/-! ### Attempts to map -/

namespace MapAttempt

variable {size : ByteCount} {buffer : Buffer} {events : List Event}
  {result : Except Stop MappedBuffer} {block : Block} {rest : List Block} {abort : Abort}

/-- With a first block, an attempt is abandoned for a sum only. -/
theorem eq_addOverflow (attempt : MapAttempt size buffer events (.error (.abort abort)))
    (blocks : buffer.blocks = block :: rest) : abort = .addOverflow := by
  cases attempt with
  | empty blockless =>
    rw [blockless] at blocks
    cases blocks
  | unaddressed => rfl
  | unplaced _ _ overrun => exact (placeBlocks_eq_error_iff.mp overrun).1

/-- An attempt is abandoned exactly where the region that was mapped leaves no address behind the
last block. -/
theorem abort_iff (attempt : MapAttempt size buffer events result)
    (blocks : buffer.blocks = block :: rest) {other : ByteCount} {id : BufferId} {region : Region}
    (mapped : ⟨.call (.map other id), .ok region⟩ ∈ events) :
    (∃ abort, result = .error (.abort abort)) ↔
      UInt64.size ≤ region.start block + Buffer.bytes buffer.blocks := by
  cases attempt with
  | givenUp => simp at mapped
  | leftBehind => simp at mapped
  | empty blockless =>
    rw [blockless] at blocks
    cases blocks
  | unaddressed same overrun =>
    cases same.symm.trans blocks
    cases List.mem_singleton.mp mapped
    have outside := Region.add?_start_eq_none_iff.mp overrun
    exact ⟨fun _ => Nat.le_add_right_of_le outside, fun _ => ⟨_, rfl⟩⟩
  | unplaced same added overrun =>
    cases same.symm.trans blocks
    rcases List.mem_cons.mp mapped with here | later
    · cases here
      have outside := (placeBlocks_eq_error_iff.mp overrun).2
      rw [Region.add?_start_eq_some_iff.mp added] at outside
      exact ⟨fun _ => outside, fun _ => ⟨_, rfl⟩⟩
    · cases List.mem_singleton.mp later
  | placed same added placement =>
    cases same.symm.trans blocks
    rcases List.mem_cons.mp mapped with here | later
    · cases here
      have inside := placeBlocks_eq_ok_iff.mp ⟨_, placement⟩
      rw [Region.add?_start_eq_some_iff.mp added] at inside
      simp only [reduceCtorEq, exists_false, false_iff]
      exact Nat.not_le.mpr inside
    · cases List.mem_singleton.mp later

/-- Only an attempt with a region is abandoned. -/
theorem mapped_of_abort (attempt : MapAttempt size buffer events (.error (.abort abort))) :
    ∃ region, ⟨.call (.map size buffer.id), .ok region⟩ ∈ events := by
  cases attempt <;> exact ⟨_, List.mem_cons_self⟩

/-- An attempt that is abandoned has recorded where the buffer starts, if that is an address. -/
theorem ledger_of_abort (attempt : MapAttempt size buffer events (.error (.abort abort)))
    (blocks : buffer.blocks = block :: rest) {other : ByteCount} {id : BufferId} {region : Region}
    (mapped : ⟨.call (.map other id), .ok region⟩ ∈ events) (ledger : MappingLedger) :
    (UInt64.size ≤ region.start block → ledger.afterAll events = ledger) ∧
      ∀ address : Address, address.toNat = region.start block →
        ledger.afterAll events =
          { ledger with entries := ledger.entries.insert address id } := by
  cases attempt with
  | empty blockless =>
    rw [blockless] at blocks
    cases blocks
  | unaddressed same overrun =>
    cases same.symm.trans blocks
    cases List.mem_singleton.mp mapped
    refine ⟨fun _ => rfl, fun address starts => ?_⟩
    rw [Region.add?_start_eq_some_iff.mpr starts] at overrun
    cases overrun
  | unplaced same added _ =>
    cases same.symm.trans blocks
    rcases List.mem_cons.mp mapped with here | later
    · cases here
      refine ⟨fun outside => ?_, fun address starts => ?_⟩
      · rw [Region.add?_start_eq_none_iff.mpr outside] at added
        cases added
      · rw [Region.add?_start_eq_some_iff.mpr starts] at added
        cases added
        rfl
    · cases List.mem_singleton.mp later

/-- A name is recorded only where it is that of the buffer, and the ledger takes it. -/
theorem recorded (attempt : MapAttempt size buffer events result) {address : Address}
    {id : BufferId} {answer : Except Abort (Option BufferId)}
    (member : ⟨.record address id, answer⟩ ∈ events) :
    id = buffer.id ∧ ∃ previous, answer = .ok previous := by
  cases attempt <;> simp at member <;> exact ⟨member.1.2, _, member.2⟩

theorem unclosed (attempt : MapAttempt size buffer events result) :
    .closeSession ∉ events.filterMap Event.call? := by
  cases attempt <;> simp

end MapAttempt

/-! ### Sessions -/

variable {addresses : AddressMap} {requests : List (DevicePtr × UInt32)} {events : List Event}
  {result : Except Stop MappedBuffer} {block : Block} {id : BufferId} {region : Region}

namespace Dialogue

/-- An event in an open session is a block query, the registration of the resolved blocks or part of
an attempt to map the buffer that was named by it. -/
theorem mem_cases (dialogue : Dialogue addresses requests events result) {event : Event}
    (member : event ∈ events) :
    event.IsBlockQuery ∨
    (∃ asked blocks answer, Inquiries addresses 0 requests asked blocks none ∧
      event = ⟨.call (.register { blocks }), answer⟩) ∨
    ∃ asked blocks reply size later, Inquiries addresses 0 requests asked blocks none ∧
      reply.id ≠ 0 ∧ MapAttempt size reply later result ∧
      events = asked ++ ⟨.call (.register { blocks }), .ok reply⟩ :: later ∧ event ∈ later := by
  cases dialogue with
  | unresolved inquiries => exact .inl (inquiries.queries event member)
  | unregistered inquiries =>
    rcases List.mem_append.mp member with asked | registered
    · exact .inl (inquiries.queries event asked)
    · exact .inr (.inl ⟨_, _, _, inquiries, List.mem_singleton.mp registered⟩)
  | unnamed inquiries =>
    rcases List.mem_append.mp member with asked | registered
    · exact .inl (inquiries.queries event asked)
    · exact .inr (.inl ⟨_, _, _, inquiries, List.mem_singleton.mp registered⟩)
  | named inquiries _ named attempt =>
    rcases List.mem_append.mp member with asked | later
    · exact .inl (inquiries.queries event asked)
    · rcases List.mem_cons.mp later with registered | later
      · exact .inr (.inl ⟨_, _, _, inquiries, registered⟩)
      · exact .inr (.inr ⟨_, _, _, _, _, inquiries, named, attempt, rfl, later⟩)

/-- What is registered are the resolved blocks. -/
theorem registered (dialogue : Dialogue addresses requests events result) {buffer : Buffer}
    {answer : Except IoFault Buffer} (member : ⟨.call (.register buffer), answer⟩ ∈ events) :
    ∃ asked, Inquiries addresses 0 requests asked buffer.blocks none := by
  rcases dialogue.mem_cases member with ⟨_, _, query⟩ | ⟨asked, _, _, inquiries, same⟩ |
    ⟨_, _, _, _, _, _, _, attempt, _, later⟩
  · cases query
  · cases same
    exact ⟨asked, inquiries⟩
  · cases attempt <;> simp at later

/-- A name that is recorded is not zero, and the ledger takes it. -/
theorem recorded (dialogue : Dialogue addresses requests events result) {address : Address}
    {answer : Except Abort (Option BufferId)} (member : ⟨.record address id, answer⟩ ∈ events) :
    id ≠ 0 ∧ ∃ previous, answer = .ok previous := by
  rcases dialogue.mem_cases member with ⟨_, _, query⟩ | ⟨_, _, _, _, same⟩ |
    ⟨_, _, _, _, _, _, named, attempt, _, later⟩
  · cases query
  · cases same
  · rcases attempt.recorded later with ⟨rfl, taken⟩
    exact ⟨named, taken⟩

theorem unclosed (dialogue : Dialogue addresses requests events result) :
    .closeSession ∉ events.filterMap Event.call? := by
  intro closed
  obtain ⟨event, member, call⟩ := List.mem_filterMap.mp closed
  rcases dialogue.mem_cases member with ⟨_, _, rfl⟩ | ⟨_, _, _, _, rfl⟩ |
    ⟨_, _, _, _, _, _, _, attempt, _, later⟩
  · cases call
  · cases call
  · exact attempt.unclosed (List.mem_filterMap.mpr ⟨event, later, call⟩)

/-- Where something is mapped, there is an attempt to map the resolved blocks. -/
theorem attempted (dialogue : Dialogue addresses requests events result)
    (maps : MapsRegistered events block id region) :
    ∃ asked rest reply size other later,
      Inquiries addresses 0 requests asked (block :: rest) none ∧
      ⟨.call (.register { blocks := block :: rest }), .ok reply⟩ ∈ events ∧
      MapAttempt size reply later result ∧ ⟨.call (.map other id), .ok region⟩ ∈ later ∧
      ∀ ledger : MappingLedger, ledger.afterAll events = ledger.afterAll later := by
  rcases maps with ⟨rest, reply, other, registered, _, mapped⟩
  rcases dialogue.mem_cases mapped with ⟨_, _, query⟩ | ⟨_, _, _, _, same⟩ |
    ⟨asked, blocks, named, size, later, inquiries, _, attempt, parts, mapped⟩
  · cases query
  · cases same
  have first : blocks = block :: rest := by
    rw [parts] at registered
    rcases List.mem_append.mp registered with early | last
    · obtain ⟨_, _, query⟩ := inquiries.queries _ early
      cases query
    · rcases List.mem_cons.mp last with same | late
      · cases same
        rfl
      · cases attempt <;> simp at late
  subst first
  refine ⟨asked, rest, named, size, other, later, inquiries, ?_, attempt, mapped, ?_⟩
  · rw [parts]
    exact List.mem_append_right _ List.mem_cons_self
  · intro ledger
    rw [parts, MappingLedger.afterAll_append, MappingLedger.afterAll_of_queries inquiries.queries]
    rfl

/-- An abandoned session has mapped a buffer. -/
theorem maps_of_abort {abort : Abort}
    (dialogue : Dialogue addresses requests events (.error (.abort abort)))
    (nonempty : requests ≠ []) :
    ∃ block id region, MapsRegistered events block id region := by
  cases dialogue with
  | @named asked later blocks reply size _ inquiries _ _ attempt =>
    rcases attempt.mapped_of_abort with ⟨region, mapped⟩
    cases blocks with
    | nil => exact absurd (List.length_eq_zero_iff.mp (inquiries.length_eq rfl).symm) nonempty
    | cons block rest =>
      refine ⟨block, reply.id, region, rest, reply, size, ?_, rfl, ?_⟩
      · exact List.mem_append_right _ List.mem_cons_self
      · exact List.mem_append_right _ (List.mem_cons_of_mem _ mapped)

/-- With a driver that keeps the blocks, a session in which a buffer is mapped is abandoned exactly
where its lengths run over. -/
theorem abort_iff (dialogue : Dialogue addresses requests events result)
    (kept : ∀ (asked reply : Buffer), ⟨.call (.register asked), .ok reply⟩ ∈ events →
      reply.blocks = asked.blocks)
    (maps : MapsRegistered events block id region) :
    (∃ abort, result = .error (.abort abort)) ↔
      UInt64.size ≤ region.start block + totalLength (requests.map Prod.snd) := by
  rcases dialogue.attempted maps with
    ⟨_, _, _, _, _, _, inquiries, registered, attempt, mapped, _⟩
  have blocks := kept _ _ registered
  rw [attempt.abort_iff blocks mapped, blocks, inquiries.bytes_eq rfl]

end Dialogue

namespace RemapSession

/-- What a session maps it maps while it is open. -/
theorem mapsRegistered_held_iff {inner : List Event} :
    MapsRegistered (⟨.call .openSession, .ok ()⟩ :: inner ++ [⟨.call .closeSession, ()⟩])
      block id region ↔ MapsRegistered inner block id region := by
  simp [MapsRegistered]

theorem abort_iff (session : RemapSession addresses requests events result)
    (nonempty : requests ≠ [])
    (kept : ∀ (asked reply : Buffer), ⟨.call (.register asked), .ok reply⟩ ∈ events →
      reply.blocks = asked.blocks) :
    (∃ abort, result = .error (.abort abort)) ↔
      ∃ block id region, MapsRegistered events block id region ∧
        UInt64.size ≤ region.start block + totalLength (requests.map Prod.snd) := by
  cases session with
  | refused => simp [MapsRegistered]
  | held dialogue =>
    have kept : ∀ (asked reply : Buffer), _ → reply.blocks = asked.blocks :=
      fun asked reply member => kept asked reply
        (List.mem_append_left _ (List.mem_cons_of_mem _ member))
    simp only [mapsRegistered_held_iff]
    constructor
    · rintro ⟨abort, rfl⟩
      rcases dialogue.maps_of_abort nonempty with ⟨block, id, region, maps⟩
      exact ⟨block, id, region, maps, (dialogue.abort_iff kept maps).mp ⟨abort, rfl⟩⟩
    · rintro ⟨block, id, region, maps, outside⟩
      exact (dialogue.abort_iff kept maps).mpr outside

/-- A session that is abandoned is closed, and leaves the start of the buffer in the ledger if it is
an address. -/
theorem of_abort {abort : Abort}
    (session : RemapSession addresses requests events (.error (.abort abort)))
    (nonempty : requests ≠ [])
    (kept : ∀ (asked reply : Buffer), ⟨.call (.register asked), .ok reply⟩ ∈ events →
      reply.blocks = asked.blocks) :
    abort = .addOverflow ∧
    (∃ before, events.filterMap Event.call? = .openSession :: before ++ [.closeSession] ∧
      .closeSession ∉ before) ∧
    ∀ block id region, MapsRegistered events block id region → ∀ ledger : MappingLedger,
      (UInt64.size ≤ region.start block → ledger.afterAll events = ledger) ∧
      ∀ address : Address, address.toNat = region.start block →
        ledger.afterAll events =
          { ledger with entries := ledger.entries.insert address id } := by
  cases session with
  | @held inner _ dialogue =>
    have kept : ∀ (asked reply : Buffer), _ → reply.blocks = asked.blocks :=
      fun asked reply member => kept asked reply
        (List.mem_append_left _ (List.mem_cons_of_mem _ member))
    refine ⟨?sum, ⟨_, ?calls, dialogue.unclosed⟩, ?ledger⟩
    case sum =>
      rcases dialogue.maps_of_abort nonempty with ⟨_, _, _, maps⟩
      rcases dialogue.attempted maps with ⟨_, _, _, _, _, _, _, registered, attempt, _, _⟩
      exact attempt.eq_addOverflow (kept _ _ registered)
    case calls => simp
    case ledger =>
      intro block id region maps ledger
      rcases dialogue.attempted (mapsRegistered_held_iff.mp maps) with
        ⟨_, _, _, _, _, _, _, registered, attempt, mapped, same⟩
      have inside : ledger.afterAll
          (⟨.call .openSession, .ok ()⟩ :: inner ++ [⟨.call .closeSession, ()⟩]) =
            ledger.afterAll inner := MappingLedger.afterAll_append ledger _ _
      rw [inside, same]
      exact attempt.ledger_of_abort (kept _ _ registered) mapped ledger

/-- A buffer that is registered has blocks, and their sizes are the lengths. -/
theorem registered (session : RemapSession addresses requests events result)
    (nonempty : requests ≠ []) {buffer : Buffer} {answer : Except IoFault Buffer}
    (member : ⟨.call (.register buffer), answer⟩ ∈ events) :
    buffer.blocks ≠ [] ∧ buffer.blocks.map Block.size? =
      (requests.map Prod.snd).map fun length => some length.toUInt64 := by
  cases session with
  | refused => simp at member
  | held dialogue =>
    obtain ⟨asked, inquiries⟩ := dialogue.registered (by simpa using member)
    refine ⟨fun blockless => nonempty ?_, inquiries.sizes_eq rfl⟩
    rw [← List.length_eq_zero_iff, ← inquiries.length_eq rfl, blockless, List.length_nil]

theorem recorded (session : RemapSession addresses requests events result) {address : Address}
    {answer : Except Abort (Option BufferId)} (member : ⟨.record address id, answer⟩ ∈ events) :
    id ≠ 0 ∧ ∃ previous, answer = .ok previous := by
  cases session with
  | refused => simp at member
  | held dialogue => exact dialogue.recorded (by simpa using member)

end RemapSession

/-! ### Runs -/

/-- The dealings of a run tell what it has mapped. -/
theorem Run.mapsRegistered_dealings_iff {σ α : Type} {ran : Run σ α} :
    MapsRegistered ran.dealings block id region ↔ MapsRegistered ran.trace block id region := by
  unfold MapsRegistered Run.dealings
  simp [Event.isDealing]

/-- Faults turn into the null address, abandonments stay. -/
theorem addressOrNull_eq_error_iff {result : Except Stop MappedBuffer} {abort : Abort} :
    addressOrNull result = .error abort ↔ result = .error (.abort abort) := by
  rcases result with (fault | other) | mapped <;> simp [addressOrNull]

/-- A remap over a driver that only names buffers is abandoned exactly where the driver mapped a
region that leaves no address behind the last block, and always for a sum.  The session is then
closed once, at the end, and the ledger has the start of the buffer if that is an address, and is
unchanged if it is not.  Nothing else can abandon a remap: a registered buffer has blocks, their
sizes are the lengths, what is recorded is a name that the ledger takes, and neither the operations
of a fit nor the sizes that are compared in it leave their words. -/
theorem remap_abandoned_iff {σ : Type} (driver : Driver σ) (names : NamesOnly driver)
    (world : World σ) (addresses : AddressMap) (devicePtrs : List DevicePtr)
    (lengths : List UInt32) :
    let ran := (remap addresses devicePtrs lengths).run driver world
    ((∃ abort, ran.value = .error (.abort abort)) ↔
      ∃ block id region, MapsRegistered ran.trace block id region ∧
        UInt64.size ≤ region.start block + totalLength lengths) ∧
    (∀ abort, ran.value = .error (.abort abort) →
      abort = .addOverflow ∧
      (∃ before, ran.calls = .openSession :: before ++ [.closeSession] ∧
        .closeSession ∉ before) ∧
      ∀ block id region, MapsRegistered ran.trace block id region →
        (UInt64.size ≤ region.start block → ran.world.ledger = world.ledger) ∧
        ∀ address : Address, address.toNat = region.start block →
          ran.world.ledger =
            { world.ledger with entries := world.ledger.entries.insert address id }) ∧
    (∀ buffer, .register buffer ∈ ran.calls →
      buffer.blocks ≠ [] ∧
        buffer.blocks.map Block.size? = lengths.map fun length => some length.toUInt64) ∧
    (∀ address id answer, ⟨.record address id, answer⟩ ∈ ran.trace →
      id ≠ 0 ∧ ∃ previous, answer = .ok previous) ∧
    (∀ mapped, ran.value = .ok mapped →
      Word.add? mapped.region.base mapped.offset = some mapped.address) ∧
    ∀ (block : Block) (length : UInt32),
      (block.checkedFit? length).isSome ∧
      ((block.fitLength length).outcome = .ok () →
        (block.fitLength length).block.size? = some length.toUInt64) ∧
      ∀ expected actual, (block.fitLength length).outcome = .error (.sizeDiffers expected actual) →
        (block.fitLength length).block.size? = some actual := by
  intro ran
  simp only [← Run.mapsRegistered_dealings_iff]
  by_cases possible : 1 ≤ devicePtrs.length ∧ devicePtrs.length ≤ 16 ∧
    lengths.length = devicePtrs.length
  case neg =>
    obtain ⟨fault, refused⟩ := @remap_of_impossible addresses _ _ possible
    have ended : ran = { value := .error (.fault fault), world } := by
      show (remap addresses devicePtrs lengths).run driver world = _
      rw [refused, Program.run_done]
    rw [ended]
    refine ⟨?_, fun _ aborted => ?_, fun _ member => ?_, fun _ _ _ member => ?_,
      fun _ ok => ?_, Block.fit_within_words⟩
    · simp [MapsRegistered, Run.dealings]
    · cases aborted
    · cases member
    · cases member
    · cases ok
  case pos =>
    have session : RemapSession addresses (devicePtrs.zip lengths) ran.dealings ran.value :=
      remapSession_of_run (Nat.ne_of_gt possible.1) possible.2.1 possible.2.2
    have given : (devicePtrs.zip lengths).map Prod.snd = lengths :=
      List.map_snd_zip (Nat.le_of_eq possible.2.2)
    have nonempty : devicePtrs.zip lengths ≠ [] := by
      intro unasked
      have count := congrArg List.length unasked
      rw [List.length_zip, possible.2.2, Nat.min_self, List.length_nil] at count
      omega
    have kept (asked reply : Buffer)
        (registered : ⟨.call (.register asked), .ok reply⟩ ∈ ran.dealings) :
        reply.blocks = asked.blocks := names.blocks_eq (Program.answers_run _ world) registered
    refine ⟨?iff, ?left, ?registered, ?recorded, ?placed, Block.fit_within_words⟩
    case iff => rw [session.abort_iff nonempty kept, given]
    case left =>
      intro abort aborted
      rw [aborted] at session
      rcases session.of_abort nonempty kept with ⟨sum, closed, ledger⟩
      have left : ran.world.ledger = world.ledger.afterAll ran.dealings := Program.ledger_run ..
      rw [Run.calls_eq_dealings, left]
      exact ⟨sum, closed, fun block id region maps => ledger block id region maps world.ledger⟩
    case registered =>
      intro buffer member
      rw [Run.calls_eq_dealings] at member
      obtain ⟨⟨effect, answer⟩, dealt, call⟩ := List.mem_filterMap.mp member
      cases effect with
      | call request =>
        cases call
        rw [← given]
        exact session.registered nonempty dealt
      | _ => cases call
    case recorded =>
      intro address id answer member
      exact session.recorded (List.mem_filter.mpr ⟨member, rfl⟩)
    case placed =>
      intro mapped ok
      rw [ok] at session
      rcases session.of_ok with ⟨_, _, _, _, _, _, _, _, _, _, added, _⟩
      exact added

/-- A page that starts in the middle of the last page of the address space runs over its end: the
remap is abandoned, its session is closed, and the start of the page is left in the ledger. -/
theorem remap_abandoned_iff_lastPage :
    let driver : MemoryDriver := { MemoryDriver.onePage with nextBase := 0xfffffffffffff000 }
    let ran := (remap AddressMap.identity [0x60001234] [4096]).run MemoryDriver.answer { driver }
    (∃ block id region, MapsRegistered ran.trace block id region ∧
      UInt64.size ≤ region.start block + totalLength [4096]) ∧
    ran.value = .error (.abort .addOverflow) ∧
    (∃ before, ran.calls = .openSession :: before ++ [.closeSession] ∧
      .closeSession ∉ before) ∧
    ran.world.ledger.entries.find? 0xfffffffffffff234 = some 0x100000 := by
  intro driver ran
  have ended : ran.value = .error (.abort .addOverflow) :=
    addressOrNull_eq_error_iff.mp (by decide +kernel)
  obtain ⟨abandoned, left, _⟩ := remap_abandoned_iff MemoryDriver.answer MemoryDriver.namesOnly
    { driver } AddressMap.identity [0x60001234] [4096]
  obtain ⟨_, closed, _⟩ := left _ ended
  exact ⟨abandoned.mp ⟨_, ended⟩, ended, closed, by decide +kernel⟩

end TilerMapping
