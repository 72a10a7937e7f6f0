/-
Module: TilerMapping.Proofs.DeviceReversal
Purpose: The system calls with which a demap reverses a remap on the tiler device.
Main exports: Kernel.Keeps, Queried.recorded, run_demap_device, RemappedOn, remappedOn_of_run,
  device_demap_releases_remap
-/
import TilerMapping.Proofs.Codec
import TilerMapping.Proofs.Completion
import TilerMapping.Proofs.Recording

namespace TilerMapping

/-!
The device knows a buffer by the record that was written when it was registered.  A demap reads the
blocks back from the reply to a query, writes them again, and adds up their sizes.  As blocks that
came from a reply and were fitted to a length are read back as they were written, the second
record is the first one but for the name, and the size is that of the mapping.
-/

variable {κ : Type} {device : Device} {kernel : Kernel κ}

/-! ### Kernels that keep registered buffers -/

/-- What a buffer record states beside the name. -/
def BufferRecord.contents (record : BufferRecord) : Int32 × Vector BlockRecord maxBlocks :=
  (record.count, record.slots)

/-- The operating system keeps what it was given for a buffer under the name that it answers, and
answers that to queries of the name.  Mappings start on page boundaries. -/
structure Kernel.Keeps (kernel : Kernel κ)
    (kept : κ → BufferId → Option (Int32 × Vector BlockRecord maxBlocks)) : Prop where
  registers : ∀ {record reply : BufferRecord} {before after : κ},
    kernel (.controlBuffer TilerRequest.registerBuffer record) before = (.ok reply, after) →
      kept after reply.offset = some record.contents
  /-- The name in the reply is not fixed. -/
  queries : ∀ {id : BufferId} {reply : BufferRecord} {before after : κ},
    kernel (.controlBuffer TilerRequest.queryBuffer { offset := id }) before = (.ok reply, after) →
      ∀ contents, kept before id = some contents → reply.contents = contents
  maps : ∀ {length : ByteCount} {id : BufferId} {base : Address} {before after : κ},
    kernel (.mapMemory 0 length Device.mapProtection Device.mapSharing id) before =
      (.ok base, after) → Page.offset base = 0
  /-- Only a registration and the end of one change what is kept. -/
  others : ∀ request state,
    (∀ record, request ≠ .controlBuffer TilerRequest.registerBuffer record) →
      (∀ record, request ≠ .controlBuffer TilerRequest.unregisterBuffer record) →
        kept (kernel request state).2 = kept state

theorem Kernel.Keeps.kept_eq {kept : κ → BufferId → Option (Int32 × Vector BlockRecord maxBlocks)}
    (keeps : kernel.Keeps kept) {request : SystemCall} {answer : request.Answer} {before after : κ}
    (asked : kernel request before = (answer, after))
    (noRegister : ∀ record, request ≠ .controlBuffer TilerRequest.registerBuffer record)
    (noUnregister : ∀ record, request ≠ .controlBuffer TilerRequest.unregisterBuffer record) :
    kept after = kept before := by
  have same := keeps.others request before noRegister noUnregister
  rw [asked] at same
  exact same

/-- An operating system with room for one buffer.  One block is a page block, all others have eight
bits a pixel.  A reply to a query of the buffer does not name it. -/
def Kernel.oneBuffer : Kernel (Option (Int32 × Vector BlockRecord maxBlocks))
  | .openFile _ _, kept => (.ok (), kept)
  | .controlBlock _ record, kept =>
    let reply : BlockRecord :=
      if record.driverPtr = 0x60001234 then { record with format := 4, extent := 4096 }
      else { record with format := 1, extent := BlockRecord.areaExtent 4096 64, stride := 7 }
    (.ok reply, kept)
  | .controlBuffer code record, kept =>
    if code = TilerRequest.registerBuffer then
      (.ok { record with offset := 0x100000 }, some record.contents)
    else if code = TilerRequest.queryBuffer then
      match kept with
      | some (count, slots) => (.ok { count, slots }, kept)
      | none => (.error Errno.invalidArgument, kept)
    else if code = TilerRequest.unregisterBuffer then (.ok record, none)
    else (.error Errno.invalidArgument, kept)
  | .mapMemory _ _ _ _ _, kept => (.ok 0x40000000, kept)
  | .unmapMemory _ _, kept => (.ok (), kept)
  | .closeFile, kept => ((), kept)

theorem Kernel.oneBuffer_keeps :
    oneBuffer.Keeps fun kept name => if name = 0x100000 then kept else none := by
  have differ : TilerRequest.queryBuffer ≠ TilerRequest.registerBuffer := by decide
  constructor
  · intro record reply before after registers
    simp only [oneBuffer, if_true] at registers
    cases registers
    rfl
  · intro name reply before after queries contents known
    simp only [oneBuffer, if_neg differ, if_true] at queries
    split at known
    · subst known
      cases queries
      rfl
    · cases known
  · intro length name base before after maps
    cases maps
    rfl
  · intro request state noRegister noUnregister
    cases request with
    | controlBuffer code record =>
      have notRegister : code ≠ TilerRequest.registerBuffer := fun same =>
        noRegister record (by rw [same])
      have notUnregister : code ≠ TilerRequest.unregisterBuffer := fun same =>
        noUnregister record (by rw [same])
      simp only [oneBuffer, if_neg notRegister, if_neg notUnregister]
      split
      · cases state <;> rfl
      · rfl
    | _ => rfl

/-! ### Queried blocks -/

/-- Queries are control requests for blocks, and the blocks found are in the form that is read
back. -/
theorem Queried.recorded {addresses : AddressMap} {before after : κ × List SystemEvent}
    {requests : List (DevicePtr × UInt32)} {blocks : List Block}
    (queried : Queried (device.answer kernel.recording) addresses before requests blocks after) :
    (∀ block ∈ blocks, block.Canonical) ∧
      ∃ events, after.2 = before.2 ++ events ∧
        ∀ event ∈ events, ∃ record,
          event.request = .controlBlock TilerRequest.queryBlock record := by
  induction queried with
  | nil state => exact ⟨fun _ member => (List.not_mem_nil member).elim, [], by simp, by simp⟩
  | @cons before middle after devicePtr length rest found blocks query _ fits _ ih =>
    obtain ⟨canonical, events, log, block⟩ := ih
    obtain ⟨record, reply, asked, rfl⟩ := Device.answer_queryBlock_ok query
    obtain ⟨-, grown⟩ := Kernel.recording_eq_iff.mp asked
    refine ⟨?_, ⟨.controlBlock TilerRequest.queryBlock record, .ok reply⟩ :: events, ?_, ?_⟩
    · intro other member
      rcases List.mem_cons.mp member with rfl | member
      · exact (Block.canonical_ofRecord reply).fitLength fits
      · exact canonical other member
    · rw [log, grown, List.append_assoc, List.singleton_append]
    · intro event member
      rcases List.mem_cons.mp member with rfl | member
      · exact ⟨record, rfl⟩
      · exact block event member

/-! ### Demaps on the device -/

/-- Where the query of a buffer answers its blocks, a demap whose system calls succeed gives up the
buffer with the record of these blocks, and removes as many bytes as they have together. -/
theorem run_demap_device {address : Address} {name : BufferId} {blocks : List Block}
    {record : BufferRecord} {state : κ} {ledger : MappingLedger}
    (passable : '\x00' ∉ device.path.toList)
    (found : ledger.entries.find? address = some name)
    (written : ({ id := name, blocks } : Buffer).toRecord = .ok record)
    (reads : ∀ {opened queried : κ} {reply : BufferRecord},
      kernel (.openFile device.path Device.openFlags) state = (.ok (), opened) →
        kernel (.controlBuffer TilerRequest.queryBuffer { offset := name }) opened =
          (.ok reply, queried) →
            Buffer.ofRecord reply = .ok { id := reply.offset, blocks })
    (succeed : ∀ event ∈ (device.run kernel (demap address) state ledger).systemEvents,
      event.Succeeded) :
    let ran := device.run kernel (demap address) state ledger
    ran.value = .ok () ∧
      ran.systemRequests =
        [.openFile device.path Device.openFlags,
          .controlBuffer TilerRequest.queryBuffer { offset := name },
          .controlBuffer TilerRequest.unregisterBuffer record,
          .unmapMemory (Page.alignDown address) ({ id := name, blocks } : Buffer).totalSize,
          .closeFile] := by
  intro ran
  have succeed : ∀ event ∈ ran.world.driver.2, event.Succeeded := succeed
  let world : World (κ × List SystemEvent) := { driver := (state, []), ledger }
  have found : world.ledger.entries.find? address = some name := found
  rcases opens : kernel (.openFile device.path Device.openFlags) state with ⟨answer, opened⟩
  have opening := Device.openSession_recorded passable opens []
  cases answer with
  | error code =>
    have left : ran.world.driver = _ := run_demap_refused opening
    simp [left, SystemEvent.Succeeded, SystemCall.failure?] at succeed
  | ok =>
  rcases queries : kernel (.controlBuffer TilerRequest.queryBuffer { offset := name }) opened with
    ⟨answer, queried⟩
  cases answer with
  | error code =>
    have left : ran.world.driver = _ :=
      (run_demap_unqueried found opening (Device.queryBuffer_recorded_error queries _)).2
    simp [left, SystemEvent.Succeeded, SystemCall.failure?] at succeed
  | ok reply =>
  rcases unregisters : kernel (.controlBuffer TilerRequest.unregisterBuffer record) queried with
    ⟨givenUp, unregistered⟩
  rcases unmaps : kernel (.unmapMemory (Page.alignDown address)
    ({ id := name, blocks } : Buffer).totalSize) unregistered with ⟨removed, unmapped⟩
  obtain ⟨value, left, -⟩ := run_demap_hit found opening
    (Device.queryBuffer_recorded_ok queries (reads opens queries) _)
    (Device.unregister_recorded written unregisters _) (Device.unmap_recorded unmaps _)
  have left : ran.world.driver = _ := congrArg World.driver left
  cases givenUp with
  | error code => simp [left, SystemEvent.Succeeded, SystemCall.failure?] at succeed
  | ok =>
  cases removed with
  | error code => simp [left, SystemEvent.Succeeded, SystemCall.failure?] at succeed
  | ok =>
  exact ⟨value.mpr ⟨rfl, rfl⟩, by simp [Run.systemRequests, Run.systemEvents, left]⟩

/-! ### Remaps on the device -/

/-- What a remap that has succeeded on the device did: it opened the device, queried blocks, passed
one buffer record, mapped the buffer and closed the device. -/
structure RemappedOn (device : Device) (kernel : Kernel κ)
    (ended : Run (κ × List SystemEvent) (Except Stop MappedBuffer)) (mapped : MappedBuffer)
    (blocks : List Block) (queries : List SystemEvent) (record reply : BufferRecord)
    (queried registered placed : κ) : Prop where
  passable : '\x00' ∉ device.path.toList
  canonical : ∀ block ∈ blocks, block.Canonical
  summed : Buffer.sumSizes? 0 blocks = some mapped.region.len
  written : ({ blocks } : Buffer).toRecord = .ok record
  registers : kernel (.controlBuffer TilerRequest.registerBuffer record) queried =
    (.ok reply, registered)
  name : mapped.id = reply.offset
  maps : kernel (.mapMemory 0 mapped.region.len Device.mapProtection Device.mapSharing mapped.id)
    registered = (.ok mapped.region.base, placed)
  closed : ended.kernelState = (kernel .closeFile placed).2
  /-- The first block keeps its offset within its page. -/
  addressed : ∃ block : Block,
    Word.add? mapped.region.base (Page.offset block.driverPtr.toUInt64) = some mapped.address
  ledger : ended.world.ledger.entries.find? mapped.address = some mapped.id
  asked : ∀ event ∈ queries, ∃ block,
    event.request = .controlBlock TilerRequest.queryBlock block
  events : ended.systemEvents = ⟨.openFile device.path Device.openFlags, .ok ()⟩ :: queries ++
    [⟨.controlBuffer TilerRequest.registerBuffer record, .ok reply⟩,
      ⟨.mapMemory 0 mapped.region.len Device.mapProtection Device.mapSharing mapped.id,
        .ok mapped.region.base⟩,
      ⟨.closeFile, ()⟩]

theorem remappedOn_of_run {addresses : AddressMap} {devicePtrs : List DevicePtr}
    {lengths : List UInt32} {state : κ} {ledger : MappingLedger} {mapped : MappedBuffer}
    (ok : (device.run kernel (remap addresses devicePtrs lengths) state ledger).value =
      .ok mapped) :
    let made := device.run kernel (remap addresses devicePtrs lengths) state ledger
    mapped.region.len.toNat = totalLength lengths ∧
      ∃ blocks queries record reply queried registered placed,
        RemappedOn device kernel made mapped blocks queries record reply queried registered
          placed := by
  intro made
  obtain ⟨blocks, size, named, opened, queried, registered, placed, done⟩ := remapped_of_run ok
  obtain ⟨passable, opens⟩ := Device.answer_openSession_ok done.opens
  obtain ⟨-, opening⟩ := Kernel.recording_eq_iff.mp opens
  obtain ⟨canonical, queries, querying, block⟩ := done.queries.recorded
  obtain ⟨record, reply, written, registers, rfl⟩ := Device.answer_register_ok done.registers
  obtain ⟨registers, registering⟩ := Kernel.recording_eq_iff.mp registers
  obtain ⟨maps, len⟩ := Device.answer_map_ok done.maps
  obtain ⟨maps, mapping⟩ := Kernel.recording_eq_iff.mp maps
  have left : made.world.driver = _ := done.closed
  have name : mapped.id = reply.offset := done.name
  have known : ({ id := reply.offset, blocks } : Buffer).id = mapped.id := name.symm
  rw [known, ← len] at maps mapping
  constructor
  · have given : (devicePtrs.zip lengths).map Prod.snd = lengths := map_snd_zip_of_remap ok
    rw [len, Buffer.toNat_sumSizes? done.summed, done.queries.bytes_eq, given, UInt64.toNat_zero,
      Nat.zero_add]
  · refine ⟨blocks, queries, record, reply, queried.1, registered.1, placed.1, passable, canonical,
      len ▸ done.summed, written, registers, name, maps, congrArg Prod.fst left, ?_, ?_, block, ?_⟩
    · obtain ⟨first, -, -, added⟩ := done.addressed
      exact ⟨first, added⟩
    · rw [show made.world.ledger = _ from done.ledger]
      exact Table.find?_insert_self ..
    · rw [show made.systemEvents = placed.2 ++ [⟨.closeFile, ()⟩] from congrArg Prod.snd left,
        mapping, registering, querying, opening]
      simp

namespace RemappedOn

variable {kept : κ → BufferId → Option (Int32 × Vector BlockRecord maxBlocks)}
  {ended : Run (κ × List SystemEvent) (Except Stop MappedBuffer)} {mapped : MappedBuffer}
  {blocks : List Block} {queries : List SystemEvent} {record reply : BufferRecord}
  {queried registered placed : κ}

/-- The state in which the remap ends keeps the record. -/
theorem kept_eq (keeps : kernel.Keeps kept)
    (remapped : RemappedOn device kernel ended mapped blocks queries record reply queried registered
      placed) : kept ended.kernelState mapped.id = some record.contents := by
  rw [remapped.closed, keeps.others .closeFile placed (by simp) (by simp),
    keeps.kept_eq remapped.maps (by simp) (by simp), remapped.name]
  exact keeps.registers remapped.registers

/-- The region starts on the page of the address. -/
theorem alignDown_address (keeps : kernel.Keeps kept)
    (remapped : RemappedOn device kernel ended mapped blocks queries record reply queried registered
      placed) : Page.alignDown mapped.address = mapped.region.base := by
  obtain ⟨first, added⟩ := remapped.addressed
  exact Page.alignDown_of_add? (keeps.maps remapped.maps) (Page.toNat_offset_lt _) added

/-- While the buffer is kept, a query of it answers its blocks. -/
theorem reads (keeps : kernel.Keeps kept)
    (remapped : RemappedOn device kernel ended mapped blocks queries record reply queried registered
      placed) {later opened left : κ} {answered : BufferRecord}
    (still : kept later mapped.id = kept ended.kernelState mapped.id)
    (opens : kernel (.openFile device.path Device.openFlags) later = (.ok (), opened))
    (asks : kernel (.controlBuffer TilerRequest.queryBuffer { offset := mapped.id }) opened =
      (.ok answered, left)) :
    Buffer.ofRecord answered = .ok { id := answered.offset, blocks } := by
  have kept : kept opened mapped.id = some record.contents := by
    rw [keeps.kept_eq opens (by simp) (by simp), still, remapped.kept_eq keeps]
  have same := keeps.queries asks record.contents kept
  exact Buffer.ofRecord_toRecord remapped.canonical remapped.written (congrArg Prod.fst same)
    (congrArg Prod.snd same) remapped.summed

end RemappedOn

/-- A remap that succeeds passes one buffer record to the device and maps one range, as long as the
lengths together.  From any later state in which the operating system still keeps the buffer and
the ledger still names it, a demap of the address whose system calls succeed succeeds: it passes
the same record back under the name of the buffer, and removes exactly the range that was mapped.
-/
theorem device_demap_releases_remap (device : Device) (kernel : Kernel κ)
    (kept : κ → BufferId → Option (Int32 × Vector BlockRecord maxBlocks))
    (keeps : kernel.Keeps kept) (addresses : AddressMap) (devicePtrs : List DevicePtr)
    (lengths : List UInt32) (state : κ) (ledger : MappingLedger) (mapped : MappedBuffer)
    (ok : (device.run kernel (remap addresses devicePtrs lengths) state ledger).value =
      .ok mapped) :
    let made := device.run kernel (remap addresses devicePtrs lengths) state ledger
    ∃ queries record reply,
      (∀ event ∈ queries, ∃ block,
        event.request = .controlBlock TilerRequest.queryBlock block) ∧
      made.systemEvents = ⟨.openFile device.path Device.openFlags, .ok ()⟩ :: queries ++
        [⟨.controlBuffer TilerRequest.registerBuffer record, .ok reply⟩,
          ⟨.mapMemory 0 mapped.region.len Device.mapProtection Device.mapSharing mapped.id,
            .ok mapped.region.base⟩,
          ⟨.closeFile, ()⟩] ∧
      mapped.region.len.toNat = totalLength lengths ∧
      ∀ (later : κ) (shared : MappingLedger),
        shared.entries.find? mapped.address = made.world.ledger.entries.find? mapped.address →
          kept later mapped.id = kept made.kernelState mapped.id →
            let release := device.run kernel (demap mapped.address) later shared
            (∀ event ∈ release.systemEvents, event.Succeeded) →
              release.value = .ok () ∧
                release.systemRequests =
                  [.openFile device.path Device.openFlags,
                    .controlBuffer TilerRequest.queryBuffer { offset := mapped.id },
                    .controlBuffer TilerRequest.unregisterBuffer
                      { record with offset := mapped.id },
                    .unmapMemory mapped.region.base mapped.region.len,
                    .closeFile] := by
  intro made
  obtain ⟨bytes, blocks, queries, record, reply, _, _, _, remapped⟩ := remappedOn_of_run ok
  refine ⟨queries, record, reply, remapped.asked, remapped.events, bytes, ?_⟩
  intro later shared unchanged still release succeed
  have found : shared.entries.find? mapped.address = some mapped.id :=
    unchanged.trans remapped.ledger
  have reversed := run_demap_device remapped.passable found
    (Buffer.toRecord_rename remapped.written mapped.id) (remapped.reads keeps still) succeed
  rw [remapped.alignDown_address keeps, Buffer.totalSize_of_sumSizes? remapped.summed] at reversed
  exact reversed

/-- A page block and a block of eight bits a pixel, mapped and released. -/
theorem device_demap_releases_remap_oneBuffer :
    let made := Device.run {} Kernel.oneBuffer
      (remap AddressMap.identity [0x60001234, 0x61000000] [4096, 262144]) none {}
    let release := Device.run {} Kernel.oneBuffer (demap 0x40000234) made.kernelState
      made.world.ledger
    made.value.toOption = some
        { region := ⟨0x40000000, 266240⟩
          offset := 0x234
          buffer :=
            { id := 0x100000
              blocks :=
                [{ Block.page 0x60001234 4096 with address := some 0x40000234 },
                  { Block.area 0x61000000 .bit8 4096 64 with
                    stride := 4096, address := some 0x40001234 }] } } ∧
      release.value = .ok () ∧
      release.systemRequests[3]? = some (.unmapMemory 0x40000000 266240) := by
  intro made release
  have maps : made.value.toOption = some
      { region := ⟨0x40000000, 266240⟩
        offset := 0x234
        buffer :=
          { id := 0x100000
            blocks :=
              [{ Block.page 0x60001234 4096 with address := some 0x40000234 },
                { Block.area 0x61000000 .bit8 4096 64 with
                  stride := 4096, address := some 0x40001234 }] } } := by
    decide +kernel
  have succeed : ∀ event ∈ release.systemEvents, event.Succeeded := by decide +kernel
  refine ⟨maps, ?_⟩
  cases value : made.value with
  | error stop =>
    rw [value] at maps
    cases maps
  | ok mapped =>
    rw [value] at maps
    cases maps
    obtain ⟨-, record, -, -, -, -, releases⟩ := device_demap_releases_remap {} Kernel.oneBuffer _
      Kernel.oneBuffer_keeps _ _ _ none {} _ value
    obtain ⟨released, requests⟩ := releases made.kernelState made.world.ledger rfl rfl succeed
    exact ⟨released, congrArg (fun requests => requests[3]?) requests⟩

end TilerMapping
