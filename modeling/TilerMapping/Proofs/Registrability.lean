/-
Module: TilerMapping.Proofs.Registrability
Purpose: What a device reports of blocks can be registered with it, and given up again.
Main exports: Block.Recordable, Block.recordable_fitLength, Buffer.record_of_recordable,
  Inquiries.recordable, Inquiries.registration_passed, DeviceSequel, Dialogue.device_sequel,
  resolved_blocks_registrable
-/
import TilerMapping.Proofs.Exactness
import TilerMapping.Proofs.Passage
import TilerMapping.Proofs.RoundTrip
import TilerMapping.Proofs.Verdicts
import TilerMapping.ScriptedKernel

namespace TilerMapping

/-!
A record holds the sides of an area in 16 bits each, and a fit computes them in 32.  But a fit only
narrows what was reported: a row does not outgrow the container, also where a pixel is one byte, and
there are no more rows than reported.  A block that was resolved therefore has a record, and since
the fit keeps it canonical, the record is read as that block.  So on a device a remap that has
resolved its blocks does register them, and gives them up where it cannot map them.
-/

/-! ### Blocks and buffers with records -/

/-- A block has a record, which is read as the same block. -/
structure Block.Recordable (block : Block) : Prop where
  canonical : block.Canonical
  fits : block.extent.Fits

namespace Block

variable {length : UInt32}

/-- A fit leaves sides no larger than the ones reported. -/
theorem fits_fitLength {record : BlockRecord}
    (fitted : ((ofRecord record).fitLength length).outcome = .ok ()) :
    ((ofRecord record).fitLength length).block.extent.Fits := by
  cases page : (ofRecord record).format.isPage with
  | true =>
    rw [(block_fitLength fitted).1 page]
    exact Extent.fits_length length
  | false =>
    obtain ⟨width, height, reported⟩ := (canonical_ofRecord record).area page
    have recorded : (ofRecord record).extent.Fits :=
      exists_toRecord_iff.mp ⟨record, toRecord_ofRecord record⟩
    rw [reported, Extent.fits_area] at recorded
    obtain ⟨accepted, same⟩ := fitArea_of_fitLength page fitted
    obtain ⟨pages, rows, within⟩ := withinReport_fitArea page reported accepted
    obtain ⟨across, down, left, rowBytes, downRows⟩ := within.laidOut
    have contained := within.contained
    have downward := within.reported
    have pixels : across.toNat ≤
        across.toNat * (ofRecord record).format.bytesPerPixel.toNat :=
      Nat.le_mul_of_pos_right _ (ContainerFormat.bytesPerPixel_bounds _).1
    rw [same, left, Extent.fits_area]
    omega

theorem recordable_fitLength {record : BlockRecord}
    (fitted : ((ofRecord record).fitLength length).outcome = .ok ()) :
    ((ofRecord record).fitLength length).block.Recordable :=
  ⟨(canonical_ofRecord record).fitLength fitted, fits_fitLength fitted⟩

end Block

/-- A buffer of such blocks has a record, which is read as the same buffer. -/
theorem Buffer.record_of_recordable {buffer : Buffer} (few : buffer.blocks.length ≤ maxBlocks)
    (recordable : ∀ block ∈ buffer.blocks, block.Recordable) :
    ∃ record, buffer.toRecord = .ok record ∧ ofRecord record = .ok buffer := by
  obtain ⟨record, written⟩ :=
    exists_toRecord_iff.mpr ⟨few, fun block member => (recordable block member).fits⟩
  exact ⟨record, written, (ofRecord_eq_ok_self_iff written).mpr fun block member =>
    (recordable block member).canonical⟩

/-! ### Blocks resolved on a device -/

variable {device : Device} {addresses : AddressMap} {requests : List (DevicePtr × UInt32)}
  {events : List Event} {passed : List SystemEvent}

/-- What a device answers to a query is read from a record, so the blocks resolved have records. -/
theorem Inquiries.recordable {index : Nat} {blocks : List Block} {fault : Option Fault}
    (inquiries : Inquiries addresses index requests events blocks fault)
    (passes : device.Passes events passed) : ∀ block ∈ blocks, block.Recordable := by
  induction inquiries generalizing passed with
  | finished => exact fun _ member => absurd member List.not_mem_nil
  | stopped => exact fun _ member => absurd member List.not_mem_nil
  | resolved inquiry _ ih =>
    obtain ⟨before, after, rfl, here, rest⟩ := Device.passes_append passes
    refine List.forall_mem_cons.mpr ⟨?_, ih rest⟩
    cases inquiry with
    | resolved known allocated fitted =>
      obtain ⟨_, _, _, gives, _⟩ := here
      obtain ⟨reply, rfl⟩ := Device.reply_of_queryBlock gives
      exact Block.recordable_fitLength fitted

/-- The queries of blocks pass on one record each, which names the block alone. -/
theorem systemCalls_blockQueries (device : Device) (addresses : AddressMap)
    (requests : List (DevicePtr × UInt32)) :
    device.systemCalls (blockQueries addresses requests) =
      (requests.map Prod.fst).map fun devicePtr =>
        .controlBlock TilerRequest.queryBlock { driverPtr := addresses devicePtr } := by
  have written (driverPtr : DriverPtr) :
      (Block.ofPtr driverPtr).toRecord = .ok { driverPtr := driverPtr } := rfl
  have asked (request : DevicePtr × UInt32) :
      (device.exchange (.queryBlock (Block.ofPtr (addresses request.1)))).systemCall? =
        some (.controlBlock TilerRequest.queryBlock { driverPtr := addresses request.1 }) := by
    simp only [Device.exchange, written, Exchange.systemCall?]
  rw [Device.systemCalls, blockQueries, List.filterMap_map, List.map_map, ← List.filterMap_eq_map]
  exact List.filterMap_congr fun request _ => asked request

/-- Where no block fails, the blocks resolved are registered with their record, and the registration
is answered as the device replies. -/
theorem Inquiries.registration_passed {blocks : List Block} {answer : Except IoFault Buffer}
    {later : List Event} (inquiries : Inquiries addresses 0 requests events blocks none)
    (few : requests.length ≤ maxBlocks)
    (passes : device.Passes (events ++ ⟨.call (.register { blocks }), answer⟩ :: later) passed) :
    ∃ record queries reply rest,
      ({ blocks } : Buffer).toRecord = .ok record ∧
      queries.map SystemEvent.request = device.systemCalls (blockQueries addresses requests) ∧
      passed = queries ++ ⟨.controlBuffer TilerRequest.registerBuffer record, reply⟩ :: rest ∧
      answer = Device.orFault (fun reply => { blocks, id := reply.offset }) reply ∧
      device.Passes later rest := by
  obtain ⟨queries, _, rfl, asked, _, rest, rfl, gives, others⟩ := Device.passes_append passes
  have short : blocks.length ≤ maxBlocks := by
    rw [inquiries.length_eq rfl]
    exact few
  obtain ⟨record, written, -⟩ :=
    @Buffer.record_of_recordable { blocks } short (inquiries.recordable asked)
  obtain ⟨reply, rfl, answered⟩ := Device.passed_of_register written gives
  refine ⟨record, queries, reply, rest, written, ?_, rfl, answered, others⟩
  rw [Device.requests_of_passes asked, inquiries.calls_of_finished]

/-! ### What follows a registration -/

/-- What follows as the device answers a registration, and how the remap then ends.  A buffer that
cannot be mapped is given up with the record that it was registered with, under the name of the
reply.  No fault in any of this is one of this side: each is an error number of a system call. -/
inductive DeviceSequel (record : BufferRecord) (size : ByteCount) :
    Except Errno BufferRecord → List SystemEvent → Except Stop MappedBuffer → Prop
  | refused {code : Errno} :
      DeviceSequel record size (.error code) [] (.error (.fault (.registration (.os code))))
  | unnamed {reply : BufferRecord} (zero : reply.offset = 0) :
      DeviceSequel record size (.ok reply) [] (.error (.fault .unnamedBuffer))
  | mapped {reply : BufferRecord} {base : Address} {result : Except Stop MappedBuffer}
      (named : reply.offset ≠ 0) (unfailing : ∀ fault, result ≠ .error (.fault fault)) :
      DeviceSequel record size (.ok reply)
        [⟨.mapMemory 0 size Device.mapProtection Device.mapSharing reply.offset, .ok base⟩] result
  | givenUp {reply answer : BufferRecord} {code : Errno} (named : reply.offset ≠ 0) :
      DeviceSequel record size (.ok reply)
        [⟨.mapMemory 0 size Device.mapProtection Device.mapSharing reply.offset, .error code⟩,
          ⟨.controlBuffer TilerRequest.unregisterBuffer { record with offset := reply.offset },
            .ok answer⟩]
        (.error (.fault (.mapping size reply.offset (.os code))))
  | leftBehind {reply : BufferRecord} {code second : Errno} (named : reply.offset ≠ 0) :
      DeviceSequel record size (.ok reply)
        [⟨.mapMemory 0 size Device.mapProtection Device.mapSharing reply.offset, .error code⟩,
          ⟨.controlBuffer TilerRequest.unregisterBuffer { record with offset := reply.offset },
            .error second⟩]
        (.error (.fault (.several
          [.mapping size reply.offset (.os code), .unregistration (.os second)])))

/-- The mapping of a buffer that was registered on a device goes on as the device answers. -/
theorem MapAttempt.device_sequel {record reply : BufferRecord} {size : ByteCount} {buffer : Buffer}
    {result : Except Stop MappedBuffer}
    (attempt : MapAttempt size { buffer with id := reply.offset } events result)
    (named : reply.offset ≠ 0) (written : buffer.toRecord = .ok record)
    (passes : device.Passes events passed) :
    DeviceSequel record size (.ok reply) passed result := by
  have renamed := Buffer.toRecord_rename written reply.offset
  cases attempt with
  | givenUp =>
    obtain ⟨_, _, rfl, ⟨_, rfl, failed⟩, _, _, rfl, gives, rfl⟩ := passes
    obtain ⟨code, rfl, rfl⟩ := Device.orFault_eq_error_iff.mp failed.symm
    obtain ⟨answer, rfl, left⟩ := Device.passed_of_unregister renamed gives
    obtain ⟨answer, rfl, -⟩ := Device.orFault_eq_ok_iff.mp left.symm
    exact .givenUp named
  | leftBehind =>
    obtain ⟨_, _, rfl, ⟨_, rfl, failed⟩, _, _, rfl, gives, rfl⟩ := passes
    obtain ⟨code, rfl, rfl⟩ := Device.orFault_eq_error_iff.mp failed.symm
    obtain ⟨answer, rfl, left⟩ := Device.passed_of_unregister renamed gives
    obtain ⟨second, rfl, rfl⟩ := Device.orFault_eq_error_iff.mp left.symm
    exact .leftBehind named
  | empty | unaddressed | unplaced | placed =>
    obtain ⟨_, _, rfl, ⟨_, rfl, mapped⟩, rfl⟩ := passes
    obtain ⟨base, rfl, rfl⟩ := Device.orFault_eq_ok_iff.mp mapped.symm
    exact .mapped named (by simp)

/-- In the session of a device in which no block fails, the blocks resolved are registered with
their record. -/
theorem Dialogue.device_sequel {σ : Type} {driver : Driver σ} {world : World σ} {later : List Event}
    {resolved : List Block} {result : Except Stop MappedBuffer}
    (dialogue : Dialogue addresses requests events result) (few : requests.length ≤ maxBlocks)
    (answers : world.Answers driver (events ++ later))
    (found : verdicts driver addresses 0 world.driver requests = resolved.map .ok)
    (passes : device.Passes events passed) :
    ∃ record queries size answer rest,
      ({ blocks := resolved } : Buffer).toRecord = .ok record ∧
      queries.map SystemEvent.request = device.systemCalls (blockQueries addresses requests) ∧
      size.toNat = totalLength (requests.map Prod.snd) ∧
      passed = queries ++ ⟨.controlBuffer TilerRequest.registerBuffer record, answer⟩ :: rest ∧
      DeviceSequel record size answer rest result := by
  have finished {asked : List Event} {blocks : List Block} {more : List Event}
      (inquiries : Inquiries addresses 0 requests asked blocks none)
      (answers : world.Answers driver (asked ++ more)) : blocks = resolved := by
    rw [inquiries.verdicts_of_finished answers] at found
    exact (List.map_inj_right fun _ _ => Except.ok.inj).mp found
  cases dialogue with
  | unresolved inquiries =>
    have first := (inquiries.failsFirst_iff answers).mpr ⟨rfl, rfl⟩
    rw [found] at first
    exact absurd first not_failsFirst_map
  | unregistered inquiries =>
    rw [List.append_assoc] at answers
    obtain rfl := finished inquiries answers
    obtain ⟨size, -, total⟩ := inquiries.sumSizes?_of_finished few
    obtain ⟨record, queries, answer, rest, written, asked, rfl, failed, rfl⟩ :=
      inquiries.registration_passed few passes
    obtain ⟨code, rfl, rfl⟩ := Device.orFault_eq_error_iff.mp failed.symm
    exact ⟨record, queries, size, _, [], written, asked, total, rfl, .refused⟩
  | unnamed inquiries zero =>
    rw [List.append_assoc] at answers
    obtain rfl := finished inquiries answers
    obtain ⟨size, -, total⟩ := inquiries.sumSizes?_of_finished few
    obtain ⟨record, queries, answer, rest, written, asked, rfl, named, rfl⟩ :=
      inquiries.registration_passed few passes
    obtain ⟨reply, rfl, rfl⟩ := Device.orFault_eq_ok_iff.mp named.symm
    exact ⟨record, queries, size, _, [], written, asked, total, rfl, .unnamed zero⟩
  | named inquiries summed named attempt =>
    rw [List.append_assoc] at answers
    obtain rfl := finished inquiries answers
    obtain ⟨size, known, total⟩ := inquiries.sumSizes?_of_finished few
    rw [summed, Option.some.injEq] at known
    subst known
    obtain ⟨record, queries, answer, rest, written, asked, rfl, registered, others⟩ :=
      inquiries.registration_passed few passes
    obtain ⟨reply, rfl, rfl⟩ := Device.orFault_eq_ok_iff.mp registered.symm
    exact ⟨record, queries, _, _, rest, written, asked, total, rfl,
      attempt.device_sequel named written others⟩

/-- What a device reports can be registered.  Whatever it answers to queries for at most sixteen
blocks, where each answer fits the length given for it the buffer of the blocks resolved has a
record under every name, and the record is read as that buffer.  So a remap on the device that has
resolved its blocks always passes their record on to be registered.  Where the mapping then fails it
always passes the same record on to be given up, and no fault that ends it is one of writing a
record. -/
theorem resolved_blocks_registrable {κ : Type} :
    (∀ (reports : List (BlockRecord × UInt32)) (id : BufferId), reports.length ≤ 16 →
      (∀ report ∈ reports, ((Block.ofRecord report.1).fitLength report.2).outcome = .ok ()) →
        let buffer : Buffer :=
          { id
            blocks := reports.map fun report =>
              ((Block.ofRecord report.1).fitLength report.2).block }
        ∃ record, buffer.toRecord = .ok record ∧ Buffer.ofRecord record = .ok buffer) ∧
    ∀ (device : Device) (kernel : Kernel κ) (addresses : AddressMap)
      (devicePtrs : List DevicePtr) (lengths : List UInt32) (state : κ) (ledger : MappingLedger),
      1 ≤ devicePtrs.length → devicePtrs.length ≤ 16 → lengths.length = devicePtrs.length →
        let opening := device.answer kernel .openSession state
        let ran := device.run kernel (remap addresses devicePtrs lengths) state ledger
        opening.1 = .ok () → ∀ resolved,
          verdicts (device.answer kernel) addresses 0 opening.2 (devicePtrs.zip lengths) =
              resolved.map .ok →
            ∃ record queries size answer later,
              ({ id := 0, blocks := resolved } : Buffer).toRecord = .ok record ∧
              queries.map SystemEvent.request = (devicePtrs.map fun devicePtr =>
                .controlBlock TilerRequest.queryBlock { driverPtr := addresses devicePtr }) ∧
              size.toNat = totalLength lengths ∧
              ran.systemEvents = ⟨.openFile device.path Device.openFlags, .ok ()⟩ :: queries ++
                ⟨.controlBuffer TilerRequest.registerBuffer record, answer⟩ :: later ++
                [⟨.closeFile, ()⟩] ∧
              DeviceSequel record size answer later ran.value := by
  constructor
  case left =>
    intro reports id few fitted buffer
    have few : buffer.blocks.length ≤ maxBlocks := by
      rw [List.length_map]
      exact few
    refine Buffer.record_of_recordable few fun block member => ?_
    obtain ⟨report, reported, rfl⟩ := List.mem_map.mp member
    exact Block.recordable_fitLength (fitted report reported)
  case right =>
    intro device kernel addresses devicePtrs lengths state ledger nonempty few same opening ran
      opens resolved found
    let plain := (remap addresses devicePtrs lengths).run (device.answer kernel)
      { driver := state, ledger }
    have session : RemapSession addresses (devicePtrs.zip lengths) ran.dealings ran.value :=
      remapSession_of_run (Nat.ne_of_gt nonempty) few same
    have passes : device.Passes ran.dealings ran.systemEvents := Device.passes_run ..
    -- The verdicts are those of the device without a record, which answers in the same way.
    have trace : ran.trace = plain.trace :=
      (Device.run_recording (remap addresses devicePtrs lengths) state [] ledger).2.1
    have dealings : ran.dealings = plain.dealings := congrArg (List.filter Event.isDealing) trace
    have answers : World.Answers (device.answer kernel) { driver := state, ledger }
        ran.dealings := dealings ▸ Program.answers_run _ _
    obtain ⟨dealt, events, dialogue, answered⟩ := session.of_opened answers opens
    rw [events] at passes
    obtain ⟨_, _, whole, ⟨first, held, rfl, opened, passes⟩, _, _, rfl, ⟨_, rfl, -⟩, rfl⟩ :=
      Device.passes_append passes
    obtain rfl := Device.passed_of_openSession opened
    have short : (devicePtrs.zip lengths).length ≤ maxBlocks := by
      rw [List.length_zip]
      exact Nat.le_trans (Nat.min_le_left _ _) few
    obtain ⟨record, queries, size, answer, later, written, asked, total, rfl, sequel⟩ :=
      dialogue.device_sequel short answered found passes
    rw [List.map_snd_zip (Nat.le_of_eq same)] at total
    refine ⟨record, queries, size, answer, later, written, ?_, total, ?_, sequel⟩
    · rw [asked, systemCalls_blockQueries, List.map_fst_zip (Nat.le_of_eq same.symm)]
    · rw [whole]
      simp

/-- A device with a block of 64 rows of 4096 bytes, which it registers and then cannot map. -/
def Script.unmappable : Script :=
  { replies :=
      [{ setBlock := fun record =>
          { record with format := 1, extent := BlockRecord.areaExtent 4096 64 } },
        { setBuffer := fun record => { record with offset := 0x100000 } },
        { errno? := some Errno.outOfMemory }, {}] }

/-- The block is given up with the record that states it in full. -/
theorem resolved_blocks_registrable_unmappable :
    let record : BlockRecord :=
      { driverPtr := 0x61000000, format := 1, extent := BlockRecord.areaExtent 4096 64 }
    let block := ((Block.ofRecord record).fitLength 262144).block
    let ran := Device.run {} Script.answer
      (remap AddressMap.identity [0x61000000] [262144]) Script.unmappable {}
    (∃ written, ({ id := 0x100000, blocks := [block] } : Buffer).toRecord = .ok written ∧
      Buffer.ofRecord written = .ok { id := 0x100000, blocks := [block] }) ∧
    ∃ written reply, ({ blocks := [block] } : Buffer).toRecord = .ok written ∧
      .controlBuffer TilerRequest.registerBuffer written ∈ ran.systemRequests ∧
      .controlBuffer TilerRequest.unregisterBuffer { written with offset := reply } ∈
        ran.systemRequests := by
  intro record block ran
  obtain ⟨reported, remapped⟩ := @resolved_blocks_registrable Script
  have fitted : ((Block.ofRecord record).fitLength 262144).outcome = .ok () := by decide +kernel
  constructor
  · exact reported [(record, 262144)] 0x100000 (by decide) (by simpa using fitted)
  · obtain ⟨written, queries, size, answer, later, known, asked, _, events, sequel⟩ :=
      remapped {} Script.answer AddressMap.identity [0x61000000] [262144] Script.unmappable {}
        (by decide) (by decide) rfl rfl [block] rfl
    have requests : ran.systemRequests = _ := congrArg (List.map SystemEvent.request) events
    have six : ran.systemRequests.length = 6 := by decide +kernel
    simp only [List.map_append, List.map_cons, asked] at requests
    rw [requests] at six ⊢
    generalize ran.value = result at sequel
    cases sequel with
    | refused | unnamed | mapped => simp at six
    | @givenUp reply _ _ _ | @leftBehind reply _ _ _ =>
      exact ⟨written, reply.offset, known, by simp, by simp⟩

end TilerMapping
