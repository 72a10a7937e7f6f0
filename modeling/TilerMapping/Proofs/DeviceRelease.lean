/-
Module: TilerMapping.Proofs.DeviceRelease
Purpose: What a demap passes to a device once the query of its buffer was answered.
Main exports: Buffer.toNat_totalSize_recorded, Buffer.toRecord_recorded, run_demap_read,
  run_demap_unread, demap_releases_any_reply
-/
import TilerMapping.Proofs.Completion
import TilerMapping.Proofs.Recording
import TilerMapping.Proofs.RoundTrip
import TilerMapping.ScriptedKernel

namespace TilerMapping

/-!
The reply to the query of a buffer goes through a buffer of blocks and comes out as a record again,
with which the buffer is given up, and as a size, with which its mapping is removed.  Nothing on
this way depends on what the reply states but for its count: blocks that were read have a record,
the name is the one that was taken, and a size that a record can state is a word.
-/

/-! ### Replies -/

namespace Buffer

/-- The size of blocks read from a record is their sum; it is not cut off. -/
theorem toNat_totalSize_recorded (record : BufferRecord) {used : Nat} (few : used ≤ maxBlocks)
    (id : BufferId) :
    ({ id, blocks := recorded record used } : Buffer).totalSize.toNat =
      exactSize (recorded record used) := by
  obtain ⟨size, summed, whole⟩ := totalSize?_recorded record few id
  rw [totalSize_of_sumSizes? summed, whole]

/-- Blocks that were read are written under any name. -/
theorem toRecord_recorded {record : BufferRecord} {used : Nat}
    (known : usedSlots? record = some used) (id : BufferId) :
    ({ id, blocks := recorded record used } : Buffer).toRecord =
      .ok { record.cleared with offset := id } :=
  toRecord_rename (toRecord_of_ofRecord (ofRecord_eq_ok_iff.mpr ⟨used, known, rfl⟩)) id

end Buffer

/-! ### Demaps after a reply -/

section Replied

variable {κ : Type} {device : Device} {kernel : Kernel κ} {state opened queried : κ}
  {ledger : MappingLedger} {address : Address} {id : BufferId} {reply : BufferRecord}

/-- The system events up to the reply. -/
def repliedEvents (device : Device) (id : BufferId) (reply : BufferRecord) : List SystemEvent :=
  [⟨.openFile device.path Device.openFlags, .ok ()⟩,
    ⟨.controlBuffer TilerRequest.queryBuffer { offset := id }, .ok reply⟩]

/-- A reply that states a buffer is passed back, and its mapping is removed. -/
theorem run_demap_read {used : Nat} (found : ledger.entries.find? address = some id)
    (opens : device.answer kernel .openSession state = (.ok (), opened))
    (replies : kernel (.controlBuffer TilerRequest.queryBuffer { offset := id }) opened =
      (.ok reply, queried))
    (possible : Buffer.usedSlots? reply = some used) :
    ∃ unregistered unmapped,
      (device.run kernel (demap address) state ledger).systemEvents =
        repliedEvents device id reply ++
          [⟨.controlBuffer TilerRequest.unregisterBuffer { reply.cleared with offset := id },
              unregistered⟩,
            ⟨.unmapMemory (Page.alignDown address)
              ({ id, blocks := Buffer.recorded reply used } : Buffer).totalSize, unmapped⟩,
            ⟨.closeFile, ()⟩] := by
  let world : World (κ × List SystemEvent) := { driver := (state, []), ledger }
  have found : world.ledger.entries.find? address = some id := found
  obtain ⟨passable, asked⟩ := Device.answer_openSession_ok opens
  have read := Buffer.ofRecord_eq_ok_iff.mpr ⟨used, possible, rfl⟩
  have written := Buffer.toRecord_recorded possible id
  rcases unregisters : kernel (.controlBuffer TilerRequest.unregisterBuffer
    { reply.cleared with offset := id }) queried with ⟨unregistered, left⟩
  rcases unmaps : kernel (.unmapMemory (Page.alignDown address)
    ({ id, blocks := Buffer.recorded reply used } : Buffer).totalSize) left with ⟨unmapped, removed⟩
  obtain ⟨-, ended, -⟩ := run_demap_hit found (Device.openSession_recorded passable asked [])
    (Device.queryBuffer_recorded_ok replies read _)
    (Device.unregister_recorded written unregisters _) (Device.unmap_recorded unmaps _)
  refine ⟨unregistered, unmapped, ?_⟩
  rw [Run.systemEvents, Device.run, ended]
  simp [repliedEvents]

/-- A reply that states no buffer ends the demap. -/
theorem run_demap_unread {fault : IoFault} (found : ledger.entries.find? address = some id)
    (opens : device.answer kernel .openSession state = (.ok (), opened))
    (replies : kernel (.controlBuffer TilerRequest.queryBuffer { offset := id }) opened =
      (.ok reply, queried))
    (unread : Buffer.ofRecord reply = .error fault) :
    let ran := device.run kernel (demap address) state ledger
    ran.value = .error (.bufferQuery fault) ∧
      ran.systemEvents = repliedEvents device id reply ++ [⟨.closeFile, ()⟩] := by
  intro ran
  let world : World (κ × List SystemEvent) := { driver := (state, []), ledger }
  have found : world.ledger.entries.find? address = some id := found
  obtain ⟨passable, asked⟩ := Device.answer_openSession_ok opens
  obtain ⟨value, ended⟩ := run_demap_unqueried found (Device.openSession_recorded passable asked [])
    (Device.queryBuffer_recorded_unread replies unread _)
  have ended : ran.world.driver = _ := ended
  refine ⟨value, ?_⟩
  rw [Run.systemEvents, ended]
  simp [repliedEvents]

end Replied

/-- Once the device is open and the query of the buffer behind an entry is answered, a demap depends
on the reply for its count only.  If that is from 0 to 16, the record that is passed on to give up
the buffer states what the reply states in the slots that it uses, under the name of the entry
whatever the name in the reply, and nothing else; and then, whatever came of this, the mapping is
removed once, from the page of the address on and as long as the blocks of the reply are together.
If not, the demap ends with a fault of the query, and nothing is given up or removed. -/
theorem demap_releases_any_reply {κ : Type} (device : Device) (kernel : Kernel κ)
    (state opened queried : κ) (ledger : MappingLedger) (address : Address) (id : BufferId)
    (reply : BufferRecord) (recorded : ledger.entries.find? address = some id)
    (opens : device.answer kernel .openSession state = (.ok (), opened))
    (replies : kernel (.controlBuffer TilerRequest.queryBuffer { offset := id }) opened =
      (.ok reply, queried)) :
    let ran := device.run kernel (demap address) state ledger
    (∀ used : Nat, reply.count.toInt = used → used ≤ 16 →
      ∃ record size unregistered unmapped,
        ({ id, blocks := Buffer.recorded reply used } : Buffer).toRecord = .ok record ∧
        record.count = reply.count ∧ record.offset = id ∧
        (∀ slot : Fin maxBlocks, record.slots.get slot =
          if (slot : Nat) < used then reply.slots.get slot
          else { format := 0, extent := 0, stride := 0, address := 0, driverPtr := 0 }) ∧
        size.toNat = Buffer.exactSize (Buffer.recorded reply used) ∧
        ran.systemEvents =
          [⟨.openFile device.path Device.openFlags, .ok ()⟩,
            ⟨.controlBuffer TilerRequest.queryBuffer { offset := id }, .ok reply⟩,
            ⟨.controlBuffer TilerRequest.unregisterBuffer record, unregistered⟩,
            ⟨.unmapMemory (Page.alignDown address) size, unmapped⟩,
            ⟨.closeFile, ()⟩]) ∧
    (reply.count.toInt < 0 ∨ 16 < reply.count.toInt →
      ran.value = .error (.bufferQuery (.described .invalidData
        ("driver reported " ++ Numeral.signedDecimal reply.count.toInt ++ " blocks"))) ∧
      ran.systemEvents =
        [⟨.openFile device.path Device.openFlags, .ok ()⟩,
          ⟨.controlBuffer TilerRequest.queryBuffer { offset := id }, .ok reply⟩,
          ⟨.closeFile, ()⟩]) := by
  intro ran
  constructor
  case left =>
    intro used count few
    have possible := Buffer.usedSlots?_eq_some_iff.mpr ⟨count, few⟩
    have written := Buffer.toRecord_recorded possible id
    have slots := reply.get_cleared
    have counted := reply.cleared_count
    obtain ⟨unregistered, unmapped, events⟩ := run_demap_read recorded opens replies possible
    -- What is left to say of the cleared record are these two facts.
    generalize reply.cleared = cleared at written slots counted events
    refine ⟨{ cleared with offset := id }, _, unregistered, unmapped, written, counted, rfl,
      fun slot => ?_, Buffer.toNat_totalSize_recorded reply few id, events⟩
    rw [slots slot, count]
    simp only [Int.ofNat_lt]
  case right =>
    intro impossible
    refine run_demap_unread recorded opens replies ?_
    rw [Buffer.ofRecord_eq, Buffer.usedSlots?_eq_none_iff.mpr impossible]

/-- A device that answers the query of any buffer with one block in use, in a slot of format 4 with
the extent 0xffffffff, and another name, and fails to give the buffer up. -/
def Script.renaming : Script :=
  { replies :=
      [{ setBuffer := fun _ =>
          { count := 1
            slots := Vector.replicate maxBlocks { format := 4, extent := 0xffffffff }
            offset := 7 } },
        { errno? := some Errno.ioError }, {}] }

theorem demap_releases_any_reply_renaming :
    let ledger : MappingLedger := { entries := ({} : Table Address BufferId).insert 0x40000234 5 }
    let ran := Device.run {} Script.answer (demap 0x40000234) Script.renaming ledger
    ∃ record size, record.count = 1 ∧ record.offset = 5 ∧ size.toNat = 0xffffffff ∧
      ran.systemRequests =
        [.openFile "/dev/tiler" Device.openFlags,
          .controlBuffer TilerRequest.queryBuffer { offset := 5 },
          .controlBuffer TilerRequest.unregisterBuffer record,
          .unmapMemory 0x40000000 size, .closeFile] := by
  intro ledger ran
  obtain ⟨released, -⟩ := demap_releases_any_reply {} Script.answer Script.renaming Script.renaming
    Script.renaming.next.2 ledger 0x40000234 5 _ (by decide) rfl rfl
  obtain ⟨record, size, _, _, _, count, name, _, total, events⟩ := released 1 rfl (by decide)
  refine ⟨record, size, count, name, total.trans (by decide), ?_⟩
  exact congrArg (List.map SystemEvent.request) events

end TilerMapping
