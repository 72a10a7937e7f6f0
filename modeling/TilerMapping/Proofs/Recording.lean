/-
Module: TilerMapping.Proofs.Recording
Purpose: Operating systems that record their system calls, and the system calls behind the session
  calls of a device.
Main exports: SystemEvent, SystemEvent.Succeeded, Kernel.recording, Device.run,
  Device.run_recording, Device.answer_register_ok
-/
import TilerMapping.Device
import TilerMapping.Run

namespace TilerMapping

/-!
A run keeps the session calls of a program.  What the operating system was asked on its behalf, and
what it answered, is kept by the operating system: `Kernel.recording` adds a record of its system
calls to the state of any other, and answers as that one does (`Device.run_recording`).
-/

variable {κ α : Type} {device : Device} {kernel : Kernel κ}

/-! ### Records of system calls -/

/-- The error number that a system call answers, if it fails. -/
def SystemCall.failure? : (request : SystemCall) → request.Answer → Option Errno
  | .openFile _ _, .error code => some code
  | .controlBlock _ _, .error code => some code
  | .controlBuffer _ _, .error code => some code
  | .mapMemory _ _ _ _ _, .error code => some code
  | .unmapMemory _ _, .error code => some code
  | _, _ => none

/-- A system call that was made, and its answer. -/
structure SystemEvent where
  request : SystemCall
  answer : request.Answer

/-- The system call did not fail. -/
def SystemEvent.Succeeded (event : SystemEvent) : Prop :=
  event.request.failure? event.answer = none

instance (event : SystemEvent) : Decidable event.Succeeded :=
  inferInstanceAs (Decidable (_ = none))

/-- An operating system that records its system calls, in order, and answers as another one. -/
def Kernel.recording (kernel : Kernel κ) : Kernel (κ × List SystemEvent) :=
  fun request state =>
    let reply := kernel request state.1
    (reply.1, reply.2, state.2 ++ [⟨request, reply.1⟩])

theorem Kernel.recording_eq_iff {request : SystemCall} {before after : κ × List SystemEvent}
    {answer : request.Answer} :
    kernel.recording request before = (answer, after) ↔
      kernel request before.1 = (answer, after.1) ∧
        after.2 = before.2 ++ [⟨request, answer⟩] := by
  obtain ⟨left, log⟩ := after
  constructor
  · intro asked
    cases asked
    exact ⟨rfl, rfl⟩
  · rintro ⟨asked, rfl⟩
    simp only [recording, asked]

theorem Kernel.recording_of {request : SystemCall} {before after : κ} {answer : request.Answer}
    (asked : kernel request before = (answer, after)) (log : List SystemEvent) :
    kernel.recording request (before, log) = (answer, after, log ++ [⟨request, answer⟩]) :=
  recording_eq_iff.mpr ⟨asked, rfl⟩

/-- Run a program on a device, and record its system calls. -/
def Device.run (device : Device) (kernel : Kernel κ) (program : Program α) (state : κ)
    (ledger : MappingLedger) : Run (κ × List SystemEvent) α :=
  program.run (device.answer kernel.recording) { driver := (state, []), ledger }

namespace Run

variable (run : Run (κ × List SystemEvent) α)

/-- The system calls of a recorded run, with their answers. -/
def systemEvents : List SystemEvent := run.world.driver.2

/-- The system calls of a recorded run. -/
def systemRequests : List SystemCall := run.systemEvents.map SystemEvent.request

/-- The state in which a recorded run leaves the operating system. -/
def kernelState : κ := run.world.driver.1

end Run

/-! ### Recorded runs are runs -/

namespace Device

theorem systemCalls_append (first second : List Call) :
    device.systemCalls (first ++ second) = device.systemCalls first ++ device.systemCalls second :=
  List.filterMap_append

/-- A session call is answered alike with and without a record, and the record grows by its system
call. -/
theorem answer_recording (request : Call) (state : κ) (log : List SystemEvent) :
    let recorded := device.answer kernel.recording request (state, log)
    let plain := device.answer kernel request state
    recorded.1 = plain.1 ∧ recorded.2.1 = plain.2 ∧
      recorded.2.2.map SystemEvent.request =
        log.map SystemEvent.request ++ device.systemCalls [request] := by
  unfold answer systemCalls
  rcases exchanged : device.exchange request with value | ⟨asked, next⟩
  · simp [Exchange.run, Exchange.systemCall?, exchanged]
  · simp [Exchange.run, Exchange.systemCall?, exchanged, Kernel.recording]

/-- A recorded run ends as the run without a record, and the record lists the system calls of its
session calls. -/
theorem run_recording (program : Program α) (state : κ) (log : List SystemEvent)
    (ledger : MappingLedger) :
    let recorded := program.run (device.answer kernel.recording) { driver := (state, log), ledger }
    let plain := program.run (device.answer kernel) { driver := state, ledger }
    recorded.value = plain.value ∧ recorded.trace = plain.trace ∧
      recorded.world.ledger = plain.world.ledger ∧ recorded.world.driver.1 = plain.world.driver ∧
      recorded.world.driver.2.map SystemEvent.request =
        log.map SystemEvent.request ++ device.systemCalls plain.calls := by
  induction program generalizing state log ledger with
  | done value => simp [systemCalls, Run.calls]
  | step effect next ih =>
    cases effect with
    | call request =>
      obtain ⟨answered, left, grown⟩ := @answer_recording _ device kernel request state log
      rcases recorded : device.answer kernel.recording request (state, log) with
        ⟨answer, after, all⟩
      rcases plain : device.answer kernel request state with ⟨answer', after'⟩
      rw [recorded, plain] at answered left
      rw [recorded] at grown
      simp only at answered left grown
      subst answered left
      obtain ⟨value, events, ledgers, states, requests⟩ := ih answer after all ledger
      simp only [Program.run_step, World.perform, recorded, plain]
      refine ⟨value, by rw [events], ledgers, states, ?_⟩
      rw [requests, grown, List.append_assoc, ← systemCalls_append]
      rfl
    | record address id =>
      simp only [Program.run_step, World.perform]
      cases ledger.record address id with
      | error abort =>
        obtain ⟨value, events, rest⟩ := ih (.error abort) state log ledger
        exact ⟨value, congrArg _ events, rest⟩
      | ok stored =>
        obtain ⟨value, events, rest⟩ := ih (.ok stored.2) state log stored.1
        exact ⟨value, congrArg _ events, rest⟩
    | take address =>
      obtain ⟨value, events, rest⟩ := ih (ledger.take address).1 state log (ledger.take address).2
      exact ⟨value, congrArg _ events, rest⟩
    | log notice =>
      obtain ⟨value, events, rest⟩ := ih () state log ledger
      exact ⟨value, congrArg _ events, rest⟩

/-! ### Session calls that succeed -/

/-- A path without the character zero is passed on. -/
theorem answer_openSession (passable : '\x00' ∉ device.path.toList) (state : κ) :
    device.answer kernel .openSession state =
      let reply := kernel (.openFile device.path openFlags) state
      (orFault id reply.1, reply.2) := by
  have passes : ¬device.path.toList.contains '\x00' = true := by simpa using passable
  simp only [answer, exchange, if_neg passes, Exchange.run]

theorem answer_openSession_ok {state after : κ}
    (opens : device.answer kernel .openSession state = (.ok (), after)) :
    '\x00' ∉ device.path.toList ∧
      kernel (.openFile device.path openFlags) state = (.ok (), after) := by
  by_cases zero : '\x00' ∈ device.path.toList
  · simp [answer, exchange, zero, Exchange.run] at opens
  refine ⟨zero, ?_⟩
  rw [answer_openSession zero] at opens
  rcases asked : kernel (.openFile device.path openFlags) state with ⟨_ | _, left⟩
  · simp [asked, orFault] at opens
  · rw [asked] at opens
    cases opens
    rfl

/-- A block that was queried is the one that the reply of the device states. -/
theorem answer_queryBlock_ok {block found : Block} {state after : κ}
    (queries : device.answer kernel (.queryBlock block) state = (.ok found, after)) :
    ∃ record reply,
      kernel (.controlBlock TilerRequest.queryBlock record) state = (.ok reply, after) ∧
        found = Block.ofRecord reply := by
  cases written : block.toRecord with
  | error fault => simp [answer, exchange, written, Exchange.run] at queries
  | ok record =>
    simp only [answer, exchange, written, Exchange.run] at queries
    rcases asked : kernel (.controlBlock TilerRequest.queryBlock record) state with
      ⟨_ | reply, left⟩
    · simp [asked, orFault] at queries
    · rw [asked] at queries
      cases queries
      exact ⟨record, reply, asked, rfl⟩

/-- A registered buffer is the one that was to be registered, under the name of the reply. -/
theorem answer_register_ok {buffer named : Buffer} {state after : κ}
    (registers : device.answer kernel (.register buffer) state = (.ok named, after)) :
    ∃ record reply, buffer.toRecord = .ok record ∧
      kernel (.controlBuffer TilerRequest.registerBuffer record) state = (.ok reply, after) ∧
        named = { buffer with id := reply.offset } := by
  cases written : buffer.toRecord with
  | error fault => simp [answer, exchange, written, Exchange.run] at registers
  | ok record =>
    simp only [answer, exchange, written, Exchange.run] at registers
    rcases asked : kernel (.controlBuffer TilerRequest.registerBuffer record) state with
      ⟨_ | reply, left⟩
    · simp [asked, orFault] at registers
    · rw [asked] at registers
      cases registers
      exact ⟨record, reply, rfl, asked, rfl⟩

theorem answer_map_ok {size : ByteCount} {id : BufferId} {region : Region} {state after : κ}
    (maps : device.answer kernel (.map size id) state = (.ok region, after)) :
    kernel (.mapMemory 0 size mapProtection mapSharing id) state = (.ok region.base, after) ∧
      region.len = size := by
  simp only [answer, exchange, Exchange.run] at maps
  rcases asked : kernel (.mapMemory 0 size mapProtection mapSharing id) state with
    ⟨_ | base, left⟩
  · simp [asked, orFault] at maps
  · rw [asked] at maps
    cases maps
    exact ⟨rfl, rfl⟩

/-! ### Session calls of a demap, recorded -/

section Recorded

variable {state after : κ}

theorem openSession_recorded {answer : Except Errno Unit} (passable : '\x00' ∉ device.path.toList)
    (asked : kernel (.openFile device.path openFlags) state = (answer, after))
    (log : List SystemEvent) :
    device.answer kernel.recording .openSession (state, log) =
      (orFault id answer, after, log ++ [⟨.openFile device.path openFlags, answer⟩]) := by
  rw [answer_openSession passable, Kernel.recording_of asked]

theorem queryBuffer_recorded_error {name : BufferId} {code : Errno}
    (asked : kernel (.controlBuffer TilerRequest.queryBuffer { offset := name }) state =
      (.error code, after)) (log : List SystemEvent) :
    device.answer kernel.recording (.queryBuffer (Buffer.registered name)) (state, log) =
      (.error (.os code), after,
        log ++ [⟨.controlBuffer TilerRequest.queryBuffer { offset := name }, .error code⟩]) := by
  simp only [answer, exchange, Buffer.registered, Exchange.run, Kernel.recording_of asked]

/-- A buffer that was queried keeps its name. -/
theorem queryBuffer_recorded_ok {name : BufferId} {reply : BufferRecord} {queried : Buffer}
    (asked : kernel (.controlBuffer TilerRequest.queryBuffer { offset := name }) state =
      (.ok reply, after)) (read : Buffer.ofRecord reply = .ok queried)
    (log : List SystemEvent) :
    device.answer kernel.recording (.queryBuffer (Buffer.registered name)) (state, log) =
      (.ok { queried with id := name }, after,
        log ++ [⟨.controlBuffer TilerRequest.queryBuffer { offset := name }, .ok reply⟩]) := by
  simp only [answer, exchange, Buffer.registered, Exchange.run, Kernel.recording_of asked, read]

/-- A reply that states no buffer fails the query. -/
theorem queryBuffer_recorded_unread {name : BufferId} {reply : BufferRecord} {fault : IoFault}
    (asked : kernel (.controlBuffer TilerRequest.queryBuffer { offset := name }) state =
      (.ok reply, after)) (unread : Buffer.ofRecord reply = .error fault)
    (log : List SystemEvent) :
    device.answer kernel.recording (.queryBuffer (Buffer.registered name)) (state, log) =
      (.error fault, after,
        log ++ [⟨.controlBuffer TilerRequest.queryBuffer { offset := name }, .ok reply⟩]) := by
  simp only [answer, exchange, Buffer.registered, Exchange.run, Kernel.recording_of asked, unread]

theorem unregister_recorded {buffer : Buffer} {record : BufferRecord}
    {answer : Except Errno BufferRecord} (written : buffer.toRecord = .ok record)
    (asked : kernel (.controlBuffer TilerRequest.unregisterBuffer record) state =
      (answer, after)) (log : List SystemEvent) :
    device.answer kernel.recording (.unregister buffer) (state, log) =
      (orFault (fun _ => ()) answer, after,
        log ++ [⟨.controlBuffer TilerRequest.unregisterBuffer record, answer⟩]) := by
  simp only [Device.answer, exchange, written, Exchange.run, Kernel.recording_of asked]

theorem unmap_recorded {region : Region} {answer : Except Errno Unit}
    (asked : kernel (.unmapMemory region.base region.len) state = (answer, after))
    (log : List SystemEvent) :
    device.answer kernel.recording (.unmap region) (state, log) =
      (orFault id answer, after, log ++ [⟨.unmapMemory region.base region.len, answer⟩]) := by
  simp only [Device.answer, exchange, Exchange.run, Kernel.recording_of asked]

@[simp] theorem closeSession_recorded (before : κ × List SystemEvent) :
    (device.answer kernel.recording .closeSession before).2 =
      ((kernel .closeFile before.1).2, before.2 ++ [⟨.closeFile, ()⟩]) := rfl

end Recorded

end Device

end TilerMapping
