/-
Module: TilerMapping.Proofs.Passage
Purpose: What the dealings of a run pass on to the operating system, and how its answers come back.
Main exports: Exchange.Gives, Device.Passes, Device.passes_append, Device.requests_of_passes,
  Device.passes_run
-/
import TilerMapping.Proofs.Dealings
import TilerMapping.Proofs.Recording

namespace TilerMapping

/-!
The ways that a remap or a demap can go are told in session calls and their answers.  On a device
each of these has at most one system call behind it, and was answered as the system call was.  So
the system calls of a recorded run, with their answers, are read off its dealings one by one
(`Device.passes_run`), without a look at the program.
-/

variable {κ α : Type} {device : Device} {kernel : Kernel κ}

/-! ### Exchanges -/

/-- The answer of an exchange comes with these system events. -/
def Exchange.Gives : Exchange α → α → List SystemEvent → Prop
  | .here value, answer, passed => passed = [] ∧ answer = value
  | .ask request next, answer, passed => ∃ reply, passed = [⟨request, reply⟩] ∧ answer = next reply

/-- An exchange with an operating system that keeps a record adds its system events to that. -/
theorem Exchange.gives_run (exchange : Exchange α) (state : κ) (log : List SystemEvent) :
    ∃ passed, (exchange.run kernel.recording (state, log)).2.2 = log ++ passed ∧
      exchange.Gives (exchange.run kernel.recording (state, log)).1 passed := by
  cases exchange with
  | here value => exact ⟨[], (List.append_nil log).symm, rfl, rfl⟩
  | ask request next => exact ⟨[⟨request, (kernel request state).1⟩], rfl, _, rfl, rfl⟩

theorem Exchange.requests_of_gives {exchange : Exchange α} {answer : α} {passed : List SystemEvent}
    (gives : exchange.Gives answer passed) :
    passed.map SystemEvent.request = exchange.systemCall?.toList := by
  cases exchange with
  | here value =>
    rw [gives.1]
    rfl
  | ask request next =>
    obtain ⟨reply, rfl, _⟩ := gives
    rfl

/-! ### Dealings -/

namespace Device

/-- Events pass on the system events of their session calls, in order.  What they deal with the
ledger or the log has none. -/
def Passes (device : Device) : List Event → List SystemEvent → Prop
  | [], passed => passed = []
  | ⟨.call request, answer⟩ :: rest, passed =>
    ∃ first others, passed = first ++ others ∧ (device.exchange request).Gives answer first ∧
      device.Passes rest others
  | _ :: rest, passed => device.Passes rest passed

theorem passes_append {first second : List Event} {passed : List SystemEvent}
    (passes : device.Passes (first ++ second) passed) :
    ∃ before after, passed = before ++ after ∧ device.Passes first before ∧
      device.Passes second after := by
  induction first generalizing passed with
  | nil => exact ⟨[], passed, rfl, rfl, passes⟩
  | cons event rest ih =>
    obtain ⟨effect, answer⟩ := event
    cases effect with
    | call request =>
      obtain ⟨here, others, rfl, gives, passes⟩ := passes
      obtain ⟨before, after, rfl, left, right⟩ := ih passes
      exact ⟨here ++ before, after, (List.append_assoc ..).symm, ⟨here, before, rfl, gives, left⟩,
        right⟩
    | _ => exact ih passes

/-- What is passed on are the system calls of the session calls. -/
theorem requests_of_passes {events : List Event} {passed : List SystemEvent}
    (passes : device.Passes events passed) :
    passed.map SystemEvent.request = device.systemCalls (events.filterMap Event.call?) := by
  induction events generalizing passed with
  | nil =>
    rw [show passed = [] from passes]
    rfl
  | cons event rest ih =>
    obtain ⟨effect, answer⟩ := event
    cases effect with
    | call request =>
      obtain ⟨here, others, rfl, gives, passes⟩ := passes
      rw [List.map_append, Exchange.requests_of_gives gives, ih passes, List.filterMap_cons,
        Event.call?_call, systemCalls, systemCalls, List.filterMap_cons]
      cases (device.exchange request).systemCall? <;> rfl
    | _ => exact ih passes

/-- A program adds the system events that its dealings pass on to the record. -/
theorem passes_recording (program : Program α) (state : κ) (log : List SystemEvent)
    (ledger : MappingLedger) :
    ∃ passed,
      (program.run (device.answer kernel.recording)
        { driver := (state, log), ledger }).world.driver.2 = log ++ passed ∧
      device.Passes (program.run (device.answer kernel.recording)
        { driver := (state, log), ledger }).dealings passed := by
  induction program generalizing state log ledger with
  | done value => exact ⟨[], (List.append_nil log).symm, rfl⟩
  | step effect next ih =>
    rw [Program.dealings_step, Program.run_step]
    cases effect with
    | call request =>
      obtain ⟨here, added, gives⟩ :=
        @Exchange.gives_run _ _ kernel (device.exchange request) state log
      rcases answered : (device.exchange request).run kernel.recording (state, log) with
        ⟨answer, after, all⟩
      rw [answered] at added gives
      have reached : World.perform (device.answer kernel.recording) (.call request)
          { driver := (state, log), ledger } = (answer, { driver := (after, all), ledger }) := by
        rw [World.perform, Device.answer, answered]
      obtain ⟨others, left, passes⟩ := ih answer after all ledger
      rw [reached]
      refine ⟨here ++ others, ?_, here, others, rfl, gives, passes⟩
      rw [← List.append_assoc, ← show all = log ++ here from added]
      exact left
    | record address id =>
      cases stored : ledger.record address id with
      | error abort =>
        simp only [World.perform, stored]
        exact ih _ state log ledger
      | ok pair =>
        simp only [World.perform, stored]
        exact ih _ state log pair.1
    | take address => exact ih _ state log _
    | log notice => exact ih _ state log ledger

/-- The system events of a recorded run are those that its dealings pass on. -/
theorem passes_run (program : Program α) (state : κ) (ledger : MappingLedger) :
    device.Passes (device.run kernel program state ledger).dealings
      (device.run kernel program state ledger).systemEvents := by
  obtain ⟨passed, left, passes⟩ :=
    @passes_recording _ _ device kernel program state [] ledger
  have left : (device.run kernel program state ledger).systemEvents = passed := left
  rw [left]
  exact passes

/-! ### Session calls -/

variable {passed : List SystemEvent}

theorem passed_of_openSession
    (gives : (device.exchange .openSession).Gives (.ok ()) passed) :
    passed = [⟨.openFile device.path openFlags, .ok ()⟩] := by
  by_cases zero : device.path.toList.contains '\x00' = true
  · simp only [exchange, if_pos zero] at gives
    cases gives.2
  · simp only [exchange, if_neg zero] at gives
    obtain ⟨reply, rfl, answered⟩ := gives
    cases reply with
    | error code => cases answered
    | ok => rfl

/-- A block that was found is the one that a reply of the device states. -/
theorem reply_of_queryBlock {block found : Block}
    (gives : (device.exchange (.queryBlock block)).Gives (.ok found) passed) :
    ∃ reply, found = Block.ofRecord reply := by
  cases written : block.toRecord with
  | error fault =>
    simp only [exchange, written] at gives
    cases gives.2
  | ok record =>
    simp only [exchange, written] at gives
    obtain ⟨reply, -, answered⟩ := gives
    cases reply with
    | error code => cases answered
    | ok reply =>
      cases answered
      exact ⟨reply, rfl⟩

/-- A buffer that has a record is registered with it. -/
theorem passed_of_register {buffer : Buffer} {record : BufferRecord}
    {answer : Except IoFault Buffer} (written : buffer.toRecord = .ok record)
    (gives : (device.exchange (.register buffer)).Gives answer passed) :
    ∃ reply, passed = [⟨.controlBuffer TilerRequest.registerBuffer record, reply⟩] ∧
      answer = orFault (fun reply => { buffer with id := reply.offset }) reply := by
  simp only [exchange, written] at gives
  exact gives

/-- A buffer that has a record is given up with it. -/
theorem passed_of_unregister {buffer : Buffer} {record : BufferRecord}
    {answer : Except IoFault Unit} (written : buffer.toRecord = .ok record)
    (gives : (device.exchange (.unregister buffer)).Gives answer passed) :
    ∃ reply, passed = [⟨.controlBuffer TilerRequest.unregisterBuffer record, reply⟩] ∧
      answer = orFault (fun _ => ()) reply := by
  simp only [exchange, written] at gives
  exact gives

theorem orFault_eq_error_iff {β γ : Type} {f : β → γ} {answer : Except Errno β} {source : IoFault} :
    orFault f answer = .error source ↔ ∃ code, answer = .error code ∧ source = .os code := by
  cases answer with
  | ok value => simp [orFault]
  | error code => simp [orFault, eq_comm]

theorem orFault_eq_ok_iff {β γ : Type} {f : β → γ} {answer : Except Errno β} {value : γ} :
    orFault f answer = .ok value ↔ ∃ reply, answer = .ok reply ∧ value = f reply := by
  cases answer with
  | ok value => simp [orFault, eq_comm]
  | error code => simp [orFault]

end Device

end TilerMapping
