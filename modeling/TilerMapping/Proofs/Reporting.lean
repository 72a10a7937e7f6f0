/-
Module: TilerMapping.Proofs.Reporting
Purpose: Every fault is reported once, after everything else, and warnings are those that are due.
Main exports: RemapTranscript, remap_tracing, DemapTranscript, demap_tracing, ReportedLast,
  faults_logged_once
-/
import TilerMapping.Proofs.Protocol
import TilerMapping.Proofs.Status
import TilerMapping.Proofs.Warnings

namespace TilerMapping

/-!
A fault is reported in one of three places: where the driver cannot be opened, at the end of a
remap, or at the end of a demap.  The relations below tell the first and the last events of each
call and leave what is between them to the session, which reports no fault.  So the one report of a
call that fails can be pointed at, and stands last.
-/

/-! ### Whole calls -/

/-- What a remap with possible counts does, from its first event to its last.  It reports when it
has done everything else, and that means: after the session was closed, if there was one. -/
inductive RemapTranscript (ledger : MappingLedger) (lengths : List UInt32) :
    List Event → Except Stop MappedBuffer → Prop
  | refused {source : IoFault} :
      RemapTranscript ledger lengths
        [⟨.call .openSession, .error source⟩, ⟨.log (.sessionRefused source), ()⟩]
        (.error (.fault (.session source)))
  | failed {events : List Event} {fault : Fault} (told : Told ledger lengths events) :
      RemapTranscript ledger lengths
        (⟨.call .openSession, .ok ()⟩ :: events ++
          [⟨.call .closeSession, ()⟩, ⟨.log (.remapFailed fault), ()⟩])
        (.error (.fault fault))
  | mapped {events : List Event} {mapped : MappedBuffer} (told : Told ledger lengths events) :
      RemapTranscript ledger lengths
        (⟨.call .openSession, .ok ()⟩ :: events ++
          [⟨.call .closeSession, ()⟩, ⟨.log (.remapped mapped.address), ()⟩])
        (.ok mapped)
  | abandoned {events : List Event} {abort : Abort} (told : Told ledger lengths events) :
      RemapTranscript ledger lengths
        (⟨.call .openSession, .ok ()⟩ :: events ++ [⟨.call .closeSession, ()⟩])
        (.error (.abort abort))

/-- Events report no fault and warn of nothing. -/
structure Silent (events : List Event) : Prop where
  unreported : Event.noticesAt .error events = []
  unwarned : Event.noticesAt .warn events = []

/-- What a demap does, from its first event to its last. -/
inductive DemapTranscript (address : Address) : List Event → Except Fault Unit → Prop
  | refused {source : IoFault} :
      DemapTranscript address
        [⟨.call .openSession, .error source⟩, ⟨.log (.demapFailed address (.session source)), ()⟩]
        (.error (.session source))
  | failed {events : List Event} {fault : Fault} (silent : Silent events) :
      DemapTranscript address
        (⟨.call .openSession, .ok ()⟩ :: events ++
          [⟨.call .closeSession, ()⟩, ⟨.log (.demapFailed address fault), ()⟩])
        (.error fault)
  | released {events : List Event} (silent : Silent events) :
      DemapTranscript address
        (⟨.call .openSession, .ok ()⟩ :: events ++ [⟨.call .closeSession, ()⟩]) (.ok ())

section Programs

open TilerMapping.Action

variable {ledger : MappingLedger}

theorem remap_tracing {addresses : AddressMap} {devicePtrs : List DevicePtr}
    {lengths : List UInt32} (nonempty : devicePtrs.length ≠ 0) (few : devicePtrs.length ≤ maxBlocks)
    (same : lengths.length = devicePtrs.length) :
    (remap addresses devicePtrs lengths).wp .tracing
      (fun result transcript => RemapTranscript ledger lengths transcript.events result)
      { ledger } := by
  unfold remap
  simp only
  rw [if_neg (by omega), if_neg (by omega), Program.wp_bind]
  apply Program.inSession_tracing
  · intro source _ _
    exact .refused
  · apply mapBlocks_tracing
    intro after events result told
    rw [List.map_snd_zip (Nat.le_of_eq same)] at told
    simp only [Program.wp_bind]
    cases result with
    | ok mapped =>
      apply Program.tracing_log
      rw [List.append_assoc]
      exact .mapped told
    | error stop =>
      cases stop with
      | fault fault =>
        apply Program.tracing_log
        rw [List.append_assoc]
        exact .failed told
      | abort abort => exact .abandoned told

theorem releaseBuffer_tracing {address : Address} {before : List Event}
    {good : Except Fault Unit → Transcript → Prop}
    (ends : ∀ after events result, Silent events →
      good result { ledger := after, events := before ++ events }) :
    (releaseBuffer address).run.wp .tracing good { ledger, events := before } := by
  unfold releaseBuffer
  apply tracing_take
  intro answer after
  cases answer with
  | none => exact ends _ _ (.error _) ⟨rfl, rfl⟩
  | some id =>
    apply tracing_log
    apply tracing_call
    intro answer
    simp only [List.append_assoc]
    apply wp_orElse
    case unknown =>
      rintro source rfl
      exact ends _ _ (.error _) ⟨rfl, rfl⟩
    rintro buffer rfl
    unfold releaseQueried
    apply tracing_log
    apply tracing_log
    apply tracing_call
    intro unregistered
    apply tracing_log
    apply tracing_call
    intro unmapped
    simp only [List.append_assoc]
    exact wp_answer (ends _ _ _ ⟨rfl, rfl⟩)

theorem demap_tracing (address : Address) :
    (demap address).wp .tracing
      (fun result transcript => DemapTranscript address transcript.events result) { ledger } := by
  unfold demap openAndRelease
  rw [Program.wp_bind, Program.wp_bind]
  apply Program.inSession_tracing
  · intro source _ _
    exact .refused
  · apply releaseBuffer_tracing
    intro after events result silent
    cases result with
    | ok => exact .released silent
    | error fault =>
      simp only
      apply Program.tracing_log
      rw [List.append_assoc]
      exact .failed silent

end Programs

/-! ### Reports of faults -/

/-- The log record with which a remap reports a fault. -/
inductive Fault.RemapReport : Fault → Notice → Prop
  | sessionRefused {source : IoFault} : RemapReport (.session source) (.sessionRefused source)
  | remapFailed {fault : Fault} : RemapReport fault (.remapFailed fault)

/-- Among events there is one error record, after everything else.  A session that was opened has
been closed. -/
structure ReportedLast (notice : Notice) (events : List Event) : Prop where
  once : Event.noticesAt .error events = [notice]
  last : events.getLast? = some ⟨.log notice, ()⟩
  closed : ⟨.call .openSession, .ok ()⟩ ∈ events → ⟨.call .closeSession, ()⟩ ∈ events

variable {ledger : MappingLedger} {lengths : List UInt32} {events closing : List Event}
  {notice : Notice}

/-- The opening of a session is no log record. -/
theorem Event.noticesAt_session (level : LogLevel) :
    noticesAt level (⟨.call .openSession, .ok ()⟩ :: events ++ closing) =
      noticesAt level events ++ noticesAt level closing :=
  noticesAt_append level events closing

theorem ReportedLast.of_refused {source : IoFault} (level : notice.level = .error) :
    ReportedLast notice [⟨.call .openSession, .error source⟩, ⟨.log notice, ()⟩] where
  once := Event.noticesAt_log level
  last := rfl
  closed opened := by simp at opened

theorem ReportedLast.of_closed (unreported : Event.noticesAt .error events = [])
    (level : notice.level = .error) :
    ReportedLast notice (⟨.call .openSession, .ok ()⟩ :: events ++
      [⟨.call .closeSession, ()⟩, ⟨.log notice, ()⟩]) where
  once := by
    rw [Event.noticesAt_session, unreported, List.nil_append]
    exact Event.noticesAt_log level
  last := by
    rw [List.getLast?_append]
    rfl
  closed _ := by simp

/-- The events around a session add nothing to its warnings, due or emitted. -/
theorem Told.warned_session (told : Told ledger lengths events)
    (unwarned : Event.noticesAt .warn closing = [])
    (unfound : closing.filterMap Event.foundBlock? = [])
    (unrecorded : closing.filterMap Event.recordedAddress? = []) :
    let all := ⟨.call .openSession, .ok ()⟩ :: events ++ closing
    Event.noticesAt .warn all =
      Event.widthWarnings lengths all ++ Event.replacementWarnings ledger all := by
  intro all
  rw [Event.noticesAt_session, unwarned, List.append_nil, told.warned,
    Event.widthWarnings_append_of_unfound unfound, Event.replacementWarnings,
    Event.replacementWarnings, List.filterMap_append, unrecorded, List.append_nil]
  -- Opening a session finds no block and records no address.
  rfl

namespace RemapTranscript

theorem reported {fault : Fault}
    (transcript : RemapTranscript ledger lengths events (.error (.fault fault))) :
    ∃ notice, fault.RemapReport notice ∧ ReportedLast notice events := by
  cases transcript with
  | refused => exact ⟨_, .sessionRefused, .of_refused rfl⟩
  | failed told => exact ⟨_, .remapFailed, .of_closed told.unreported rfl⟩

theorem unreported {mapped : MappedBuffer}
    (transcript : RemapTranscript ledger lengths events (.ok mapped)) :
    Event.noticesAt .error events = [] := by
  cases transcript with
  | mapped told =>
    rw [Event.noticesAt_session, told.unreported]
    rfl

theorem warned {result : Except Stop MappedBuffer}
    (transcript : RemapTranscript ledger lengths events result) :
    Event.noticesAt .warn events =
      Event.widthWarnings lengths events ++ Event.replacementWarnings ledger events := by
  cases transcript with
  | refused => rfl
  | failed told => exact told.warned_session rfl rfl rfl
  | mapped told => exact told.warned_session rfl rfl rfl
  | abandoned told => exact told.warned_session rfl rfl rfl

end RemapTranscript

namespace DemapTranscript

variable {address : Address}

theorem reported {fault : Fault} (transcript : DemapTranscript address events (.error fault)) :
    ReportedLast (.demapFailed address fault) events := by
  cases transcript with
  | refused => exact .of_refused rfl
  | failed silent => exact .of_closed silent.unreported rfl

theorem unreported (transcript : DemapTranscript address events (.ok ())) :
    Event.noticesAt .error events = [] := by
  cases transcript with
  | released silent =>
    rw [Event.noticesAt_session, silent.unreported]
    rfl

theorem unwarned {result : Except Fault Unit}
    (transcript : DemapTranscript address events result) :
    Event.noticesAt .warn events = [] := by
  cases transcript with
  | refused => rfl
  | failed silent | released silent =>
    rw [Event.noticesAt_session, silent.unwarned]
    rfl

end DemapTranscript

variable {σ : Type} {driver : Driver σ} {world : World σ}

theorem remapTranscript_of_run {addresses : AddressMap} {devicePtrs : List DevicePtr}
    {lengths : List UInt32} (nonempty : devicePtrs.length ≠ 0) (few : devicePtrs.length ≤ maxBlocks)
    (same : lengths.length = devicePtrs.length) :
    RemapTranscript world.ledger lengths
      ((remap addresses devicePtrs lengths).run driver world).trace
      ((remap addresses devicePtrs lengths).run driver world).value :=
  Program.wp_tracing_run (remap_tracing nonempty few same)

theorem demapTranscript_of_run (address : Address) :
    DemapTranscript address ((demap address).run driver world).trace
      ((demap address).run driver world).value :=
  Program.wp_tracing_run (demap_tracing address)

/-- Every fault is reported once.

A remap with an impossible number of blocks or lengths ends with a fault and does nothing, so it
reports nothing.  Any other remap that ends with a fault, and any demap that does, emits one error
record, and this after everything else, the closing of a session that was opened included.  A call
that succeeds emits none.  The warnings of a remap are one for each block found whose range of page
widths has more than one element, and then one for each address recorded that the ledger had an
entry for; a demap warns of nothing.  All this holds of the calls that answer an address or a status
only, for they emit the same events. -/
theorem faults_logged_once {σ : Type} (driver : Driver σ) (world : World σ) :
    (∀ addresses devicePtrs lengths,
      let possible := 1 ≤ devicePtrs.length ∧ devicePtrs.length ≤ 16 ∧
        lengths.length = devicePtrs.length
      let ran := (remap addresses devicePtrs lengths).run driver world
      (¬possible → (∃ fault, ran.value = .error (.fault fault)) ∧ ran.trace = []) ∧
        (possible → ∀ fault, ran.value = .error (.fault fault) →
          ∃ notice, fault.RemapReport notice ∧ ReportedLast notice ran.trace) ∧
        (∀ mapped, ran.value = .ok mapped → Event.noticesAt .error ran.trace = []) ∧
        Event.noticesAt .warn ran.trace =
          Event.widthWarnings lengths ran.trace ++
            Event.replacementWarnings world.ledger ran.trace ∧
        ((remapPtr addresses devicePtrs lengths).run driver world).trace = ran.trace) ∧
    ∀ address,
      let ran := (demap address).run driver world
      (∀ fault, ran.value = .error fault →
          ReportedLast (.demapFailed address fault) ran.trace) ∧
        (ran.value = .ok () → Event.noticesAt .error ran.trace = []) ∧
        Event.noticesAt .warn ran.trace = [] ∧
        ((demapStatus address).run driver world).trace = ran.trace := by
  constructor
  · intro addresses devicePtrs lengths possible ran
    have answered : ((remapPtr addresses devicePtrs lengths).run driver world).trace =
        ran.trace := by
      rw [run_remapPtr]
    by_cases given : possible
    · have transcript : RemapTranscript world.ledger lengths ran.trace ran.value :=
        remapTranscript_of_run (Nat.ne_of_gt given.1) given.2.1 given.2.2
      refine ⟨fun impossible => absurd given impossible, fun _ fault failed => ?_,
        fun mapped ok => ?_, transcript.warned, answered⟩
      · rw [failed] at transcript
        exact transcript.reported
      · rw [ok] at transcript
        exact transcript.unreported
    · obtain ⟨fault, refused⟩ := @remap_of_impossible addresses _ _ given
      have ended : ran = (Program.done (.error (.fault fault))).run driver world :=
        congrArg (Program.run driver · world) refused
      rw [Program.run_done] at ended
      rw [ended] at answered ⊢
      exact ⟨fun _ => ⟨⟨fault, rfl⟩, rfl⟩, fun possible => absurd possible given,
        fun _ _ => rfl, rfl, answered⟩
  · intro address ran
    have transcript : DemapTranscript address ran.trace ran.value :=
      demapTranscript_of_run address
    refine ⟨fun fault failed => ?_, fun ok => ?_, transcript.unwarned, ?_⟩
    · rw [failed] at transcript
      exact transcript.reported
    · rw [ok] at transcript
      exact transcript.unreported
    · rw [run_demapStatus]

/-- Three page widths would suit the block, and its address stands for another buffer already: a
remap warns of both and reports no fault.  Where the block cannot be queried, the remap reports that
and warns of nothing.  A remap of no blocks reports nothing at all, and a demap of an unknown
address reports that. -/
theorem faults_logged_once_ambiguousWidth :
    let plane : Block :=
      { driverPtr := 0x60001234, format := .bit32, extent := .area 12288 17 }
    let driver : MemoryDriver :=
      { known := ({} : Table DriverPtr (Except IoFault Block)).insert 0x60001234 (.ok plane) }
    let failing := driver.setFailing .queryBlock (some (.os 5))
    let ledger : MappingLedger := { entries := ({} : Table Address BufferId).insert 0x40000234 5 }
    let request := remap AddressMap.identity [0x60001234] [8192]
    let mapped := request.run MemoryDriver.answer { driver, ledger }
    let failed := request.run MemoryDriver.answer { driver := failing, ledger }
    (Event.noticesAt .error mapped.trace = [] ∧
      Event.noticesAt .warn mapped.trace =
        [.geometry (.strideAmbiguous 1 3), .entryReplaced 0x40000234 5]) ∧
    (ReportedLast (.remapFailed (.blockQuery 0 (.os 5))) failed.trace ∧
      Event.noticesAt .warn failed.trace = []) ∧
    ((remap AddressMap.identity [] []).run MemoryDriver.answer { driver, ledger }).trace = [] ∧
    ReportedLast (.demapFailed 0x40000999 (.unknownAddress 0x40000999))
      ((demap 0x40000999).run MemoryDriver.answer { driver, ledger }).trace := by
  intro plane driver failing ledger request mapped failed
  obtain ⟨remaps, demaps⟩ := faults_logged_once MemoryDriver.answer { driver, ledger }
  obtain ⟨-, -, unreported, warned, -⟩ := remaps AddressMap.identity [0x60001234] [8192]
  obtain ⟨reported, -⟩ := demaps 0x40000999
  obtain ⟨rejected, -⟩ := remaps AddressMap.identity [] []
  obtain ⟨-, failedLast, -, failedWarned, -⟩ := (faults_logged_once MemoryDriver.answer
    { driver := failing, ledger }).1 AddressMap.identity [0x60001234] [8192]
  refine ⟨⟨?_, ?_⟩, ⟨?_, failedWarned⟩, (rejected (by decide)).2, reported _ rfl⟩
  · have ok : mapped.value.isOk = true := by decide +kernel
    cases ended : mapped.value with
    | ok value => exact unreported value ended
    | error stop =>
      rw [ended] at ok
      cases ok
  · have found : mapped.trace.filterMap Event.foundBlock? = [plane] := by decide +kernel
    have recorded : mapped.trace.filterMap Event.recordedAddress? = [0x40000234] := by
      decide +kernel
    have range : plane.widthRange? 8192 = some (1, 3) := by decide +kernel
    have due : plane.widthWarning? 8192 = some (.geometry (.strideAmbiguous 1 3)) := by
      rw [Block.widthWarning?, range]
      rfl
    have replaced : ledger.entries.find? 0x40000234 = some 5 := by decide
    rw [warned, Event.widthWarnings, Event.replacementWarnings, found, recorded]
    simp [due, MappingLedger.replacementWarning?, replaced]
  · obtain ⟨notice, report, last⟩ := failedLast (by decide) _ rfl
    cases report
    exact last

end TilerMapping
