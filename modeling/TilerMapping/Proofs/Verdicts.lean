/-
Module: TilerMapping.Proofs.Verdicts
Purpose: Which block ends a remap and why, and what is asked of the driver until then.
Main exports: verdict, verdicts, Fault.block?, FailsFirst, translated, Sequel,
  Inquiries.verdicts_eq, Dialogue.stopped_or_registered, remap_stops_at_first_fault
-/
import TilerMapping.Proofs.Cleanup
import TilerMapping.Proofs.Completion

namespace TilerMapping

/-!
A block passes four stages: its device pointer has a driver pointer, the driver answers the query
for it, the block answered is allocated, and its geometry fits the length that the caller gave.
The verdict on a block is the fault of the first stage that it fails, or the block as it is
resolved.  Verdicts are given on every block of a call, one after the other, also on blocks that a
remap never comes to.  A remap ends at the first fault among them, and registers the blocks that
are resolved where there is none.
-/

/-! ### Verdicts -/

/-- What comes of a block whose query is answered in the given way. -/
def verdict (addresses : AddressMap) (index : Nat) (devicePtr : DevicePtr) (length : UInt32) :
    Except IoFault Block → Except Fault Block
  | .error source => .error (.blockQuery index source)
  | .ok found =>
    if found.driverPtr = 0 then
      .error (.unallocated index devicePtr (addresses devicePtr))
    else
      match (found.fitLength length).outcome with
      | .error source => .error (.geometry index source)
      | .ok () => .ok (found.fitLength length).block

/-- What comes of a block that a driver is asked for in a state, and the state that this leaves.  A
block without a driver pointer is not asked for. -/
def judge {σ : Type} (driver : Driver σ) (addresses : AddressMap) (index : Nat)
    (devicePtr : DevicePtr) (length : UInt32) (state : σ) : Except Fault Block × σ :=
  if addresses devicePtr = 0 then (.error (.noDriverAddress index devicePtr), state)
  else
    let reply := driver (.queryBlock (Block.ofPtr (addresses devicePtr))) state
    (verdict addresses index devicePtr length reply.1, reply.2)

/-- The verdicts on blocks that are asked for in order, counted from `index`. -/
def verdicts {σ : Type} (driver : Driver σ) (addresses : AddressMap) :
    Nat → σ → List (DevicePtr × UInt32) → List (Except Fault Block)
  | _, _, [] => []
  | index, state, (devicePtr, length) :: rest =>
    let judged := judge driver addresses index devicePtr length state
    judged.1 :: verdicts driver addresses (index + 1) judged.2 rest

/-- The index of the block that a fault is about, where it is the fault of a stage. -/
def Fault.block? : Fault → Option Nat
  | .noDriverAddress index _ => some index
  | .blockQuery index _ => some index
  | .unallocated index _ _ => some index
  | .geometry index _ => some index
  | _ => none

/-- The block at an index fails, and no block before it does. -/
def FailsFirst (found : List (Except Fault Block)) (index : Nat) (fault : Fault) : Prop :=
  found[index]? = some (.error fault) ∧
    ∀ earlier < index, ∃ block, found[earlier]? = some (.ok block)

/-- The requests for blocks that have driver pointers. -/
def translated (addresses : AddressMap) (requests : List (DevicePtr × UInt32)) :
    List (DevicePtr × UInt32) :=
  requests.filter fun request => addresses request.1 ≠ 0

/-- What a remap asks of the driver, as a registration was answered: a named buffer is mapped, and
given up where it cannot be mapped. -/
inductive Sequel (size : ByteCount) : Except IoFault Buffer → List Call → Prop
  | refused {source : IoFault} : Sequel size (.error source) []
  | unnamed {reply : Buffer} (zero : reply.id = 0) : Sequel size (.ok reply) []
  | mapped {reply : Buffer} (named : reply.id ≠ 0) : Sequel size (.ok reply) [.map size reply.id]
  | givenUp {reply : Buffer} (named : reply.id ≠ 0) :
      Sequel size (.ok reply) [.map size reply.id, .unregister reply]

theorem blockQueries_append (addresses : AddressMap)
    (first second : List (DevicePtr × UInt32)) :
    blockQueries addresses (first ++ second) =
      blockQueries addresses first ++ blockQueries addresses second := List.map_append

theorem translated_append (addresses : AddressMap) (first second : List (DevicePtr × UInt32)) :
    translated addresses (first ++ second) =
      translated addresses first ++ translated addresses second := List.filter_append _ _

/-- Where blocks are resolved up to a fault, that fault is the first one. -/
theorem failsFirst_append_iff {resolved : List Block} {fault other : Fault}
    {rest : List (Except Fault Block)} {index : Nat} :
    FailsFirst (resolved.map .ok ++ .error fault :: rest) index other ↔
      index = resolved.length ∧ other = fault := by
  constructor
  · rintro ⟨here, earlier⟩
    rcases Nat.lt_trichotomy index resolved.length with before | same | beyond
    · rw [List.getElem?_append_left (by simpa using before)] at here
      simp [List.getElem?_eq_getElem before] at here
    · subst same
      simp at here
      exact ⟨rfl, here.symm⟩
    · rcases earlier _ beyond with ⟨block, known⟩
      simp at known
  · rintro ⟨rfl, rfl⟩
    constructor
    · simp
    · intro earlier before
      refine ⟨resolved[earlier], ?_⟩
      rw [List.getElem?_append_left (by simpa using before)]
      simp [List.getElem?_eq_getElem before]

theorem not_failsFirst_map {resolved : List Block} {index : Nat} {fault : Fault} :
    ¬ FailsFirst (resolved.map .ok) index fault := by
  rintro ⟨here, _⟩
  simp at here

/-! ### Inquiries -/

variable {σ : Type} {driver : Driver σ} {addresses : AddressMap} {world : World σ}
  {requests : List (DevicePtr × UInt32)} {events later : List Event}

variable {index : Nat} {devicePtr : DevicePtr} {length : UInt32}

/-- A block with a driver pointer is judged by the answer to its query. -/
theorem judge_of_answers {answer : Except IoFault Block} (known : addresses devicePtr ≠ 0)
    (answers : world.Answers driver (blockQueried addresses devicePtr answer :: later)) :
    let judged := judge driver addresses index devicePtr length world.driver
    judged.1 = verdict addresses index devicePtr length answer ∧
      { world with driver := judged.2 }.Answers driver later := by
  have said : answer = (driver (.queryBlock (Block.ofPtr (addresses devicePtr))) world.driver).1 :=
    answers.1
  unfold judge
  rw [if_neg known, said]
  exact ⟨rfl, answers.2⟩

/-- An inquiry that a driver answers comes to the verdict on the block. -/
theorem Inquiry.judge_eq {result : Except Fault Block}
    (inquiry : Inquiry addresses index devicePtr length events result)
    (answers : world.Answers driver (events ++ later)) :
    let judged := judge driver addresses index devicePtr length world.driver
    judged.1 = result ∧ { world with driver := judged.2 }.Answers driver later := by
  cases inquiry with
  | untranslated unknown =>
    unfold judge
    rw [if_pos unknown]
    exact ⟨rfl, answers⟩
  | refused known => exact judge_of_answers known answers
  | @unallocated found known denied =>
    rcases judge_of_answers known answers with ⟨judged, rest⟩
    refine ⟨judged.trans ?_, rest⟩
    simp only [verdict, if_pos denied]
  | unfit known allocated misfits =>
    rcases judge_of_answers known answers with ⟨judged, rest⟩
    refine ⟨judged.trans ?_, rest⟩
    simp only [verdict, if_neg allocated, misfits]
  | resolved known allocated fits =>
    rcases judge_of_answers known answers with ⟨judged, rest⟩
    refine ⟨judged.trans ?_, rest⟩
    simp only [verdict, if_neg allocated, fits]

theorem Inquiry.block?_eq {fault : Fault}
    (inquiry : Inquiry addresses index devicePtr length events (.error fault)) :
    fault.block? = some index := by
  cases inquiry <;> rfl

theorem Inquiry.calls_eq {result : Except Fault Block}
    (inquiry : Inquiry addresses index devicePtr length events result) :
    events.filterMap Event.call? =
      blockQueries addresses (translated addresses [(devicePtr, length)]) := by
  cases inquiry with
  | untranslated unknown => simp [blockQueries, translated, unknown]
  | refused known => simp [blockQueries, blockQueried, translated, known]
  | unallocated known _ => simp [blockQueries, blockQueried, translated, known]
  | unfit known _ _ => simp [blockQueries, blockQueried, translated, known]
  | resolved known _ _ => simp [blockQueries, blockQueried, translated, known]

namespace Inquiries

variable {blocks : List Block} {fault : Option Fault}

/-- Inquiries that a driver answers come to the verdicts on the blocks, up to the first fault. -/
theorem verdicts_eq (inquiries : Inquiries addresses index requests events blocks fault)
    (answers : world.Answers driver (events ++ later)) :
    ∃ rest, verdicts driver addresses index world.driver requests =
        blocks.map .ok ++ (fault.toList.map .error ++ rest) ∧ (fault = none → rest = []) := by
  -- Each inquiry takes its events off the front and leaves the world in which the next one is made.
  induction inquiries generalizing world with
  | finished => exact ⟨[], rfl, fun _ => rfl⟩
  | @stopped index devicePtr length rest _ _ inquiry =>
    rcases inquiry.judge_eq answers with ⟨judged, _⟩
    let after := (judge driver addresses index devicePtr length world.driver).2
    refine ⟨verdicts driver addresses (index + 1) after rest, ?_, nofun⟩
    rw [verdicts, judged]
    rfl
  | resolved inquiry _ ih =>
    rw [List.append_assoc] at answers
    rcases inquiry.judge_eq answers with ⟨judged, others⟩
    rcases ih others with ⟨rest, found, finished⟩
    refine ⟨rest, ?_, finished⟩
    rw [verdicts, judged, found]
    rfl

/-- Where no block fails, the verdicts are the blocks resolved. -/
theorem verdicts_of_finished (inquiries : Inquiries addresses index requests events blocks none)
    (answers : world.Answers driver (events ++ later)) :
    verdicts driver addresses index world.driver requests = blocks.map .ok := by
  rcases inquiries.verdicts_eq answers with ⟨rest, found, finished⟩
  rw [found, finished rfl]
  exact List.append_nil _

/-- The fault that ends inquiries is the first one, at the index after the blocks resolved. -/
theorem failsFirst_iff {last other : Fault} {place : Nat}
    (inquiries : Inquiries addresses index requests events blocks (some last))
    (answers : world.Answers driver (events ++ later)) :
    FailsFirst (verdicts driver addresses index world.driver requests) place other ↔
      place = blocks.length ∧ other = last := by
  rcases inquiries.verdicts_eq answers with ⟨rest, found, _⟩
  rw [found]
  exact failsFirst_append_iff

/-- The fault that ends inquiries is about the block after those resolved. -/
theorem block?_eq {last : Fault}
    (inquiries : Inquiries addresses index requests events blocks fault)
    (stopped : fault = some last) : last.block? = some (index + blocks.length) := by
  induction inquiries with
  | finished => cases stopped
  | stopped inquiry =>
    cases stopped
    exact inquiry.block?_eq
  | resolved _ _ ih =>
    rw [ih stopped, List.length_cons, Nat.add_right_comm, Nat.add_assoc]

/-- The blocks resolved have been queried, and the one after them if it has a driver pointer. -/
theorem calls_eq (inquiries : Inquiries addresses index requests events blocks fault) :
    events.filterMap Event.call? =
      blockQueries addresses (translated addresses (requests.take (blocks.length + 1))) := by
  induction inquiries with
  | finished => rfl
  | stopped inquiry => exact inquiry.calls_eq
  | resolved inquiry _ ih =>
    rw [List.filterMap_append, inquiry.calls_eq, ih, ← blockQueries_append, ← translated_append]
    rfl

/-- Where no block fails, each has a driver pointer. -/
theorem translated_eq (inquiries : Inquiries addresses index requests events blocks fault)
    (finished : fault = none) : translated addresses requests = requests := by
  induction inquiries with
  | finished => rfl
  | stopped => cases finished
  | resolved inquiry _ ih =>
    cases inquiry with
    | resolved known _ _ =>
      rw [translated, List.filter_cons_of_pos (by simp [known])]
      exact congrArg _ (ih finished)

theorem calls_of_finished (inquiries : Inquiries addresses index requests events blocks none) :
    events.filterMap Event.call? = blockQueries addresses requests := by
  have most : requests.length ≤ blocks.length + 1 := by
    rw [inquiries.length_eq rfl]
    exact Nat.le_succ _
  rw [inquiries.calls_eq, List.take_of_length_le most, inquiries.translated_eq rfl]

/-- Where no block fails, the sizes of the blocks have a sum, which is that of the lengths. -/
theorem sumSizes?_of_finished (inquiries : Inquiries addresses index requests events blocks none)
    (few : requests.length ≤ maxBlocks) :
    ∃ size, Buffer.sumSizes? 0 blocks = some size ∧
      size.toNat = totalLength (requests.map Prod.snd) := by
  have most := totalLength_le (requests.map Prod.snd)
  have largest : requests.length * (UInt32.size - 1) ≤ largestBuffer := Nat.mul_le_mul_right _ few
  have bound : largestBuffer < UInt64.size := by decide
  rw [List.length_map] at most
  have ⟨size, summed, total⟩ := @Buffer.sumSizes?_of_lengths blocks _ 0 (inquiries.sizes_eq rfl)
    (by rw [UInt64.toNat_zero]; omega)
  rw [UInt64.toNat_zero, Nat.zero_add] at total
  exact ⟨size, summed, total⟩

end Inquiries

/-! ### Sessions -/

/-- In an open session either a block fails, or the blocks resolved are registered, and then no
fault is about a block. -/
theorem Dialogue.stopped_or_registered {result : Except Stop MappedBuffer}
    (dialogue : Dialogue addresses requests events result) :
    (∃ blocks fault, Inquiries addresses 0 requests events blocks (some fault) ∧
      result = .error (.fault fault)) ∨
    ∃ asked blocks answer later,
      Inquiries addresses 0 requests asked blocks none ∧
      events = asked ++ ⟨.call (.register { blocks }), answer⟩ :: later ∧
      (∀ size, Buffer.sumSizes? 0 blocks = some size →
        Sequel size answer (later.filterMap Event.call?)) ∧
      ∀ fault, result = .error (.fault fault) → fault.block? = none := by
  cases dialogue with
  | unresolved inquiries => exact .inl ⟨_, _, inquiries, rfl⟩
  | @unregistered asked blocks source inquiries =>
    refine .inr ⟨asked, blocks, .error source, [], inquiries, rfl, fun _ _ => .refused, ?_⟩
    rintro fault ⟨⟩
    rfl
  | @unnamed asked blocks reply inquiries zero =>
    refine .inr ⟨asked, blocks, .ok reply, [], inquiries, rfl, fun _ _ => .unnamed zero, ?_⟩
    rintro fault ⟨⟩
    rfl
  | @named asked later blocks reply _ _ inquiries summed named attempt =>
    refine .inr ⟨asked, blocks, .ok reply, later, inquiries, rfl, ?_, ?_⟩
    · intro size known
      rw [summed, Option.some.injEq] at known
      subst known
      cases attempt with
      | givenUp => exact .givenUp named
      | leftBehind => exact .givenUp named
      | _ => exact .mapped named
    · intro fault failed
      cases attempt <;> cases failed <;> rfl

section Answered

variable {result : Except Stop MappedBuffer} {after : List Event} {index : Nat} {fault : Fault}

/-- A dialogue ends with a fault of a block exactly where that is the first one among the
verdicts. -/
theorem Dialogue.failed_iff (dialogue : Dialogue addresses requests events result)
    (answers : world.Answers driver (events ++ after)) :
    result = .error (.fault fault) ∧ fault.block? = some index ↔
      FailsFirst (verdicts driver addresses 0 world.driver requests) index fault := by
  rcases dialogue.stopped_or_registered with
    ⟨blocks, last, inquiries, rfl⟩ | ⟨asked, blocks, _, later, inquiries, rfl, _, other⟩
  · have block := inquiries.block?_eq rfl
    rw [Nat.zero_add] at block
    rw [inquiries.failsFirst_iff answers]
    constructor
    · rintro ⟨⟨⟩, about⟩
      rw [block, Option.some.injEq] at about
      exact ⟨about.symm, rfl⟩
    · rintro ⟨rfl, rfl⟩
      exact ⟨rfl, block⟩
  · rw [List.append_assoc] at answers
    rw [inquiries.verdicts_of_finished answers]
    constructor
    · rintro ⟨failed, about⟩
      rw [other fault failed] at about
      cases about
    · exact fun first => absurd first not_failsFirst_map

/-- Where a block fails, nothing is asked of the driver but the queries up to that block. -/
theorem Dialogue.calls_of_failsFirst (dialogue : Dialogue addresses requests events result)
    (answers : world.Answers driver (events ++ after))
    (first : FailsFirst (verdicts driver addresses 0 world.driver requests) index fault) :
    events.filterMap Event.call? =
      blockQueries addresses (translated addresses (requests.take (index + 1))) := by
  rcases dialogue.stopped_or_registered with
    ⟨blocks, last, inquiries, rfl⟩ | ⟨asked, blocks, _, later, inquiries, rfl, _, _⟩
  · rcases (inquiries.failsFirst_iff answers).mp first with ⟨rfl, _⟩
    exact inquiries.calls_eq
  · rw [List.append_assoc] at answers
    rw [inquiries.verdicts_of_finished answers] at first
    exact absurd first not_failsFirst_map

/-- Where no block fails, the blocks resolved are registered, and their sizes have a sum. -/
theorem Dialogue.registers_of_resolved (dialogue : Dialogue addresses requests events result)
    (few : requests.length ≤ maxBlocks) (answers : world.Answers driver (events ++ after))
    {resolved : List Block}
    (found : verdicts driver addresses 0 world.driver requests = resolved.map .ok) :
    resolved.map Block.size? =
        (requests.map Prod.snd).map (fun length => some length.toUInt64) ∧
      ∃ size answer later,
        Buffer.sumSizes? 0 resolved = some size ∧
        size.toNat = totalLength (requests.map Prod.snd) ∧
        ⟨.call (.register { blocks := resolved }), answer⟩ ∈ events ∧
        Sequel size answer later ∧
        events.filterMap Event.call? =
          blockQueries addresses requests ++ .register { blocks := resolved } :: later := by
  rcases dialogue.stopped_or_registered with
    ⟨blocks, last, inquiries, rfl⟩ | ⟨asked, blocks, answer, later, inquiries, rfl, sequel, _⟩
  · have first := (inquiries.failsFirst_iff answers).mpr ⟨rfl, rfl⟩
    rw [found] at first
    exact absurd first not_failsFirst_map
  · rw [List.append_assoc] at answers
    rw [inquiries.verdicts_of_finished answers] at found
    have same : blocks = resolved := (List.map_inj_right fun _ _ => Except.ok.inj).mp found
    subst same
    rcases inquiries.sumSizes?_of_finished few with ⟨size, summed, total⟩
    refine ⟨inquiries.sizes_eq rfl, size, answer, _, summed, total, by simp, sequel size summed,
      ?_⟩
    rw [List.filterMap_append, inquiries.calls_of_finished]
    rfl

/-- A session that a driver opens is spent in a dialogue that it answers. -/
theorem RemapSession.of_opened
    (session : RemapSession addresses requests events result)
    (answers : world.Answers driver events)
    (opened : (driver .openSession world.driver).1 = .ok ()) :
    ∃ dealt, events = ⟨.call .openSession, .ok ()⟩ :: dealt ++ [⟨.call .closeSession, ()⟩] ∧
      Dialogue addresses requests dealt result ∧
      World.Answers driver { world with driver := (driver .openSession world.driver).2 }
        (dealt ++ [⟨.call .closeSession, ()⟩]) := by
  cases session with
  | @refused source =>
    have said : Except.error source = (driver .openSession world.driver).1 := answers.1
    rw [opened] at said
    cases said
  | held dialogue => exact ⟨_, rfl, dialogue, answers.2⟩

theorem RemapSession.of_refused {source : IoFault}
    (session : RemapSession addresses requests events result)
    (answers : world.Answers driver events)
    (refused : (driver .openSession world.driver).1 = .error source) :
    result = .error (.fault (.session source)) ∧
      events = [⟨.call .openSession, .error source⟩] := by
  cases session with
  | @refused other =>
    have said : Except.error other = (driver .openSession world.driver).1 := answers.1
    rw [refused] at said
    cases said
    exact ⟨rfl, rfl⟩
  | held =>
    have said : Except.ok () = (driver .openSession world.driver).1 := answers.1
    rw [refused] at said
    cases said

end Answered

/-! ### The end of a remap -/

/-- A remap whose session is opened ends with the first fault that a block gives, if there is one,
and with no other fault of a block.  Up to that block, those with driver pointers are queried in
order, and nothing more is asked of the driver.  Where no block fails, each is resolved to its
length, and one registration is asked for, of the blocks resolved.  What is mapped afterwards are as
many bytes as the lengths make together, and that sum is a word. -/
theorem remap_stops_at_first_fault {σ : Type} (driver : Driver σ) (world : World σ)
    (addresses : AddressMap) (devicePtrs : List DevicePtr) (lengths : List UInt32)
    (nonempty : 1 ≤ devicePtrs.length) (few : devicePtrs.length ≤ 16)
    (same : lengths.length = devicePtrs.length) :
    let ran := (remap addresses devicePtrs lengths).run driver world
    let opening := driver .openSession world.driver
    let requests := devicePtrs.zip lengths
    let found := verdicts driver addresses 0 opening.2 requests
    (∀ source, opening.1 = .error source →
      ran.value = .error (.fault (.session source)) ∧ ran.calls = [.openSession]) ∧
    (opening.1 = .ok () →
      (∀ index fault, ran.value = .error (.fault fault) ∧ fault.block? = some index ↔
        FailsFirst found index fault) ∧
      (∀ index fault, FailsFirst found index fault →
        ran.calls = .openSession ::
          blockQueries addresses (translated addresses (requests.take (index + 1))) ++
          [.closeSession]) ∧
      ∀ resolved, found = resolved.map .ok →
        resolved.map Block.size? = lengths.map (fun length => some length.toUInt64) ∧
        ∃ size answer later,
          Buffer.sumSizes? 0 resolved = some size ∧ size.toNat = totalLength lengths ∧
          ⟨.call (.register { id := 0, blocks := resolved }), answer⟩ ∈ ran.trace ∧
          Sequel size answer later ∧
          ran.calls = .openSession :: blockQueries addresses requests ++
            .register { id := 0, blocks := resolved } :: later ++ [.closeSession]) := by
  intro ran opening requests found
  have session : RemapSession addresses requests ran.dealings ran.value :=
    remapSession_of_run (Nat.ne_of_gt nonempty) few same
  have answers : world.Answers driver ran.dealings := Program.answers_run _ world
  have calls := ran.calls_eq_dealings
  constructor
  · intro source refused
    rcases session.of_refused answers refused with ⟨value, events⟩
    rw [calls, events]
    exact ⟨value, rfl⟩
  intro opened
  rcases session.of_opened answers opened with ⟨dealt, events, dialogue, answered⟩
  have few : requests.length ≤ maxBlocks := by
    rw [List.length_zip]
    exact Nat.le_trans (Nat.min_le_left _ _) few
  rw [events] at calls
  refine ⟨fun _ _ => dialogue.failed_iff answered, ?stopped, ?registered⟩
  case stopped =>
    intro index fault first
    simp [calls, dialogue.calls_of_failsFirst answered first]
  case registered =>
    intro resolved all
    rcases dialogue.registers_of_resolved few answered all with
      ⟨sizes, size, answer, later, summed, total, registers, sequel, asked⟩
    rw [List.map_snd_zip (Nat.le_of_eq same)] at sizes total
    refine ⟨sizes, size, answer, later, summed, total, ?_, sequel, ?_⟩
    · have dealing : ⟨.call (.register { blocks := resolved }), answer⟩ ∈ ran.dealings := by
        simp [events, registers]
      exact (List.mem_filter.mp dealing).1
    · simp [calls, asked]

/-- A remap of three blocks ends with the second one where the driver knows the first one alone: it
reports the second block, and has not asked for the third. -/
theorem remap_stops_at_first_fault_secondBlock :
    let driver : MemoryDriver :=
      { known := ({} : Table DriverPtr (Except IoFault Block)).insert 0x60001000
          (.ok (.page 0x60001000 4096)) }
    let ran := (remap AddressMap.identity [0x60001000, 0x60002000, 0x60003000]
      [4096, 8192, 4096]).run MemoryDriver.answer { driver }
    ran.value = .error (.fault (.unallocated 1 0x60002000 0x60002000)) ∧
      ran.calls = [.openSession, .queryBlock (Block.ofPtr 0x60001000),
        .queryBlock (Block.ofPtr 0x60002000), .closeSession] := by
  intro driver ran
  have ⟨_, opened⟩ := remap_stops_at_first_fault MemoryDriver.answer { driver }
    AddressMap.identity [0x60001000, 0x60002000, 0x60003000] [4096, 8192, 4096] (by decide)
    (by decide) rfl
  rcases opened rfl with ⟨attributed, stopped, _⟩
  have ended := (attributed 1 (.unallocated 1 0x60002000 0x60002000)).mpr <| by
    constructor
    · rfl
    · intro earlier before
      cases Nat.lt_one_iff.mp before
      exact ⟨.page 0x60001000 4096, rfl⟩
  exact ⟨ended.1, stopped 1 _ ((attributed _ _).mp ended)⟩

end TilerMapping
