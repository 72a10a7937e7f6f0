/-
Module: TilerMapping.Proofs.Cleanup
Purpose: What a remap leaves behind, however its session goes.
Main exports: Holdings.CleanedUp, RemapSession.ne_abort, RemapSession.ledger_of_ok,
  RemapSession.cleanedUp, remap_keeps_protocol
-/
import TilerMapping.Proofs.Protocol

namespace TilerMapping

/-!
What the ledger and the driver are left with is read off the dealings of a session, one relation
at a time: inquiries change nothing, an attempt to map either records an address or gives up the
registration, and the session around them is closed.
-/

variable {addresses : AddressMap} {requests : List (DevicePtr × UInt32)} {events : List Event}

/-! ### Inquiries -/

/-- The event is a block query, which changes nothing. -/
def Event.IsBlockQuery (event : Event) : Prop :=
  ∃ block answer, event = ⟨.call (.queryBlock block), answer⟩

theorem MappingLedger.afterAll_of_queries {events : List Event}
    (queries : ∀ event ∈ events, event.IsBlockQuery) (ledger : MappingLedger) :
    ledger.afterAll events = ledger := by
  induction events with
  | nil => rfl
  | cons event rest ih =>
    obtain ⟨block, answer, rfl⟩ := queries event List.mem_cons_self
    exact ih fun event member => queries event (List.mem_cons_of_mem _ member)

theorem Holdings.afterAll_of_queries {events : List Event}
    (queries : ∀ event ∈ events, event.IsBlockQuery) (holdings : Holdings) :
    holdings.afterAll events = holdings := by
  induction events with
  | nil => rfl
  | cons event rest ih =>
    obtain ⟨block, answer, rfl⟩ := queries event List.mem_cons_self
    exact ih fun event member => queries event (List.mem_cons_of_mem _ member)

theorem Inquiry.queries {index : Nat} {devicePtr : DevicePtr} {length : UInt32}
    {result : Except Fault Block}
    (inquiry : Inquiry addresses index devicePtr length events result) :
    ∀ event ∈ events, event.IsBlockQuery := by
  cases inquiry with
  | untranslated => exact fun event member => nomatch member
  | _ =>
    intro event member
    rw [List.mem_singleton] at member
    exact ⟨_, _, member⟩

namespace Inquiries

variable {index : Nat} {blocks : List Block} {fault : Option Fault}

theorem queries (inquiries : Inquiries addresses index requests events blocks fault) :
    ∀ event ∈ events, event.IsBlockQuery := by
  induction inquiries with
  | finished => exact fun event member => nomatch member
  | stopped inquiry => exact inquiry.queries
  | resolved inquiry _ ih =>
    intro event member
    rcases List.mem_append.mp member with first | second
    · exact inquiry.queries event first
    · exact ih event second

/-- Where the inquiries were not ended early, every block is resolved. -/
theorem length_eq (inquiries : Inquiries addresses index requests events blocks fault)
    (finished : fault = none) : blocks.length = requests.length := by
  induction inquiries with
  | finished => rfl
  | stopped => cases finished
  | resolved _ _ ih => rw [List.length_cons, List.length_cons, ih finished]

/-- Where the inquiries were not ended early, each block has the length that was given for it. -/
theorem sizes_eq (inquiries : Inquiries addresses index requests events blocks fault)
    (finished : fault = none) :
    blocks.map Block.size? =
      (requests.map Prod.snd).map fun length => some length.toUInt64 := by
  induction inquiries with
  | finished => rfl
  | stopped => cases finished
  | resolved inquiry _ ih =>
    rw [List.map_cons, inquiry.size?, ih finished]
    rfl

theorem bytes_eq (inquiries : Inquiries addresses index requests events blocks fault)
    (finished : fault = none) : Buffer.bytes blocks = totalLength (requests.map Prod.snd) :=
  Buffer.bytes_of_lengths (inquiries.sizes_eq finished)

end Inquiries

/-! ### Attempts to map -/

/-- A failed remap leaves the driver with nothing new: no mapping, no open session, and no
registration but one whose release was refused. -/
structure Holdings.CleanedUp (holdings : Holdings) (events : List Event) : Prop where
  mapped : (holdings.afterAll events).mapped = holdings.mapped
  sessions : (holdings.afterAll events).opened + holdings.closed =
    (holdings.afterAll events).closed + holdings.opened
  registered : ∀ id blocks, (holdings.afterAll events).registered.find? id = some blocks →
    holdings.registered.find? id = some blocks ∨
      ∃ source, ⟨.call (.unregister { id, blocks }), .error source⟩ ∈ events

/-- The call is one that only a demap makes. -/
def Call.isDemapping : Call → Bool
  | .queryBuffer _ => true
  | .unmap _ => true
  | _ => false

theorem not_demapping_of_queries {events : List Event}
    (queries : ∀ event ∈ events, event.IsBlockQuery) :
    ∀ request ∈ events.filterMap Event.call?, request.isDemapping = false := by
  intro request member
  obtain ⟨event, member, call⟩ := List.mem_filterMap.mp member
  obtain ⟨block, answer, rfl⟩ := queries event member
  cases call
  rfl

namespace MapAttempt

variable {size : ByteCount} {buffer : Buffer} {result : Except Stop MappedBuffer}
  {holdings : Holdings}

/-- With room for the largest buffer, the addresses of the blocks add up without running over. -/
theorem ne_abort (attempt : MapAttempt size buffer events result) (inhabited : buffer.blocks ≠ [])
    (short : Buffer.bytes buffer.blocks ≤ largestBuffer)
    (room : Holdings.Follows (Holdings.RoomFor fun _ => largestBuffer) holdings events)
    (abort : Abort) : result ≠ .error (.abort abort) := by
  cases attempt with
  | empty blockless => exact absurd blockless inhabited
  | @unaddressed region block _ _ overrun =>
    have fits : region.base.toNat + 4095 + largestBuffer < UInt64.size := room.1
    have offset := Page.toNat_offset_lt block.driverPtr.toUInt64
    rw [Word.add?_eq_none_iff] at overrun
    omega
  | @unplaced region block _ address _ _ _ added overrun =>
    have fits : region.base.toNat + 4095 + largestBuffer < UInt64.size := room.1
    have offset := Page.toNat_offset_lt block.driverPtr.toUInt64
    have sum := Word.add?_eq_some_iff.mp added
    have ⟨laid, placement⟩ := (@placeBlocks_eq_ok_iff address buffer.blocks).mpr (by omega)
    rw [placement] at overrun
    cases overrun
  | _ => exact fun same => nomatch same

theorem ledger_of_ok {mapped : MappedBuffer} (attempt : MapAttempt size buffer events (.ok mapped))
    (ledger : MappingLedger) :
    ledger.afterAll events =
      { ledger with entries := ledger.entries.insert mapped.address mapped.id } := by
  cases attempt with
  | placed _ added _ =>
    have sum := Word.eq_of_add?_eq_some added
    subst sum
    rfl

theorem ledger_of_fault {fault : Fault}
    (attempt : MapAttempt size buffer events (.error (.fault fault))) (ledger : MappingLedger) :
    ledger.afterAll events = ledger := by
  cases attempt with
  | givenUp => rfl
  | leftBehind => rfl

/-- A failed attempt costs the registration, or leaves it where the driver refused to give it up. -/
theorem registered_of_fault {fault : Fault}
    (attempt : MapAttempt size buffer events (.error (.fault fault))) :
    holdings.afterAll events =
        { holdings with registered := holdings.registered.erase buffer.id } ∨
      holdings.afterAll events = holdings ∧
        ∃ source, ⟨.call (.unregister buffer), .error source⟩ ∈ events := by
  cases attempt with
  | givenUp => exact .inl rfl
  | leftBehind => exact .inr ⟨rfl, _, List.mem_cons_of_mem _ List.mem_cons_self⟩

/-- What is given up is what was to be mapped. -/
theorem eq_of_unregister {other : Buffer} {answer : Except IoFault Unit}
    (attempt : MapAttempt size buffer events result)
    (member : ⟨.call (.unregister other), answer⟩ ∈ events) : other = buffer := by
  cases attempt <;> simp at member <;> exact member.1

theorem not_demapping (attempt : MapAttempt size buffer events result) :
    ∀ request ∈ events.filterMap Event.call?, request.isDemapping = false := by
  cases attempt <;> simp [Call.isDemapping]

end MapAttempt

/-! ### Sessions -/

namespace Dialogue

variable {result : Except Stop MappedBuffer} {holdings : Holdings}

theorem ne_abort (dialogue : Dialogue addresses requests events result) (nonempty : requests ≠ [])
    (few : requests.length ≤ maxBlocks)
    (honest : Holdings.Follows Holdings.Honest holdings events)
    (room : Holdings.Follows (Holdings.RoomFor fun _ => largestBuffer) holdings events)
    (abort : Abort) : result ≠ .error (.abort abort) := by
  cases dialogue with
  | @named _ _ blocks reply _ _ inquiries _ _ attempt =>
    rw [Holdings.follows_append] at honest room
    have same : reply.blocks = blocks := honest.2.1
    apply attempt.ne_abort _ _ room.2.2
    · intro blockless
      have count := inquiries.length_eq rfl
      rw [← same, blockless] at count
      exact nonempty (List.length_eq_zero_iff.mp count.symm)
    · have bound := totalLength_le (requests.map Prod.snd)
      rw [List.length_map] at bound
      rw [same, inquiries.bytes_eq rfl]
      exact Nat.le_trans bound (Nat.mul_le_mul_right _ few)
  | _ => exact fun same => nomatch same

theorem ledger_of_ok {mapped : MappedBuffer}
    (dialogue : Dialogue addresses requests events (.ok mapped)) (ledger : MappingLedger) :
    ledger.afterAll events =
      { ledger with entries := ledger.entries.insert mapped.address mapped.id } := by
  cases dialogue with
  | named inquiries _ _ attempt =>
    rw [MappingLedger.afterAll_append, MappingLedger.afterAll_of_queries inquiries.queries]
    exact attempt.ledger_of_ok _

theorem ledger_of_fault {fault : Fault}
    (dialogue : Dialogue addresses requests events (.error (.fault fault)))
    (ledger : MappingLedger) : ledger.afterAll events = ledger := by
  cases dialogue with
  | unresolved inquiries => exact MappingLedger.afterAll_of_queries inquiries.queries ledger
  | unregistered inquiries =>
    rw [MappingLedger.afterAll_append, MappingLedger.afterAll_of_queries inquiries.queries]
    rfl
  | unnamed inquiries =>
    rw [MappingLedger.afterAll_append, MappingLedger.afterAll_of_queries inquiries.queries]
    rfl
  | named inquiries _ _ attempt =>
    rw [MappingLedger.afterAll_append, MappingLedger.afterAll_of_queries inquiries.queries]
    exact attempt.ledger_of_fault _

/-- What is left of a dialogue that failed: nothing new, unless the driver refused to give up what
it had registered. -/
theorem registered_of_fault {fault : Fault}
    (dialogue : Dialogue addresses requests events (.error (.fault fault)))
    (honest : Holdings.Follows Holdings.Honest holdings events) :
    ∃ registered, holdings.afterAll events = { holdings with registered } ∧
      ∀ id blocks, registered.find? id = some blocks →
        holdings.registered.find? id = some blocks ∨
          ∃ source, ⟨.call (.unregister { id, blocks }), .error source⟩ ∈ events := by
  cases dialogue with
  | unresolved inquiries =>
    rw [Holdings.afterAll_of_queries inquiries.queries]
    exact ⟨holdings.registered, rfl, fun _ _ => .inl⟩
  | unregistered inquiries =>
    rw [Holdings.afterAll_append, Holdings.afterAll_of_queries inquiries.queries]
    exact ⟨holdings.registered, rfl, fun _ _ => .inl⟩
  | unnamed inquiries zero =>
    rw [Holdings.afterAll_append, Holdings.afterAll_of_queries inquiries.queries]
    simp only [Holdings.afterAll, Holdings.after, if_pos zero]
    exact ⟨holdings.registered, rfl, fun _ _ => .inl⟩
  | @named first later blocks reply _ _ inquiries _ named attempt =>
    rw [Holdings.follows_append] at honest
    have same : reply.blocks = blocks := honest.2.1
    rw [Holdings.afterAll_append, Holdings.afterAll_of_queries inquiries.queries]
    simp only [Holdings.afterAll, Holdings.after, if_neg named]
    -- The driver may have given out a name that was in use, so only what stands under other names
    -- is sure to be as before.
    rcases attempt.registered_of_fault with gone | ⟨kept, source, refused⟩
    · refine ⟨_, gone, fun id others found => ?_⟩
      by_cases other : id = reply.id
      · rw [other, Table.find?_erase_self] at found
        cases found
      · rw [Table.find?_erase_of_ne _ other, Table.find?_insert_of_ne _ _ other] at found
        exact .inl found
    · refine ⟨_, kept, fun id others found => ?_⟩
      by_cases other : id = reply.id
      · rw [other, Table.find?_insert_self, Option.some.injEq] at found
        subst other found
        refine .inr ⟨source, List.mem_append_right _ (List.mem_cons_of_mem _ ?_)⟩
        rw [← same]
        exact refused
      · rw [Table.find?_insert_of_ne _ _ other] at found
        exact .inl found

/-- A registration is given up with the name and the blocks that were registered. -/
theorem registered_of_unregister {buffer : Buffer} {answer : Except IoFault Unit}
    (dialogue : Dialogue addresses requests events result)
    (honest : Holdings.Follows Holdings.Honest holdings events)
    (member : ⟨.call (.unregister buffer), answer⟩ ∈ events) :
    ⟨.call (.register { blocks := buffer.blocks }), .ok buffer⟩ ∈ events := by
  have other {events : List Event} (queries : ∀ event ∈ events, event.IsBlockQuery) :
      ⟨.call (.unregister buffer), answer⟩ ∉ events := by
    intro member
    obtain ⟨_, _, same⟩ := queries _ member
    cases same
  cases dialogue with
  | unresolved inquiries => exact absurd member (other inquiries.queries)
  | unregistered inquiries => simp [other inquiries.queries] at member
  | unnamed inquiries => simp [other inquiries.queries] at member
  | @named _ _ blocks reply _ _ inquiries _ _ attempt =>
    have same : reply.blocks = blocks := (Holdings.follows_append.mp honest).2.1
    have later := by simpa [other inquiries.queries] using member
    obtain rfl := attempt.eq_of_unregister later
    rw [same]
    exact List.mem_append_right _ List.mem_cons_self

theorem not_demapping (dialogue : Dialogue addresses requests events result) :
    ∀ request ∈ events.filterMap Event.call?, request.isDemapping = false := by
  cases dialogue with
  | unresolved inquiries => exact not_demapping_of_queries inquiries.queries
  | unregistered inquiries =>
    rw [List.filterMap_append, List.forall_mem_append]
    exact ⟨not_demapping_of_queries inquiries.queries, by simp [Call.isDemapping]⟩
  | unnamed inquiries =>
    rw [List.filterMap_append, List.forall_mem_append]
    exact ⟨not_demapping_of_queries inquiries.queries, by simp [Call.isDemapping]⟩
  | named inquiries _ _ attempt =>
    rw [List.filterMap_append, List.forall_mem_append]
    refine ⟨not_demapping_of_queries inquiries.queries, ?_⟩
    rw [List.filterMap_cons, Event.call?_call, List.forall_mem_cons]
    exact ⟨rfl, attempt.not_demapping⟩

end Dialogue

namespace RemapSession

variable {result : Except Stop MappedBuffer}

theorem ne_abort {holdings : Holdings}
    (session : RemapSession addresses requests events result) (nonempty : requests ≠ [])
    (few : requests.length ≤ maxBlocks)
    (honest : Holdings.Follows Holdings.Honest holdings events)
    (room : Holdings.Follows (Holdings.RoomFor fun _ => largestBuffer) holdings events)
    (abort : Abort) : result ≠ .error (.abort abort) := by
  cases session with
  | refused => exact fun same => nomatch same
  | held dialogue =>
    rw [List.cons_append] at honest room
    exact dialogue.ne_abort nonempty few (Holdings.follows_append.mp honest.2).1
      (Holdings.follows_append.mp room.2).1 abort

theorem ledger_of_ok {mapped : MappedBuffer}
    (session : RemapSession addresses requests events (.ok mapped)) (ledger : MappingLedger) :
    ledger.afterAll events =
      { ledger with entries := ledger.entries.insert mapped.address mapped.id } := by
  cases session with
  | held dialogue =>
    rw [MappingLedger.afterAll_append]
    exact dialogue.ledger_of_ok ledger

theorem ledger_of_fault {fault : Fault}
    (session : RemapSession addresses requests events (.error (.fault fault)))
    (ledger : MappingLedger) : ledger.afterAll events = ledger := by
  cases session with
  | refused => rfl
  | held dialogue =>
    rw [MappingLedger.afterAll_append]
    exact dialogue.ledger_of_fault ledger

theorem cleanedUp {fault : Fault} {holdings : Holdings}
    (session : RemapSession addresses requests events (.error (.fault fault)))
    (honest : Holdings.Follows Holdings.Honest holdings events) : holdings.CleanedUp events := by
  cases session with
  | refused => exact ⟨rfl, Nat.add_comm .., fun _ _ => .inl⟩
  | @held inner _ dialogue =>
    rw [List.cons_append] at honest
    have ⟨registered, left, backed⟩ :=
      dialogue.registered_of_fault (Holdings.follows_append.mp honest.2).1
    have ended : holdings.afterAll
        (⟨.call .openSession, .ok ()⟩ :: inner ++ [⟨.call .closeSession, ()⟩]) =
          { holdings with
            registered
            opened := holdings.opened + 1
            closed := holdings.closed + 1 } := by
      rw [Holdings.afterAll_append]
      exact congrArg (Holdings.afterAll · [⟨.call .closeSession, ()⟩]) left
    constructor
    · rw [ended]
    · rw [ended]
      show holdings.opened + 1 + holdings.closed = holdings.closed + 1 + holdings.opened
      omega
    · rw [ended]
      intro id blocks found
      rcases backed id blocks found with before | ⟨source, refused⟩
      · exact .inl before
      · exact .inr ⟨source, List.mem_append_left _ (List.mem_cons_of_mem _ refused)⟩

theorem registered_of_unregister {buffer : Buffer} {answer : Except IoFault Unit}
    {holdings : Holdings} (session : RemapSession addresses requests events result)
    (honest : Holdings.Follows Holdings.Honest holdings events)
    (member : ⟨.call (.unregister buffer), answer⟩ ∈ events) :
    ⟨.call (.register { blocks := buffer.blocks }), .ok buffer⟩ ∈ events := by
  cases session with
  | refused => simp at member
  | held dialogue =>
    rw [List.cons_append] at honest
    have inner := by simpa using member
    have registered :=
      dialogue.registered_of_unregister (Holdings.follows_append.mp honest.2).1 inner
    exact List.mem_append_left _ (List.mem_cons_of_mem _ registered)

theorem not_demapping (session : RemapSession addresses requests events result) :
    ∀ request ∈ events.filterMap Event.call?, request.isDemapping = false := by
  cases session with
  | refused => simp [Call.isDemapping]
  | held dialogue =>
    rw [List.filterMap_append, List.forall_mem_append, List.filterMap_cons, Event.call?_call,
      List.forall_mem_cons]
    exact ⟨⟨rfl, dialogue.not_demapping⟩, by simp [Call.isDemapping]⟩

end RemapSession

/-! ### The protocol of a remap -/

/-- A remap that is refused for its arguments makes no calls.  Any other goes one of the ways of a
session, whatever the driver answers: buffers are neither queried nor unmapped in it, and nothing
is given up but what was registered.  With a driver that keeps the blocks it registers and has
room for a mapping, it ends with an address that is recorded, or with a fault, an unchanged ledger
and everything cleaned up. -/
theorem remap_keeps_protocol {σ : Type} (driver : Driver σ) (world : World σ)
    (addresses : AddressMap) (devicePtrs : List DevicePtr) (lengths : List UInt32)
    (holdings : Holdings)
    (honest : Holdings.Follows Holdings.Honest holdings
      ((remap addresses devicePtrs lengths).run driver world).trace)
    (room : Holdings.Follows (Holdings.RoomFor fun _ => largestBuffer) holdings
      ((remap addresses devicePtrs lengths).run driver world).trace) :
    let ran := (remap addresses devicePtrs lengths).run driver world
    let possible := 1 ≤ devicePtrs.length ∧ devicePtrs.length ≤ 16 ∧
      lengths.length = devicePtrs.length
    (¬possible → ran.dealings = [] ∧ ran.world = world ∧
      ∃ fault, ran.value = .error (.fault fault)) ∧
    (possible → RemapSession addresses (devicePtrs.zip lengths) ran.dealings ran.value) ∧
    (∀ request ∈ ran.calls, request.isDemapping = false) ∧
    (∀ buffer answer, ⟨.call (.unregister buffer), answer⟩ ∈ ran.dealings →
      ⟨.call (.register { blocks := buffer.blocks }), .ok buffer⟩ ∈ ran.dealings) ∧
    match ran.value with
    | .ok mapped =>
        ran.world.ledger =
          { world.ledger with
            entries := world.ledger.entries.insert mapped.address mapped.id }
    | .error (.fault _) => ran.world.ledger = world.ledger ∧ holdings.CleanedUp ran.dealings
    | .error (.abort _) => False := by
  intro ran possible
  by_cases given : possible
  case neg =>
    have ⟨fault, refused⟩ : ∃ fault, remap addresses devicePtrs lengths =
        .done (.error (.fault fault)) := remap_of_impossible given
    have ended : ran = { value := .error (.fault fault), world } := by
      show (remap addresses devicePtrs lengths).run driver world = _
      rw [refused, Program.run_done]
    rw [ended]
    refine ⟨fun _ => ⟨rfl, rfl, fault, rfl⟩, fun granted => absurd granted given, ?_, ?_, rfl, ?_⟩
    · exact fun request member => nomatch member
    · exact fun buffer answer member => nomatch member
    · exact ⟨rfl, Nat.add_comm .., fun _ _ => .inl⟩
  case pos =>
    have session : RemapSession addresses (devicePtrs.zip lengths) ran.dealings ran.value :=
      remapSession_of_run (Nat.ne_of_gt given.1) given.2.1 given.2.2
    have honest := Holdings.follows_dealings honest
    have room := Holdings.follows_dealings room
    have ledger : ran.world.ledger = world.ledger.afterAll ran.dealings := Program.ledger_run ..
    refine ⟨fun denied => absurd given denied, fun _ => session, ?calls, ?released, ?left⟩
    case calls =>
      rw [Run.calls_eq_dealings]
      exact session.not_demapping
    case released => exact fun buffer answer => session.registered_of_unregister honest
    case left =>
      cases ended : ran.value with
      | ok mapped =>
        rw [ended] at session
        exact ledger.trans (session.ledger_of_ok _)
      | error stop =>
        rw [ended] at session
        cases stop with
        | fault fault =>
          exact ⟨ledger.trans (session.ledger_of_fault _), session.cleanedUp honest⟩
        | abort abort =>
          have asked : (devicePtrs.zip lengths).length = devicePtrs.length := by
            rw [List.length_zip, given.2.2, Nat.min_self]
          apply session.ne_abort _ _ honest room abort rfl
          · intro unasked
            rw [unasked, List.length_nil] at asked
            exact absurd asked.symm (Nat.ne_of_gt given.1)
          · rw [asked]
            exact given.2.1

/-- A remap of one block whose mapping fails gives up the registration and records nothing. -/
theorem remap_keeps_protocol_unmapped :
    let driver := MemoryDriver.onePage.setFailing .map (some MemoryDriver.outOfMemory)
    let ran := (remap AddressMap.identity [0x60001234] [4096]).run MemoryDriver.answer { driver }
    RemapSession AddressMap.identity [(0x60001234, 4096)] ran.dealings ran.value ∧
      ran.world.ledger = {} ∧ driver.holdings.CleanedUp ran.dealings := by
  intro driver ran
  have honest := MemoryDriver.honest_run (remap AddressMap.identity [0x60001234] [4096]) { driver }
  have ⟨_, session, _, _, left⟩ := remap_keeps_protocol MemoryDriver.answer { driver }
    AddressMap.identity [0x60001234] [4096] driver.holdings honest (by decide +kernel)
  have failed : ran.value.isOk = false := by decide +kernel
  refine ⟨session ⟨by decide, by decide, rfl⟩, ?_⟩
  rcases ended : ran.value with (fault | abort) | mapped
  · rw [ended] at left
    exact left
  · rw [ended] at left
    exact left.elim
  · rw [ended] at failed
    cases failed

end TilerMapping
