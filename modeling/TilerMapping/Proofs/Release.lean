/-
Module: TilerMapping.Proofs.Release
Purpose: The ways that a demap can go, whatever the driver answers.
Main exports: ReleaseEnd, Release, DemapSession, demapSession_of_run, KeepsName,
  demap_keeps_protocol
-/
import TilerMapping.Demap
import TilerMapping.Proofs.Protocol

namespace TilerMapping

/-!
A demap takes a name, queries the buffer, gives it up and removes its mapping.  The relations below
tell in events how far it comes and what it then answers.  What happens to the ledger is decided by
one of these events alone, the taking of the name, so an entry is gone as soon as it was found, and
stays where it is if the driver could not be opened.
-/

/-- The answer of a demap, as the registration and the mapping were released.  Two faults are
reported together, that of the registration first. -/
inductive ReleaseEnd (region : Region) :
    Except IoFault Unit → Except IoFault Unit → Except Fault Unit → Prop
  | released : ReleaseEnd region (.ok ()) (.ok ()) (.ok ())
  | leftRegistered {source : IoFault} :
      ReleaseEnd region (.error source) (.ok ()) (.error (.unregistration source))
  | leftMapped {source : IoFault} :
      ReleaseEnd region (.ok ()) (.error source)
        (.error (.unmapping region.base region.len source))
  | leftBoth {first second : IoFault} :
      ReleaseEnd region (.error first) (.error second)
        (.error (.several [.unregistration first, .unmapping region.base region.len second]))

/-- The region that is removed for a buffer: from the page of the address on, as long as the blocks
together. -/
def releasedRegion (address : Address) (buffer : Buffer) : Region :=
  { base := Page.alignDown address, len := buffer.totalSize }

/-- The name of a buffer is taken and the buffer is queried.  A buffer that is known is given up,
and its mapping is removed whether or not that succeeded. -/
inductive Release (address : Address) (id : BufferId) : List Event → Except Fault Unit → Prop
  | unqueried {source : IoFault} :
      Release address id
        [⟨.take address, some id⟩, ⟨.call (.queryBuffer (.registered id)), .error source⟩]
        (.error (.bufferQuery source))
  | queried {buffer : Buffer} {unregistered unmapped : Except IoFault Unit}
      {result : Except Fault Unit}
      (ends : ReleaseEnd (releasedRegion address buffer) unregistered unmapped result) :
      Release address id
        [⟨.take address, some id⟩, ⟨.call (.queryBuffer (.registered id)), .ok buffer⟩,
          ⟨.call (.unregister buffer), unregistered⟩,
          ⟨.call (.unmap (releasedRegion address buffer)), unmapped⟩]
        result

/-- What a demap deals altogether.  Nothing is taken unless a session was opened, and that is closed
last, and once. -/
inductive DemapSession (address : Address) : List Event → Except Fault Unit → Prop
  | refused {source : IoFault} :
      DemapSession address [⟨.call .openSession, .error source⟩] (.error (.session source))
  | missed :
      DemapSession address
        [⟨.call .openSession, .ok ()⟩, ⟨.take address, none⟩, ⟨.call .closeSession, ()⟩]
        (.error (.unknownAddress address))
  | held {id : BufferId} {events : List Event} {result : Except Fault Unit}
      (release : Release address id events result) :
      DemapSession address
        (⟨.call .openSession, .ok ()⟩ :: events ++ [⟨.call .closeSession, ()⟩]) result

variable {address : Address} {id : BufferId} {events : List Event} {result : Except Fault Unit}

/-! ### Demaps deal in these ways only -/

section Programs

open TilerMapping.Action

variable {before : List Event} {good : Except Fault Unit → List Event → Prop}

theorem releaseEnd_ofFaults (region : Region) (unregistered unmapped : Except IoFault Unit) :
    ReleaseEnd region unregistered unmapped
      (Fault.ofFaults (releaseFaults region unregistered unmapped)) := by
  cases unregistered with
  | ok =>
    cases unmapped with
    | ok => exact .released
    | error source => exact .leftMapped
  | error source =>
    cases unmapped with
    | ok => exact .leftRegistered
    | error second => exact .leftBoth

theorem releaseQueried_dealing {buffer : Buffer}
    (ends : ∀ unregistered unmapped result,
      ReleaseEnd (releasedRegion address buffer) unregistered unmapped result →
        good result (before ++ [⟨.call (.unregister buffer), unregistered⟩,
          ⟨.call (.unmap (releasedRegion address buffer)), unmapped⟩])) :
    (releaseQueried address buffer).run.wp .dealing good before := by
  unfold releaseQueried
  apply dealing_log
  apply dealing_call
  intro unregistered
  apply dealing_log
  apply dealing_call
  intro unmapped
  rw [List.append_assoc]
  exact wp_answer (ends _ _ _ (releaseEnd_ofFaults _ unregistered unmapped))

theorem releaseBuffer_dealing
    (missed : good (.error (.unknownAddress address)) (before ++ [⟨.take address, none⟩]))
    (ends : ∀ id events result, Release address id events result →
      good result (before ++ events)) :
    (releaseBuffer address).run.wp .dealing good before := by
  unfold releaseBuffer
  apply dealing_take
  intro answer
  cases answer with
  | none => exact missed
  | some id =>
    apply dealing_log
    apply dealing_call
    intro answer
    rw [List.append_assoc]
    apply wp_orElse
    case unknown =>
      rintro source rfl
      exact ends _ _ _ .unqueried
    rintro buffer rfl
    apply dealing_log
    apply releaseQueried_dealing
    intro unregistered unmapped result ended
    rw [List.append_assoc]
    exact ends _ _ _ (.queried ended)

theorem openAndRelease_dealing (address : Address) :
    (openAndRelease address).wp .dealing
      (fun result events => DemapSession address events result) [] := by
  unfold openAndRelease
  rw [Program.wp_bind]
  apply inSession_dealing
  · exact fun source => .refused
  · apply releaseBuffer_dealing
    · exact .missed
    · exact fun id events result release => .held release

/-- Whatever a demap is answered, its dealings are those of a session. -/
theorem demap_dealing (address : Address) :
    (demap address).wp .dealing (fun result events => DemapSession address events result) [] := by
  unfold demap
  rw [Program.wp_bind]
  apply Program.wp_mono EffectRule.dealing_monotone (openAndRelease_dealing address)
  intro result events session
  cases result with
  | ok => exact session
  | error fault =>
    rw [Program.wp_bind]
    exact Program.dealing_log session

end Programs

theorem demapSession_of_run {σ : Type} (driver : Driver σ) (world : World σ) (address : Address) :
    DemapSession address ((demap address).run driver world).dealings
      ((demap address).run driver world).value :=
  Program.wp_dealing_run (demap_dealing address)

/-! ### Sessions with a driver -/

section Answers

variable {σ : Type} {driver : Driver σ} {world : World σ}

/-- The name that a release takes is the one recorded for the address. -/
theorem Release.recorded {later : List Event} (release : Release address id events result)
    (answers : world.Answers driver (events ++ later)) :
    world.ledger.entries.find? address = some id := by
  cases release with
  | unqueried => exact answers.1.symm
  | queried => exact answers.1.symm

namespace DemapSession

theorem of_refused {source : IoFault} (session : DemapSession address events result)
    (answers : world.Answers driver events)
    (refused : (driver .openSession world.driver).1 = .error source) :
    events = [⟨.call .openSession, .error source⟩] ∧ result = .error (.session source) := by
  cases session with
  | refused =>
    have same := answers.1.trans refused
    cases same
    exact ⟨rfl, rfl⟩
  | missed =>
    have same := answers.1.trans refused
    cases same
  | held =>
    have same := answers.1.trans refused
    cases same

/-- In an open session a name that is recorded is released, and one that is not is missed. -/
theorem of_opened (session : DemapSession address events result)
    (answers : world.Answers driver events)
    (opens : (driver .openSession world.driver).1 = .ok ()) :
    (world.ledger.entries.find? address = none ∧
      events = [⟨.call .openSession, .ok ()⟩, ⟨.take address, none⟩, ⟨.call .closeSession, ()⟩] ∧
      result = .error (.unknownAddress address)) ∨
    ∃ id inner, world.ledger.entries.find? address = some id ∧
      Release address id inner result ∧
      events = ⟨.call .openSession, .ok ()⟩ :: inner ++ [⟨.call .closeSession, ()⟩] := by
  cases session with
  | refused =>
    have same := answers.1.trans opens
    cases same
  | missed => exact .inl ⟨answers.2.1.symm, rfl, rfl⟩
  | held release =>
    have recorded := release.recorded answers.2
    exact .inr ⟨_, _, recorded, release, rfl⟩

end DemapSession

end Answers

/-- A query answers a buffer of the name that it was asked for. -/
def KeepsName {σ : Type} (driver : Driver σ) : Prop :=
  ∀ (buffer : Buffer) (state : σ) (reply : Buffer),
    (driver (.queryBuffer buffer) state).1 = .ok reply → reply.id = buffer.id

theorem KeepsName.id_eq {σ : Type} {driver : Driver σ} {world : World σ} {asked reply : Buffer}
    (keeps : KeepsName driver) (answers : world.Answers driver events)
    (queried : ⟨.call (.queryBuffer asked), .ok reply⟩ ∈ events) : reply.id = asked.id := by
  rcases answers.of_mem queried with ⟨reached, said⟩
  exact keeps _ _ _ said.symm

/-- A demap for which no session can be opened leaves the ledger as it is.  Any other closes its
session once, at the end.  In it an address that is not recorded is missed, and nothing is asked of
the driver.  An address that is recorded has no entry afterwards, whatever the driver answers: the
buffer of its name is queried, and if that succeeds the queried blocks are given up and then the
region from the page of the address on with their size is removed, each once and the second whether
or not the first succeeded. -/
theorem demap_keeps_protocol {σ : Type} (driver : Driver σ) (keeps : KeepsName driver)
    (world : World σ) (address : Address) :
    let ran := (demap address).run driver world
    (∀ source, (driver .openSession world.driver).1 = .error source →
      ran.calls = [.openSession] ∧ ran.value = .error (.session source) ∧
        ran.world.ledger = world.ledger) ∧
    ((driver .openSession world.driver).1 = .ok () →
      (∃ before, ran.calls = .openSession :: before ++ [.closeSession] ∧
        .closeSession ∉ before) ∧
      (world.ledger.entries.find? address = none →
        ran.calls = [.openSession, .closeSession] ∧
          ran.value = .error (.unknownAddress address) ∧ ran.world.ledger = world.ledger) ∧
      ∀ id, world.ledger.entries.find? address = some id →
        ran.world.ledger =
          { world.ledger with entries := world.ledger.entries.erase address } ∧
        ((∃ source,
          ran.dealings = [⟨.call .openSession, .ok ()⟩, ⟨.take address, some id⟩,
            ⟨.call (.queryBuffer (.registered id)), .error source⟩, ⟨.call .closeSession, ()⟩] ∧
          ran.value = .error (.bufferQuery source)) ∨
        ∃ blocks unregistered unmapped,
          let buffer : Buffer := { id, blocks }
          let region : Region := { base := Page.alignDown address, len := buffer.totalSize }
          ran.dealings = [⟨.call .openSession, .ok ()⟩, ⟨.take address, some id⟩,
            ⟨.call (.queryBuffer (.registered id)), .ok buffer⟩,
            ⟨.call (.unregister buffer), unregistered⟩, ⟨.call (.unmap region), unmapped⟩,
            ⟨.call .closeSession, ()⟩] ∧
          ReleaseEnd region unregistered unmapped ran.value)) := by
  intro ran
  have session : DemapSession address ran.dealings ran.value := demapSession_of_run ..
  have answers : world.Answers driver ran.dealings := Program.answers_run ..
  have ledger : ran.world.ledger = world.ledger.afterAll ran.dealings := Program.ledger_run ..
  rw [Run.calls_eq_dealings, ledger]
  constructor
  case left =>
    intro source refused
    rcases session.of_refused answers refused with ⟨dealt, ended⟩
    rw [dealt]
    exact ⟨rfl, ended, rfl⟩
  case right =>
    intro opens
    rcases session.of_opened answers opens with
      ⟨missing, dealt, ended⟩ | ⟨id, inner, recorded, release, dealt⟩
    · rw [dealt, missing]
      refine ⟨⟨[], rfl, List.not_mem_nil⟩, fun _ => ⟨rfl, ended, ?_⟩, fun _ known => nomatch known⟩
      show { world.ledger with entries := world.ledger.entries.erase address } = world.ledger
      rw [Table.erase_of_find?_eq_none missing]
    rw [dealt] at answers
    rw [dealt, recorded]
    generalize ran.value = result at release ⊢
    cases release with
    | unqueried =>
      refine ⟨⟨[_], rfl, by simp⟩, fun missing => (nomatch missing), fun other known => ?_⟩
      cases known
      exact ⟨rfl, .inl ⟨_, rfl, rfl⟩⟩
    | @queried buffer unregistered unmapped _ ends =>
      have named : buffer.id = (Buffer.registered id).id := keeps.id_eq answers (by simp)
      obtain rfl : buffer.id = id := named
      refine ⟨⟨[_, _, _], rfl, by simp⟩, fun missing => (nomatch missing), fun other known => ?_⟩
      cases known
      exact ⟨rfl, .inr ⟨buffer.blocks, unregistered, unmapped, rfl, ends⟩⟩

/-- The driver in memory answers a buffer under the name that it was asked for. -/
theorem MemoryDriver.keepsName : KeepsName MemoryDriver.answer := by
  intro buffer driver reply answered
  unfold MemoryDriver.answer at answered
  simp only at answered
  split at answered
  · cases answered
  · unfold MemoryDriver.queryBuffer at answered
    split at answered
    · cases answered
      rfl
    · cases answered

/-- A demap whose registration cannot be given up removes the mapping all the same. -/
theorem demap_keeps_protocol_onePage :
    let remapped := (remap AddressMap.identity [0x60001234] [4096]).run MemoryDriver.answer
      { driver := MemoryDriver.onePage }
    let driver := remapped.world.driver.setFailing .unregister (some MemoryDriver.outOfMemory)
    let ran := (demap 0x40000234).run MemoryDriver.answer { remapped.world with driver }
    (∃ before, ran.calls = .openSession :: before ++ [.closeSession] ∧ .closeSession ∉ before) ∧
      ran.world.ledger =
        { remapped.world.ledger with
          entries := remapped.world.ledger.entries.erase 0x40000234 } ∧
      ran.world.driver.mappings.find? 0x40000000 = none ∧
      ran.world.driver.registered.contains 0x100000 = true := by
  intro remapped driver ran
  obtain ⟨_, opened⟩ := demap_keeps_protocol MemoryDriver.answer MemoryDriver.keepsName
    { remapped.world with driver } 0x40000234
  have opens : (MemoryDriver.answer .openSession driver).1 = .ok () := rfl
  obtain ⟨closed, _, released⟩ := opened opens
  have recorded : remapped.world.ledger.entries.find? 0x40000234 = some 0x100000 := by
    decide +kernel
  exact ⟨closed, (released _ recorded).1, by decide +kernel, by decide +kernel⟩

/-- A demap closes no session where none could be opened. -/
theorem demap_unopened_closes_nothing :
    ¬ ∀ (driver : MemoryDriver) (ledger : MappingLedger) (address : Address),
      ∃ before, ((demap address).run MemoryDriver.answer { driver, ledger }).calls =
        before ++ [.closeSession] ∧ .closeSession ∉ before := by
  intro closes
  let driver : MemoryDriver :=
    ({} : MemoryDriver).setFailing .openSession (some MemoryDriver.outOfMemory)
  rcases closes driver {} 0x40000234 with ⟨before, calls, _⟩
  have opened : ((demap 0x40000234).run MemoryDriver.answer { driver, ledger := {} }).calls =
    [.openSession] := by decide +kernel
  rw [opened] at calls
  have last := congrArg List.getLast? calls
  simp at last

end TilerMapping
