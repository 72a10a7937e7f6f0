/-
Module: TilerMapping.Proofs.Completion
Purpose: What the runs of remaps that succeed and of demaps have done, over any driver.
Main exports: Action.Gives, Action.gives_bind, Queried, Remapped, remapped_of_run, run_demap_hit,
  run_demap_miss
-/
import TilerMapping.Demap
import TilerMapping.Proofs.Holdings
import TilerMapping.Proofs.Sizes
import TilerMapping.Remap

namespace TilerMapping

/-!
A remap succeeds on one path only: every query and every fit succeeds, the driver names the buffer
and maps it, and the address is recorded.  `Remapped` lists what happened on it.  A demap of a
known address whose calls succeed, and a demap of an unknown address, have one path each.
-/

variable {σ ε α β : Type} {driver : Driver σ} {world after : World σ} {trace : List Event}

/-! ### Actions that come to a value -/

/-- Events after which a driver holds what it held before. -/
def Quiet (trace : List Event) : Prop :=
  ∀ holdings : Holdings, holdings.afterAll trace = holdings

theorem Quiet.append {first second : List Event} (left : Quiet first) (right : Quiet second) :
    Quiet (first ++ second) := by
  intro holdings
  rw [Holdings.afterAll_append, left, right]

/-- Run in a world, an action comes to a value, and leaves another world and a trace. -/
def Action.Gives (driver : Driver σ) (world : World σ) (action : Action ε α) (value : α)
    (after : World σ) (trace : List Event) : Prop :=
  action.run.run driver world = { value := .ok value, world := after, trace }

namespace Action

/-- A sequence comes to a value if its parts do. -/
theorem gives_bind {action : Action ε α} {next : α → Action ε β} {value : β} :
    Gives driver world (action >>= next) value after trace ↔
      ∃ first middle before rest, Gives driver world action first middle before ∧
        Gives driver middle (next first) value after rest ∧ trace = before ++ rest := by
  unfold Gives
  simp only [ExceptT.run_bind, Program.run_bind]
  rcases action.run.run driver world with ⟨result, middle, before⟩
  cases result with
  | error reason =>
    constructor
    · intro whole
      cases congrArg Run.value whole
    · rintro ⟨first, middle, before, rest, head, -⟩
      cases congrArg Run.value head
  | ok first =>
    rcases tail : (next first).run.run driver middle with ⟨ended, last, rest⟩
    constructor
    · intro whole
      simp only at whole
      cases whole
      exact ⟨first, middle, before, rest, rfl, tail, rfl⟩
    · rintro ⟨first, middle, before, rest, head, found, rfl⟩
      cases head
      rw [tail] at found
      cases found
      rfl

theorem gives_pure {value result : α} :
    Gives driver world (pure value : Action ε α) result after trace ↔
      result = value ∧ after = world ∧ trace = [] := by
  constructor
  · intro whole
    cases whole
    exact ⟨rfl, rfl, rfl⟩
  · rintro ⟨rfl, rfl, rfl⟩
    rfl

theorem not_gives_throw {reason : ε} {value : α} :
    ¬Gives driver world (throw reason : Action ε α) value after trace := by
  intro whole
  cases congrArg Run.value whole

theorem gives_call {request : Call} {answer : request.Answer} :
    Gives driver world (ExceptT.lift (Program.perform (.call request)) : Action ε request.Answer)
        answer after trace ↔
      answer = (driver request world.driver).1 ∧
        after = { world with driver := (driver request world.driver).2 } ∧
          trace = [⟨.call request, answer⟩] := by
  constructor
  · intro whole
    cases whole
    exact ⟨rfl, rfl, rfl⟩
  · rintro ⟨rfl, rfl, rfl⟩
    rfl

theorem gives_log {notice : Notice} {value : Unit} :
    Gives driver world (log notice : Action ε Unit) value after trace ↔
      after = world ∧ trace = [⟨.log notice, ()⟩] := by
  constructor
  · intro whole
    cases whole
    exact ⟨rfl, rfl⟩
  · rintro ⟨rfl, rfl⟩
    rfl

theorem gives_orElse {φ : Type} {reason : φ → ε} {answer : Except φ α} {value : α} :
    Gives driver world (orElse reason answer) value after trace ↔
      answer = .ok value ∧ after = world ∧ trace = [] := by
  cases answer with
  | ok known =>
    rw [show (orElse reason (.ok known) : Action ε α) = pure known from rfl, gives_pure]
    constructor
    · rintro ⟨rfl, rfl, rfl⟩
      exact ⟨rfl, rfl, rfl⟩
    · rintro ⟨same, rfl, rfl⟩
      exact ⟨(Except.ok.inj same).symm, rfl, rfl⟩
  | error fault =>
    constructor
    · intro whole
      exact (not_gives_throw whole).elim
    · rintro ⟨same, -⟩
      cases same

theorem gives_require {reason : ε} {answer : Option α} {value : α} :
    Gives driver world (require reason answer) value after trace ↔
      answer = some value ∧ after = world ∧ trace = [] := by
  cases answer with
  | some known =>
    rw [show (require reason (some known) : Action ε α) = pure known from rfl, gives_pure]
    constructor
    · rintro ⟨rfl, rfl, rfl⟩
      exact ⟨rfl, rfl, rfl⟩
    · rintro ⟨same, rfl, rfl⟩
      exact ⟨(Option.some.inj same).symm, rfl, rfl⟩
  | none =>
    constructor
    · intro whole
      exact (not_gives_throw whole).elim
    · rintro ⟨same, -⟩
      cases same

/-- A name is stored unless it is zero. -/
theorem gives_record {address : Address} {id : BufferId} {previous : Option BufferId}
    (gives : Gives driver world (record address id : Action ε (Except Abort (Option BufferId)))
      (.ok previous) after trace) :
    after = { world with
        ledger := { world.ledger with entries := world.ledger.entries.insert address id } } ∧
      trace = [⟨.record address id, .ok previous⟩] := by
  unfold Gives at gives
  rw [run_record, Program.run_step] at gives
  by_cases zero : id = 0
  · simp only [World.perform, MappingLedger.record, zero, if_true] at gives
    cases congrArg Run.value gives
  · simp only [World.perform, MappingLedger.record, zero, if_false] at gives
    cases gives
    exact ⟨rfl, rfl⟩

/-- Log records change nothing and are no calls. -/
theorem gives_logAll {notices : List Notice} {value : Unit}
    (gives : Gives driver world (logAll notices : Action ε Unit) value after trace) :
    after = world ∧ trace.filterMap Event.call? = [] ∧ Quiet trace := by
  have quiet : ∀ notices : List Notice,
      ((Program.logAll notices).run driver world).world = world ∧
        ((Program.logAll notices).run driver world).trace.filterMap Event.call? = [] ∧
        Quiet ((Program.logAll notices).run driver world).trace := by
    intro notices
    induction notices with
    | nil => exact ⟨rfl, rfl, fun _ => rfl⟩
    | cons notice rest ih => exact ih
  unfold Gives at gives
  rw [run_logAll, Program.run_map] at gives
  have left := congrArg Run.world gives
  have events := congrArg Run.trace gives
  simp only at left events
  rw [← left, ← events]
  exact quiet notices

end Action

/-! ### Sessions -/

theorem run_inSession_ok {program : Program α} {opened : σ}
    (opens : driver .openSession world.driver = (.ok (), opened)) :
    program.inSession.run driver world =
      let ran := program.run driver { world with driver := opened }
      { value := .ok ran.value
        world := { ran.world with driver := (driver .closeSession ran.world.driver).2 }
        trace := ⟨.call .openSession, .ok ()⟩ :: ran.trace ++ [⟨.call .closeSession, ()⟩] } := by
  unfold Program.inSession Program.call Program.perform
  simp only [Program.step_bind, Program.done_bind, Program.run_step, World.perform, opens]
  rw [Program.run_bind]
  rfl

theorem run_inSession_error {program : Program α} {fault : IoFault} {left : σ}
    (refused : driver .openSession world.driver = (.error fault, left)) :
    program.inSession.run driver world =
      { value := .error fault
        world := { world with driver := left }
        trace := [⟨.call .openSession, .error fault⟩] } := by
  unfold Program.inSession Program.call Program.perform
  simp only [Program.step_bind, Program.done_bind, Program.run_step, World.perform, refused]
  rfl

/-! ### Remaps that succeed -/

/-- Blocks were queried in order, each was found, and the geometry of each fits the length that
the caller gave. -/
inductive Queried (driver : Driver σ) (addresses : AddressMap) :
    σ → List (DevicePtr × UInt32) → List Block → σ → Prop
  | nil (state : σ) : Queried driver addresses state [] [] state
  | cons {before middle after : σ} {devicePtr : DevicePtr} {length : UInt32}
      {rest : List (DevicePtr × UInt32)} {found : Block} {blocks : List Block}
      (query : driver (.queryBlock (Block.ofPtr (addresses devicePtr))) before =
        (.ok found, middle))
      (allocated : found.driverPtr ≠ 0) (fits : (found.fitLength length).outcome = .ok ())
      (others : Queried driver addresses middle rest blocks after) :
      Queried driver addresses before ((devicePtr, length) :: rest)
        ((found.fitLength length).block :: blocks) after

/-- The calls with which blocks are queried. -/
def blockQueries (addresses : AddressMap) (requests : List (DevicePtr × UInt32)) : List Call :=
  requests.map fun request => .queryBlock (Block.ofPtr (addresses request.1))

/-- The queried blocks have the lengths that the caller gave, together. -/
theorem Queried.bytes_eq {addresses : AddressMap} {before after : σ}
    {requests : List (DevicePtr × UInt32)} {blocks : List Block}
    (queried : Queried driver addresses before requests blocks after) :
    Buffer.bytes blocks = totalLength (requests.map Prod.snd) := by
  induction queried with
  | nil => rfl
  | @cons _ _ _ _ length _ _ _ _ _ fits _ ih =>
    have size := Block.size_of_size? (Block.size?_fitLength fits)
    rw [Buffer.bytes_cons, size, ih, List.map_cons, totalLength, UInt32.toNat_toUInt64]

section Remap

open TilerMapping.Action

variable {addresses : AddressMap}

theorem queryBlock_gives {index : Nat} {devicePtr : DevicePtr} {length : UInt32} {block : Block}
    (gives : Gives driver world (queryBlock addresses index devicePtr length) block after trace) :
    ∃ found, driver (.queryBlock (Block.ofPtr (addresses devicePtr))) world.driver =
        (.ok found, after.driver) ∧
      found.driverPtr ≠ 0 ∧ (found.fitLength length).outcome = .ok () ∧
      block = (found.fitLength length).block ∧ after.ledger = world.ledger ∧
      trace.filterMap Event.call? = [.queryBlock (Block.ofPtr (addresses devicePtr))] ∧
      Quiet trace := by
  unfold queryBlock at gives
  simp only at gives
  split at gives
  · exact (not_gives_throw gives).elim
  obtain ⟨_, _, _, _, logged, asking, rfl⟩ := gives_bind.mp gives
  obtain ⟨rfl, rfl⟩ := gives_log.mp logged
  obtain ⟨answer, _, _, _, queried, checking, rfl⟩ := gives_bind.mp asking
  obtain ⟨answered, rfl, rfl⟩ := gives_call.mp queried
  obtain ⟨found, _, _, _, checked, replying, rfl⟩ := gives_bind.mp checking
  obtain ⟨rfl, rfl, rfl⟩ := gives_orElse.mp checked
  obtain ⟨_, _, _, _, logged, allocating, rfl⟩ := gives_bind.mp replying
  obtain ⟨rfl, rfl⟩ := gives_log.mp logged
  split at allocating
  · exact (not_gives_throw allocating).elim
  rename_i allocated
  obtain ⟨_, _, _, _, noted, fitting, rfl⟩ := gives_bind.mp allocating
  obtain ⟨rfl, silent, quiet⟩ := gives_logAll noted
  obtain ⟨_, _, _, _, checked, ending, rfl⟩ := gives_bind.mp fitting
  obtain ⟨fits, rfl, rfl⟩ := gives_orElse.mp checked
  obtain ⟨rfl, rfl, rfl⟩ := gives_pure.mp ending
  refine ⟨found, ?_, allocated, fits, rfl, rfl, ?_, ?_⟩
  · exact Prod.ext answered.symm rfl
  · simp [List.filterMap_cons, silent]
  · intro holdings
    simp [Holdings.afterAll, Holdings.after, quiet holdings]

theorem queryBlocks_gives {index : Nat} {total size : ByteCount}
    {requests : List (DevicePtr × UInt32)} {blocks : List Block}
    (gives : Gives driver world (queryBlocks addresses index total requests) (blocks, size) after
      trace) :
    Queried driver addresses world.driver requests blocks after.driver ∧
      Buffer.sumSizes? total blocks = some size ∧ after.ledger = world.ledger ∧
      trace.filterMap Event.call? = blockQueries addresses requests ∧ Quiet trace := by
  induction requests generalizing index total blocks world trace with
  | nil =>
    obtain ⟨same, rfl, rfl⟩ := gives_pure.mp gives
    cases same
    exact ⟨.nil _, rfl, rfl, rfl, fun _ => rfl⟩
  | cons request rest ih =>
    obtain ⟨devicePtr, length⟩ := request
    unfold queryBlocks at gives
    obtain ⟨block, middle, first, _, querying, adding, rfl⟩ := gives_bind.mp gives
    obtain ⟨found, query, allocated, fits, rfl, kept, calls, quiet⟩ := queryBlock_gives querying
    obtain ⟨next, _, _, _, required, going, rfl⟩ := gives_bind.mp adding
    obtain ⟨added, rfl, rfl⟩ := gives_require.mp required
    obtain ⟨⟨others, bytes⟩, _, second, _, recursing, ending, rfl⟩ := gives_bind.mp going
    obtain ⟨same, rfl, rfl⟩ := gives_pure.mp ending
    cases same
    obtain ⟨queried, summed, kept', calls', quiet'⟩ := ih recursing
    have known := Block.size?_fitLength fits
    refine ⟨.cons query allocated fits queried, ?_, kept'.trans kept, ?_, ?_⟩
    · rw [Block.size_of_size? known] at added
      simp [Buffer.sumSizes?, known, added, summed]
    · simp [calls, calls', blockQueries]
    · simpa using quiet.append quiet'

theorem mapRegistered_gives {size : ByteCount} {buffer : Buffer} {region : Region}
    (gives : Gives driver world (mapRegistered size buffer) region after trace) :
    driver (.map size buffer.id) world.driver = (.ok region, after.driver) ∧
      after.ledger = world.ledger ∧ trace = [⟨.call (.map size buffer.id), .ok region⟩] := by
  unfold mapRegistered at gives
  obtain ⟨answer, _, _, _, mapping, ending, rfl⟩ := gives_bind.mp gives
  obtain ⟨answered, rfl, rfl⟩ := gives_call.mp mapping
  cases answer with
  | ok known =>
    obtain ⟨rfl, rfl, rfl⟩ := gives_pure.mp ending
    exact ⟨Prod.ext answered.symm rfl, rfl, rfl⟩
  | error source =>
    obtain ⟨answer, _, _, _, -, throwing, -⟩ := gives_bind.mp ending
    cases answer with
    | ok => exact (not_gives_throw throwing).elim
    | error source => exact (not_gives_throw throwing).elim

theorem recordAddress_gives {address : Address} {id : BufferId} {value : Unit}
    (gives : Gives driver world (recordAddress address id) value after trace) :
    after = { world with
        ledger := { world.ledger with entries := world.ledger.entries.insert address id } } ∧
      trace.filterMap Event.call? = [] := by
  unfold recordAddress at gives
  obtain ⟨answer, _, _, _, storing, checking, rfl⟩ := gives_bind.mp gives
  obtain ⟨previous, _, _, _, checked, ending, rfl⟩ := gives_bind.mp checking
  obtain ⟨rfl, rfl, rfl⟩ := gives_orElse.mp checked
  obtain ⟨rfl, rfl⟩ := gives_record storing
  cases previous with
  | none =>
    obtain ⟨rfl, rfl, rfl⟩ := gives_pure.mp ending
    exact ⟨rfl, by simp⟩
  | some previous =>
    obtain ⟨rfl, rfl⟩ := gives_log.mp ending
    exact ⟨rfl, by simp⟩

theorem placeBuffer_gives {region : Region} {buffer : Buffer} {mapped : MappedBuffer}
    (gives : Gives driver world (placeBuffer region buffer) mapped after trace) :
    mapped.region = region ∧ mapped.id = buffer.id ∧
      (∃ block rest, buffer.blocks = block :: rest ∧
        Word.add? region.base (Page.offset block.driverPtr.toUInt64) = some mapped.address) ∧
      after = { world with
        ledger :=
          { world.ledger with
            entries := world.ledger.entries.insert mapped.address buffer.id } } ∧
      trace.filterMap Event.call? = [] := by
  unfold placeBuffer at gives
  split at gives
  · exact (not_gives_throw gives).elim
  rename_i block rest blocks
  obtain ⟨address, _, _, _, required, storing, rfl⟩ := gives_bind.mp gives
  obtain ⟨added, rfl, rfl⟩ := gives_require.mp required
  obtain ⟨_, _, _, _, recording, placing, rfl⟩ := gives_bind.mp storing
  obtain ⟨rfl, quiet⟩ := recordAddress_gives recording
  obtain ⟨placed, _, _, _, checked, ending, rfl⟩ := gives_bind.mp placing
  obtain ⟨-, rfl, rfl⟩ := gives_orElse.mp checked
  obtain ⟨rfl, rfl, rfl⟩ := gives_pure.mp ending
  have address_eq := Word.eq_of_add?_eq_some added
  refine ⟨rfl, rfl, ⟨block, rest, blocks, ?_⟩, ?_, by simp [quiet]⟩
  · rw [added, ← address_eq]
    rfl
  · rw [← address_eq]
    rfl

theorem mapBlocks_gives {requests : List (DevicePtr × UInt32)} {mapped : MappedBuffer}
    (gives : Gives driver world (mapBlocks addresses requests) mapped after trace) :
    ∃ blocks size reply queried registered,
      Queried driver addresses world.driver requests blocks queried ∧
        Buffer.sumSizes? 0 blocks = some size ∧
        driver (.register { blocks }) queried = (.ok reply, registered) ∧ reply.id ≠ 0 ∧
        driver (.map size reply.id) registered = (.ok mapped.region, after.driver) ∧
        mapped.id = reply.id ∧
        (∃ block rest, reply.blocks = block :: rest ∧
          Word.add? mapped.region.base (Page.offset block.driverPtr.toUInt64) =
            some mapped.address) ∧
        after.ledger =
          { world.ledger with
            entries := world.ledger.entries.insert mapped.address mapped.id } ∧
        trace.filterMap Event.call? =
          blockQueries addresses requests ++ [.register { blocks }, .map size reply.id] ∧
        ∃ first second third, Quiet first ∧ Quiet second ∧
          trace = first ++ ⟨.call (.register { blocks }), .ok reply⟩ :: second ++
            ⟨.call (.map size reply.id), .ok mapped.region⟩ :: third := by
  unfold mapBlocks at gives
  obtain ⟨⟨blocks, size⟩, _, _, _, querying, logging, rfl⟩ := gives_bind.mp gives
  obtain ⟨queried, summed, kept, queries, quiet⟩ := queryBlocks_gives querying
  obtain ⟨_, _, _, _, logged, registering, rfl⟩ := gives_bind.mp logging
  obtain ⟨rfl, rfl⟩ := gives_log.mp logged
  obtain ⟨answer, _, _, _, asked, checking, rfl⟩ := gives_bind.mp registering
  obtain ⟨answered, rfl, rfl⟩ := gives_call.mp asked
  obtain ⟨reply, _, _, _, checked, replying, rfl⟩ := gives_bind.mp checking
  obtain ⟨rfl, rfl, rfl⟩ := gives_orElse.mp checked
  obtain ⟨_, _, _, _, logged, naming, rfl⟩ := gives_bind.mp replying
  obtain ⟨rfl, rfl⟩ := gives_log.mp logged
  split at naming
  · rename_i named
    obtain ⟨region, _, _, recorded, mapping, placing, rfl⟩ := gives_bind.mp naming
    obtain ⟨maps, kept', rfl⟩ := mapRegistered_gives mapping
    obtain ⟨rfl, name, addressed, rfl, silent⟩ := placeBuffer_gives placing
    refine ⟨blocks, size, reply, _, _, queried, summed, Prod.ext answered.symm rfl, ?_, maps, name,
      addressed, ?_, ?_, _ ++ [⟨.log (.registration { blocks }), ()⟩],
      [⟨.log (.registrationReply reply), ()⟩], recorded, quiet.append fun _ => rfl,
      fun _ => rfl, ?_⟩
    · simpa [Buffer.isRegistered] using named
    · simp only [kept', kept, name]
    · simp [List.filterMap_cons, queries, silent]
    · simp
  · exact (not_gives_throw naming).elim

/-- What a remap that has succeeded did: it opened a session, queried the blocks, registered them,
mapped the buffer, recorded the address and closed the session. -/
structure Remapped (driver : Driver σ) (addresses : AddressMap)
    (requests : List (DevicePtr × UInt32)) (start : World σ)
    (ended : Run σ (Except Stop MappedBuffer)) (mapped : MappedBuffer) (blocks : List Block)
    (size : ByteCount) (reply : Buffer) (opened queried registered placed : σ) : Prop where
  opens : driver .openSession start.driver = (.ok (), opened)
  queries : Queried driver addresses opened requests blocks queried
  summed : Buffer.sumSizes? 0 blocks = some size
  registers : driver (.register { blocks }) queried = (.ok reply, registered)
  named : reply.id ≠ 0
  maps : driver (.map size reply.id) registered = (.ok mapped.region, placed)
  name : mapped.id = reply.id
  /-- The first block keeps its offset within its page. -/
  addressed : ∃ block rest, reply.blocks = block :: rest ∧
    Word.add? mapped.region.base (Page.offset block.driverPtr.toUInt64) = some mapped.address
  ledger : ended.world.ledger =
    { start.ledger with entries := start.ledger.entries.insert mapped.address mapped.id }
  closed : ended.world.driver = (driver .closeSession placed).2
  calls : ended.calls = .openSession :: blockQueries addresses requests ++
    [.register { blocks }, .map size reply.id, .closeSession]
  trace : ∃ first second third, Quiet first ∧ Quiet second ∧
    ended.trace = ⟨.call .openSession, .ok ()⟩ :: first ++
      ⟨.call (.register { blocks }), .ok reply⟩ :: second ++
        ⟨.call (.map size reply.id), .ok mapped.region⟩ :: third

/-- A remap that has succeeded was given a length for each block. -/
theorem map_snd_zip_of_remap {devicePtrs : List DevicePtr} {lengths : List UInt32}
    {mapped : MappedBuffer}
    (ok : ((remap addresses devicePtrs lengths).run driver world).value = .ok mapped) :
    (devicePtrs.zip lengths).map Prod.snd = lengths := by
  unfold remap at ok
  simp only at ok
  split at ok
  · cases ok
  split at ok
  · cases ok
  rename_i same
  exact List.map_snd_zip (by omega)

theorem remapped_of_run {devicePtrs : List DevicePtr} {lengths : List UInt32}
    {mapped : MappedBuffer}
    (ok : ((remap addresses devicePtrs lengths).run driver world).value = .ok mapped) :
    ∃ blocks size reply opened queried registered placed,
      Remapped driver addresses (devicePtrs.zip lengths) world
        ((remap addresses devicePtrs lengths).run driver world) mapped blocks size reply opened
        queried registered placed := by
  unfold remap at ok ⊢
  simp only at ok ⊢
  split at ok
  · cases ok
  split at ok
  · cases ok
  rename_i few same
  rw [if_neg few, if_neg same]
  rw [Program.run_bind] at ok ⊢
  rcases opening : driver .openSession world.driver with ⟨answer, opened⟩
  cases answer with
  | error fault =>
    rw [run_inSession_error opening] at ok
    cases ok
  | ok =>
    rw [run_inSession_ok opening] at ok ⊢
    rcases ran : (mapBlocks addresses (devicePtrs.zip lengths)).run.run driver
      { world with driver := opened } with ⟨result, after, trace⟩
    rw [ran] at ok
    cases result with
    | error stop => cases stop <;> cases ok
    | ok known =>
      cases ok
      obtain ⟨blocks, size, reply, queried, registered, queries, summed, registers, named, maps,
        name, addressed, ledger, calls, first, second, third, quiet, quiet', events⟩ :=
        mapBlocks_gives ran
      refine ⟨blocks, size, reply, opened, queried, registered, after.driver, opening, queries,
        summed, registers, named, maps, name, addressed, ledger, rfl, ?_, ?_⟩
      · simp [Run.calls, reportRemap, Program.log, Program.perform, Program.run,
          List.filterMap_cons, calls]
      · refine ⟨first, second, third ++
          [⟨.call .closeSession, ()⟩, ⟨.log (.remapped mapped.address), ()⟩], quiet, quiet', ?_⟩
        simp [events, reportRemap, Program.log, Program.perform, Program.run]

end Remap

/-! ### Demaps -/

section Demap

variable {address : Address} {opened : σ}

/-- Where no session can be opened, a demap leaves the driver as the refusal left it. -/
theorem run_demap_refused {fault : IoFault}
    (refused : driver .openSession world.driver = (.error fault, opened)) :
    ((demap address).run driver world).world.driver = opened := by
  unfold demap openAndRelease
  rw [Program.run_bind, Program.run_bind, run_inSession_error refused]
  simp [Program.run, Program.log, Program.perform, World.perform]

/-- Where the buffer cannot be queried, a demap ends with that, and makes no further call in its
session. -/
theorem run_demap_unqueried {id : BufferId} {fault : IoFault} {queried : σ}
    (found : world.ledger.entries.find? address = some id)
    (opens : driver .openSession world.driver = (.ok (), opened))
    (queries : driver (.queryBuffer (Buffer.registered id)) opened = (.error fault, queried)) :
    let ran := (demap address).run driver world
    ran.value = .error (.bufferQuery fault) ∧
      ran.world.driver = (driver .closeSession queried).2 := by
  unfold demap openAndRelease
  rw [Program.run_bind, Program.run_bind, run_inSession_ok opens]
  simp [releaseBuffer, ExceptT.run_bind, Program.run, Program.log, Program.perform,
    World.perform, MappingLedger.take, MappingLedger.unlock, found, queries]

/-- A demap of a known address whose buffer can be queried gives up the buffer under its recorded
name, and removes the mapping on the page of the address whether or not that succeeds. -/
theorem run_demap_hit {id : BufferId} {buffer : Buffer} {queried unregistered unmapped : σ}
    {givenUp removed : Except IoFault Unit}
    (found : world.ledger.entries.find? address = some id)
    (opens : driver .openSession world.driver = (.ok (), opened))
    (queries : driver (.queryBuffer (Buffer.registered id)) opened = (.ok buffer, queried))
    (unregisters : driver (.unregister buffer) queried = (givenUp, unregistered))
    (unmaps : driver (.unmap { base := Page.alignDown address, len := buffer.totalSize })
      unregistered = (removed, unmapped)) :
    let ran := (demap address).run driver world
    (ran.value = .ok () ↔ givenUp = .ok () ∧ removed = .ok ()) ∧
      ran.world =
        { driver := (driver .closeSession unmapped).2
          ledger := { world.ledger with entries := world.ledger.entries.erase address } } ∧
      ran.calls = [.openSession, .queryBuffer (Buffer.registered id), .unregister buffer,
        .unmap { base := Page.alignDown address, len := buffer.totalSize }, .closeSession] := by
  unfold demap openAndRelease
  rw [Program.run_bind, Program.run_bind, run_inSession_ok opens]
  cases givenUp <;> cases removed <;>
    simp [releaseBuffer, releaseQueried, releaseFaults, Fault.ofFaults, ExceptT.run_bind,
      Program.run, Program.log, Program.perform, World.perform, MappingLedger.take,
      MappingLedger.unlock, found, queries, unregisters, unmaps, Run.calls, List.filterMap_cons]

/-- A demap of an unknown address makes no calls in its session. -/
theorem run_demap_miss (missing : world.ledger.entries.find? address = none)
    (opens : driver .openSession world.driver = (.ok (), opened)) :
    let ran := (demap address).run driver world
    ran.value = .error (.unknownAddress address) ∧
      ran.world = { world with driver := (driver .closeSession opened).2 } ∧
      ran.calls = [.openSession, .closeSession] := by
  unfold demap openAndRelease
  rw [Program.run_bind, Program.run_bind, run_inSession_ok opens]
  simp [releaseBuffer, ExceptT.run_bind, Program.run, Program.log, Program.perform,
    World.perform, MappingLedger.take, MappingLedger.unlock, missing, Run.calls,
    List.filterMap_cons, Table.erase_of_find?_eq_none missing]

end Demap

end TilerMapping
