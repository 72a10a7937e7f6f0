/-
Module: TilerMapping.Proofs.Reversal
Purpose: A remap is undone by the demap of its address, once, whatever happens in between.
Main exports: Fleet.turn_remap, Fleet.turn_demap_hit, Fleet.turn_demap_miss, remap_reversed_once
-/
import TilerMapping.Proofs.Completion
import TilerMapping.Proofs.Store

namespace TilerMapping

/-!
After a remap the entry of its address stands for the registration and the mapping that the remap
made.  Calls that do not demap the address leave the entry what it stands for, so a demap releases
just these; afterwards the entry is missing until a remap answers the address again.
-/

/-- The calls of a run, in order. -/
def Fleet.Run.calls {σ α : Type} (run : Fleet.Run σ α) : List Call :=
  run.trace.filterMap Event.call?

/-- None of the calls with which a known address is demapped is made to fail. -/
def Turn.Unhindered (turn : Turn) : Prop :=
  turn.failing .openSession = none ∧ turn.Releasing

/-! ### Calls of the driver in memory that succeed -/

namespace MemoryDriver

variable {driver : MemoryDriver}

theorem answer_openSession (works : driver.failing .openSession = none) :
    answer .openSession driver = (.ok (), { driver with opened := driver.opened + 1 }) := by
  simp [answer, works]

theorem answer_queryBuffer (works : driver.failing .queryBuffer = none) {buffer : Buffer}
    {blocks : List Block} (known : driver.registered.find? buffer.id = some blocks) :
    answer (.queryBuffer buffer) driver = (.ok { buffer with blocks }, driver) := by
  simp [answer, works, queryBuffer, known]

theorem answer_unregister (works : driver.failing .unregister = none) {buffer : Buffer}
    {blocks : List Block} (known : driver.registered.find? buffer.id = some blocks) :
    answer (.unregister buffer) driver =
      (.ok (), { driver with registered := driver.registered.erase buffer.id }) := by
  simp [answer, works, unregister, Table.contains, known]

theorem answer_unmap (works : driver.failing .unmap = none) {region : Region}
    (whole : driver.mappings.find? region.base = some region.len) :
    answer (.unmap region) driver =
      (.ok (), { driver with mappings := driver.mappings.erase region.base }) := by
  simp [answer, works, unmap, whole]

theorem len_of_answer_map {size : ByteCount} {id : BufferId} {region : Region}
    {left : MemoryDriver} (maps : answer (.map size id) driver = (.ok region, left)) :
    region.len = size := by
  cases failing : driver.failing .map with
  | some fault =>
    simp only [answer, failing] at maps
    cases maps
  | none =>
    simp only [answer, failing, map] at maps
    split at maps
    · cases maps
      rfl
    · cases maps

/-- Block queries leave the driver in memory what it holds. -/
theorem holdings_queried {addresses : AddressMap} {left : MemoryDriver}
    {requests : List (DevicePtr × UInt32)} {blocks : List Block}
    (queried : Queried answer addresses driver requests blocks left) :
    left.holdings = driver.holdings := by
  induction queried with
  | nil state => rfl
  | @cons before middle after devicePtr length rest found blocks query allocated fits others ih =>
    have kept := holdings_answer (.queryBlock (Block.ofPtr (addresses devicePtr))) before
    rw [query] at kept
    exact ih.trans kept

end MemoryDriver

namespace Fleet

variable {dependable : Prop} {fleet : Fleet MemoryDriver} {shares : Owner → Share} {turn : Turn}
  {address : Address}

/-! ### Demaps -/

theorem turn_demap (fleet : Fleet MemoryDriver) (demaps : turn.request = .demap address) :
    let ran := (demap address).run MemoryDriver.answer (fleet.start turn)
    (fleet.turn turn).value = .released ran.value ∧ (fleet.turn turn).trace = ran.trace ∧
      (fleet.turn turn).fleet.driver = ran.world.driver ∧
      (fleet.turn turn).fleet.ledgers =
        Function.update fleet.ledgers turn.ledger ran.world.ledger := by
  have ran := fleet.turn_run turn
  rw [demaps] at ran
  unfold Request.program at ran
  rw [Program.run_map] at ran
  exact ran

theorem turn_demap_hit (settled : fleet.Settled dependable shares)
    (demaps : turn.request = .demap address) (unhindered : turn.Unhindered) {id : BufferId}
    {blocks : List Block} {region : Region}
    (recorded : fleet.Records turn.ledger address id)
    (share : shares (.entry turn.ledger address) =
      { registration := some (id, blocks), mapping := some (id, region) }) :
    (fleet.turn turn).value = .released (.ok ()) ∧
      (fleet.turn turn).calls = [.openSession, .queryBuffer { id }, .unregister { id, blocks },
        .unmap region, .closeSession] ∧
      (fleet.turn turn).fleet.driver.registered = fleet.driver.registered.erase id ∧
      (fleet.turn turn).fleet.driver.mappings = fleet.driver.mappings.erase region.base ∧
      (fleet.turn turn).fleet.ledgers = Function.update fleet.ledgers turn.ledger
        { fleet.ledgers turn.ledger with
          entries := (fleet.ledgers turn.ledger).entries.erase address } := by
  obtain ⟨opens, queries, unregisters, unmaps⟩ := unhindered
  obtain ⟨blocks', region', -, base, summed, same, registered, mapped⟩ :=
    settled.balanced.entry recorded
  rw [share] at same
  cases same
  have size : ({ id, blocks } : Buffer).totalSize = region.len :=
    Buffer.totalSize_of_sumSizes? summed
  have whole : Region.mk (Page.alignDown address) ({ id, blocks } : Buffer).totalSize = region := by
    rw [size, ← base]
  let opened := { (fleet.start turn).driver with opened := fleet.driver.opened + 1 }
  let unregistered := { opened with registered := fleet.driver.registered.erase id }
  have opening : MemoryDriver.answer .openSession (fleet.start turn).driver = (.ok (), opened) :=
    MemoryDriver.answer_openSession opens
  have querying : MemoryDriver.answer (.queryBuffer (.registered id)) opened =
      (.ok { id, blocks }, opened) := MemoryDriver.answer_queryBuffer queries registered
  have unregistering : MemoryDriver.answer (.unregister { id, blocks }) opened =
      (.ok (), unregistered) := MemoryDriver.answer_unregister unregisters registered
  have unmapping : MemoryDriver.answer
      (.unmap ⟨Page.alignDown address, ({ id, blocks } : Buffer).totalSize⟩) unregistered =
        (.ok (), { unregistered with mappings := fleet.driver.mappings.erase region.base }) := by
    rw [whole]
    exact MemoryDriver.answer_unmap unmaps mapped
  obtain ⟨value, world, calls⟩ :=
    run_demap_hit (show (fleet.start turn).ledger.entries.find? address = some id from recorded)
      opening querying unregistering unmapping
  rw [whole] at calls
  obtain ⟨valued, traced, driver, ledgers⟩ := turn_demap fleet demaps
  rw [valued, value.mpr ⟨rfl, rfl⟩, driver, ledgers, world]
  refine ⟨rfl, ?_, rfl, rfl, rfl⟩
  unfold Run.calls
  rw [traced]
  exact calls

/-- A demap of an address that is not recorded changes no table. -/
theorem turn_demap_miss (demaps : turn.request = .demap address)
    (opens : turn.failing .openSession = none)
    (missing : (fleet.ledgers turn.ledger).entries.find? address = none) :
    (fleet.turn turn).value = .released (.error (.unknownAddress address)) ∧
      (fleet.turn turn).calls = [.openSession, .closeSession] ∧
      (fleet.turn turn).fleet.driver.registered = fleet.driver.registered ∧
      (fleet.turn turn).fleet.driver.mappings = fleet.driver.mappings ∧
      (fleet.turn turn).fleet.ledgers = fleet.ledgers := by
  have opening : MemoryDriver.answer .openSession (fleet.start turn).driver =
      (.ok (), { (fleet.start turn).driver with opened := fleet.driver.opened + 1 }) :=
    MemoryDriver.answer_openSession opens
  obtain ⟨value, world, calls⟩ :=
    run_demap_miss (show (fleet.start turn).ledger.entries.find? address = none from missing)
      opening
  obtain ⟨valued, traced, driver, ledgers⟩ := turn_demap fleet demaps
  rw [valued, value, driver, ledgers, world]
  refine ⟨rfl, ?_, rfl, rfl, Function.update_eq_self ..⟩
  unfold Run.calls
  rw [traced]
  exact calls

/-! ### Remaps -/

/-- A remap that succeeds adds a registration, a mapping of the size of its blocks and an entry,
and none of the three replaces another. -/
theorem turn_remap {addresses : AddressMap} {devicePtrs : List DevicePtr} {lengths : List UInt32}
    {mapped : MappedBuffer} (remaps : turn.request = .remap addresses devicePtrs lengths)
    (ok : (fleet.turn turn).value = .mapped (.ok mapped))
    (fresh : Holdings.Follows Holdings.Fresh fleet.driver.holdings (fleet.turn turn).trace) :
    mapped.region.base = Page.alignDown mapped.address ∧
      fleet.driver.registered.find? mapped.id = none ∧
      fleet.driver.mappings.find? mapped.region.base = none ∧
      (∃ blocks,
        (fleet.turn turn).fleet.driver.registered =
          fleet.driver.registered.insert mapped.id blocks) ∧
      (fleet.turn turn).fleet.driver.mappings =
        fleet.driver.mappings.insert mapped.region.base mapped.region.len ∧
      (fleet.turn turn).fleet.ledgers = Function.update fleet.ledgers turn.ledger
        { fleet.ledgers turn.ledger with
          entries := (fleet.ledgers turn.ledger).entries.insert mapped.address mapped.id } := by
  obtain ⟨valued, traced, driver, ledgers⟩ := fleet.turn_run turn
  rw [remaps] at valued traced driver ledgers
  unfold Request.program at valued traced driver ledgers
  rw [Program.run_map] at valued traced driver ledgers
  rw [valued] at ok
  obtain ⟨blocks, size, reply, opened, queried, registered, placed, remapped⟩ :=
    remapped_of_run (Outcome.mapped.inj ok)
  have len := MemoryDriver.len_of_answer_map remapped.maps
  have opening := MemoryDriver.holdings_answer .openSession (fleet.start turn).driver
  rw [remapped.opens] at opening
  have registering := MemoryDriver.holdings_answer (.register { blocks }) queried
  rw [remapped.registers, MemoryDriver.holdings_queried remapped.queries, opening] at registering
  have mapping := MemoryDriver.holdings_answer (.map size reply.id) registered
  rw [remapped.maps, registering] at mapping
  have closing := MemoryDriver.holdings_answer .closeSession placed
  rw [mapping] at closing
  simp only [Holdings.after, remapped.named, if_false] at closing
  have left : (fleet.turn turn).fleet.driver = (MemoryDriver.answer .closeSession placed).2 :=
    driver.trans remapped.closed
  rw [← left] at closing
  -- The laws hold at what the driver held when it answered the name and the region.
  obtain ⟨first, second, third, quiet, quiet', events⟩ := remapped.trace
  rw [traced] at fresh
  simp only at fresh
  rw [events, Holdings.follows_append, Holdings.follows_append] at fresh
  obtain ⟨⟨-, naming, -⟩, starting, -⟩ := fresh
  rw [Holdings.afterAll, quiet] at naming
  rw [Holdings.afterAll_append, Holdings.afterAll, quiet', Holdings.afterAll, quiet] at starting
  simp only [Holdings.after, remapped.named, if_false] at starting
  obtain ⟨block, rest, -, added⟩ := remapped.addressed
  rw [remapped.name]
  refine ⟨?_, naming remapped.named, starting.2, ⟨blocks, ?_⟩, ?_, ?_⟩
  · exact (Page.alignDown_of_add? starting.1 (Page.toNat_offset_lt _) added).symm
  · exact congrArg Holdings.registered closing
  · rw [len]
    exact congrArg Holdings.mapped closing
  · rw [ledgers, ← remapped.name]
    exact congrArg (Function.update fleet.ledgers turn.ledger) remapped.ledger

/-! ### Entries over many calls -/

/-- None of the calls on a ledger answers an address. -/
def Unanswered (ledger : Nat) (address : Address) (fleet : Fleet MemoryDriver) :
    List Turn → Prop
  | [] => True
  | turn :: rest =>
      (turn.ledger = ledger → ¬(fleet.turn turn).value.Answers address) ∧
        (fleet.turn turn).fleet.Unanswered ledger address rest

variable {ledger : Nat}

theorem settled_turns_occupied (settled : fleet.Settled False shares) {turns : List Turn}
    (fair : fleet.Fair turns) (occupied : shares (.entry ledger address) ≠ {})
    (untouched : ∀ turn ∈ turns, turn.ledger = ledger → turn.request.target ≠ some address) :
    ∃ left, (fleet.turns turns).Settled False left ∧
      left (.entry ledger address) = shares (.entry ledger address) := by
  induction turns generalizing fleet shares with
  | nil => exact ⟨shares, settled, rfl⟩
  | cons turn rest ih =>
    obtain ⟨fresh, room, fair⟩ := fair
    obtain ⟨after, left, -, settled, confined⟩ := settled_turn settled turn fresh room False.elim
    have kept := confined.occupied ledger address occupied fun here =>
      untouched turn List.mem_cons_self here.symm
    rw [← kept] at occupied ⊢
    exact ih settled fair occupied fun other member =>
      untouched other (List.mem_cons_of_mem _ member)

theorem settled_turns_free (settled : fleet.Settled False shares) {turns : List Turn}
    (fair : fleet.Fair turns) (free : shares (.entry ledger address) = {})
    (unanswered : fleet.Unanswered ledger address turns) :
    ∃ left, (fleet.turns turns).Settled False left ∧ left (.entry ledger address) = {} := by
  induction turns generalizing fleet shares with
  | nil => exact ⟨shares, settled, free⟩
  | cons turn rest ih =>
    obtain ⟨fresh, room, fair⟩ := fair
    obtain ⟨after, left, answers, settled, confined⟩ :=
      settled_turn settled turn fresh room False.elim
    refine ih settled fair ?_ unanswered.2
    refine confined.free ledger address free fun here entered => ?_
    exact unanswered.1 here.symm (answers address entered)

/-- An address whose entry stands for nothing has no entry. -/
theorem Settled.find?_eq_none (settled : fleet.Settled dependable shares)
    (free : shares (.entry ledger address) = {}) :
    (fleet.ledgers ledger).entries.find? address = none := by
  cases found : (fleet.ledgers ledger).entries.find? address with
  | none => rfl
  | some id =>
    obtain ⟨-, blocks, region, share, -⟩ := settled.balanced.backed _ _ _ found
    rw [free] at share
    cases share

end Fleet

/-- A call demaps an address through a ledger. -/
def Turn.Demaps (turn : Turn) (ledger : Nat) (address : Address) : Prop :=
  turn.request = .demap address ∧ turn.ledger = ledger

/-- Only a remap answers a mapped buffer. -/
theorem Fleet.remaps_of_mapped {fleet : Fleet MemoryDriver} {turn : Turn}
    {result : Except Stop MappedBuffer} (mapped : (fleet.turn turn).value = .mapped result) :
    ∃ addresses devicePtrs lengths, turn.request = .remap addresses devicePtrs lengths := by
  rw [(fleet.turn_run turn).1] at mapped
  cases request : turn.request with
  | remap addresses devicePtrs lengths => exact ⟨addresses, devicePtrs, lengths, rfl⟩
  | remapPtr addresses devicePtrs lengths =>
    rw [request, Request.program, Program.run_map] at mapped
    cases mapped
  | demap address =>
    rw [request, Request.program, Program.run_map] at mapped
    cases mapped
  | demapStatus address =>
    rw [request, Request.program, Program.run_map] at mapped
    cases mapped

namespace Fleet

variable {fleet : Fleet MemoryDriver} {shares : Owner → Share} {turn : Turn}
  {mapped : MappedBuffer}

/-- After a remap the entry of its address stands for the registration and the region that the
remap has answered. -/
theorem settled_remap (settled : fleet.Settled False shares)
    (fresh : Holdings.Follows Holdings.Fresh fleet.driver.holdings (fleet.turn turn).trace)
    (room : Holdings.Follows (Holdings.RoomFor UInt64.toNat) fleet.driver.holdings
      (fleet.turn turn).trace)
    (ok : (fleet.turn turn).value = .mapped (.ok mapped)) :
    ∃ left blocks, (fleet.turn turn).fleet.Settled False left ∧
      (fleet.turn turn).fleet.Records turn.ledger mapped.address mapped.id ∧
      left (.entry turn.ledger mapped.address) =
        { registration := some (mapped.id, blocks)
          mapping := some (mapped.id, mapped.region) } := by
  obtain ⟨addresses, devicePtrs, lengths, remaps⟩ := remaps_of_mapped ok
  obtain ⟨page, -, -, -, mappings, ledgers⟩ := turn_remap remaps ok fresh
  obtain ⟨after, left, -, settled, -⟩ := settled_turn settled turn fresh room False.elim
  have recorded : (fleet.turn turn).fleet.Records turn.ledger mapped.address mapped.id := by
    unfold Records
    rw [ledgers, Function.update_self]
    exact Table.find?_insert_self ..
  obtain ⟨blocks, region, -, base, -, share, -, whole⟩ := settled.balanced.entry recorded
  have whole : (fleet.turn turn).fleet.driver.mappings.find? region.base = some region.len := whole
  rw [base, ← page, mappings, Table.find?_insert_self] at whole
  have same : region = mapped.region := by
    obtain ⟨start, size⟩ := region
    simp only at base whole
    rw [base, ← page, ← Option.some.inj whole]
  rw [same] at share
  exact ⟨left, blocks, settled, recorded, share⟩

/-- A remap and the demap of its address leave every table as it was. -/
theorem tables_remap_demap (settled : fleet.Settled False shares) {released : Turn}
    (fresh : Holdings.Follows Holdings.Fresh fleet.driver.holdings (fleet.turn turn).trace)
    (room : Holdings.Follows (Holdings.RoomFor UInt64.toNat) fleet.driver.holdings
      (fleet.turn turn).trace)
    (ok : (fleet.turn turn).value = .mapped (.ok mapped))
    (demaps : released.Demaps turn.ledger mapped.address) (unhindered : released.Unhindered) :
    let left := ((fleet.turn turn).fleet.turn released).fleet
    left.ledgers = fleet.ledgers ∧ left.driver.registered = fleet.driver.registered ∧
      left.driver.mappings = fleet.driver.mappings := by
  obtain ⟨addresses, devicePtrs, lengths, remaps⟩ := remaps_of_mapped ok
  obtain ⟨page, unnamed, unmapped, ⟨blocks, registered⟩, mappings, ledgers⟩ :=
    turn_remap remaps ok fresh
  obtain ⟨demaps, shared⟩ := demaps
  obtain ⟨left, known, settled', recorded, share⟩ := settled_remap settled fresh room ok
  rw [← shared] at recorded share
  obtain ⟨-, -, registered', mappings', ledgers'⟩ :=
    turn_demap_hit settled' demaps unhindered recorded share
  -- An entry of the address would own a mapping on the page that was free.
  have absent : (fleet.ledgers turn.ledger).entries.find? mapped.address = none := by
    cases found : (fleet.ledgers turn.ledger).entries.find? mapped.address with
    | none => rfl
    | some id =>
      obtain ⟨blocks, region, -, base, -, -, -, taken⟩ := settled.balanced.entry found
      have taken : fleet.driver.mappings.find? region.base = some region.len := taken
      rw [base, ← page, unmapped] at taken
      cases taken
  refine ⟨?_, ?_, ?_⟩
  · rw [ledgers', ledgers, shared, Function.update_self, Function.update_idem,
      Table.erase_insert _ absent, Function.update_eq_self]
  · rw [registered', registered, Table.erase_insert _ unnamed]
  · rw [mappings', mappings, Table.erase_insert _ unmapped]

end Fleet

/-- Whatever calls follow a remap, as long as none demaps its address through its ledger: the next
demap of the address gives up the buffer of the remap and removes its region, and nothing else.
From then on demaps of the address miss, until a remap answers it again.  With nothing in between,
remap and demap leave no trace in ledgers, registrations and mappings. -/
theorem remap_reversed_once (before between after : List Turn) (made released again : Turn)
    (mapped : MappedBuffer)
    (fair : Fleet.blank.Fair (before ++ made :: between ++ released :: after))
    (ok : ((Fleet.blank.turns before).turn made).value = .mapped (.ok mapped))
    (untouched : ∀ turn ∈ between, turn.ledger = made.ledger →
      turn.request.target ≠ some mapped.address)
    (demaps : released.Demaps made.ledger mapped.address) (unhindered : released.Unhindered)
    (unanswered : ((Fleet.blank.turns (before ++ made :: between)).turn released).fleet.Unanswered
      made.ledger mapped.address after)
    (demapsAgain : again.Demaps made.ledger mapped.address)
    (opens : again.failing .openSession = none) :
    let start := Fleet.blank.turns before
    let release := (Fleet.blank.turns (before ++ made :: between)).turn released
    let later := release.fleet.turns after
    let miss := later.turn again
    (release.value = .released (.ok ()) ∧
        ∃ blocks, release.calls = [.openSession, .queryBuffer { id := mapped.id },
          .unregister { id := mapped.id, blocks }, .unmap mapped.region, .closeSession]) ∧
      (miss.value = .released (.error (.unknownAddress mapped.address)) ∧
        miss.calls = [.openSession, .closeSession] ∧ miss.fleet.ledgers = later.ledgers ∧
        miss.fleet.driver.registered = later.driver.registered ∧
        miss.fleet.driver.mappings = later.driver.mappings) ∧
      (between = [] → release.fleet.ledgers = start.ledgers ∧
        release.fleet.driver.registered = start.driver.registered ∧
        release.fleet.driver.mappings = start.driver.mappings) := by
  intro start release later miss
  obtain ⟨fair, freshReleased, roomReleased, fairAfter⟩ := Fleet.fair_append.mp fair
  obtain ⟨fair, fresh, room, fairBetween⟩ := Fleet.fair_append.mp fair
  obtain ⟨shares, settled⟩ :=
    Fleet.settled_turns (Fleet.settled_blank False) before fair False.elim
  obtain ⟨left, blocks, settledMade, recorded, share⟩ := Fleet.settled_remap settled fresh room ok
  obtain ⟨kept, settledBetween, same⟩ := Fleet.settled_turns_occupied settledMade fairBetween
    (by rw [share]; exact fun empty => nomatch empty) untouched
  have split : Fleet.blank.turns (before ++ made :: between) =
      ((Fleet.blank.turns before).turn made).fleet.turns between := Fleet.turns_append ..
  rw [← split] at settledBetween
  obtain ⟨request, shared⟩ := demaps
  rw [share, ← shared] at same
  have backs := settledMade.balanced.backed _ _ _ recorded
  rw [share, ← same] at backs
  obtain ⟨value, calls, -, -, ledgers⟩ := Fleet.turn_demap_hit settledBetween request unhindered
    (settledBetween.balanced.find?_of_backs backs) same
  obtain ⟨-, freed, -, settledReleased, -⟩ :=
    Fleet.settled_turn settledBetween released freshReleased roomReleased False.elim
  have free : freed (.entry made.ledger mapped.address) = {} := by
    refine settledReleased.balanced.absent _ _ ?_
    rw [ledgers, ← shared, Function.update_self]
    exact Table.find?_erase_self ..
  obtain ⟨missing, settledLater, nothing⟩ :=
    Fleet.settled_turns_free settledReleased fairAfter free unanswered
  refine ⟨⟨value, blocks, calls⟩, ?_, ?_⟩
  · obtain ⟨request, sharedAgain⟩ := demapsAgain
    have absent := settledLater.find?_eq_none nothing
    rw [← sharedAgain] at absent
    obtain ⟨value, calls, registered, mappings, ledgers⟩ :=
      Fleet.turn_demap_miss request opens absent
    exact ⟨value, calls, ledgers, registered, mappings⟩
  · rintro rfl
    have restored := Fleet.tables_remap_demap settled fresh room ok ⟨request, shared⟩ unhindered
    rw [show release = ((Fleet.blank.turns before).turn made).fleet.turn released from
      congrArg (Fleet.turn · released) split]
    exact restored

/-- A remap, a remap of the same block through another ledger, and two demaps of the first. -/
theorem remap_reversed_once_twoLedgers :
    let made : Turn :=
      { known := MemoryDriver.onePage.known
        request := .remap AddressMap.identity [0x60001234] [4096] }
    let other : Turn :=
      { known := MemoryDriver.onePage.known
        nextId := 0x200000
        nextBase := 0x50000000
        ledger := 1
        request := .remapPtr AddressMap.identity [0x60001234] [4096] }
    let demaps : Turn := { request := .demap 0x40000234 }
    let release := (Fleet.blank.turns [made, other]).turn demaps
    (Fleet.blank.turn made).value = .mapped (.ok
        { region := ⟨0x40000000, 4096⟩
          offset := 0x234
          buffer :=
            { id := 0x100000
              blocks :=
                [{ Block.page 0x60001234 4096 with address := some 0x40000234 }] } }) ∧
      release.value = .released (.ok ()) ∧
      (release.fleet.turn demaps).value = .released (.error (.unknownAddress 0x40000234)) := by
  intro made other demaps release
  have ok : ((Fleet.blank.turns []).turn made).value = .mapped (.ok
      { region := ⟨0x40000000, 4096⟩
        offset := 0x234
        buffer :=
          { id := 0x100000
            blocks :=
              [{ Block.page 0x60001234 4096 with address := some 0x40000234 }] } }) := by
    apply Outcome.mapped?_eq_some_iff.mp
    decide +kernel
  have fair : Fleet.blank.Fair ([] ++ made :: [other] ++ demaps :: []) := by decide +kernel
  have reversed := remap_reversed_once [] [other] [] made demaps demaps _ fair ok
    (by simp [other]) ⟨rfl, rfl⟩ ⟨rfl, rfl, rfl, rfl⟩ trivial ⟨rfl, rfl⟩ rfl
  exact ⟨ok, reversed.1.1, reversed.2.1.1⟩

end TilerMapping
