/-
Module: TilerMapping.Proofs.Commutation
Purpose: Demaps of different addresses come to the same in either order.
Main exports: Tables, Removal, Tables.without, Tables.without_comm, StandsFor, demapOutcome,
  DemapSession.outcome, Fleet.turn_demap_outcome, demaps_commute
-/
import TilerMapping.Proofs.Contention

namespace TilerMapping

/-!
What a demap answers, and what it takes away from the tables, follows from the buffer that its
address stands for and from the calls that are made to fail.  It takes away the entry of its address
and the registration and the mapping of that buffer at most.  Two entries share neither a name nor a
page, so what one demap takes away is nothing that another one asks for, and it makes no difference
which of the two is taken away first.
-/

/-! ### Tables and what is taken away from them -/

namespace Table

variable {κ ν : Type} [DecidableEq κ] {table : Table κ ν}

/-- The table without the entry of a key, where a key is given. -/
def eraseSome (table : Table κ ν) : Option κ → Table κ ν
  | none => table
  | some key => table.erase key

theorem eraseSome_comm (first second : Option κ) :
    (table.eraseSome first).eraseSome second = (table.eraseSome second).eraseSome first := by
  cases first with
  | none => rfl
  | some key =>
    cases second with
    | none => rfl
    | some other => exact erase_comm ..

theorem find?_eraseSome_of_ne {erased : Option κ} {key : κ} (kept : erased ≠ some key) :
    (table.eraseSome erased).find? key = table.find? key := by
  cases erased with
  | none => rfl
  | some other => exact find?_erase_of_ne _ fun same => kept (congrArg some same.symm)

end Table

/-- What is recorded in all ledgers, registered and mapped. -/
structure Tables where
  ledgers : Nat → MappingLedger
  registered : Table BufferId (List Block)
  mapped : Table Address ByteCount

/-- What is taken away: the entry of an address, the registration of a name and the mapping at a
base, each where it is given. -/
structure Removal where
  entry : Option Address := none
  name : Option BufferId := none
  base : Option Address := none

/-- The ledger without the entry of an address, where an address is given. -/
def MappingLedger.forget (ledger : MappingLedger) (address : Option Address) : MappingLedger :=
  { ledger with entries := ledger.entries.eraseSome address }

namespace Tables

variable {tables : Tables} {here there : Nat} {first second : Removal}

/-- The tables after a removal, whose entry is one of the given ledger. -/
def without (tables : Tables) (ledger : Nat) (removal : Removal) : Tables where
  ledgers :=
    Function.update tables.ledgers ledger ((tables.ledgers ledger).forget removal.entry)
  registered := tables.registered.eraseSome removal.name
  mapped := tables.mapped.eraseSome removal.base

theorem without_comm :
    (tables.without here first).without there second =
      (tables.without there second).without here first := by
  simp only [without, mk.injEq]
  refine ⟨?_, Table.eraseSome_comm .., Table.eraseSome_comm ..⟩
  by_cases same : here = there
  · subst same
    simp only [Function.update_self, Function.update_idem, MappingLedger.forget]
    rw [Table.eraseSome_comm]
  · simp only [Function.update_of_ne same, Function.update_of_ne (Ne.symm same)]
    exact Function.update_comm same ..

/-- An entry stays unless it is the one that is taken away. -/
theorem find?_without {address : Address}
    (kept : here = there → first.entry ≠ some address) :
    ((tables.without here first).ledgers there).entries.find? address =
      (tables.ledgers there).entries.find? address := by
  by_cases same : here = there
  · subst same
    simp only [without, Function.update_self]
    exact Table.find?_eraseSome_of_ne (kept rfl)
  · simp only [without, Function.update_of_ne (Ne.symm same)]

end Tables

/-! ### What an address stands for -/

/-- An address that is not recorded stands for nothing.  One that is recorded stands for the buffer
that is registered under the name, if the mapping on the page of the address is as long as that
buffer. -/
inductive StandsFor (entries : Table Address BufferId) (registered : Table BufferId (List Block))
    (mapped : Table Address ByteCount) (address : Address) : Option Buffer → Prop
  | nothing (missing : entries.find? address = none) :
      StandsFor entries registered mapped address none
  | held {buffer : Buffer} (recorded : entries.find? address = some buffer.id)
      (known : registered.find? buffer.id = some buffer.blocks)
      (whole : mapped.find? (Page.alignDown address) = some buffer.totalSize) :
      StandsFor entries registered mapped address (some buffer)

/-- What an address stands for in one of the ledgers. -/
def Tables.StandsFor (tables : Tables) (ledger : Nat) (address : Address)
    (stake : Option Buffer) : Prop :=
  TilerMapping.StandsFor (tables.ledgers ledger).entries tables.registered tables.mapped address
    stake

/-- A removal that takes nothing of it leaves what an address stands for. -/
theorem Tables.StandsFor.without {tables : Tables} {here there : Nat} {address : Address}
    {stake : Option Buffer} {removal : Removal} (stands : tables.StandsFor there address stake)
    (entry : here = there → removal.entry ≠ some address)
    (name : ∀ buffer ∈ stake, removal.name ≠ some buffer.id)
    (base : stake.isSome = true → removal.base ≠ some (Page.alignDown address)) :
    (tables.without here removal).StandsFor there address stake := by
  have kept := @find?_without tables here there removal address entry
  cases stands with
  | nothing missing => exact .nothing (kept.trans missing)
  | held recorded known whole =>
    refine .held (kept.trans recorded) ?_ ?_
    · exact (Table.find?_eraseSome_of_ne (name _ rfl)).trans known
    · exact (Table.find?_eraseSome_of_ne (base rfl)).trans whole

/-! ### What a demap comes to -/

/-- The answer of a call that is refused only where it is made to fail. -/
def attempt (failing : CallName → Option IoFault) (name : CallName) : Except IoFault Unit :=
  match failing name with
  | some fault => .error fault
  | none => .ok ()

/-- A key that is taken away unless a call is made to fail. -/
def unlessFailing {κ : Type} (failing : CallName → Option IoFault) (name : CallName) (key : κ) :
    Option κ :=
  match failing name with
  | some _ => none
  | none => some key

/-- What a demap answers and what it takes away, as calls are made to fail and as its address stands
for a buffer or for nothing.  An entry that is found is gone even if its buffer cannot be queried.
-/
def demapOutcome (failing : CallName → Option IoFault) (address : Address)
    (stake : Option Buffer) : Except Fault Unit × Removal :=
  match failing .openSession, stake, failing .queryBuffer with
  | some source, _, _ => (.error (.session source), {})
  | none, none, _ => (.error (.unknownAddress address), {})
  | none, some _, some source => (.error (.bufferQuery source), { entry := some address })
  | none, some buffer, none =>
      (Fault.ofFaults (releaseFaults (releasedRegion address buffer)
          (attempt failing .unregister) (attempt failing .unmap)),
        { entry := some address
          name := unlessFailing failing .unregister buffer.id
          base := unlessFailing failing .unmap (Page.alignDown address) })

variable {failing : CallName → Option IoFault} {address : Address} {stake : Option Buffer}

theorem eq_of_unlessFailing {κ : Type} {name : CallName} {key other : κ}
    (taken : unlessFailing failing name key = some other) : other = key := by
  unfold unlessFailing at taken
  split at taken
  · cases taken
  · exact (Option.some.inj taken).symm

/-- A demap takes nothing away but its entry and what that stands for. -/
theorem demapOutcome_removes :
    let removal := (demapOutcome failing address stake).2
    (∀ place, removal.entry = some place → place = address) ∧
      (∀ name, removal.name = some name → ∃ buffer, stake = some buffer ∧ name = buffer.id) ∧
      ∀ base, removal.base = some base → stake.isSome = true ∧ base = Page.alignDown address := by
  unfold demapOutcome
  split
  · simp
  · simp
  · simp [eq_comm]
  · refine ⟨fun place same => (Option.some.inj same).symm, fun name taken => ?_,
      fun base taken => ?_⟩
    · exact ⟨_, rfl, eq_of_unlessFailing taken⟩
    · exact ⟨rfl, eq_of_unlessFailing taken⟩

namespace MemoryDriver

variable {driver : MemoryDriver}

theorem answer_openSession_fst :
    (answer .openSession driver).1 = attempt driver.failing .openSession := by
  cases failing : driver.failing .openSession <;> simp [answer, attempt, failing]

/-- A registered buffer is answered unless queries are made to fail. -/
theorem answer_queryBuffer_known {buffer : Buffer}
    (known : driver.registered.find? buffer.id = some buffer.blocks) :
    answer (.queryBuffer (.registered buffer.id)) driver =
      ((attempt driver.failing .queryBuffer).map fun _ => buffer, driver) := by
  cases failing : driver.failing .queryBuffer <;>
    simp [answer, attempt, failing, queryBuffer, Buffer.registered, known, Except.map]

theorem answer_unregister_fst {buffer : Buffer} {blocks : List Block}
    (known : driver.registered.find? buffer.id = some blocks) :
    (answer (.unregister buffer) driver).1 = attempt driver.failing .unregister := by
  cases failing : driver.failing .unregister <;>
    simp [answer, attempt, failing, unregister, Table.contains, known]

theorem answer_unmap_fst {region : Region}
    (whole : driver.mappings.find? region.base = some region.len) :
    (answer (.unmap region) driver).1 = attempt driver.failing .unmap := by
  cases failing : driver.failing .unmap <;> simp [answer, attempt, failing, unmap, whole]

/-- Giving up a registration leaves the mappings and what is made to fail. -/
theorem answer_unregister_snd (buffer : Buffer) :
    (answer (.unregister buffer) driver).2.mappings = driver.mappings := by
  have held := congrArg Holdings.mapped (holdings_answer (.unregister buffer) driver)
  rcases answered : answer (.unregister buffer) driver with ⟨_ | _, left⟩ <;>
    rw [answered] at held <;> exact held

end MemoryDriver

theorem attempt_eq_ok_iff {name : CallName} :
    attempt failing name = .ok () ↔ failing name = none := by
  unfold attempt
  split <;> simp_all

theorem attempt_eq_error_iff {name : CallName} {source : IoFault} :
    attempt failing name = .error source ↔ failing name = some source := by
  unfold attempt
  split <;> simp_all

namespace Holdings

theorem after_unregister (holdings : Holdings) (buffer : Buffer) :
    holdings.after (.call (.unregister buffer)) (attempt failing .unregister) =
      { holdings with
        registered :=
          holdings.registered.eraseSome (unlessFailing failing .unregister buffer.id) } := by
  cases refused : failing .unregister <;> simp [attempt, unlessFailing, refused] <;> rfl

theorem after_unmap (holdings : Holdings) (region : Region) :
    holdings.after (.call (.unmap region)) (attempt failing .unmap) =
      { holdings with
        mapped := holdings.mapped.eraseSome (unlessFailing failing .unmap region.base) } := by
  cases refused : failing .unmap <;> simp [attempt, unlessFailing, refused] <;> rfl

end Holdings

/-- In an opened session of a driver in memory, what an address stands for is released, as calls are
made to fail. -/
theorem Release.outcome {world : World MemoryDriver} {id : BufferId} {events later : List Event}
    {result : Except Fault Unit} (release : Release address id events result)
    (opens : world.driver.failing .openSession = none)
    (answers : world.Answers MemoryDriver.answer (events ++ later))
    (stands : StandsFor world.ledger.entries world.driver.registered world.driver.mappings address
      stake) :
    let outcome := demapOutcome world.driver.failing address stake
    let held := world.driver.holdings.afterAll events
    result = outcome.1 ∧ world.ledger.afterAll events = world.ledger.forget outcome.2.entry ∧
      held.registered = world.driver.registered.eraseSome outcome.2.name ∧
      held.mapped = world.driver.mappings.eraseSome outcome.2.base := by
  have recorded := release.recorded answers
  cases stands with
  | nothing missing =>
    rw [missing] at recorded
    cases recorded
  | @held buffer found known whole =>
  rw [found] at recorded
  cases recorded
  have asked := congrArg Prod.fst (MemoryDriver.answer_queryBuffer_known known)
  have same := congrArg Prod.snd (MemoryDriver.answer_queryBuffer_known known)
  cases release with
  | @unqueried source =>
    have queried := answers.2.1.trans asked
    cases queries : world.driver.failing .queryBuffer with
    | none => simp [attempt, queries, Except.map] at queried
    | some fault =>
      simp only [attempt, queries, Except.map, Except.error.injEq] at queried
      simp only [demapOutcome, opens, queries, queried]
      exact ⟨trivial, rfl, rfl, rfl⟩
  | @queried reply unregistered unmapped _ ends =>
    have queried := answers.2.1.trans asked
    cases queries : world.driver.failing .queryBuffer with
    | some fault => simp [attempt, queries, Except.map] at queried
    | none =>
    simp only [attempt, queries, Except.map, Except.ok.injEq] at queried
    subst queried
    have unregisters : unregistered = (MemoryDriver.answer (.unregister reply)
        (MemoryDriver.answer (.queryBuffer (.registered reply.id)) world.driver).2).1 :=
      answers.2.2.1
    have unmaps : unmapped = (MemoryDriver.answer (.unmap (releasedRegion address reply))
        (MemoryDriver.answer (.unregister reply)
          (MemoryDriver.answer (.queryBuffer (.registered reply.id)) world.driver).2).2).1 :=
      answers.2.2.2.1
    clear answers
    rw [same, MemoryDriver.answer_unregister_fst known] at unregisters
    rw [same, MemoryDriver.answer_unmap_fst, MemoryDriver.failing_answer] at unmaps
    swap
    · rw [MemoryDriver.answer_unregister_snd]
      exact whole
    subst unregisters unmaps
    simp only [demapOutcome, opens, queries]
    refine ⟨ends.unique (releaseEnd_ofFaults ..), rfl, ?_, ?_⟩
    · simp only [Holdings.afterAll, Holdings.after_unregister, Holdings.after_unmap]
      rfl
    · simp only [Holdings.afterAll, Holdings.after_unregister, Holdings.after_unmap]
      rfl

/-- In memory, the session of a demap comes to the outcome of the demap. -/
theorem DemapSession.outcome {world : World MemoryDriver} {events : List Event}
    {result : Except Fault Unit} (session : DemapSession address events result)
    (answers : world.Answers MemoryDriver.answer events)
    (stands : StandsFor world.ledger.entries world.driver.registered world.driver.mappings address
      stake) :
    let outcome := demapOutcome world.driver.failing address stake
    let held := world.driver.holdings.afterAll events
    result = outcome.1 ∧ world.ledger.afterAll events = world.ledger.forget outcome.2.entry ∧
      held.registered = world.driver.registered.eraseSome outcome.2.name ∧
      held.mapped = world.driver.mappings.eraseSome outcome.2.base := by
  have opening := @MemoryDriver.answer_openSession_fst world.driver
  cases session with
  | @refused source =>
    have failing := attempt_eq_error_iff.mp (answers.1.trans opening).symm
    simp only [demapOutcome, failing]
    exact ⟨trivial, rfl, rfl, rfl⟩
  | missed =>
    have opens := attempt_eq_ok_iff.mp (answers.1.trans opening).symm
    have missing : world.ledger.entries.find? address = none := answers.2.1.symm
    cases stands with
    | nothing =>
      simp only [demapOutcome, opens]
      refine ⟨trivial, ?_, rfl, rfl⟩
      exact congrArg (fun entries => { world.ledger with entries })
        (Table.erase_of_find?_eq_none missing)
    | held found =>
      rw [missing] at found
      cases found
  | held release =>
    have opens := attempt_eq_ok_iff.mp (answers.1.trans opening).symm
    let opened : World MemoryDriver :=
      { world with driver := { world.driver with opened := world.driver.opened + 1 } }
    have reached : (world.perform MemoryDriver.answer (.call .openSession)).2 = opened := by
      simp only [World.perform, MemoryDriver.answer_openSession opens, opened]
    have answers := answers.2
    simp only at answers
    rw [reached] at answers
    have opens : opened.driver.failing .openSession = none := opens
    obtain ⟨value, ledger, registered, mapped⟩ := release.outcome opens answers stands
    intro outcome held
    refine ⟨value, ?_, ?_, ?_⟩
    · rw [MappingLedger.afterAll_append]
      exact ledger
    · simp only [held]
      rw [Holdings.afterAll_append]
      exact registered
    · simp only [held]
      rw [Holdings.afterAll_append]
      exact mapped

/-! ### Demaps as calls of a fleet -/

namespace Fleet

variable {fleet : Fleet MemoryDriver} {turn : Turn} {ledger : Nat}

/-- The tables of a fleet. -/
def tables (fleet : Fleet MemoryDriver) : Tables where
  ledgers := fleet.ledgers
  registered := fleet.driver.registered
  mapped := fleet.driver.mappings

/-- A demap of a fleet answers and takes away what the outcome says. -/
theorem turn_demap_outcome (demaps : turn.Demaps ledger address)
    (stands : fleet.tables.StandsFor ledger address stake) :
    let outcome := demapOutcome turn.failing address stake
    (fleet.turn turn).value = .released outcome.1 ∧
      (fleet.turn turn).fleet.tables = fleet.tables.without ledger outcome.2 := by
  obtain ⟨request, rfl⟩ := demaps
  obtain ⟨value, -, driver, ledgers⟩ := turn_demap fleet request
  let ran := (demap address).run MemoryDriver.answer (fleet.start turn)
  have held := MemoryDriver.holdings_run (demap address) (fleet.start turn)
  rw [← Holdings.afterAll_dealings] at held
  obtain ⟨answer, recorded, registered, mapped⟩ :=
    (demapSession_of_run MemoryDriver.answer (fleet.start turn) address).outcome
      (Program.answers_run ..) stands
  rw [← Program.ledger_run] at recorded
  intro outcome
  refine ⟨value.trans (congrArg Outcome.released answer), ?_⟩
  simp only [tables, Tables.without, Tables.mk.injEq]
  refine ⟨?_, ?_, ?_⟩
  · rw [ledgers, recorded]
    rfl
  · rw [driver]
    exact (congrArg Holdings.registered held).trans registered
  · rw [driver]
    exact (congrArg Holdings.mapped held).trans mapped

/-- In a settled fleet every address stands for something, if only for nothing. -/
theorem Settled.stands {dependable : Prop} {shares : Owner → Share}
    (settled : fleet.Settled dependable shares) (ledger : Nat) (address : Address) :
    ∃ stake, fleet.tables.StandsFor ledger address stake := by
  cases found : (fleet.ledgers ledger).entries.find? address with
  | none => exact ⟨none, .nothing found⟩
  | some id =>
    obtain ⟨blocks, region, -, base, summed, -, registered, mapped⟩ :=
      settled.balanced.entry found
    have size : ({ id, blocks } : Buffer).totalSize = region.len :=
      Buffer.totalSize_of_sumSizes? summed
    rw [base, ← size] at mapped
    exact ⟨some { id, blocks }, .held found registered mapped⟩

end Fleet

/-! ### Two demaps -/

section Pair

variable {fleet : Fleet MemoryDriver} {here there : Nat} {other : Address} {stake' : Option Buffer}

/-- Different entries stand for buffers of different names on different pages. -/
theorem Fleet.Consistent.apart (consistent : fleet.Consistent)
    (places : (here, address) ≠ (there, other)) {first second : Buffer}
    (stands : fleet.tables.StandsFor here address (some first))
    (stands' : fleet.tables.StandsFor there other (some second)) :
    first.id ≠ second.id ∧ Page.alignDown address ≠ Page.alignDown other := by
  cases stands with
  | held recorded =>
  cases stands' with
  | held recorded' =>
  have unique (shared : first.id = second.id ∨ Page.alignDown address = Page.alignDown other) :
      (here, address) = (there, other) := by
    obtain ⟨ledger, same⟩ := consistent.entry_unique _ _ _ _ _ _ recorded recorded' shared
    rw [ledger, same]
  exact ⟨fun same => places (unique (.inl same)), fun same => places (unique (.inr same))⟩

/-- A demap of one place leaves what another place stands for. -/
theorem Fleet.Consistent.stands_without (consistent : fleet.Consistent)
    (places : (here, address) ≠ (there, other))
    (stands : fleet.tables.StandsFor here address stake)
    (stands' : fleet.tables.StandsFor there other stake') :
    (fleet.tables.without here (demapOutcome failing address stake).2).StandsFor there other
      stake' := by
  obtain ⟨entry, name, base⟩ := @demapOutcome_removes failing address stake
  apply stands'.without
  · intro same taken
    exact places (by rw [same, entry _ taken])
  · rintro buffer rfl taken
    obtain ⟨first, rfl, same⟩ := name _ taken
    exact (consistent.apart places stands stands').1 same.symm
  · intro something taken
    obtain ⟨held, same⟩ := base _ taken
    obtain ⟨second, rfl⟩ := Option.isSome_iff_exists.mp something
    obtain ⟨first, rfl⟩ := Option.isSome_iff_exists.mp held
    exact (consistent.apart places stands stands').2 same.symm

end Pair

/-- After any sequence of calls, and whichever calls are made to fail from then on, two demaps of
different addresses, or of one address through different ledgers, give the same answers in either
order and leave the same ledgers, registrations and mappings, whether the addresses are recorded or
not. -/
theorem demaps_commute (turns : List Turn) (fair : Fleet.blank.Fair turns) (first second : Turn)
    (here there : Nat) (address other : Address) (demaps : first.Demaps here address)
    (demaps' : second.Demaps there other) (failing : second.failing = first.failing)
    (places : (here, address) ≠ (there, other)) :
    let fleet := Fleet.blank.turns turns
    let forth := (fleet.turn first).fleet.turn second
    let back := (fleet.turn second).fleet.turn first
    back.value = (fleet.turn first).value ∧ forth.value = (fleet.turn second).value ∧
      forth.fleet.ledgers = back.fleet.ledgers ∧
      forth.fleet.driver.registered = back.fleet.driver.registered ∧
      forth.fleet.driver.mappings = back.fleet.driver.mappings := by
  intro fleet forth back
  obtain ⟨shares, settled⟩ :=
    Fleet.settled_turns (Fleet.settled_blank False) turns fair False.elim
  have consistent := settled.consistent
  obtain ⟨stake, stands⟩ := settled.stands here address
  obtain ⟨stake', stands'⟩ := settled.stands there other
  obtain ⟨value, left⟩ := Fleet.turn_demap_outcome demaps stands
  obtain ⟨value', left'⟩ := Fleet.turn_demap_outcome demaps' stands'
  have kept : (fleet.turn first).fleet.tables.StandsFor there other stake' := by
    rw [left]
    exact consistent.stands_without places stands stands'
  have kept' : (fleet.turn second).fleet.tables.StandsFor here address stake := by
    rw [left']
    exact consistent.stands_without places.symm stands' stands
  obtain ⟨valueForth, leftForth⟩ := Fleet.turn_demap_outcome demaps' kept
  obtain ⟨valueBack, leftBack⟩ := Fleet.turn_demap_outcome demaps kept'
  have same : forth.fleet.tables = back.fleet.tables := by
    rw [leftForth, leftBack, left, left', failing]
    exact Tables.without_comm
  refine ⟨valueBack.trans value.symm, valueForth.trans value'.symm, ?_, ?_, ?_⟩
  · exact congrArg Tables.ledgers same
  · exact congrArg Tables.registered same
  · exact congrArg Tables.mapped same

/-- Demaps of two remapped pages, where registrations cannot be given up. -/
theorem demaps_commute_twoPages :
    let made (nextId : BufferId) (nextBase : Address) : Turn :=
      { known := MemoryDriver.onePage.known
        nextId
        nextBase
        request := .remap AddressMap.identity [0x60001234] [4096] }
    let release (address : Address) : Turn :=
      { failing := fun name =>
          if name = .unregister then some MemoryDriver.outOfMemory else none
        request := .demap address }
    let fleet := Fleet.blank.turns [made 0x100000 0x40000000, made 0x200000 0x50000000]
    let forth := (fleet.turn (release 0x40000234)).fleet.turn (release 0x50000234)
    let back := (fleet.turn (release 0x50000234)).fleet.turn (release 0x40000234)
    fleet.Records 0 0x40000234 0x100000 ∧ fleet.Records 0 0x50000234 0x200000 ∧
      back.value = (fleet.turn (release 0x40000234)).value ∧
      forth.fleet.ledgers = back.fleet.ledgers ∧
      forth.fleet.driver.registered = back.fleet.driver.registered ∧
      forth.fleet.driver.mappings.find? 0x40000000 = none ∧
      back.fleet.driver.mappings.find? 0x40000000 = none := by
  intro made release fleet forth back
  have fair : Fleet.blank.Fair [made 0x100000 0x40000000, made 0x200000 0x50000000] := by
    decide +kernel
  obtain ⟨value, _, ledgers, registered, mappings⟩ := demaps_commute _ fair (release 0x40000234)
    (release 0x50000234) 0 0 0x40000234 0x50000234 ⟨rfl, rfl⟩ ⟨rfl, rfl⟩ rfl (by decide)
  have mapped := congrArg (fun table : Table Address ByteCount => table.find? 0x40000000) mappings
  have unmapped : forth.fleet.driver.mappings.find? 0x40000000 = none := by decide +kernel
  have recorded : fleet.Records 0 0x40000234 0x100000 := by
    unfold Fleet.Records
    decide +kernel
  have recorded' : fleet.Records 0 0x50000234 0x200000 := by
    unfold Fleet.Records
    decide +kernel
  dsimp only [forth, back, fleet] at unmapped ⊢
  exact ⟨recorded, recorded', value, ledgers, registered, unmapped, mapped.symm.trans unmapped⟩

end TilerMapping
