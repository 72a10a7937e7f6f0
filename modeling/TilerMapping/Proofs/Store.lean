/-
Module: TilerMapping.Proofs.Store
Purpose: Ledgers, registrations and mappings correspond after any sequence of calls.
Main exports: Turn, Fleet.turn, Fleet.turns, Fleet.Fair, Fleet.Consistent, Fleet.Exact,
  Fleet.settled_turns, turns_consistent
-/
import TilerMapping.Fleet
import TilerMapping.Proofs.Settlement

namespace TilerMapping

/-!
Mappers share one driver in memory, and ledgers as they like.  Between two calls the surroundings
set the driver up anew: the blocks that can be queried, the calls that fail, and the name and the
base that are handed out next.  What the driver holds, and what the ledgers keep, only calls change.
-/

/-- A call through a mapper, and how the driver is set up for it. -/
structure Turn where
  known : Table DriverPtr (Except IoFault Block) := {}
  failing : CallName → Option IoFault := fun _ => none
  forcedId : Option BufferId := none
  nextId : BufferId := 0x100000
  nextBase : Address := 0x40000000
  /-- The number of the ledger that the mapper uses. -/
  ledger : Nat := 0
  request : Request

namespace Turn

/-- The driver as it is set up for a call.  It holds what it held. -/
def prepare (turn : Turn) (driver : MemoryDriver) : MemoryDriver :=
  { driver with
    known := turn.known
    failing := turn.failing
    forcedId := turn.forcedId
    nextId := turn.nextId
    nextBase := turn.nextBase }

/-- The calls with which buffers are released are not made to fail. -/
def Releasing (turn : Turn) : Prop :=
  turn.failing .queryBuffer = none ∧ turn.failing .unregister = none ∧ turn.failing .unmap = none

end Turn

namespace Fleet

/-- One call over the driver in memory. -/
def turn (fleet : Fleet MemoryDriver) (turn : Turn) : Fleet.Run MemoryDriver Outcome :=
  Fleet.run MemoryDriver.answer turn.ledger turn.request.program
    { fleet with driver := turn.prepare fleet.driver }

/-- The world in which a call of the fleet starts. -/
def start (fleet : Fleet MemoryDriver) (turn : Turn) : World MemoryDriver :=
  { driver := turn.prepare fleet.driver, ledger := fleet.ledgers turn.ledger }

/-- Calls one after the other. -/
def turns (fleet : Fleet MemoryDriver) : List Turn → Fleet MemoryDriver
  | [] => fleet
  | turn :: rest => (fleet.turn turn).fleet.turns rest

/-- The names handed out are not registered, and mappings are made on free pages with room for
one page more. -/
def Fair (fleet : Fleet MemoryDriver) : List Turn → Prop
  | [] => True
  | turn :: rest =>
      Holdings.Follows Holdings.Fresh fleet.driver.holdings (fleet.turn turn).trace ∧
        Holdings.Follows (Holdings.RoomFor UInt64.toNat) fleet.driver.holdings
          (fleet.turn turn).trace ∧
          (fleet.turn turn).fleet.Fair rest

instance Fair.decidable : ∀ (turns : List Turn) (fleet : Fleet MemoryDriver),
    Decidable (fleet.Fair turns)
  | [], _ => .isTrue trivial
  | turn :: rest, fleet =>
      have := Fair.decidable rest (fleet.turn turn).fleet
      inferInstanceAs (Decidable (_ ∧ _ ∧ (fleet.turn turn).fleet.Fair rest))

/-- Nothing is registered, mapped or recorded yet. -/
def blank : Fleet MemoryDriver := { driver := {} }

theorem turns_append (fleet : Fleet MemoryDriver) (first second : List Turn) :
    fleet.turns (first ++ second) = (fleet.turns first).turns second := by
  induction first generalizing fleet with
  | nil => rfl
  | cons turn rest ih => exact ih _

theorem fair_append {fleet : Fleet MemoryDriver} {first second : List Turn} :
    fleet.Fair (first ++ second) ↔ fleet.Fair first ∧ (fleet.turns first).Fair second := by
  induction first generalizing fleet with
  | nil => simp [Fair, turns]
  | cons turn rest ih =>
    simp only [List.cons_append, Fair, turns]
    rw [ih, and_assoc, and_assoc]

theorem ledgers_setLedger {σ : Type} (fleet : Fleet σ) (number : Nat) (ledger : MappingLedger) :
    (fleet.setLedger number ledger).ledgers = Function.update fleet.ledgers number ledger := by
  funext other
  by_cases this : other = number
  · simp [setLedger, this]
  · simp [setLedger, this, Function.update_of_ne]

/-- A call of a fleet is the run of its program where it starts. -/
theorem turn_run (fleet : Fleet MemoryDriver) (turn : Turn) :
    let ran := turn.request.program.run MemoryDriver.answer (fleet.start turn)
    (fleet.turn turn).value = ran.value ∧ (fleet.turn turn).trace = ran.trace ∧
      (fleet.turn turn).fleet.driver = ran.world.driver ∧
      (fleet.turn turn).fleet.ledgers =
        Function.update fleet.ledgers turn.ledger ran.world.ledger :=
  ⟨rfl, rfl, rfl, ledgers_setLedger ..⟩

/-! ### Settled between two calls -/

/-- A fleet is settled between two calls, with what the entries of its ledgers stand for. -/
def Settled (dependable : Prop) (fleet : Fleet MemoryDriver) (shares : Owner → Share) : Prop :=
  TilerMapping.Settled dependable fleet.driver.holdings fleet.ledgers shares

theorem settled_blank (dependable : Prop) : blank.Settled dependable fun _ => {} :=
  ⟨Balanced.empty rfl rfl fun _ _ => rfl, fun _ => rfl, rfl⟩

variable {dependable : Prop} {fleet : Fleet MemoryDriver} {shares : Owner → Share}

theorem settled_turn (settled : fleet.Settled dependable shares) (turn : Turn)
    (fresh : Holdings.Follows Holdings.Fresh fleet.driver.holdings (fleet.turn turn).trace)
    (room : Holdings.Follows (Holdings.RoomFor UInt64.toNat) fleet.driver.holdings
      (fleet.turn turn).trace)
    (sure : dependable → turn.Releasing) :
    ∃ after left,
      (∀ address, after.entered = some address → (fleet.turn turn).value.Answers address) ∧
      (fleet.turn turn).fleet.Settled dependable left ∧
      Confined turn.ledger { target := turn.request.target } shares after left := by
  have lawful : Holdings.Follows (Holdings.Lawful dependable) fleet.driver.holdings
      (turn.request.program.run MemoryDriver.answer (fleet.start turn)).trace :=
    Holdings.follows_lawful (MemoryDriver.honest_run _ (fleet.start turn)) fresh room fun holds =>
      MemoryDriver.dependable_run _ (fleet.start turn) (sure holds)
  obtain ⟨after, left, answers, atEnd, confined⟩ :=
    TilerMapping.Settled.run settled turn.request
      (show fleet.ledgers turn.ledger = (fleet.start turn).ledger from rfl) lawful
  refine ⟨after, left, answers, ?_, confined⟩
  unfold Settled
  rw [(fleet.turn_run turn).2.2.2]
  exact MemoryDriver.holdings_run turn.request.program (fleet.start turn) ▸ atEnd

theorem settled_turns (settled : fleet.Settled dependable shares) (turns : List Turn)
    (fair : fleet.Fair turns) (sure : dependable → ∀ turn ∈ turns, turn.Releasing) :
    ∃ left, (fleet.turns turns).Settled dependable left := by
  induction turns generalizing fleet shares with
  | nil => exact ⟨shares, settled⟩
  | cons turn rest ih =>
    obtain ⟨fresh, room, fair⟩ := fair
    obtain ⟨after, left, -, settled, -⟩ := settled_turn settled turn fresh room fun holds =>
      sure holds turn List.mem_cons_self
    exact ih settled fair fun holds other member => sure holds other (List.mem_cons_of_mem _ member)

/-! ### What is visible of it -/

/-- A ledger of the fleet has a name for an address. -/
def Records (fleet : Fleet MemoryDriver) (ledger : Nat) (address : Address) (id : BufferId) :
    Prop :=
  (fleet.ledgers ledger).entries.find? address = some id

/-- Every entry of a ledger names a buffer that is registered, and that is mapped on the page of
its address with the size of its blocks.  Two entries share neither, and no session is left open. -/
structure Consistent (fleet : Fleet MemoryDriver) : Prop where
  entry : ∀ ledger address id, fleet.Records ledger address id →
    id ≠ 0 ∧ ∃ blocks size, fleet.driver.registered.find? id = some blocks ∧
      fleet.driver.mappings.find? (Page.alignDown address) = some size ∧
        size.toNat = Buffer.bytes blocks
  entry_unique : ∀ first second address other id name, fleet.Records first address id →
    fleet.Records second other name →
      id = name ∨ Page.alignDown address = Page.alignDown other →
        first = second ∧ address = other
  sessions : fleet.driver.opened = fleet.driver.closed

/-- Every registration and every mapping belongs to exactly one entry. -/
structure Exact (fleet : Fleet MemoryDriver) : Prop where
  registered : ∀ id blocks, fleet.driver.registered.find? id = some blocks →
    ∃! place : Nat × Address, fleet.Records place.1 place.2 id
  mapped : ∀ base size, fleet.driver.mappings.find? base = some size →
    ∃! place : Nat × Address, (∃ id, fleet.Records place.1 place.2 id) ∧
      Page.alignDown place.2 = base

theorem Settled.consistent (settled : fleet.Settled dependable shares) : fleet.Consistent := by
  constructor
  · intro ledger address id recorded
    obtain ⟨blocks, region, named, base, summed, -, registered, mapped⟩ :=
      settled.balanced.entry recorded
    have bytes := Buffer.toNat_sumSizes? summed
    rw [UInt64.toNat_zero, Nat.zero_add] at bytes
    rw [base] at mapped
    exact ⟨named, blocks, region.len, registered, mapped, bytes⟩
  · intro first second address other id name recorded recorded' shared
    exact settled.balanced.entry_unique recorded recorded' shared
  · exact settled.sessions

theorem Settled.exact (settled : fleet.Settled dependable shares) (holds : dependable) :
    fleet.Exact := by
  have consistent := settled.consistent
  -- Nothing is in hand between two calls, so an owner with something is an entry.
  have entry (owner : Owner) (occupied : shares owner ≠ {}) :
      ∃ ledger address id, owner = .entry ledger address ∧ fleet.Records ledger address id := by
    cases owner with
    | call index => exact absurd (settled.idle index) occupied
    | entry ledger address =>
      cases found : (fleet.ledgers ledger).entries.find? address with
      | none => exact absurd (settled.balanced.absent _ _ found) occupied
      | some id => exact ⟨ledger, address, id, rfl, found⟩
  constructor
  · intro id blocks found
    obtain ⟨owner, has⟩ := settled.balanced.registrations.covered holds id blocks found
    obtain ⟨ledger, address, name, rfl, recorded⟩ := entry owner (by
      intro empty
      simp [empty] at has)
    obtain ⟨-, blocks', region, here, -⟩ := settled.balanced.backed _ _ _ recorded
    have same : name = id := by
      simp only [Function.comp_apply, here, Option.some.injEq, Prod.mk.injEq] at has
      exact has.1
    subst same
    refine ⟨(ledger, address), recorded, fun place there => ?_⟩
    obtain ⟨left, right⟩ := consistent.entry_unique _ _ _ _ _ _ there recorded (.inl rfl)
    exact Prod.ext left right
  · intro base size found
    obtain ⟨owner, has⟩ := settled.balanced.mappings.covered holds base size found
    obtain ⟨ledger, address, name, rfl, recorded⟩ := entry owner (by
      intro empty
      simp [Share.span, empty] at has)
    obtain ⟨-, blocks, region, here, page, -⟩ := settled.balanced.backed _ _ _ recorded
    have same : region.base = base := by
      simp only [Function.comp_apply, Share.span, here, Option.map_some, Option.some.injEq,
        Prod.mk.injEq] at has
      exact has.1
    subst same
    refine ⟨(ledger, address), ⟨⟨name, recorded⟩, page.symm⟩, fun place there => ?_⟩
    obtain ⟨⟨id, there⟩, onPage⟩ := there
    obtain ⟨left, right⟩ :=
      consistent.entry_unique _ _ _ _ _ _ there recorded (.inr (onPage.trans page))
    exact Prod.ext left right

end Fleet

/-- After any sequence of calls through any mappers over the driver in memory, ledgers,
registrations and mappings correspond; where the calls that release were never made to fail, they
correspond exactly. -/
theorem turns_consistent (turns : List Turn) (fair : Fleet.blank.Fair turns) :
    (Fleet.blank.turns turns).Consistent ∧
      ((∀ turn ∈ turns, turn.Releasing) → (Fleet.blank.turns turns).Exact) := by
  constructor
  · obtain ⟨shares, settled⟩ := Fleet.settled_turns (Fleet.settled_blank False) turns fair
      False.elim
    exact settled.consistent
  · intro releasing
    obtain ⟨shares, settled⟩ := Fleet.settled_turns (Fleet.settled_blank True) turns fair
      fun _ => releasing
    exact settled.exact trivial

/-- Two mappers with ledgers of their own remap the same block, and one demaps it. -/
theorem turns_consistent_twoLedgers :
    let turns : List Turn :=
      [{ known := MemoryDriver.onePage.known
         request := .remap AddressMap.identity [0x60001234] [4096] },
       { known := MemoryDriver.onePage.known
         nextId := 0x200000
         nextBase := 0x50000000
         ledger := 1
         request := .remapPtr AddressMap.identity [0x60001234] [4096] },
       { request := .demap 0x40000234 }]
    Fleet.blank.Fair turns ∧ (Fleet.blank.turns turns).Records 1 0x50000234 0x200000 ∧
      (Fleet.blank.turns turns).Consistent ∧ (Fleet.blank.turns turns).Exact := by
  intro turns
  have fair : Fleet.blank.Fair turns := by decide +kernel
  have releasing : ∀ turn ∈ turns, turn.Releasing := by
    intro turn member
    simp only [turns, List.mem_cons, List.not_mem_nil, or_false] at member
    rcases member with rfl | rfl | rfl <;> exact ⟨rfl, rfl, rfl⟩
  refine ⟨fair, ?_, (turns_consistent turns fair).1, (turns_consistent turns fair).2 releasing⟩
  unfold Fleet.Records
  decide +kernel

end TilerMapping
