/-
Module: TilerMapping.Proofs.Holdings
Purpose: What a driver holds, read off the calls it has answered, and the laws its answers keep.
Main exports: Holdings, Holdings.after, Holdings.afterAll, Holdings.Honest, Holdings.Fresh,
  Holdings.RoomFor, Holdings.Dependable, Holdings.Follows, MemoryDriver.holdings_perform
-/
import TilerMapping.MemoryDriver
import TilerMapping.Run

namespace TilerMapping

/-!
The book of a driver is kept from outside: registrations, mappings and sessions follow from the
calls and their answers, whatever the driver's own state is.  A call that failed has no effect.
Laws on answers are stated against this book, so they bind a driver only in the states that a
history of calls reaches.  `MemoryDriver.holdings_perform` says that the tables of the driver
in memory are this book.
-/

/-- What a driver holds after some calls, and how many sessions it has opened and closed. -/
structure Holdings where
  registered : Table BufferId (List Block) := {}
  /-- The size of the mapping that starts at an address. -/
  mapped : Table Address ByteCount := {}
  opened : Nat := 0
  closed : Nat := 0

/-- A condition on one answer of a driver that holds the given things. -/
abbrev AnswerLaw := Holdings → (effect : Effect) → effect.Answer → Prop

namespace Holdings

/-- What is held once an effect was answered.  The name zero registers nothing. -/
def after (holdings : Holdings) : (effect : Effect) → effect.Answer → Holdings
  | .call .openSession, .ok () => { holdings with opened := holdings.opened + 1 }
  | .call (.register buffer), .ok reply =>
      if reply.id = 0 then holdings
      else { holdings with registered := holdings.registered.insert reply.id buffer.blocks }
  | .call (.unregister buffer), .ok () =>
      { holdings with registered := holdings.registered.erase buffer.id }
  | .call (.map size _), .ok region =>
      { holdings with mapped := holdings.mapped.insert region.base size }
  | .call (.unmap region), .ok () =>
      { holdings with mapped := holdings.mapped.erase region.base }
  | .call .closeSession, () => { holdings with closed := holdings.closed + 1 }
  | _, _ => holdings

/-- What is held after a list of events. -/
def afterAll (holdings : Holdings) : List Event → Holdings
  | [] => holdings
  | event :: rest => (holdings.after event.effect event.answer).afterAll rest

theorem afterAll_append (holdings : Holdings) (first second : List Event) :
    holdings.afterAll (first ++ second) = (holdings.afterAll first).afterAll second := by
  induction first generalizing holdings with
  | nil => rfl
  | cons event rest ih => exact ih _

/-! ### Laws on answers -/

/-- Registering changes nothing of a buffer but its name, and a buffer query answers the
blocks registered under the name. -/
def Honest : AnswerLaw
  | _, .call (.register buffer), .ok reply => reply.blocks = buffer.blocks
  | holdings, .call (.queryBuffer buffer), .ok reply =>
      ∀ blocks, holdings.registered.find? buffer.id = some blocks →
        reply = { buffer with blocks }
  | _, _, _ => True

/-- A name handed out is not registered, and a mapping starts on a page on which none does. -/
def Fresh : AnswerLaw
  | holdings, .call (.register _), .ok reply =>
      reply.id ≠ 0 → holdings.registered.find? reply.id = none
  | holdings, .call (.map _ _), .ok region =>
      Page.offset region.base = 0 ∧ holdings.mapped.find? region.base = none
  | _, _, _ => True

/-- From any byte of its first page on, a mapping has room for the given number of bytes. -/
def RoomFor (bytes : ByteCount → Nat) : AnswerLaw
  | _, .call (.map size _), .ok region =>
      region.base.toNat + 4095 + bytes size < UInt64.size
  | _, _, _ => True

/-- What is there can be queried, given up and removed. -/
def Dependable : AnswerLaw
  | holdings, .call (.queryBuffer buffer), .error _ =>
      holdings.registered.find? buffer.id = none
  | holdings, .call (.unregister buffer), .error _ =>
      holdings.registered.find? buffer.id = none
  | holdings, .call (.unmap region), .error _ =>
      holdings.mapped.find? region.base ≠ some region.len
  | _, _, _ => True

/-- Every event of a list keeps a law, at what is held when it happens. -/
def Follows (law : AnswerLaw) : Holdings → List Event → Prop
  | _, [] => True
  | holdings, event :: rest =>
      law holdings event.effect event.answer ∧
        Follows law (holdings.after event.effect event.answer) rest

instance Fresh.decidable : ∀ (holdings : Holdings) (effect : Effect) (answer : effect.Answer),
    Decidable (Fresh holdings effect answer)
  | holdings, .call (.register _), .ok reply =>
      inferInstanceAs (Decidable (reply.id ≠ 0 → holdings.registered.find? reply.id = none))
  | holdings, .call (.map _ _), .ok region =>
      inferInstanceAs (Decidable
        (Page.offset region.base = 0 ∧ holdings.mapped.find? region.base = none))
  | _, .call .openSession, _ => .isTrue trivial
  | _, .call (.queryBlock _), _ => .isTrue trivial
  | _, .call (.register _), .error _ => .isTrue trivial
  | _, .call (.queryBuffer _), _ => .isTrue trivial
  | _, .call (.unregister _), _ => .isTrue trivial
  | _, .call (.map _ _), .error _ => .isTrue trivial
  | _, .call (.unmap _), _ => .isTrue trivial
  | _, .call .closeSession, _ => .isTrue trivial
  | _, .record _ _, _ => .isTrue trivial
  | _, .take _, _ => .isTrue trivial
  | _, .log _, _ => .isTrue trivial

instance RoomFor.decidable (bytes : ByteCount → Nat) :
    ∀ (holdings : Holdings) (effect : Effect) (answer : effect.Answer),
      Decidable (RoomFor bytes holdings effect answer)
  | _, .call (.map size _), .ok region =>
      inferInstanceAs (Decidable (region.base.toNat + 4095 + bytes size < UInt64.size))
  | _, .call .openSession, _ => .isTrue trivial
  | _, .call (.queryBlock _), _ => .isTrue trivial
  | _, .call (.register _), _ => .isTrue trivial
  | _, .call (.queryBuffer _), _ => .isTrue trivial
  | _, .call (.unregister _), _ => .isTrue trivial
  | _, .call (.map _ _), .error _ => .isTrue trivial
  | _, .call (.unmap _), _ => .isTrue trivial
  | _, .call .closeSession, _ => .isTrue trivial
  | _, .record _ _, _ => .isTrue trivial
  | _, .take _, _ => .isTrue trivial
  | _, .log _, _ => .isTrue trivial

instance Follows.decidable (law : AnswerLaw)
    [∀ holdings effect answer, Decidable (law holdings effect answer)] :
    ∀ holdings events, Decidable (Follows law holdings events)
  | _, [] => .isTrue trivial
  | holdings, event :: rest =>
      have := Follows.decidable law (holdings.after event.effect event.answer) rest
      inferInstanceAs (Decidable (law holdings event.effect event.answer ∧
        Follows law (holdings.after event.effect event.answer) rest))

theorem follows_append {law : AnswerLaw} {holdings : Holdings} {first second : List Event} :
    Follows law holdings (first ++ second) ↔
      Follows law holdings first ∧ Follows law (holdings.afterAll first) second := by
  induction first generalizing holdings with
  | nil => simp [Follows, afterAll]
  | cons event rest ih =>
    simp only [List.cons_append, Follows, afterAll]
    rw [ih, and_assoc]

end Holdings

/-! ### The driver in memory -/

namespace MemoryDriver

/-- A driver that knows one block of one page. -/
def onePage : MemoryDriver :=
  { known := ({} : Table DriverPtr (Except IoFault Block)).insert 0x60001234
      (.ok (.page 0x60001234 4096)) }

/-- What the driver in memory holds. -/
def holdings (driver : MemoryDriver) : Holdings :=
  { registered := driver.registered
    mapped := driver.mappings
    opened := driver.opened
    closed := driver.closed }

/-- The tables of the driver in memory are what its answers say it holds. -/
theorem holdings_answer (request : Call) (driver : MemoryDriver) :
    (answer request driver).2.holdings =
      driver.holdings.after (.call request) (answer request driver).1 := by
  cases request with
  | openSession =>
    cases failing : driver.failing .openSession <;>
      simp [answer, failing, holdings, Holdings.after]
  | queryBlock block =>
    cases failing : driver.failing .queryBlock <;>
      simp [answer, failing, holdings, Holdings.after]
  | register buffer =>
    cases failing : driver.failing .register with
    | some fault => simp [answer, failing, holdings, Holdings.after]
    | none =>
      cases forced : driver.forcedId with
      | none =>
        by_cases zero : driver.nextId = 0 <;>
          simp [answer, failing, register, takeId, forced, zero, holdings, Holdings.after]
      | some id =>
        by_cases zero : id = 0 <;>
          simp [answer, failing, register, takeId, forced, zero, holdings, Holdings.after]
  | queryBuffer buffer =>
    cases failing : driver.failing .queryBuffer <;>
      simp [answer, failing, holdings, Holdings.after]
  | unregister buffer =>
    cases failing : driver.failing .unregister with
    | some fault => simp [answer, failing, holdings, Holdings.after]
    | none =>
      by_cases known : driver.registered.contains buffer.id <;>
        simp [answer, failing, unregister, known, holdings, Holdings.after]
  | map size id =>
    cases failing : driver.failing .map with
    | some fault => simp [answer, failing, holdings, Holdings.after]
    | none =>
      by_cases known : driver.registered.contains id <;>
        simp [answer, failing, map, known, holdings, Holdings.after]
  | unmap region =>
    cases failing : driver.failing .unmap with
    | some fault => simp [answer, failing, holdings, Holdings.after]
    | none =>
      by_cases whole : driver.mappings.find? region.base = some region.len <;>
        simp [answer, failing, unmap, whole, holdings, Holdings.after]
  | closeSession => rfl

/-- No answer changes which calls are made to fail. -/
theorem failing_answer (request : Call) (driver : MemoryDriver) :
    (answer request driver).2.failing = driver.failing := by
  cases request with
  | openSession => cases failing : driver.failing .openSession <;> simp [answer, failing]
  | queryBlock block => cases failing : driver.failing .queryBlock <;> simp [answer, failing]
  | register buffer =>
    cases failing : driver.failing .register with
    | some fault => simp [answer, failing]
    | none =>
      cases forced : driver.forcedId <;>
        simp only [answer, failing, register, takeId, forced] <;> split <;> rfl
  | queryBuffer buffer => cases failing : driver.failing .queryBuffer <;> simp [answer, failing]
  | unregister buffer =>
    cases failing : driver.failing .unregister <;> simp only [answer, failing, unregister]
    split <;> rfl
  | map size id =>
    cases failing : driver.failing .map <;> simp only [answer, failing, map]
    split <;> rfl
  | unmap region =>
    cases failing : driver.failing .unmap <;> simp only [answer, failing, unmap]
    split <;> rfl
  | closeSession => rfl

theorem honest_answer (request : Call) (driver : MemoryDriver) :
    Holdings.Honest driver.holdings (.call request) (answer request driver).1 := by
  cases request with
  | register buffer =>
    cases failing : driver.failing .register <;>
      simp [answer, failing, Holdings.Honest, register]
  | queryBuffer buffer =>
    cases failing : driver.failing .queryBuffer with
    | some fault => simp [answer, failing, Holdings.Honest]
    | none =>
      cases known : driver.registered.find? buffer.id <;>
        simp [answer, failing, queryBuffer, known, Holdings.Honest, holdings]
  | _ => trivial

/-- The calls with which buffers are released are not made to fail. -/
def Releasing (driver : MemoryDriver) : Prop :=
  driver.failing .queryBuffer = none ∧ driver.failing .unregister = none ∧
    driver.failing .unmap = none

theorem dependable_answer {driver : MemoryDriver} (releasing : driver.Releasing)
    (request : Call) :
    Holdings.Dependable driver.holdings (.call request) (answer request driver).1 := by
  obtain ⟨queries, unregisters, unmaps⟩ := releasing
  cases request with
  | queryBuffer buffer =>
    cases known : driver.registered.find? buffer.id <;>
      simp [answer, queries, queryBuffer, known, Holdings.Dependable, holdings]
  | unregister buffer =>
    cases known : driver.registered.find? buffer.id <;>
      simp [answer, unregisters, unregister, Table.contains, known, Holdings.Dependable, holdings]
  | unmap region =>
    by_cases whole : driver.mappings.find? region.base = some region.len <;>
      simp [answer, unmaps, unmap, whole, Holdings.Dependable, holdings]
  | _ => trivial

theorem holdings_perform (effect : Effect) (world : World MemoryDriver) :
    (world.perform answer effect).2.driver.holdings =
      world.driver.holdings.after effect (world.perform answer effect).1 := by
  cases effect with
  | call request => exact holdings_answer request world.driver
  | record address id =>
    simp only [World.perform]
    split <;> rfl
  | take address => rfl
  | log notice => rfl

/-- What the driver in memory holds after a run is what the trace says. -/
theorem holdings_run {α : Type} (program : Program α) (world : World MemoryDriver) :
    (program.run answer world).world.driver.holdings =
      world.driver.holdings.afterAll (program.run answer world).trace := by
  induction program generalizing world with
  | done value => rfl
  | step effect next ih =>
    rw [Program.run_step]
    simp only [Holdings.afterAll]
    rw [ih, holdings_perform]

/-- A law that the driver in memory keeps with every answer is kept by the trace of a run. -/
theorem follows_run {α : Type} {law : AnswerLaw} (keeps : MemoryDriver → Prop)
    (kept : ∀ request driver, keeps driver → keeps (answer request driver).2)
    (lawful : ∀ (effect : Effect) (world : World MemoryDriver), keeps world.driver →
      law world.driver.holdings effect (world.perform answer effect).1)
    (program : Program α) (world : World MemoryDriver) (holds : keeps world.driver) :
    Holdings.Follows law world.driver.holdings (program.run answer world).trace := by
  induction program generalizing world with
  | done value => trivial
  | step effect next ih =>
    rw [Program.run_step]
    refine ⟨lawful effect world holds, ?_⟩
    rw [← holdings_perform]
    apply ih
    cases effect with
    | call request => exact kept request world.driver holds
    | record address id =>
      simp only [World.perform]
      split <;> exact holds
    | take address => exact holds
    | log notice => exact holds

theorem honest_run {α : Type} (program : Program α) (world : World MemoryDriver) :
    Holdings.Follows Holdings.Honest world.driver.holdings (program.run answer world).trace := by
  refine follows_run (fun _ => True) (fun _ _ _ => trivial) ?_ program world trivial
  intro effect world _
  cases effect with
  | call request => exact honest_answer request world.driver
  | _ => trivial

theorem dependable_run {α : Type} (program : Program α) (world : World MemoryDriver)
    (releasing : world.driver.Releasing) :
    Holdings.Follows Holdings.Dependable world.driver.holdings
      (program.run answer world).trace := by
  refine follows_run Releasing ?_ ?_ program world releasing
  · intro request driver holds
    unfold Releasing
    rw [failing_answer]
    exact holds
  · intro effect world holds
    cases effect with
    | call request => exact dependable_answer holds request
    | _ => trivial

end MemoryDriver

end TilerMapping
