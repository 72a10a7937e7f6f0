/-
Module: TilerMapping.Proofs.Settlement
Purpose: The account of a call that runs to its end while no other call is at work.
Main exports: AtWork, Confined, AtWork.perform, AtWork.run, Settled, Settled.run
-/
import TilerMapping.Proofs.Conduct
import TilerMapping.Proofs.Ownership

namespace TilerMapping

/-!
A call that runs alone has the number zero among the owners.  `AtWork.run` follows it effect by
effect; `Settled.run` is the account between two calls, when nothing is in hand.  `Confined` is the
frame: entries other than the one that the call may take keep what they stand for, and no entry
appears but the one that the call records.
-/

variable {σ α : Type} {dependable : Prop} {number : Nat}

/-- A call is at work with what it has in hand.  A session of the call is opened and not yet
closed exactly while it is in one. -/
structure AtWork (dependable : Prop) (holdings : Holdings) (ledgers : Nat → MappingLedger)
    (shares : Owner → Share) (custody : Custody) : Prop where
  balanced : Balanced dependable holdings ledgers shares
  inHand : shares (.call 0) = custody.toShare
  others : ∀ index, index ≠ 0 → shares (.call index) = {}
  sessions : holdings.opened = holdings.closed + custody.session.toNat

/-- What a call on one ledger may change of the shares of entries. -/
structure Confined (number : Nat) (before : Custody) (shares : Owner → Share) (after : Custody)
    (left : Owner → Share) : Prop where
  target : after.target = before.target
  entered : ∀ address, before.entered = some address → after.entered = some address
  /-- An entry that stands for a share keeps it, unless the call may take it. -/
  occupied : ∀ ledger address, shares (.entry ledger address) ≠ {} →
    (ledger = number → before.target ≠ some address) →
      left (.entry ledger address) = shares (.entry ledger address)
  /-- An entry that is not there does not appear, unless the call records it. -/
  free : ∀ ledger address, shares (.entry ledger address) = {} →
    (ledger = number → after.entered ≠ some address) → left (.entry ledger address) = {}

namespace Confined

variable {first second third : Custody} {shares left last : Owner → Share}

theorem refl (custody : Custody) (shares : Owner → Share) :
    Confined number custody shares custody shares :=
  ⟨rfl, fun _ => id, fun _ _ _ _ => rfl, fun _ _ empty _ => empty⟩

theorem trans (head : Confined number first shares second left)
    (tail : Confined number second left third last) :
    Confined number first shares third last := by
  constructor
  · exact tail.target.trans head.target
  · exact fun address entered => tail.entered _ (head.entered _ entered)
  · intro ledger address occupied untargeted
    have kept := head.occupied _ _ occupied untargeted
    rw [← kept] at occupied ⊢
    exact tail.occupied _ _ occupied (by rwa [head.target])
  · intro ledger address empty unentered
    refine tail.free _ _ (head.free _ _ empty ?_) unentered
    exact fun here entered => unentered here (tail.entered _ entered)

end Confined

/-- Only recording changes which address a call has entered. -/
theorem Custody.entered_after {custody : Custody} {kept : Share} {effect : Effect}
    {answer : effect.Answer} {address : Address} (permits : custody.Permits effect)
    (entered : custody.entered = some address) :
    (custody.after kept effect answer).entered = some address := by
  cases effect with
  | call request =>
    cases request with
    | register buffer =>
      cases answer with
      | error fault => exact entered
      | ok reply => by_cases zero : reply.id = 0 <;> simpa [after, zero] using entered
    | _ => cases answer <;> exact entered
  | take other => cases answer <;> exact entered
  | record other id =>
    rw [permits.2.2.1] at entered
    cases entered
  | log notice => exact entered

namespace AtWork

variable {holdings : Holdings} {ledgers : Nat → MappingLedger} {shares : Owner → Share}
  {custody : Custody} {driver : Driver σ} {world : World σ} {effect : Effect}

/-- An effect of the call changes the shares of entries within its bounds. -/
theorem confined (atWork : AtWork dependable holdings ledgers shares custody)
    (permits : custody.Permits effect) {answer : effect.Answer} :
    Confined number custody shares (custody.after (keptFor shares number effect) effect answer)
      (sharesAfter shares number 0 custody effect answer) := by
  constructor
  · exact custody.target_after _ effect answer
  · exact fun address entered => Custody.entered_after permits entered
  · intro ledger address occupied untargeted
    unfold sharesAfter
    rw [Function.update_of_ne Owner.noConfusion]
    cases effect with
    | call request => rfl
    | log notice => rfl
    | record other id =>
      refine Function.update_of_ne ?_ ..
      intro same
      cases same
      have free := atWork.balanced.find?_eq_none number atWork.inHand permits.2.2.2
      exact occupied (atWork.balanced.absent _ _ free)
    | take other =>
      refine Function.update_of_ne ?_ ..
      intro same
      cases same
      exact untargeted rfl permits.2.1
  · intro ledger address empty unentered
    unfold sharesAfter
    rw [Function.update_of_ne Owner.noConfusion]
    cases effect with
    | call request => exact empty
    | log notice => exact empty
    | record other id =>
      rw [sharesHanded_record, Function.update_of_ne, empty]
      intro same
      cases same
      exact unentered rfl rfl
    | take other =>
      by_cases same : Owner.entry ledger address = .entry number other
      · rw [same, sharesHanded_take, Function.update_self]
      · rw [sharesHanded_take, Function.update_of_ne same, empty]

theorem sessions_after (atWork : AtWork dependable holdings ledgers shares custody)
    (permits : custody.Permits effect) {answer : effect.Answer} {kept : Share} :
    (holdings.after effect answer).opened =
      (holdings.after effect answer).closed +
        (custody.after kept effect answer).session.toNat := by
  have sessions := atWork.sessions
  cases effect with
  | call request =>
    cases request with
    | openSession =>
      rw [show custody.session = false from permits] at sessions
      cases answer with
      | error fault =>
        simp only [Holdings.after, Custody.after]
        rw [show custody.session = false from permits]
        exact sessions
      | ok => exact congrArg (· + 1) sessions
    | closeSession =>
      rw [show custody.session = true from permits] at sessions
      exact sessions
    | register buffer =>
      cases answer with
      | error fault => exact sessions
      | ok reply =>
        by_cases zero : reply.id = 0 <;> simpa [Holdings.after, Custody.after, zero] using sessions
    | _ => cases answer <;> exact sessions
  | take address => cases answer <;> exact sessions
  | record address id => exact sessions
  | log notice => exact sessions

/-- One effect of the call, answered by a driver that keeps the laws. -/
theorem perform (atWork : AtWork dependable holdings ledgers shares custody)
    (here : ledgers number = world.ledger) (permits : custody.Permits effect)
    (lawful : Holdings.Lawful dependable holdings effect (world.perform driver effect).1) :
    let answer := (world.perform driver effect).1
    AtWork dependable (holdings.after effect answer)
      (Function.update ledgers number (world.perform driver effect).2.ledger)
      (sharesAfter shares number 0 custody effect answer)
      (custody.after (keptFor shares number effect) effect answer) := by
  constructor
  · refine atWork.balanced.perform number here atWork.inHand permits lawful ?_ ?_
    · exact Function.update_self ..
    · exact fun other apart => Function.update_of_ne apart ..
  · exact sharesAfter_self ..
  · intro index apart
    rw [sharesAfter_call_of_ne _ _ _ _ _ apart]
    exact atWork.others index apart
  · exact atWork.sessions_after permits

/-- A call whose precondition holds comes to a good end, with the account balanced and everything
but its own entries undisturbed. -/
theorem run {program : Program α} {good : α → Custody → Prop}
    (conduct : program.wp (Custody.rule dependable) good custody)
    (atWork : AtWork dependable holdings ledgers shares custody)
    (here : ledgers number = world.ledger)
    (lawful : Holdings.Follows (Holdings.Lawful dependable) holdings
      (program.run driver world).trace) :
    ∃ after left, good (program.run driver world).value after ∧
      AtWork dependable (holdings.afterAll (program.run driver world).trace)
        (Function.update ledgers number (program.run driver world).world.ledger) left after ∧
      Confined number custody shares after left := by
  induction program generalizing world custody holdings ledgers shares with
  | done value =>
    refine ⟨custody, shares, conduct, ?_, .refl custody shares⟩
    rw [Program.run_done, ← here, Function.update_eq_self]
    exact atWork
  | step effect next ih =>
    obtain ⟨permits, rest⟩ := conduct
    rw [Program.run_step] at lawful ⊢
    obtain ⟨first, others⟩ := lawful
    have expected := atWork.balanced.expects number here atWork.inHand permits first
    obtain ⟨after, left, ends, settled, confined⟩ :=
      ih _ (rest _ _ expected) (atWork.perform here permits first)
        (Function.update_self ..) others
    refine ⟨after, left, ends, ?_, (atWork.confined permits).trans confined⟩
    rwa [Function.update_idem] at settled

end AtWork

/-- The account between two calls: nothing is in hand, and every session is closed. -/
structure Settled (dependable : Prop) (holdings : Holdings) (ledgers : Nat → MappingLedger)
    (shares : Owner → Share) : Prop where
  balanced : Balanced dependable holdings ledgers shares
  idle : ∀ index, shares (.call index) = {}
  sessions : holdings.opened = holdings.closed

namespace Settled

variable {holdings : Holdings} {ledgers : Nat → MappingLedger} {shares : Owner → Share}
  {driver : Driver σ} {world : World σ}

/-- A request may start between two calls, and leaves everything settled.  What the driver has
refused to release has no owner any more. -/
theorem run (settled : Settled dependable holdings ledgers shares) (request : Request)
    (here : ledgers number = world.ledger)
    (lawful : Holdings.Follows (Holdings.Lawful dependable) holdings
      (request.program.run driver world).trace) :
    ∃ after left,
      (∀ address, after.entered = some address →
        (request.program.run driver world).value.Answers address) ∧
      Settled dependable (holdings.afterAll (request.program.run driver world).trace)
        (Function.update ledgers number (request.program.run driver world).world.ledger) left ∧
      Confined number { target := request.target } shares after left := by
  have atWork : AtWork dependable holdings ledgers shares { target := request.target } :=
    ⟨settled.balanced, settled.idle 0, fun index _ => settled.idle index, settled.sessions⟩
  obtain ⟨after, left, ⟨⟨closed, empty⟩, answers⟩, atEnd, confined⟩ :=
    atWork.run (request.program_wp dependable) here lawful
  refine ⟨after, Function.update left (.call 0) {}, answers, ⟨?_, ?_, ?_⟩, ?_⟩
  · by_cases sure : dependable
    · have inHand := atEnd.inHand
      rw [empty sure] at inHand
      rw [← inHand, Function.update_eq_self]
      exact atEnd.balanced
    · exact atEnd.balanced.hold (atEnd.balanced.registrations.abandon sure)
        (atEnd.balanced.mappings.abandon sure)
  · intro index
    by_cases this : index = 0
    · rw [this, Function.update_self]
    · rw [Function.update_of_ne fun same => this (Owner.call.inj same)]
      exact atEnd.others index this
  · have sessions := atEnd.sessions
    rw [closed] at sessions
    exact sessions
  · refine ⟨confined.target, confined.entered, ?_, ?_⟩
    · intro ledger address occupied untargeted
      rw [Function.update_of_ne Owner.noConfusion]
      exact confined.occupied _ _ occupied untargeted
    · intro ledger address free unentered
      rw [Function.update_of_ne Owner.noConfusion]
      exact confined.free _ _ free unentered

end Settled

end TilerMapping
