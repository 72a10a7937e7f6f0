/-
Module: TilerMapping.Proofs.LedgerHistory
Purpose: What a ledger serves after any history of operations, abandoned ones among them.
Main exports: LedgerCall, LedgerEvent, MappingLedger.perform, MappingLedger.performAll, Standing,
  MappingLedger.find?_performAll, MappingLedger.balance_performAll, ledger_serves_each_name_once
-/
import Mathlib.Data.List.Induction
import Mathlib.Data.Set.Card
import TilerMapping.MappingLedger

namespace TilerMapping

/-!
A ledger is asked for names, and asked whether and how many it has, by holders that add names in
between.  An addition can be abandoned: before the lock is taken, where the name is zero, or under
it, where the receiver of the warning fails.  What the ledger answers depends on neither: an address
stands for the name of its last addition, until that is taken.  Every addition of a name but zero is
accounted for once: its name was taken, was replaced with a warning, or still stands.
-/

/-! ### Operations and histories -/

/-- An operation of a holder of a ledger.  An addition comes with the receiver of its warning. -/
inductive LedgerCall where
  | add (logger : Logger) (address : Address) (id : BufferId)
  | take (address : Address)
  | contains (address : Address)
  | size
  | isEmpty

/-- What an operation answers; an addition may be abandoned. -/
@[reducible] def LedgerCall.Answer : LedgerCall → Type
  | .add _ _ _ => Except Abort Unit
  | .take _ => Option BufferId
  | .contains _ => Bool
  | .size => Nat
  | .isEmpty => Bool

/-- An operation that was carried out, with its answer and the log records that it emitted. -/
structure LedgerEvent where
  call : LedgerCall
  answer : call.Answer
  notices : List Notice := []

/-- The end of a history: the ledger as it is left, and what was carried out, in order. -/
structure LedgerRun where
  ledger : MappingLedger
  events : List LedgerEvent := []

namespace MappingLedger

/-- Carry out one operation. -/
def perform (ledger : MappingLedger) : LedgerCall → LedgerEvent × MappingLedger
  | .add logger address id =>
    let added := ledger.add logger address id
    ({ call := .add logger address id, answer := added.outcome, notices := added.notices },
      added.ledger)
  | .take address =>
    let taken := ledger.take address
    ({ call := .take address, answer := taken.1 }, taken.2)
  | .contains address =>
    ({ call := .contains address, answer := ledger.contains address }, ledger)
  | .size => ({ call := .size, answer := ledger.size }, ledger)
  | .isEmpty => ({ call := .isEmpty, answer := ledger.isEmpty }, ledger)

/-- Carry out operations in order.  One that is abandoned is followed by the next all the same. -/
def performAll (ledger : MappingLedger) : List LedgerCall → LedgerRun
  | [] => { ledger }
  | call :: rest =>
    let performed := ledger.perform call
    let later := performed.2.performAll rest
    { later with events := performed.1 :: later.events }

theorem performAll_append (ledger : MappingLedger) (first second : List LedgerCall) :
    ledger.performAll (first ++ second) =
      let before := ledger.performAll first
      let later := before.ledger.performAll second
      { later with events := before.events ++ later.events } := by
  induction first generalizing ledger with
  | nil => rfl
  | cons call rest ih =>
    rw [List.cons_append, performAll, ih]
    rfl

/-! ### Additions -/

variable {ledger : MappingLedger} {logger : Logger} {address : Address} {id previous : BufferId}

/-- The name zero is refused, and nothing else happens. -/
theorem add_zero : ledger.add logger address 0 = { ledger, outcome := .error .zeroBufferId } := rfl

theorem add_of_free (named : id ≠ 0) (free : ledger.entries.find? address = none) :
    ledger.add logger address id =
      { ledger := { ledger with entries := ledger.entries.insert address id }
        outcome := .ok () } := by
  simp only [add, record, unlock, if_neg named, free]

/-- The entry is stored also where the receiver of the warning fails. -/
theorem add_of_standing (named : id ≠ 0) (stands : ledger.entries.find? address = some previous) :
    ledger.add logger address id =
      { ledger :=
          { entries := ledger.entries.insert address id
            poisoned := ledger.poisoned || logger.fails (.entryReplaced address previous) }
        notices := [.entryReplaced address previous]
        outcome :=
          if logger.fails (.entryReplaced address previous) then .error .loggerFailed
          else .ok () } := by
  simp only [add, record, unlock, if_neg named, stands]
  cases logger.fails (.entryReplaced address previous) <;> simp

theorem entries_add (named : id ≠ 0) :
    (ledger.add logger address id).ledger.entries = ledger.entries.insert address id := by
  cases stands : ledger.entries.find? address with
  | none => rw [add_of_free named stands]
  | some previous => rw [add_of_standing named stands]

end MappingLedger

/-! ### What an address stands for -/

/-- An operation that can change what an address stands for: an addition of a name but zero, and a
taking. -/
def LedgerCall.concerns (address : Address) : LedgerCall → Bool
  | .add _ other id => other = address && id ≠ 0
  | .take other => other = address
  | _ => false

/-- The name that an operation leaves under its address. -/
def LedgerCall.name? : LedgerCall → Option BufferId
  | .add _ _ id => some id
  | _ => none

namespace LedgerCall

variable {logger : Logger} {address other : Address} {id : BufferId}

theorem concerns_add_iff :
    (add logger other id).concerns address = true ↔ other = address ∧ id ≠ 0 := by
  simp [concerns]

theorem concerns_take_iff : (take other).concerns address = true ↔ other = address := by
  simp [concerns]

theorem ne_of_add (named : id ≠ 0)
    (unconcerned : (add logger other id).concerns address = false) : other ≠ address := by
  intro here
  rw [concerns_add_iff.mpr ⟨here, named⟩] at unconcerned
  cases unconcerned

theorem ne_of_take (unconcerned : (take other).concerns address = false) : other ≠ address := by
  intro here
  rw [concerns_take_iff.mpr here] at unconcerned
  cases unconcerned

end LedgerCall

/-- The last operation that concerned an address has added the name. -/
def Standing (history : List LedgerCall) (address : Address) (id : BufferId) : Prop :=
  ∃ logger, (history.filter (·.concerns address)).getLast? = some (.add logger address id)

section Standing

variable {history : List LedgerCall} {call : LedgerCall} {address : Address} {id : BufferId}
  {ledger : MappingLedger}

theorem standing_snoc_of_concerns (concerned : call.concerns address = true) :
    Standing (history ++ [call]) address id ↔ call.name? = some id := by
  unfold Standing
  rw [List.filter_append, List.filter_cons_of_pos concerned, List.filter_nil,
    List.getLast?_concat]
  cases call with
  | add logger other name =>
    obtain ⟨rfl, -⟩ := LedgerCall.concerns_add_iff.mp concerned
    simp [LedgerCall.name?]
  | _ => simp [LedgerCall.name?]

theorem standing_snoc_of_unconcerned (unconcerned : call.concerns address = false) :
    Standing (history ++ [call]) address id ↔ Standing history address id := by
  unfold Standing
  rw [List.filter_append, List.filter_cons_of_neg (ne_true_of_eq_false unconcerned),
    List.filter_nil, List.append_nil]

namespace MappingLedger

/-- An operation that concerns an address decides what stands there, and any other leaves it. -/
theorem find?_perform :
    (ledger.perform call).2.entries.find? address =
      if call.concerns address then call.name? else ledger.entries.find? address := by
  cases concerned : call.concerns address with
  | true =>
    cases call with
    | add logger other name =>
      obtain ⟨rfl, named⟩ := LedgerCall.concerns_add_iff.mp concerned
      rw [perform, entries_add named]
      exact Table.find?_insert_self _ _ _
    | take other =>
      obtain rfl := LedgerCall.concerns_take_iff.mp concerned
      exact Table.find?_erase_self _ _
    | _ => cases concerned
  | false =>
    cases call with
    | add logger other name =>
      by_cases zero : name = 0
      · rw [zero]
        rfl
      · rw [perform, entries_add zero]
        exact Table.find?_insert_of_ne _ _ (LedgerCall.ne_of_add zero concerned).symm
    | take other => exact Table.find?_erase_of_ne _ (LedgerCall.ne_of_take concerned).symm
    | _ => rfl

/-- After any history an address has the name that stands there. -/
theorem find?_performAll :
    (empty.performAll history).ledger.entries.find? address = some id ↔
      Standing history address id := by
  induction history using List.reverseRecOn generalizing id with
  | nil => simp [performAll, empty, Standing]
  | append_singleton history call ih =>
    rw [performAll_append]
    show ((empty.performAll history).ledger.perform call).2.entries.find? address = some id ↔ _
    rw [find?_perform]
    cases concerned : call.concerns address with
    | true => exact (standing_snoc_of_concerns concerned).symm
    | false => exact ih.trans (standing_snoc_of_unconcerned concerned).symm

end MappingLedger

end Standing

/-- A table has as many entries as there are keys with a value. -/
theorem Table.size_eq_ncard {κ ν : Type} [DecidableEq κ] (table : Table κ ν) :
    table.size = {key | ∃ value, table.find? key = some value}.ncard := by
  have keys : {key | ∃ value, table.find? key = some value} =
      ((table.entries.map Prod.fst).toFinset : Set κ) := by
    ext key
    rw [Set.mem_ofPred_eq, ← Option.isSome_iff_exists, ← Option.ne_none_iff_isSome, ne_eq,
      Table.find?_eq_none_iff]
    simp
  rw [keys, Set.ncard_coe_finset, List.toFinset_card_of_nodup table.nodup_keys, List.length_map,
    Table.size]

theorem Table.size_eq_zero_iff {κ ν : Type} [DecidableEq κ] {table : Table κ ν} :
    table.size = 0 ↔ ∀ key, table.find? key = none := by
  rw [Table.size, List.length_eq_zero_iff, List.eq_nil_iff_forall_not_mem]
  simp only [Table.find?_eq_none_iff]
  exact ⟨fun unlisted _ entry member => absurd member (unlisted entry),
    fun unmatched entry member => unmatched entry.1 entry member rfl⟩

/-! ### The account of additions -/

/-- An operation that leaves a name under an address, whether or not it is abandoned then. -/
def LedgerCall.records (address : Address) (id : BufferId) (call : LedgerCall) : Bool :=
  call.concerns address && call.name? = some id

/-- A taking that answered a name. -/
def LedgerEvent.serves (address : Address) (id : BufferId) : LedgerEvent → Bool
  | ⟨.take other, answer, _⟩ => other = address && answer = some id
  | _ => false

/-- A warning that a name was replaced. -/
def Notice.replaces (address : Address) (id : BufferId) : Notice → Bool
  | .entryReplaced other previous => other = address && previous = id
  | _ => false

/-- An addition that was abandoned because the receiver of its warning failed. -/
def LedgerEvent.loggerFailed : LedgerEvent → Bool
  | ⟨.add _ _ _, .error .loggerFailed, _⟩ => true
  | _ => false

namespace MappingLedger

/-- How often a ledger has a name under an address: once or never. -/
def copies (ledger : MappingLedger) (address : Address) (id : BufferId) : Nat :=
  if ledger.entries.find? address = some id then 1 else 0

variable {ledger : MappingLedger} {call : LedgerCall} {address : Address} {id : BufferId}

theorem copies_perform :
    (ledger.perform call).2.copies address id =
      if call.concerns address then (if call.name? = some id then 1 else 0)
      else ledger.copies address id := by
  unfold copies
  rw [find?_perform]
  split <;> rfl

/-- The one warning of an addition is for the name that it replaces. -/
theorem countP_notices_add {logger : Logger} {name : BufferId} (named : name ≠ 0) :
    (ledger.add logger address name).notices.countP (·.replaces address id) =
      ledger.copies address id := by
  unfold copies
  cases stands : ledger.entries.find? address with
  | none =>
    rw [add_of_free named stands]
    rfl
  | some previous =>
    rw [add_of_standing named stands]
    simp [Notice.replaces]

theorem countP_notices_add_of_ne {logger : Logger} {other : Address} {name : BufferId}
    (distinct : other ≠ address) :
    (ledger.add logger other name).notices.countP (·.replaces address id) = 0 := by
  by_cases named : name = 0
  · rw [named]
    rfl
  cases stands : ledger.entries.find? other with
  | none =>
    rw [add_of_free named stands]
    rfl
  | some previous =>
    rw [add_of_standing named stands]
    simp [Notice.replaces, distinct]

/-- An operation that concerns an address takes or replaces what stood there, and no other does. -/
theorem released_perform :
    (if (ledger.perform call).1.serves address id then 1 else 0) +
        (ledger.perform call).1.notices.countP (·.replaces address id) =
      if call.concerns address then ledger.copies address id else 0 := by
  cases concerned : call.concerns address with
  | true =>
    cases call with
    | add logger other name =>
      obtain ⟨rfl, named⟩ := LedgerCall.concerns_add_iff.mp concerned
      simp [perform, LedgerEvent.serves, countP_notices_add named]
    | take other =>
      obtain rfl := LedgerCall.concerns_take_iff.mp concerned
      simp [perform, LedgerEvent.serves, take, unlock, copies]
    | _ => cases concerned
  | false =>
    cases call with
    | add logger other name =>
      by_cases zero : name = 0
      · simp [perform, LedgerEvent.serves, zero, add_zero]
      · have distinct := LedgerCall.ne_of_add zero concerned
        simp [perform, LedgerEvent.serves, countP_notices_add_of_ne distinct]
    | take other =>
      simp [perform, LedgerEvent.serves, LedgerCall.ne_of_take concerned]
    | _ => simp [perform, LedgerEvent.serves]

/-- What an operation adds to an address, and what stood there, it takes, replaces or leaves. -/
theorem balance_perform :
    (if call.records address id then 1 else 0) + ledger.copies address id =
      (if (ledger.perform call).1.serves address id then 1 else 0) +
        (ledger.perform call).1.notices.countP (·.replaces address id) +
        (ledger.perform call).2.copies address id := by
  rw [released_perform, copies_perform, LedgerCall.records]
  cases call.concerns address with
  | true => simp [Nat.add_comm]
  | false => simp

/-- What a history adds and what was there before it is taken, is replaced or stays, each once. -/
theorem balance_performAll (history : List LedgerCall) :
    history.countP (·.records address id) + ledger.copies address id =
      (ledger.performAll history).events.countP (·.serves address id) +
        ((ledger.performAll history).events.flatMap (·.notices)).countP
          (·.replaces address id) +
        (ledger.performAll history).ledger.copies address id := by
  induction history generalizing ledger with
  | nil => simp [performAll]
  | cons call rest ih =>
    have first := @balance_perform ledger call address id
    have later := @ih (ledger.perform call).2
    simp only [performAll, List.countP_cons, List.flatMap_cons, List.countP_append]
    omega

/-- An addition that is abandoned under the lock leaves the ledger poisoned, and nothing else
does. -/
theorem poisoned_perform :
    (ledger.perform call).2.poisoned =
      (ledger.poisoned || (ledger.perform call).1.loggerFailed) := by
  cases call with
  | add logger address id =>
    by_cases zero : id = 0
    · simp [perform, zero, add_zero, LedgerEvent.loggerFailed]
    cases stands : ledger.entries.find? address with
    | none => simp [perform, add_of_free zero stands, LedgerEvent.loggerFailed]
    | some previous =>
      simp only [perform, add_of_standing zero stands]
      cases logger.fails (.entryReplaced address previous) <;> simp [LedgerEvent.loggerFailed]
  | _ => simp [perform, take, LedgerEvent.loggerFailed]

theorem poisoned_performAll (history : List LedgerCall) :
    (ledger.performAll history).ledger.poisoned =
      (ledger.poisoned || (ledger.performAll history).events.any (·.loggerFailed)) := by
  induction history generalizing ledger with
  | nil => simp [performAll]
  | cons call rest ih =>
    simp only [performAll, List.any_cons]
    rw [ih, poisoned_perform, Bool.or_assoc]

end MappingLedger

/-- A ledger serves each name at most once, and goes on doing so when additions are abandoned.

After any history from the empty ledger, and so for the next operation of any history: what is taken
from an address is the name of the last addition there, unless that has been taken; these addresses
are the ones that the ledger has, and counts.  An addition of a name but zero always stores it, and
warns of the name that stood there, if any; it is abandoned exactly where the receiver fails on the
warning, which leaves the ledger poisoned.  An addition of zero is always abandoned, and changes
nothing.  All additions of a name to an address are those that were taken, those that were replaced
with a warning, and the one that still stands. -/
theorem ledger_serves_each_name_once (history : List LedgerCall) :
    let ran := MappingLedger.empty.performAll history
    let ledger := ran.ledger
    ((∀ address id, (ledger.take address).1 = some id ↔ Standing history address id) ∧
      (∀ address, ledger.contains address = true ↔ ∃ id, Standing history address id) ∧
      ledger.size = {address | ∃ id, Standing history address id}.ncard ∧
      (ledger.isEmpty = true ↔ ∀ address id, ¬Standing history address id)) ∧
    (∀ logger address id, id ≠ 0 →
      let added := ledger.add logger address id
      (added.ledger.take address).1 = some id ∧
        (∀ previous, Standing history address previous →
          added.notices = [.entryReplaced address previous] ∧
            (Notice.entryReplaced address previous).level = .warn ∧
            added.outcome = if logger.fails (.entryReplaced address previous)
              then .error .loggerFailed else .ok ()) ∧
        ((∀ previous, ¬Standing history address previous) →
          added.notices = [] ∧ added.outcome = .ok ())) ∧
    (∀ logger address,
      ledger.add logger address 0 = { ledger, outcome := .error .zeroBufferId }) ∧
    (∀ address id, history.countP (·.records address id) =
      ran.events.countP (·.serves address id) +
        (ran.events.flatMap (·.notices)).countP (·.replaces address id) +
        if (ledger.take address).1 = some id then 1 else 0) ∧
    (ledger.poisoned = true ↔ ∃ event ∈ ran.events, event.loggerFailed = true) := by
  intro ran ledger
  have stands (address id) : ledger.entries.find? address = some id ↔
      Standing history address id := MappingLedger.find?_performAll
  refine ⟨⟨stands, ?contains, ?size, ?isEmpty⟩, ?add, fun _ _ => rfl, ?balance, ?poisoned⟩
  case contains =>
    intro address
    show (ledger.entries.find? address).isSome = true ↔ _
    simp only [Option.isSome_iff_exists, stands]
  case size =>
    show ledger.entries.size = _
    simp only [Table.size_eq_ncard, stands]
  case isEmpty =>
    show (ledger.entries.size == 0) = true ↔ _
    simp only [beq_iff_eq, Table.size_eq_zero_iff, ← stands, Option.eq_none_iff_forall_ne_some]
  case add =>
    intro logger address id named added
    have stored : (added.ledger.take address).1 = some id := by
      show added.ledger.entries.find? address = some id
      rw [MappingLedger.entries_add named, Table.find?_insert_self]
    refine ⟨stored, fun previous standing => ?_, fun vacant => ?_⟩
    · have ended : added = _ := MappingLedger.add_of_standing named ((stands _ _).mpr standing)
      rw [ended]
      exact ⟨rfl, rfl, rfl⟩
    · have free : ledger.entries.find? address = none :=
        Option.eq_none_iff_forall_ne_some.mpr fun previous found =>
          vacant previous ((stands _ _).mp found)
      have ended : added = _ := MappingLedger.add_of_free named free
      rw [ended]
      exact ⟨rfl, rfl⟩
  case balance =>
    intro address id
    exact @MappingLedger.balance_performAll .empty address id history
  case poisoned =>
    rw [← List.any_eq_true]
    have poisoned : ledger.poisoned = _ := MappingLedger.poisoned_performAll history
    rw [poisoned]
    rfl

/-- A second name is stored though the receiver fails on the warning, and zero is refused; the
ledger goes on with the second name. -/
theorem ledger_serves_each_name_once_failing :
    let failing := Logger.failingAt .warn
    let ran := MappingLedger.empty.performAll
      [.add failing 4096 7, .add failing 4096 8, .add failing 4096 0, .take 8192]
    let again := ran.ledger.add failing 4096 9
    ran.ledger.poisoned = true ∧ (ran.ledger.take 4096).1 = some 8 ∧
      again.notices = [.entryReplaced 4096 8] ∧ again.outcome = .error .loggerFailed ∧
      (again.ledger.take 4096).1 = some 9 ∧
      (ran.ledger.add failing 8192 9).outcome = .ok () := by
  intro failing ran again
  obtain ⟨⟨takes, _⟩, adds, _, _, poisoned⟩ := ledger_serves_each_name_once
    [.add failing 4096 7, .add failing 4096 8, .add failing 4096 0, .take 8192]
  obtain ⟨stored, warns, _⟩ := adds failing 4096 9 (by decide)
  obtain ⟨warned, _, abandoned⟩ := warns 8 ⟨failing, rfl⟩
  obtain ⟨_, _, silent⟩ := adds failing 8192 9 (by decide)
  refine ⟨poisoned.mpr ⟨_, .tail _ (.head _), rfl⟩, (takes 4096 8).mpr ⟨failing, rfl⟩,
    warned, abandoned, stored, (silent ?_).2⟩
  rintro previous ⟨logger, last⟩
  cases last

end TilerMapping
