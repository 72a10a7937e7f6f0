/-
Module: TilerMapping.Proofs.Contention
Purpose: Demaps of one address that run at the same time come to what they come to in turn.
Main exports: Event.touches, footprint, World.Answers.footprint, History.takes_once, Release.unique,
  DemapsSettled, Pool.demaps_settle, Pool.demaps_agree, demaps_at_once
-/
import Mathlib.Data.List.Perm.Basic
import TilerMapping.Proofs.Release
import TilerMapping.Proofs.Reversal
import TilerMapping.Proofs.Schedules

namespace TilerMapping

/-!
Of the demaps of one address only the first at the ledger finds a name.  The others open a session,
miss and close it, and leave nothing behind but a higher count of sessions.  So the events that
touch a buffer are all of one demap, in its order, and the driver in memory answers them as if that
demap were alone.  It answers them in one way only, so the demaps come to the same in any two
schedules, and running them in turn is one of the schedules.
-/

/-! ### Footprints -/

/-- The event finds a buffer, or passes it on to be released. -/
def Event.touches : Event → Bool
  | ⟨.take _, some _⟩ => true
  | ⟨.call (.queryBuffer _), _⟩ => true
  | ⟨.call (.unregister _), _⟩ => true
  | ⟨.call (.unmap _), _⟩ => true
  | _ => false

/-- The event opens or closes a session, misses an address or is a log record. -/
inductive Event.Idle : Event → Prop
  | opens {answer : Except IoFault Unit} : Idle ⟨.call .openSession, answer⟩
  | closes : Idle ⟨.call .closeSession, ()⟩
  | misses {address : Address} : Idle ⟨.take address, none⟩
  | logs {notice : Notice} : Idle ⟨.log notice, ()⟩

/-- The events that touch a buffer. -/
def footprint (events : List Event) : List Event :=
  events.filter Event.touches

theorem Event.Idle.touches_eq {event : Event} (idle : event.Idle) : event.touches = false := by
  cases idle <;> rfl

theorem footprint_cons_of_idle {event : Event} (idle : event.Idle) (rest : List Event) :
    footprint (event :: rest) = footprint rest :=
  List.filter_cons_of_neg (by simp [idle.touches_eq])

theorem footprint_cons_of_touches {event : Event} (touches : event.touches = true)
    (rest : List Event) : footprint (event :: rest) = event :: footprint rest :=
  List.filter_cons_of_pos touches

/-- Log records touch nothing. -/
theorem footprint_dealings (events : List Event) :
    footprint (events.filter Event.isDealing) = footprint events := by
  unfold footprint
  rw [List.filter_filter]
  congr 1
  funext ⟨effect, answer⟩
  cases effect with
  | log notice => rfl
  | _ => exact Bool.and_true _

variable {address : Address} {id : BufferId} {events : List Event} {result : Except Fault Unit}

/-- A release consists of events that touch its buffer, and finds it by the first of them. -/
theorem Release.footprint_eq (release : Release address id events result) :
    footprint events = events ∧ ∃ later, events = ⟨.take address, some id⟩ :: later := by
  cases release with
  | unqueried => exact ⟨rfl, _, rfl⟩
  | queried => exact ⟨rfl, _, rfl⟩

/-- A release takes its name before anything else. -/
theorem Release.takes_mem (release : Release address id (footprint events) result) :
    ⟨.take address, some id⟩ ∈ events := by
  obtain ⟨-, later, same⟩ := release.footprint_eq
  have taken : ⟨.take address, some id⟩ ∈ footprint events := same ▸ List.mem_cons_self
  exact (List.mem_filter.mp taken).1

/-- The answer of a demap that takes no name, as its session was opened. -/
def missedResult (address : Address) : Except IoFault Unit → Except Fault Unit
  | .ok () => .error (.unknownAddress address)
  | .error source => .error (.session source)

namespace DemapSession

/-- What a session deals is either idle or touches a buffer. -/
theorem idle_or_touches (session : DemapSession address events result) {event : Event}
    (member : event ∈ events) : event.Idle ∨ event.touches = true := by
  cases session with
  | refused =>
    cases List.mem_singleton.mp member
    exact .inl .opens
  | missed =>
    simp only [List.mem_cons, List.not_mem_nil, or_false] at member
    rcases member with rfl | rfl | rfl
    · exact .inl .opens
    · exact .inl .misses
    · exact .inl .closes
  | held release =>
    rw [List.cons_append, List.mem_cons, List.mem_append, List.mem_singleton] at member
    rcases member with rfl | inner | rfl
    · exact .inl .opens
    · rw [← release.footprint_eq.1] at inner
      exact .inr (List.mem_filter.mp inner).2
    · exact .inl .closes

/-- A session leaves a footprint where it releases a buffer, and then that of the release. -/
theorem footprint_cases (session : DemapSession address events result)
    {opened : Except IoFault Unit}
    (opens : ∀ answer, ⟨.call .openSession, answer⟩ ∈ events → answer = opened) :
    (footprint events = [] ∧ result = missedResult address opened ∧
      (opened = .ok () → ⟨.take address, none⟩ ∈ events)) ∨
    opened = .ok () ∧ ∃ id, Release address id (footprint events) result := by
  cases session with
  | refused =>
    cases opens _ List.mem_cons_self
    exact .inl ⟨rfl, rfl, fun works => nomatch works⟩
  | missed =>
    cases opens _ List.mem_cons_self
    exact .inl ⟨rfl, rfl, fun _ => by simp⟩
  | @held id inner _ release =>
    cases opens _ (List.mem_append_left _ List.mem_cons_self)
    have whole : footprint (⟨.call .openSession, .ok ()⟩ :: inner ++ [⟨.call .closeSession, ()⟩]) =
        inner := by
      rw [List.cons_append, footprint_cons_of_idle .opens]
      unfold footprint
      rw [List.filter_append]
      exact (List.append_nil _).trans release.footprint_eq.1
    rw [whole]
    exact .inr ⟨rfl, id, release⟩

end DemapSession

/-! ### The driver in memory, but for the count of its sessions -/

namespace World

/-- The world without the count of sessions. -/
def uncounted (world : World MemoryDriver) : World MemoryDriver :=
  { world with driver := { world.driver with opened := 0, closed := 0 } }

variable {world : World MemoryDriver}

theorem tables_of_uncounted {first second : World MemoryDriver}
    (same : first.uncounted = second.uncounted) :
    first.ledger = second.ledger ∧ first.driver.registered = second.driver.registered ∧
      first.driver.mappings = second.driver.mappings := by
  have ledger := congrArg World.ledger same
  have driver := congrArg World.driver same
  have registered := congrArg MemoryDriver.registered driver
  have mappings := congrArg MemoryDriver.mappings driver
  exact ⟨ledger, registered, mappings⟩

/-- An idle event leaves the world as it is, but for the count of sessions. -/
theorem uncounted_of_idle {event : Event} (idle : event.Idle)
    (said : event.answer = (world.perform MemoryDriver.answer event.effect).1) :
    (world.perform MemoryDriver.answer event.effect).2.uncounted = world.uncounted := by
  cases idle with
  | opens =>
    cases failing : world.driver.failing .openSession <;>
      simp [perform, MemoryDriver.answer, failing, uncounted]
  | closes => rfl
  | @misses address =>
    have missing : world.ledger.entries.find? address = none := said.symm
    simp [perform, MappingLedger.take, MappingLedger.unlock,
      Table.erase_of_find?_eq_none missing]
  | logs => rfl

/-- An event that touches a buffer is answered, and changes the world, whatever the count of
sessions is. -/
theorem perform_uncounted {event : Event} (touches : event.touches = true) :
    world.uncounted.perform MemoryDriver.answer event.effect =
      ((world.perform MemoryDriver.answer event.effect).1,
        (world.perform MemoryDriver.answer event.effect).2.uncounted) := by
  obtain ⟨effect, answer⟩ := event
  cases effect with
  | take address => rfl
  | record address id => cases touches
  | log notice => cases touches
  | call request =>
    cases request with
    | queryBuffer buffer =>
      cases failing : world.driver.failing .queryBuffer <;>
        simp [perform, MemoryDriver.answer, failing, uncounted, MemoryDriver.queryBuffer]
    | unregister buffer =>
      cases failing : world.driver.failing .unregister with
      | some fault => simp [perform, MemoryDriver.answer, failing, uncounted]
      | none =>
        by_cases known : world.driver.registered.contains buffer.id <;>
          simp [perform, MemoryDriver.answer, failing, uncounted, MemoryDriver.unregister, known]
    | unmap region =>
      cases failing : world.driver.failing .unmap with
      | some fault => simp [perform, MemoryDriver.answer, failing, uncounted]
      | none =>
        by_cases whole : world.driver.mappings.find? region.base = some region.len <;>
          simp [perform, MemoryDriver.answer, failing, uncounted, MemoryDriver.unmap, whole]
    | _ => cases touches

/-- Events that are idle or touch a buffer are answered by their footprint, and lead where it leads,
but for the count of sessions. -/
theorem Answers.footprint (answers : world.Answers MemoryDriver.answer events)
    (calm : ∀ event ∈ events, event.Idle ∨ event.touches = true) :
    world.uncounted.Answers MemoryDriver.answer (footprint events) ∧
      (world.replay MemoryDriver.answer events).uncounted =
        world.uncounted.replay MemoryDriver.answer (TilerMapping.footprint events) := by
  induction events generalizing world with
  | nil => exact ⟨trivial, rfl⟩
  | cons event rest ih =>
    obtain ⟨left, right⟩ :=
      ih answers.2 fun other member => calm other (List.mem_cons_of_mem _ member)
    rcases calm event List.mem_cons_self with idle | touches
    · rw [uncounted_of_idle idle answers.1] at left right
      rw [footprint_cons_of_idle idle]
      exact ⟨left, right⟩
    · have performed := @perform_uncounted world event touches
      rw [footprint_cons_of_touches touches]
      refine ⟨⟨?_, ?_⟩, ?_⟩
      · rw [performed]
        exact answers.1
      · rw [performed]
        exact left
      · rw [replay, replay, performed]
        exact right

end World

/-! ### One taker -/

section Ledger

variable {σ : Type} {driver : Driver σ} {world : World σ}

/-- An address that is not recorded stays so: demaps record nothing. -/
theorem World.missing_perform {event : Event} (calm : event.Idle ∨ event.touches = true)
    (missing : world.ledger.entries.find? address = none) :
    (world.perform driver event.effect).2.ledger.entries.find? address = none := by
  obtain ⟨effect, answer⟩ := event
  cases effect with
  | call request => exact missing
  | log notice => exact missing
  | record other id =>
    rcases calm with idle | touches
    · cases idle
    · cases touches
  | take other =>
    by_cases same : address = other
    · rw [same]
      exact Table.find?_erase_self ..
    · exact (Table.find?_erase_of_ne _ same).trans missing

theorem World.Answers.not_takes (answers : world.Answers driver events)
    (calm : ∀ event ∈ events, event.Idle ∨ event.touches = true)
    (missing : world.ledger.entries.find? address = none) {event : Event}
    (member : event ∈ events) (id : BufferId) : ¬event.Takes address id := by
  induction events generalizing world with
  | nil => cases member
  | cons first rest ih =>
    rcases List.mem_cons.mp member with rfl | later
    · rintro rfl
      have found := answers.1.trans missing
      cases found
    · exact ih answers.2 (fun other within => calm other (List.mem_cons_of_mem _ within))
        (World.missing_perform (calm first List.mem_cons_self) missing) later

/-- An address is taken once at most. -/
theorem History.takes_once {history : History}
    (answers : world.Answers driver (history.map Prod.snd))
    (calm : ∀ event ∈ history.map Prod.snd, event.Idle ∨ event.touches = true)
    {first second : Nat × Event} {name : BufferId} (member : first ∈ history)
    (taken : first.2.Takes address id) (member' : second ∈ history)
    (again : second.2.Takes address name) : first = second := by
  induction history generalizing world with
  | nil => cases member
  | cons label rest ih =>
    have calmRest : ∀ event ∈ rest.map Prod.snd, event.Idle ∨ event.touches = true :=
      fun event within => calm event (List.mem_cons_of_mem _ within)
    have later {id name : BufferId} (here : label.2.Takes address id) {other : Nat × Event}
        (within : other ∈ rest) : ¬other.2.Takes address name := by
      obtain ⟨user, event⟩ := label
      cases here
      have gone : (world.perform driver (.take address)).2.ledger.entries.find? address = none :=
        Table.find?_erase_self ..
      exact answers.2.not_takes calmRest gone (List.mem_map_of_mem within) name
    rcases List.mem_cons.mp member with rfl | within <;>
      rcases List.mem_cons.mp member' with rfl | within'
    · rfl
    · exact absurd again (later taken within')
    · exact absurd taken (later again within)
    · exact ih answers.2 calmRest within within'

theorem ReleaseEnd.unique {region : Region} {unregistered unmapped : Except IoFault Unit}
    {other : Except Fault Unit} (ends : ReleaseEnd region unregistered unmapped result)
    (ends' : ReleaseEnd region unregistered unmapped other) : result = other := by
  cases ends <;> cases ends' <;> rfl

/-- In one world an address is released in one way only. -/
theorem Release.unique {name : BufferId} {events' : List Event} {other : Except Fault Unit}
    (release : Release address id events result) (answers : world.Answers driver events)
    (release' : Release address name events' other) (answers' : world.Answers driver events') :
    events = events' ∧ result = other := by
  rw [← List.append_nil events] at answers
  rw [← List.append_nil events'] at answers'
  have same := (release.recorded answers).symm.trans (release'.recorded answers')
  cases same
  cases release with
  | unqueried =>
    have queried := answers.2.1
    cases release' with
    | unqueried =>
      cases queried.trans answers'.2.1.symm
      exact ⟨rfl, rfl⟩
    | queried => cases queried.trans answers'.2.1.symm
  | queried ends =>
    obtain ⟨-, queried, unregistered, unmapped, -⟩ := answers
    cases release' with
    | unqueried => cases queried.trans answers'.2.1.symm
    | queried ends' =>
      obtain ⟨-, queried', unregistered', unmapped', -⟩ := answers'
      cases queried.trans queried'.symm
      cases unregistered.trans unregistered'.symm
      cases unmapped.trans unmapped'.symm
      exact ⟨rfl, ends.unique ends'⟩

end Ledger

/-! ### Sessions with the driver in memory -/

section Memory

variable {world : World MemoryDriver}

theorem World.failing_perform (effect : Effect) :
    (world.perform MemoryDriver.answer effect).2.driver.failing = world.driver.failing := by
  cases effect with
  | call request => exact MemoryDriver.failing_answer request world.driver
  | record address id => by_cases zero : id = 0 <;> simp [perform, MappingLedger.record, zero]
  | take address => rfl
  | log notice => rfl

/-- The answer to the opening of a session. -/
def MemoryDriver.opening (driver : MemoryDriver) : Except IoFault Unit :=
  match driver.failing .openSession with
  | some fault => .error fault
  | none => .ok ()

/-- Whether sessions can be opened is the same all the time. -/
theorem World.Answers.opens (answers : world.Answers MemoryDriver.answer events)
    {answer : Except IoFault Unit} (opening : ⟨.call .openSession, answer⟩ ∈ events) :
    answer = world.driver.opening := by
  induction events generalizing world with
  | nil => cases opening
  | cons event rest ih =>
    rcases List.mem_cons.mp opening with rfl | later
    · refine answers.1.trans ?_
      cases failing : world.driver.failing .openSession <;>
        simp [World.perform, MemoryDriver.answer, MemoryDriver.opening, failing]
    · unfold MemoryDriver.opening
      rw [← World.failing_perform event.effect]
      exact ih answers.2 later

/-- Idle events leave the ledger as it is, so an address that they miss was not recorded before. -/
theorem World.Answers.missing (answers : world.Answers MemoryDriver.answer events)
    (idle : ∀ event ∈ events, event.Idle) (missed : ⟨.take address, none⟩ ∈ events) :
    world.ledger.entries.find? address = none := by
  induction events generalizing world with
  | nil => cases missed
  | cons event rest ih =>
    rcases List.mem_cons.mp missed with rfl | later
    · exact answers.1.symm
    · have kept := World.uncounted_of_idle (idle event List.mem_cons_self) answers.1
      have ledger : (world.perform MemoryDriver.answer event.effect).2.ledger = world.ledger :=
        (World.tables_of_uncounted kept).1
      rw [← ledger]
      exact ih answers.2 (fun other member => idle other (List.mem_cons_of_mem _ member)) later

end Memory

/-! ### One winner -/

/-- If one thread alone touches buffers, what touches them are its events in its order. -/
theorem History.filter_touches {history : History} {winner : Nat}
    (only : ∀ label ∈ history, label.2.touches = true → label.1 = winner) :
    history.filter (fun label => label.2.touches) =
      (footprint (history.eventsOf winner)).map (winner, ·) := by
  induction history with
  | nil => rfl
  | cons label rest ih =>
    have ih := ih fun other member => only other (List.mem_cons_of_mem _ member)
    obtain ⟨user, event⟩ := label
    by_cases touches : event.touches = true
    · obtain rfl : user = winner := only _ List.mem_cons_self touches
      rw [List.filter_cons, if_pos touches, ih, History.eventsOf_cons_self,
        footprint_cons_of_touches touches, List.map_cons]
    · rw [List.filter_cons, if_neg touches, ih]
      by_cases own : user = winner
      · rw [own, History.eventsOf_cons_self]
        exact congrArg _ (List.filter_cons_of_neg touches).symm
      · rw [History.eventsOf_cons_of_ne _ own]

/-- A list that has one value at one index and another value everywhere else. -/
theorem perm_cons_replicate {α : Type} {list : List α} {index count : Nat} {value other : α}
    (length : list.length = count + 1) (here : list[index]? = some value)
    (elsewhere : ∀ place found, place ≠ index → list[place]? = some found → found = other) :
    list.Perm (value :: List.replicate count other) := by
  obtain ⟨inside, same⟩ := List.getElem?_eq_some_iff.mp here
  have rest : list.eraseIdx index = List.replicate count other := by
    refine List.eq_replicate_iff.mpr ⟨?_, fun found member => ?_⟩
    · rw [List.length_eraseIdx_of_lt inside, length, Nat.add_sub_cancel]
    · obtain ⟨place, apart, there⟩ := List.mem_eraseIdx_iff_getElem?.mp member
      exact elsewhere place found apart there
  rw [← rest, ← same]
  exact (List.getElem_cons_eraseIdx_perm inside).symm

/-! ### Demaps that start together -/

/-- Demaps of one address that start at the same time. -/
def Pool.demaps {σ : Type} (world : World σ) (address : Address) (count : Nat) :
    Pool σ (Except Fault Unit) :=
  { world, threads := List.replicate count (demap address) }

/-- How demaps of one address come out.  Either none of them takes a name, or a single one of them
releases a buffer and the others do not touch any. -/
inductive DemapsSettled (world : World MemoryDriver) (address : Address) (others : Nat)
    (history : History) (results : List (Except Fault Unit)) : Prop
  | missed
      (unrecorded : world.driver.opening = .ok () → world.ledger.entries.find? address = none)
      (all : results = List.replicate (others + 1) (missedResult address world.driver.opening))
      (untouched : history.filter (fun label => label.2.touches) = [])
  | released {winner : Nat} {id : BufferId} {inner : List Event} {result : Except Fault Unit}
      (inside : winner < others + 1)
      (opens : world.driver.opening = .ok ())
      (release : Release address id inner result)
      (answers : world.uncounted.Answers MemoryDriver.answer inner)
      (one : results.Perm
        (result :: List.replicate others (missedResult address world.driver.opening)))
      (touched : history.filter (fun label => label.2.touches) = inner.map (winner, ·))

namespace Pool

section Sessions

variable {σ : Type} {driver : Driver σ} {world : World σ} {count : Nat} {history : History}
  {pool : Pool σ (Except Fault Unit)} {results : List (Except Fault Unit)}

theorem demaps_length (reached : Reaches driver (demaps world address count) history pool)
    (ended : pool.values? = some results) : results.length = count := by
  have same := reached.length_threads
  rw [values?_eq_some_iff.mp ended, List.length_map] at same
  exact same.trans List.length_replicate

theorem demaps_session (reached : Reaches driver (demaps world address count) history pool)
    (ended : pool.values? = some results) {user : Nat} {result : Except Fault Unit}
    (here : results[user]? = some result) :
    DemapSession address ((history.eventsOf user).filter Event.isDealing) result := by
  have deals : ∀ program ∈ (demaps world address count).threads, program.wp .dealing
      (fun result events => DemapSession address events result) [] := by
    intro program member
    rw [List.eq_of_mem_replicate member]
    exact demap_dealing address
  exact reached.dealt ended deals here

/-- Every event is of a demap that comes to a result. -/
theorem demaps_ends (reached : Reaches driver (demaps world address count) history pool)
    (ended : pool.values? = some results) {label : Nat × Event} (member : label ∈ history) :
    ∃ result, results[label.1]? = some result := by
  have inside : label.1 < (List.replicate count (demap address)).length := reached.lt_of_mem member
  rw [List.length_replicate, ← demaps_length reached ended] at inside
  exact ⟨_, List.getElem?_eq_getElem inside⟩

/-- Threads that demap deal in idle events and in such as touch a buffer. -/
theorem demaps_calm (reached : Reaches driver (demaps world address count) history pool)
    (ended : pool.values? = some results) :
    ∀ event ∈ history.map Prod.snd, event.Idle ∨ event.touches = true := by
  intro event within
  obtain ⟨⟨user, effect, answer⟩, member, rfl⟩ := List.mem_map.mp within
  obtain ⟨result, here⟩ := demaps_ends reached ended member
  have session := demaps_session reached ended here
  have own := History.mem_eventsOf.mpr member
  cases effect with
  | log notice => exact .inl .logs
  | _ => exact session.idle_or_touches (List.mem_filter.mpr ⟨own, rfl⟩)

end Sessions

section Memory

variable {world : World MemoryDriver} {count : Nat} {history : History}
  {pool : Pool MemoryDriver (Except Fault Unit)} {results : List (Except Fault Unit)}

/-- A demap leaves a footprint where it releases a buffer, and misses the address otherwise. -/
theorem demaps_cases
    (reached : Reaches MemoryDriver.answer (demaps world address count) history pool)
    (ended : pool.values? = some results) {user : Nat} {result : Except Fault Unit}
    (here : results[user]? = some result) :
    (footprint (history.eventsOf user) = [] ∧
      result = missedResult address world.driver.opening ∧
      (world.driver.opening = .ok () → (user, ⟨.take address, none⟩) ∈ history)) ∨
    world.driver.opening = .ok () ∧
      ∃ id, Release address id (footprint (history.eventsOf user)) result := by
  have own {event : Event} (member : event ∈ (history.eventsOf user).filter Event.isDealing) :
      (user, event) ∈ history := History.mem_eventsOf.mp (List.mem_filter.mp member).1
  have session := demaps_session reached ended here
  have opens : ∀ answer,
      ⟨.call .openSession, answer⟩ ∈ (history.eventsOf user).filter Event.isDealing →
        answer = world.driver.opening :=
    fun answer member => reached.answers.opens (List.mem_map_of_mem (own member))
  rw [← footprint_dealings]
  rcases session.footprint_cases opens with ⟨untouched, missed, takes⟩ | released
  · exact .inl ⟨untouched, missed, fun works => own (takes works)⟩
  · exact .inr released

/-- A demap that touches a buffer has taken a name. -/
theorem demaps_takes
    (reached : Reaches MemoryDriver.answer (demaps world address count) history pool)
    (ended : pool.values? = some results) {label : Nat × Event} (member : label ∈ history)
    (touches : label.2.touches = true) :
    ∃ id, (label.1, ⟨.take address, some id⟩) ∈ history := by
  obtain ⟨result, here⟩ := demaps_ends reached ended member
  rcases demaps_cases reached ended here with ⟨untouched, -, -⟩ | ⟨-, id, release⟩
  · have trod : label.2 ∈ footprint (history.eventsOf label.1) :=
      List.mem_filter.mpr ⟨History.mem_eventsOf.mpr member, touches⟩
    rw [untouched] at trod
    cases trod
  · exact ⟨id, History.mem_eventsOf.mp release.takes_mem⟩

/-- One demap at most touches buffers. -/
theorem demaps_one
    (reached : Reaches MemoryDriver.answer (demaps world address count) history pool)
    (ended : pool.values? = some results) {first second : Nat × Event}
    (member : first ∈ history) (touches : first.2.touches = true)
    (member' : second ∈ history) (touches' : second.2.touches = true) : first.1 = second.1 := by
  obtain ⟨id, taken⟩ := demaps_takes reached ended member touches
  obtain ⟨name, again⟩ := demaps_takes reached ended member' touches'
  have same :=
    History.takes_once reached.answers (demaps_calm reached ended) taken rfl again rfl
  exact (Prod.mk.inj same).1

/-- What touches buffers in a history is what it is for the world without its count of sessions. -/
theorem demaps_footprint
    (reached : Reaches MemoryDriver.answer (demaps world address count) history pool)
    (ended : pool.values? = some results) :
    let touched := (history.filter fun label => label.2.touches).map Prod.snd
    world.uncounted.Answers MemoryDriver.answer touched ∧
      pool.world.uncounted = world.uncounted.replay MemoryDriver.answer touched := by
  have same : (history.filter fun label => label.2.touches).map Prod.snd =
      footprint (history.map Prod.snd) := by
    unfold footprint
    rw [List.filter_map]
    rfl
  rw [reached.replay]
  simp only [same]
  exact World.Answers.footprint reached.answers (demaps_calm reached ended)

/-- A demap that touches a buffer releases it, and is the only one. -/
theorem demaps_released {others : Nat}
    (reached : Reaches MemoryDriver.answer (demaps world address (others + 1)) history pool)
    (ended : pool.values? = some results) {label : Nat × Event} (member : label ∈ history)
    (touches : label.2.touches = true) : DemapsSettled world address others history results := by
  obtain ⟨winner, event⟩ := label
  have only : ∀ other ∈ history, other.2.touches = true → other.1 = winner :=
    fun other within touches' => demaps_one reached ended within touches' member touches
  have alone := History.filter_touches only
  obtain ⟨answers, -⟩ := demaps_footprint reached ended
  rw [alone, List.map_map] at answers
  obtain ⟨result, here⟩ := demaps_ends reached ended member
  rcases demaps_cases reached ended here with ⟨untouched, -, -⟩ | ⟨opens, id, release⟩
  · have trod : event ∈ footprint (history.eventsOf winner) :=
      List.mem_filter.mpr ⟨History.mem_eventsOf.mpr member, touches⟩
    rw [untouched] at trod
    cases trod
  have length := demaps_length reached ended
  have inside := (List.getElem?_eq_some_iff.mp here).1
  have whole := List.map_id (footprint (history.eventsOf winner))
  refine .released (length ▸ inside) opens release (whole ▸ answers) ?_ alone
  refine perm_cons_replicate length here fun user other apart there => ?_
  rcases demaps_cases reached ended there with ⟨-, missed, -⟩ | ⟨-, name, release'⟩
  · exact missed
  · exact absurd (only _ (History.mem_eventsOf.mp release'.takes_mem) rfl) apart

/-- Where nothing touches a buffer, all demaps miss.  The first of them has then found the ledger as
it was. -/
theorem demaps_missed {others : Nat}
    (reached : Reaches MemoryDriver.answer (demaps world address (others + 1)) history pool)
    (ended : pool.values? = some results)
    (untouched : ∀ label ∈ history, ¬label.2.touches = true) :
    DemapsSettled world address others history results := by
  have length := demaps_length reached ended
  have missed {user : Nat} {result : Except Fault Unit} (here : results[user]? = some result) :
      result = missedResult address world.driver.opening ∧
        (world.driver.opening = .ok () → (user, ⟨.take address, none⟩) ∈ history) := by
    rcases demaps_cases reached ended here with ⟨-, missed⟩ | ⟨-, id, release⟩
    · exact missed
    · exact absurd rfl (untouched _ (History.mem_eventsOf.mp release.takes_mem))
  have idle : ∀ event ∈ history.map Prod.snd, event.Idle := by
    intro event within
    refine (demaps_calm reached ended event within).resolve_right ?_
    obtain ⟨label, here, rfl⟩ := List.mem_map.mp within
    exact untouched label here
  refine .missed (fun opens => ?_) ?_ (List.filter_eq_nil_iff.mpr untouched)
  · have first := List.getElem?_eq_getElem (show 0 < results.length by omega)
    exact reached.answers.missing idle (List.mem_map_of_mem ((missed first).2 opens))
  · refine List.eq_replicate_iff.mpr ⟨length, fun result member => ?_⟩
    obtain ⟨user, here⟩ := List.mem_iff_getElem?.mp member
    exact (missed here).1

/-- Demaps that start together come out in one of the two ways. -/
theorem demaps_settle {others : Nat}
    (reached : Reaches MemoryDriver.answer (demaps world address (others + 1)) history pool)
    (ended : pool.values? = some results) :
    DemapsSettled world address others history results := by
  by_cases touched : ∃ label ∈ history, label.2.touches = true
  · obtain ⟨label, member, touches⟩ := touched
    exact demaps_released reached ended member touches
  · exact demaps_missed reached ended fun label member touches =>
      touched ⟨label, member, touches⟩

end Memory

end Pool

/-! ### Schedules against each other -/

/-- A released address is recorded. -/
theorem Release.recorded_uncounted {world : World MemoryDriver}
    (release : Release address id events result)
    (answers : world.uncounted.Answers MemoryDriver.answer events) :
    world.ledger.entries.find? address = some id := by
  rw [← List.append_nil events] at answers
  have recorded : world.uncounted.ledger.entries.find? address = some id := release.recorded answers
  exact recorded

namespace DemapsSettled

variable {world : World MemoryDriver} {others : Nat} {history history' : History}
  {results results' : List (Except Fault Unit)}

/-- However demaps of an address are scheduled, their results and what they do to buffers are the
same. -/
theorem agree (settled : DemapsSettled world address others history results)
    (settled' : DemapsSettled world address others history' results') :
    results.Perm results' ∧
      (history.filter fun label => label.2.touches).map Prod.snd =
        (history'.filter fun label => label.2.touches).map Prod.snd := by
  cases settled with
  | missed unrecorded all untouched =>
    cases settled' with
    | missed _ all' untouched' =>
      rw [untouched, untouched', all, all']
      exact ⟨.refl _, rfl⟩
    | released _ opens release answers =>
      have recorded := release.recorded_uncounted answers
      rw [unrecorded opens] at recorded
      cases recorded
  | @released winner id inner result _ opens release answers one touched =>
    cases settled' with
    | missed unrecorded =>
      have recorded := release.recorded_uncounted answers
      rw [unrecorded opens] at recorded
      cases recorded
    | @released winner' _ _ _ _ _ release' answers' one' touched' =>
      obtain ⟨rfl, rfl⟩ := release.unique answers release' answers'
      refine ⟨one.trans one'.symm, ?_⟩
      rw [touched, touched', List.map_map, List.map_map]
      rfl

end DemapsSettled

/-- Demaps of one address come to the same results in any two schedules, and leave the same world
but for the count of sessions. -/
theorem Pool.demaps_agree {world : World MemoryDriver} {others : Nat} {history history' : History}
    {pool pool' : Pool MemoryDriver (Except Fault Unit)}
    {results results' : List (Except Fault Unit)}
    (reached : Reaches MemoryDriver.answer (demaps world address (others + 1)) history pool)
    (ended : pool.values? = some results)
    (reached' : Reaches MemoryDriver.answer (demaps world address (others + 1)) history' pool')
    (ended' : pool'.values? = some results') :
    results.Perm results' ∧ pool.world.uncounted = pool'.world.uncounted := by
  obtain ⟨same, touched⟩ :=
    (demaps_settle reached ended).agree (demaps_settle reached' ended')
  obtain ⟨_, left⟩ := demaps_footprint reached ended
  obtain ⟨_, left'⟩ := demaps_footprint reached' ended'
  exact ⟨same, by rw [left, left', touched]⟩

/-! ### The calls that release -/

/-- The call asks for a registered buffer, gives it up or removes a mapping. -/
def Call.releases : Call → Bool
  | .queryBuffer _ => true
  | .unregister _ => true
  | .unmap _ => true
  | _ => false

/-- The calls of a history that release buffers, each with the thread that makes it. -/
def History.releasing (history : History) : List (Nat × Call) :=
  history.filterMap fun label =>
    match label.2.effect with
    | .call request => if request.releases then some (label.1, request) else none
    | _ => none

/-- The calls that release are made by the events that touch buffers. -/
theorem History.releasing_eq (history : History) :
    history.releasing = (history.filter fun label => label.2.touches).filterMap fun label =>
      label.2.call?.map (label.1, ·) := by
  unfold History.releasing
  rw [List.filterMap_filter]
  congr 1
  funext ⟨user, effect, answer⟩
  cases effect with
  | call request => cases request <;> rfl
  | take address => cases answer <;> rfl
  | record address id => rfl
  | log notice => rfl

theorem Release.ne_unknownAddress (release : Release address id events result) :
    result ≠ .error (.unknownAddress address) := by
  cases release with
  | unqueried => exact fun same => nomatch same
  | queried ends => cases ends <;> exact fun same => nomatch same

/-- A release queries its buffer.  It makes its two other calls for the blocks that are registered,
if the query is not made to fail. -/
theorem Release.calls_eq {world : World MemoryDriver} {blocks : List Block}
    (release : Release address id events result)
    (answers : world.Answers MemoryDriver.answer events)
    (known : world.driver.registered.find? id = some blocks) :
    events.filterMap Event.call? =
      match world.driver.failing .queryBuffer with
      | some _ => [.queryBuffer (.registered id)]
      | none => [.queryBuffer (.registered id), .unregister { id, blocks },
          .unmap (releasedRegion address { id, blocks })] := by
  cases failing : world.driver.failing .queryBuffer with
  | some fault =>
    cases release with
    | unqueried => rfl
    | queried =>
      have queried := answers.2.1
      simp [World.perform, MemoryDriver.answer, failing] at queried
  | none =>
    have reply : (MemoryDriver.answer (.queryBuffer (.registered id)) world.driver).1 =
        .ok { id, blocks } := congrArg Prod.fst (MemoryDriver.answer_queryBuffer failing known)
    cases release with
    | unqueried =>
      have queried := answers.2.1.trans reply
      cases queried
    | queried =>
      have queried := answers.2.1.trans reply
      cases queried
      rfl

/-- The world of a mapper in which the given calls are made to fail. -/
def Fleet.failingWorld (fleet : Fleet MemoryDriver) (failing : CallName → Option IoFault)
    (ledger : Nat) : World MemoryDriver :=
  { driver := { fleet.driver with failing }, ledger := fleet.ledgers ledger }

/-- After any sequence of calls, and whichever calls are made to fail from then on, demaps of one
address that overlap come to the results that they come to in turn, and leave the same ledger,
registrations and mappings, in every schedule; and every schedule can be brought to its end.  If
sessions can be opened and the address is recorded, all demaps but one miss it.  Only that one makes
calls to release a buffer: it queries the buffer of the address, once, and if this is not made to
fail it gives up the blocks that are registered and removes their mapping, once each. -/
theorem demaps_at_once (turns : List Turn) (fair : Fleet.blank.Fair turns)
    (failing : CallName → Option IoFault) (ledger : Nat) (address : Address) (count : Nat)
    (positive : 0 < count) (history : History) (pool : Pool MemoryDriver (Except Fault Unit))
    (reached : Pool.Reaches MemoryDriver.answer
      (.demaps ((Fleet.blank.turns turns).failingWorld failing ledger) address count)
      history pool) :
    let fleet := Fleet.blank.turns turns
    let inTurn := (Program.inTurn (List.replicate count (demap address))).run
      MemoryDriver.answer (fleet.failingWorld failing ledger)
    (∃ rest last results, Pool.Reaches MemoryDriver.answer pool rest last ∧
      last.values? = some results) ∧
    ∀ results, pool.values? = some results →
      (results.Perm inTurn.value ∧ pool.world.ledger = inTurn.world.ledger ∧
        pool.world.driver.registered = inTurn.world.driver.registered ∧
        pool.world.driver.mappings = inTurn.world.driver.mappings) ∧
      ∀ id, failing .openSession = none → fleet.Records ledger address id →
        (∃ result, result ≠ .error (.unknownAddress address) ∧
          results.Perm (result :: List.replicate (count - 1) (.error (.unknownAddress address)))) ∧
        ∃ winner blocks, winner < count ∧ fleet.driver.registered.find? id = some blocks ∧
          let buffer : Buffer := { id, blocks }
          history.releasing =
            (match failing .queryBuffer with
              | some _ => [Call.queryBuffer (.registered id)]
              | none => [.queryBuffer (.registered id), .unregister buffer,
                  .unmap { base := Page.alignDown address, len := buffer.totalSize }]).map
              (winner, ·) := by
  intro fleet inTurn
  obtain ⟨others, rfl⟩ : ∃ others, count = others + 1 := ⟨count - 1, by omega⟩
  let world := fleet.failingWorld failing ledger
  constructor
  case left =>
    obtain ⟨rest, ends⟩ := Pool.reaches_inTurn MemoryDriver.answer pool.threads [] pool.world
    exact ⟨rest, _, _, ends, Pool.values?_eq_some_iff.mpr rfl⟩
  intro results ended
  have settled := Pool.demaps_settle reached ended
  obtain ⟨schedule, ends⟩ := Pool.reaches_inTurn MemoryDriver.answer
    (List.replicate (others + 1) (demap address)) [] world
  obtain ⟨same, left⟩ := Pool.demaps_agree reached ended ends (Pool.values?_eq_some_iff.mpr rfl)
  refine ⟨⟨same, World.tables_of_uncounted left⟩, fun id works recorded => ?_⟩
  have opens : world.driver.opening = .ok () := by
    unfold MemoryDriver.opening
    rw [show world.driver.failing .openSession = none from works]
  obtain ⟨shares, account⟩ := Fleet.settled_turns (Fleet.settled_blank False) turns fair False.elim
  obtain ⟨-, blocks, -, known, -⟩ := account.consistent.entry ledger address id recorded
  cases settled with
  | missed unrecorded =>
    have missing : (fleet.ledgers ledger).entries.find? address = none := unrecorded opens
    rw [show (fleet.ledgers ledger).entries.find? address = some id from recorded] at missing
    cases missing
  | @released winner name inner result inside _ release answers one touched =>
    have taken := (release.recorded_uncounted answers).symm.trans recorded
    cases taken
    rw [show missedResult address world.driver.opening = .error (.unknownAddress address) by
      rw [opens]; rfl] at one
    refine ⟨⟨result, release.ne_unknownAddress, one⟩, winner, blocks, inside, known, ?_⟩
    calc history.releasing
      _ = (inner.filterMap Event.call?).map (winner, ·) := by
        rw [History.releasing_eq, touched, List.filterMap_map, List.map_filterMap]
        rfl
      _ = _ := congrArg (List.map (winner, ·)) (release.calls_eq answers known)

/-- Two demaps of a remapped page.  The one that opens its session first is overtaken. -/
theorem demaps_at_once_onePage :
    let made : Turn :=
      { known := MemoryDriver.onePage.known
        request := .remap AddressMap.identity [0x60001234] [4096] }
    let world := (Fleet.blank.turns [made]).failingWorld (fun _ => none) 0
    let inTurn := (Program.inTurn (List.replicate 2 (demap 0x40000234))).run
      MemoryDriver.answer world
    ∃ (history : History) (pool : Pool MemoryDriver (Except Fault Unit))
      (results : List (Except Fault Unit)),
      Pool.Reaches MemoryDriver.answer (.demaps world 0x40000234 2) history pool ∧
        pool.values? = some results ∧ results.Perm inTurn.value ∧
        pool.world.driver.mappings = inTurn.world.driver.mappings ∧
        (∃ result, result ≠ .error (.unknownAddress 0x40000234) ∧
          results.Perm [result, .error (.unknownAddress 0x40000234)]) ∧
        (∃ winner buffer region, history.releasing =
          [(winner, .queryBuffer (.registered 0x100000)), (winner, .unregister buffer),
            (winner, .unmap region)]) ∧
        (history.take 2).map Prod.fst = [0, 1] := by
  intro made world inTurn
  have fair : Fleet.blank.Fair [made] := by decide +kernel
  have recorded : (Fleet.blank.turns [made]).Records 0 0x40000234 0x100000 := by
    unfold Fleet.Records
    decide +kernel
  obtain ⟨next, opening⟩ :
    ∃ next, demap 0x40000234 = .step (.call .openSession) next := ⟨_, rfl⟩
  have here : (Pool.demaps world 0x40000234 2).threads[0]? =
    some (.step (.call .openSession) next) := congrArg some opening
  have opened : Pool.Reaches MemoryDriver.answer (.demaps world 0x40000234 2) _ _ :=
    .step (.perform here) (.refl _)
  have overtaken := opened.trans (Pool.Reaches.run MemoryDriver.answer 1 _ rfl)
  have reached := overtaken.trans (Pool.Reaches.run MemoryDriver.answer 0 _ rfl)
  obtain ⟨_, ended⟩ := demaps_at_once [made] fair (fun _ => none) 0 0x40000234 2 (by decide) _ _
    reached
  obtain ⟨⟨same, tables⟩, released⟩ := ended _ rfl
  obtain ⟨missed, winner, _, _, _, releasing⟩ := released 0x100000 rfl recorded
  dsimp only [inTurn, world]
  exact ⟨_, _, _, reached, rfl, same, tables.2.2, missed, ⟨winner, _, _, releasing⟩, rfl⟩

/-- Where queries of buffers are made to fail, no demap gives a buffer up. -/
theorem demaps_at_once_unqueried :
    ¬ ∀ (turns : List Turn) (failing : CallName → Option IoFault) (ledger : Nat)
      (address : Address) (id : BufferId) (count : Nat) (history : History)
      (pool : Pool MemoryDriver (Except Fault Unit)) (results : List (Except Fault Unit)),
      Fleet.blank.Fair turns → 0 < count → failing .openSession = none →
      (Fleet.blank.turns turns).Records ledger address id →
      Pool.Reaches MemoryDriver.answer
        (.demaps ((Fleet.blank.turns turns).failingWorld failing ledger) address count)
        history pool →
      pool.values? = some results →
      ∃ user buffer, (user, Call.unregister buffer) ∈ history.releasing := by
  intro releases
  let made : Turn :=
    { known := MemoryDriver.onePage.known
      request := .remap AddressMap.identity [0x60001234] [4096] }
  let failing : CallName → Option IoFault := fun name =>
    if name = .queryBuffer then some MemoryDriver.outOfMemory else none
  let world := (Fleet.blank.turns [made]).failingWorld failing 0
  have fair : Fleet.blank.Fair [made] := by decide +kernel
  have recorded : (Fleet.blank.turns [made]).Records 0 0x40000234 0x100000 := by
    unfold Fleet.Records
    decide +kernel
  have first := Pool.Reaches.run MemoryDriver.answer 0 (.demaps world 0x40000234 2) rfl
  have reached := first.trans (Pool.Reaches.run MemoryDriver.answer 1 _ rfl)
  obtain ⟨user, buffer, member⟩ := releases [made] failing 0 0x40000234 0x100000 2 _ _ [_, _]
    fair (by decide) rfl recorded reached rfl
  let givesUp : Nat × Call → Bool := fun label =>
    match label.2 with
    | .unregister _ => true
    | _ => false
  have given : List.any _ givesUp = true := List.any_eq_true.mpr ⟨_, member, rfl⟩
  revert given
  decide +kernel

end TilerMapping
