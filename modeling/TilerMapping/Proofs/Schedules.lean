/-
Module: TilerMapping.Proofs.Schedules
Purpose: What is true of every schedule of programs that run at the same time.
Main exports: World.replay, History.eventsOf, Pool.values?_eq_some_iff, Pool.Reaches.answers,
  Pool.Reaches.replay, Pool.Reaches.dealt, Pool.reaches_inTurn
-/
import TilerMapping.Proofs.Dealings
import TilerMapping.Proofs.Interleaving

namespace TilerMapping

/-!
A schedule mixes the events of its threads.  Seen by the world it is one list of events that the
world has answered one after the other, and the world at its end follows from them.  Seen by a
thread it is what the thread itself has dealt, and for that it makes no difference who answered it.
So what `Program.wp` says of the dealings of a program holds of each thread in every schedule, and
running the programs in turn is one schedule among the others.
-/

variable {σ α : Type} {driver : Driver σ}

/-! ### Worlds along a list of events -/

/-- The world after the effects of a list of events were performed in it. -/
def World.replay (driver : Driver σ) : World σ → List Event → World σ
  | world, [] => world
  | world, event :: rest => ((world.perform driver event.effect).2).replay driver rest

/-! ### Histories -/

namespace History

/-- The events of one thread in a history. -/
def eventsOf (history : History) (user : Nat) : List Event :=
  history.filterMap fun label => if label.1 = user then some label.2 else none

theorem eventsOf_cons_self (history : History) (user : Nat) (event : Event) :
    History.eventsOf ((user, event) :: history) user = event :: history.eventsOf user := by
  simp [History.eventsOf]

theorem eventsOf_cons_of_ne (history : History) {user other : Nat} (apart : other ≠ user)
    (event : Event) :
    History.eventsOf ((other, event) :: history) user = history.eventsOf user := by
  simp [History.eventsOf, apart]

theorem mem_eventsOf {history : History} {user : Nat} {event : Event} :
    event ∈ history.eventsOf user ↔ (user, event) ∈ history := by
  simp only [History.eventsOf, List.mem_filterMap]
  constructor
  · rintro ⟨⟨other, found⟩, member, same⟩
    split at same
    · rename_i here
      cases same
      cases here
      exact member
    · cases same
  · intro member
    exact ⟨_, member, if_pos rfl⟩

end History

namespace Pool

variable {first last : Pool σ α} {history : History}

/-- A pool has come to values exactly where each of its threads has ended with one. -/
theorem values?_eq_some_iff {pool : Pool σ α} {values : List α} :
    pool.values? = some values ↔ pool.threads = values.map .done := by
  unfold values?
  generalize pool.threads = threads
  induction threads generalizing values with
  | nil => cases values <;> simp
  | cons thread rest ih =>
    rw [List.mapM_cons]
    cases thread with
    | step effect next => cases values <;> simp
    | done value =>
      cases values with
      | nil => simp [Option.bind_eq_some_iff]
      | cons first others =>
        simp only [Option.bind_eq_bind, Option.bind_some, Option.bind_eq_some_iff, List.map_cons,
          List.cons.injEq, Program.done.injEq, Option.pure_def, Option.some.injEq, ← ih]
        constructor
        · rintro ⟨later, known, rfl, rfl⟩
          exact ⟨rfl, known⟩
        · rintro ⟨rfl, known⟩
          exact ⟨others, known, rfl, rfl⟩

/-- The events of a schedule are those that the world has answered. -/
theorem Reaches.answers (reached : Reaches driver first history last) :
    first.world.Answers driver (history.map Prod.snd) := by
  induction reached with
  | refl pool => trivial
  | step step rest ih =>
    cases step with
    | perform here => exact ⟨rfl, ih⟩

/-- The world of a pool is the one that the events of its schedule lead to. -/
theorem Reaches.replay (reached : Reaches driver first history last) :
    last.world = first.world.replay driver (history.map Prod.snd) := by
  induction reached with
  | refl pool => rfl
  | step step rest ih =>
    cases step with
    | perform here => exact ih

theorem Reaches.length_threads (reached : Reaches driver first history last) :
    last.threads.length = first.threads.length := by
  induction reached with
  | refl pool => rfl
  | step step rest ih =>
    cases step with
    | perform here => rw [ih, List.length_set]

/-- Only threads of the pool perform events. -/
theorem Reaches.lt_of_mem (reached : Reaches driver first history last) {user : Nat}
    {event : Event} (member : (user, event) ∈ history) : user < first.threads.length := by
  induction reached with
  | refl pool => cases member
  | step step rest ih =>
    cases step with
    | perform here =>
      rcases List.mem_cons.mp member with same | later
      · cases same
        exact (List.getElem?_eq_some_iff.mp here).1
      · have inside := ih later
        rwa [List.length_set] at inside

/-- A thread goes on from what it has dealt itself, whatever the other threads did in between. -/
theorem Reaches.wp_dealing {good : α → List Event → Prop} {before : List Event} {user : Nat}
    {start program : Program α} (reached : Reaches driver first history last)
    (there : first.threads[user]? = some start) (holds : start.wp .dealing good before)
    (here : last.threads[user]? = some program) :
    program.wp .dealing good (before ++ (history.eventsOf user).filter Event.isDealing) := by
  induction reached generalizing before start with
  | refl pool =>
    rw [there, Option.some.injEq] at here
    subst here
    simpa [History.eventsOf] using holds
  | @step pool _ _ _ history step rest ih =>
    cases step with
    | @perform index effect next turn =>
      by_cases own : index = user
      · subst own
        rw [turn, Option.some.injEq] at there
        subst there
        have later := holds _ (World.possible_perform driver effect pool.world)
        have inside := (List.getElem?_eq_some_iff.mp turn).1
        rw [History.eventsOf_cons_self, ← List.singleton_append, List.filter_append,
          ← List.append_assoc]
        exact ih (List.getElem?_set_self inside) later here
      · rw [History.eventsOf_cons_of_ne _ own]
        exact ih ((List.getElem?_set_ne own).trans there) holds here

/-- What holds at every end of each program holds of what the threads have dealt and come to. -/
theorem Reaches.dealt {good : α → List Event → Prop} {values : List α}
    (reached : Reaches driver first history last) (ended : last.values? = some values)
    (holds : ∀ program ∈ first.threads, program.wp .dealing good []) {user : Nat} {value : α}
    (here : values[user]? = some value) :
    good value ((history.eventsOf user).filter Event.isDealing) := by
  have finished : last.threads[user]? = some (.done value) := by
    rw [values?_eq_some_iff.mp ended, List.getElem?_map, here]
    rfl
  have inside : user < first.threads.length := by
    rw [← reached.length_threads]
    exact (List.getElem?_eq_some_iff.mp finished).1
  have started := List.getElem?_eq_getElem inside
  exact reached.wp_dealing started (holds _ (List.getElem_mem inside)) finished

/-- Programs that run in turn are a schedule, in which threads that have ended stay as they are. -/
theorem reaches_inTurn (driver : Driver σ) (programs : List (Program α)) (ended : List α)
    (world : World σ) :
    let ran := (Program.inTurn programs).run driver world
    ∃ history, Reaches driver { world, threads := ended.map .done ++ programs } history
      { world := ran.world, threads := (ended ++ ran.value).map .done } := by
  induction programs generalizing ended world with
  | nil =>
    refine ⟨[], ?_⟩
    simp only [Program.inTurn, Program.run_done, List.append_nil]
    exact .refl _
  | cons program rest ih =>
    let alone := program.run driver world
    let others := (Program.inTurn rest).run driver alone.world
    have here : (ended.map Program.done ++ program :: rest)[ended.length]? = some program := by
      simp
    have first := Reaches.run driver ended.length
      { world, threads := ended.map .done ++ program :: rest } here
    have placed : (ended.map Program.done ++ program :: rest).set ended.length
        (.done alone.value) = (ended ++ [alone.value]).map .done ++ rest := by simp
    rcases ih (ended ++ [alone.value]) alone.world with ⟨history, later⟩
    have value : ((Program.inTurn (program :: rest)).run driver world).value =
        alone.value :: others.value := by
      simp only [Program.inTurn, Program.run_bind]
      rfl
    have left : ((Program.inTurn (program :: rest)).run driver world).world = others.world := by
      simp only [Program.inTurn, Program.run_bind]
      rfl
    intro ran
    rw [List.append_assoc, List.singleton_append, ← placed, ← value] at later
    refine ⟨_ ++ history, first.trans ?_⟩
    rw [← left] at later
    exact later

end Pool

end TilerMapping
