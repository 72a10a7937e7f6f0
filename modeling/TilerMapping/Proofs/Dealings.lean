/-
Module: TilerMapping.Proofs.Dealings
Purpose: What a program has dealt with the driver and the ledger, and how to foretell it.
Main exports: Event.isDealing, Run.dealings, EffectRule.dealing, Program.wp_dealing_run,
  World.Answers, Program.answers_run, MappingLedger.afterAll, Program.ledger_run
-/
import TilerMapping.Proofs.Holdings
import TilerMapping.Proofs.Precondition

namespace TilerMapping

/-!
The dealings of a run are its events but for the log records.  They alone decide what becomes of
the ledger and what the driver holds.  The rule `EffectRule.dealing` collects the dealings of a
program over every answer that there can be, so what it shows of a program holds of each run,
whoever the driver is.
-/

/-- The event concerns the driver or the ledger: it is no log record. -/
def Event.isDealing (event : Event) : Bool :=
  match event.effect with
  | .log _ => false
  | _ => true

/-- The events of a run that concern the driver or the ledger, in order. -/
def Run.dealings {σ α : Type} (run : Run σ α) : List Event :=
  run.trace.filter Event.isDealing

/-- The answers that there can be: a driver may answer anything, and the ledger stores every name
but zero. -/
def Effect.Possible : (effect : Effect) → effect.Answer → Prop
  | .record _ id, answer => id ≠ 0 → ∃ previous, answer = .ok previous
  | _, _ => True

/-- An effect may be performed anywhere.  What is known afterwards is the dealings before it and,
unless it is a log record, the effect with its answer. -/
def EffectRule.dealing : EffectRule (List Event) := fun effect good events =>
  ∀ answer, effect.Possible answer →
    good answer (events ++ [⟨effect, answer⟩].filter Event.isDealing)

theorem EffectRule.dealing_monotone : EffectRule.dealing.Monotone :=
  fun _ _ _ _ weaker holds answer possible => weaker answer _ (holds answer possible)

variable {σ α ε : Type} {driver : Driver σ}

/-! ### Runs -/

theorem World.possible_perform (driver : Driver σ) (effect : Effect) (world : World σ) :
    effect.Possible (world.perform driver effect).1 := by
  cases effect with
  | record address id =>
    intro named
    simp only [World.perform, MappingLedger.record, if_neg named]
    exact ⟨_, rfl⟩
  | _ => trivial

theorem Program.dealings_step {effect : Effect} {next : effect.Answer → Program α}
    {world : World σ} :
    ((Program.step effect next).run driver world).dealings =
      [⟨effect, (world.perform driver effect).1⟩].filter Event.isDealing ++
        ((next (world.perform driver effect).1).run driver
          (world.perform driver effect).2).dealings := by
  unfold Run.dealings
  rw [Program.run_step, ← List.filter_append]
  rfl

/-- What holds at every end of a program holds at the end of each of its runs. -/
theorem Program.wp_dealing_run {program : Program α} {good : α → List Event → Prop}
    {before : List Event} {world : World σ} (holds : program.wp .dealing good before) :
    good (program.run driver world).value (before ++ (program.run driver world).dealings) := by
  -- Each effect moves from the run into the dealings before it.
  induction program generalizing before world with
  | done value => simpa [Run.dealings] using holds
  | step effect next ih =>
    have rest := holds _ (World.possible_perform driver effect world)
    rw [Program.dealings_step, ← List.append_assoc]
    exact ih _ rest

theorem Program.dealing_log {notice : Notice} {good : Unit → List Event → Prop}
    {before : List Event} (rest : good () before) :
    (log notice).wp .dealing good before := by
  intro _ _
  simpa [Event.isDealing] using rest

/-! ### Answers -/

/-- The events are those that a world answers, one after the other. -/
def World.Answers (driver : Driver σ) : World σ → List Event → Prop
  | _, [] => True
  | world, event :: rest =>
      event.answer = (world.perform driver event.effect).1 ∧
        Answers driver (world.perform driver event.effect).2 rest

/-- Log records change no world, so the dealings alone are answered in the same way. -/
theorem World.answers_dealings {world : World σ} {events : List Event}
    (answers : world.Answers driver events) :
    world.Answers driver (events.filter Event.isDealing) := by
  induction events generalizing world with
  | nil => trivial
  | cons event rest ih =>
    obtain ⟨effect, answer⟩ := event
    cases effect with
    | log notice => exact ih answers.2
    | _ => exact ⟨answers.1, ih answers.2⟩

/-- Each event among those that a world answers was answered in some world. -/
theorem World.Answers.of_mem {world : World σ} {events : List Event} {event : Event}
    (answers : world.Answers driver events) (member : event ∈ events) :
    ∃ reached : World σ, event.answer = (reached.perform driver event.effect).1 := by
  induction events generalizing world with
  | nil => cases member
  | cons first rest ih =>
    rcases List.mem_cons.mp member with rfl | later
    · exact ⟨world, answers.1⟩
    · exact ih answers.2 later

theorem Program.answers_run (program : Program α) (world : World σ) :
    world.Answers driver (program.run driver world).dealings := by
  apply World.answers_dealings
  induction program generalizing world with
  | done value => trivial
  | step effect next ih => exact ⟨rfl, ih _ _⟩

/-! ### Each effect at the head of an action -/

namespace Action

variable {good : Except ε α → List Event → Prop} {before : List Event}

/-- A call may be answered anything. -/
theorem dealing_call {request : Call} {next : request.Answer → Action ε α}
    (rest : ∀ answer, (next answer).run.wp .dealing good
      (before ++ [⟨.call request, answer⟩])) :
    (ExceptT.lift (Program.perform (.call request)) >>= next : Action ε α).run.wp .dealing
      good before := by
  rw [wp_bind]
  exact fun answer _ => rest answer

theorem dealing_log {notice : Notice} {next : Unit → Action ε α}
    (rest : (next ()).run.wp .dealing good before) :
    (log notice >>= next).run.wp .dealing good before := by
  rw [wp_bind, run_log]
  intro _ _
  simpa [Event.isDealing] using rest

theorem dealing_logAll {notices : List Notice} {next : Unit → Action ε α}
    (rest : (next ()).run.wp .dealing good before) :
    (logAll notices >>= next).run.wp .dealing good before := by
  rw [wp_bind, run_logAll, Program.wp_map]
  apply Program.wp_logAll _ rest
  intro notice good holds _ _
  simpa [Event.isDealing] using holds

/-- A name other than zero is stored, and the name that it replaces is answered. -/
theorem dealing_record {address : Address} {id : BufferId}
    {next : Except Abort (Option BufferId) → Action ε α} (named : id ≠ 0)
    (rest : ∀ previous, (next (.ok previous)).run.wp .dealing good
      (before ++ [⟨.record address id, .ok previous⟩])) :
    (record address id >>= next).run.wp .dealing good before := by
  rw [wp_bind, run_record]
  intro answer possible
  obtain ⟨previous, rfl⟩ := possible named
  exact rest previous

/-- A name may be there or not. -/
theorem dealing_take {address : Address} {next : Option BufferId → Action ε α}
    (rest : ∀ answer, (next answer).run.wp .dealing good (before ++ [⟨.take address, answer⟩])) :
    (take address >>= next).run.wp .dealing good before := by
  rw [wp_bind, run_take]
  exact fun answer _ => rest answer

end Action

/-! ### What the dealings decide -/

namespace MappingLedger

/-- The ledger once an effect was answered. -/
def after (ledger : MappingLedger) : (effect : Effect) → effect.Answer → MappingLedger
  | .record address id, .ok _ => { ledger with entries := ledger.entries.insert address id }
  | .take address, _ => (ledger.take address).2
  | _, _ => ledger

/-- The ledger after a list of events. -/
def afterAll (ledger : MappingLedger) : List Event → MappingLedger
  | [] => ledger
  | event :: rest => (ledger.after event.effect event.answer).afterAll rest

theorem afterAll_append (ledger : MappingLedger) (first second : List Event) :
    ledger.afterAll (first ++ second) = (ledger.afterAll first).afterAll second := by
  induction first generalizing ledger with
  | nil => rfl
  | cons event rest ih => exact ih _

theorem afterAll_dealings (ledger : MappingLedger) (events : List Event) :
    ledger.afterAll (events.filter Event.isDealing) = ledger.afterAll events := by
  induction events generalizing ledger with
  | nil => rfl
  | cons event rest ih =>
    obtain ⟨effect, answer⟩ := event
    cases effect with
    | log notice => exact ih ledger
    | _ => exact ih _

end MappingLedger

/-- The ledger after one effect follows from its answer. -/
theorem World.ledger_perform (driver : Driver σ) (effect : Effect) (world : World σ) :
    (world.perform driver effect).2.ledger =
      world.ledger.after effect (world.perform driver effect).1 := by
  cases effect with
  | call request => rfl
  | record address id =>
    by_cases zero : id = 0 <;>
      simp [World.perform, MappingLedger.record, MappingLedger.unlock, MappingLedger.after, zero]
  | take address => rfl
  | log notice => rfl

/-- The ledger that a run leaves follows from its dealings. -/
theorem Program.ledger_run (program : Program α) (world : World σ) :
    (program.run driver world).world.ledger =
      world.ledger.afterAll (program.run driver world).dealings := by
  unfold Run.dealings
  rw [MappingLedger.afterAll_dealings]
  induction program generalizing world with
  | done value => rfl
  | step effect next ih =>
    rw [Program.run_step]
    simp only [MappingLedger.afterAll]
    rw [ih, World.ledger_perform]

namespace Holdings

/-- What a driver holds after a run follows from the dealings. -/
theorem afterAll_dealings (holdings : Holdings) (events : List Event) :
    holdings.afterAll (events.filter Event.isDealing) = holdings.afterAll events := by
  induction events generalizing holdings with
  | nil => rfl
  | cons event rest ih =>
    obtain ⟨effect, answer⟩ := event
    cases effect with
    | log notice => exact ih holdings
    | _ => exact ih _

/-- A law that all events keep is kept by the dealings among them. -/
theorem follows_dealings {law : AnswerLaw} {holdings : Holdings} {events : List Event}
    (follows : Follows law holdings events) :
    Follows law holdings (events.filter Event.isDealing) := by
  induction events generalizing holdings with
  | nil => trivial
  | cons event rest ih =>
    obtain ⟨effect, answer⟩ := event
    cases effect with
    | log notice => exact ih follows.2
    | _ => exact ⟨follows.1, ih follows.2⟩

end Holdings

/-- The calls of a run are among its dealings. -/
theorem Run.calls_eq_dealings (run : Run σ α) :
    run.calls = run.dealings.filterMap Event.call? := by
  unfold Run.calls Run.dealings
  induction run.trace with
  | nil => rfl
  | cons event rest ih =>
    obtain ⟨effect, answer⟩ := event
    cases effect with
    | call request => exact congrArg (request :: ·) ih
    | _ => exact ih

end TilerMapping
