/-
Module: TilerMapping.Proofs.Transcript
Purpose: All that a program has done so far, its log records included, and how to foretell it.
Main exports: Transcript, MappingLedger.Answers, EffectRule.tracing, Program.wp_tracing_run,
  Action.tracing_call, Action.tracing_log, Action.tracing_record
-/
import TilerMapping.Proofs.Dealings

namespace TilerMapping

/-!
Where dealings leave the log records out, a transcript keeps every event in its place, so it also
shows what was reported before what.  And it keeps the ledger as it stands, for the warning about a
name that was replaced depends on what the ledger had before.  The rule `EffectRule.tracing` writes
the transcript of a program over every answer of a driver and the one answer of the ledger.
-/

/-- How far a program has come: the ledger as it stands, and the events up to now. -/
structure Transcript where
  ledger : MappingLedger
  events : List Event := []

/-- The transcript once another effect was answered. -/
def Transcript.after (transcript : Transcript) (effect : Effect) (answer : effect.Answer) :
    Transcript where
  ledger := transcript.ledger.after effect answer
  events := transcript.events ++ [⟨effect, answer⟩]

/-- The answers that there can be beside a ledger: it has one answer to each of its two operations,
and a driver may answer anything. -/
def MappingLedger.Answers (ledger : MappingLedger) : (effect : Effect) → effect.Answer → Prop
  | .record address id, answer => answer = Prod.snd <$> ledger.record address id
  | .take address, answer => answer = (ledger.take address).1
  | _, _ => True

/-- An effect may be performed anywhere, and is added to the transcript with its answer. -/
def EffectRule.tracing : EffectRule Transcript := fun effect good transcript =>
  ∀ answer, transcript.ledger.Answers effect answer → good answer (transcript.after effect answer)

theorem EffectRule.tracing_monotone : EffectRule.tracing.Monotone :=
  fun _ _ _ _ weaker holds answer possible => weaker answer _ (holds answer possible)

variable {σ α ε : Type} {driver : Driver σ} {ledger : MappingLedger} {before : List Event}

/-! ### Runs -/

theorem World.ledger_answers (driver : Driver σ) (effect : Effect) (world : World σ) :
    world.ledger.Answers effect (world.perform driver effect).1 := by
  cases effect with
  | record address id =>
    simp only [MappingLedger.Answers, World.perform]
    cases world.ledger.record address id with
    | error abort => rfl
    | ok stored => rfl
  | take address => rfl
  | call request => trivial
  | log notice => trivial

/-- What holds at every end of a program holds at the end of each of its runs. -/
theorem Program.wp_tracing_run {program : Program α} {good : α → Transcript → Prop}
    {world : World σ}
    (holds : program.wp .tracing good { ledger := world.ledger, events := before }) :
    good (program.run driver world).value
      { ledger := (program.run driver world).world.ledger
        events := before ++ (program.run driver world).trace } := by
  -- Each effect moves from the run into the transcript before it.
  induction program generalizing before world with
  | done value =>
    rw [Program.run_done, List.append_nil]
    exact holds
  | step effect next ih =>
    have rest := holds _ (World.ledger_answers driver effect world)
    rw [Transcript.after, ← World.ledger_perform] at rest
    have ended := ih _ rest
    rw [List.append_assoc] at ended
    exact ended

/-! ### Each effect at the head of an action -/

namespace Program

theorem tracing_log {notice : Notice} {good : Unit → Transcript → Prop}
    (rest : good () { ledger, events := before ++ [⟨.log notice, ()⟩] }) :
    (log notice).wp .tracing good { ledger, events := before } :=
  fun _ _ => rest

theorem inSession_tracing {program : Program α} {good : Except IoFault α → Transcript → Prop}
    (refused : ∀ source, good (.error source)
      { ledger, events := before ++ [⟨.call .openSession, .error source⟩] })
    (inside : program.wp .tracing
      (fun value inner => good (.ok value)
        { ledger := inner.ledger, events := inner.events ++ [⟨.call .closeSession, ()⟩] })
      { ledger, events := before ++ [⟨.call .openSession, .ok ()⟩] }) :
    program.inSession.wp .tracing good { ledger, events := before } := by
  unfold inSession
  rw [wp_bind]
  intro answer _
  cases answer with
  | error source => exact refused source
  | ok =>
    simp only [wp_done, wp_bind]
    exact wp_mono EffectRule.tracing_monotone inside fun value inner ended _ _ => ended

end Program

/-- The events of emitting log records in order. -/
def Event.logged (notices : List Notice) : List Event :=
  notices.map fun notice => ⟨.log notice, ()⟩

namespace Action

variable {good : Except ε α → Transcript → Prop}

/-- A call may be answered anything. -/
theorem tracing_call {request : Call} {next : request.Answer → Action ε α}
    (rest : ∀ answer, (next answer).run.wp .tracing good
      { ledger, events := before ++ [⟨.call request, answer⟩] }) :
    (ExceptT.lift (Program.perform (.call request)) >>= next : Action ε α).run.wp .tracing
      good { ledger, events := before } := by
  rw [wp_bind]
  exact fun answer _ => rest answer

theorem tracing_log {notice : Notice} {next : Unit → Action ε α}
    (rest : (next ()).run.wp .tracing good
      { ledger, events := before ++ [⟨.log notice, ()⟩] }) :
    (log notice >>= next).run.wp .tracing good { ledger, events := before } := by
  rw [wp_bind, run_log]
  exact fun _ _ => rest

theorem tracing_logAll {notices : List Notice} {next : Unit → Action ε α}
    (rest : (next ()).run.wp .tracing good
      { ledger, events := before ++ Event.logged notices }) :
    (logAll notices >>= next).run.wp .tracing good { ledger, events := before } := by
  rw [wp_bind, run_logAll, Program.wp_map]
  induction notices generalizing before with
  | nil =>
    rw [Event.logged, List.map_nil, List.append_nil] at rest
    exact rest
  | cons notice others ih =>
    intro _ _
    apply ih
    rw [List.append_assoc]
    exact rest

/-- A name other than zero is stored, and the one that the address had before is answered. -/
theorem tracing_record {address : Address} {id : BufferId}
    {next : Except Abort (Option BufferId) → Action ε α}
    (refused : (next (.error .zeroBufferId)).run.wp .tracing good
      { ledger, events := before ++ [⟨.record address id, .error .zeroBufferId⟩] })
    (stored : ∀ previous, ledger.entries.find? address = previous →
      (next (.ok previous)).run.wp .tracing good
        { ledger := { ledger with entries := ledger.entries.insert address id }
          events := before ++ [⟨.record address id, .ok previous⟩] }) :
    (record address id >>= next).run.wp .tracing good { ledger, events := before } := by
  rw [wp_bind, run_record]
  intro answer answered
  simp only [MappingLedger.Answers, MappingLedger.record, MappingLedger.unlock] at answered
  split at answered
  · subst answered
    exact refused
  · subst answered
    exact stored _ rfl

/-- A name may be there or not. -/
theorem tracing_take {address : Address} {next : Option BufferId → Action ε α}
    (rest : ∀ answer after, (next answer).run.wp .tracing good
      { ledger := after, events := before ++ [⟨.take address, answer⟩] }) :
    (take address >>= next).run.wp .tracing good { ledger, events := before } := by
  rw [wp_bind, run_take]
  exact fun answer _ => rest answer _

end Action

end TilerMapping
