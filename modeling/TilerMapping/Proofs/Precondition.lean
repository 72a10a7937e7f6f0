/-
Module: TilerMapping.Proofs.Precondition
Purpose: What has to hold before a program for all its ends to be good, whoever answers it.
Main exports: EffectRule, Program.wp, Program.wp_bind, Program.wp_mono, Action.wp_bind,
  Action.wp_orElse, Action.wp_require
-/
import TilerMapping.Action

namespace TilerMapping

/-!
A program does not fix who answers its effects.  A rule says, for one effect, what has to hold
before it so that every answer it admits leads to a good state; `Program.wp` folds a rule over
the tree of a program.  The states are bookkeeping that only the rule reads, so one rule serves
a program that runs alone as well as one that takes turns with others.
-/

/-- What has to hold before an effect, given what has to hold after each of its answers. -/
abbrev EffectRule (γ : Type) := (effect : Effect) → (effect.Answer → γ → Prop) → γ → Prop

variable {γ α β ε : Type}

/-- A rule asks for no more where less has to hold afterwards. -/
def EffectRule.Monotone (rule : EffectRule γ) : Prop :=
  ∀ (effect : Effect) (good better : effect.Answer → γ → Prop) (state : γ),
    (∀ answer state, good answer state → better answer state) →
      rule effect good state → rule effect better state

namespace Program

/-- What has to hold before a program so that every end that the rule admits is good. -/
def wp (rule : EffectRule γ) : Program α → (α → γ → Prop) → γ → Prop
  | .done value, good => good value
  | .step effect next, good => rule effect fun answer => (next answer).wp rule good

@[simp] theorem wp_done (rule : EffectRule γ) (value : α) (good : α → γ → Prop) :
    (Program.done value).wp rule good = good value := rfl

theorem wp_step (rule : EffectRule γ) (effect : Effect) (next : effect.Answer → Program α)
    (good : α → γ → Prop) :
    (Program.step effect next).wp rule good =
      rule effect fun answer => (next answer).wp rule good := rfl

/-- Before a sequence has to hold what its first part needs to end where the second starts. -/
theorem wp_bind (rule : EffectRule γ) (program : Program α) (rest : α → Program β)
    (good : β → γ → Prop) :
    (program >>= rest).wp rule good =
      program.wp rule fun value => (rest value).wp rule good := by
  induction program with
  | done value => rfl
  | step effect next ih =>
    rw [step_bind, wp_step, wp_step]
    exact congrArg (rule effect) (funext fun answer => ih answer)

theorem wp_map (rule : EffectRule γ) (f : α → β) (program : Program α)
    (good : β → γ → Prop) :
    (f <$> program).wp rule good = program.wp rule fun value => good (f value) := by
  rw [map_eq_pure_bind, wp_bind]
  rfl

/-- What holds at every end may be weakened. -/
theorem wp_mono {rule : EffectRule γ} (monotone : rule.Monotone) {program : Program α}
    {good better : α → γ → Prop} {state : γ} (holds : program.wp rule good state)
    (weaker : ∀ value state, good value state → better value state) :
    program.wp rule better state := by
  induction program generalizing state with
  | done value => exact weaker value state holds
  | step effect next ih => exact monotone effect _ _ state (fun answer _ => ih answer) holds

/-- Log records need nothing of a rule that admits them everywhere. -/
theorem wp_logAll {rule : EffectRule γ} {notices : List Notice} {good : Unit → γ → Prop}
    {state : γ} (free : ∀ notice good, good () state → rule (.log notice) good state)
    (holds : good () state) : (logAll notices).wp rule good state := by
  induction notices with
  | nil => exact holds
  | cons notice rest ih => exact free notice _ ih

end Program

namespace Action

/-- What has to hold after the first of two actions: what the second needs, or, where the
first stops, what a stop needs. -/
def thenGood (rule : EffectRule γ) (next : α → Action ε β)
    (good : Except ε β → γ → Prop) : Except ε α → γ → Prop
  | .ok value => (next value).run.wp rule good
  | .error reason => good (.error reason)

@[simp] theorem thenGood_ok (rule : EffectRule γ) (next : α → Action ε β)
    (good : Except ε β → γ → Prop) (value : α) :
    thenGood rule next good (.ok value) = (next value).run.wp rule good := rfl

@[simp] theorem thenGood_error (rule : EffectRule γ) (next : α → Action ε β)
    (good : Except ε β → γ → Prop) (reason : ε) :
    thenGood rule next good (.error reason) = good (.error reason) := rfl

theorem wp_bind (rule : EffectRule γ) (action : Action ε α) (next : α → Action ε β)
    (good : Except ε β → γ → Prop) :
    (action >>= next).run.wp rule good = action.run.wp rule (thenGood rule next good) := by
  rw [ExceptT.run_bind, Program.wp_bind]
  congr 1
  funext result
  cases result with
  | ok value => rfl
  | error reason => rfl

/-- An action goes on with an answer that is there, and stops where it is a fault. -/
theorem wp_orElse {φ : Type} {rule : EffectRule γ} {reason : φ → ε} {answer : Except φ α}
    {next : α → Action ε β} {good : Except ε β → γ → Prop} {state : γ}
    (known : ∀ value, answer = .ok value → (next value).run.wp rule good state)
    (unknown : ∀ fault, answer = .error fault → good (.error (reason fault)) state) :
    (orElse reason answer >>= next).run.wp rule good state := by
  rw [wp_bind]
  cases answer with
  | ok value => exact known value rfl
  | error fault => exact unknown fault rfl

/-- An action may end with an answer that is there. -/
theorem wp_answer {rule : EffectRule γ} {answer : Except ε α} {good : Except ε α → γ → Prop}
    {state : γ} (ends : good answer state) :
    (orElse id answer : Action ε α).run.wp rule good state := by
  cases answer with
  | ok value => exact ends
  | error reason => exact ends

/-- An action goes on with a value that is there, and stops where there is none. -/
theorem wp_require {rule : EffectRule γ} {reason : ε} {answer : Option α}
    {next : α → Action ε β} {good : Except ε β → γ → Prop} {state : γ}
    (known : ∀ value, answer = some value → (next value).run.wp rule good state)
    (unknown : answer = none → good (.error reason) state) :
    (require reason answer >>= next).run.wp rule good state := by
  rw [wp_bind]
  cases answer with
  | some value => exact known value rfl
  | none => exact unknown rfl

end Action

end TilerMapping
