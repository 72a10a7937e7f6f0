/-
Module: TilerMapping.Action
Purpose: Programs that can stop early with a reason.
Main exports: Action, one action for each effect, Action.orElse, Action.require
-/
import TilerMapping.Program

namespace TilerMapping

/-- A program that ends with a value or, early, with a reason of type `ε`. -/
abbrev Action (ε α : Type) := ExceptT ε Program α

namespace Action

variable {ε : Type}

/-! Each effect as an action. -/

/-- Query a block. -/
def queryBlock (block : Block) : Action ε (Except IoFault Block) :=
  ExceptT.lift (Program.perform (.call (.queryBlock block)))

/-- Register a buffer. -/
def register (buffer : Buffer) : Action ε (Except IoFault Buffer) :=
  ExceptT.lift (Program.perform (.call (.register buffer)))

/-- Query a registered buffer. -/
def queryBuffer (buffer : Buffer) : Action ε (Except IoFault Buffer) :=
  ExceptT.lift (Program.perform (.call (.queryBuffer buffer)))

/-- Give up a registration. -/
def unregister (buffer : Buffer) : Action ε (Except IoFault Unit) :=
  ExceptT.lift (Program.perform (.call (.unregister buffer)))

/-- Map a registered buffer. -/
def map (size : ByteCount) (id : BufferId) : Action ε (Except IoFault Region) :=
  ExceptT.lift (Program.perform (.call (.map size id)))

/-- Remove a mapping. -/
def unmap (region : Region) : Action ε (Except IoFault Unit) :=
  ExceptT.lift (Program.perform (.call (.unmap region)))

/-- Store a name under an address in the ledger. -/
def record (address : Address) (id : BufferId) : Action ε (Except Abort (Option BufferId)) :=
  ExceptT.lift (Program.perform (.record address id))

/-- Take the name behind an address from the ledger. -/
def take (address : Address) : Action ε (Option BufferId) :=
  ExceptT.lift (Program.perform (.take address))

/-- Emit a log record. -/
def log (notice : Notice) : Action ε Unit := ExceptT.lift (Program.perform (.log notice))

/-- Emit log records in order. -/
def logAll (notices : List Notice) : Action ε Unit := ExceptT.lift (Program.logAll notices)

/-! Ends of an action. -/

/-- Go on with the value of an answer, or stop with the reason made from its fault. -/
def orElse {φ : Type} (reason : φ → ε) : Except φ α → Action ε α
  | .ok value => pure value
  | .error fault => throw (reason fault)

/-- Go on with a value that is there, or stop. -/
def require (reason : ε) : Option α → Action ε α
  | some value => pure value
  | none => throw reason

/-! Each action as a program. -/

@[simp] theorem run_queryBlock (block : Block) :
    (queryBlock block : Action ε (Except IoFault Block)).run =
      .step (.call (.queryBlock block)) fun answer => .done (.ok answer) := rfl

@[simp] theorem run_register (buffer : Buffer) :
    (register buffer : Action ε (Except IoFault Buffer)).run =
      .step (.call (.register buffer)) fun answer => .done (.ok answer) := rfl

@[simp] theorem run_queryBuffer (buffer : Buffer) :
    (queryBuffer buffer : Action ε (Except IoFault Buffer)).run =
      .step (.call (.queryBuffer buffer)) fun answer => .done (.ok answer) := rfl

@[simp] theorem run_unregister (buffer : Buffer) :
    (unregister buffer : Action ε (Except IoFault Unit)).run =
      .step (.call (.unregister buffer)) fun answer => .done (.ok answer) := rfl

@[simp] theorem run_map (size : ByteCount) (id : BufferId) :
    (map size id : Action ε (Except IoFault Region)).run =
      .step (.call (.map size id)) fun answer => .done (.ok answer) := rfl

@[simp] theorem run_unmap (region : Region) :
    (unmap region : Action ε (Except IoFault Unit)).run =
      .step (.call (.unmap region)) fun answer => .done (.ok answer) := rfl

@[simp] theorem run_record (address : Address) (id : BufferId) :
    (record address id : Action ε (Except Abort (Option BufferId))).run =
      .step (.record address id) fun answer => .done (.ok answer) := rfl

@[simp] theorem run_take (address : Address) :
    (take address : Action ε (Option BufferId)).run =
      .step (.take address) fun answer => .done (.ok answer) := rfl

@[simp] theorem run_log (notice : Notice) :
    (log notice : Action ε Unit).run =
      .step (.log notice) fun _ => .done (.ok ()) := rfl

@[simp] theorem run_logAll (notices : List Notice) :
    (logAll notices : Action ε Unit).run = Except.ok <$> Program.logAll notices := rfl

@[simp] theorem run_orElse_ok {φ : Type} (reason : φ → ε) (value : α) :
    (orElse reason (.ok value) : Action ε α).run = .done (.ok value) := rfl

@[simp] theorem run_orElse_error {φ : Type} (reason : φ → ε) (fault : φ) :
    (orElse reason (.error fault) : Action ε α).run = .done (.error (reason fault)) := rfl

@[simp] theorem run_require_some (reason : ε) (value : α) :
    (require reason (some value) : Action ε α).run = .done (.ok value) := rfl

@[simp] theorem run_require_none (reason : ε) :
    (require reason none : Action ε α).run = .done (.error reason) := rfl

end Action

end TilerMapping
