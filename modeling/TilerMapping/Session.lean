/-
Module: TilerMapping.Session
Purpose: The calls of a driver session and what a driver answers them.
Main exports: Call, Call.Answer, Driver
-/
import TilerMapping.Buffer
import TilerMapping.IoFault

namespace TilerMapping

/-- A call on a session with the tiler driver. -/
inductive Call where
  | openSession
  /-- Ask for format and extent of the block at the driver pointer of `block`. -/
  | queryBlock (block : Block)
  /-- Register the blocks of `buffer` as one buffer. -/
  | register (buffer : Buffer)
  /-- Ask for the blocks registered under the name of `buffer`. -/
  | queryBuffer (buffer : Buffer)
  /-- Give up the registration of `buffer`. -/
  | unregister (buffer : Buffer)
  /-- Map bytes of a registered buffer, for reading and writing and shared with others. -/
  | map (size : ByteCount) (id : BufferId)
  | unmap (region : Region)
  | closeSession
deriving Repr, DecidableEq

/-- What a call answers.  A query answers the block as it is afterwards; the driver pointer
zero means that the driver does not know the block.  A registration and a buffer query answer
the buffer as it is afterwards. -/
@[reducible] def Call.Answer : Call → Type
  | .openSession => Except IoFault Unit
  | .queryBlock _ => Except IoFault Block
  | .register _ => Except IoFault Buffer
  | .queryBuffer _ => Except IoFault Buffer
  | .unregister _ => Except IoFault Unit
  | .map _ _ => Except IoFault Region
  | .unmap _ => Except IoFault Unit
  | .closeSession => Unit

/-- A tiler driver with states `σ`: how it answers each call, and the state it is in
afterwards. -/
abbrev Driver (σ : Type) := (request : Call) → σ → request.Answer × σ

end TilerMapping
