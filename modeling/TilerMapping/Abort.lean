/-
Module: TilerMapping.Abort
Purpose: The faults that end a call without an answer.
Main exports: Abort, Abort.message
-/

namespace TilerMapping

/-- Why a call was abandoned.  Unlike a fault, an abort is not an answer of the call: it
unwinds it, and only the open session is still closed on the way out. -/
inductive Abort where
  /-- A sum of addresses or sizes left the address space. -/
  | addOverflow
  /-- Buffer id zero, which no registration has, was to be recorded. -/
  | zeroBufferId
  /-- The first block of a buffer without blocks was asked for. -/
  | noFirstBlock
  /-- The receiver of log records failed. -/
  | loggerFailed
deriving Repr, DecidableEq

/-- The text reported for an abort. -/
def Abort.message : Abort → String
  | .addOverflow => "attempt to add with overflow"
  | .zeroBufferId =>
      "assertion `left != right` failed: buffer id 0 is never registered\n  left: 0\n right: 0"
  | .noFirstBlock => "index out of bounds: the len is 0 but the index is 0"
  | .loggerFailed => "logger failed"

end TilerMapping
