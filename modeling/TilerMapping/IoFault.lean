/-
Module: TilerMapping.IoFault
Purpose: Input and output faults, as a driver or the operating system reports them.
Main exports: IoFault, IoFault.errno?, IoFault.message
-/
import TilerMapping.Errno

namespace TilerMapping

/-- The kinds of fault that are raised with a text of their own. -/
inductive IoFault.Kind where
  | other
  | invalidInput
  | invalidData
deriving Repr, DecidableEq

/-- A fault of an input or output operation. -/
inductive IoFault where
  /-- A fault that the operating system reports by number. -/
  | os (code : Errno)
  /-- A fault found on this side, or by a driver that has no error numbers. -/
  | described (kind : IoFault.Kind) (text : String)
deriving Repr, DecidableEq

namespace IoFault

/-- The error number, where the operating system gave one. -/
def errno? : IoFault → Option Errno
  | .os code => some code
  | .described _ _ => none

/-- The text reported for the fault. -/
def message : IoFault → String
  | .os code =>
      Errno.description code ++ " (os error " ++ Numeral.signedDecimal code.toInt ++ ")"
  | .described _ text => text

end IoFault

end TilerMapping
