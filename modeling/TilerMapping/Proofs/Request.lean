/-
Module: TilerMapping.Proofs.Request
Purpose: The calls that clients make, as one type.
Main exports: Request, Request.program, Request.target, Outcome, Outcome.Answers, Outcome.mapped?
-/
import TilerMapping.Demap
import TilerMapping.Remap

namespace TilerMapping

/-- A call that a client makes. -/
inductive Request where
  | remap (addresses : AddressMap) (devicePtrs : List DevicePtr) (lengths : List UInt32)
  | remapPtr (addresses : AddressMap) (devicePtrs : List DevicePtr) (lengths : List UInt32)
  | demap (address : Address)
  | demapStatus (address : Address)

/-- What a client gets back from a call. -/
inductive Outcome where
  | mapped (result : Except Stop MappedBuffer)
  | pointer (result : Except Abort Address)
  | released (result : Except Fault Unit)
  | status (code : Int32)

namespace Request

/-- The program of a call. -/
def program : Request → Program Outcome
  | .remap addresses devicePtrs lengths =>
      .mapped <$> TilerMapping.remap addresses devicePtrs lengths
  | .remapPtr addresses devicePtrs lengths =>
      .pointer <$> TilerMapping.remapPtr addresses devicePtrs lengths
  | .demap address => .released <$> TilerMapping.demap address
  | .demapStatus address => .status <$> TilerMapping.demapStatus address

/-- The address that a call demaps, if it demaps any. -/
def target : Request → Option Address
  | .remap _ _ _ => none
  | .remapPtr _ _ _ => none
  | .demap address => some address
  | .demapStatus address => some address

end Request

/-- A remap has handed the address back to its client. -/
def Outcome.Answers (outcome : Outcome) (address : Address) : Prop :=
  match outcome with
  | .mapped (.ok buffer) => buffer.address = address
  | .pointer (.ok answered) => answered = address
  | _ => False

/-- The buffer that a remap has handed back. -/
def Outcome.mapped? : Outcome → Option MappedBuffer
  | .mapped (.ok buffer) => some buffer
  | _ => none

theorem Outcome.mapped?_eq_some_iff {outcome : Outcome} {buffer : MappedBuffer} :
    outcome.mapped? = some buffer ↔ outcome = .mapped (.ok buffer) := by
  constructor
  · intro known
    unfold mapped? at known
    split at known
    · cases known
      rfl
    · cases known
  · rintro rfl
    rfl

end TilerMapping
