/-
Module: TilerMapping.Fault
Purpose: The faults that a remap or demap answers, their texts and their status codes.
Main exports: Fault, Fault.message, Fault.cause, Fault.status
-/
import TilerMapping.Buffer
import TilerMapping.Geometry
import TilerMapping.IoFault

namespace TilerMapping

/-- Why a remap or demap did not succeed.  Blocks are named by their index in the call. -/
inductive Fault where
  | blockCount (count : Nat)
  | lengthCount (pointers lengths : Nat)
  /-- The device pointer has no driver pointer. -/
  | noDriverAddress (index : Nat) (devicePtr : DevicePtr)
  | blockQuery (index : Nat) (source : IoFault)
  /-- The driver denies the block; the pointers are the caller's and the one queried. -/
  | unallocated (index : Nat) (devicePtr : DevicePtr) (driverPtr : DriverPtr)
  | geometry (index : Nat) (source : GeometryFault)
  | registration (source : IoFault)
  /-- The driver registered a buffer but did not name it. -/
  | unnamedBuffer
  | mapping (size : ByteCount) (offset : BufferId) (source : IoFault)
  | unknownAddress (address : Address)
  | bufferQuery (source : IoFault)
  | unregistration (source : IoFault)
  | unmapping (address : Address) (size : ByteCount) (source : IoFault)
  /-- No session could be opened. -/
  | session (source : IoFault)
  /-- Several faults of one call, in the order they arose. -/
  | several (faults : List Fault)
deriving Repr, Inhabited

namespace Fault

/-- The input or output fault behind a fault, where there is exactly one. -/
def ioSource? : Fault → Option IoFault
  | .blockQuery _ source => some source
  | .registration source => some source
  | .mapping _ _ source => some source
  | .bufferQuery source => some source
  | .unregistration source => some source
  | .unmapping _ _ source => some source
  | .session source => some source
  | _ => none

/-- The text of the fault behind a fault. -/
def cause : Fault → Option String
  | .geometry _ source => some source.message
  | fault => fault.ioSource?.map (·.message)

mutual

/-- The text reported for a fault. -/
def message : Fault → String
  | .blockCount count =>
      "Invalid block count: " ++ Numeral.decimal count ++ " (expected 1..=" ++
        Numeral.decimal maxBlocks ++ ")"
  | .lengthCount pointers lengths =>
      "Got " ++ Numeral.decimal pointers ++ " device pointers but " ++
        Numeral.decimal lengths ++ " lengths"
  | .noDriverAddress index devicePtr =>
      "Device pointer " ++ Numeral.hexadecimal devicePtr.toNat ++ " (block " ++
        Numeral.decimal index ++ ") has no driver address"
  | .blockQuery index source =>
      "Tiler query for block " ++ Numeral.decimal index ++ " failed: " ++ source.message
  | .unallocated index devicePtr driverPtr =>
      "Tiler did not allocate block " ++ Numeral.decimal index ++ " (dsptr=" ++
        Numeral.hexadecimal devicePtr.toNat ++ ", ssptr=" ++
        Numeral.hexadecimal driverPtr.toNat ++ ")"
  | .geometry index source =>
      "Inconsistent geometry for block " ++ Numeral.decimal index ++ ": " ++ source.message
  | .registration source => "Tiler buffer registration failed: " ++ source.message
  | .unnamedBuffer => "Tiler returned an invalid buffer id"
  | .mapping size offset source =>
      "Failed to map " ++ Numeral.decimal size.toNat ++ " bytes at offset " ++
        Numeral.hexadecimal offset.toNat ++ ": " ++ source.message
  | .unknownAddress address => "No remapped buffer at " ++ Numeral.hexadecimal address.toNat
  | .bufferQuery source => "Tiler buffer query failed: " ++ source.message
  | .unregistration source => "Tiler buffer unregistration failed: " ++ source.message
  | .unmapping address size source =>
      "Failed to unmap " ++ Numeral.decimal size.toNat ++ " bytes at " ++
        Numeral.hexadecimal address.toNat ++ ": " ++ source.message
  | .session source => "I/O Error: " ++ source.message
  | .several faults => "Multiple failures: " ++ "; ".intercalate (messages faults)

/-- The texts of several faults. -/
def messages : List Fault → List String
  | [] => []
  | fault :: rest => fault.message :: messages rest

end

/-- The status of a failure without a positive error number. -/
def genericStatus : Int32 := -1

/-- The status that stands for an error number. -/
def statusOfErrno : Option Errno → Int32
  | some code => if 0 < code then -code else genericStatus
  | none => genericStatus

/-- The negative status of a fault: that of the error number behind it, and for several
faults that of the first. -/
def status : Fault → Int32
  | .several (first :: _) => first.status
  | fault => statusOfErrno (fault.ioSource?.bind (·.errno?))

end Fault

end TilerMapping
