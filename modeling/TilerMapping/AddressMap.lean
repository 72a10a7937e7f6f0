/-
Module: TilerMapping.AddressMap
Purpose: Fit of device pointers to driver pointers.
Main exports: AddressMap, AddressMap.identity, AddressMap.offset, AddressMap.ofPairs
-/
import TilerMapping.Word

namespace TilerMapping

/-- The driver pointer of each device pointer.  Zero means that no tiler block is behind the
device pointer. -/
abbrev AddressMap := DevicePtr → DriverPtr

namespace AddressMap

/-- Device and driver share one address space. -/
def identity : AddressMap := id

/-- The driver's address space is displaced, and nothing lies below a limit on the device's
side. -/
def offset (limit displacement : UInt32) : AddressMap :=
  fun pointer => if pointer < limit then 0 else pointer + displacement

/-- Pointers are resolved pair by pair.  The first pair of a device pointer counts, and one
without a pair has no driver pointer. -/
def ofPairs (pairs : List (DevicePtr × DriverPtr)) : AddressMap :=
  fun pointer => (pairs.lookup pointer).getD 0

end AddressMap

end TilerMapping
