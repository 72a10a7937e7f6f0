/-
Module: TilerMapping.CommandLine.FaultForm
Purpose: The form in which the command line shows faults: their names and fields.
Main exports: Errno.kindName, IoFault.form, GeometryFault.form, Fault.form
-/
import TilerMapping.Fault
import TilerMapping.Text.Quoted

namespace TilerMapping

/-- A name with named fields. -/
def namedForm (name : String) (fields : List (String × String)) : String :=
  name ++ " \x7b " ++
    ", ".intercalate (fields.map fun field => field.1 ++ ": " ++ field.2) ++ " \x7d"

/-- A name with fields in brackets. -/
def bracketForm (name : String) (fields : List String) : String :=
  name ++ "(" ++ ", ".intercalate fields ++ ")"

/-- The kinds of error that error numbers stand for. -/
def Errno.kinds : List (Nat × String) :=
  [(1, "PermissionDenied"), (2, "NotFound"), (4, "Interrupted"), (7, "ArgumentListTooLong"),
   (11, "WouldBlock"), (12, "OutOfMemory"), (13, "PermissionDenied"), (16, "ResourceBusy"),
   (17, "AlreadyExists"), (18, "CrossesDevices"), (20, "NotADirectory"), (21, "IsADirectory"),
   (22, "InvalidInput"), (26, "ExecutableFileBusy"), (27, "FileTooLarge"),
   (28, "StorageFull"), (29, "NotSeekable"), (30, "ReadOnlyFilesystem"), (31, "TooManyLinks"),
   (32, "BrokenPipe"), (35, "Deadlock"), (36, "InvalidFilename"), (38, "Unsupported"),
   (39, "DirectoryNotEmpty"), (40, "FilesystemLoop"), (95, "Unsupported"), (98, "AddrInUse"),
   (99, "AddrNotAvailable"), (100, "NetworkDown"), (101, "NetworkUnreachable"),
   (103, "ConnectionAborted"), (104, "ConnectionReset"), (107, "NotConnected"),
   (110, "TimedOut"), (111, "ConnectionRefused"), (113, "HostUnreachable"),
   (115, "InProgress"), (116, "StaleNetworkFileHandle"), (122, "QuotaExceeded")]

/-- The kind of error that a number stands for. -/
def Errno.kindName (code : Errno) : String :=
  if code < 0 then "Uncategorized"
  else (Errno.kinds.lookup code.toInt.toNat).getD "Uncategorized"

/-- The name of a kind of fault. -/
def IoFault.Kind.name : IoFault.Kind → String
  | .other => "Other"
  | .invalidInput => "InvalidInput"
  | .invalidData => "InvalidData"

/-- The form of an input or output fault. -/
def IoFault.form : IoFault → String
  | .os code =>
      namedForm "Os" [("code", Numeral.signedDecimal code.toInt), ("kind", code.kindName),
        ("message", Text.quote code.description)]
  | .described kind text =>
      namedForm "Custom" [("kind", kind.name), ("error", Text.quote text)]

/-- The form of a geometry fault. -/
def GeometryFault.form : GeometryFault → String
  | .zeroLength => "ZeroLength"
  | .zeroHeight => "ZeroHeight"
  | .notAnArea => "NotAnAreaBlock"
  | .noPageWidth min max =>
      namedForm "EmptyPageWidthRange"
        [("min", Numeral.decimal min.toNat), ("max", Numeral.decimal max.toNat)]
  | .sizeDiffers expected actual =>
      namedForm "SizeMismatch"
        [("expected", Numeral.decimal expected.toNat), ("actual", Numeral.decimal actual.toNat)]

namespace Fault

mutual

/-- The form of a fault. -/
def form : Fault → String
  | .blockCount count => bracketForm "InvalidBlockCount" [Numeral.decimal count]
  | .lengthCount pointers lengths =>
      namedForm "LengthCountMismatch"
        [("pointers", Numeral.decimal pointers), ("lengths", Numeral.decimal lengths)]
  | .noDriverAddress index devicePtr =>
      namedForm "Translation"
        [("index", Numeral.decimal index), ("dsptr", Numeral.decimal devicePtr.toNat)]
  | .blockQuery index source =>
      namedForm "DriverQuery" [("index", Numeral.decimal index), ("source", source.form)]
  | .unallocated index devicePtr driverPtr =>
      namedForm "UnallocatedBlock"
        [("index", Numeral.decimal index), ("dsptr", Numeral.decimal devicePtr.toNat),
          ("ssptr", Numeral.decimal driverPtr.toNat)]
  | .geometry index source =>
      namedForm "Geometry" [("index", Numeral.decimal index), ("source", source.form)]
  | .registration source => bracketForm "Registration" [source.form]
  | .unnamedBuffer => "InvalidBufferId"
  | .mapping size offset source =>
      namedForm "Mapping"
        [("size", Numeral.decimal size.toNat), ("offset", Numeral.decimal offset.toNat),
          ("source", source.form)]
  | .unknownAddress address => bracketForm "CacheMiss" [Numeral.decimal address.toNat]
  | .bufferQuery source => bracketForm "BufferQuery" [source.form]
  | .unregistration source => bracketForm "Unregistration" [source.form]
  | .unmapping address size source =>
      namedForm "Unmap"
        [("addr", Numeral.decimal address.toNat), ("size", Numeral.decimal size.toNat),
          ("source", source.form)]
  | .session source => bracketForm "Io" [source.form]
  | .several faults => bracketForm "Compound" ["[" ++ ", ".intercalate (forms faults) ++ "]"]

/-- The forms of several faults. -/
def forms : List Fault → List String
  | [] => []
  | fault :: rest => fault.form :: forms rest

end

end Fault

end TilerMapping
