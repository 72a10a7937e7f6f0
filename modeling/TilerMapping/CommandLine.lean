/-
Module: TilerMapping.CommandLine
Purpose: The command that remaps the blocks given as arguments and releases them again.
Main exports: CommandLine.Output, CommandLine.readRequests, CommandLine.run,
  CommandLine.absentDevice
-/
import TilerMapping.CommandLine.FaultForm
import TilerMapping.Demap
import TilerMapping.Device
import TilerMapping.Remap

namespace TilerMapping.CommandLine

/-! ### Arguments -/

/-- Why an argument names no block. -/
inductive ArgumentFault where
  | noLength (argument : String)
  | number (fault : Numeral.ReadFault)
deriving Repr, DecidableEq

/-- The name of what is wrong with a numeral. -/
def readFaultName : Numeral.ReadFault → String
  | .empty => "Empty"
  | .invalidDigit => "InvalidDigit"
  | .positiveOverflow => "PosOverflow"

/-- The form in which an argument fault is shown. -/
def ArgumentFault.form : ArgumentFault → String
  | .noLength argument =>
      Text.quote ("expected <dsptr>:<length>, got " ++ argument)
  | .number fault => namedForm "ParseIntError" [("kind", readFaultName fault)]

/-- The parts of a text before and after its first colon. -/
def splitColon : List Char → Option (List Char × List Char)
  | [] => none
  | ':' :: rest => some ([], rest)
  | c :: rest => (splitColon rest).map fun parts => (c :: parts.1, parts.2)

/-- Read a numeral of an argument. -/
def readNumber (digits : List Char) : Except ArgumentFault UInt32 :=
  match Numeral.read digits with
  | .ok value => .ok value
  | .error fault => .error (.number fault)

/-- Read an argument as a device pointer and a byte length, with a colon between them. -/
def readRequest (argument : String) : Except ArgumentFault (DevicePtr × UInt32) :=
  match splitColon argument.toList with
  | none => .error (.noLength argument)
  | some (pointer, length) =>
    match readNumber pointer with
    | .error fault => .error fault
    | .ok devicePtr =>
      match readNumber length with
      | .error fault => .error fault
      | .ok bytes => .ok (devicePtr, bytes)

/-- Read all arguments.  The first one that names no block decides. -/
def readRequests : List String → Except ArgumentFault (List (DevicePtr × UInt32))
  | [] => .ok []
  | argument :: rest =>
    match readRequest argument with
    | .error fault => .error fault
    | .ok request =>
      match readRequests rest with
      | .error fault => .error fault
      | .ok requests => .ok (request :: requests)

/-! ### Output -/

/-- What a command leaves: its exit code and the texts on its two outputs. -/
structure Output where
  exit : UInt32 := 0
  stdout : String := ""
  stderr : String := ""
deriving Repr, DecidableEq

namespace Output

/-- Write a line to the output. -/
def print (output : Output) (line : String) : Output :=
  { output with stdout := output.stdout ++ line ++ "\n" }

/-- Write a line to the error output. -/
def complain (output : Output) (line : String) : Output :=
  { output with stderr := output.stderr ++ line ++ "\n" }

/-- End with an error. -/
def fail (output : Output) (form : String) : Output :=
  { output.complain ("Error: " ++ form) with exit := 1 }

end Output

/-- The part of the program that emits a log record. -/
def origin : Notice → String
  | .geometry _ => "tiler_remap::remap::geometry"
  | .entryReplaced _ _ => "tiler_remap::remap::cache"
  | .bufferQuery _ => "tiler_remap::remap::demap"
  | .bufferReply _ => "tiler_remap::remap::demap"
  | .unregistration _ => "tiler_remap::remap::demap"
  | .unregistrationReply _ => "tiler_remap::remap::demap"
  | .demapFailed _ _ => "tiler_remap::remap::demap"
  | _ => "tiler_remap::remap::remapper"

/-- The line of a log record on the error output. -/
def logLine (notice : Notice) : String :=
  "[" ++ notice.level.name ++ "] " ++ origin notice ++ ": " ++ notice.text

/-- Write log records to the error output. -/
def Output.logAll (output : Output) (notices : List Notice) : Output :=
  notices.foldl (fun output notice => output.complain (logLine notice)) output

/-! ### The command -/

/-- Describe a mapped buffer, block by block. -/
def describe (output : Output) (mapped : MappedBuffer) : Output :=
  let header := "    Buffer " ++ Numeral.hexadecimal mapped.id.toNat ++ " mapped at " ++
    Numeral.hexadecimal mapped.address.toNat ++ " (" ++
    Numeral.decimal mapped.size.toNat ++ " bytes)"
  mapped.blocks.zipIdx.foldl
    (fun output entry => output.print
      ("    Block " ++ Numeral.decimal entry.2 ++ ": " ++ entry.1.render))
    (output.print header)

variable {σ : Type}

/-- Release a buffer that was mapped. -/
def release (driver : Driver σ) (world : World σ) (address : Address) (output : Output) :
    Output :=
  let output := output.print "[+] Releasing buffer..."
  let ran := (demap address).run driver world
  let output := output.logAll ran.notices
  match ran.value with
  | .ok () => output.print "[+] Done."
  | .error fault => output.fail fault.form

/-- Remap blocks and release them again. -/
def remapAndRelease (driver : Driver σ) (world : World σ)
    (requests : List (DevicePtr × UInt32)) : Output :=
  let output : Output := {}
  let output := (output.print "[+] Opening tiler driver...").print
    ("[+] Remapping " ++ Numeral.decimal requests.length ++ " block(s)...")
  let ran := (remap AddressMap.identity (requests.map Prod.fst) (requests.map Prod.snd)).run
    driver world
  let output := output.logAll ran.notices
  match ran.value with
  | .ok mapped => release driver ran.world mapped.address (describe output mapped)
  | .error (.fault fault) => output.fail fault.form
  | .error (.abort abort) => { output.complain abort.message with exit := 101 }

/-- The command on a driver.  Nothing is written to the output before all arguments are
read. -/
def run (driver : Driver σ) (state : σ) (arguments : List String) : Output :=
  match readRequests arguments with
  | .error fault => ({} : Output).fail fault.form
  | .ok requests => remapAndRelease driver { driver := state } requests

/-- An operating system without a tiler device. -/
def absentDevice : Kernel Unit
  | .openFile _ _, _ => (.error Errno.noSuchFile, ())
  | .controlBlock _ _, _ => (.error Errno.badDescriptor, ())
  | .controlBuffer _ _, _ => (.error Errno.badDescriptor, ())
  | .mapMemory _ _ _ _ _, _ => (.error Errno.badDescriptor, ())
  | .unmapMemory _ _, _ => (.error Errno.invalidArgument, ())
  | .closeFile, _ => ((), ())

/-- The command where no tiler device exists. -/
def runAbsent (arguments : List String) : Output :=
  run (({} : Device).answer absentDevice) () arguments

end TilerMapping.CommandLine
