/-
Module: TilerMapping.ScriptedKernel
Purpose: An operating system that answers system calls from a list of replies.
Main exports: Reply, Script, Script.answer
-/
import TilerMapping.Device

namespace TilerMapping

/-- One reply to a system call on the open device. -/
structure Reply where
  /-- The error number, if the call fails. -/
  errno? : Option Errno := none
  /-- The result of a call that succeeds. -/
  value : UInt64 := 0
  /-- What the device does to a block record. -/
  setBlock : BlockRecord → BlockRecord := id
  /-- What the device does to a buffer record. -/
  setBuffer : BufferRecord → BufferRecord := id

/-- A result, unless the reply is a failure. -/
def Reply.result {α : Type} (reply : Reply) (value : α) : Except Errno α :=
  match reply.errno? with
  | some code => .error code
  | none => .ok value

/-- The replies still to be given, and how opening the device is answered. -/
structure Script where
  openErrno? : Option Errno := none
  replies : List Reply := []

namespace Script

/-- The reply after the last one: the call fails. -/
def exhausted : Reply := { errno? := some Errno.ioError }

/-- The next reply, and the script without it. -/
def next (script : Script) : Reply × Script :=
  match script.replies with
  | [] => (exhausted, script)
  | reply :: rest => (reply, { script with replies := rest })

/-- How a script answers.  Opening and closing the device use up no reply. -/
def answer : Kernel Script
  | .openFile _ _, script =>
    (match script.openErrno? with
      | some code => .error code
      | none => .ok (), script)
  | .controlBlock _ record, script =>
    (Reply.result script.next.1 (script.next.1.setBlock record), script.next.2)
  | .controlBuffer _ record, script =>
    (Reply.result script.next.1 (script.next.1.setBuffer record), script.next.2)
  | .mapMemory _ _ _ _ _, script =>
    (Reply.result script.next.1 script.next.1.value, script.next.2)
  | .unmapMemory _ _, script => (Reply.result script.next.1 (), script.next.2)
  | .closeFile, script => ((), script)

end Script

end TilerMapping
