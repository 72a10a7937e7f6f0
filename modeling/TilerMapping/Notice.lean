/-
Module: TilerMapping.Notice
Purpose: Log records of remapping and demapping.
Main exports: LogLevel, Notice, Notice.level, Notice.text, Logger
-/
import TilerMapping.Fault

namespace TilerMapping

/-- The weight of a log record. -/
inductive LogLevel where
  | debug
  | info
  | warn
  | error
deriving Repr, DecidableEq

/-- The name of a level. -/
def LogLevel.name : LogLevel → String
  | .debug => "DEBUG"
  | .info => "INFO"
  | .warn => "WARN"
  | .error => "ERROR"

/-- What a call reports about its progress, beside its answer. -/
inductive Notice where
  | geometry (notice : GeometryNotice)
  /-- A block goes out to a query, and comes back. -/
  | blockQuery (block : Block)
  | blockReply (block : Block)
  /-- A buffer goes out to be registered, and comes back. -/
  | registration (buffer : Buffer)
  | registrationReply (buffer : Buffer)
  /-- A buffer goes out to a query, and comes back. -/
  | bufferQuery (buffer : Buffer)
  | bufferReply (buffer : Buffer)
  /-- A buffer goes out to be unregistered, and that has been tried. -/
  | unregistration (buffer : Buffer)
  | unregistrationReply (buffer : Buffer)
  | remapped (address : Address)
  | sessionRefused (source : IoFault)
  | remapFailed (fault : Fault)
  | demapFailed (address : Address) (fault : Fault)
  /-- An address was recorded while it still stood for another buffer. -/
  | entryReplaced (address : Address) (previous : BufferId)
deriving Repr

namespace Notice

/-- The weight of a record. -/
def level : Notice → LogLevel
  | .geometry (.widthLowered _ _) => .info
  | .geometry (.strideAmbiguous _ _) => .warn
  | .entryReplaced _ _ => .warn
  | .sessionRefused _ => .error
  | .remapFailed _ => .error
  | .demapFailed _ _ => .error
  | _ => .debug

/-- The text of a record. -/
def text : Notice → String
  | .geometry (.widthLowered bound capacity) =>
      "lowering max_page_width from " ++ Numeral.decimal bound.toNat ++ " to " ++
        Numeral.decimal capacity.toNat
  | .geometry (.strideAmbiguous narrowest widest) =>
      "cannot resolve stride (" ++ Numeral.decimal narrowest.toNat ++ "-" ++
        Numeral.decimal widest.toNat ++ "). Choosing the smaller."
  | .blockQuery block => "=(qb)=> " ++ block.render
  | .blockReply block => "<=(qb)= " ++ block.render
  | .registration buffer => "==(RBUF)=> " ++ buffer.render
  | .registrationReply buffer => "<=(RBUF)== " ++ buffer.render
  | .bufferQuery buffer => "==(QBUF)=> " ++ buffer.render
  | .bufferReply buffer => "<=(QBUF)== " ++ buffer.render
  | .unregistration buffer => "==(URBUF)=> " ++ buffer.render
  | .unregistrationReply buffer => "<=(URBUF)== " ++ buffer.render
  | .remapped address => "remap: ptr=" ++ Numeral.hexadecimal address.toNat
  | .sessionRefused source => "remap: cannot open tiler session: " ++ source.message
  | .remapFailed fault => "remap failed: " ++ fault.message
  | .demapFailed address fault =>
      "demap " ++ Numeral.hexadecimal address.toNat ++ " failed: " ++ fault.message
  | .entryReplaced address previous =>
      "remap cache: " ++ Numeral.hexadecimal address.toNat ++ " was still tracking buffer " ++
        Numeral.hexadecimal previous.toNat

end Notice

/-- A receiver of log records, by the records on which it fails. -/
structure Logger where
  fails : Notice → Bool := fun _ => false

/-- The receiver that takes every record. -/
def Logger.reliable : Logger := {}

/-- The receiver that fails on records of one level. -/
def Logger.failingAt (level : LogLevel) : Logger := { fails := fun notice => notice.level == level }

end TilerMapping
