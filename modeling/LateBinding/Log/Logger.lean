import LateBinding.Log.Level

/-!
# Records and loggers

A logger is a threshold together with a destination. A record that the threshold
admits is delivered to the destination that is set at that moment; any other record
disappears. The standard destination writes one line per record.
-/

namespace LateBinding.Log

/-- A text at a level: what a component reports about its own work. -/
structure Message where
  level : Level
  text : String
deriving DecidableEq

/-- The place in a program that a record comes from. -/
structure Site where
  target : String
  file : String
  line : Nat
deriving DecidableEq

/-- A message with the place it comes from. -/
structure Record where
  message : Message
  site : Site
deriving DecidableEq

/-- The line written for a record, with its line end. -/
def Record.line (record : Record) : String :=
  "[objrt @ " ++ record.site.file ++ ":" ++ toString record.site.line ++ "] " ++
    record.message.level.label ++ " " ++ record.site.target ++ ": " ++ record.message.text ++ "\n"

/-- Where records go: a numbered collector, or the standard error stream. -/
inductive Destination where
  | collector (number : Nat)
  | standardError
deriving DecidableEq

/-- A threshold and a destination. -/
structure Logger where
  threshold : Level
  destination : Destination
deriving DecidableEq

namespace Logger

/-- Whether a record at this level would be delivered. -/
def enabled (logger : Logger) (level : Level) : Bool :=
  logger.threshold.admits level

/-- The destination a record is delivered to, or none if the threshold holds it back. -/
def deliver (logger : Logger) (record : Record) : Option Destination :=
  if logger.enabled record.message.level then some logger.destination else none

/-- Sets the threshold by name. A text that names no level changes nothing. -/
def setThresholdByName (logger : Logger) (text : String) : Except String Logger :=
  return { logger with threshold := ← Level.read text }

end Logger

end LateBinding.Log
