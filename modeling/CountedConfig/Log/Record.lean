/-
Log records and the levels that order them by importance.
-/
import CountedConfig.Text.Plain

namespace CountedConfig

/-- The importance of a record, the most important first. -/
inductive Level where
  | error
  | warn
  | info
  | debug
  | trace
  deriving DecidableEq, Repr

namespace Level

def rank : Level → Nat
  | .error => 1
  | .warn => 2
  | .info => 3
  | .debug => 4
  | .trace => 5

def name : Level → Text
  | .error => "ERROR".toList
  | .warn => "WARN".toList
  | .info => "INFO".toList
  | .debug => "DEBUG".toList
  | .trace => "TRACE".toList

end Level

/-- The least important level that is let through, or nothing at all. -/
abbrev Threshold := Option Level

namespace Threshold

def rank : Threshold → Nat
  | none => 0
  | some level => level.rank

/-- A record passes when it is at least as important as the threshold. -/
def passes (threshold : Threshold) (level : Level) : Bool := level.rank ≤ threshold.rank

/-- The threshold that lets through what either of two lets through. -/
def max (a b : Threshold) : Threshold := if a.rank < b.rank then b else a

def name : Threshold → Text
  | none => "OFF".toList
  | some level => level.name

end Threshold

/-- A message, with the part of the program that it comes from. -/
structure Record where
  level : Level
  target : Text
  message : Text
  deriving DecidableEq, Repr

namespace Record

/-- The record as a log shows it: the lines of the message below each other, without
what would steer a terminal. -/
def plain (r : Record) : Record := { r with message := Text.plain (Text.indented r.message) }

end Record
end CountedConfig
