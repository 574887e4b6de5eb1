/-!
# Levels of importance

What a barrier reports has a level, from an error to a trace of every detail.
A reader sets the level up to which reports are kept, so the order is by how
much is let through and not by gravity.
-/

namespace CardBarrier

/-- **How important a report is.** -/
inductive Level where
  /-- Something failed. -/
  | error
  /-- Something was passed over. -/
  | warn
  /-- Rare and worth knowing. -/
  | info
  /-- Of interest when something is looked into. -/
  | debug
  /-- Every detail. -/
  | trace
  deriving DecidableEq, Inhabited

namespace Level

/-- How far down a level is. -/
def rank : Level → Nat
  | error => 0
  | warn => 1
  | info => 2
  | debug => 3
  | trace => 4

/-- The level lets through everything of the other. -/
def admits (limit level : Level) : Bool := level.rank ≤ limit.rank

/-- The name of a level. -/
def name : Level → String
  | error => "ERROR"
  | warn => "WARN"
  | info => "INFO"
  | debug => "DEBUG"
  | trace => "TRACE"

end Level

end CardBarrier
