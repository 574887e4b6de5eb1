import CardBarrier.FlushPoint
import CardBarrier.Level
import CardBarrier.Text.Numeral
import CardBarrier.Text.Quoted

/-!
# Diagnostics

Besides the events that the event log keeps, a barrier says what it is doing
in one-line diagnostics, each with a level: how a policy was resolved, which
marks were deferred and flushed, which settings of the environment were
passed over. They are recorded by what they say; `Diagnostic.message` words
them.
-/

namespace CardBarrier

/-- **A remark on what a barrier does.** -/
inductive Diagnostic where
  /-- A mutator attached. -/
  | attached (id : UInt64)
  /-- A policy was resolved. -/
  | resolved (defers ordersMarks reducesInitialMarks : Bool)
  /-- A mark was deferred. -/
  | deferred (object : Address) (region : Interval)
  /-- A deferred mark was flushed. -/
  | flushed (region : Interval) (point : FlushPoint)
  /-- Every thread was drained. -/
  | drained (threads marks : Nat)
  /-- A barrier is being installed. -/
  | installing (name : String)
  /-- A switch in the environment was passed over. -/
  | ignoredSwitch (name value : String)
  /-- A number in the environment was passed over. -/
  | ignoredNumber (name value : String)
  deriving DecidableEq

namespace Diagnostic

/-- How important a remark is. -/
def level : Diagnostic → Level
  | attached _ | deferred .. | flushed .. => .trace
  | resolved .. | drained .. | installing _ => .debug
  | ignoredSwitch .. | ignoredNumber .. => .warn

/-- The wording of a remark. -/
def message : Diagnostic → String
  | attached id => s!"mutator {id} attached"
  | resolved defers ordersMarks reduces =>
    s!"card mark policy: deferral={defers} strict_ordering={ordersMarks} " ++
      s!"reduce_initial_card_marks={reduces}"
  | deferred object region => s!"deferred card mark for {hex object} over {region}"
  | flushed region point => s!"flushed deferred card mark {region} on {point.name}"
  | drained threads marks =>
    s!"flush-all visited {threads} threads, flushed {marks} deferred card marks"
  | installing name => s!"installing {name} barrier set"
  | ignoredSwitch name value => s!"Ignoring {name}={Text.quoted value}: expected a boolean"
  | ignoredNumber name value => s!"Ignoring {name}={Text.quoted value}: not a number"

/-- A remark with its level in front. -/
def render (d : Diagnostic) : String := s!"{d.level.name} {d.message}"

end Diagnostic

end CardBarrier
