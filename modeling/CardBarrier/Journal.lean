import CardBarrier.Diagnostic
import CardBarrier.EventLog

/-!
# What is said about the work of a barrier

There is one event log and one stream of diagnostics, whichever barrier is at
work. A `Journal` is both.
-/

namespace CardBarrier

/-- **An event log and the diagnostics so far.** -/
structure Journal where
  /-- The event log. -/
  log : EventLog := {}
  /-- The diagnostics, oldest first. -/
  remarks : List Diagnostic := []

namespace Journal

/-- Adds diagnostics. -/
def remarkAll (ds : List Diagnostic) (j : Journal) : Journal :=
  { j with remarks := j.remarks ++ ds }

/-- Gives an event to the log. -/
def keep (e : Event) (j : Journal) : Except Fault Journal :=
  return { j with log := ← j.log.add e }

/-- It is the log that takes the event, or stops at it. -/
theorem keep_eq_ok_iff {e : Event} {j k : Journal} :
    j.keep e = .ok k ↔ ∃ l, j.log.add e = .ok l ∧ k = { j with log := l } := by
  unfold keep
  cases j.log.add e <;> simp [bind, Except.bind, pure, Except.pure, eq_comm]

end Journal

end CardBarrier
