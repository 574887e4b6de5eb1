import CardBarrier.Event

/-!
# The event log

An `EventLog` keeps the events that it is given, as long as it is switched on
and the event is no less important than its settings ask for, and prints a line
for each one it keeps if it has a console. The line is made first: where it
does not exist, nothing is printed and nothing kept.

What was printed stays part of the log (`EventLog.printed`), with the time left
open: a line knows only that a time goes in front of it.
-/

namespace CardBarrier

/-- **A line for the console.** -/
structure Line where
  /-- The time goes in front. -/
  stamped : Bool
  /-- The rest of the line. -/
  text : String
  deriving DecidableEq

namespace Line

/-- The line at a given time. -/
def render (time : String) (l : Line) : String :=
  if l.stamped then s!"[{time}] {l.text}" else l.text

end Line

/-- **What a log keeps, and how it prints.** -/
structure LogSettings where
  /-- The least important level that is kept. -/
  level : Level := .info
  /-- There is a console. -/
  console : Bool := true
  /-- Lines are JSON objects. -/
  json : Bool := false
  /-- Lines begin with the time. -/
  timestamps : Bool := true
  deriving DecidableEq, Inhabited

/-- **A log of events.** -/
structure EventLog where
  /-- What it keeps. -/
  settings : LogSettings := {}
  /-- It is switched on. -/
  enabled : Bool := true
  /-- The events kept, oldest first. -/
  events : List Event := []
  /-- The lines printed, oldest first. -/
  printed : List Line := []

namespace EventLog

/-- The log keeps events like this one. -/
def keeps (l : EventLog) (e : Event) : Bool :=
  l.enabled && l.settings.level.admits e.level

/-- The lines that an event is printed as: one, or none without a console. -/
def linesOf (s : LogSettings) (e : Event) : Except Fault (List Line) :=
  if s.console then do
    let text ← if s.json then .ok e.json else e.human
    return [⟨s.timestamps, text⟩]
  else .ok []

/-- **Gives an event to the log.** -/
def add (e : Event) (l : EventLog) : Except Fault EventLog :=
  if l.keeps e then do
    let lines ← linesOf l.settings e
    return { l with events := l.events ++ [e], printed := l.printed ++ lines }
  else .ok l

/-- The events that a log takes if it is given one: that one, or none. -/
def taken (l : EventLog) (e : Event) : List Event := if l.keeps e then [e] else []

/-- **A log takes an event or does not**, and prints what it takes; it stops where there is no line
to print. -/
theorem add_eq_ok_iff {e : Event} {l l' : EventLog} : l.add e = .ok l' ↔
    ∃ lines, (if l.keeps e then linesOf l.settings e else .ok []) = .ok lines ∧
      l' = { l with events := l.events ++ l.taken e, printed := l.printed ++ lines } := by
  unfold add taken
  cases l.keeps e with
  | false =>
    simp only [Bool.false_eq_true, if_false, Except.ok.injEq, exists_eq_left', List.append_nil]
    exact eq_comm
  | true => cases linesOf l.settings e <;> simp [bind, Except.bind, pure, Except.pure, eq_comm]

/-- Switches the log on. -/
def switchOn (l : EventLog) : EventLog := { l with enabled := true }

/-- Switches the log off. -/
def switchOff (l : EventLog) : EventLog := { l with enabled := false }

/-- Forgets the events kept so far. -/
def forget (l : EventLog) : EventLog := { l with events := [] }

/-- A fresh log with other settings; what was printed stays printed. -/
def restart (s : LogSettings) (l : EventLog) : EventLog :=
  { settings := s, printed := l.printed }

/-- How many events are kept. -/
def count (l : EventLog) : Nat := l.events.length

end EventLog

end CardBarrier
