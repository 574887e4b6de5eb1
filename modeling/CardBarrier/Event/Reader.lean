import CardBarrier.Event
import CardBarrier.Json.Reader

/-!
# Events read back

A program that is given the lines of an event log finds in each of them the kind of an event and,
by their names, what the event says. The order of the members does not matter, and members that
an event of that kind does not have are passed over.
-/

namespace CardBarrier

/-- Counters from a value that has each of them by name. -/
def Tally.ofJson? (v : JsonValue) : Option Tally :=
  return {
    writes := ← v.wordAt? "array_writes"
    marks := ← v.wordAt? "regions_marked"
    forcedMarks := ← v.wordAt? "invalidations"
    markedAtOnce := ← v.wordAt? "immediate_marks"
    deferred := ← v.wordAt? "deferred_marks"
    flushed := ← v.wordAt? "deferred_flushes"
    referenceFree := ← v.wordAt? "skipped_reference_free"
    young := ← v.wordAt? "skipped_young"
    drains := ← v.wordAt? "flush_all_passes" }

namespace Event

/-- An event from a value that has its kind and its members by name. -/
def ofJson? (v : JsonValue) : Option Event := do
  match ← v.textAt? "type" with
  | "policy_initialized" =>
    return .setUp (← v.textAt? "card_store") (← v.boolAt? "deferral_enabled")
      (← v.boolAt? "strict_ordering") (← v.wordAt? "card_size")
  | "deferred_flush" =>
    return .flushed (← v.wordAt? "start") (← v.wordAt? "end") (← v.textAt? "reason")
  | "thread_detached" => return .detached (← v.boolAt? "flushed")
  | "flush_all" => return .drained (← v.wordAt? "threads") (← v.wordAt? "flushed")
  | "stats" => return .counted (← Tally.ofJson? (← v.member? "stats"))
  | _ => none

/-- **The event that a line tells of**, if it tells of one. -/
def read? (line : String) : Option Event := (JsonValue.read? line).bind ofJson?

end Event

end CardBarrier
