import CardBarrier.Json
import CardBarrier.Level
import CardBarrier.Tally

/-!
# Events

The rare things that happen to a barrier are events: a policy comes into
force, a deferred mark is flushed, a thread detaches, every thread is drained,
the counters are reported. Each has a level, a sentence for people
(`Event.human`) and a JSON object for programs (`Event.json`), whose members
are sorted by name and one of which says of which kind the event is.

The sentence on the counters adds two of them up, so it is the one that may
not exist; the object always does.
-/

namespace CardBarrier

/-- **Something worth keeping that happened to a barrier.** -/
inductive Event where
  /-- A policy came into force over a card store. -/
  | setUp (store : String) (defers ordersMarks : Bool) (cardBytes : UInt64)
  /-- A deferred mark was flushed. -/
  | flushed (start stop : Address) (reason : String)
  /-- A thread detached, with or without a mark to flush. -/
  | detached (found : Bool)
  /-- So many threads were drained, and so many had a mark to flush. -/
  | drained (threads marks : UInt64)
  /-- The counters were reported. -/
  | counted (counters : Tally)
  deriving DecidableEq

namespace Tally

/-- The counters by name, in the order in which counters are listed. -/
def json (t : Tally) : JsonValue := .object
  [("array_writes", .word t.writes),
    ("regions_marked", .word t.marks),
    ("invalidations", .word t.forcedMarks),
    ("immediate_marks", .word t.markedAtOnce),
    ("deferred_marks", .word t.deferred),
    ("deferred_flushes", .word t.flushed),
    ("skipped_reference_free", .word t.referenceFree),
    ("skipped_young", .word t.young),
    ("flush_all_passes", .word t.drains)]

end Tally

namespace Event

/-- How important an event is. -/
def level : Event → Level
  | setUp .. | counted _ => .info
  | detached _ | drained .. => .debug
  | flushed .. => .trace

/-- **An event in a sentence.** The sum in the one on the counters must not
leave the word. -/
def human : Event → Except Fault String
  | setUp store defers ordersMarks cardBytes =>
    .ok (s!"[Barrier] Card marking over {store} ({cardBytes} byte cards, " ++
      s!"deferral={defers}, strict_ordering={ordersMarks})")
  | flushed start stop reason =>
    .ok s!"[Barrier] Flushed deferred mark [{hex start}, {hex stop}) on {reason}"
  | detached found =>
    .ok s!"[Barrier] Thread detached (flushed pending mark: {found})"
  | drained threads marks =>
    .ok s!"[Barrier] Flush-all: {threads} threads visited, {marks} deferred marks flushed"
  | counted t => do
    let skipped ← t.skipped
    return s!"[Barrier] Stats: {t.writes} array writes, {t.markedAtOnce} immediate, " ++
      s!"{t.deferred} deferred, {t.flushed} flushed, {skipped} skipped"

/-- The members of an event, the kind first. -/
def members : Event → List (String × JsonValue)
  | setUp store defers ordersMarks cardBytes =>
    [("type", .text "policy_initialized"), ("card_store", .text store),
      ("deferral_enabled", .bool defers), ("strict_ordering", .bool ordersMarks),
      ("card_size", .word cardBytes)]
  | flushed start stop reason =>
    [("type", .text "deferred_flush"), ("start", .word start), ("end", .word stop),
      ("reason", .text reason)]
  | detached found =>
    [("type", .text "thread_detached"), ("flushed", .bool found)]
  | drained threads marks =>
    [("type", .text "flush_all"), ("threads", .word threads), ("flushed", .word marks)]
  | counted t => [("type", .text "stats"), ("stats", t.json)]

/-- **An event as a JSON object**, its members sorted by name. -/
def json (e : Event) : String := (JsonValue.object e.members).sortKeys.render

end Event

end CardBarrier
