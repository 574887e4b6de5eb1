import CardBarrier.Fault

/-!
# What a barrier counts

A `Tally` is nine counters, one for each kind of event the barrier takes note
of. Counters are words and wrap, so a law about a counter holds modulo the size
of a word.

Two figures are read off a tally. The allocations that left the slow path are
those with any of four outcomes (`slowPath`), a sum that must not leave the
word; and the marks still outstanding are those deferred and not yet flushed
(`outstanding`).
-/

namespace CardBarrier

/-- **The counters of a barrier.** -/
structure Tally where
  /-- Array writes. -/
  writes : UInt64 := 0
  /-- Intervals marked on the store path. -/
  marks : UInt64 := 0
  /-- Intervals marked by force. -/
  forcedMarks : UInt64 := 0
  /-- Allocations marked at once. -/
  markedAtOnce : UInt64 := 0
  /-- Allocations whose mark was deferred. -/
  deferred : UInt64 := 0
  /-- Deferred marks that were flushed. -/
  flushed : UInt64 := 0
  /-- Allocations of arrays without references. -/
  referenceFree : UInt64 := 0
  /-- Allocations of young objects. -/
  young : UInt64 := 0
  /-- Drains of every thread. -/
  drains : UInt64 := 0
  deriving DecidableEq, Inhabited

namespace Tally

/-- **What is counted.** -/
inductive Kind where
  /-- An array write. -/
  | write
  /-- A mark on the store path. -/
  | mark
  /-- A mark by force. -/
  | forcedMark
  /-- An allocation marked at once. -/
  | markedAtOnce
  /-- An allocation whose mark is deferred. -/
  | deferred
  /-- A flush of a deferred mark. -/
  | flushed
  /-- An allocation of an array without references. -/
  | referenceFree
  /-- An allocation of a young object. -/
  | young
  /-- A drain of every thread. -/
  | drain
  deriving DecidableEq

/-- The counter of a kind. -/
def get (t : Tally) : Kind → UInt64
  | .write => t.writes
  | .mark => t.marks
  | .forcedMark => t.forcedMarks
  | .markedAtOnce => t.markedAtOnce
  | .deferred => t.deferred
  | .flushed => t.flushed
  | .referenceFree => t.referenceFree
  | .young => t.young
  | .drain => t.drains

/-- Counts so many events of a kind. -/
def add (t : Tally) (n : UInt64) : Kind → Tally
  | .write => { t with writes := t.writes + n }
  | .mark => { t with marks := t.marks + n }
  | .forcedMark => { t with forcedMarks := t.forcedMarks + n }
  | .markedAtOnce => { t with markedAtOnce := t.markedAtOnce + n }
  | .deferred => { t with deferred := t.deferred + n }
  | .flushed => { t with flushed := t.flushed + n }
  | .referenceFree => { t with referenceFree := t.referenceFree + n }
  | .young => { t with young := t.young + n }
  | .drain => { t with drains := t.drains + n }

/-- Counts one event. -/
def record (t : Tally) (kind : Kind) : Tally := t.add 1 kind

/-- **Counting one kind leaves the others as they are.** -/
theorem get_add (t : Tally) (n : UInt64) (kind other : Kind) :
    (t.add n kind).get other = if other = kind then t.get other + n else t.get other := by
  cases kind <;> cases other <;> rfl

/-- The kinds in the order in which counters are listed. -/
def kinds : List Kind :=
  [.write, .mark, .forcedMark, .markedAtOnce, .deferred,
    .flushed, .referenceFree, .young, .drain]

/-- The counters in that order. -/
def row (t : Tally) : List UInt64 := kinds.map t.get

/-- A sum of two counters that must not leave the word. -/
def sum (a b : UInt64) : Except Fault UInt64 :=
  match Word.add? a b with
  | some c => .ok c
  | none => .error .sumOverflow

/-- The allocations that needed no mark. -/
def skipped (t : Tally) : Except Fault UInt64 := sum t.referenceFree t.young

/-- **The allocations that left the slow path**, summed from the left. -/
def slowPath (t : Tally) : Except Fault UInt64 := do
  let marked ← sum t.markedAtOnce t.deferred
  let unskipped ← sum marked t.referenceFree
  sum unskipped t.young

/-- The marks deferred and not yet flushed; none where more were flushed
than deferred. -/
def outstanding (t : Tally) : UInt64 :=
  if t.flushed ≤ t.deferred then t.deferred - t.flushed else 0

end Tally

end CardBarrier
