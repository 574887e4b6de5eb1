import CardBarrier.Card.RememberedSet
import CardBarrier.Settings
import CardBarrier.Tally

/-!
# The policy of a barrier, and marking

A `Policy` is everything about a barrier that is decided once: how wide
references are, whether allocations are compensated for and whether that waits,
what is counted and what is told. What changes while mutators run is the
`Ledger` – the store of marks and the counters.

Marking counts before it marks, so a mark that stops at a fault is counted all
the same. An array write counts twice, as a write and as an interval marked.

What the policy does is said in terms of three steps – counting an event and
marking in either of two ways – and holds for any state that has them (`Books`). A
ledger is one.
-/

namespace CardBarrier

/-- **What is decided once about a barrier.** -/
structure Policy where
  /-- The width of references. -/
  layout : Layout
  /-- The compiler leaves out marks of initializing stores, so allocations that
  left the slow path are compensated for. -/
  reducesInitialMarks : Bool
  /-- Compensating marks wait in the slot of their thread. -/
  defers : Bool
  /-- The store wants marks ordered after the stores they stand for. -/
  ordersMarks : Bool
  /-- Events are counted. -/
  counts : Bool
  /-- Events are given to the event log. -/
  verbose : Bool
  deriving DecidableEq

/-- **What a barrier keeps**: marks and counters. -/
structure Ledger (κ : Type) where
  /-- The store of marks. -/
  cards : κ
  /-- The counters. -/
  tally : Tally := {}

namespace Ledger

variable {κ α : Type}

/-- A step on the store of marks. -/
def onCards (act : Act κ α) : Act (Ledger κ) α :=
  Act.within cards (fun cards l => { l with cards }) act

end Ledger

/-- **A state in which marks are made and events counted.** -/
class Books (σ : Type) where
  /-- Counts an event. -/
  tick : Tally.Kind → Act σ Unit
  /-- Marks an interval on the store path. -/
  mark : Interval → Act σ Unit
  /-- Marks an interval by force. -/
  forceMark : Interval → Act σ Unit

instance {κ : Type} [RememberedSet κ] : Books (Ledger κ) where
  tick kind := modify fun l => { l with tally := l.tally.record kind }
  mark r := Ledger.onCards (RememberedSet.mark r)
  forceMark r := Ledger.onCards (RememberedSet.forceMark r)

namespace Policy

variable {σ : Type} [Books σ]

/-- The policy that settings ask for over a store. -/
def ofSettings (s : Settings) (ordersMarks : Bool) : Policy where
  layout := s.layout
  reducesInitialMarks := s.elision.reducesInitialMarks
  defers := s.elision.defers ordersMarks
  ordersMarks
  counts := s.counts
  verbose := s.verbose

/-- Counts an event, if events are counted. -/
def count (p : Policy) (kind : Tally.Kind) : Act σ Unit :=
  if p.counts then Books.tick kind else pure ()

/-- **Marks an interval** that was written on the store path. -/
def mark (p : Policy) (r : Interval) : Act σ Unit := do
  p.count .mark
  Books.mark r

/-- **Marks an interval by force**: a compensating mark, a copy, a
promotion. -/
def forceMark (p : Policy) (r : Interval) : Act σ Unit := do
  p.count .forcedMark
  Books.forceMark r

/-- Marks the span of an array write. -/
def writeSpan (p : Policy) (r : Interval) : Act σ Unit := do
  p.count .write
  p.mark r

end Policy

end CardBarrier
