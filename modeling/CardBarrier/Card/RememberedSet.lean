import CardBarrier.Act

/-!
# What a barrier marks

The barrier asks little of the store that remembers which parts of the heap
were written: to mark an interval – on the path of an ordinary store, or by
force, for the compensating marks of allocations, for copies and for
promotions – to say whether an object is young, and to say whether cards are
scanned while mutators run, in which case a mark may only become visible
after the stores it stands for.
-/

namespace CardBarrier

/-- **When cards are scanned.** -/
inductive Scanning where
  /-- Only while every mutator is stopped. -/
  | stopTheWorld
  /-- While mutators run. -/
  | concurrent
  deriving DecidableEq, Inhabited

namespace Scanning

/-- Marks must not be seen before the stores they stand for. -/
def ordersMarks : Scanning → Bool
  | stopTheWorld => false
  | concurrent => true

/-- The name of a way of scanning. -/
def name : Scanning → String
  | stopTheWorld => "StopTheWorld"
  | concurrent => "Concurrent"

end Scanning

/-- **A store of marks**, as the barrier sees it. -/
class RememberedSet (κ : Type) where
  /-- Marks every card that the interval meets, on the store path. -/
  mark : Interval → Act κ Unit
  /-- Marks every card that the interval meets, by force. -/
  forceMark : Interval → Act κ Unit
  /-- The object at the address is young. -/
  isYoung : κ → Address → Bool
  /-- Marks must not be seen before the stores they stand for. -/
  ordersMarks : κ → Bool
  /-- The bytes of a card. -/
  cardBytes : κ → UInt64
  /-- The store in one line. -/
  summary : κ → String := fun store => s!"card store ({cardBytes store} byte cards)"

end CardBarrier
