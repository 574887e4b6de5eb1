import CardBarrier.Fault

/-!
# The slot of a deferred mark

A `Slot` holds at most one interval whose cards are still to be marked. It is
a mailbox with one place: what is put in is taken out again, once, and
putting in over something that is still there is a fault, since the mark
beneath would be lost.
-/

namespace CardBarrier

/-- **A place for one deferred mark.** -/
inductive Slot where
  /-- Nothing is deferred. -/
  | empty
  /-- The cards of that interval are still to be marked. -/
  | holding (region : Interval)
  deriving DecidableEq, Inhabited

namespace Slot

/-- Nothing is deferred. -/
def isEmpty : Slot → Bool
  | empty => true
  | holding _ => false

/-- The interval that is still to be marked. -/
def region? : Slot → Option Interval
  | empty => none
  | holding r => some r

/-- The slot that holds what is given, if anything. -/
def ofOption : Option Interval → Slot
  | none => empty
  | some r => holding r

/-- Puts an interval in, which must find the slot empty. -/
def put (r : Interval) : Slot → Except Fault Slot
  | empty => .ok (holding r)
  | holding p => .error (.slotTaken r p)

/-- Takes out what is there, and leaves the slot empty. -/
def take (s : Slot) : Option Interval × Slot := (s.region?, empty)

@[simp] theorem region?_ofOption (o : Option Interval) : (ofOption o).region? = o := by
  cases o <;> rfl

@[simp] theorem ofOption_region? (s : Slot) : ofOption s.region? = s := by
  cases s <;> rfl

end Slot

end CardBarrier
