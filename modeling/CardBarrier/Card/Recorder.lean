import CardBarrier.Card.Table

/-!
# A card store that keeps account of its marks

A `Recorder` stands before another store and notes each mark before it is
passed on, so that a mark which then stops at a fault is on record too. What
it says of itself is what any store says.
-/

namespace CardBarrier

/-- **A mark that a store was asked for.** -/
inductive MarkCall where
  /-- On the store path. -/
  | mark (region : Interval)
  /-- By force. -/
  | forceMark (region : Interval)
  deriving DecidableEq

/-- **A store and the marks it was asked for**, oldest first. -/
structure Recorder (κ : Type) where
  /-- The store behind it. -/
  store : κ
  /-- What was asked of it. -/
  calls : List MarkCall := []

namespace Recorder

variable {κ : Type}

/-- Notes a mark and passes it on. -/
def passOn (call : MarkCall) (act : Act κ Unit) : Act (Recorder κ) Unit := do
  modify fun r => { r with calls := r.calls ++ [call] }
  Act.within store (fun s r => { r with store := s }) act

instance [RememberedSet κ] : RememberedSet (Recorder κ) where
  mark r := passOn (.mark r) (RememberedSet.mark r)
  forceMark r := passOn (.forceMark r) (RememberedSet.forceMark r)
  isYoung r := RememberedSet.isYoung r.store
  ordersMarks r := RememberedSet.ordersMarks r.store
  cardBytes r := RememberedSet.cardBytes r.store

end Recorder

end CardBarrier
