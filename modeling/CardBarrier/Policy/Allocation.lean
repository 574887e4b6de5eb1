import CardBarrier.Policy.Deferral

/-!
# When an allocation leaves the slow path

The compiler leaves out the marks of a fresh object's initializing stores,
betting that the object will be young. Where the slow path put it among the old
ones the bet is lost, and one mark over the whole object makes up for it – at
once, or deferred to the slot of the thread. An array without references needs
none, and neither does an object that is young after all.

Before anything else the mark that the thread deferred for its last such object is
flushed, so a mark never outlives the next allocation on the slow path.
-/

namespace CardBarrier.Policy

variable {σ : Type} [Workplace σ]

/-- Stops if a mark is deferred for the thread. -/
def requireNoMark : Act σ Unit := do
  if (← Workplace.ask).isSome then throw .pendingAfterFlush

/-- Counts an allocation that needs no mark. -/
def skip (p : Policy) (kind : Tally.Kind) : Act σ Unit := do
  p.count kind
  requireNoMark

/-- **Makes up for the marks left out of an old object**, at once or by
deferring the mark. -/
def compensate (p : Policy) (object : Address) (r : Interval) : Act σ Unit := do
  if p.defers then
    let slot := Slot.ofOption (← Workplace.ask)
    let slot ← Act.ofExcept (slot.put r)
    Workplace.tell slot.region?
    p.count .deferred
    Workplace.remark (.deferred object r)
  else
    p.forceMark r
    p.count .markedAtOnce

/-- **An allocation leaves the slow path** with an object that is wholly
initialized. -/
def finishAllocation (p : Policy) (object : Address) : Act σ Unit := do
  unless p.reducesInitialMarks do return
  if object = 0 then throw .nullObject
  -- the last mark goes first, whatever becomes of this object
  let _ ← p.flush .allocation
  if ← Workplace.isReferenceFree object then
    p.skip .referenceFree
  else if ← Workplace.isYoung object then
    p.skip .young
  else
    let r ← Workplace.extent object
    if r.isEmpty then throw (.emptyObject object)
    p.compensate object r

end CardBarrier.Policy
