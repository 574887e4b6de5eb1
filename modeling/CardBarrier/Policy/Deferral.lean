import CardBarrier.Site

/-!
# Deferred marks and how they are flushed

A deferred mark makes up for the marks that the compiler left out of an
object's initializing stores. It waits in the slot of the thread that
allocated the object, and is flushed at one of three points (`FlushPoint`),
always by that thread or while it is stopped, so that the mark comes after the
stores without further ado.

Flushing does not take the slot at its word. The object must still be there:
not young, whole, and with the extent that was deferred – a collection in
between would have moved it, and marking where it was would hide that. Only then
are the cards marked, and only after that is the slot emptied, so that at no
moment is the mark in neither place. A fault anywhere before leaves it in the
slot.
-/

namespace CardBarrier

namespace Policy

section Thread

variable {σ : Type} [Workplace σ]

/-- **The object is still there** for which a mark was deferred: it is not
young, it is whole, and it takes the interval that was deferred. -/
def requireStillThere (r : Interval) : Act σ Unit := do
  if ← Workplace.isYoung r.start then throw (.youngMark r.start)
  unless ← Workplace.isWhole r.start do throw (.malformedMark r)
  let extent ← Workplace.extent r.start
  unless extent = r do throw (.staleMark r extent)

/-- **Flushes the deferred mark of a thread**, and says whether there was
one. -/
def flush (p : Policy) (point : FlushPoint) : Act σ Bool := do
  let some r ← Workplace.ask | return false
  unless p.defers do throw (.unexpectedMark r)
  requireStillThere r
  p.forceMark r
  -- only now may the slot forget the mark
  Workplace.tell none
  if (← Workplace.ask).isSome then throw .keptAfterFlush
  p.count .flushed
  Workplace.remark (.flushed r point)
  if p.verbose then Workplace.keep (.flushed r.start r.stop point.name)
  return true

/-- **A thread detaches**, and its deferred mark is flushed first. -/
def detach (p : Policy) : Act σ Unit := do
  let flushed ← p.flush .detach
  if p.verbose then Workplace.keep (.detached flushed)

end Thread

section Drain

variable {κ ω τ : Type} [RememberedSet κ]

omit [RememberedSet κ] in
/-- Gives the counters to the event log. -/
def report : Act (Scene κ ω) Unit := do
  let scene ← get
  Scene.keep (.counted scene.ledger.tally)

variable [HeapView ω] [SlotHolder τ]

/-- Flushes the deferred marks of threads in turn, and says how many there
were. A fault stops the round; the threads whose turn did not come are as they
were. -/
def flushEach (p : Policy) :
    List τ → Scene κ ω → Except Fault Nat × List τ × Scene κ ω
  | [], scene => (.ok 0, [], scene)
  | thread :: threads, scene =>
    match (p.flush .safepoint).run (Site.mk scene thread) with
    | (.error fault, site) => (.error fault, site.thread :: threads, site.scene)
    | (.ok flushed, site) =>
      let (outcome, threads, scene) := p.flushEach threads site.scene
      (outcome.map (flushed.toNat + ·), site.thread :: threads, scene)

/-- **Drains threads**: their deferred marks are flushed in turn, while all of
them are stopped and before cards are scanned. -/
def drain (p : Policy) : Act (Site κ ω (List τ)) Nat := do
  let flushed ← Act.ofFun fun site =>
    let (outcome, threads, scene) := p.flushEach site.thread site.scene
    (outcome, ⟨scene, threads⟩)
  let threads := (← get).thread.length
  Site.onScene (Scene.onLedger (p.count .drain))
  Site.onScene (Scene.remark (.drained threads flushed))
  if p.verbose then
    Site.onScene (Scene.keep (.drained (UInt64.ofNat threads) (UInt64.ofNat flushed)))
    Site.onScene report
  return flushed

end Drain

end Policy

end CardBarrier
