import CardBarrier.HeapView
import CardBarrier.Journal
import CardBarrier.Policy
import CardBarrier.SlotHolder

/-!
# A thread at work

While a thread works with a barrier it has to do with its own record, the marks and
counters of the barrier, the objects of the heap and the journal. A `Site` is a
thread with all of these, and the part without the thread, which it shares
with the others, is the `Scene`.

What the barrier does for a thread is said in terms of a dozen steps – ask the
thread for its mark, mark an interval, ask for the extent of an object, and so
on – and holds for any state that has them (`Workplace`). A site is one. That a
policy sees a state through these steps alone is what there is to know about
the order in which it takes them.
-/

namespace CardBarrier

/-- **What threads share** as they work with a barrier. -/
structure Scene (κ ω : Type) where
  /-- Marks and counters. -/
  ledger : Ledger κ
  /-- The objects. -/
  heap : ω
  /-- What is said about it all. -/
  journal : Journal := {}

/-- **A thread at work**, or several, and what they share. -/
structure Site (κ ω τ : Type) where
  /-- What is shared. -/
  scene : Scene κ ω
  /-- The thread. -/
  thread : τ

namespace Scene

variable {κ ω α : Type}

/-- A step on marks and counters. -/
def onLedger (act : Act (Ledger κ) α) : Act (Scene κ ω) α :=
  Act.within ledger (fun ledger s => { s with ledger }) act

/-- A question about objects. -/
def onHeap (act : Act ω α) : Act (Scene κ ω) α :=
  Act.within heap (fun heap s => { s with heap }) act

/-- A step on the journal. -/
def onJournal (act : Act Journal α) : Act (Scene κ ω) α :=
  Act.within journal (fun journal s => { s with journal }) act

/-- Adds diagnostics. -/
def remarkAll (ds : List Diagnostic) : Act (Scene κ ω) Unit :=
  onJournal (modify (Journal.remarkAll ds))

/-- Adds a diagnostic. -/
def remark (d : Diagnostic) : Act (Scene κ ω) Unit := remarkAll [d]

/-- Gives an event to the event log. -/
def keep (e : Event) : Act (Scene κ ω) Unit := onJournal (Act.update (Journal.keep e))

end Scene

namespace Site

variable {κ ω τ α : Type}

/-- A step on what is shared. -/
def onScene (act : Act (Scene κ ω) α) : Act (Site κ ω τ) α :=
  Act.within scene (fun scene s => { s with scene }) act

/-- A step on the thread. -/
def onThread (act : Act τ α) : Act (Site κ ω τ) α :=
  Act.within thread (fun thread s => { s with thread }) act

end Site

/-- **A state in which a thread works with a barrier.** -/
class Workplace (σ : Type) extends Books σ where
  /-- Asks the thread for its deferred mark. -/
  ask : Act σ (Option Interval)
  /-- Sets the deferred mark of the thread. -/
  tell : Option Interval → Act σ Unit
  /-- The object at the address is young. -/
  isYoung : Address → Act σ Bool
  /-- The object is an array whose elements are not references. -/
  isReferenceFree : Address → Act σ Bool
  /-- The interval that the object takes. -/
  extent : Address → Act σ Interval
  /-- A single whole object stands there. -/
  isWhole : Address → Act σ Bool
  /-- Adds a diagnostic. -/
  remark : Diagnostic → Act σ Unit
  /-- Gives an event to the event log. -/
  keep : Event → Act σ Unit

instance {κ ω τ : Type} [RememberedSet κ] [HeapView ω] [SlotHolder τ] :
    Workplace (Site κ ω τ) where
  tick kind := Site.onScene (Scene.onLedger (Books.tick kind))
  mark r := Site.onScene (Scene.onLedger (Books.mark r))
  forceMark r := Site.onScene (Scene.onLedger (Books.forceMark r))
  ask := Site.onThread SlotHolder.ask
  tell region := Site.onThread (SlotHolder.tell region)
  isYoung a := Act.ofFun fun s => (.ok (RememberedSet.isYoung s.scene.ledger.cards a), s)
  isReferenceFree a := Site.onScene (Scene.onHeap (HeapView.isReferenceFree a))
  extent a := Site.onScene (Scene.onHeap (HeapView.extent a))
  isWhole a := Site.onScene (Scene.onHeap (HeapView.isWhole a))
  remark d := Site.onScene (Scene.remark d)
  keep e := Site.onScene (Scene.keep e)

end CardBarrier
