import CardBarrier.Policy.Allocation
import CardBarrier.Proofs.Yields

/-!
# The work of a thread, laid out

What a thread does with a barrier – flushing its deferred mark, detaching, leaving the slow
path of an allocation – is laid out here as one step after the other, each with a name: the
checks on a deferred mark (`Policy.requireDue`), the emptying of the slot (`Policy.release`),
the verdict on a fresh object (`Policy.judge`) and what follows from it (`Policy.conclude`).
What is proved of each of these steps holds then of the whole.

The verdict says what an allocation leaves to be marked: nothing, for an array without
references or a young object, or else the extent of the object.
-/

namespace CardBarrier

variable {σ : Type} [Workplace σ]

/-- **What is found out about a fresh object**: as what it is counted if it needs no mark, or
its extent. An array without references is not asked for its age. -/
def Workplace.assess (object : Address) : Act σ (Tally.Kind ⊕ Interval) := do
  if ← Workplace.isReferenceFree object then
    return .inl .referenceFree
  else if ← Workplace.isYoung object then
    return .inl .young
  else
    return .inr (← Workplace.extent object)

namespace Policy

/-- Gives an event to the event log, if events are told. -/
def announce (p : Policy) (e : Event) : Act σ Unit :=
  if p.verbose then Workplace.keep e else pure ()

/-- Stops unless a mark over the interval may be pending, and its object is still there. -/
def requireDue (p : Policy) (r : Interval) : Act σ Unit := do
  if p.defers then requireStillThere r else throw (.unexpectedMark r)

/-- Empties the slot of a thread, which must then be empty. -/
def release : Act σ Unit := do
  Workplace.tell none
  if (← Workplace.ask).isSome then throw .keptAfterFlush

/-- Counts a flush and speaks of it. -/
def reportFlush (p : Policy) (point : FlushPoint) (r : Interval) : Act σ Unit := do
  p.count .flushed
  Workplace.remark (.flushed r point)
  p.announce (.flushed r.start r.stop point.name)

/-- **Flushes a mark** that was found pending. -/
def flushMark (p : Policy) (point : FlushPoint) (r : Interval) : Act σ Unit := do
  p.requireDue r
  p.forceMark r
  release
  p.reportFlush point r

/-- **The verdict on a fresh object**, reached once the pending mark is flushed. -/
def judge (p : Policy) (object : Address) : Act σ (Tally.Kind ⊕ Interval) := do
  let _ ← p.flush .allocation
  Workplace.assess object

/-- **What follows from the verdict.** -/
def conclude (p : Policy) (object : Address) : Tally.Kind ⊕ Interval → Act σ Unit
  | .inl kind => p.skip kind
  | .inr r => if r.isEmpty then throw (.emptyObject object) else p.compensate object r

/-- Stops at an allocation that came out with nothing. -/
def requireObject (object : Address) : Act σ Unit :=
  if object = 0 then throw .nullObject else pure ()

/-- **A flush** asks for the mark and flushes it. -/
theorem flush_eq (p : Policy) (point : FlushPoint) :
    (p.flush point : Act σ Bool) = do
      match ← Workplace.ask with
      | none => return false
      | some r => do
        p.flushMark point r
        return true := by
  unfold flush flushMark requireDue release reportFlush announce
  refine bind_congr fun o => ?_
  cases o with
  | none => rfl
  | some r =>
    by_cases hd : p.defers <;> by_cases hv : p.verbose <;>
      simp only [hd, hv, bind_assoc, pure_bind, Act.throw_bind, Act.ite_throw_bind, if_true,
        if_false, Bool.false_eq_true]

/-- **An allocation** comes to a verdict on its object and does what follows. -/
theorem finishAllocation_eq (p : Policy) (object : Address) :
    (p.finishAllocation object : Act σ Unit) =
      if p.reducesInitialMarks then do
        requireObject object
        p.conclude object (← p.judge object)
      else pure () := by
  unfold finishAllocation requireObject judge Workplace.assess
  split
  · by_cases ho : object = 0
    · simp [ho]
    · rw [if_neg ho, if_neg ho, pure_bind, bind_assoc]
      refine bind_congr fun _ => ?_
      rw [bind_assoc]
      refine bind_congr fun free => ?_
      cases free with
      | true => simp [conclude]
      | false =>
        simp only [Bool.false_eq_true, if_false, bind_assoc]
        refine bind_congr fun young => ?_
        cases young <;> simp [conclude]
  · rfl

/-- **A thread that detaches** flushes what is pending and says whether it did. -/
theorem detach_eq (p : Policy) :
    (p.detach : Act σ Unit) =
      p.flush .detach >>= fun flushed => p.announce (.detached flushed) := rfl

section Site

variable {κ ω τ : Type} [RememberedSet κ] [HeapView ω] [SlotHolder τ]

/-- A thread at work counts in its ledger. -/
theorem count_site (p : Policy) (kind : Tally.Kind) :
    (p.count kind : Act (Site κ ω τ) Unit) = Site.onScene (Scene.onLedger (p.count kind)) := by
  unfold count
  cases p.counts <;> rfl

/-- A thread at work marks in its ledger. -/
theorem forceMark_site (p : Policy) (r : Interval) :
    (p.forceMark r : Act (Site κ ω τ) Unit) = Site.onScene (Scene.onLedger (p.forceMark r)) := by
  unfold forceMark count
  cases p.counts <;> rfl

end Site

end Policy

end CardBarrier
