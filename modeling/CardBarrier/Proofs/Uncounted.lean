import CardBarrier.Proofs.InStep

/-!
# Where nothing is counted

A policy that does not count leaves the counters alone, whatever is asked of it, by which kind
of thread, over which store, and however often it stops at a fault on the way
(`Policy.tally_performAll`). Of all that moves are made of only one step counts
(`Books.coupling_uncounted`), and an arena with the same counters in it all along is in step with
itself.
-/

namespace CardBarrier

open Act

variable {κ ω τ : Type} [RememberedSet κ] {p : Policy}

/-- **Marks leave the counters alone** where nothing is counted. -/
theorem Books.coupling_uncounted (hcounts : p.counts = false) (t : Tally) :
    Books.Coupling p p fun l m : Ledger κ => l = m ∧ l.tally = t where
  count kind := by
    unfold Policy.count
    rw [hcounts]
    exact couples_pure ()
  mark r := couples_self_iff.2 fun l h => h
  forceMark r := couples_self_iff.2 fun l h => h

variable [TableBacked κ]

theorem Policy.marksAlike_uncounted (hcounts : p.counts = false) (t : Tally) :
    p.MarksAlike p fun l m : Ledger κ => l = m ∧ l.tally = t where
  toCoupling := Books.coupling_uncounted hcounts t
  layout := rfl
  reduces := rfl
  defers := rfl
  isYoung := by
    rintro l _ a ⟨rfl, -⟩
    rfl
  update f := couples_self_iff.2 fun l h => h

variable [HeapView ω] [SlotHolder τ]

/-- **No move touches the counters** where nothing is counted. -/
theorem Policy.tally_perform (hcounts : p.counts = false) (m : Move ω τ) (a : Arena κ ω τ) :
    ((p.perform m).run a).2.scene.ledger.tally = a.scene.ledger.tally := by
  have hself : a.InStep (fun l m => l = m ∧ l.tally = a.scene.ledger.tally) a :=
    ⟨⟨⟨rfl, rfl⟩, rfl⟩, rfl⟩
  exact ((marksAlike_uncounted hcounts _).perform m a a hself).1.scene.ledger.2

/-- **The arena after moves**, of which one that stops at a fault does not stop those after it. -/
def Policy.performAll (p : Policy) (moves : List (Move ω τ)) (a : Arena κ ω τ) : Arena κ ω τ :=
  moves.foldl (fun a m => ((p.perform m).run a).2) a

/-- **Where nothing is counted every counter stays as it is**, faults or not. -/
theorem Policy.tally_performAll (hcounts : p.counts = false) (moves : List (Move ω τ))
    (a : Arena κ ω τ) :
    (p.performAll moves a).scene.ledger.tally = a.scene.ledger.tally := by
  induction moves generalizing a with
  | nil => rfl
  | cons m moves ih => exact (ih _).trans (tally_perform hcounts m a)

end CardBarrier
