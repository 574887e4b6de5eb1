import CardBarrier.Proofs.Counting
import CardBarrier.Proofs.Deferring

/-!
# Everything that an allocation does

An allocation that leaves the slow path and comes through has done two things. It has dealt with
what the thread's slot held, if anything (`Policy.Settles`): that was due, and its cards are dirty
now. And it has reached a verdict on its own object, on which it acts in one of four ways
(`Policy.verdictKind`), which decides the slot that it leaves (`Policy.verdictSlot`).

`Policy.Compensated` says all of it at once, of thread, cards and counters. The old interval and
the new one may share cards, and the objects may change with every question that is asked about
them; the questions are therefore followed in the order in which they are asked.
-/

namespace CardBarrier

open Act

/-- The ways in which an allocation can end, as it is counted. -/
def Tally.slowPathKinds : List Tally.Kind := [.referenceFree, .young, .deferred, .markedAtOnce]

namespace Policy

/-- As what an allocation is counted, given the verdict on its object. -/
def verdictKind (p : Policy) : Tally.Kind ⊕ Interval → Tally.Kind
  | .inl kind => kind
  | .inr _ => p.owedKind

/-- The slot that an allocation leaves, given the verdict on its object. -/
def verdictSlot (p : Policy) : Tally.Kind ⊕ Interval → Slot
  | .inl _ => .empty
  | .inr r => if p.defers then .holding r else .empty

variable {p : Policy} {verdict : Tally.Kind ⊕ Interval}

omit p verdict in
/-- Flushing counts as none of them. -/
theorem count_flushKinds (b : Bool) {k : Tally.Kind} (hk : k ∈ Tally.slowPathKinds) :
    (flushKinds b).count k = 0 := by
  refine List.count_eq_zero.2 fun hmem => ?_
  cases b with
  | false => cases hmem
  | true =>
    simp only [flushKinds, List.mem_cons, List.not_mem_nil, or_false] at hmem
    obtain rfl | rfl := hmem <;> revert hk <;> decide

/-- **An allocation is counted in one of the ways**, the one of its verdict. -/
theorem count_verdictKinds
    (hkind : ∀ kind, verdict = .inl kind → kind = .referenceFree ∨ kind = .young)
    {k : Tally.Kind} (hk : k ∈ Tally.slowPathKinds) :
    (p.verdictKinds verdict).count k = if k = p.verdictKind verdict then 1 else 0 := by
  simp only [Tally.slowPathKinds, List.mem_cons, List.not_mem_nil, or_false] at hk
  unfold verdictKinds verdictKind owedKind
  cases verdict with
  | inl kind =>
    obtain rfl | rfl := hkind kind rfl
    all_goals obtain rfl | rfl | rfl | rfl := hk <;> rfl
  | inr r =>
    cases p.defers
    all_goals obtain rfl | rfl | rfl | rfl := hk <;> rfl

theorem verdictKind_mem
    (hkind : ∀ kind, verdict = .inl kind → kind = .referenceFree ∨ kind = .young) :
    p.verdictKind verdict ∈ Tally.slowPathKinds := by
  unfold verdictKind owedKind
  cases verdict with
  | inl kind =>
    dsimp only
    obtain rfl | rfl := hkind kind rfl <;> decide
  | inr r =>
    dsimp only
    split <;> decide

section Site

variable {ω : Type} [HeapView ω] {object : Address} {s t u : Site CardTable ω Mutator} {b : Bool}
  {i : Nat}

/-- **What was waiting is dealt with.** Either nothing was, or it was due, and asking about its
object left the objects as given. -/
inductive Settles {κ : Type} [RememberedSet κ] (p : Policy) (s : Site κ ω Mutator) : ω → Prop
  | nothing (hslot : s.thread.slot = .empty) : Settles p s s.scene.heap
  | due {r : Interval} {heap : ω} (hslot : s.thread.slot = .holding r) (hdefers : p.defers = true)
      (hdue : Due r s heap) : Settles p s heap

theorem settles_of_yields {point : FlushPoint} (h : (p.flush point).Yields s b t) :
    p.Settles s t.scene.heap := by
  obtain ⟨hslot, -, rfl⟩ | ⟨r, hslot, -, hflush⟩ := flush_yields h
  · exact .nothing hslot
  · obtain ⟨hdefers, heap, cards, j, hdue, -, rfl⟩ := flushMark_yields hflush
    exact .due hslot hdefers hdue

/-- **What an allocation has done** that came through with a verdict on its object. -/
structure Compensated (p : Policy) (object : Address) (s : Site CardTable ω Mutator)
    (verdict : Tally.Kind ⊕ Interval) (t : Site CardTable ω Mutator) : Prop where
  /-- There is an object. -/
  object_ne : object ≠ 0
  /-- What was waiting was due, and the verdict is that on the object: an array without references
  is not asked for its age. -/
  found : ∃ heap asked, p.Settles s heap ∧
    Assessed object (s.withHeap heap) verdict (s.withHeap asked)
  /-- The extent of the object waits if marks do and the object needs one, and otherwise nothing
  waits any more. -/
  thread : t.thread = { s.thread with slot := p.verdictSlot verdict }
  /-- The dirty cards are those of before, those of what was waiting, and those of the object if it
  needs a mark and marks do not wait. -/
  dirty_iff (i : Nat) : t.scene.ledger.cards.Dirty i ↔
    s.scene.ledger.cards.Dirty i ∨ s.thread.Pends s.scene.ledger.cards.geometry i ∨
      p.defers = false ∧ ∃ r, verdict = .inr r ∧ s.scene.ledger.cards.geometry.Meets i r
  /-- The allocation ended in one of four ways. -/
  kind_mem : p.verdictKind verdict ∈ Tally.slowPathKinds
  /-- It was counted as such, and not as any other. -/
  get_eq (k : Tally.Kind) (hk : k ∈ Tally.slowPathKinds) : t.scene.ledger.tally.get k
    = s.scene.ledger.tally.get k + if k = p.verdictKind verdict then 1 else 0

end Site

end Policy

variable {ω : Type} [HeapView ω] {p : Policy} {object : Address}
  {s t u : Site CardTable ω Mutator} {b : Bool} {verdict : Tally.Kind ⊕ Interval} {i : Nat}

/-- A verdict is about objects and where young ones are, and about nothing else of the site. -/
theorem Assessed.transfer {s' : Site CardTable ω Mutator} (h : Assessed object s verdict t)
    (hheap : s'.scene.heap = s.scene.heap)
    (hyoung : s'.scene.ledger.cards.young = s.scene.ledger.cards.young) :
    Assessed object s' verdict (s'.withHeap t.scene.heap) := by
  have hage : RememberedSet.isYoung s'.scene.ledger.cards object
      = RememberedSet.isYoung s.scene.ledger.cards object :=
    congrArg (Interval.contains · object) hyoung
  cases h with
  | referenceFree hfree => exact .referenceFree (hheap ▸ hfree)
  | young hfree hy => exact .young (hheap ▸ hfree) (hage.trans hy)
  | owing hfree hy hextent => exact .owing (hheap ▸ hfree) (hage.trans hy) hextent

/-- **What follows from a verdict makes cards dirty** where marks do not wait. -/
theorem Concluded.dirty_iff (h : Concluded p s t verdict) :
    t.scene.ledger.cards.Dirty i ↔ s.scene.ledger.cards.Dirty i ∨
      p.defers = false ∧ ∃ r, verdict = .inr r ∧ s.scene.ledger.cards.geometry.Meets i r := by
  cases h with
  | skipped hledger _ _ =>
    rw [hledger]
    simp
  | deferred hdefers hledger _ _ =>
    rw [hledger]
    simp [hdefers]
  | marked hdefers hmark hledger _ _ =>
    rw [hledger, CardTable.dirty_mark (CardTable.forceMark_yields.1 hmark)]
    simp [hdefers]

theorem Concluded.thread_eq (h : Concluded p s t verdict) (hslot : s.thread.slot = .empty) :
    t.thread = { s.thread with slot := p.verdictSlot verdict } := by
  cases h with
  | skipped _ hthread _ => exact hthread.trans (Mutator.emptied_of_empty hslot).symm
  | deferred hdefers _ hthread _ => rw [hthread, Policy.verdictSlot, if_pos hdefers]
  | marked hdefers _ _ hthread _ =>
    rw [hthread, Policy.verdictSlot, hdefers, if_neg Bool.false_ne_true]
    exact (Mutator.emptied_of_empty hslot).symm

/-- **An allocation that comes through** under a policy that compensates and counts has done all of
it. -/
theorem Policy.compensated_of_yields (hreduces : p.reducesInitialMarks = true)
    (hcounts : p.counts = true) (h : (p.finishAllocation object).Yields s () t) :
    ∃ verdict, p.Compensated object s verdict t := by
  obtain ⟨hobject, verdict, u, hjudge, hconcluded⟩ := finishAllocation_yields hreduces h
  obtain ⟨b, v, hflush, hassess⟩ := yields_bind.1 hjudge
  have hflushed := flushed_of_yields hflush
  have hassessed := Workplace.assessed_of_yields hassess
  have hasked := hassessed.untouched
  have hempty : u.thread.slot = .empty := by
    rw [hasked.thread, hflushed.thread_eq]
    rfl
  have hkind : ∀ kind, verdict = .inl kind → kind = .referenceFree ∨ kind = .young := by
    rintro kind rfl
    exact Workplace.assess_skips hassess
  -- a flush moves neither objects nor the young range, so the verdict is one on the first site
  refine ⟨verdict, hobject, ⟨v.scene.heap, u.scene.heap, settles_of_yields hflush, ?_⟩, ?_,
    fun i => ?_, verdictKind_mem hkind, fun k hk => ?_⟩
  · exact hassessed.transfer rfl hflushed.like.young.symm
  · rw [hconcluded.thread_eq hempty, hasked.thread, hflushed.thread_eq]
    rfl
  · rw [hconcluded.dirty_iff, hasked.ledger, hflushed.dirty_iff, hflushed.like.geometry, or_assoc]
  · rw [hconcluded.tally_eq, hasked.ledger, hflushed.tally_eq, tallied_tallied,
      get_tallied hcounts, List.count_append, count_flushKinds b hk, count_verdictKinds hkind hk,
      Nat.zero_add]
    split <;> rfl

namespace SmallHeap

/-- The mark over one object waits, and another is in the card before. -/
def pending : Site CardTable Objects Mutator :=
  ⟨⟨{ cards := .ofGeometry geometry .stopTheWorld },
    ⟨[{ address := 512, words := 4 }, { address := 256, words := 2 }]⟩, {}⟩,
    ⟨0, .holding objectExtent⟩⟩

/-- The other object has been allocated. -/
def compensated (defers : Bool) : Site CardTable Objects Mutator :=
  (((policy defers).finishAllocation 256).run pending).2

/-- The mark that waits is made, and that of the other object waits in its stead. -/
theorem compensated_pending :
    (∃ verdict, (policy true).Compensated 256 pending verdict (compensated true)) ∧
      (compensated true).thread.slot = .holding ⟨256, 272, by decide⟩ :=
  ⟨Policy.compensated_of_yields rfl rfl rfl, rfl⟩

end SmallHeap

end CardBarrier
