import CardBarrier.Proofs.History
import CardBarrier.Proofs.InStep

/-!
# Work that must come through

Each fault of the barrier has a condition, and where the condition holds the step that checks
it comes through. Gathered up, a flush comes through if the object whose mark is pending is
where it was when the mark was deferred (`Scene.Standing`); an allocation does if its object is
as the runtime promises (`Scene.Sound`) and its thread can be flushed; and a drain does if every
thread can be flushed and the counters can still be put into a sentence. For the asking itself
no more is needed than that it does not change the objects.
-/

namespace CardBarrier

open Act

variable {ω : Type} [HeapView ω]

/-- **The object of a pending mark is still there**: it is not young, it reads as one whole
object that takes the interval, and all of the interval has cards. -/
structure Scene.Standing (s : Scene CardTable ω) (r : Interval) : Prop where
  old : s.ledger.cards.isYoung r.start = false
  whole : (HeapView.isWhole r.start).Yields s.heap true s.heap
  extent : (HeapView.extent r.start).Yields s.heap r s.heap
  inside : s.ledger.cards.covered.includes r = true

/-- **The object is as the runtime promises**: it is known, reads as one whole object, and takes
an interval that begins at its address, is not empty and has cards. -/
structure Scene.Sound (s : Scene CardTable ω) (object : Address) (r : Interval) : Prop where
  known : ∃ free, (HeapView.isReferenceFree object).Yields s.heap free s.heap
  whole : (HeapView.isWhole object).Yields s.heap true s.heap
  extent : (HeapView.extent object).Yields s.heap r s.heap
  start : r.start = object
  nonempty : r.isEmpty = false
  inside : s.ledger.cards.covered.includes r = true

section Scene

variable {s t : Scene CardTable ω} {r : Interval} {object : Address}

/-- What is there stays there as long as neither objects nor young ones move. -/
theorem Scene.Standing.of_like (h : s.Standing r) (hlike : s.ledger.cards.Like t.ledger.cards)
    (hheap : t.heap = s.heap) : t.Standing r where
  old := by
    unfold CardTable.isYoung
    rw [hlike.young]
    exact h.old
  whole := hheap ▸ h.whole
  extent := hheap ▸ h.extent
  inside := by
    unfold CardTable.covered
    rw [hlike.geometry]
    exact h.inside

theorem Scene.Sound.of_like (h : s.Sound object r) (hlike : s.ledger.cards.Like t.ledger.cards)
    (hheap : t.heap = s.heap) : t.Sound object r where
  known := hheap ▸ h.known
  whole := hheap ▸ h.whole
  extent := hheap ▸ h.extent
  start := h.start
  nonempty := h.nonempty
  inside := by
    unfold CardTable.covered
    rw [hlike.geometry]
    exact h.inside

/-- What an object as promised owes is its extent, and the object stands. -/
theorem Scene.Sound.standing_of_owes {r' : Interval} (h : s.Sound object r)
    (howes : s.Owes object r') : r' = r ∧ s.Standing r := by
  obtain ⟨hyoung, h₁, h₂, hfree, hextent⟩ := howes
  obtain ⟨free, hknown⟩ := h.known
  obtain ⟨-, rfl⟩ := hknown.unique hfree
  obtain ⟨rfl, -⟩ := hextent.unique h.extent
  obtain rfl := h.start
  exact ⟨rfl, hyoung, h.whole, h.extent, h.inside⟩

end Scene

/-! ## Of one thread -/

section Site

variable {p : Policy} {s : Site CardTable ω Mutator} {r : Interval} {object : Address}

theorem Workplace.isYoung_yields (a : Address) :
    (Workplace.isYoung a).Yields s (s.scene.ledger.cards.isYoung a) s := rfl

theorem Policy.requireDue_yields_of_standing (hdefers : p.defers = true) (h : s.scene.Standing r) :
    (p.requireDue r).Yields s () s := by
  unfold requireDue requireStillThere
  rw [if_pos hdefers]
  refine yields_bind.2 ⟨false, s, h.old ▸ Workplace.isYoung_yields r.start, ?_⟩
  refine yields_bind.2 ⟨true, s, Site.yields_onHeap.2 ⟨_, h.whole, rfl⟩, ?_⟩
  refine yields_bind.2 ⟨r, s, Site.yields_onHeap.2 ⟨_, h.extent, rfl⟩, ?_⟩
  simp

/-- What has cards can be marked. -/
theorem Policy.succeeds_forceMark (h : s.scene.ledger.cards.covered.includes r = true) :
    (p.forceMark r : Act (Site CardTable ω Mutator) Unit).Succeeds s := by
  obtain ⟨cards, hcards⟩ := CardTable.exists_mark_of_includes h
  exact ⟨(), _, forceMark_yields_site.2 ⟨cards, CardTable.forceMark_yields.2 hcards, rfl⟩⟩

/-- **The slot can be flushed**: what is in it, if anything, may be pending and its object is
still there. -/
def Site.Flushable (p : Policy) (s : Site CardTable ω Mutator) : Prop :=
  ∀ r, s.thread.slot = .holding r → p.defers = true ∧ s.scene.Standing r

/-- **A flush comes through.** -/
theorem Policy.succeeds_flush (h : s.Flushable p) (point : FlushPoint) :
    (p.flush point).Succeeds s := by
  rw [flush_eq]
  refine (Site.yields_ask.2 ⟨rfl, rfl⟩).succeeds_bind ?_
  cases hslot : s.thread.slot with
  | empty => exact succeeds_pure _ _
  | holding r =>
    obtain ⟨hdefers, hstanding⟩ := h r hslot
    refine Succeeds.bind ?_ fun _ _ _ => succeeds_pure _ _
    refine (requireDue_yields_of_standing hdefers hstanding).succeeds_bind ?_
    refine (succeeds_forceMark hstanding.inside).bind fun _ s₁ _ => ?_
    refine release_yields_self.succeeds_bind ?_
    exact succeeds_reportFlush _ _ _

/-- **The object can be found out about.** -/
theorem Workplace.succeeds_assess (h : s.scene.Sound object r) :
    (Workplace.assess object).Succeeds s := by
  obtain ⟨free, hfree⟩ := h.known
  refine (Site.yields_onHeap.2 ⟨_, hfree, rfl⟩).succeeds_bind ?_
  split
  · exact succeeds_pure _ _
  · refine (isYoung_yields object).succeeds_bind ?_
    split
    · exact succeeds_pure _ _
    · refine (Site.yields_onHeap.2 ⟨_, h.extent, rfl⟩).succeeds_bind ?_
      exact succeeds_pure _ _

/-- **What follows from a verdict comes through** if the slot is empty and the interval, if there
is one to be marked, is not, and has cards. -/
theorem Policy.succeeds_conclude {verdict : Tally.Kind ⊕ Interval}
    (hslot : s.thread.slot = .empty)
    (h : ∀ r, verdict = .inr r →
      r.isEmpty = false ∧ s.scene.ledger.cards.covered.includes r = true) :
    (p.conclude object verdict).Succeeds s := by
  cases verdict with
  | inl kind =>
    refine (succeeds_count kind s).bind fun _ u hcount => ?_
    obtain rfl := count_yields_site.1 hcount
    refine (Site.yields_ask.2 ⟨rfl, rfl⟩).succeeds_bind ?_
    have hnone : s.thread.slot.region?.isSome = false := by
      rw [hslot]
      rfl
    rw [if_neg (by exact Bool.eq_false_iff.1 hnone)]
    exact succeeds_pure _ _
  | inr r =>
    obtain ⟨hnonempty, hinside⟩ := h r rfl
    dsimp only [conclude]
    rw [hnonempty, if_neg Bool.false_ne_true]
    unfold compensate
    split
    · refine (Site.yields_ask.2 ⟨rfl, rfl⟩).succeeds_bind ?_
      dsimp only
      rw [Slot.ofOption_region?, hslot]
      refine (yields_ofExcept.2 ⟨rfl, rfl⟩).succeeds_bind ?_
      refine Succeeds.bind ⟨(), _, Site.yields_tell.2 rfl⟩ fun _ _ _ => ?_
      exact (succeeds_count _ _).bind fun _ _ _ => succeeds_remark _ _
    · exact (succeeds_forceMark hinside).bind fun _ _ _ => succeeds_count _ _

/-- **An allocation comes through.** -/
theorem Policy.succeeds_finishAllocation (hsteady : HeapView.Steady s.scene.heap)
    (hflush : s.Flushable p) (hobject : object ≠ 0) (h : s.scene.Sound object r) :
    (p.finishAllocation object).Succeeds s := by
  rw [finishAllocation_eq]
  split
  · refine Yields.succeeds_bind (a := ()) (t := s) ?_ ?_
    · rw [requireObject, if_neg hobject]
      exact yields_pure.2 ⟨rfl, rfl⟩
    -- the flush that goes first leaves the object as promised
    have hsound : ∀ b s₁, (p.flush .allocation).Yields s b s₁ → s₁.scene.Sound object r := by
      intro b s₁ hs₁
      have hflushed := flushed_of_yields hs₁
      exact h.of_like hflushed.like (hflushed.settled hsteady)
    refine Succeeds.bind ?_ fun verdict s₂ hjudge => ?_
    · exact (succeeds_flush hflush .allocation).bind fun b s₁ hs₁ =>
        Workplace.succeeds_assess (hsound b s₁ hs₁)
    · obtain ⟨b, s₁, hs₁, hs₂⟩ := yields_bind.1 hjudge
      have huntouched := Workplace.untouched_assess hs₂
      refine succeeds_conclude ?_ ?_
      · rw [huntouched.thread, (flushed_of_yields hs₁).thread_eq]
        rfl
      · rintro r' rfl
        obtain ⟨rfl, -⟩ := (hsound b s₁ hs₁).standing_of_owes (Scene.owes_iff.2 ⟨s₂, hs₂⟩)
        rw [huntouched.ledger]
        exact ⟨(hsound b s₁ hs₁).nonempty, (hsound b s₁ hs₁).inside⟩
  · exact succeeds_pure _ _

/-- **A detachment comes through.** -/
theorem Policy.succeeds_detach (hflush : s.Flushable p) : p.detach.Succeeds s := by
  rw [detach_eq]
  exact (succeeds_flush hflush .detach).bind fun _ s₁ _ => succeeds_announce ⟨_, rfl⟩ s₁

end Site

/-! ## Of several threads -/

section Drain

variable {p : Policy} {s : Scene CardTable ω} {ts : List Mutator}

/-- **A round of flushes comes through.** -/
theorem Policy.exists_flushEach (hsteady : HeapView.Steady s.heap)
    (h : ∀ t ∈ ts, (Site.mk s t).Flushable p) :
    ∃ n us u, p.flushEach ts s = (.ok n, us, u) := by
  induction ts generalizing s with
  | nil => exact ⟨0, [], s, rfl⟩
  | cons t ts ih =>
    obtain ⟨b, s₁, hs₁⟩ := succeeds_flush (h t List.mem_cons_self) .safepoint
    have hflushed := flushed_of_yields hs₁
    have hheap : s₁.scene.heap = s.heap := hflushed.settled hsteady
    obtain ⟨n, us, u, hrest⟩ := ih (s := s₁.scene) (hheap ▸ hsteady) fun t' ht' r hr => by
      obtain ⟨hdefers, hstanding⟩ := h t' (List.mem_cons_of_mem t ht') r hr
      exact ⟨hdefers, hstanding.of_like hflushed.like hheap⟩
    refine ⟨b.toNat + n, s₁.thread :: us, u, ?_⟩
    have hrun : (p.flush .safepoint).run (Site.mk s t) = (.ok b, s₁) := hs₁
    rw [flushEach, hrun]
    dsimp only
    rw [hrest]
    rfl

/-- **A drain comes through** if every slot can be flushed and the counters can be told. -/
theorem Policy.succeeds_drain (hsteady : HeapView.Steady s.heap)
    (h : ∀ t ∈ ts, (Site.mk s t).Flushable p)
    (hsum : s.ledger.tally.referenceFree.toNat + s.ledger.tally.young.toNat < UInt64.size) :
    p.drain.Succeeds (Site.mk s ts) := by
  obtain ⟨n, us, t, hround⟩ := exists_flushEach hsteady h
  obtain ⟨bs, hflushes, -, -⟩ := flushEach_round hround
  have hdrained := hflushes.drained
  -- neither counter of the sentence is touched by the round or by the count of the drain
  have hfree : (p.tallied [.drain] t.ledger.tally).referenceFree = s.ledger.tally.referenceFree :=
    (get_tallied_of_not_mem (k := .referenceFree) (by decide)).trans
      (hdrained.get_eq (k := .referenceFree) (by decide))
  have hyoung : (p.tallied [.drain] t.ledger.tally).young = s.ledger.tally.young :=
    (get_tallied_of_not_mem (k := .young) (by decide)).trans
      (hdrained.get_eq (k := .young) (by decide))
  rw [← hfree, ← hyoung] at hsum
  obtain ⟨o, j, hrun, hout⟩ := p.exists_run_end_drain us.length n t us
  obtain rfl := hout (Event.speakable_counted hsum)
  unfold Succeeds Yields
  rw [run_drain, hround]
  exact ⟨n, _, hrun⟩

end Drain

omit [HeapView ω] in
/-- **A thread can be thrown away** if its slot is empty. -/
theorem Arena.succeeds_discard {a : Arena CardTable ω Mutator} {name : String} {t : Mutator}
    (ht : a.threads.find? name = some t) (hslot : t.slot = .empty) :
    (Arena.change (.discard name none)).Succeeds a := by
  refine Yields.succeeds_bind (yields_get.2 ⟨rfl, rfl⟩) ?_
  refine Yields.succeeds_bind (yields_ofExcept.2 ⟨Threads.require_eq_ok_iff.2 ht, rfl⟩) ?_
  refine Succeeds.bind ⟨(), _, rfl⟩ fun _ c _ => ⟨(), c, yields_ofExcept.2 ⟨?_, rfl⟩⟩
  show t.dismissal = .ok ()
  rw [Mutator.dismissal, hslot]

end CardBarrier
