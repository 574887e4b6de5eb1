import CardBarrier.Proofs.Accounting

/-!
# Deferring marks refines making them at once

Of two barriers that differ in when they make up for an old object – one lets the mark wait in
the slot of the thread, the other makes it at once – the second has no pending marks ever. The
account of cards is therefore on its table alone, and the account is the same for both,
since what a move adds to it is found out from objects and from where young ones are and not
from slots. So after every step the table of the one is that of the other with
what is still pending there (`Policy.Runs.abreast`), and the two are the same card for card
whenever nothing is.

Each thing that the argument follows along a run – where young objects are, the objects, which
threads are there, the empty slots of the second barrier, the counter of compensated
allocations – is a function of the move and of what it was before, and has one lemma that says so of
every effect.
-/

namespace CardBarrier

open Act

/-- A thread of that name is there after a move, given whether one was before. -/
def Move.presentAfter {ω : Type} (name : String) (present : Bool) : Move ω Mutator → Bool
  | .change (.attach other _) => decide (name = other) || present
  | .change (.discard other _) => decide (name ≠ other) && present
  | _ => present

/-- As what an allocation is counted that has to be made up for. -/
def Policy.owedKind (p : Policy) : Tally.Kind := if p.defers then .deferred else .markedAtOnce

variable {ω : Type} [HeapView ω]

/-- The move is an allocation whose object owes a mark. -/
def Policy.Owes (p : Policy) (a : Arena CardTable ω Mutator) (m : Move ω Mutator) : Prop :=
  ∃ name object r, m = .allocate name object ∧ p.Wants a m r

/-! ## What becomes of each thing -/

section Step

variable {p q : Policy} {a b c : Arena CardTable ω Mutator} {m : Move ω Mutator}

omit [HeapView ω] in
theorem Threads.isSome_find?_insert {ts : Threads Mutator} {name : String} {t u : Mutator}
    (h : ts.find? name = some t) (other : String) :
    ((ts.insert name u).find? other).isSome = (ts.find? other).isSome := by
  rw [find?_insert]
  split
  · rename_i heq
    rw [heq, h]
    rfl
  · rfl

/-- **Threads come and go only as they attach and are discarded.** -/
theorem Policy.Effect.isSome_find? (h : p.Effect a m c) (name : String) :
    (c.threads.find? name).isSome = m.presentAfter name (a.threads.find? name).isSome := by
  cases h with
  | marked hm _ =>
    cases m <;> first | rfl | cases hm
  | unreduced _ hfind | allocated _ hfind _ _ _ => exact Threads.isSome_find?_insert hfind name
  | flushed hm hfind _ _ =>
    obtain rfl | ⟨_, rfl⟩ := hm <;> exact Threads.isSome_find?_insert hfind name
  | drained hfind _ _ hthreads _ =>
    rw [hthreads, Threads.find?_insertAll_zip _ hfind]
    split
    · exact Option.isSome_map
    · rfl
  | reported _ _ hthreads =>
    rw [hthreads]
    rfl
  | attached _ _ hthreads =>
    rw [hthreads, Threads.find?_insert]
    unfold Move.presentAfter
    split <;> simp [*]
  | discarded _ _ =>
    rw [Threads.find?_erase]
    unfold Move.presentAfter
    split <;> simp [*]
  | agreed _ | cleared _ | reset | rearranged _ => rfl

/-- **Where marks do not wait no mark is ever pending.** -/
theorem Policy.Effect.nonePending (hdefers : p.defers = false) (hadmits : a.Admits m)
    (hnone : a.NonePending) (h : p.Effect a m c) : c.NonePending := by
  intro name t ht
  obtain hbefore | hempty | ⟨_, _, -, hnot, -⟩ | rfl := h.slot_cases ht
  · exact hnone name t hbefore
  · exact hempty
  · rw [hdefers] at hnot
    cases hnot
  · exact hadmits.2

/-- **What an allocation wants marked is what its object owes**, if asking about objects does
not change them. -/
theorem Policy.Effect.wants_allocate_iff_owes {name : String} {object : Address} {r : Interval}
    (hreduces : p.reducesInitialMarks = true) (hsteady : HeapView.Steady a.scene.heap)
    (h : p.Effect a (.allocate name object) c) :
    p.Wants a (.allocate name object) r ↔ a.scene.Owes object r := by
  refine ⟨fun hwants => hwants.owes hsteady, fun howes => ?_⟩
  obtain ⟨t, b, verdict, s, u, v, hfind, hflush, -⟩ := h.of_allocate hreduces
  have hflushed := flushed_of_yields hflush
  refine .allocate hfind hflush ?_
  exact (Scene.owes_congr hflushed.like.young (hflushed.settled hsteady)).2 howes

omit [HeapView ω] in
theorem Policy.owedKind_not_mem {ks : List Tally.Kind}
    (h : ∀ k ∈ [Tally.Kind.deferred, .markedAtOnce], k ∉ ks) : p.owedKind ∉ ks := by
  refine h _ ?_
  unfold owedKind
  cases p.defers <;> decide

omit [HeapView ω] in
theorem Policy.owedKind_not_mem_of_marking {span : Except Fault Interval}
    {kinds : List Tally.Kind} (hm : p.marking m = some (span, kinds)) : p.owedKind ∉ kinds := by
  refine owedKind_not_mem ?_
  cases m with
  | mark _ | forceMark _ | writeSpan _ | writeArray _ _ | writeOnFastPath _ _ =>
    obtain ⟨-, rfl⟩ := Prod.mk.inj (Option.some.inj hm)
    decide
  | _ => cases hm

/-- **A mark that is owed is counted**, as deferred or as made at once. -/
theorem Concluded.get_owedKind {s t : Site CardTable ω Mutator} {r : Interval}
    (hcounts : p.counts = true) (h : Concluded p s t (.inr r)) :
    t.scene.ledger.tally.get p.owedKind = s.scene.ledger.tally.get p.owedKind + 1 := by
  cases h with
  | deferred hdefers hledger _ _ =>
    rw [hledger, Policy.owedKind, if_pos hdefers]
    exact Policy.get_tallied_self hcounts
  | marked hdefers _ hledger _ _ =>
    rw [hledger, Policy.owedKind, hdefers]
    show (p.tallied ([.forcedMark] ++ [.markedAtOnce]) s.scene.ledger.tally).get .markedAtOnce = _
    rw [← Policy.tallied_tallied, Policy.get_tallied_self hcounts,
      Policy.get_tallied_of_not_mem (by decide)]
    rfl

/-- **An allocation whose object owes a mark is counted as such**, in the one way or the
other. -/
theorem Policy.Effect.get_of_owes (hcounts : p.counts = true)
    (hreduces : p.reducesInitialMarks = true) (howes : p.Owes a m) (h : p.Effect a m c) :
    c.scene.ledger.tally.get p.owedKind = a.scene.ledger.tally.get p.owedKind + 1 := by
  obtain ⟨name, object, r, rfl, hwants⟩ := howes
  obtain ⟨t, b, verdict, s, u, v, hfind, hflush, hassess, hconcluded, rfl⟩ :=
    h.of_allocate hreduces
  obtain rfl := (wants_allocate_iff hfind hflush hassess).1 hwants
  show v.scene.ledger.tally.get p.owedKind = _
  rw [hconcluded.get_owedKind hcounts, (Workplace.untouched_assess hassess).ledger,
    (flushed_of_yields hflush).get_eq (owedKind_not_mem (by decide))]

/-- **And nothing else is.** -/
theorem Policy.Effect.get_of_not_owes (hnot : ¬p.Owes a m) (h : p.Effect a m c) :
    c.scene.ledger.tally.get p.owedKind = a.scene.ledger.tally.get p.owedKind := by
  cases h with
  | marked hm hmark => exact get_tallied_of_not_mem (owedKind_not_mem_of_marking hm)
  | unreduced _ _ => rfl
  | @allocated name object _ _ verdict _ _ _ _ hfind hflush hassess hconcluded =>
    cases hconcluded with
    | skipped hledger _ _ =>
      rw [hledger, get_tallied_of_not_mem, (Workplace.untouched_assess hassess).ledger,
        (flushed_of_yields hflush).get_eq (owedKind_not_mem (by decide))]
      refine owedKind_not_mem ?_
      obtain rfl | rfl := Workplace.assess_skips hassess <;> decide
    | deferred _ _ _ _ | marked _ _ _ _ _ =>
      have hwants := (wants_allocate_iff hfind hflush hassess).2 rfl
      exact absurd ⟨name, object, _, rfl, hwants⟩ hnot
  | flushed _ _ hflushed hs =>
    rw [hs.ledger]
    exact hflushed.get_eq (owedKind_not_mem (by decide))
  | drained _ hdrained hledger _ _ =>
    rw [hledger, get_tallied_of_not_mem (owedKind_not_mem (by decide))]
    exact hdrained.get_eq (owedKind_not_mem (by decide))
  | reported hledger _ _ | attached hledger _ _ => rw [hledger]
  | agreed _ | cleared _ | reset | discarded _ _ | rearranged _ => rfl

end Step

/-! ## Side by side -/

/-- **Two policies that compensate and count**, one of which lets marks wait and the other
makes them at once. How they order marks and what they tell may differ. -/
structure Policy.Paired (p q : Policy) : Prop where
  layout : q.layout = p.layout
  reduces : p.reducesInitialMarks = true
  reduces' : q.reducesInitialMarks = true
  counts : p.counts = true
  counts' : q.counts = true
  defers : p.defers = true
  atOnce : q.defers = false

/-- **Two arenas from which to start**: nothing has happened in either, nothing was counted, and
the heap, its young objects and its cards are the same. -/
structure Arena.Paired (a b : Arena CardTable ω Mutator) : Prop where
  fresh : a.Fresh
  fresh' : b.Fresh
  geometry : b.scene.ledger.cards.geometry = a.scene.ledger.cards.geometry
  young : b.scene.ledger.cards.young = a.scene.ledger.cards.young
  heap : b.scene.heap = a.scene.heap
  uncounted : a.scene.ledger.tally = {}
  uncounted' : b.scene.ledger.tally = {}

/-- **What stays true of two arenas side by side.** -/
structure Arena.Abreast (p q : Policy) (a b : Arena CardTable ω Mutator) : Prop where
  geometry : b.scene.ledger.cards.geometry = a.scene.ledger.cards.geometry
  young : b.scene.ledger.cards.young = a.scene.ledger.cards.young
  heap : b.scene.heap = a.scene.heap
  present : ∀ name, (b.threads.find? name).isSome = (a.threads.find? name).isSome
  nonePending : b.NonePending
  accounted : ∀ i, b.Accounted i ↔ a.Accounted i
  counted : b.scene.ledger.tally.get q.owedKind = a.scene.ledger.tally.get p.owedKind

section Abreast

variable {p q : Policy} {a a' b b' : Arena CardTable ω Mutator} {m : Move ω Mutator}
  {steps steps' : List (Step ω)}

omit [HeapView ω] in
theorem Arena.Paired.abreast (h : a.Paired b) : a.Abreast p q b where
  geometry := h.geometry
  young := h.young
  heap := h.heap
  present name := by rw [h.fresh.bare, h.fresh'.bare]
  nonePending name t ht := by
    rw [h.fresh'.bare] at ht
    cases ht
  accounted i := by
    refine iff_of_false ?_ ?_
    · rintro (hdirty | ⟨name, t, ht, -⟩)
      · exact h.fresh'.clean i hdirty
      · rw [h.fresh'.bare] at ht
        cases ht
    · rintro (hdirty | ⟨name, t, ht, -⟩)
      · exact h.fresh.clean i hdirty
      · rw [h.fresh.bare] at ht
        cases ht
  counted := by
    rw [h.uncounted, h.uncounted']
    cases p.owedKind <;> cases q.owedKind <;> rfl

omit [HeapView ω] in
theorem Policy.marking_congr (hlayout : q.layout = p.layout) : q.marking m = p.marking m := by
  cases m <;> simp only [marking, hlayout]

omit [HeapView ω] in
/-- What is in good order in the one arena is so in the other. -/
theorem Arena.Abreast.admits (h : a.Abreast p q b) (hadmits : a.Admits m) : b.Admits m := by
  cases m with
  | clear r | reset => exact h.nonePending
  | change ch =>
    cases ch with
    | attach name t =>
      refine ⟨?_, hadmits.2⟩
      have hpresent := h.present name
      rw [hadmits.1] at hpresent
      exact Option.isSome_eq_false_iff.1 hpresent |> Option.isNone_iff_eq_none.1
    | _ => exact hadmits
  | _ => exact hadmits

/-- **A move takes arenas that are abreast to arenas that are.** -/
theorem Arena.Abreast.step (hpq : p.Paired q) (hsteady : ∀ heap : ω, HeapView.Steady heap)
    (h : a.Abreast p q b) (hadmits : a.Admits m) (ha : p.Effect a m a') (hb : q.Effect b m b') :
    a'.Abreast p q b' := by
  have hwants : ∀ name object r, m = .allocate name object →
      (q.Wants b m r ↔ p.Wants a m r) := by
    rintro name object r rfl
    rw [hb.wants_allocate_iff_owes hpq.reduces' (hsteady _),
      ha.wants_allocate_iff_owes hpq.reduces (hsteady _), Scene.owes_congr h.young h.heap]
  have howes : q.Owes b m ↔ p.Owes a m := by
    refine exists_congr fun name => exists_congr fun object => exists_congr fun r => ?_
    exact and_congr_right fun hm => hwants name object r hm
  have hadds : ∀ i, q.Adds b m i ↔ p.Adds a m i := by
    intro i
    unfold Policy.Adds
    rw [Policy.marking_congr hpq.layout, h.geometry]
    refine or_congr_right ?_
    refine exists_congr fun name => exists_congr fun object => exists_congr fun r => ?_
    exact and_congr_right fun hm => and_congr_left fun _ => hwants name object r hm
  refine ⟨?_, ?_, ?_, fun name => ?_, ?_, fun i => ?_, ?_⟩
  · rw [hb.geometry, ha.geometry, h.geometry]
  · rw [hb.like.young, ha.like.young]
    exact congrArg m.youngAfter h.young
  · rw [hb.heap_eq (hsteady _), ha.heap_eq (hsteady _), h.heap]
  · rw [hb.isSome_find?, ha.isSome_find?, h.present]
  · exact hb.nonePending hpq.atOnce (h.admits hadmits) h.nonePending
  · rw [hb.accounted_iff hpq.reduces' (h.admits hadmits), ha.accounted_iff hpq.reduces hadmits,
      h.accounted, h.geometry, hadds]
  · by_cases howed : p.Owes a m
    · rw [hb.get_of_owes hpq.counts' hpq.reduces' (howes.2 howed),
        ha.get_of_owes hpq.counts hpq.reduces howed, h.counted]
    · rw [hb.get_of_not_owes fun hq => howed (howes.1 hq), ha.get_of_not_owes howed, h.counted]

/-- **Runs of the same moves stay abreast.** -/
theorem Policy.Runs.abreast (hpq : p.Paired q) (hsteady : ∀ heap : ω, HeapView.Steady heap)
    (hstart : a.Paired b) (ha : p.Runs (fun _ => Arena.Admits) a steps a')
    (hb : q.Runs (fun _ _ _ => True) b steps' b')
    (hmoves : steps'.map Step.move = steps.map Step.move) : a'.Abreast p q b' := by
  induction ha generalizing steps' b' with
  | start =>
    obtain rfl := List.map_eq_nil_iff.1 hmoves
    obtain rfl := hb.eq_of_nil
    exact hstart.abreast
  | @step steps a₁ a₂ m reply _ hadmits hstep ih =>
    rw [List.map_append, List.map_eq_append_iff] at hmoves
    obtain ⟨steps₁, last, rfl, hbefore, hlast⟩ := hmoves
    obtain ⟨s, rfl, hs⟩ := List.map_eq_singleton_iff.1 hlast
    obtain ⟨b₁, reply', hb₁, -, hstep', -⟩ := hb.of_append
    obtain rfl : s.move = m := hs
    have hadmits' := (ih hb₁ hbefore).admits hadmits
    exact (ih hb₁ hbefore).step hpq hsteady hadmits (effect_of_yields hadmits.isOrderly hstep)
      (effect_of_yields hadmits'.isOrderly hstep')

/-- **Deferring refines marking at once.** After the same moves the dirty cards of the barrier
that marks at once are those of the barrier that defers, together with the cards that meet what is
still pending there. Whenever nothing is, the two tables are the same card for card; and as many
marks were made at once by the one as were deferred by the other. -/
theorem Policy.Runs.deferring_refines_marking (hpq : p.Paired q)
    (hsteady : ∀ heap : ω, HeapView.Steady heap) (hstart : a.Paired b)
    (ha : p.Runs (fun _ => Arena.Admits) a steps a')
    (hb : q.Runs (fun _ _ _ => True) b steps' b')
    (hmoves : steps'.map Step.move = steps.map Step.move) :
    (∀ i, b'.scene.ledger.cards.Dirty i ↔ a'.scene.ledger.cards.Dirty i ∨
        a'.threads.Pends a'.scene.ledger.cards.geometry i) ∧
      (a'.NonePending →
        b'.scene.ledger.cards.cards.toList = a'.scene.ledger.cards.cards.toList) ∧
      b'.scene.ledger.tally.markedAtOnce = a'.scene.ledger.tally.deferred := by
  have h := abreast hpq hsteady hstart ha hb hmoves
  have hdirty : ∀ i, b'.scene.ledger.cards.Dirty i ↔ a'.Accounted i := fun i =>
    (or_iff_left h.nonePending.not_pends).symm.trans (h.accounted i)
  refine ⟨hdirty, fun hnone => ?_, ?_⟩
  · refine CardTable.cards_eq_of_dirty_iff h.geometry fun i => ?_
    exact (hdirty i).trans (or_iff_left hnone.not_pends)
  · have hcounted := h.counted
    unfold owedKind at hcounted
    rw [hpq.defers, hpq.atOnce] at hcounted
    exact hcounted

end Abreast

namespace SmallHeap

theorem moves_steps (p : Policy) : (steps p).map Step.move =
    [.change (.attach "m" ⟨0, .empty⟩), .allocate "m" 512] := rfl

/-- The object of the small heap is marked at once or is still pending. -/
theorem dirty_or_pends :
    (∀ i, (allocated (policy false)).scene.ledger.cards.Dirty i ↔
      (allocated (policy true)).scene.ledger.cards.Dirty i ∨
        (allocated (policy true)).threads.Pends geometry i) ∧
      (allocated (policy false)).scene.ledger.tally.markedAtOnce = 1 := by
  have hdefer : (policy true).Runs (fun _ => Arena.Admits) start (steps (policy true))
      (allocated (policy true)) := runs_steps true ⟨rfl, rfl⟩ trivial
  have hatOnce : (policy false).Runs (fun _ _ _ => True) start (steps (policy false))
      (allocated (policy false)) := runs_steps false trivial trivial
  have hpaired : (policy true).Paired (policy false) := ⟨rfl, rfl, rfl, rfl, rfl, rfl, rfl⟩
  have hstart : start.Paired start := ⟨fresh_start, fresh_start, rfl, rfl, rfl, rfl, rfl⟩
  obtain ⟨hdirty, -, hcounted⟩ := Policy.Runs.deferring_refines_marking hpaired Objects.steady
    hstart hdefer hatOnce ((moves_steps _).trans (moves_steps _).symm)
  exact ⟨hdirty, hcounted⟩

end SmallHeap

end CardBarrier
