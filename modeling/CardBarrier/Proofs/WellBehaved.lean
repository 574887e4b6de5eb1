import CardBarrier.Proofs.Accounting
import CardBarrier.Proofs.Progress

/-!
# Runs without faults

A barrier checks much and stops at a fault where something is not as it should be. Most of
its checks are on what others do: that an object is where it is said to be, that a thread
does not go away with a mark in its slot. If others behave (`Behaves`) – objects are as
promised when they are allocated, objects and young ones move only while nothing is pending, a
thread detaches before it goes – then no check ever fails, and every move of every run comes
through.

The checks of a flush are on a mark that was deferred some moves ago, so they hold for what was
true then and has stayed so. The invariant is that everything pending anywhere can be flushed
(`Arena.Flushable`). The one check left is on the sum that a drain puts into words, and it cannot
leave the word before as many events have been counted.
-/

namespace CardBarrier

open Act

/-! ## Events counted -/

/-- A figure for each kind of event, summed. -/
def Tally.overKinds (f : Kind → Nat) : Nat := kinds.foldr (fun k n => f k + n) 0

/-- How many events a tally holds, of all kinds together. -/
def Tally.total (t : Tally) : Nat := overKinds fun k => (t.get k).toNat

/-- **How many events were counted** from one tally to another, of all kinds together. -/
def Tally.since (before after : Tally) : Nat :=
  overKinds fun k => (after.get k - before.get k).toNat

/-- A counter holds no more than it did and what was counted since: one that wrapped holds
less. -/
theorem Tally.toNat_get_le (before after : Tally) (k : Kind) :
    (after.get k).toNat ≤ (before.get k).toNat + (after.get k - before.get k).toNat := by
  have hsum : before.get k + (after.get k - before.get k) = after.get k := by
    rw [UInt64.add_comm, UInt64.sub_add_cancel]
  calc (after.get k).toNat
    _ = (before.get k + (after.get k - before.get k)).toNat := by rw [hsum]
    _ ≤ _ := by
      rw [UInt64.toNat_add]
      exact Nat.mod_le _ _

/-- So do all of them together. -/
theorem Tally.total_le (before after : Tally) :
    after.total ≤ before.total + before.since after := by
  unfold total since overKinds
  induction kinds with
  | nil => exact Nat.le_refl 0
  | cons k ks ih =>
    have hk := toNat_get_le before after k
    simp only [List.foldr_cons] at ih ⊢
    omega

/-- The two kinds that the sentence on the counters adds up are two of those counted. -/
theorem Tally.skipped_le_total (t : Tally) :
    t.referenceFree.toNat + t.young.toNat ≤ t.total := by
  show _ ≤ t.writes.toNat + (t.marks.toNat + (t.forcedMarks.toNat + (t.markedAtOnce.toNat +
    (t.deferred.toNat + (t.flushed.toNat + (t.referenceFree.toNat + (t.young.toNat +
      (t.drains.toNat + 0))))))))
  omega

variable {ω : Type}

/-- How many events a run counts. -/
def counted : List (Step ω) → Nat
  | [] => 0
  | s :: steps => s.before.scene.ledger.tally.since s.after.scene.ledger.tally + counted steps

theorem counted_append (steps : List (Step ω)) (s : Step ω) : counted (steps ++ [s])
    = counted steps + s.before.scene.ledger.tally.since s.after.scene.ledger.tally := by
  induction steps with
  | nil => exact Nat.add_comm _ _
  | cons s' steps ih =>
    rw [List.cons_append, counted, counted, ih, Nat.add_assoc]

/-! ## Good behaviour -/

/-- A thread of that name is there. -/
def Arena.Attached (a : Arena CardTable ω Mutator) (name : String) : Prop :=
  ∃ t, a.threads.find? name = some t

/-- **The thread has detached**, and has allocated nothing since. -/
def Detached (name : String) (steps : List (Step ω)) : Prop :=
  Lasts (fun s => s.move = .detach name) (fun s => ∃ object, s.move = .allocate name object) steps

variable [HeapView ω]

/-- **Moves of those who behave**: threads attach with nothing pending, allocate objects that are
as promised, are flushed, and detach before they are thrown away; and objects and young ones move
only while nothing is pending. -/
def Behaves (steps : List (Step ω)) (a : Arena CardTable ω Mutator) : Move ω Mutator → Prop
  | .change (.attach name t) => a.threads.find? name = none ∧ t.slot = .empty
  | .change (.discard name underway) =>
    a.Attached name ∧ underway = none ∧ Detached name steps
  | .allocate name object => a.Attached name ∧ object ≠ 0 ∧ ∃ r, a.scene.Sound object r
  | .detach name | .flush name _ => a.Attached name
  | .drain names => ∀ name ∈ names.getD a.threads.names, a.Attached name
  | .moveYoung _ | .change (.rearrange _) => a.NonePending
  | _ => False

/-- The move leaves objects and young ones where they are. -/
def Move.LeavesObjects : Move ω Mutator → Prop
  | .moveYoung _ | .change (.rearrange _) => False
  | _ => True

variable {p : Policy} {a b c : Arena CardTable ω Mutator} {m : Move ω Mutator}
  {steps : List (Step ω)} {name : String} {t : Mutator}

theorem Behaves.isOrderly (h : Behaves steps a m) : m.IsOrderly := by
  cases m with
  | writeTogether _ => exact h
  | change ch =>
    cases ch with
    | assign _ _ => exact h
    | _ => trivial
  | _ => trivial

theorem Behaves.leavesObjects_or_nonePending (h : Behaves steps a m) :
    m.LeavesObjects ∨ a.NonePending := by
  cases m with
  | moveYoung _ => exact .inr h
  | change ch =>
    cases ch with
    | rearrange _ => exact .inr h
    | _ => exact .inl trivial
  | _ => exact .inl trivial

/-- What stands goes on standing if the move leaves it alone. -/
theorem Policy.Effect.standing {r : Interval} (hsteady : HeapView.Steady a.scene.heap)
    (hm : m.LeavesObjects) (h : p.Effect a m c) (hstanding : a.scene.Standing r) :
    c.scene.Standing r := by
  have hlike := h.like
  have hheap := h.heap_eq hsteady
  cases m with
  | moveYoung _ => exact hm.elim
  | change ch =>
    cases ch with
    | rearrange _ => exact hm.elim
    | _ => exact hstanding.of_like ⟨hlike.geometry, hlike.young⟩ hheap
  | _ => exact hstanding.of_like ⟨hlike.geometry, hlike.young⟩ hheap

/-! ## What good behaviour keeps true -/

/-- **Everything pending can be flushed.** -/
def Arena.Flushable (p : Policy) (a : Arena CardTable ω Mutator) : Prop :=
  ∀ name t, a.threads.find? name = some t → (Site.mk a.scene t).Flushable p

/-- **Good behaviour keeps everything pending such that it can be flushed.** -/
theorem Arena.Flushable.step (hsteady : HeapView.Steady a.scene.heap) (hflush : a.Flushable p)
    (hm : Behaves steps a m) (h : p.Effect a m c) : c.Flushable p := by
  intro name t ht r hr
  obtain hsame | hempty | ⟨object, r', rfl, hdefers, hwants, hholding⟩ | rfl := h.slot_cases ht
  · obtain ⟨hdefers, hstanding⟩ := hflush name t hsame r hr
    obtain hleaves | hnone := hm.leavesObjects_or_nonePending
    · exact ⟨hdefers, h.standing hsteady hleaves hstanding⟩
    · rw [hnone name t hsame] at hr
      cases hr
  · rw [hempty] at hr
    cases hr
  · -- the object that owes the mark is the one that was promised
    rw [hholding] at hr
    cases hr
    obtain ⟨-, -, extent, hsound⟩ := hm
    obtain ⟨rfl, hstanding⟩ := hsound.standing_of_owes (hwants.owes hsteady)
    have hleaves : Move.LeavesObjects (.allocate name object : Move ω Mutator) := trivial
    exact ⟨hdefers, h.standing hsteady hleaves hstanding⟩
  · rw [hm.2] at hr
    cases hr

/-- A detachment empties the slot. -/
theorem Policy.Effect.slot_eq_empty (h : p.Effect a (.detach name) c)
    (ht : c.threads.find? name = some t) : t.slot = .empty := by
  cases h with
  | marked hm _ => cases hm
  | flushed hm _ hflushed hs =>
    obtain hm | ⟨_, hm⟩ := hm
    · cases hm
      rw [Threads.find?_insert_self] at ht
      cases ht
      rw [hs.thread, hflushed.thread_eq]
      rfl
    · cases hm

/-- **What is kept true along a run**: everything pending can be flushed, the slot of a thread
that has detached is empty, and no more events are in the tally than were counted. -/
structure Arena.Sane (p : Policy) (steps : List (Step ω)) (a : Arena CardTable ω Mutator) :
    Prop where
  flushable : a.Flushable p
  detached : ∀ name t, Detached name steps → a.threads.find? name = some t → t.slot = .empty
  total_le : a.scene.ledger.tally.total ≤ counted steps

theorem Arena.Sane.step (hsteady : HeapView.Steady a.scene.heap) (hsane : a.Sane p steps)
    (hm : Behaves steps a m) (h : p.Effect a m c) : c.Sane p (steps ++ [⟨a, m, c⟩]) where
  flushable := hsane.flushable.step hsteady hm h
  detached name t hdetached ht := by
    obtain ⟨hlasts, hnot⟩ | rfl := lasts_append.1 hdetached
    · obtain hsame | hempty | ⟨object, _, rfl, -⟩ | rfl := h.slot_cases ht
      · exact hsane.detached name t hlasts hsame
      · exact hempty
      · exact absurd ⟨object, rfl⟩ hnot
      · exact hm.2
    · exact h.slot_eq_empty ht
  total_le := by
    rw [counted_append]
    exact Nat.le_trans (Tally.total_le _ _) (Nat.add_le_add_right hsane.total_le _)

theorem Policy.Runs.sane (hsteady : ∀ heap : ω, HeapView.Steady heap)
    (hbare : ∀ name, a.threads.find? name = none) (huncounted : a.scene.ledger.tally = {})
    (h : p.Runs Behaves a steps b) : b.Sane p steps := by
  induction h with
  | start =>
    refine ⟨fun name t ht => ?_, fun name t _ ht => ?_, ?_⟩
    · rw [hbare] at ht
      cases ht
    · rw [hbare] at ht
      cases ht
    · rw [huncounted]
      exact Nat.le_refl 0
  | step _ hm hstep ih => exact ih.step (hsteady _) hm (effect_of_yields hm.isOrderly hstep)

/-! ## No move fails -/

/-- **A move of those who behave comes through** where things are as a run keeps them. -/
theorem Arena.Sane.succeeds (hsteady : HeapView.Steady a.scene.heap) (hsane : a.Sane p steps)
    (hm : Behaves steps a m) (hcounted : counted steps < UInt64.size) :
    (p.perform m).Succeeds a := by
  cases m with
  | allocate name object =>
    obtain ⟨⟨t, ht⟩, hobject, r, hsound⟩ := hm
    refine Policy.succeeds_silently (succeeds_atThread ht ?_)
    exact Policy.succeeds_finishAllocation hsteady (hsane.flushable name t ht) hobject hsound
  | detach name =>
    obtain ⟨t, ht⟩ := hm
    refine Policy.succeeds_silently (succeeds_atThread ht ?_)
    exact Policy.succeeds_detach (hsane.flushable name t ht)
  | flush name point =>
    obtain ⟨t, ht⟩ := hm
    refine Succeeds.map _ (succeeds_atThread ht ?_)
    exact Policy.succeeds_flush (hsane.flushable name t ht) point
  | drain names =>
    refine Yields.succeeds_bind (yields_get.2 ⟨rfl, rfl⟩) ?_
    refine Succeeds.map _ (succeeds_atThreads hm fun ts hts => ?_)
    refine Policy.succeeds_drain hsteady (fun t ht => ?_) ?_
    · have hmem := List.mem_map_of_mem (f := some) ht
      rw [← hts] at hmem
      obtain ⟨name, -, hname⟩ := List.mem_map.1 hmem
      exact hsane.flushable name t hname
    · exact Nat.lt_of_le_of_lt (Nat.le_trans (Tally.skipped_le_total _) hsane.total_le) hcounted
  | moveYoung young =>
    exact Policy.succeeds_silently ⟨(), _, Policy.onTable_yields.2 ⟨_, rfl, rfl⟩⟩
  | change ch =>
    refine Policy.succeeds_silently ?_
    cases ch with
    | attach name t => exact ⟨(), _, rfl⟩
    | discard name underway =>
      obtain ⟨⟨t, ht⟩, rfl, hdetached⟩ := hm
      exact succeeds_discard ht (hsane.detached name t hdetached ht)
    | rearrange f => exact ⟨(), _, rfl⟩
    | assign _ _ => exact hm.elim
  | _ => exact hm.elim

/-- **No fault is within reach of those who behave.** Wherever a run has led, every move that
they may make next comes through, so that no run of theirs is cut short by a check: provided that
asking about objects does not change them, and before as many events have been counted as a word can
hold. -/
theorem Policy.Runs.succeeds_of_behaves (hsteady : ∀ heap : ω, HeapView.Steady heap)
    (hbare : ∀ name, a.threads.find? name = none) (huncounted : a.scene.ledger.tally = {})
    (h : p.Runs Behaves a steps b) (hm : Behaves steps b m)
    (hcounted : counted steps < UInt64.size) : (p.perform m).Succeeds b :=
  (h.sane hsteady hbare huncounted).succeeds (hsteady _) hm hcounted

namespace SmallHeap

/-- The thread of the small heap behaves, so it can be drained. -/
theorem succeeds_drain_allocated :
    ((policy true).perform (.drain none)).Succeeds (allocated (policy true)) := by
  have hattach : Behaves [] start (.change (.attach "m" ⟨0, .empty⟩)) := ⟨rfl, rfl⟩
  have hsound : (attached (policy true)).scene.Sound 512 ⟨512, 544, by decide⟩ :=
    ⟨⟨false, rfl⟩, rfl, rfl, rfl, rfl, rfl⟩
  have hrun : (policy true).Runs Behaves start (steps (policy true)) (allocated (policy true)) :=
    runs_steps true hattach ⟨⟨_, rfl⟩, by decide, _, hsound⟩
  have hdrain : Behaves (steps (policy true)) (allocated (policy true)) (.drain none) :=
    fun _ => Threads.mem_names_iff.1
  exact hrun.succeeds_of_behaves Objects.steady (fun _ => rfl) rfl hdrain (by decide)

end SmallHeap

end CardBarrier
