import CardBarrier.Proofs.MoveEffect
import CardBarrier.Proofs.TableHistory

/-!
# Runs of moves

A run is moves made one after the other, each where the one before it left off and each
coming through. What was asked and what came of it is kept as the *steps* of the run, oldest
first, and which moves may be made next is a matter of the steps so far and of where they
led (`Policy.Runs`).

Two things are read off a move, neither of which is a matter of what waits in which slot: the
intervals it *wants* marked (`Policy.Wants`) and the cards it *clears* (`Move.Clears`). Of the
steps of a run this makes a record of what its cards should remember
(`Policy.Recorded`): that which some step wanted marked and no later step cleared.
-/

namespace CardBarrier

open Act

/-- **A step of a run.** -/
structure Step (ω : Type) where
  /-- Where it was made. -/
  before : Arena CardTable ω Mutator
  /-- What was asked for. -/
  move : Move ω Mutator
  /-- Where it led. -/
  after : Arena CardTable ω Mutator

/-- No mark waits in any slot. -/
def Arena.NonePending {ω : Type} (a : Arena CardTable ω Mutator) : Prop :=
  ∀ name t, a.threads.find? name = some t → t.slot = .empty

/-- A list of names, or the absence of one, stands for every thread. -/
def Arena.ListsAll {ω : Type} (a : Arena CardTable ω Mutator) (names : Option (List String)) :
    Prop :=
  ∀ name t, a.threads.find? name = some t → name ∈ names.getD a.threads.names

/-- If no names are given, those of all threads are meant. -/
theorem Arena.listsAll_none {ω : Type} (a : Arena CardTable ω Mutator) : a.ListsAll none :=
  fun _ t ht => Threads.mem_names_iff.2 ⟨t, ht⟩

/-- **The cards that a move clears.** -/
def Move.Clears {ω : Type} (g : Geometry) (i : Nat) : Move ω Mutator → Prop
  | .clear r => g.Meets i r
  | .reset => True
  | _ => False

variable {ω : Type} [HeapView ω]

/-- **The object leaves an interval to be marked**: it is not an array without references, it
is not young, and the interval is its extent. -/
def Scene.Owes (s : Scene CardTable ω) (object : Address) (r : Interval) : Prop :=
  s.ledger.cards.isYoung object = false ∧
    ∃ h h', (HeapView.isReferenceFree object).Yields s.heap false h ∧
      (HeapView.extent object).Yields h r h'

/-- What an object owes is a matter of where young objects are and of the objects. -/
theorem Scene.owes_congr {s t : Scene CardTable ω} {object : Address} {r : Interval}
    (hyoung : t.ledger.cards.young = s.ledger.cards.young) (hheap : t.heap = s.heap) :
    t.Owes object r ↔ s.Owes object r := by
  unfold Scene.Owes CardTable.isYoung
  rw [hyoung, hheap]

/-- **What a move wants marked.** A mark wants its interval, an array write the bytes that it
touches, and an allocation what its object owes at the moment when it is looked at, which is
after the last mark of the thread has gone. -/
inductive Policy.Wants (p : Policy) (a : Arena CardTable ω Mutator) :
    Move ω Mutator → Interval → Prop
  | mark (r : Interval) : Wants p a (.mark r) r
  | forceMark (r : Interval) : Wants p a (.forceMark r) r
  | writeSpan (r : Interval) : Wants p a (.writeSpan r) r
  | writeArray {start : Address} {count : UInt64} {r : Interval}
      (h : p.layout.written start count = .ok r) : Wants p a (.writeArray start count) r
  | writeOnFastPath {start : Address} {count : UInt64} {r : Interval}
      (h : p.layout.written start count = .ok r) : Wants p a (.writeOnFastPath start count) r
  | allocate {name : String} {object : Address} {t : Mutator} {b : Bool}
      {s : Site CardTable ω Mutator} {r : Interval} (hfind : a.threads.find? name = some t)
      (hflush : (p.flush .allocation).Yields ⟨a.scene, t⟩ b s) (howes : s.scene.Owes object r) :
      Wants p a (.allocate name object) r

/-- **What an allocation wants marked its object owes**, if asking about objects does not change
them: the flush that goes before makes no difference. -/
theorem Policy.Wants.owes {p : Policy} {a : Arena CardTable ω Mutator} {name : String}
    {object : Address} {r : Interval} (hsteady : HeapView.Steady a.scene.heap)
    (h : p.Wants a (.allocate name object) r) : a.scene.Owes object r := by
  cases h with
  | allocate _ hflush howes =>
    have hflushed := flushed_of_yields hflush
    exact (Scene.owes_congr hflushed.like.young (hflushed.settled hsteady)).1 howes

/-- **A run** from an arena, with the steps made and the arena reached. -/
inductive Policy.Runs (p : Policy)
    (admits : List (Step ω) → Arena CardTable ω Mutator → Move ω Mutator → Prop)
    (a : Arena CardTable ω Mutator) : List (Step ω) → Arena CardTable ω Mutator → Prop
  | start : Runs p admits a [] a
  | step {steps : List (Step ω)} {b c : Arena CardTable ω Mutator} {m : Move ω Mutator}
      {reply : Reply} (h : Runs p admits a steps b) (hm : admits steps b m)
      (hstep : (p.perform m).Yields b reply c) : Runs p admits a (steps ++ [⟨b, m, c⟩]) c

theorem Policy.Runs.eq_of_nil {p : Policy}
    {admits : List (Step ω) → Arena CardTable ω Mutator → Move ω Mutator → Prop}
    {a b : Arena CardTable ω Mutator} (h : p.Runs admits a [] b) : b = a := by
  generalize hs : ([] : List (Step ω)) = steps at h
  cases h with
  | start => rfl
  | step _ _ _ => exact absurd hs.symm (List.concat_ne_nil _ _)

/-- **The last step of a run.** -/
theorem Policy.Runs.of_append {p : Policy}
    {admits : List (Step ω) → Arena CardTable ω Mutator → Move ω Mutator → Prop}
    {a c : Arena CardTable ω Mutator} {steps : List (Step ω)} {s : Step ω}
    (h : p.Runs admits a (steps ++ [s]) c) :
    ∃ b reply, p.Runs admits a steps b ∧ admits steps b s.move ∧
      (p.perform s.move).Yields b reply c ∧ s = ⟨b, s.move, c⟩ := by
  generalize hs : steps ++ [s] = all at h
  cases h with
  | start => exact absurd hs (List.concat_ne_nil _ _)
  | @step before b _ m reply h hm hstep =>
    obtain ⟨rfl, hlast⟩ := List.append_inj' hs rfl
    obtain rfl : s = ⟨b, m, c⟩ := by simpa using hlast
    exact ⟨b, reply, h, hm, hstep, rfl⟩

/-! ## What lasts

Of what the steps of a run did some is undone by later ones. -/

/-- **Something lasts** if some step did it and no later one undid it. -/
def Lasts (does undoes : Step ω → Prop) (steps : List (Step ω)) : Prop :=
  ∃ before s after, steps = before ++ s :: after ∧ does s ∧ ∀ s' ∈ after, ¬undoes s'

section Lasts

variable {does undoes : Step ω → Prop}

omit [HeapView ω] in
theorem not_lasts_nil : ¬Lasts does undoes [] := not_remains_nil

omit [HeapView ω] in
/-- **What lasts after one more step**: what did before and the step did not undo, and what the
step did. -/
theorem lasts_append {steps : List (Step ω)} {s : Step ω} :
    Lasts does undoes (steps ++ [s]) ↔ Lasts does undoes steps ∧ ¬undoes s ∨ does s :=
  remains_append

end Lasts

/-- A step wants the card marked. -/
def Policy.WantsCard (p : Policy) (g : Geometry) (s : Step ω) (i : Nat) : Prop :=
  ∃ r, p.Wants s.before s.move r ∧ g.Meets i r

/-- **The card should be remembered**: some step wanted it marked, and no later one cleared
it. -/
def Policy.Recorded (p : Policy) (g : Geometry) (steps : List (Step ω)) (i : Nat) : Prop :=
  Lasts (fun s => p.WantsCard g s i) (fun s => s.move.Clears g i) steps

variable {p : Policy}

/-- **What an object owes is what an allocation finds out about it.** -/
theorem Scene.owes_iff {s : Site CardTable ω Mutator} {object : Address} {r : Interval} :
    s.scene.Owes object r ↔ ∃ u, (Workplace.assess object).Yields s (.inr r) u := by
  unfold Workplace.assess
  constructor
  · rintro ⟨hyoung, h, h', hfree, hextent⟩
    have hnotYoung : (Workplace.isYoung object).Yields (s.withHeap h) false (s.withHeap h) :=
      congrArg (fun b => (Except.ok b, s.withHeap h)) hyoung
    refine ⟨s.withHeap h', yields_bind.2 ⟨false, _, Site.yields_onHeap.2 ⟨h, hfree, rfl⟩, ?_⟩⟩
    refine yields_bind.2 ⟨false, _, hnotYoung, ?_⟩
    exact yields_bind.2 ⟨r, _, Site.yields_onHeap.2 ⟨h', hextent, rfl⟩, yields_pure.2 ⟨rfl, rfl⟩⟩
  · rintro ⟨u, hassess⟩
    obtain ⟨free, s₁, hkind, hrest⟩ := yields_bind.1 hassess
    obtain ⟨h, hfree, rfl⟩ := Site.yields_onHeap.1 hkind
    cases free with
    | true =>
      obtain ⟨hne, -⟩ := yields_pure.1 hrest
      cases hne
    | false =>
      obtain ⟨young, s₂, hage, hlast⟩ := yields_bind.1 hrest
      obtain ⟨hyoung, rfl⟩ := Site.untouched_isYoung hage
      cases young with
      | true =>
        obtain ⟨hne, -⟩ := yields_pure.1 hlast
        cases hne
      | false =>
        obtain ⟨r', s₃, hbounds, hpure⟩ := yields_bind.1 hlast
        obtain ⟨h', hextent, rfl⟩ := Site.yields_onHeap.1 hbounds
        obtain ⟨heq, -⟩ := yields_pure.1 hpure
        cases heq
        exact ⟨hyoung.symm, h, h', hfree, hextent⟩

/-! ## What becomes of a slot -/

section Slot

variable {a c : Arena CardTable ω Mutator} {m : Move ω Mutator} {name : String} {t : Mutator}

/-- **A thread after a move** is as it was, or its slot is empty, or it has just allocated an
object that owes a mark and the mark waits, or it has just attached. -/
theorem Policy.Effect.slot_cases (h : p.Effect a m c) (ht : c.threads.find? name = some t) :
    a.threads.find? name = some t ∨ t.slot = .empty ∨
      (∃ object r, m = .allocate name object ∧ p.defers = true ∧ p.Wants a m r ∧
        t.slot = .holding r) ∨
      m = .change (.attach name t) := by
  cases h with
  | unreduced _ hfind =>
    obtain ⟨rfl, rfl⟩ | hsame := Threads.find?_insert_cases ht
    · exact .inl hfind
    · exact .inl hsame
  | @allocated _ object u b verdict s₁ s₂ s₃ _ hfind hflush hassess hconcluded =>
    obtain ⟨rfl, rfl⟩ | hsame := Threads.find?_insert_cases ht
    · have hempty : s₂.thread.slot = .empty := by
        rw [(Workplace.untouched_assess hassess).thread, (flushed_of_yields hflush).thread_eq]
        rfl
      cases hconcluded with
      | skipped _ hthread _ | marked _ _ _ hthread _ => exact .inr (.inl (hthread ▸ hempty))
      | deferred hdefers _ hthread _ =>
        -- the one verdict that leaves something in the slot
        refine .inr (.inr (.inl ⟨object, _, rfl, hdefers, ?_, by rw [hthread]⟩))
        exact .allocate hfind hflush (Scene.owes_iff.2 ⟨s₂, hassess⟩)
    · exact .inl hsame
  | flushed _ _ hflushed hs =>
    obtain ⟨rfl, rfl⟩ | hsame := Threads.find?_insert_cases ht
    · rw [hs.thread, hflushed.thread_eq]
      exact .inr (.inl rfl)
    · exact .inl hsame
  | drained hfind _ _ hthreads _ =>
    rw [hthreads, Threads.find?_insertAll_zip _ hfind] at ht
    split at ht
    · obtain ⟨u, -, rfl⟩ := Option.map_eq_some_iff.1 ht
      exact .inr (.inl rfl)
    · exact .inl ht
  | reported _ _ hthreads => exact .inl (hthreads ▸ ht)
  | attached _ _ hthreads =>
    obtain ⟨rfl, rfl⟩ | hsame := Threads.find?_insert_cases (hthreads ▸ ht)
    · exact .inr (.inr (.inr rfl))
    · exact .inl hsame
  | discarded _ _ =>
    rw [Threads.find?_erase] at ht
    split at ht
    · cases ht
    · exact .inl ht
  | marked _ _ | agreed _ | cleared _ | reset | rearranged _ => exact .inl ht

end Slot

end CardBarrier
