import CardBarrier.Proofs.Outcome

/-!
# The course of moves over any store

A course is moves made one after the other by threads, the collector and the runtime, each
coming through, over whichever store the barrier has. Its threads come with an empty slot and
under a new name, and what is in a slot is the barrier's business alone (`Arena.Accepts`).
Everything else is free: cards may be cleared and objects moved while marks wait.

What waits, and where, is kept track of here. A thread either has a mark waiting or has not
(`Mutator.waits`), a flush says whether it had (`Flushed.eq_waits`), and threads stay in order
of their names, so that each is counted once.
-/

namespace CardBarrier

open Act

/-- A mark waits in the slot. -/
def Mutator.waits (t : Mutator) : Bool := !t.slot.isEmpty

theorem Mutator.waits_emptied (t : Mutator) : t.emptied.waits = false := rfl

theorem Mutator.waits_eq_false {t : Mutator} (h : t.slot = .empty) : t.waits = false := by
  rw [waits, h]
  rfl

theorem Mutator.waits_eq_true {t : Mutator} {r : Interval} (h : t.slot = .holding r) :
    t.waits = true := by
  rw [waits, h]
  rfl

/-- **How many marks wait**, in the slots of all threads. -/
def Arena.waiting {κ ω : Type} (a : Arena κ ω Mutator) : Nat := a.threads.count Mutator.waits

/-- **Moves that leave the slots to the barrier.** A thread comes with an empty slot and under a
new name, and is not drained twice over. -/
def Arena.Accepts {κ ω : Type} (a : Arena κ ω Mutator) : Move ω Mutator → Prop
  | .change (.assign _ _) => False
  | .change (.attach name t) => a.threads.find? name = none ∧ t.slot = .empty
  | .drain (some names) => names.Nodup
  | _ => True

theorem Arena.Accepts.leavesSlots {κ ω : Type} {a : Arena κ ω Mutator} {m : Move ω Mutator}
    (h : a.Accepts m) : m.LeavesSlots := by
  cases m with
  | change ch => cases ch <;> first | exact h | trivial
  | _ => trivial

/-- **A move that was made.** -/
structure Deed (κ ω : Type) where
  /-- Where it was made. -/
  before : Arena κ ω Mutator
  /-- What was asked for. -/
  move : Move ω Mutator
  /-- Where it led. -/
  after : Arena κ ω Mutator

variable {κ ω : Type} [RememberedSet κ] [HeapView ω] {p : Policy}

/-! ## What flushes find -/

section Flush

variable {s t : Site κ ω Mutator} {b : Bool}

/-- **A flush says whether a mark was waiting.** -/
theorem Flushed.eq_waits (h : Flushed p s b t) : b = s.thread.waits := by
  cases h with
  | nothing hslot => exact (Mutator.waits_eq_false hslot).symm
  | mark hslot _ _ _ _ _ => exact (Mutator.waits_eq_true hslot).symm

/-- So does a round of flushes, thread by thread. -/
theorem Policy.Round.eq_waits {ts : List Mutator} {bs : List Bool} {s v : Scene κ ω}
    (h : p.Round ts s bs v) : bs = ts.map Mutator.waits := by
  induction h with
  | nil => rfl
  | cons hflush _ ih => rw [List.map_cons, ← ih, (flushed_of_yields hflush).eq_waits]

end Flush

/-! ## Courses -/

variable [TableBacked κ]

/-- **A course of moves** from an arena, with what was done, oldest first, and the arena
reached. -/
inductive Policy.Course (p : Policy) (a : Arena κ ω Mutator) :
    List (Deed κ ω) → Arena κ ω Mutator → Prop
  | start : Course p a [] a
  | step {deeds : List (Deed κ ω)} {b c : Arena κ ω Mutator} {m : Move ω Mutator} {reply : Reply}
      (h : Course p a deeds b) (hm : b.Accepts m) (hstep : (p.perform m).Yields b reply c) :
      Course p a (deeds ++ [⟨b, m, c⟩]) c

section Order

variable {a b c : Arena κ ω Mutator} {m : Move ω Mutator} {reply : Reply}
  {deeds : List (Deed κ ω)}

/-- **Moves keep threads in order of their names.** -/
theorem Policy.Outcome.ordered_threads (h : p.Outcome a m reply c) (ha : a.threads.Ordered) :
    c.threads.Ordered := by
  cases h with
  | unreduced _ _ | allocated _ _ _ _ _ | flushed _ _ _ _ => exact Threads.ordered_insert ha
  | drained _ _ _ hthreads _ =>
    rw [hthreads]
    exact Threads.ordered_insertAll _ ha
  | reported _ _ hthreads =>
    rw [hthreads]
    exact ha
  | attached _ _ hthreads =>
    rw [hthreads]
    exact Threads.ordered_insert ha
  | discarded _ _ => exact Threads.ordered_erase ha
  | ordered _ _ | collected _ _ | rearranged _ => exact ha

theorem Policy.Course.ordered_threads (hbare : ∀ name, a.threads.find? name = none)
    (h : p.Course a deeds b) : b.threads.Ordered := by
  induction h with
  | start => exact Threads.ordered_of_bare hbare
  | step _ hm hstep ih => exact (outcome_of_yields hm.leavesSlots hstep).ordered_threads ih

omit [RememberedSet κ] [HeapView ω] [TableBacked κ] in
/-- **Threads that are drained are named once**, whether their names were given or all are
meant. -/
theorem Arena.Accepts.nodup_drain {names : Option (List String)} (h : a.Accepts (.drain names))
    (ha : a.threads.Ordered) : (names.getD a.threads.names).Nodup := by
  cases names with
  | none => exact ha.nodup_names
  | some names => exact h

end Order

end CardBarrier
