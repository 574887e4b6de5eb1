import CardBarrier.Act
import CardBarrier.Diagnostic
import CardBarrier.Slot

/-!
# Threads, as far as the barrier knows them

Of a thread the barrier sees one thing, the mark that is deferred for it. It
asks for that mark and it sets it. Both are kept by the thread's own record
(`SlotHolder`), and the barrier does not take for granted that the record
answers with what was last set.

Two kinds of record are given. A `Mutator` keeps a slot, and must not go away
while the slot is taken. A `Replay` answers from a list, whatever is set, and
keeps account of what it was asked and told; it shows how the barrier fares with a
record that does not keep its word.
-/

namespace CardBarrier

/-- **The record of a thread.** -/
class SlotHolder (τ : Type) where
  /-- The deferred mark, and the record after it was asked for. -/
  pending : τ → Option Interval × τ
  /-- The record with another deferred mark, or none. -/
  setPending : Option Interval → τ → τ
  /-- What is remarked on when the thread attaches. -/
  arrival : τ → List Diagnostic := fun _ => []
  /-- Whether the record may be thrown away. -/
  dismissal : τ → Except Fault Unit := fun _ => .ok ()

namespace SlotHolder

variable {τ : Type} [SlotHolder τ]

/-- Asks a thread for its deferred mark. -/
def ask : Act τ (Option Interval) := Act.ofFun fun t =>
  let (answer, u) := pending t
  (.ok answer, u)

/-- Sets the deferred mark of a thread. -/
def tell (region : Option Interval) : Act τ Unit := modify (setPending region)

end SlotHolder

/-- **A mutator thread.** -/
structure Mutator where
  /-- Its number. -/
  id : UInt64
  /-- Its deferred mark. -/
  slot : Slot := .empty
  deriving DecidableEq

namespace Mutator

/-- A mutator may be thrown away once its slot is empty. -/
def dismissal (m : Mutator) : Except Fault Unit :=
  match m.slot with
  | .empty => .ok ()
  | .holding r => .error (.abandonedMark m.id r)

instance : SlotHolder Mutator where
  pending m := (m.slot.region?, m)
  setPending region m := { m with slot := .ofOption region }
  arrival m := [.attached m.id]
  dismissal := dismissal

end Mutator

/-- **A record that answers from a list**: each answer once, and the last
one from then on. -/
structure Replay where
  /-- The answers. -/
  answers : List (Option Interval)
  /-- How often it was asked. -/
  asked : Nat := 0
  /-- What it was told, oldest first. -/
  told : List (Option Interval) := []
  deriving DecidableEq

namespace Replay

/-- The next answer; nothing is deferred if there are no answers at all. -/
def next (r : Replay) : Option Interval :=
  match r.answers[r.asked]? with
  | some answer => answer
  | none => r.answers.getLast?.getD none

instance : SlotHolder Replay where
  pending r := (r.next, { r with asked := r.asked + 1 })
  setPending region r := { r with told := r.told ++ [region] }

end Replay

/-- A record of either of two kinds. -/
instance {τ υ : Type} [SlotHolder τ] [SlotHolder υ] : SlotHolder (τ ⊕ υ) where
  pending
    | .inl t => (SlotHolder.pending t).map id .inl
    | .inr u => (SlotHolder.pending u).map id .inr
  setPending region := Sum.map (SlotHolder.setPending region) (SlotHolder.setPending region)
  arrival := Sum.elim SlotHolder.arrival SlotHolder.arrival
  dismissal := Sum.elim SlotHolder.dismissal SlotHolder.dismissal

/-- **A thread**, be it a mutator or a record that answers from a list. -/
abbrev Participant := Mutator ⊕ Replay

end CardBarrier
