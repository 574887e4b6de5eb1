import CardBarrier.Word

/-!
# Half-open intervals of the heap

An `Interval` is the set of addresses from a first one up to, but not
including, a last one. It is what the barrier speaks of throughout: the
bytes an array write touched, the extent of an object, the part of the
heap a card stands for. Its bounds are in order by construction, so an
interval never has to be checked twice; building one from bounds that
arrive from outside is `Interval.ofBounds`, which can fail.

The view of an interval is its membership: `a ∈ r`.
-/

namespace CardBarrier

/-- **A half-open interval** `[start, stop)` of byte addresses. -/
structure Interval where
  /-- The first address inside. -/
  start : Address
  /-- The first address past the end. -/
  stop : Address
  /-- The bounds are in order. -/
  start_le_stop : start ≤ stop
  deriving DecidableEq

namespace Interval

instance : Membership Address Interval where
  mem r a := r.start ≤ a ∧ a < r.stop

theorem mem_iff {a : Address} {r : Interval} : a ∈ r ↔ r.start ≤ a ∧ a < r.stop :=
  Iff.rfl

instance (a : Address) (r : Interval) : Decidable (a ∈ r) :=
  decidable_of_iff _ (mem_iff (a := a) (r := r)).symm

/-- The interval at address zero that holds nothing. -/
def empty : Interval := ⟨0, 0, UInt64.le_refl 0⟩

instance : Inhabited Interval := ⟨empty⟩

/-- Nothing lies inside. -/
def isEmpty (r : Interval) : Bool := r.start == r.stop

/-- The length in bytes. -/
def length (r : Interval) : UInt64 := r.stop - r.start

/-- The length in whole heap words. -/
def words (r : Interval) : UInt64 := r.length / wordBytes

/-- The address lies inside. -/
def contains (r : Interval) (a : Address) : Bool := decide (a ∈ r)

/-- **The other interval lies inside.** One that is empty does so wherever
its bounds are. -/
def includes (r s : Interval) : Bool :=
  s.isEmpty || (decide (r.start ≤ s.start) && decide (s.stop ≤ r.stop))

/-- Puts an interval in front of others, joined to the first where the two
touch. -/
def consJoining (r : Interval) : List Interval → List Interval
  | [] => [r]
  | s :: rest =>
    if h : r.stop = s.start then
      ⟨r.start, s.stop, UInt64.le_trans (h ▸ r.start_le_stop) s.start_le_stop⟩ :: rest
    else r :: s :: rest

/-- Joins each interval to the one before it where the two touch. -/
def joinTouching (rs : List Interval) : List Interval := rs.foldr consJoining []

theorem toNat_length (r : Interval) :
    r.length.toNat = r.stop.toNat - r.start.toNat :=
  UInt64.toNat_sub_of_le _ _ r.start_le_stop

theorem isEmpty_iff {r : Interval} : r.isEmpty = true ↔ r.start = r.stop :=
  beq_iff_eq

/-- An interval that is not empty holds its first address. -/
theorem start_mem {r : Interval} (h : r.isEmpty = false) : r.start ∈ r := by
  refine ⟨UInt64.le_refl _, UInt64.lt_of_le_of_ne r.start_le_stop fun he => ?_⟩
  rw [isEmpty_iff.2 he] at h
  exact Bool.noConfusion h

end Interval

end CardBarrier
