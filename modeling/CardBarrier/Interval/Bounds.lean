import CardBarrier.Rounding

/-!
# Intervals from bounds that may be out of order

Where an interval is built from addresses that arrive from outside, from a
length or by rounding, the result may not exist: the bounds are inverted, or
the end is no address. Widening to an alignment is the exception worth
noting. It cannot invert its bounds, since its start does not rise and its
end does not fall, so its only failure is an end that leaves the heap.
-/

namespace CardBarrier.Interval

/-- The interval between two bounds. -/
def ofBounds (start stop : Address) : Except Fault Interval :=
  if h : start ≤ stop then .ok ⟨start, stop, h⟩ else .error (.inverted start stop)

/-- The interval of so many heap words from an address on. -/
def ofWords (start : Address) (words : UInt64) : Except Fault Interval :=
  match (Word.mul? words wordBytes).bind (Word.add? start) with
  | some stop => ofBounds start stop
  | none => .error (.tooManyWords words start)

/-- **The interval widened to an alignment**: the start is rounded down and
the end up. -/
def widen (r : Interval) (a : UInt64) : Except Fault Interval :=
  if ha : Word.IsPowerOfTwo a then
    match hs : Word.roundUp? r.stop a with
    | some stop =>
      .ok ⟨Word.roundDown r.start a, stop,
        UInt64.le_trans (Word.roundDown_le _ _)
          (UInt64.le_trans r.start_le_stop (Word.le_of_roundUp? ha.pos hs))⟩
    | none => .error (.noRoomAbove r.stop a)
  else .error .badAlignment

/-- Both bounds are aligned; the end is looked at only if the start is. -/
def boundsAligned (r : Interval) (a : UInt64) : Except Fault Bool := do
  if ← Word.lowBitsClear r.start a then Word.lowBitsClear r.stop a else return false

/-- Both bounds are at the start of a heap word. -/
def onWordBoundaries (r : Interval) : Bool :=
  r.start &&& (wordBytes - 1) == 0 && r.stop &&& (wordBytes - 1) == 0

theorem ofBounds_self (r : Interval) : ofBounds r.start r.stop = .ok r :=
  dif_pos r.start_le_stop

end CardBarrier.Interval
