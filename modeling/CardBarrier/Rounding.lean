import CardBarrier.Fault

/-!
# Rounding to an alignment

Rounding refuses an alignment that is no power of two. That a value is
already aligned is asked without that check, by the bits below the
alignment: with an alignment of zero the question has no answer, and with
one that is no power of two it is a question about bits and not about
multiples.
-/

namespace CardBarrier.Word

/-- Stops unless the alignment is a power of two. -/
def requirePowerOfTwo (a : UInt64) : Except Fault Unit :=
  if IsPowerOfTwo a then .ok () else .error .badAlignment

/-- The least multiple of the alignment not below `v`, where there is one. -/
def ceiling (v a : UInt64) : Except Fault (Option UInt64) := do
  requirePowerOfTwo a
  return roundUp? v a

/-- The greatest multiple of the alignment not above `v`. -/
def floor (v a : UInt64) : Except Fault UInt64 := do
  requirePowerOfTwo a
  return roundDown v a

/-- None of the bits below the alignment is set. -/
def lowBitsClear (v a : UInt64) : Except Fault Bool :=
  if a = 0 then .error .differenceOverflow else .ok (v &&& (a - 1) == 0)

end CardBarrier.Word
