import CardBarrier.Interval

/-!
# How addresses and intervals are written

Addresses are written in hexadecimal with lower-case digits and no leading
zero, behind `0x`; intervals as the two bounds between a square and a round
bracket, which is the usual sign for a half-open interval.
-/

namespace CardBarrier

/-- A word in hexadecimal. -/
def hex (a : UInt64) : String := "0x" ++ String.ofList (Nat.toDigits 16 a.toNat)

namespace Interval

/-- An interval as it is shown to people. -/
protected def toString (r : Interval) : String := s!"[{hex r.start}, {hex r.stop})"

instance : ToString Interval := ⟨Interval.toString⟩

end Interval

/-- A switch as it is shown to people. -/
def onOff (b : Bool) : String := if b then "on" else "off"

end CardBarrier
