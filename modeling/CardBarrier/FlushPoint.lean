/-!
# When a deferred mark is flushed

A deferred mark outlives the allocation that deferred it, but not by much. It
is flushed when its thread next leaves the slow path of an allocation, when
its thread detaches, or when the collector drains every thread before it scans
cards, whichever comes first.
-/

namespace CardBarrier

/-- **The point at which a deferred mark is flushed.** -/
inductive FlushPoint where
  /-- The next slow-path allocation of the thread. -/
  | allocation
  /-- The thread detaches. -/
  | detach
  /-- The collector drains every thread. -/
  | safepoint
  deriving DecidableEq, Inhabited

namespace FlushPoint

/-- The name of a point. -/
def name : FlushPoint → String
  | allocation => "allocation"
  | detach => "thread detach"
  | safepoint => "safepoint"

/-- The point of that name. -/
def ofName? : String → Option FlushPoint
  | "allocation" => some allocation
  | "thread detach" => some detach
  | "safepoint" => some safepoint
  | _ => none

end FlushPoint

end CardBarrier
