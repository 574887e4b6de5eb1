import CardBarrier.Policy

/-!
# Barriers for writes

Any barrier has a name and a width of references and records intervals that
were written. From that alone it can record array writes: the span of the write
is worked out from the layout (`Layout.arraySpan`) and recorded like any
interval, unless the barrier has a way of its own for spans.

A `FastPath` is the way in for writes that are frequent. It keeps the layout,
which does not change, and asks the barrier for nothing but to record the span.
The barrier is shared with whoever else has it and goes on changing, so what a
path keeps of it is where it is found.
-/

namespace CardBarrier

/-- **A barrier for writes.** -/
class WriteBarrier (β : Type) where
  /-- The name of this kind of barrier. -/
  name : β → String
  /-- The width of references in the heap it serves. -/
  layout : β → Layout
  /-- Its marks must not be seen before the stores they stand for. -/
  ordersMarks : β → Bool
  /-- Records an interval whose every reference was written. -/
  record : Interval → Act β Unit
  /-- Records the span of an array write. -/
  recordSpan : Interval → Act β Unit := record

namespace WriteBarrier

variable {β : Type} [WriteBarrier β]

/-- **Records a write of `count` references** from `start` on. -/
def recordArray (start : Address) (count : UInt64) : Act β Unit := do
  let span ← Act.ofExcept ((layout (← get)).arraySpan start count)
  recordSpan span

/-- The array writes of one thread, up to the first that stops. -/
def recordBatch : List (Address × UInt64) → Act β Unit
  | [] => pure ()
  | (start, count) :: writes => do
    recordArray start count
    recordBatch writes

/-- **The array writes of several threads**, one thread after the other. One
that stops does not stop the others; the outcome is the fault of the first
that stopped. -/
def recordBatches : List (List (Address × UInt64)) → Act β Unit
  | [] => pure ()
  | batch :: batches => Act.ofFun fun b =>
    match (recordBatch batch).run b with
    | (.ok (), b) => (recordBatches batches).run b
    | (.error fault, b) => (.error fault, ((recordBatches batches).run b).2)

end WriteBarrier

/-- A barrier of either of two kinds. -/
instance {β γ : Type} [WriteBarrier β] [WriteBarrier γ] : WriteBarrier (β ⊕ γ) where
  name := Sum.elim WriteBarrier.name WriteBarrier.name
  layout := Sum.elim WriteBarrier.layout WriteBarrier.layout
  ordersMarks := Sum.elim WriteBarrier.ordersMarks WriteBarrier.ordersMarks
  record r := Act.onEither (WriteBarrier.record r) (WriteBarrier.record r)
  recordSpan r := Act.onEither (WriteBarrier.recordSpan r) (WriteBarrier.recordSpan r)

/-- **A way into a barrier** for array writes. -/
structure FastPath (π : Type) where
  /-- The width of references, as the barrier said when the path was made. -/
  layout : Layout
  /-- The place at which the barrier is found. -/
  barrier : π
  deriving DecidableEq

namespace FastPath

variable {π β : Type} [WriteBarrier β]

/-- The fast path into the barrier at a place. -/
def into (place : π) (b : β) : FastPath π := ⟨WriteBarrier.layout b, place⟩

/-- The fast path into a barrier, where there is no other and so nothing to say of its place. -/
def ofBarrier (b : β) : FastPath Unit := into () b

/-- **Records a write of `count` references** from `start` on, in the barrier at
the place. -/
def recordArray (path : FastPath π) (start : Address) (count : UInt64) : Act β Unit := do
  let span ← Act.ofExcept (path.layout.arraySpan start count)
  WriteBarrier.recordSpan span

end FastPath

/-- **The least that is a barrier**: it lists the intervals that it is told
were written. -/
structure ListBarrier where
  /-- The width of references. -/
  layout : Layout
  /-- The intervals, oldest first. -/
  regions : List Interval := []
  deriving DecidableEq

namespace ListBarrier

/-- Adds an interval to the list. -/
def add (r : Interval) (b : ListBarrier) : ListBarrier :=
  { b with regions := b.regions ++ [r] }

instance : WriteBarrier ListBarrier where
  name _ := "minimal"
  layout := layout
  ordersMarks _ := false
  record r := modify (add r)

end ListBarrier

end CardBarrier
