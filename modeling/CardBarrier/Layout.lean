import CardBarrier.Interval.Bounds

/-!
# How wide references are, and what an array write touches

References either fill a heap word or are compressed to half of one. With
compressed references two of them share a word, so a bulk write may begin
or end in the middle of a word; the span it marks is widened to whole words,
never narrowed, since a narrowed span could leave a written slot outside
every marked card. With word-sized references there is nothing to widen, and
a write that is not word aligned is a fault.
-/

namespace CardBarrier

/-- **The width of references** in the heap. -/
inductive Layout where
  /-- A reference fills a heap word. -/
  | wordSized
  /-- A reference takes half a heap word. -/
  | compressed
  deriving DecidableEq, Inhabited

namespace Layout

/-- The bytes of a reference. -/
def referenceBytes : Layout → UInt64
  | wordSized => wordBytes
  | compressed => 4

/-- References are narrower than a heap word. -/
def isCompressed (l : Layout) : Bool := l.referenceBytes < wordBytes

/-- The most references a single write may have. -/
def maxCount : UInt64 := 0x7fffffffffffffff

/-- The bytes that a write of `count` references from `start` on touches. -/
def written (l : Layout) (start : Address) (count : UInt64) : Except Fault Interval :=
  if maxCount < count then .error (.tooManyReferences count)
  else
    match (Word.mul? count l.referenceBytes).bind (Word.add? start) with
    | some stop => Interval.ofBounds start stop
    | none => .error (.writePastEnd count start)

/-- **The span that an array write marks**: the bytes it touches, widened to
whole heap words. -/
def arraySpan (l : Layout) (start : Address) (count : UInt64) : Except Fault Interval := do
  let written ← l.written start count
  let span ← written.widen wordBytes
  -- references of a whole word leave nothing to widen
  if l = .wordSized ∧ span ≠ written then throw (.partialWord written)
  return span

end Layout

end CardBarrier
