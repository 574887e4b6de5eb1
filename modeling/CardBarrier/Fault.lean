import CardBarrier.Text.Numeral

/-!
# Faults: what stops a barrier for good

On the store and allocation paths the barrier has no errors to hand back. A
contract broken there means that the cards the next collection scans are
already wrong, so the thread stops at a `Fault`. A fault is recorded by its
cause; `Fault.message` words it.

Two kinds differ in wording only. A broken *invariant* of the barrier names
the condition that failed and then what was seen (`Fault.condition?`,
`Fault.detail`). The rest are the machine's own refusals – a sum that
leaves the word, an alignment that is no power of two – and failures of
those the barrier calls on.
-/

namespace CardBarrier

/-- **The cause for which a thread stops.** -/
inductive Fault where
  /-- The bounds of an interval are out of order. -/
  | inverted (start stop : Address)
  /-- So many heap words from there run past the last address. -/
  | tooManyWords (words : UInt64) (start : Address)
  /-- No multiple of the alignment above the end is an address. -/
  | noRoomAbove (stop : Address) (alignment : UInt64)
  /-- More references than any array can hold. -/
  | tooManyReferences (count : UInt64)
  /-- An array write runs past the last address. -/
  | writePastEnd (count : UInt64) (start : Address)
  /-- References fill whole words, yet the write does not. -/
  | partialWord (written : Interval)
  /-- No card stands for the address. -/
  | uncovered (address : Address) (covered : Interval)
  /-- An allocation came out with no object. -/
  | nullObject
  /-- An object takes no room. -/
  | emptyObject (object : Address)
  /-- A mark is in the slot right after it was flushed. -/
  | pendingAfterFlush
  /-- The slot kept its mark although it was emptied. -/
  | keptAfterFlush
  /-- A mark is pending although none is ever deferred. -/
  | unexpectedMark (region : Interval)
  /-- A mark is pending for a young object, which needs none. -/
  | youngMark (object : Address)
  /-- No well-formed object is where the mark was deferred. -/
  | malformedMark (region : Interval)
  /-- The object where the mark was deferred takes another extent. -/
  | staleMark (region extent : Interval)
  /-- A mark is deferred over one that is still pending. -/
  | slotTaken (region pending : Interval)
  /-- A mutator went away with its mark. -/
  | abandonedMark (id : UInt64) (region : Interval)
  /-- A sum left the word. -/
  | sumOverflow
  /-- A difference went below zero. -/
  | differenceOverflow
  /-- An alignment is not a power of two. -/
  | badAlignment
  /-- An object that the heap does not know was asked about. -/
  | unknownObject (object : Address)
  /-- A failure that began outside the barrier. -/
  | foreign (message : String)
  deriving DecidableEq

namespace Fault

/-- The condition that failed, of a broken invariant. -/
def condition? : Fault → Option String
  | inverted .. => some "start <= end"
  | tooManyWords .. | noRoomAbove .. | writePastEnd .. => some "end.is_some()"
  | tooManyReferences _ => some "count <= isize::MAX as usize"
  | partialWord _ => some "aligned == written"
  | uncovered .. => some "self.covered.contains(addr)"
  | nullObject => some "!obj.is_null()"
  | emptyObject _ => some "!region.is_empty()"
  | pendingAfterFlush | keptAfterFlush => some "thread.deferred_card_mark().is_none()"
  | unexpectedMark _ => some "self.deferral_enabled"
  | youngMark _ => some "!self.cards.is_in_young(obj)"
  | malformedMark _ => some "self.objects.is_well_formed(obj)"
  | staleMark .. => some "extent == region"
  | slotTaken .. => some "self.is_empty()"
  | abandonedMark .. => some "self.deferred.is_empty()"
  | sumOverflow | differenceOverflow | badAlignment | unknownObject _ | foreign _ => none

/-- What was seen. -/
def detail : Fault → String
  | inverted start stop => s!"inverted range [{hex start}, {hex stop})"
  | tooManyWords words start =>
    s!"range of {words} words at {hex start} overflows the address space"
  | noRoomAbove stop alignment => s!"end {hex stop} cannot be rounded up to {alignment}"
  | tooManyReferences count => s!"array write count {count} too large"
  | writePastEnd count start =>
    s!"array write of {count} references at {hex start} overflows the address space"
  | partialWord written =>
    s!"expected heap word alignment of {written} with word-sized references"
  | uncovered address covered => s!"address {hex address} outside card table coverage {covered}"
  | nullObject => "slow-path allocation produced a null object"
  | emptyObject object => s!"object {hex object} has an empty extent"
  | pendingAfterFlush => "deferred card mark still pending after flush"
  | keptAfterFlush => "deferred card mark not cleared after flush"
  | unexpectedMark region =>
    s!"deferred card mark {region} pending while deferral is disabled"
  | youngMark object =>
    s!"deferred object {hex object} is in the young generation, " ++
      "it should have been filtered at allocation"
  | malformedMark region =>
    s!"deferred region {region} does not start with a well-formed object"
  | staleMark region extent =>
    s!"deferred region {region} does not match object extent {extent}: multiple objects?"
  | slotTaken region pending => s!"deferring {region} while {pending} is still pending"
  | abandonedMark id region =>
    s!"mutator {id} destroyed with deferred card mark {region} pending"
  | sumOverflow => "attempt to add with overflow"
  | differenceOverflow => "attempt to subtract with overflow"
  | badAlignment => "assertion failed: alignment.is_power_of_two()"
  | unknownObject object => s!"no object at {hex object}"
  | foreign message => message

/-- **A broken invariant of the barrier**, as opposed to a refusal of the
machine or a failure from outside. -/
def isInvariant (f : Fault) : Bool := f.condition?.isSome

/-- The wording of a fault. -/
def message (f : Fault) : String :=
  match f.condition? with
  | some condition => s!"Fatal barrier invariant violated at {condition}: {f.detail}"
  | none => f.detail

end Fault

end CardBarrier
