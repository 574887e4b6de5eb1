import CardBarrier.Json
import CardBarrier.Layout
import CardBarrier.SetupError

/-!
# Settings of a barrier

Settings are read once, when a barrier is set up, and whether marks may be
deferred is decided from them then and never again. Deferral pays where the
compiler leaves out the marks of a fresh object's initializing stores, betting
that the object is young; the mark that makes up for it can wait only if the
compiler in charge is the optimizing one and the heap lets it leave marks out,
and it does wait if either the store wants marks ordered or the settings ask for
it (`Elision.defers`).
-/

namespace CardBarrier

/-- **What the compiler leaves out** on the fast path of allocation. -/
structure Elision where
  /-- It leaves out the marks of initializing stores. -/
  reducesInitialMarks : Bool := true
  /-- The optimizing compiler is in charge. -/
  optimizing : Bool := true
  /-- The heap lets barriers be left out for objects fresh in a buffer of the
  thread's own. -/
  elidesLocalBarriers : Bool := true
  /-- Compensating marks wait even where the store does not want them
  ordered. -/
  defersInitialMark : Bool := false
  deriving DecidableEq, Inhabited

namespace Elision

/-- **Compensating marks are deferred**, given whether the store wants marks
ordered. -/
def defers (e : Elision) (ordersMarks : Bool) : Bool :=
  e.optimizing && e.reducesInitialMarks && e.elidesLocalBarriers &&
    (e.defersInitialMark || ordersMarks)

/-- The switches by name. -/
def json (e : Elision) : JsonValue := .object
  [("reduce_initial_card_marks", .bool e.reducesInitialMarks),
    ("server_compilation", .bool e.optimizing),
    ("can_elide_tlab_store_barriers", .bool e.elidesLocalBarriers),
    ("defer_initial_card_mark", .bool e.defersInitialMark)]

end Elision

/-- The bytes of a card unless settings say otherwise. -/
def defaultCardBytes : UInt64 := 512

/-- **Settings of a barrier.** -/
structure Settings where
  /-- References take less than a heap word. -/
  compressed : Bool := false
  /-- The bytes of a card. -/
  cardBytes : UInt64 := defaultCardBytes
  /-- What the compiler leaves out. -/
  elision : Elision := {}
  /-- Events are given to the event log. -/
  verbose : Bool := false
  /-- Events are counted. -/
  counts : Bool := true
  deriving DecidableEq, Inhabited

/-- An interval by its bounds. -/
def Interval.json (r : Interval) : JsonValue :=
  .object [("start", .word r.start), ("end", .word r.stop)]

/-- A layout by the width of its references. -/
def Layout.json (l : Layout) : JsonValue :=
  .object [("reference_size", .word l.referenceBytes)]

namespace Settings

/-- The width of references that the settings ask for. -/
def layout (s : Settings) : Layout := if s.compressed then .compressed else .wordSized

/-- **The settings can be used**: a card is a power of two of bytes, at least
a heap word and not too many. Compressed references always fit, since a heap
word is twice their width. -/
def validate (s : Settings) : Except SettingsError Unit :=
  if ¬Word.IsPowerOfTwo s.cardBytes then .error (.cardSizeNotPower s.cardBytes)
  else if s.cardBytes < minCardBytes then .error .cardTooSmall
  else if maxCardBytes < s.cardBytes then .error .cardTooLarge
  else .ok ()

/-- The settings by name. -/
def json (s : Settings) : JsonValue := .object
  [("compressed_references", .bool s.compressed),
    ("card_size", .word s.cardBytes),
    ("elision", s.elision.json),
    ("verbose", .bool s.verbose),
    ("stats_enabled", .bool s.counts)]

end Settings

end CardBarrier
