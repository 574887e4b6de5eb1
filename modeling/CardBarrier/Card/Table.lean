import CardBarrier.Card.Geometry
import CardBarrier.Card.RememberedSet

/-!
# A card table

A `CardTable` keeps one state for each card of a geometry. Marking an interval
makes every card that it meets dirty, and clearing makes them clean; both
first ask the geometry which cards these are, so that an interval that leaves
the covered part of the heap is a fault that changes no card. Scanning reports
the part of the heap that each dirty card stands for, in the order of
addresses.

The view of a table is the state of its cards by number, and
`getElem_paint` is the one fact about writing them.
-/

namespace CardBarrier

/-- **The state of a card.** -/
inductive CardState where
  /-- Nothing was recorded since it was last cleared. -/
  | clean
  /-- Something was. -/
  | dirty
  deriving DecidableEq, Inhabited

namespace CardState

/-- The byte that stands for a state. -/
def toByte : CardState → UInt8
  | clean => 0
  | dirty => 1

end CardState

/-- `n` cards from number `first` on put into a state. -/
def paint {m : Nat} (state : CardState) :
    (n first : Nat) → Vector CardState m → Vector CardState m
  | 0, _, cards => cards
  | n + 1, first, cards => paint state n (first + 1) (cards.setIfInBounds first state)

/-- **Painting puts in a state exactly the cards it runs over.** -/
theorem getElem_paint {m : Nat} (state : CardState) (n first : Nat)
    (cards : Vector CardState m) (i : Nat) (hi : i < m) :
    (paint state n first cards)[i]
      = if first ≤ i ∧ i < first + n then state else cards[i] := by
  induction n generalizing first cards with
  | zero =>
    have hout : ¬(first ≤ i ∧ i < first + 0) := by omega
    rw [if_neg hout, paint]
  | succ n ih =>
    rw [paint, ih, Vector.getElem_setIfInBounds hi]
    split
    · rename_i h
      have hin : first ≤ i ∧ i < first + (n + 1) := by omega
      simp [hin]
    · rename_i h
      by_cases hfi : first = i
      · have hin : first ≤ i ∧ i < first + (n + 1) := by omega
        simp [hfi]
      · have hout : ¬(first ≤ i ∧ i < first + (n + 1)) := by omega
        simp [hfi, hout]

/-- **A card table.** -/
structure CardTable where
  /-- The heap it stands for, and how that is divided. -/
  geometry : Geometry
  /-- When its cards are scanned. -/
  scanning : Scanning
  /-- Where young objects are. -/
  young : Interval := Interval.empty
  /-- The state of each card. -/
  cards : Vector CardState geometry.count

namespace CardTable

/-- A table of clean cards, with no young objects. -/
def ofGeometry (g : Geometry) (scanning : Scanning) : CardTable where
  geometry := g
  scanning
  cards := Vector.replicate g.count .clean

/-- A table of clean cards for a covered interval and a card size, where
these fit. -/
def ofCardSize (covered : Interval) (size : UInt64) (scanning : Scanning) :
    Except SetupError CardTable := do
  return ofGeometry (← Geometry.ofCardSize covered size) scanning

/-- The number of cards. -/
def size (t : CardTable) : Nat := t.geometry.count

/-- The part of the heap that has cards. -/
def covered (t : CardTable) : Interval := t.geometry.covered

/-- Puts every card that the interval meets into a state. -/
def put (state : CardState) (r : Interval) (t : CardTable) : Except Fault CardTable := do
  let (first, n) ← t.geometry.cardsOf r
  return { t with cards := paint state n first t.cards }

/-- Makes every card that the interval meets dirty. -/
def mark (r : Interval) (t : CardTable) : Except Fault CardTable := t.put .dirty r

/-- Makes every card that the interval meets clean. -/
def clear (r : Interval) (t : CardTable) : Except Fault CardTable := t.put .clean r

/-- Makes every card clean. -/
def reset (t : CardTable) : CardTable :=
  { t with cards := Vector.replicate t.geometry.count .clean }

/-- Says where young objects are from now on. -/
def withYoung (young : Interval) (t : CardTable) : CardTable := { t with young }

/-- The card that holds the address is dirty. -/
def isDirty (t : CardTable) (a : Address) : Except Fault Bool := do
  let card ← t.geometry.cardOf a
  return t.cards[card] == .dirty

/-- The numbers of the dirty cards, in order. -/
def dirtyCards (t : CardTable) : List (Fin t.geometry.count) :=
  (List.finRange t.geometry.count).filter fun card => t.cards[card] == .dirty

/-- **A scan**: what each dirty card stands for, in the order of addresses. -/
def scan (t : CardTable) : Except Fault (List Interval) :=
  t.dirtyCards.mapM fun card => t.geometry.cardInterval (UInt64.ofNat card.val)

/-- The dirty part of the heap, as intervals that do not touch. -/
def dirtyIntervals (t : CardTable) : Except Fault (List Interval) :=
  Interval.joinTouching <$> t.scan

/-- The object at the address is young. -/
def isYoung (t : CardTable) (a : Address) : Bool := t.young.contains a

/-- The table in one line. -/
def summary (t : CardTable) : String :=
  s!"card table {t.covered} ({t.size} cards of {t.geometry.cardBytes} bytes, " ++
    s!"{t.scanning.name} scanning)"

/-- A card table makes no difference between the two ways of marking. -/
instance : RememberedSet CardTable where
  mark r := Act.update (mark r)
  forceMark r := Act.update (mark r)
  isYoung := isYoung
  ordersMarks t := t.scanning.ordersMarks
  cardBytes t := t.geometry.cardBytes
  summary := summary

end CardTable

end CardBarrier
