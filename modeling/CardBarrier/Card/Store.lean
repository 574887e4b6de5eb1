import CardBarrier.Attempt
import CardBarrier.Card.Recorder

/-!
# The collector's side of a card store

The barrier only marks. Clearing cards, asking for one, and saying where young
objects are is the collector's business, and for it a store has to give access
to its card table (`TableBacked`). A `Store` is a card table as it is, or one
behind a recorder.
-/

namespace CardBarrier

/-- **A store with a card table behind it.** -/
class TableBacked (κ : Type) where
  /-- The table. -/
  table : κ → CardTable
  /-- The store with another table. -/
  setTable : CardTable → κ → κ

namespace TableBacked

variable {κ α : Type} [TableBacked κ]

/-- A change of the table that may stop at a fault. -/
def update (f : CardTable → Except Fault CardTable) : Act κ Unit :=
  Act.within table setTable (Act.update f)

instance : TableBacked CardTable where
  table t := t
  setTable t _ := t

instance : TableBacked (Recorder κ) where
  table r := table r.store
  setTable t r := { r with store := setTable t r.store }

end TableBacked

/-- A store of either of two kinds. -/
instance {κ ι : Type} [RememberedSet κ] [RememberedSet ι] : RememberedSet (κ ⊕ ι) where
  mark r := Act.onEither (RememberedSet.mark r) (RememberedSet.mark r)
  forceMark r := Act.onEither (RememberedSet.forceMark r) (RememberedSet.forceMark r)
  isYoung := Sum.elim RememberedSet.isYoung RememberedSet.isYoung
  ordersMarks := Sum.elim RememberedSet.ordersMarks RememberedSet.ordersMarks
  cardBytes := Sum.elim RememberedSet.cardBytes RememberedSet.cardBytes
  summary := Sum.elim RememberedSet.summary RememberedSet.summary

/-- A store of either of two kinds. -/
instance {κ ι : Type} [TableBacked κ] [TableBacked ι] : TableBacked (κ ⊕ ι) where
  table := Sum.elim TableBacked.table TableBacked.table
  setTable t := Sum.map (TableBacked.setTable t) (TableBacked.setTable t)

/-- **A card table**, as it is or behind a recorder. -/
abbrev Store := CardTable ⊕ Recorder CardTable

namespace Store

/-- The marks that were asked for, where they are recorded. -/
def calls? : Store → Option (List MarkCall)
  | .inl _ => none
  | .inr r => some r.calls

/-- **What a store is to be like**, with bounds that may be out of order. -/
structure Plan where
  /-- The bounds of the covered interval. -/
  covered : Address × Address
  /-- The bytes of a card. -/
  cardBytes : UInt64
  /-- When cards are scanned. -/
  scanning : Scanning := .stopTheWorld
  /-- The bounds of the interval where young objects are. -/
  young? : Option (Address × Address) := none
  /-- Marks are recorded. -/
  recorded : Bool := false

/-- The store of a plan: its covered interval is looked at first, then the
fit of its cards, then where young objects are. -/
def ofPlan (p : Plan) : Except Failure Store := do
  let covered ← (Interval.ofBounds p.covered.1 p.covered.2).mapError .fault
  let table ← (CardTable.ofCardSize covered p.cardBytes p.scanning).mapError .setup
  let table ← match p.young? with
    | none => pure table
    | some (start, stop) => do
      let young ← (Interval.ofBounds start stop).mapError .fault
      pure (table.withYoung young)
  return if p.recorded then .inr { store := table } else .inl table

end Store

end CardBarrier
