import CardBarrier.Card.Table
import CardBarrier.Proofs.Coupling

/-!
# What work adds to a ledger

Mutators only ever make cards dirty and counters grow. So what their work does to a ledger
is a *posting*, cards made dirty and counts added, and a ledger after the work is the ledger
before with a posting on top (`Ledger.post`). Postings can be made in any order.

No step of the work looks at a card or a counter. It is therefore coupled with itself over
ledgers that differ by a posting (`Books.coupling_post`): with or without what others have
posted meanwhile, it comes to the same outcome and posts the same. That is said of the steps
on a ledger here and carried over to threads at work, whose object model must not change as
it is asked (`HeapView.Steady`).
-/

namespace CardBarrier

namespace Tally

/-- The counters of two tallies, added. -/
def plus (t u : Tally) : Tally where
  writes := t.writes + u.writes
  marks := t.marks + u.marks
  forcedMarks := t.forcedMarks + u.forcedMarks
  markedAtOnce := t.markedAtOnce + u.markedAtOnce
  deferred := t.deferred + u.deferred
  flushed := t.flushed + u.flushed
  referenceFree := t.referenceFree + u.referenceFree
  young := t.young + u.young
  drains := t.drains + u.drains

theorem plus_assoc (t u v : Tally) : (t.plus u).plus v = t.plus (u.plus v) := by
  simp only [plus, UInt64.add_assoc]

theorem plus_comm (t u : Tally) : t.plus u = u.plus t := by
  simp only [plus, UInt64.add_comm]

theorem plus_empty (t : Tally) : t.plus {} = t := by
  simp only [plus, UInt64.add_zero]

/-- Counting an event adds one to one counter. -/
theorem record_eq_plus (t : Tally) (kind : Kind) :
    t.record kind = t.plus (({} : Tally).record kind) := by
  cases kind <;> simp [record, add, plus]

end Tally

namespace CardTable

/-- The table with some more cards dirty. -/
def dirtied (D : Nat → Bool) (t : CardTable) : CardTable :=
  { t with cards := t.cards.mapIdx fun i s => if D i then .dirty else s }

theorem dirtied_dirtied (D E : Nat → Bool) (t : CardTable) :
    (t.dirtied D).dirtied E = t.dirtied fun i => D i || E i := by
  unfold dirtied
  congr 1
  refine Vector.ext fun i hi => ?_
  cases hE : E i <;> cases hD : D i <;> simp [hE, hD]

theorem dirtied_none (t : CardTable) : t.dirtied (fun _ => false) = t := by
  unfold dirtied
  congr 1
  refine Vector.ext fun i hi => ?_
  simp

/-- **Marking makes some more cards dirty**, and which they are is a matter of the geometry. -/
theorem mark_eq (r : Interval) (t : CardTable) :
    t.mark r = (t.geometry.cardsOf r).map fun span =>
      t.dirtied fun i => decide (span.1 ≤ i ∧ i < span.1 + span.2) := by
  unfold mark put
  cases t.geometry.cardsOf r with
  | error f => rfl
  | ok span =>
    show Except.ok _ = Except.ok _
    congr 1
    unfold dirtied
    congr 1
    refine Vector.ext fun i hi => ?_
    rw [getElem_paint]
    simp

end CardTable

/-- **What is added to a ledger.** -/
structure Posting where
  /-- The cards made dirty. -/
  dirtied : Nat → Bool := fun _ => false
  /-- What was counted. -/
  counted : Tally := {}

namespace Posting

/-- A mark over so many cards from a first one on. -/
def ofSpan (span : Nat × Nat) : Posting :=
  { dirtied := fun i => decide (span.1 ≤ i ∧ i < span.1 + span.2) }

/-- Two postings in one. -/
def plus (e e' : Posting) : Posting :=
  ⟨fun i => e.dirtied i || e'.dirtied i, e.counted.plus e'.counted⟩

theorem plus_comm (e e' : Posting) : e.plus e' = e'.plus e := by
  unfold plus
  rw [Tally.plus_comm]
  congr 1
  funext i
  exact Bool.or_comm _ _

end Posting

namespace Ledger

/-- **The ledger with a posting on top.** -/
def post (l : Ledger CardTable) (e : Posting) : Ledger CardTable :=
  ⟨l.cards.dirtied e.dirtied, l.tally.plus e.counted⟩

theorem post_post (l : Ledger CardTable) (e e' : Posting) :
    (l.post e).post e' = l.post (e.plus e') := by
  unfold post Posting.plus
  rw [CardTable.dirtied_dirtied, Tally.plus_assoc]

/-- **Postings can be made in either order.** -/
theorem post_comm (l : Ledger CardTable) (e e' : Posting) :
    (l.post e).post e' = (l.post e').post e := by
  rw [post_post, post_post, Posting.plus_comm]

theorem post_empty (l : Ledger CardTable) : l.post {} = l := by
  unfold post
  rw [CardTable.dirtied_none, Tally.plus_empty]

theorem tick_eq_post (l : Ledger CardTable) (kind : Tally.Kind) :
    { l with tally := l.tally.record kind } = l.post { counted := ({} : Tally).record kind } := by
  unfold post
  rw [CardTable.dirtied_none, Tally.record_eq_plus]

/-- **A mark is posted or stops**, and which of the two is a matter of the geometry. -/
theorem run_forceMark (r : Interval) (l : Ledger CardTable) :
    (Books.forceMark r : Act (Ledger CardTable) Unit).run l =
      match l.cards.geometry.cardsOf r with
      | .ok span => (.ok (), l.post (.ofSpan span))
      | .error f => (.error f, l) := by
  show (let x := (Act.update (CardTable.mark r)).run l.cards
    (x.1, ({ l with cards := x.2 } : Ledger CardTable))) = _
  unfold Act.update
  rw [Act.run_ofFun, CardTable.mark_eq]
  cases l.cards.geometry.cardsOf r with
  | error f => rfl
  | ok span =>
    show ((.ok (), ⟨_, l.tally⟩) : Except Fault Unit × Ledger CardTable)
      = (.ok (), ⟨_, l.tally.plus {}⟩)
    rw [Tally.plus_empty]
    rfl

theorem geometry_post (l : Ledger CardTable) (e : Posting) :
    (l.post e).cards.geometry = l.cards.geometry := rfl

theorem run_tick (kind : Tally.Kind) (l : Ledger CardTable) :
    (Books.tick kind : Act (Ledger CardTable) Unit).run l =
      (.ok (), l.post { counted := ({} : Tally).record kind }) := by
  rw [← tick_eq_post]
  rfl

end Ledger

/-- **Work does not see what others have posted**: it comes to the same outcome and posts the
same, with their postings or without. -/
theorem Books.coupling_post (p : Policy) (e : Posting) :
    Books.Coupling p p fun l m : Ledger CardTable => m = l.post e := by
  have hmark : ∀ r, Act.Couples (fun l m : Ledger CardTable => m = l.post e)
      (Books.forceMark r) (Books.forceMark r) := by
    rintro r l _ rfl
    rw [Ledger.run_forceMark, Ledger.run_forceMark, Ledger.geometry_post]
    cases l.cards.geometry.cardsOf r with
    | error f => exact ⟨rfl, rfl⟩
    | ok span => exact ⟨rfl, Ledger.post_comm _ _ _⟩
  refine ⟨fun kind => ?_, hmark, hmark⟩
  unfold Policy.count
  refine Act.couples_ite ?_ (Act.couples_pure _)
  rintro l _ rfl
  rw [Ledger.run_tick, Ledger.run_tick]
  exact ⟨rfl, Ledger.post_comm _ _ _⟩

/-- **Work only posts**: the ledger after it is the ledger before with a posting on top. -/
theorem Books.coupling_grown (p : Policy) (l₀ : Ledger CardTable) :
    Books.Coupling p p fun l m : Ledger CardTable => l = m ∧ ∃ e, l = l₀.post e := by
  have hpost : ∀ l e, (∃ e₀, l = l₀.post e₀) → ∃ e', l.post e = l₀.post e' := by
    rintro _ e ⟨e₀, rfl⟩
    exact ⟨_, Ledger.post_post _ _ _⟩
  have hmark : ∀ r, Act.Couples (fun l m : Ledger CardTable => l = m ∧ ∃ e, l = l₀.post e)
      (Books.forceMark r) (Books.forceMark r) := by
    refine fun r => Act.couples_self_iff.2 fun l hl => ?_
    rw [Ledger.run_forceMark]
    cases l.cards.geometry.cardsOf r with
    | error f => exact hl
    | ok span => exact hpost l _ hl
  refine ⟨fun kind => ?_, hmark, hmark⟩
  unfold Policy.count
  refine Act.couples_ite (Act.couples_self_iff.2 fun l hl => ?_) (Act.couples_pure _)
  rw [Ledger.run_tick]
  exact hpost l _ hl

end CardBarrier
