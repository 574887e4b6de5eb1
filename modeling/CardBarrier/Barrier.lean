import CardBarrier.Card.Store
import CardBarrier.Journal
import CardBarrier.WriteBarrier

/-!
# A card-marking barrier

A `Barrier` is a policy and the ledger it keeps. It can be set up where the settings
can be used and the store has cards of the size that the settings speak of;
the settings are looked at first. Setting one up is remarked on, and told to
the event log if the settings ask for it.
-/

namespace CardBarrier

/-- **A policy and its ledger.** -/
structure Barrier (κ : Type) where
  /-- What is decided once. -/
  policy : Policy
  /-- What changes. -/
  ledger : Ledger κ

/-- The release of the barrier. -/
def version : String := "0.1.0"

namespace Barrier

variable {κ : Type} [RememberedSet κ]

omit [RememberedSet κ] in
/-- A step on the ledger under the barrier's own policy. -/
def onLedger {α : Type} (act : Policy → Act (Ledger κ) α) : Act (Barrier κ) α :=
  Act.ofFun fun b =>
    let (outcome, ledger) := (act b.policy).run b.ledger
    (outcome, { b with ledger })

instance : WriteBarrier (Barrier κ) where
  name _ := "card mark"
  layout b := b.policy.layout
  ordersMarks b := b.policy.ordersMarks
  record r := onLedger fun p => p.mark r
  recordSpan r := onLedger fun p => p.writeSpan r

/-- The barrier in one line. -/
def summary (b : Barrier κ) : String :=
  s!"card mark barrier over {RememberedSet.summary b.ledger.cards} " ++
    s!"(reference size {b.policy.layout.referenceBytes}, deferral {onOff b.policy.defers}, " ++
    s!"strict ordering {onOff b.policy.ordersMarks})"

/-- **The barrier that settings ask for over a store**, where there is
one. -/
def ofSettings (s : Settings) (cards : κ) : Except SetupError (Barrier κ) :=
  match s.validate with
  | .error e => .error (.settings e)
  | .ok () =>
    if RememberedSet.cardBytes cards = s.cardBytes then
      .ok ⟨Policy.ofSettings s (RememberedSet.ordersMarks cards), { cards }⟩
    else .error (.mismatch (.otherCardSize (RememberedSet.cardBytes cards) s.cardBytes))

/-- The event of a barrier coming into force. -/
def initialized (b : Barrier κ) : Event :=
  .setUp (RememberedSet.summary b.ledger.cards) b.policy.defers
    b.policy.ordersMarks (RememberedSet.cardBytes b.ledger.cards)

/-- **Sets a barrier up**, and says so. -/
def setUp (s : Settings) (cards : κ) : Attempt Journal (Barrier κ) := do
  let b ← Attempt.ofSetup (ofSettings s cards)
  modify (Journal.remarkAll
    [.resolved b.policy.defers b.policy.ordersMarks b.policy.reducesInitialMarks])
  if b.policy.verbose then
    Attempt.ofAct (Act.update (Journal.keep b.initialized))
  return b

end Barrier

end CardBarrier
