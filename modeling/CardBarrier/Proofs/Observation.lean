import CardBarrier.Proofs.ArrayWrite
import CardBarrier.Proofs.InStep
import CardBarrier.Proofs.WellBehaved

/-!
# Observing a barrier does not influence it

Counting and telling are for onlookers. Two settings that differ in nothing but what is counted and
what is told give barriers that do the same: asked for the same moves they mark the same cards, in
the same order where a store records that, ask their threads the same and tell them the same,
answer the same and stop at the same faults, and go on alike after a fault
(`Barrier.sights_eq_of_settings`). What becomes of the journal meanwhile makes no difference: it
may be another one from the start, and it may be switched off, emptied or set up anew between
moves.

There is one way in which counting can be noticed. A report puts the counters into a sentence, and
stops at counters whose sum leaves the word. Before as many events have been counted as a word can
hold that does not happen.
-/

namespace CardBarrier

open Act

variable {κ ω τ : Type}

/-! ## What can be seen -/

/-- **A move and what came of it**, be it a fault. -/
structure Episode (κ ω τ : Type) where
  /-- Where it was made. -/
  before : Arena κ ω τ
  /-- What was asked for. -/
  move : Move ω τ
  /-- The answer, or the fault at which it stopped. -/
  outcome : Except Fault Reply
  /-- Where it led. -/
  after : Arena κ ω τ

/-- **What can be seen of an episode** without looking at the counters or into the journal. -/
structure Sight (κ ω τ : Type) where
  /-- The answer, or the fault. -/
  outcome : Except Fault Reply
  /-- The store of marks. -/
  cards : κ
  /-- The objects. -/
  heap : ω
  /-- The threads with their records. -/
  threads : Threads τ

namespace Episode

/-- What can be seen of the episode. -/
def sight (e : Episode κ ω τ) : Sight κ ω τ :=
  ⟨e.outcome, e.after.scene.ledger.cards, e.after.scene.heap, e.after.threads⟩

/-- How many events were counted in episodes. -/
def counted : List (Episode κ ω τ) → Nat
  | [] => 0
  | e :: episodes => e.before.scene.ledger.tally.since e.after.scene.ledger.tally + counted episodes

end Episode

/-- The arena with something done to the journal. -/
def Arena.withJournal (f : Journal → Journal) (a : Arena κ ω τ) : Arena κ ω τ :=
  ⟨⟨a.scene.ledger, a.scene.heap, f a.scene.journal⟩, a.threads⟩

variable [RememberedSet κ] [TableBacked κ] [HeapView ω] [SlotHolder τ]

/-- **Moves made one after the other**, of which one that stops at a fault does not stop those after
it. Something may be done to the journal before each of them, depending on how many are left. -/
def Policy.episodes (p : Policy) (meddle : Nat → Journal → Journal) :
    List (Move ω τ) → Arena κ ω τ → List (Episode κ ω τ)
  | [], _ => []
  | m :: moves, a =>
    let before := a.withJournal (meddle moves.length)
    let (outcome, after) := (p.perform m).run before
    ⟨before, m, outcome, after⟩ :: p.episodes meddle moves after

/-- **A barrier is set up and asked for moves.** -/
def Barrier.episodes (s : Settings) (cards : κ) (j : Journal) (heap : ω) (threads : Threads τ)
    (meddle : Nat → Journal → Journal) (moves : List (Move ω τ)) :
    Except Failure (List (Episode κ ω τ)) :=
  match (Barrier.setUp s cards).run j with
  | (.error e, _) => .error e
  | (.ok b, k) => .ok (b.policy.episodes meddle moves ⟨⟨b.ledger, heap, k⟩, threads⟩)

/-! ## Policies that differ in what they count and tell -/

omit [RememberedSet κ] [TableBacked κ] in
theorem Ledger.couples_onCards {α : Type} (act : Act κ α) :
    Couples (fun l m : Ledger κ => l.cards = m.cards) (onCards act) (onCards act) := by
  intro l m hlm
  have hout : (act.run l.cards).1 = (act.run m.cards).1 := by rw [hlm]
  have hcards : (act.run l.cards).2 = (act.run m.cards).2 := by rw [hlm]
  exact ⟨hout, hcards⟩

/-- **Policies that count and tell differently mark alike**, if they differ in nothing else. -/
theorem Policy.marksAlike_of_eq {p q : Policy}
    (h : q = { p with counts := q.counts, verbose := q.verbose }) :
    p.MarksAlike q fun l m : Ledger κ => l.cards = m.cards where
  layout := by rw [h]
  reduces := by rw [h]
  defers := by rw [h]
  count kind := by
    intro l m hlm
    rw [run_count, run_count]
    exact ⟨rfl, hlm⟩
  mark r := Ledger.couples_onCards _
  forceMark r := Ledger.couples_onCards _
  isYoung := by
    intro l m a hlm
    rw [hlm]
  update f := Ledger.couples_onCards _

omit [RememberedSet κ] [TableBacked κ] [HeapView ω] [SlotHolder τ] in
/-- Counters can be told before as many events have been counted as a word can hold. -/
theorem Scene.tellable_of_total {s : Scene κ ω} (h : s.ledger.tally.total < UInt64.size) :
    s.Tellable :=
  Event.speakable_counted (Nat.lt_of_le_of_lt s.ledger.tally.skipped_le_total h)

/-- **Moves look the same** under policies that mark alike, as long as the counters can be told in
both arenas. -/
theorem Policy.sights_eq {p q : Policy}
    (h : p.MarksAlike q fun l m : Ledger κ => l.cards = m.cards)
    (meddle meddle' : Nat → Journal → Journal) (moves : List (Move ω τ)) {a b : Arena κ ω τ}
    (hab : a.InStep (fun l m => l.cards = m.cards) b)
    (ha : a.scene.ledger.tally.total + Episode.counted (p.episodes meddle moves a) < UInt64.size)
    (hb : b.scene.ledger.tally.total + Episode.counted (q.episodes meddle' moves b)
      < UInt64.size) :
    (p.episodes meddle moves a).map Episode.sight
      = (q.episodes meddle' moves b).map Episode.sight := by
  induction moves generalizing a b with
  | nil => rfl
  | cons m moves ih =>
    -- what is done to the journals keeps the arenas in step
    have hbefore : (a.withJournal (meddle moves.length)).InStep (fun l m => l.cards = m.cards)
        (b.withJournal (meddle' moves.length)) :=
      ⟨⟨hab.scene.ledger, hab.scene.heap⟩, hab.threads⟩
    obtain ⟨hafter, hout⟩ := h.perform m _ _ hbefore
    rw [episodes, episodes, List.map_cons, List.map_cons]
    rw [episodes, Episode.counted] at ha hb
    revert hafter hout ha hb
    generalize (p.perform m).run (a.withJournal (meddle moves.length)) = x
    generalize (q.perform m).run (b.withJournal (meddle' moves.length)) = y
    obtain ⟨o, c⟩ := x
    obtain ⟨o', d⟩ := y
    intro ha hb hafter hout
    have ha : a.scene.ledger.tally.total + (a.scene.ledger.tally.since c.scene.ledger.tally
        + Episode.counted (p.episodes meddle moves c)) < UInt64.size := ha
    have hb : b.scene.ledger.tally.total + (b.scene.ledger.tally.since d.scene.ledger.tally
        + Episode.counted (q.episodes meddle' moves d)) < UInt64.size := hb
    have hc := a.scene.ledger.tally.total_le c.scene.ledger.tally
    have hd := b.scene.ledger.tally.total_le d.scene.ledger.tally
    have hsame : o = o' := hout (Scene.tellable_of_total (by dsimp only; omega))
      (Scene.tellable_of_total (by dsimp only; omega))
    have hsight : Episode.sight ⟨a.withJournal (meddle moves.length), m, o, c⟩
        = Episode.sight ⟨b.withJournal (meddle' moves.length), m, o', d⟩ := by
      have hcards : c.scene.ledger.cards = d.scene.ledger.cards := hafter.scene.ledger
      have hheap : c.scene.heap = d.scene.heap := hafter.scene.heap
      have hthreads : c.threads = d.threads := hafter.threads
      simp only [Episode.sight, hsame, hcards, hheap, hthreads]
    have hrest := ih (a := c) (b := d) hafter (by omega) (by omega)
    exact congrArg₂ List.cons hsight hrest

/-! ## Settings that differ in what they count and tell -/

/-- **One attempt after another.** The second is made only if the first did not fail. -/
theorem Attempt.run_bind {σ α β : Type} (attempt : Attempt σ α) (next : α → Attempt σ β) (s : σ) :
    (attempt >>= next).run s = match attempt.run s with
      | (.ok a, t) => (next a).run t
      | (.error e, t) => (.error e, t) := by
  unfold run
  rw [ExceptT.run_bind, StateT.run_bind]
  show (match StateT.run (ExceptT.run attempt) s with | (r, t) => _) = _
  rcases StateT.run (ExceptT.run attempt) s with ⟨_ | _, t⟩ <;> rfl

namespace Barrier

variable {s : Settings} {cards : κ} {b : Barrier κ}

/-- What is said of a barrier that comes into force, before any event. -/
def presented (b : Barrier κ) (j : Journal) : Journal :=
  j.remarkAll [.resolved b.policy.defers b.policy.ordersMarks b.policy.reducesInitialMarks]

omit [TableBacked κ] [HeapView ω] [SlotHolder τ] in
theorem run_setUp_of_error {e : SetupError} (h : ofSettings s cards = .error e) (j : Journal) :
    (setUp s cards).run j = (.error (.setup e), j) := by
  unfold setUp
  rw [h]
  rfl

omit [TableBacked κ] [HeapView ω] [SlotHolder τ] in
/-- **A barrier comes into force** where settings fit its store, and that can always be told. -/
theorem run_setUp (h : ofSettings s cards = .ok b) {j k : Journal}
    (hk : (b.presented j).keep b.initialized = .ok k) :
    (setUp s cards).run j = (.ok b, if b.policy.verbose then k else b.presented j) := by
  have hrun : (setUp s cards).run j = (do
      if b.policy.verbose then Attempt.ofAct (Act.update (Journal.keep b.initialized))
      return b : Attempt Journal (Barrier κ)).run (b.presented j) := by
    unfold setUp
    rw [h]
    rfl
  rw [hrun]
  cases b.policy.verbose with
  | false => rfl
  | true =>
    have hkeep : (Act.update (Journal.keep b.initialized)).run (b.presented j) = (.ok (), k) := by
      unfold Act.update
      rw [run_ofFun, hk]
    have htold : (Attempt.ofAct (Act.update (Journal.keep b.initialized))).run (b.presented j)
        = (.ok (), k) := by
      show ((Act.update (Journal.keep b.initialized)).run _).map (Except.mapError _) id = _
      rw [hkeep]
      rfl
    show (Attempt.ofAct (Act.update (Journal.keep b.initialized)) >>= fun _ => pure b).run _ = _
    rw [Attempt.run_bind, htold]
    rfl

omit [TableBacked κ] [HeapView ω] [SlotHolder τ] in
/-- What is counted and told is no matter of whether settings fit. -/
theorem ofSettings_eq {s' : Settings}
    (hs : s' = { s with counts := s'.counts, verbose := s'.verbose }) :
    ofSettings s' cards = (ofSettings s cards).map fun b =>
      { b with policy := { b.policy with counts := s'.counts, verbose := s'.verbose } } := by
  have hvalidate : s'.validate = s.validate := by rw [hs]; rfl
  have hbytes : s'.cardBytes = s.cardBytes := by rw [hs]
  have hpolicy : ∀ ordersMarks, Policy.ofSettings s' ordersMarks
      = { Policy.ofSettings s ordersMarks with counts := s'.counts, verbose := s'.verbose } := by
    intro ordersMarks
    rw [hs]
    rfl
  unfold ofSettings
  rw [hvalidate, hbytes, hpolicy]
  cases s.validate with
  | error e => rfl
  | ok _ =>
    dsimp only
    split <;> rfl

omit [TableBacked κ] [HeapView ω] [SlotHolder τ] in
/-- **A barrier that comes into force** has the policy of its settings, and has counted nothing. -/
theorem eq_of_ofSettings (h : ofSettings s cards = .ok b) :
    b = ⟨Policy.ofSettings s (RememberedSet.ordersMarks cards), { cards }⟩ := by
  unfold ofSettings at h
  split at h
  · cases h
  · split at h
    · cases h
      rfl
    · cases h

omit [TableBacked κ] [HeapView ω] [SlotHolder τ] in
/-- **The event of a barrier coming into force** tells its settings and its store. -/
theorem initialized_of_ofSettings (h : ofSettings s cards = .ok b) :
    b.initialized = .setUp (RememberedSet.summary cards)
      (s.elision.defers (RememberedSet.ordersMarks cards)) (RememberedSet.ordersMarks cards)
      s.cardBytes := by
  have hbytes : RememberedSet.cardBytes cards = s.cardBytes := by
    by_contra hne
    unfold ofSettings at h
    rw [if_neg hne] at h
    split at h <;> cases h
  rw [eq_of_ofSettings h, ← hbytes]
  rfl

omit [TableBacked κ] [HeapView ω] [SlotHolder τ] in
theorem exists_keep_initialized (b : Barrier κ) (j : Journal) :
    ∃ k, (b.presented j).keep b.initialized = .ok k := Journal.exists_keep ⟨_, rfl⟩ _

end Barrier

/-- **Observing a barrier does not influence it.** Settings that differ in nothing but what is
counted and what is told either are refused alike or give barriers of which the same can be seen,
move by move, faults included, whatever happens to either journal: provided that fewer events are
counted than a word can hold. -/
theorem Barrier.sights_eq_of_settings {s s' : Settings} {cards : κ} {heap : ω} {threads : Threads τ}
    {moves : List (Move ω τ)} {j j' : Journal} {meddle meddle' : Nat → Journal → Journal}
    (hs : s' = { s with counts := s'.counts, verbose := s'.verbose })
    (hcounted : ∀ es, Barrier.episodes s cards j heap threads meddle moves = .ok es →
      Episode.counted es < UInt64.size)
    (hcounted' : ∀ es, Barrier.episodes s' cards j' heap threads meddle' moves = .ok es →
      Episode.counted es < UInt64.size) :
    (Barrier.episodes s cards j heap threads meddle moves).map (List.map Episode.sight)
      = (Barrier.episodes s' cards j' heap threads meddle' moves).map (List.map Episode.sight) := by
  have hlike : ofSettings s' cards = _ := ofSettings_eq hs
  unfold Barrier.episodes at hcounted hcounted' ⊢
  cases hb : ofSettings s cards with
  | error e =>
    rw [hb] at hlike
    rw [run_setUp_of_error hb, run_setUp_of_error hlike]
  | ok b =>
    rw [hb] at hlike
    obtain ⟨k, hk⟩ := b.exists_keep_initialized j
    obtain ⟨k', hk'⟩ := exists_keep_initialized
      { b with policy := { b.policy with counts := s'.counts, verbose := s'.verbose } } j'
    rw [run_setUp hb hk] at hcounted ⊢
    rw [run_setUp hlike hk'] at hcounted' ⊢
    -- neither barrier has counted anything yet
    have htotal : b.ledger.tally.total = 0 := by
      rw [eq_of_ofSettings hb]
      rfl
    refine congrArg Except.ok (Policy.sights_eq (Policy.marksAlike_of_eq rfl) meddle meddle' moves
      ⟨⟨rfl, rfl⟩, rfl⟩ ?_ ?_)
    · show b.ledger.tally.total + _ < _
      rw [htotal, Nat.zero_add]
      exact hcounted _ rfl
    · show b.ledger.tally.total + _ < _
      rw [htotal, Nat.zero_add]
      exact hcounted' _ rfl

namespace SmallHeap

/-- Marks wait, and what is counted and told is left open. -/
def settings (counts verbose : Bool) : Settings :=
  { compressed := true, elision := { defersInitialMark := true }, counts, verbose }

/-- A mutator, and a record that answers from a list. -/
def participants : Threads Participant :=
  ⟨[("m", .inl ⟨0, .empty⟩), ("r", .inr { answers := [some objectExtent, none] })]⟩

/-- A mark waits for the mutator, and what the other record says is flushed, both are drained, and
an interval without cards is written. -/
def requests : List (Move Objects Participant) :=
  [.allocate "m" 512, .flush "r" .detach, .drain none, .mark ⟨2048, 2056, by decide⟩, .report]

/-- The requests made of a barrier with such settings over a store that records marks. -/
def observed (counts verbose : Bool) : Except Failure (List (Episode Store Objects Participant)) :=
  Barrier.episodes (settings counts verbose) onRecord.scene.ledger.cards
    { log := { settings := { console := false } } } onRecord.scene.heap participants (fun _ j => j)
    requests

theorem sights_observed :
    (observed true true).map (List.map Episode.sight)
      = (observed false false).map (List.map Episode.sight) := by
  refine Barrier.sights_eq_of_settings rfl (fun es hes => ?_) fun es hes => ?_
  · cases hes
    decide
  · cases hes
    decide

end SmallHeap

end CardBarrier
