import CardBarrier.Proofs.Coupling

/-!
# What the work of a mutator does

A mutator keeps its slot as it is told to, so that of its work can be said exactly what it
does to the slot, the marks and the counters when it comes through. A flush finds nothing, or
marks what is pending and empties the slot (`Flushed`); an allocation flushes, reaches a
verdict, and then skips its object, defers the mark over it or marks it at once (`Concluded`).
Counters that are not kept are left alone, whatever there is to count (`Policy.tallied`).

Questions about objects and words for the journal leave slot, marks and counters as they are
(`Site.Untouched`). The objects themselves may change as they are asked about, and stay as
they are only where the object model is steady (`Scene.Settled`).
-/

namespace CardBarrier

open Act

/-- The counters after events of these kinds, if events are counted. -/
def Policy.tallied (p : Policy) (kinds : List Tally.Kind) (t : Tally) : Tally :=
  if p.counts then kinds.foldl Tally.record t else t

theorem Policy.tallied_nil (p : Policy) (t : Tally) : p.tallied [] t = t := by
  unfold tallied
  cases p.counts <;> rfl

theorem Policy.tallied_tallied (p : Policy) (ks ks' : List Tally.Kind) (t : Tally) :
    p.tallied ks' (p.tallied ks t) = p.tallied (ks ++ ks') t := by
  unfold tallied
  cases p.counts
  · rfl
  · exact List.foldl_append.symm

/-- **Counting events one by one** adds to each counter how often its kind is among them. -/
theorem Tally.get_foldl_record (kinds : List Kind) (t : Tally) (k : Kind) :
    (kinds.foldl record t).get k = t.get k + UInt64.ofNat (kinds.count k) := by
  induction kinds generalizing t with
  | nil => exact (UInt64.add_zero _).symm
  | cons kind kinds ih =>
    rw [List.foldl_cons, ih, record, get_add, List.count_cons]
    by_cases hk : k = kind
    · rw [if_pos hk, if_pos (beq_iff_eq.2 hk.symm), UInt64.ofNat_add, UInt64.add_assoc,
        UInt64.add_comm 1]
      rfl
    · rw [if_neg hk, if_neg fun h => hk (beq_iff_eq.1 h).symm, Nat.add_zero]

theorem Policy.get_tallied {p : Policy} (hcounts : p.counts = true) (kinds : List Tally.Kind)
    (t : Tally) (k : Tally.Kind) :
    (p.tallied kinds t).get k = t.get k + UInt64.ofNat (kinds.count k) := by
  rw [tallied, if_pos hcounts]
  exact Tally.get_foldl_record kinds t k

/-- **Counters of other kinds than those counted** stay as they are. -/
theorem Policy.get_tallied_of_not_mem {p : Policy} {k : Tally.Kind} {ks : List Tally.Kind}
    {t : Tally} (h : k ∉ ks) : (p.tallied ks t).get k = t.get k := by
  unfold tallied
  split
  · rw [Tally.get_foldl_record, List.count_eq_zero.2 h]
    exact UInt64.add_zero _
  · rfl

theorem Policy.get_tallied_self {p : Policy} {k : Tally.Kind} {t : Tally}
    (hcounts : p.counts = true) : (p.tallied [k] t).get k = t.get k + 1 := by
  rw [get_tallied hcounts, List.count_singleton_self]
  rfl

/-! ## On a ledger -/

section Ledger

variable {κ : Type} [RememberedSet κ] {p : Policy} {l m : Ledger κ} {r : Interval} {u : Unit}

theorem Policy.count_yields {kind : Tally.Kind} :
    (p.count kind : Act (Ledger κ) Unit).Yields l u m ↔
      m = { l with tally := p.tallied [kind] l.tally } := by
  unfold count tallied
  cases p.counts with
  | false => exact ⟨fun h => (yields_pure.1 h).2, fun h => yields_pure.2 ⟨rfl, h⟩⟩
  | true => exact yields_modify

theorem Ledger.mark_yields :
    (Books.mark r : Act (Ledger κ) Unit).Yields l u m ↔
      ∃ cards, (RememberedSet.mark r).Yields l.cards u cards ∧ m = { l with cards } := by
  show (Ledger.onCards (RememberedSet.mark r)).Yields l u m ↔ _
  exact yields_within

theorem Ledger.forceMark_yields :
    (Books.forceMark r : Act (Ledger κ) Unit).Yields l u m ↔
      ∃ cards, (RememberedSet.forceMark r).Yields l.cards u cards ∧ m = { l with cards } := by
  show (Ledger.onCards (RememberedSet.forceMark r)).Yields l u m ↔ _
  exact yields_within

theorem Policy.forceMark_yields :
    (p.forceMark r : Act (Ledger κ) Unit).Yields l u m ↔
      ∃ cards, (RememberedSet.forceMark r).Yields l.cards u cards ∧
        m = ⟨cards, p.tallied [.forcedMark] l.tally⟩ := by
  unfold forceMark
  rw [yields_bind]
  constructor
  · rintro ⟨_, n, hn, hm⟩
    obtain ⟨cards, hcards, rfl⟩ := Ledger.forceMark_yields.1 hm
    obtain rfl := count_yields.1 hn
    exact ⟨cards, hcards, rfl⟩
  · rintro ⟨cards, hcards, rfl⟩
    exact ⟨(), _, count_yields.2 rfl, Ledger.forceMark_yields.2 ⟨cards, hcards, rfl⟩⟩

theorem Policy.mark_yields :
    (p.mark r : Act (Ledger κ) Unit).Yields l u m ↔
      ∃ cards, (RememberedSet.mark r).Yields l.cards u cards ∧
        m = ⟨cards, p.tallied [.mark] l.tally⟩ := by
  unfold mark
  rw [yields_bind]
  constructor
  · rintro ⟨_, n, hn, hm⟩
    obtain ⟨cards, hcards, rfl⟩ := Ledger.mark_yields.1 hm
    obtain rfl := count_yields.1 hn
    exact ⟨cards, hcards, rfl⟩
  · rintro ⟨cards, hcards, rfl⟩
    exact ⟨(), _, count_yields.2 rfl, Ledger.mark_yields.2 ⟨cards, hcards, rfl⟩⟩

theorem Policy.writeSpan_yields :
    (p.writeSpan r : Act (Ledger κ) Unit).Yields l u m ↔
      ∃ cards, (RememberedSet.mark r).Yields l.cards u cards ∧
        m = ⟨cards, p.tallied [.write, .mark] l.tally⟩ := by
  unfold writeSpan
  rw [yields_bind]
  constructor
  · rintro ⟨_, n, hn, hm⟩
    obtain rfl := count_yields.1 hn
    obtain ⟨cards, hcards, rfl⟩ := mark_yields.1 hm
    exact ⟨cards, hcards, by rw [tallied_tallied]; rfl⟩
  · rintro ⟨cards, hcards, rfl⟩
    refine ⟨(), _, count_yields.2 rfl, mark_yields.2 ⟨cards, hcards, ?_⟩⟩
    rw [tallied_tallied]
    rfl

end Ledger

/-! ## At work -/

variable {κ ω τ : Type}

/-- The site with another ledger. -/
def Site.withLedger (l : Ledger κ) (s : Site κ ω τ) : Site κ ω τ :=
  { s with scene := { s.scene with ledger := l } }

theorem Site.yields_onLedger {α : Type} {act : Act (Ledger κ) α} {s t : Site κ ω τ} {a : α} :
    (Site.onScene (Scene.onLedger act)).Yields s a t ↔
      ∃ l, act.Yields s.scene.ledger a l ∧ t = s.withLedger l := by
  unfold Site.onScene Scene.onLedger
  simp only [yields_within]
  constructor
  · rintro ⟨_, ⟨l, hl, rfl⟩, rfl⟩
    exact ⟨l, hl, rfl⟩
  · rintro ⟨l, hl, rfl⟩
    exact ⟨_, ⟨l, hl, rfl⟩, rfl⟩

theorem Policy.count_yields_site [RememberedSet κ] [HeapView ω] [SlotHolder τ] {p : Policy}
    {kind : Tally.Kind} {s t : Site κ ω τ} {u : Unit} :
    (p.count kind : Act (Site κ ω τ) Unit).Yields s u t ↔
      t = s.withLedger ⟨s.scene.ledger.cards, p.tallied [kind] s.scene.ledger.tally⟩ := by
  rw [count_site, Site.yields_onLedger]
  simp only [count_yields, exists_eq_left]

theorem Policy.forceMark_yields_site [RememberedSet κ] [HeapView ω] [SlotHolder τ] {p : Policy}
    {r : Interval} {s t : Site κ ω τ} {u : Unit} :
    (p.forceMark r : Act (Site κ ω τ) Unit).Yields s u t ↔
      ∃ cards, (RememberedSet.forceMark r).Yields s.scene.ledger.cards u cards ∧
        t = s.withLedger ⟨cards, p.tallied [.forcedMark] s.scene.ledger.tally⟩ := by
  rw [forceMark_site, Site.yields_onLedger]
  simp only [forceMark_yields]
  constructor
  · rintro ⟨_, ⟨cards, hcards, rfl⟩, rfl⟩
    exact ⟨cards, hcards, rfl⟩
  · rintro ⟨cards, hcards, rfl⟩
    exact ⟨_, ⟨cards, hcards, rfl⟩, rfl⟩

/-- The site with other objects. -/
def Site.withHeap (h : ω) (s : Site κ ω τ) : Site κ ω τ :=
  { s with scene := { s.scene with heap := h } }

theorem Site.yields_onHeap {α : Type} {act : Act ω α} {s t : Site κ ω τ} {a : α} :
    (Site.onScene (Scene.onHeap act)).Yields s a t ↔
      ∃ h, act.Yields s.scene.heap a h ∧ t = s.withHeap h := by
  unfold Site.onScene Scene.onHeap
  simp only [yields_within]
  constructor
  · rintro ⟨_, ⟨h, hh, rfl⟩, rfl⟩
    exact ⟨h, hh, rfl⟩
  · rintro ⟨h, hh, rfl⟩
    exact ⟨_, ⟨h, hh, rfl⟩, rfl⟩

/-- The site with another journal. -/
def Site.withJournal (j : Journal) (s : Site κ ω τ) : Site κ ω τ :=
  { s with scene := { s.scene with journal := j } }

theorem Site.yields_onJournal {α : Type} {act : Act Journal α} {s t : Site κ ω τ} {a : α} :
    (Site.onScene (Scene.onJournal act)).Yields s a t ↔
      ∃ j, act.Yields s.scene.journal a j ∧ t = s.withJournal j := by
  unfold Site.onScene Scene.onJournal
  simp only [yields_within]
  constructor
  · rintro ⟨_, ⟨j, hj, rfl⟩, rfl⟩
    exact ⟨j, hj, rfl⟩
  · rintro ⟨j, hj, rfl⟩
    exact ⟨_, ⟨j, hj, rfl⟩, rfl⟩

/-- An event that is told is for the journal alone. -/
theorem Site.keep_yields {e : Event} {s t : Site κ ω τ} {u : Unit} :
    (Site.onScene (Scene.keep e)).Yields s u t ↔
      ∃ j, s.scene.journal.keep e = .ok j ∧ t = s.withJournal j := by
  show (Site.onScene (Scene.onJournal (Act.update (Journal.keep e)))).Yields s u t ↔ _
  rw [yields_onJournal]
  simp only [yields_update]

section Untouched

variable [HeapView ω]

/-- **The objects are as they were**, if asking about them does not change them. -/
def Scene.Settled (s t : Scene κ ω) : Prop := HeapView.Steady s.heap → t.heap = s.heap

theorem Scene.Settled.trans {s t u : Scene κ ω} (h : s.Settled t) (h' : t.Settled u) :
    s.Settled u := by
  intro hsteady
  have ht := h hsteady
  rw [h' (ht ▸ hsteady), ht]

/-- **Slot, marks and counters are as they were**, and if anything changed it is the journal,
or objects that do not hold still. -/
structure Site.Untouched (s t : Site κ ω τ) : Prop where
  ledger : t.scene.ledger = s.scene.ledger
  thread : t.thread = s.thread
  settled : s.scene.Settled t.scene

theorem Site.Untouched.refl (s : Site κ ω τ) : s.Untouched s := ⟨rfl, rfl, fun _ => rfl⟩

theorem Site.Untouched.trans {s t u : Site κ ω τ} (h : s.Untouched t) (h' : t.Untouched u) :
    s.Untouched u :=
  ⟨h'.ledger.trans h.ledger, h'.thread.trans h.thread, h.settled.trans h'.settled⟩

theorem Site.untouched_withJournal (j : Journal) (s : Site κ ω τ) :
    s.Untouched (s.withJournal j) := ⟨rfl, rfl, fun _ => rfl⟩

end Untouched

section Question

variable [RememberedSet κ] [HeapView ω] [SlotHolder τ] {p : Policy} {s t : Site κ ω τ}

theorem Site.untouched_isYoung {a : Address} {b : Bool}
    (h : (Workplace.isYoung a).Yields s b t) :
    b = RememberedSet.isYoung s.scene.ledger.cards a ∧ t = s := by
  have heq : ((.ok (RememberedSet.isYoung s.scene.ledger.cards a), s) : Except Fault Bool × _)
      = (.ok b, t) := h
  simpa [eq_comm] using heq

/-- A remark is for the journal alone. -/
theorem Site.remark_yields {d : Diagnostic} {u : Unit}
    (h : (Workplace.remark d).Yields s u t) : ∃ j, t = s.withJournal j := by
  have hjournal : (Site.onScene (Scene.onJournal
    (modify (Journal.remarkAll [d])))).Yields s u t := h
  obtain ⟨j, -, rfl⟩ := Site.yields_onJournal.1 hjournal
  exact ⟨j, rfl⟩

theorem Site.announce_yields {e : Event} {u : Unit} (h : (p.announce e).Yields s u t) :
    ∃ j, t = s.withJournal j := by
  unfold Policy.announce at h
  split at h
  · have hkeep : (Site.onScene (Scene.keep e)).Yields s u t := h
    obtain ⟨j, -, rfl⟩ := Site.keep_yields.1 hkeep
    exact ⟨j, rfl⟩
  · obtain ⟨-, rfl⟩ := yields_pure.1 h
    exact ⟨t.scene.journal, rfl⟩

theorem Site.untouched_remark {d : Diagnostic} {u : Unit}
    (h : (Workplace.remark d).Yields s u t) : s.Untouched t := by
  obtain ⟨j, rfl⟩ := remark_yields h
  exact untouched_withJournal j s

theorem Site.untouched_announce {e : Event} {u : Unit} (h : (p.announce e).Yields s u t) :
    s.Untouched t := by
  obtain ⟨j, rfl⟩ := announce_yields h
  exact untouched_withJournal j s

theorem Policy.succeeds_announce {e : Event} (he : e.Speakable) (s : Site κ ω τ) :
    (p.announce e).Succeeds s := by
  obtain ⟨j, hrun⟩ := Site.exists_run_announce p he s
  exact ⟨(), _, hrun⟩

theorem Policy.succeeds_remark (d : Diagnostic) (s : Site κ ω τ) :
    (Workplace.remark d).Succeeds s := ⟨(), _, rfl⟩

theorem Policy.succeeds_count (kind : Tally.Kind) (s : Site κ ω τ) :
    (p.count kind : Act (Site κ ω τ) Unit).Succeeds s := ⟨(), _, count_yields_site.2 rfl⟩

/-- Nothing stops a flush once its mark is made and its slot empty. -/
theorem Policy.succeeds_reportFlush (point : FlushPoint) (r : Interval) (s : Site κ ω τ) :
    (p.reportFlush point r).Succeeds s :=
  (succeeds_count _ s).bind fun _ _ _ =>
    (succeeds_remark _ _).bind fun _ t _ => succeeds_announce ⟨_, rfl⟩ t

/-- **A pending mark is due**: an object that is not young and reads as a whole one takes the
interval. Asking about it leaves the objects as given. -/
structure Due (r : Interval) (s : Site κ ω τ) (heap : ω) : Prop where
  /-- The object is not young. -/
  old : RememberedSet.isYoung s.scene.ledger.cards r.start = false
  /-- It is whole and takes the interval. -/
  stands : ∃ asked, (HeapView.isWhole r.start).Yields s.scene.heap true asked ∧
    (HeapView.extent r.start).Yields asked r heap

omit [SlotHolder τ] in
theorem Due.untouched {r : Interval} {heap : ω} (h : Due r s heap) :
    s.Untouched (s.withHeap heap) := by
  obtain ⟨-, asked, hwhole, hextent⟩ := h
  refine ⟨rfl, rfl, fun hsteady => ?_⟩
  obtain rfl : asked = s.scene.heap := by rw [← hsteady.isWhole r.start, hwhole.run_eq]
  show heap = s.scene.heap
  rw [← hsteady.extent r.start, hextent.run_eq]

/-- **The checks on a deferred mark** let through what is due where marks wait, and nothing
else. -/
theorem Policy.requireDue_yields {r : Interval} {u : Unit} (h : (p.requireDue r).Yields s u t) :
    p.defers = true ∧ ∃ heap, Due r s heap ∧ t = s.withHeap heap := by
  unfold requireDue at h
  split at h
  · rename_i hdefers
    unfold requireStillThere at h
    simp only [throw_bind, yields_bind] at h
    obtain ⟨young, s₁, hyoung, h⟩ := h
    obtain ⟨hage, rfl⟩ := Site.untouched_isYoung hyoung
    cases young with
    | true => exact absurd h not_yields_throw
    | false =>
      obtain ⟨whole, s₂, hwhole, h⟩ := yields_bind.1 h
      obtain ⟨asked, hasked, rfl⟩ := Site.yields_onHeap.1 hwhole
      cases whole with
      | false => exact absurd h not_yields_throw
      | true =>
        obtain ⟨extent, s₃, hextent, hsame⟩ := yields_bind.1 h
        obtain ⟨heap, hheap, rfl⟩ := Site.yields_onHeap.1 hextent
        split at hsame
        · rename_i heq
          obtain ⟨-, rfl⟩ := yields_pure.1 hsame
          exact ⟨hdefers, heap, ⟨hage.symm, asked, hasked, heq ▸ hheap⟩, rfl⟩
        · exact absurd hsame not_yields_throw
  · exact absurd h not_yields_throw

/-- **What an assessment finds out** that comes through: that the object is an array without
references, which is not asked for its age, or that it is young, or else its extent. -/
inductive Assessed (object : Address) (s : Site κ ω τ) :
    Tally.Kind ⊕ Interval → Site κ ω τ → Prop
  | referenceFree {heap : ω}
      (hfree : (HeapView.isReferenceFree object).Yields s.scene.heap true heap) :
      Assessed object s (.inl .referenceFree) (s.withHeap heap)
  | young {heap : ω} (hfree : (HeapView.isReferenceFree object).Yields s.scene.heap false heap)
      (hyoung : RememberedSet.isYoung s.scene.ledger.cards object = true) :
      Assessed object s (.inl .young) (s.withHeap heap)
  | owing {heap heap' : ω} {r : Interval}
      (hfree : (HeapView.isReferenceFree object).Yields s.scene.heap false heap)
      (hyoung : RememberedSet.isYoung s.scene.ledger.cards object = false)
      (hextent : (HeapView.extent object).Yields heap r heap') :
      Assessed object s (.inr r) (s.withHeap heap')

/-- **An assessment that comes through** has found out one of the three. -/
theorem Workplace.assessed_of_yields {object : Address} {verdict : Tally.Kind ⊕ Interval}
    (h : (Workplace.assess object).Yields s verdict t) : Assessed object s verdict t := by
  obtain ⟨free, s₁, hfree, hrest⟩ := yields_bind.1 h
  obtain ⟨heap, hheap, rfl⟩ := Site.yields_onHeap.1 hfree
  cases free with
  | true =>
    obtain ⟨rfl, rfl⟩ := yields_pure.1 hrest
    exact .referenceFree hheap
  | false =>
    obtain ⟨young, s₂, hyoung, hlast⟩ := yields_bind.1 hrest
    obtain ⟨hage, rfl⟩ := Site.untouched_isYoung hyoung
    cases young with
    | true =>
      obtain ⟨rfl, rfl⟩ := yields_pure.1 hlast
      exact .young hheap hage.symm
    | false =>
      obtain ⟨r, s₃, hextent, hpure⟩ := yields_bind.1 hlast
      obtain ⟨heap', hheap', rfl⟩ := Site.yields_onHeap.1 hextent
      obtain ⟨rfl, rfl⟩ := yields_pure.1 hpure
      exact .owing hheap hage.symm hheap'

omit [SlotHolder τ] in
/-- Objects that hold still are as they were after they were asked about. -/
theorem Assessed.untouched {object : Address} {verdict : Tally.Kind ⊕ Interval}
    (h : Assessed object s verdict t) : s.Untouched t := by
  have hfree : ∀ {b heap}, (HeapView.isReferenceFree object).Yields s.scene.heap b heap →
      HeapView.Steady s.scene.heap → heap = s.scene.heap := fun {b heap} hyields hsteady => by
    rw [← hsteady.isReferenceFree object, hyields.run_eq]
  cases h with
  | referenceFree hheap | young hheap _ => exact ⟨rfl, rfl, hfree hheap⟩
  | @owing heap heap' r hheap _ hextent =>
    refine ⟨rfl, rfl, fun hsteady => ?_⟩
    have hsame := hfree hheap hsteady
    subst hsame
    show heap' = s.scene.heap
    rw [← hsteady.extent object, hextent.run_eq]

theorem Workplace.untouched_assess {object : Address} {verdict : Tally.Kind ⊕ Interval}
    (h : (Workplace.assess object).Yields s verdict t) : s.Untouched t :=
  (assessed_of_yields h).untouched

/-- **An object needs no mark** for one of two reasons. -/
theorem Workplace.assess_skips {object : Address} {kind : Tally.Kind}
    (h : (Workplace.assess object).Yields s (.inl kind) t) :
    kind = .referenceFree ∨ kind = .young := by
  cases assessed_of_yields h with
  | referenceFree _ => exact .inl rfl
  | young _ _ => exact .inr rfl

end Question

/-! ## With a slot that keeps what it is told -/

section Mutator

variable [RememberedSet κ] [HeapView ω] {p : Policy} {s t u : Site κ ω Mutator}

/-- The mutator with nothing pending. -/
def Mutator.emptied (m : Mutator) : Mutator := { m with slot := .empty }

theorem Mutator.emptied_of_empty {m : Mutator} (h : m.slot = .empty) : m.emptied = m := by
  cases m
  cases h
  rfl

/-- The site with another slot. -/
def Site.withSlot (slot : Slot) (s : Site κ ω Mutator) : Site κ ω Mutator :=
  { s with thread := { s.thread with slot } }

theorem Site.yields_ask {o : Option Interval} :
    (Workplace.ask : Act (Site κ ω Mutator) _).Yields s o t ↔
      o = s.thread.slot.region? ∧ t = s := by
  show ((.ok s.thread.slot.region?, s) : Except Fault (Option Interval) × _) = (.ok o, t) ↔ _
  simp [eq_comm]

theorem Site.yields_tell {r : Option Interval} {x : Unit} :
    (Workplace.tell r : Act (Site κ ω Mutator) Unit).Yields s x t ↔
      t = s.withSlot (.ofOption r) := by
  show ((.ok (), s.withSlot (.ofOption r)) : Except Fault Unit × _) = (.ok x, t) ↔ _
  simp [eq_comm]

/-- **What a flush does** that comes through: nothing if nothing is pending, or else the mark
that is pending is made and the slot emptied. -/
inductive Flushed (p : Policy) (s : Site κ ω Mutator) : Bool → Site κ ω Mutator → Prop
  | nothing (hslot : s.thread.slot = .empty) : Flushed p s false s
  | mark {r : Interval} {cards : κ} {u : Site κ ω Mutator} (hslot : s.thread.slot = .holding r)
      (hdefers : p.defers = true)
      (hmark : (RememberedSet.forceMark r).Yields s.scene.ledger.cards () cards)
      (hledger : u.scene.ledger
        = ⟨cards, p.tallied [.forcedMark, .flushed] s.scene.ledger.tally⟩)
      (hthread : u.thread = s.thread.emptied)
      (hsettled : s.scene.Settled u.scene) : Flushed p s true u

theorem Flushed.thread_eq {b : Bool} (h : Flushed p s b t) : t.thread = s.thread.emptied := by
  cases h with
  | nothing hslot => exact (Mutator.emptied_of_empty hslot).symm
  | mark _ _ _ _ hthread _ => exact hthread

/-- A flush counts a forced mark and itself. -/
theorem Flushed.get_eq {b : Bool} {k : Tally.Kind} (h : Flushed p s b t)
    (hk : k ∉ [Tally.Kind.forcedMark, .flushed]) :
    t.scene.ledger.tally.get k = s.scene.ledger.tally.get k := by
  cases h with
  | nothing _ => rfl
  | mark _ _ _ hledger _ _ =>
    rw [hledger]
    exact Policy.get_tallied_of_not_mem hk

theorem Flushed.settled {b : Bool} (h : Flushed p s b t) : s.scene.Settled t.scene := by
  cases h with
  | nothing _ => exact fun _ => rfl
  | mark _ _ _ _ _ hsettled => exact hsettled

theorem Site.release_yields {x : Unit} (h : (Policy.release : Act _ Unit).Yields s x t) :
    t = s.withSlot .empty := by
  unfold Policy.release at h
  obtain ⟨_, s₁, htell, h⟩ := yields_bind.1 h
  obtain rfl := yields_tell.1 htell
  obtain ⟨o, s₂, hask, h⟩ := yields_bind.1 h
  obtain ⟨rfl, rfl⟩ := yields_ask.1 hask
  obtain ⟨-, rfl⟩ := yields_pure.1 h
  rfl

theorem Policy.release_yields_self :
    (release : Act (Site κ ω Mutator) Unit).Yields s () (s.withSlot .empty) :=
  yields_bind.2 ⟨(), _, Site.yields_tell.2 rfl,
    yields_bind.2 ⟨none, _, Site.yields_ask.2 ⟨rfl, rfl⟩, yields_pure.2 ⟨rfl, rfl⟩⟩⟩

theorem Policy.reportFlush_yields {point : FlushPoint} {r : Interval} {x : Unit}
    (h : (p.reportFlush point r).Yields s x t) :
    ∃ j, t = (s.withLedger ⟨s.scene.ledger.cards, p.tallied [.flushed]
      s.scene.ledger.tally⟩).withJournal j := by
  unfold reportFlush at h
  obtain ⟨_, s₁, hcount, h⟩ := yields_bind.1 h
  obtain rfl := count_yields_site.1 hcount
  obtain ⟨_, s₂, hremark, h⟩ := yields_bind.1 h
  obtain ⟨_, rfl⟩ := Site.remark_yields hremark
  obtain ⟨j, rfl⟩ := Site.announce_yields h
  exact ⟨j, rfl⟩

/-- **A mark that is flushed** is due, is made by force, and leaves the slot. -/
theorem Policy.flushMark_yields {point : FlushPoint} {r : Interval} {x : Unit}
    (h : (p.flushMark point r).Yields s x t) :
    p.defers = true ∧ ∃ heap cards j, Due r s heap ∧
      (RememberedSet.forceMark r).Yields s.scene.ledger.cards () cards ∧
      t = ⟨⟨⟨cards, p.tallied [.forcedMark, .flushed] s.scene.ledger.tally⟩, heap, j⟩,
        s.thread.emptied⟩ := by
  obtain ⟨_, s₁, hrequire, h⟩ := yields_bind.1 h
  obtain ⟨_, s₂, hmark, h⟩ := yields_bind.1 h
  obtain ⟨_, s₃, hrelease, h⟩ := yields_bind.1 h
  obtain ⟨hdefers, heap, hdue, rfl⟩ := requireDue_yields hrequire
  obtain ⟨cards, hcards, rfl⟩ := forceMark_yields_site.1 hmark
  obtain rfl := Site.release_yields hrelease
  obtain ⟨j, rfl⟩ := reportFlush_yields h
  refine ⟨hdefers, heap, cards, j, hdue, hcards, ?_⟩
  show (⟨⟨⟨cards, p.tallied [.flushed] (p.tallied [.forcedMark] s.scene.ledger.tally)⟩, heap, j⟩,
    s.thread.emptied⟩ : Site κ ω Mutator) = _
  rw [tallied_tallied]
  rfl

/-- **A flush** asks the slot, and flushes what it holds. -/
theorem Policy.flush_yields {point : FlushPoint} {b : Bool} (h : (p.flush point).Yields s b t) :
    (s.thread.slot = .empty ∧ b = false ∧ t = s) ∨
      ∃ r, s.thread.slot = .holding r ∧ b = true ∧ (p.flushMark point r).Yields s () t := by
  rw [flush_eq] at h
  obtain ⟨o, s₁, hask, h⟩ := yields_bind.1 h
  obtain ⟨rfl, rfl⟩ := Site.yields_ask.1 hask
  cases hslot : s₁.thread.slot with
  | empty =>
    rw [hslot] at h
    obtain ⟨rfl, rfl⟩ := yields_pure.1 h
    exact .inl ⟨rfl, rfl, rfl⟩
  | holding r =>
    rw [hslot] at h
    obtain ⟨_, s₂, hflush, h⟩ := yields_bind.1 h
    obtain ⟨rfl, rfl⟩ := yields_pure.1 h
    exact .inr ⟨r, rfl, rfl, hflush⟩

/-- **A flush that comes through** has done one of the two. -/
theorem Policy.flushed_of_yields {point : FlushPoint} {b : Bool}
    (h : (p.flush point).Yields s b t) : Flushed p s b t := by
  obtain ⟨hslot, rfl, rfl⟩ | ⟨r, hslot, rfl, hflush⟩ := flush_yields h
  · exact .nothing hslot
  · obtain ⟨hdefers, heap, cards, j, hdue, hcards, rfl⟩ := flushMark_yields hflush
    exact .mark hslot hdefers hcards rfl rfl hdue.untouched.settled

/-- **What follows from a verdict**: the object is counted as needing no mark, or the mark over
it waits in the slot, or it is made at once. -/
inductive Concluded (p : Policy) (s t : Site κ ω Mutator) : Tally.Kind ⊕ Interval → Prop
  | skipped {kind : Tally.Kind}
      (hledger : t.scene.ledger
        = ⟨s.scene.ledger.cards, p.tallied [kind] s.scene.ledger.tally⟩)
      (hthread : t.thread = s.thread) (hsettled : s.scene.Settled t.scene) :
      Concluded p s t (.inl kind)
  | deferred {r : Interval} (hdefers : p.defers = true)
      (hledger : t.scene.ledger
        = ⟨s.scene.ledger.cards, p.tallied [.deferred] s.scene.ledger.tally⟩)
      (hthread : t.thread = { s.thread with slot := .holding r })
      (hsettled : s.scene.Settled t.scene) : Concluded p s t (.inr r)
  | marked {r : Interval} {cards : κ} (hdefers : p.defers = false)
      (hmark : (RememberedSet.forceMark r).Yields s.scene.ledger.cards () cards)
      (hledger : t.scene.ledger
        = ⟨cards, p.tallied [.forcedMark, .markedAtOnce] s.scene.ledger.tally⟩)
      (hthread : t.thread = s.thread) (hsettled : s.scene.Settled t.scene) :
      Concluded p s t (.inr r)

theorem Concluded.settled {verdict : Tally.Kind ⊕ Interval} (h : Concluded p s t verdict) :
    s.scene.Settled t.scene := by
  cases h with
  | skipped _ _ hsettled | deferred _ _ _ hsettled | marked _ _ _ _ hsettled => exact hsettled

theorem Policy.compensate_yields {object : Address} {r : Interval} {x : Unit}
    (h : (p.compensate object r).Yields s x t) : Concluded p s t (.inr r) := by
  unfold compensate at h
  cases hdefers : p.defers with
  | true =>
    rw [if_pos hdefers] at h
    obtain ⟨o, s₁, hask, hfill⟩ := yields_bind.1 h
    obtain ⟨rfl, rfl⟩ := Site.yields_ask.1 hask
    dsimp only at hfill
    obtain ⟨slot, s₂, hput, hstore⟩ := yields_bind.1 hfill
    obtain ⟨hput, rfl⟩ := yields_ofExcept.1 hput
    obtain ⟨_, s₃, htell, hreport⟩ := yields_bind.1 hstore
    obtain rfl := Site.yields_tell.1 htell
    obtain ⟨_, s₄, hcount, hremark⟩ := yields_bind.1 hreport
    obtain rfl := count_yields_site.1 hcount
    have hs := Site.untouched_remark hremark
    rw [Slot.ofOption_region?] at hput
    cases hslot : s₂.thread.slot with
    | holding old =>
      rw [hslot] at hput
      cases hput
    | empty =>
      rw [hslot] at hput
      cases hput
      exact .deferred hdefers hs.ledger hs.thread hs.settled
  | false =>
    rw [if_neg (by rw [hdefers]; exact Bool.false_ne_true)] at h
    obtain ⟨_, s₁, hmark, h⟩ := yields_bind.1 h
    obtain ⟨cards, hcards, rfl⟩ := forceMark_yields_site.1 hmark
    obtain rfl := count_yields_site.1 h
    refine .marked hdefers hcards ?_ rfl fun _ => rfl
    show (⟨cards, p.tallied _ (p.tallied _ _)⟩ : Ledger κ) = _
    rw [tallied_tallied]
    rfl

theorem Policy.conclude_yields {object : Address} {verdict : Tally.Kind ⊕ Interval} {x : Unit}
    (h : (p.conclude object verdict).Yields s x t) : Concluded p s t verdict := by
  cases verdict with
  | inl kind =>
    obtain ⟨_, s₁, hcount, h⟩ := yields_bind.1 h
    obtain rfl := count_yields_site.1 hcount
    obtain ⟨o, s₂, hask, h⟩ := yields_bind.1 h
    obtain ⟨rfl, rfl⟩ := Site.yields_ask.1 hask
    split at h
    · exact absurd h not_yields_throw
    · obtain ⟨-, rfl⟩ := yields_pure.1 h
      exact .skipped rfl rfl fun _ => rfl
  | inr r =>
    dsimp only [conclude] at h
    split at h
    · exact absurd h not_yields_throw
    · exact compensate_yields h

/-- **An allocation that comes through** under a policy that compensates has reached a verdict
and done what follows. -/
theorem Policy.finishAllocation_yields {object : Address} {x : Unit}
    (hreduces : p.reducesInitialMarks = true) (h : (p.finishAllocation object).Yields s x u) :
    object ≠ 0 ∧ ∃ verdict t, (p.judge object).Yields s verdict t ∧ Concluded p t u verdict := by
  rw [finishAllocation_eq, if_pos hreduces] at h
  obtain ⟨_, s₁, hobject, hrest⟩ := yields_bind.1 h
  unfold requireObject at hobject
  split at hobject
  · exact absurd hobject not_yields_throw
  · rename_i hne
    obtain ⟨-, rfl⟩ := yields_pure.1 hobject
    obtain ⟨verdict, t, hjudge, hconclude⟩ := yields_bind.1 hrest
    exact ⟨hne, verdict, t, hjudge, conclude_yields hconclude⟩

end Mutator

end CardBarrier
