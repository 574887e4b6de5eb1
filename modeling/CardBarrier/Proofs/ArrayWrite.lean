import CardBarrier.Proofs.MoveEffect

/-!
# What an array write does, and by which way in

An array write comes in by the barrier itself or by a fast path that was made for it, and these
are two ways to the same end (`Policy.writes_yield`). It works out the span of the write, which is
wider than the bytes written where these begin or end inside a heap word, and asks its store
for one mark over it.

What becomes dirty nevertheless are the cards of the bytes written and no others
(`Policy.ArrayWritten`): a card begins and ends between heap words, so that widening to whole
words reaches no card that was not reached before. That is so for every card size, wherever the
write lies on its cards, and for either width of references.
-/

namespace CardBarrier

open Act

/-! ## The bytes written -/

/-- **The bytes of a write** run from its start on, as many as its references take. -/
theorem Layout.written_bounds {l : Layout} {start : Address} {count : UInt64} {r : Interval}
    (h : l.written start count = .ok r) :
    r.start = start ∧ r.stop.toNat = start.toNat + count.toNat * l.referenceBytes.toNat := by
  unfold written at h
  split at h
  · cases h
  split at h
  · rename_i stop hstop
    obtain ⟨bytes, hbytes, hsum⟩ := Option.bind_eq_some_iff.1 hstop
    unfold Interval.ofBounds at h
    split at h
    · cases h
      exact ⟨rfl, by rw [Word.toNat_add? hsum, Word.toNat_mul? hbytes]⟩
    · cases h
  · cases h

/-- **The span of a write meets the cards that hold the bytes written.** -/
theorem Geometry.meets_span_iff {g : Geometry} {l : Layout} {start : Address} {count : UInt64}
    {span : Interval} {i : Nat} (h : l.arraySpan start count = .ok span) (hcount : 0 < count)
    (hspan : g.covered.includes span = true) :
    g.Meets i span ↔ ∃ b, g.Holds i b ∧ start.toNat ≤ b.toNat ∧
      b.toNat < start.toNat + count.toNat * l.referenceBytes.toNat := by
  obtain ⟨first, n, hcards⟩ := exists_cardsOf_of_includes hspan
  obtain ⟨written, hwritten, hmeets⟩ := meets_arraySpan (i := i) h hcount hcards
  obtain ⟨rfl, hstop⟩ := Layout.written_bounds hwritten
  rw [hmeets]
  simp only [Meets, Interval.mem_iff_toNat, hstop]
  exact exists_congr fun b => and_comm

/-! ## The mark -/

/-- **A mark over a covered interval** is made on the table of a store, and put on record where
marks are recorded. -/
theorem Store.exists_mark {s : Store} {r : Interval}
    (h : (TableBacked.table s).covered.includes r = true) :
    ∃ t : Store, (RememberedSet.mark r).Yields s () t ∧
      (TableBacked.table s).mark r = .ok (TableBacked.table t) ∧
      t.calls? = s.calls?.map (· ++ [.mark r]) := by
  obtain ⟨u, hu⟩ := CardTable.exists_mark_of_includes h
  have hmark : (RememberedSet.mark r).Yields (TableBacked.table s) () u :=
    CardTable.mark_yields.2 hu
  cases s with
  | inl t => exact ⟨.inl u, hmark.onEither_inl _, hu, rfl⟩
  | inr rec =>
    have hrecorded : (RememberedSet.mark r).Yields rec () ⟨u, rec.calls ++ [.mark r]⟩ :=
      Recorder.passOn_yields.2 ⟨u, hmark, rfl⟩
    exact ⟨.inr ⟨u, rec.calls ++ [.mark r]⟩, hrecorded.onEither_inr _, hu, rfl⟩

/-! ## Both ways in -/

section Write

variable {κ ω τ : Type} [RememberedSet κ] [TableBacked κ] [HeapView ω] [SlotHolder τ]

/-- **Both ways in lead to the same place**, where the store lets the mark be made. -/
theorem Policy.writes_yield {p : Policy} {a : Arena κ ω τ} {start : Address} {count : UInt64}
    {span : Interval} {cards : κ} (hspan : p.layout.arraySpan start count = .ok span)
    (hmark : (RememberedSet.mark span).Yields a.scene.ledger.cards () cards) :
    (p.perform (.writeArray start count)).Yields a .done
        (a.withLedger ⟨cards, p.tallied [.write, .mark] a.scene.ledger.tally⟩) ∧
      (p.perform (.writeOnFastPath start count)).Yields a (.layout p.layout)
        (a.withLedger ⟨cards, p.tallied [.write, .mark] a.scene.ledger.tally⟩) := by
  have hwrite : (Act.ofExcept (p.layout.arraySpan start count) >>= fun span =>
      Arena.onLedger (p.writeSpan span) : Act (Arena κ ω τ) Unit).Yields a ()
        (a.withLedger ⟨cards, p.tallied [.write, .mark] a.scene.ledger.tally⟩) :=
    yields_bind.2 ⟨span, a, yields_ofExcept.2 ⟨hspan, rfl⟩,
      Arena.onLedger_yields.2 ⟨_, writeSpan_yields.2 ⟨cards, hmark, rfl⟩, rfl⟩⟩
  constructor
  · refine silently_yields.2 ⟨rfl, ?_⟩
    rw [recordArray_eq]
    exact hwrite
  · rw [p.perform_writeOnFastPath (), fastPath_eq]
    exact yields_bind.2 ⟨(), _, hwrite, yields_pure.2 ⟨rfl, rfl⟩⟩

end Write

/-- **An array write was made**: what it made dirty, what it asked for, what it counted, and what
it left alone. -/
structure Policy.ArrayWritten {ω τ : Type} (p : Policy) (a : Arena Store ω τ) (start : Address)
    (count : UInt64) (span : Interval) (c : Arena Store ω τ) : Prop where
  /-- A card is dirty if it was, or if it holds one of the bytes written. -/
  dirty_iff (i : Nat) : (TableBacked.table c.scene.ledger.cards).Dirty i ↔
    (TableBacked.table a.scene.ledger.cards).Dirty i ∨
      ∃ b, (TableBacked.table a.scene.ledger.cards).geometry.Holds i b ∧
        start.toNat ≤ b.toNat ∧
        b.toNat < start.toNat + count.toNat * p.layout.referenceBytes.toNat
  /-- Cards are divided, and young objects are, as before. -/
  like : (TableBacked.table a.scene.ledger.cards).Like (TableBacked.table c.scene.ledger.cards)
  /-- The store was asked for one mark. -/
  calls : c.scene.ledger.cards.calls? = a.scene.ledger.cards.calls?.map (· ++ [.mark span])
  /-- A write and a mark were counted, if events are counted. -/
  counted (hcounts : p.counts = true) (k : Tally.Kind) (hk : k ∈ [Tally.Kind.write, .mark]) :
    c.scene.ledger.tally.get k = a.scene.ledger.tally.get k + 1
  /-- Nothing else was counted. -/
  uncounted (k : Tally.Kind) (hk : p.counts = false ∨ k ∉ [Tally.Kind.write, .mark]) :
    c.scene.ledger.tally.get k = a.scene.ledger.tally.get k
  /-- The threads are as they were, and so are their slots. -/
  threads : c.threads = a.threads
  /-- The objects are as they were. -/
  heap : c.scene.heap = a.scene.heap
  /-- Nothing was said about it. -/
  journal : c.scene.journal = a.scene.journal

/-- **A write of at least one reference dirties the cards of the bytes written**, and no others,
by either way in: provided that its span is covered. -/
theorem Policy.exists_arrayWritten {ω τ : Type} [HeapView ω] [SlotHolder τ] {p : Policy}
    {a : Arena Store ω τ} {start : Address} {count : UInt64} {span : Interval}
    (hspan : p.layout.arraySpan start count = .ok span) (hcount : 0 < count)
    (hcovered : (TableBacked.table a.scene.ledger.cards).covered.includes span = true) :
    ∃ c, (p.perform (.writeArray start count)).Yields a .done c ∧
      (p.perform (.writeOnFastPath start count)).Yields a (.layout p.layout) c ∧
      p.ArrayWritten a start count span c := by
  obtain ⟨cards, hmark, htable, hcalls⟩ := Store.exists_mark hcovered
  obtain ⟨hwrite, hfast⟩ := writes_yield hspan hmark
  refine ⟨_, hwrite, hfast, fun i => ?_, CardTable.like_mark htable, hcalls, fun hcounts k hk => ?_,
    fun k hk => ?_, rfl, rfl, rfl⟩
  · rw [← Geometry.meets_span_iff hspan hcount hcovered]
    exact CardTable.dirty_mark htable
  · show (p.tallied [.write, .mark] _).get k = _
    rw [tallied, if_pos hcounts]
    obtain rfl | rfl : k = .write ∨ k = .mark := by simpa using hk
    · rfl
    · rfl
  · obtain huncounted | hk := hk
    · show (p.tallied [.write, .mark] _).get k = _
      rw [tallied, huncounted, if_neg Bool.false_ne_true]
    · exact get_tallied_of_not_mem hk

namespace SmallHeap

/-- The small heap with its marks on record. -/
def onRecord : Arena Store Objects Mutator :=
  ⟨⟨{ cards := .inr { store := .ofGeometry geometry .stopTheWorld } },
    ⟨[{ address := 512, words := 4 }]⟩, {}⟩, {}⟩

/-- Two references of four bytes, one on either side of where the second card begins. -/
theorem arrayWritten_across_cards :
    ∃ c, ((policy true).perform (.writeArray 508 2)).Yields onRecord .done c ∧
      ((policy true).perform (.writeOnFastPath 508 2)).Yields onRecord (.layout .compressed) c ∧
      (policy true).ArrayWritten onRecord 508 2 ⟨504, 520, by decide⟩ c :=
  Policy.exists_arrayWritten rfl (by decide) rfl

end SmallHeap

end CardBarrier
