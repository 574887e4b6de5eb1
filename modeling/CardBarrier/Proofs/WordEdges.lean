import CardBarrier.Proofs.SplitWrite

/-!
# Half words at the edges of a write

The span of a write is made of whole heap words. Where compressed references let a write begin or
end inside a word, the span holds bytes that were not written, and that shows in two places.

A write of no references touches no byte. Inside a word its span is that word all the same, and the
card of the word becomes dirty; only where the write begins a word is the span empty and no card
touched (`Barrier.dirty_of_empty_write`).

A covered interval may end inside a word, since a geometry aligns only its start. A write of the
half word at its end is then covered, but its span is not, and the write stops. Any other covered
write comes through (`Barrier.succeeds_of_covered_iff`): at the lower end a word is never cut, as
the covered interval begins with a card and a card with a word.
-/

namespace CardBarrier

open Act

/-- The covered interval begins with a heap word. -/
theorem Geometry.eight_dvd_start (g : Geometry) : 8 ∣ g.covered.start.toNat :=
  Nat.dvd_trans (Nat.pow_dvd_pow 2 g.three_le_shift) g.start_aligned

theorem CardTable.eq_of_mark {t u : CardTable} {r : Interval} (h : t.mark r = .ok u)
    (hdirty : ∀ i, u.Dirty i ↔ t.Dirty i) : u = t :=
  eq_of_dirty_iff (put_frame h).1 (put_frame h).2.1 (put_frame h).2.2 hdirty

/-- **The fast path into a barrier leads to the same place.** -/
theorem FastPath.run_recordArray {π β : Type} [WriteBarrier β] (place : π) (b : β)
    (start : Address) (count : UInt64) :
    ((into place b).recordArray start count).run b
      = (WriteBarrier.recordArray start count).run b := by
  unfold WriteBarrier.recordArray
  rw [run_bind, run_get]
  rfl

/-! ## Writes of nothing -/

namespace Layout

variable {l : Layout} {start a : Address} {span : Interval}

/-- **The span of a write of nothing** holds the addresses of the word that it begins in, unless it
begins with that word. -/
theorem mem_span_zero_iff (h : l.arraySpan start 0 = .ok span) :
    a ∈ span ↔ ¬8 ∣ start.toNat ∧ a.toNat / 8 = start.toNat / 8 := by
  obtain ⟨hlo, hhi, -⟩ := arraySpan_eq_ok_iff.1 h
  have hend : l.endOf start 0 = start.toNat := by
    unfold endOf
    rw [UInt64.toNat_zero, Nat.zero_mul, Nat.add_zero]
  rw [hend] at hhi
  rw [Interval.mem_iff_toNat]
  omega

end Layout

/-- The span of a write of nothing meets the card that holds its start, unless it begins with a
word. -/
theorem Geometry.meets_span_zero_iff {g : Geometry} {l : Layout} {start : Address}
    {span : Interval} {i : Nat} (h : l.arraySpan start 0 = .ok span)
    (hspan : g.covered.includes span = true) :
    g.Meets i span ↔ ¬8 ∣ start.toNat ∧ g.Holds i start := by
  obtain ⟨first, n, hcards⟩ := exists_cardsOf_of_includes hspan
  constructor
  · rintro ⟨a, ha, hhold⟩
    obtain ⟨hinside, hword⟩ := (Layout.mem_span_zero_iff h).1 ha
    -- the start shares its word with an address of the card, and lies in the span as well
    have hstart : start ∈ span := (Layout.mem_span_zero_iff h).2 ⟨hinside, rfl⟩
    have hcovered := mem_covered_of_cardsOf hcards hstart
    refine ⟨hinside, holds_iff.2 ⟨hcovered, ?_⟩⟩
    rw [← cardNumber_eq_of_word hword]
    exact (holds_iff.1 hhold).2
  · rintro ⟨hinside, hhold⟩
    exact ⟨start, (Layout.mem_span_zero_iff h).2 ⟨hinside, rfl⟩, hhold⟩

/-- **A write of nothing dirties the card of its start where that lies inside a word**, and no
other, by either way in. So it leaves the table as it was if and only if it begins with a word or
that card was dirty already, and always where references fill words. -/
theorem Barrier.dirty_of_empty_write {b c : Barrier CardTable} {start : Address}
    (h : (WriteBarrier.recordArray start 0).Yields b () c ∨
      ((FastPath.ofBarrier b).recordArray start 0).Yields b () c) :
    (∀ i, c.ledger.cards.Dirty i ↔ b.ledger.cards.Dirty i ∨
      ¬8 ∣ start.toNat ∧ b.ledger.cards.geometry.Holds i start) ∧
    (c.ledger.cards = b.ledger.cards ↔
      8 ∣ start.toNat ∨ ∀ i, b.ledger.cards.geometry.Holds i start → b.ledger.cards.Dirty i) ∧
    (b.policy.layout = .wordSized → c.ledger.cards = b.ledger.cards) := by
  have hwrite : (WriteBarrier.recordArray start 0).Yields b () c :=
    h.elim id fun hfast => (FastPath.run_recordArray () b start 0).symm.trans hfast
  obtain ⟨span, cards, hspan, hmark, rfl⟩ := WriteBarrier.recordArray_yields_iff.1 hwrite
  rw [CardTable.mark_yields] at hmark
  have hdirty : ∀ i, cards.Dirty i ↔ b.ledger.cards.Dirty i ∨
      ¬8 ∣ start.toNat ∧ b.ledger.cards.geometry.Holds i start := by
    intro i
    rw [CardTable.dirty_mark hmark,
      Geometry.meets_span_zero_iff hspan (CardTable.exists_mark_iff.1 ⟨cards, hmark⟩)]
  have hunchanged : cards = b.ledger.cards ↔
      8 ∣ start.toNat ∨ ∀ i, b.ledger.cards.geometry.Holds i start → b.ledger.cards.Dirty i := by
    constructor
    · rintro rfl
      refine or_iff_not_imp_left.2 fun hinside i hhold => ?_
      exact (hdirty i).2 (.inr ⟨hinside, hhold⟩)
    · intro hclean
      refine CardTable.eq_of_mark hmark fun i => (hdirty i).trans (or_iff_left_of_imp ?_)
      rintro ⟨hinside, hhold⟩
      exact hclean.resolve_left hinside i hhold
  refine ⟨hdirty, hunchanged, fun hlayout => hunchanged.2 (.inl ?_)⟩
  exact (Layout.arraySpan_eq_ok_iff.1 hspan).2.2 hlayout

namespace SmallHeap

/-- Nothing is written in the middle of the word at 512, and nothing is dirty but its card. -/
theorem empty_write_mid_word :
    ∃ c, (WriteBarrier.recordArray 516 0).Yields barrier () c ∧
      ∀ i, c.ledger.cards.Dirty i ↔ barrier.ledger.cards.Dirty i ∨
        ¬8 ∣ (516 : Address).toNat ∧ barrier.ledger.cards.geometry.Holds i 516 := by
  have hspan : (policy true).layout.arraySpan 516 0 = .ok ⟨512, 520, by decide⟩ := rfl
  obtain ⟨_, c, hwrite⟩ := Barrier.succeeds_recordArray_iff (b := barrier).2 ⟨_, hspan, rfl⟩
  exact ⟨c, hwrite, (Barrier.dirty_of_empty_write (.inl hwrite)).1⟩

/-- **A write of nothing may dirty a card.** No card is dirty before it. -/
theorem empty_write_dirties :
    ∃ c, (WriteBarrier.recordArray 4 0).Yields barrier () c ∧
      ((FastPath.ofBarrier barrier).recordArray 4 0).Yields barrier () c ∧
      ¬barrier.ledger.cards.Dirty 0 ∧ c.ledger.cards.Dirty 0 :=
  ⟨_, rfl, rfl, by decide, by decide⟩

end SmallHeap

/-! ## Writes at the end of the covered interval -/

/-- **A covered write comes through if and only if the word that it ends in is covered too.** That
is so wherever references fill words or the covered interval ends with a word. -/
theorem Barrier.succeeds_of_covered_iff {b : Barrier CardTable} {start : Address} {count : UInt64}
    (hcount : 0 < count) (haligned : b.policy.layout.referenceBytes.toNat ∣ start.toNat)
    (hstart : b.ledger.cards.covered.start.toNat ≤ start.toNat)
    (hstop : b.policy.layout.endOf start count ≤ b.ledger.cards.covered.stop.toNat) :
    ((WriteBarrier.recordArray start count).Succeeds b ↔
      8 * ((b.policy.layout.endOf start count + 7) / 8) ≤ b.ledger.cards.covered.stop.toNat) ∧
    (b.policy.layout = .wordSized ∨ 8 ∣ b.ledger.cards.covered.stop.toNat →
      (WriteBarrier.recordArray start count).Succeeds b) := by
  have hend : start.toNat < b.policy.layout.endOf start count :=
    Nat.lt_add_of_pos_right (Nat.mul_pos (UInt64.lt_iff_toNat_lt.1 hcount)
      (Nat.lt_of_lt_of_le (by decide) b.policy.layout.four_le_referenceBytes))
  have hword : 8 ∣ b.ledger.cards.covered.start.toNat := Geometry.eight_dvd_start _
  have hwrite : (WriteBarrier.recordArray start count).Succeeds b ↔
      8 * ((b.policy.layout.endOf start count + 7) / 8) ≤ b.ledger.cards.covered.stop.toNat := by
    rw [succeeds_recordArray_iff]
    constructor
    · rintro ⟨span, hspan, hin⟩
      obtain ⟨hlo, hhi, -⟩ := Layout.arraySpan_eq_ok_iff.1 hspan
      rw [Interval.includes_iff_toNat] at hin
      omega
    · intro hroom
      obtain ⟨span, hlo, hhi⟩ := Interval.exists_of_toNat (m := 8 * (start.toNat / 8)) (by omega)
        (Nat.lt_of_le_of_lt hroom b.ledger.cards.covered.stop.toNat_lt)
      refine ⟨span, Layout.arraySpan_eq_ok_iff.2 ⟨hlo, hhi, fun hlayout => ?_⟩,
        Interval.includes_iff_toNat.2 (.inr ⟨by omega, by omega⟩)⟩
      rw [hlayout] at haligned
      exact haligned
  refine ⟨hwrite, fun hwhole => hwrite.2 ?_⟩
  obtain hlayout | hwhole := hwhole
  · rw [hlayout] at haligned hstop ⊢
    rw [Layout.endOf_wordSized] at hstop ⊢
    have hdvd : 8 ∣ start.toNat := haligned
    omega
  · omega

namespace SmallHeap

/-- The last half word that is covered, where the covered interval ends with a word. -/
theorem covered_write_at_end : (WriteBarrier.recordArray 1020 1).Succeeds barrier :=
  (Barrier.succeeds_of_covered_iff (by decide) (by decide) (by decide) (by decide)).2
    (.inr (by decide))

/-- **A covered write may stop.** The last half word that is covered is written, and the covered
interval ends with it, in the middle of a word. -/
theorem covered_write_stops :
    ∃ t b, CardTable.ofCardSize ⟨0, 516, by decide⟩ 512 .stopTheWorld = .ok t ∧
      Barrier.ofSettings { compressed := true } t = .ok b ∧
      b.policy.layout.written 512 1 = .ok ⟨512, 516, by decide⟩ ∧
      t.covered.includes ⟨512, 516, by decide⟩ = true ∧
      ((WriteBarrier.recordArray 512 1).run b).1 = .error (.uncovered 519 t.covered) :=
  ⟨_, _, rfl, rfl, rfl, rfl, rfl⟩

end SmallHeap

end CardBarrier
