import CardBarrier.Proofs.ArraySpan
import CardBarrier.Proofs.TableHistory

/-!
# A write in two parts

A long array write may be made in two parts, the second from where the first ends. With compressed
references the parts can meet inside a heap word, and then the span of each takes in the whole of
that word; and a part of no references at all has that word for its span. Even so the spans of the
parts make up the span of the whole (`Layout.joins_of_arraySpan`): they begin and end where it does
and leave no gap.

A card table makes no difference between a mark over an interval and two marks over parts that make
it up, neither in the cards that become dirty nor in what stops the marks
(`CardTable.mark_joins`). The write may therefore be split anywhere (`Barrier.split_write`). Only
the counters tell, since two writes are counted.
-/

namespace CardBarrier

open Act

/-! ## Intervals made up of two -/

namespace Interval

variable {c r s t : Interval} {a : Address}

/-- **The interval is made up of two others**, which begin and end where it does and leave no gap
between them. They may overlap, and each of them may be empty. -/
structure Joins (r s t : Interval) : Prop where
  /-- The first begins where the interval does. -/
  start_eq : r.start.toNat = s.start.toNat
  /-- The second ends where the interval does. -/
  stop_eq : r.stop.toNat = t.stop.toNat
  /-- The first begins before the second. -/
  start_le : s.start.toNat ≤ t.start.toNat
  /-- The first ends before the second. -/
  stop_le : s.stop.toNat ≤ t.stop.toNat
  /-- The second begins no later than the first ends. -/
  no_gap : t.start.toNat ≤ s.stop.toNat

theorem Joins.mem_iff (h : r.Joins s t) : a ∈ r ↔ a ∈ s ∨ a ∈ t := by
  obtain ⟨hstart, hstop, hstarts, hstops, hgap⟩ := h
  rw [mem_iff_toNat, mem_iff_toNat, mem_iff_toNat]
  omega

/-- It lies inside another if both of them do. -/
theorem Joins.includes_iff (h : r.Joins s t) :
    c.includes r = true ↔ c.includes s = true ∧ c.includes t = true := by
  obtain ⟨hstart, hstop, hstarts, hstops, hgap⟩ := h
  have hs := s.toNat_start_le
  have ht := t.toNat_start_le
  rw [includes_iff_toNat, includes_iff_toNat, includes_iff_toNat]
  omega

end Interval

/-- An interval meets the cards that either part of it meets. -/
theorem Geometry.meets_joins {g : Geometry} {r s t : Interval} {i : Nat} (h : r.Joins s t) :
    g.Meets i r ↔ g.Meets i s ∨ g.Meets i t := by
  simp only [Meets, h.mem_iff, or_and_right, exists_or]

/-! ## Marks over both parts -/

namespace CardTable

variable {t u v w : CardTable} {r s s' : Interval}

/-- **A table can be marked over the intervals inside its covered one**, and over no others. -/
theorem exists_mark_iff : (∃ u, t.mark r = .ok u) ↔ t.covered.includes r = true := by
  constructor
  · rintro ⟨u, hu⟩
    rw [← Bool.not_eq_false]
    intro hout
    have hcards := Geometry.cardsOf_eq_error (g := t.geometry) hout
    simp [mark, put, hcards, bind, Except.bind] at hu
  · exact exists_mark_of_includes

theorem covered_of_mark (h : t.mark r = .ok u) : u.covered = t.covered :=
  congrArg Geometry.covered (put_frame h).1

/-- Tables that differ in cards at most, and have the same cards dirty, are the same. -/
theorem eq_of_dirty_iff (hgeometry : u.geometry = t.geometry) (hscanning : u.scanning = t.scanning)
    (hyoung : u.young = t.young) (hdirty : ∀ i, u.Dirty i ↔ t.Dirty i) : u = t := by
  have hcards := cards_eq_of_dirty_iff hgeometry hdirty
  obtain ⟨g, scanning, young, cards⟩ := u
  obtain ⟨g', scanning', young', cards'⟩ := t
  obtain rfl : g = g' := hgeometry
  obtain rfl : scanning = scanning' := hscanning
  obtain rfl : young = young' := hyoung
  obtain rfl : cards = cards' := Vector.toList_inj.1 hcards
  rfl

/-- One mark over an interval and two over its parts come to the same table. -/
theorem eq_of_mark_joins (h : r.Joins s s') (hwhole : t.mark r = .ok u) (hfirst : t.mark s = .ok v)
    (hsecond : v.mark s' = .ok w) : w = u := by
  obtain ⟨hg, hscanning, hyoung⟩ := put_frame hwhole
  obtain ⟨hg', hscanning', hyoung'⟩ := put_frame hfirst
  obtain ⟨hg'', hscanning'', hyoung''⟩ := put_frame hsecond
  refine eq_of_dirty_iff (hg''.trans (hg'.trans hg.symm))
    (hscanning''.trans (hscanning'.trans hscanning.symm))
    (hyoung''.trans (hyoung'.trans hyoung.symm)) fun i => ?_
  rw [dirty_mark hsecond, dirty_mark hfirst, dirty_mark hwhole, hg', Geometry.meets_joins h,
    or_assoc]

/-- **A table makes no difference between a mark over an interval and marks over its parts**. -/
theorem mark_joins (h : r.Joins s s') :
    t.mark r = .ok u ↔ ∃ v, t.mark s = .ok v ∧ v.mark s' = .ok u := by
  constructor
  · intro hwhole
    obtain ⟨hin, hin'⟩ := h.includes_iff.1 (exists_mark_iff.1 ⟨u, hwhole⟩)
    obtain ⟨v, hfirst⟩ := exists_mark_iff.2 hin
    rw [← covered_of_mark hfirst] at hin'
    obtain ⟨w, hsecond⟩ := exists_mark_iff.2 hin'
    exact ⟨v, hfirst, eq_of_mark_joins h hwhole hfirst hsecond ▸ hsecond⟩
  · rintro ⟨v, hfirst, hsecond⟩
    have hin' := exists_mark_iff.1 ⟨u, hsecond⟩
    rw [covered_of_mark hfirst] at hin'
    obtain ⟨w, hwhole⟩ :=
      exists_mark_iff.2 (h.includes_iff.2 ⟨exists_mark_iff.1 ⟨v, hfirst⟩, hin'⟩)
    exact eq_of_mark_joins h hwhole hfirst hsecond ▸ hwhole

end CardTable

/-! ## The spans of both parts -/

namespace Layout

variable {l : Layout} {start mid : Address} {n m : UInt64} {span first second : Interval}

/-- The first part ends where the second begins. -/
theorem toNat_mid (hmid : l.endOf start n < UInt64.size) :
    (start + n * l.referenceBytes).toNat = l.endOf start n := by
  rw [UInt64.toNat_add, UInt64.toNat_mul, Nat.add_mod_mod]
  exact Nat.mod_eq_of_lt hmid

/-- The second part ends where the whole does. -/
theorem endOf_mid (hcount : n.toNat + m.toNat < UInt64.size) (hmid : mid.toNat = l.endOf start n) :
    l.endOf mid m = l.endOf start (n + m) := by
  have hsum : (n + m).toNat = n.toNat + m.toNat := by
    rw [UInt64.toNat_add]
    exact Nat.mod_eq_of_lt hcount
  unfold endOf at hmid ⊢
  rw [hmid, hsum, Nat.add_mul, Nat.add_assoc]

/-- **A write has a span if and only if both of its parts have.** -/
theorem hasSpan_split (hcount : n.toNat + m.toNat < UInt64.size)
    (hmid : mid.toNat = l.endOf start n) :
    l.HasSpan start (n + m) ↔ l.HasSpan start n ∧ l.HasSpan mid m := by
  have hend := endOf_mid hcount hmid
  have hle := l.start_le_endOf mid m
  unfold HasSpan
  cases l with
  | compressed =>
    simp only
    omega
  | wordSized =>
    rw [endOf_wordSized] at hmid
    simp only [endOf_wordSized] at hend hle ⊢
    omega

/-- **The spans of the parts make up the span of the whole.** -/
theorem joins_of_arraySpan (hcount : n.toNat + m.toNat < UInt64.size)
    (hmid : mid.toNat = l.endOf start n) (hspan : l.arraySpan start (n + m) = .ok span)
    (hfirst : l.arraySpan start n = .ok first) (hsecond : l.arraySpan mid m = .ok second) :
    span.Joins first second := by
  obtain ⟨hlo, hhi, -⟩ := arraySpan_eq_ok_iff.1 hspan
  obtain ⟨hlo', hhi', -⟩ := arraySpan_eq_ok_iff.1 hfirst
  obtain ⟨hlo'', hhi'', -⟩ := arraySpan_eq_ok_iff.1 hsecond
  have hbegin := l.start_le_endOf start n
  have hend := l.start_le_endOf mid m
  rw [← endOf_mid hcount hmid] at hhi
  exact ⟨by omega, by omega, by omega, by omega, by omega⟩

end Layout

/-! ## The write -/

/-- **An array write by a barrier** marks its span and counts a write and a mark. -/
theorem WriteBarrier.recordArray_yields_iff {κ : Type} [RememberedSet κ] {b c : Barrier κ}
    {start : Address} {count : UInt64} {x : Unit} :
    (recordArray start count).Yields b x c ↔ ∃ span cards,
      b.policy.layout.arraySpan start count = .ok span ∧
      (RememberedSet.mark span).Yields b.ledger.cards x cards ∧
      c = ⟨b.policy, ⟨cards, b.policy.tallied [.write, .mark] b.ledger.tally⟩⟩ := by
  unfold recordArray
  constructor
  · intro h
    obtain ⟨_, b', hget, hrest⟩ := yields_bind.1 h
    obtain ⟨rfl, rfl⟩ := yields_get.1 hget
    obtain ⟨span, b'', hwork, hwrite⟩ := yields_bind.1 hrest
    obtain ⟨hspan, rfl⟩ := yields_ofExcept.1 hwork
    obtain ⟨l, hl, rfl⟩ := Barrier.onLedger_yields.1 hwrite
    obtain ⟨cards, hmark, rfl⟩ := Policy.writeSpan_yields.1 hl
    exact ⟨span, cards, hspan, hmark, rfl⟩
  · rintro ⟨span, cards, hspan, hmark, rfl⟩
    refine yields_bind.2 ⟨b, b, yields_get.2 ⟨rfl, rfl⟩, yields_bind.2
      ⟨span, b, yields_ofExcept.2 ⟨hspan, rfl⟩, Barrier.onLedger_yields.2 ⟨_, ?_, rfl⟩⟩⟩
    exact Policy.writeSpan_yields.2 ⟨cards, hmark, rfl⟩

namespace Barrier

variable {b c : Barrier CardTable} {start mid : Address} {n m : UInt64}

/-- **Over a card table a write comes through** if it has a span and that is covered. -/
theorem succeeds_recordArray_iff {count : UInt64} :
    (WriteBarrier.recordArray start count).Succeeds b ↔ ∃ span,
      b.policy.layout.arraySpan start count = .ok span ∧
        b.ledger.cards.covered.includes span = true := by
  constructor
  · rintro ⟨_, c, h⟩
    obtain ⟨span, cards, hspan, hmark, -⟩ := WriteBarrier.recordArray_yields_iff.1 h
    exact ⟨span, hspan, CardTable.exists_mark_iff.1 ⟨cards, CardTable.mark_yields.1 hmark⟩⟩
  · rintro ⟨span, hspan, hin⟩
    obtain ⟨cards, hmark⟩ := CardTable.exists_mark_iff.2 hin
    exact ⟨(), _, WriteBarrier.recordArray_yields_iff.2
      ⟨span, cards, hspan, CardTable.mark_yields.2 hmark, rfl⟩⟩

/-- **A write that comes through does so in two parts**, and leaves the same card table. -/
theorem exists_parts_of_whole (hcount : n.toNat + m.toNat < UInt64.size)
    (hmid : mid.toNat = b.policy.layout.endOf start n)
    (h : (WriteBarrier.recordArray start (n + m)).Yields b () c) :
    ∃ d, (WriteBarrier.recordArray start n >>= fun _ => WriteBarrier.recordArray mid m).Yields
      b () d ∧ d.ledger.cards = c.ledger.cards := by
  obtain ⟨span, cards, hspan, hmark, rfl⟩ := WriteBarrier.recordArray_yields_iff.1 h
  obtain ⟨hfirst, hsecond⟩ :=
    (Layout.hasSpan_split hcount hmid).1 (Layout.exists_arraySpan_iff.1 ⟨span, hspan⟩)
  obtain ⟨first, hfirst⟩ := Layout.exists_arraySpan_iff.2 hfirst
  obtain ⟨second, hsecond⟩ := Layout.exists_arraySpan_iff.2 hsecond
  have hjoins := Layout.joins_of_arraySpan hcount hmid hspan hfirst hsecond
  obtain ⟨between, hmark', hmark''⟩ :=
    (CardTable.mark_joins hjoins).1 (CardTable.mark_yields.1 hmark)
  refine ⟨_, yields_bind.2 ⟨(), _, WriteBarrier.recordArray_yields_iff.2
    ⟨first, between, hfirst, CardTable.mark_yields.2 hmark', rfl⟩,
    WriteBarrier.recordArray_yields_iff.2
      ⟨second, cards, hsecond, CardTable.mark_yields.2 hmark'', rfl⟩⟩, rfl⟩

/-- **A write that comes through in two parts does so as a whole**, and leaves the same card
table. -/
theorem exists_whole_of_parts (hcount : n.toNat + m.toNat < UInt64.size)
    (hmid : mid.toNat = b.policy.layout.endOf start n)
    (h : (WriteBarrier.recordArray start n >>= fun _ => WriteBarrier.recordArray mid m).Yields
      b () c) :
    ∃ d, (WriteBarrier.recordArray start (n + m)).Yields b () d ∧
      d.ledger.cards = c.ledger.cards := by
  obtain ⟨_, b', hwrite, hwrite'⟩ := yields_bind.1 h
  obtain ⟨first, between, hfirst, hmark, rfl⟩ := WriteBarrier.recordArray_yields_iff.1 hwrite
  obtain ⟨second, cards, hsecond, hmark', rfl⟩ := WriteBarrier.recordArray_yields_iff.1 hwrite'
  have hhas := (Layout.hasSpan_split hcount hmid).2
    ⟨Layout.exists_arraySpan_iff.1 ⟨first, hfirst⟩, Layout.exists_arraySpan_iff.1 ⟨second, hsecond⟩⟩
  obtain ⟨span, hspan⟩ := Layout.exists_arraySpan_iff.2 hhas
  have hjoins := Layout.joins_of_arraySpan hcount hmid hspan hfirst hsecond
  have hwhole := (CardTable.mark_joins hjoins).2
    ⟨between, CardTable.mark_yields.1 hmark, CardTable.mark_yields.1 hmark'⟩
  exact ⟨_, WriteBarrier.recordArray_yields_iff.2
    ⟨span, cards, hspan, CardTable.mark_yields.2 hwhole, rfl⟩, rfl⟩

/-- **An array write may be split anywhere.** It comes through if and only if its two parts do, one
after the other, and the cards that are dirty then are the same: also where the parts meet inside
a heap word, and where one of them has no references. -/
theorem split_write (b : Barrier CardTable) (start : Address) (n m : UInt64)
    (hcount : n.toNat + m.toNat < UInt64.size)
    (hmid : start.toNat + n.toNat * b.policy.layout.referenceBytes.toNat < UInt64.size) :
    ((WriteBarrier.recordArray start (n + m)).Succeeds b ↔
      (WriteBarrier.recordArray start n >>= fun _ =>
        WriteBarrier.recordArray (start + n * b.policy.layout.referenceBytes) m).Succeeds b) ∧
    ∀ c d, (WriteBarrier.recordArray start (n + m)).Yields b () c →
      (WriteBarrier.recordArray start n >>= fun _ =>
        WriteBarrier.recordArray (start + n * b.policy.layout.referenceBytes) m).Yields b () d →
      d.ledger.cards = c.ledger.cards := by
  have hbegin := Layout.toNat_mid hmid
  refine ⟨⟨?_, ?_⟩, ?_⟩
  · rintro ⟨_, c, hwhole⟩
    obtain ⟨d, hparts, -⟩ := exists_parts_of_whole hcount hbegin hwhole
    exact hparts.succeeds
  · rintro ⟨_, d, hparts⟩
    obtain ⟨c, hwhole, -⟩ := exists_whole_of_parts hcount hbegin hparts
    exact hwhole.succeeds
  · intro c d hwhole hparts
    obtain ⟨d', hparts', hcards⟩ := exists_parts_of_whole hcount hbegin hwhole
    obtain ⟨-, rfl⟩ := hparts.unique hparts'
    exact hcards

end Barrier

namespace SmallHeap

/-- A barrier for compressed references over the two cards. -/
def barrier : Barrier CardTable := ⟨policy true, { cards := .ofGeometry geometry .stopTheWorld }⟩

/-- Three references of four bytes, the first of them in the first card and the others in the
second. The second part begins in the middle of a word. -/
theorem split_mid_word :
    ∃ c d, (WriteBarrier.recordArray 508 (2 + 1)).Yields barrier () c ∧
      (WriteBarrier.recordArray 508 2 >>= fun _ =>
        WriteBarrier.recordArray (508 + 2 * 4) 1).Yields barrier () d ∧
      d.ledger.cards = c.ledger.cards := by
  have hsplit := Barrier.split_write barrier 508 2 1 (by decide) (by decide)
  have hspan : (policy true).layout.arraySpan 508 (2 + 1) = .ok ⟨504, 520, by decide⟩ := rfl
  obtain ⟨_, c, hwhole⟩ :=
    Barrier.succeeds_recordArray_iff (b := barrier).2 ⟨_, hspan, rfl⟩
  obtain ⟨_, d, hparts⟩ := hsplit.1.1 hwhole.succeeds
  exact ⟨c, d, hwhole, hparts, hsplit.2 c d hwhole hparts⟩

end SmallHeap

end CardBarrier
