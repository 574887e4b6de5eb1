import CardBarrier.Card.Table
import CardBarrier.Layout
import CardBarrier.Proofs.Widening
import CardBarrier.Proofs.Yields

/-!
# Which cards an interval meets

A card holds the covered addresses of one stretch of the heap, a card size long, and an
interval meets the cards that hold one of its addresses. That is said here of addresses
alone (`Geometry.Meets`), and the card numbers that a table works with are shown to say
the same: marking an interval makes dirty exactly the cards that it meets, and clearing
makes exactly those clean.

Cards are whole heap words, so widening an interval to whole words makes it meet no
card that it did not meet before. An array write therefore marks the cards of the bytes
it touches and no others (`Geometry.meets_arraySpan`), as long as it touches any.
-/

namespace CardBarrier

namespace Interval

variable {r : Interval}

theorem start_lt_stop (h : r.isEmpty = false) : r.start.toNat < r.stop.toNat :=
  UInt64.lt_iff_toNat_lt.1 (start_mem h).2

/-- The last address inside, of an interval that is not empty. -/
theorem toNat_last (h : r.isEmpty = false) : (r.stop - 1).toNat = r.stop.toNat - 1 := by
  have hlt := start_lt_stop h
  rw [UInt64.toNat_sub_of_le]
  · rfl
  · rw [UInt64.le_iff_toNat_le]
    show 1 ≤ r.stop.toNat
    omega

theorem mem_iff_toNat {a : Address} :
    a ∈ r ↔ r.start.toNat ≤ a.toNat ∧ a.toNat < r.stop.toNat := by
  rw [mem_iff, UInt64.le_iff_toNat_le, UInt64.lt_iff_toNat_lt]

theorem last_mem (h : r.isEmpty = false) : r.stop - 1 ∈ r := by
  have hlt := start_lt_stop h
  rw [mem_iff_toNat, toNat_last h]
  omega

theorem not_mem_of_isEmpty (h : r.isEmpty = true) (a : Address) : a ∉ r := by
  have heq := congrArg UInt64.toNat (isEmpty_iff.1 h)
  rw [mem_iff_toNat]
  omega

end Interval

namespace Geometry

variable {g : Geometry} {r : Interval} {i first n : Nat} {a b : Address}

/-- **The card holds the address**: it is covered, and lies in the stretch of the heap that
the card stands for. -/
def Holds (g : Geometry) (i : Nat) (a : Address) : Prop :=
  a ∈ g.covered ∧ g.covered.start.toNat + i * Nat.pow 2 g.shift ≤ a.toNat ∧
    a.toNat < g.covered.start.toNat + (i + 1) * Nat.pow 2 g.shift

/-- **The interval meets the card**: the card holds an address of the interval. -/
def Meets (g : Geometry) (i : Nat) (r : Interval) : Prop := ∃ a ∈ r, g.Holds i a

theorem cardSize_pos (g : Geometry) : 0 < Nat.pow 2 g.shift := Nat.two_pow_pos _

/-- An address has one card, the one of its number. -/
theorem holds_iff : g.Holds i a ↔ a ∈ g.covered ∧ g.cardNumber a = i := by
  unfold Holds cardNumber
  refine and_congr_right fun ha => ?_
  have hlo := (Interval.mem_iff_toNat.1 ha).1
  rw [Nat.div_eq_iff g.cardSize_pos]
  have hsucc : (i + 1) * Nat.pow 2 g.shift = i * Nat.pow 2 g.shift + Nat.pow 2 g.shift :=
    Nat.succ_mul _ _
  have hpos := g.cardSize_pos
  omega

theorem lt_count_of_meets (h : g.Meets i r) : i < g.count := by
  obtain ⟨a, -, ha⟩ := h
  obtain ⟨hcov, rfl⟩ := holds_iff.1 ha
  exact g.cardNumber_lt hcov

theorem cardNumber_mono (h : a.toNat ≤ b.toNat) : g.cardNumber a ≤ g.cardNumber b :=
  Nat.div_le_div_right (Nat.sub_le_sub_right h _)

theorem cardOf_of_mem (h : a ∈ g.covered) : g.cardOf a = .ok ⟨g.cardNumber a, g.cardNumber_lt h⟩ :=
  dif_pos h

theorem cardOf_of_not_mem (h : a ∉ g.covered) : g.cardOf a = .error (.uncovered a g.covered) :=
  dif_neg h

/-- **The cards of an interval are found** if it is empty, or if its first and its last address
are covered. -/
theorem cardsOf_eq_ok_iff :
    g.cardsOf r = .ok (first, n) ↔
      (r.isEmpty = true ∧ first = 0 ∧ n = 0) ∨
        (r.isEmpty = false ∧ r.start ∈ g.covered ∧ r.stop - 1 ∈ g.covered ∧
          first = g.cardNumber r.start ∧ n = g.cardNumber (r.stop - 1) + 1 - first) := by
  unfold cardsOf
  cases hr : r.isEmpty with
  | true => simp [eq_comm]
  | false =>
    by_cases hstart : r.start ∈ g.covered
    · by_cases hlast : r.stop - 1 ∈ g.covered
      · rw [cardOf_of_mem hstart, cardOf_of_mem hlast]
        constructor
        · intro h
          obtain ⟨rfl, rfl⟩ : g.cardNumber r.start = first ∧
              g.cardNumber (r.stop - 1) + 1 - g.cardNumber r.start = n := by
            simpa [bind, Except.bind, pure, Except.pure] using h
          simp [hstart, hlast]
        · rintro (⟨h, -⟩ | ⟨-, -, -, rfl, rfl⟩)
          · exact Bool.noConfusion h
          · rfl
      · rw [cardOf_of_mem hstart, cardOf_of_not_mem hlast]
        simp [bind, Except.bind, hlast]
    · rw [cardOf_of_not_mem hstart]
      simp [bind, Except.bind, hstart]

/-- An address of card `i` among those from `r.start` on: the first of the card, or `r.start`
itself where the card begins before it. -/
theorem exists_holds_of_between (hr : r.isEmpty = false) (hstart : r.start ∈ g.covered)
    (hlast : r.stop - 1 ∈ g.covered) (hlo : g.cardNumber r.start ≤ i)
    (hhi : i ≤ g.cardNumber (r.stop - 1)) : g.Meets i r := by
  rcases Nat.eq_or_lt_of_le hlo with rfl | hlt
  · exact ⟨r.start, Interval.start_mem hr, holds_iff.2 ⟨hstart, rfl⟩⟩
  have hcov := Interval.mem_iff_toNat.1 hstart
  have hend := Interval.mem_iff_toNat.1 hlast
  rw [Interval.toNat_last hr] at hend
  unfold cardNumber at hlt hhi
  rw [Interval.toNat_last hr, Nat.le_div_iff_mul_le g.cardSize_pos] at hhi
  rw [Nat.div_lt_iff_lt_mul g.cardSize_pos] at hlt
  -- the first address of the card lies beyond `r.start` and not beyond the last one
  have hword : g.covered.start.toNat + i * Nat.pow 2 g.shift < UInt64.size := by
    have := r.stop.toNat_lt
    have hsize : UInt64.size = 2 ^ 64 := rfl
    omega
  have hfirst : (UInt64.ofNat (g.covered.start.toNat + i * Nat.pow 2 g.shift)).toNat
      = g.covered.start.toNat + i * Nat.pow 2 g.shift :=
    UInt64.toNat_ofNat_of_lt hword
  have hsucc : (i + 1) * Nat.pow 2 g.shift = i * Nat.pow 2 g.shift + Nat.pow 2 g.shift :=
    Nat.succ_mul _ _
  have hpos := g.cardSize_pos
  refine ⟨UInt64.ofNat (g.covered.start.toNat + i * Nat.pow 2 g.shift), ?_, ?_, ?_⟩
  · rw [Interval.mem_iff_toNat, hfirst]
    omega
  · rw [Interval.mem_iff_toNat, hfirst]
    omega
  · rw [hfirst]
    omega

/-- **The cards that are found are those that the interval meets.** -/
theorem meets_iff_of_cardsOf (h : g.cardsOf r = .ok (first, n)) :
    g.Meets i r ↔ first ≤ i ∧ i < first + n := by
  rcases cardsOf_eq_ok_iff.1 h with ⟨hr, rfl, rfl⟩ | ⟨hr, hstart, hlast, rfl, rfl⟩
  · constructor
    · rintro ⟨a, ha, -⟩
      exact absurd ha (Interval.not_mem_of_isEmpty hr a)
    · omega
  · constructor
    · rintro ⟨a, ha, hhold⟩
      obtain ⟨-, rfl⟩ := holds_iff.1 hhold
      rw [Interval.mem_iff_toNat] at ha
      have hlo : g.cardNumber r.start ≤ g.cardNumber a := cardNumber_mono ha.1
      have hhi : g.cardNumber a ≤ g.cardNumber (r.stop - 1) :=
        cardNumber_mono (by rw [Interval.toNat_last hr]; omega)
      omega
    · rintro ⟨hlo, hhi⟩
      exact exists_holds_of_between hr hstart hlast hlo (by omega)

/-- An interval inside the covered one has its cards. -/
theorem exists_cardsOf_of_includes (h : g.covered.includes r = true) :
    ∃ first n, g.cardsOf r = .ok (first, n) := by
  cases hr : r.isEmpty with
  | true => exact ⟨0, 0, cardsOf_eq_ok_iff.2 (.inl ⟨hr, rfl, rfl⟩)⟩
  | false =>
    rw [Interval.includes, hr, Bool.false_or, Bool.and_eq_true, decide_eq_true_eq,
      decide_eq_true_eq, UInt64.le_iff_toNat_le, UInt64.le_iff_toNat_le] at h
    have hlt := Interval.start_lt_stop hr
    have hstart : r.start ∈ g.covered := by
      rw [Interval.mem_iff_toNat]
      omega
    have hlast : r.stop - 1 ∈ g.covered := by
      rw [Interval.mem_iff_toNat, Interval.toNat_last hr]
      omega
    exact ⟨_, _, cardsOf_eq_ok_iff.2 (.inr ⟨hr, hstart, hlast, rfl, rfl⟩)⟩

/-! ## Widening to whole words

A heap word lies in one card, so that what is added to an interval by widening it to whole
words lies in a card that it met already. -/

/-- Two addresses in one heap word are in one card. -/
theorem cardNumber_eq_of_word (h : a.toNat / 8 = b.toNat / 8) :
    g.cardNumber a = g.cardNumber b := by
  obtain ⟨k, hk⟩ := g.start_aligned
  have hsize : Nat.pow 2 g.shift = 8 * 2 ^ (g.shift - 3) := by
    have hshift : g.shift = 3 + (g.shift - 3) := by
      have := g.three_le_shift
      omega
    rw [Nat.pow_eq, hshift, Nat.pow_add, Nat.add_sub_cancel_left]
  unfold cardNumber
  rw [hk, hsize, Nat.mul_assoc, ← Nat.div_div_eq_div_mul, ← Nat.div_div_eq_div_mul]
  simp only [Nat.sub_mul_div, h]

end Geometry

namespace Interval

variable {r s : Interval}

theorem toNat_widen_wordBytes (h : r.widen wordBytes = .ok s) :
    s.start.toNat = 8 * (r.start.toNat / 8) ∧ s.stop.toNat = 8 * ((r.stop.toNat + 7) / 8) :=
  (widen_eq_ok_iff ⟨3, rfl⟩).1 h

theorem mem_widen_of_mem (h : r.widen wordBytes = .ok s) {a : Address} (ha : a ∈ r) : a ∈ s := by
  have hs := toNat_widen_wordBytes h
  rw [mem_iff_toNat] at ha ⊢
  omega

/-- The address of an interval that shares its heap word with a given one of the widened
interval. -/
theorem exists_mem_word (h : r.widen wordBytes = .ok s) (hr : r.isEmpty = false) {a : Address}
    (ha : a ∈ s) : ∃ b ∈ r, b.toNat / 8 = a.toNat / 8 := by
  have hs := toNat_widen_wordBytes h
  have hlt := start_lt_stop hr
  rw [mem_iff_toNat] at ha
  rcases Nat.lt_or_ge a.toNat r.start.toNat with hbefore | hfrom
  · exact ⟨r.start, start_mem hr, by omega⟩
  rcases Nat.lt_or_ge a.toNat r.stop.toNat with hinside | hbeyond
  · exact ⟨a, mem_iff_toNat.2 ⟨hfrom, hinside⟩, rfl⟩
  · exact ⟨r.stop - 1, last_mem hr, by rw [toNat_last hr]; omega⟩

end Interval

/-- A write of at least one reference touches some bytes. -/
theorem Layout.isEmpty_written {l : Layout} {start : Address} {count : UInt64} {r : Interval}
    (h : l.written start count = .ok r) (hcount : 0 < count) : r.isEmpty = false := by
  unfold Layout.written at h
  split at h
  · cases h
  split at h
  · rename_i stop hstop
    obtain ⟨bytes, hbytes, hsum⟩ := Option.bind_eq_some_iff.1 hstop
    have hlen := Word.toNat_mul? hbytes
    have hend := Word.toNat_add? hsum
    have hpos : 0 < count.toNat := UInt64.lt_iff_toNat_lt.1 hcount
    have href : 0 < l.referenceBytes.toNat := by cases l <;> decide
    have hbytespos : 0 < bytes.toNat := hlen ▸ Nat.mul_pos hpos href
    unfold Interval.ofBounds at h
    split at h
    · cases h
      rw [Bool.eq_false_iff, Ne, Interval.isEmpty_iff]
      intro heq
      have := congrArg UInt64.toNat heq
      simp only at this
      omega
    · cases h
  · cases h

namespace Geometry

variable {g : Geometry} {r s : Interval} {i first n : Nat}

/-- All of an interval is covered if its cards can be found. -/
theorem mem_covered_of_cardsOf (h : g.cardsOf r = .ok (first, n)) {a : Address} (ha : a ∈ r) :
    a ∈ g.covered := by
  rcases cardsOf_eq_ok_iff.1 h with ⟨hr, -⟩ | ⟨hr, hstart, hlast, -⟩
  · exact absurd ha (Interval.not_mem_of_isEmpty hr a)
  · rw [Interval.mem_iff_toNat] at ha hstart hlast ⊢
    rw [Interval.toNat_last hr] at hlast
    omega

/-- **Widening to whole words meets no further card.** -/
theorem meets_widen (h : r.widen wordBytes = .ok s) (hr : r.isEmpty = false)
    (hs : g.cardsOf s = .ok (first, n)) : g.Meets i s ↔ g.Meets i r := by
  constructor
  · rintro ⟨a, ha, hhold⟩
    obtain ⟨b, hb, hword⟩ := Interval.exists_mem_word h hr ha
    have hcov : b ∈ g.covered := mem_covered_of_cardsOf hs (Interval.mem_widen_of_mem h hb)
    refine ⟨b, hb, holds_iff.2 ⟨hcov, ?_⟩⟩
    rw [cardNumber_eq_of_word hword]
    exact (holds_iff.1 hhold).2
  · rintro ⟨a, ha, hhold⟩
    exact ⟨a, Interval.mem_widen_of_mem h ha, hhold⟩

/-- **The span of an array write meets the cards of the bytes written**, if there are any. -/
theorem meets_arraySpan {l : Layout} {start : Address} {count : UInt64} {span : Interval}
    (h : l.arraySpan start count = .ok span) (hcount : 0 < count)
    (hs : g.cardsOf span = .ok (first, n)) :
    ∃ written, l.written start count = .ok written ∧ (g.Meets i span ↔ g.Meets i written) := by
  unfold Layout.arraySpan at h
  rcases hw : l.written start count with f | written
  · simp [hw, bind, Except.bind] at h
  rcases hwide : written.widen wordBytes with f | wide
  · simp [hw, hwide, bind, Except.bind] at h
  have hspan : wide = span := by
    simp only [hw, hwide, bind, Except.bind, pure, Except.pure] at h
    split at h
    · cases h
    · simpa using h
  subst hspan
  exact ⟨written, rfl, meets_widen hwide (Layout.isEmpty_written hw hcount) hs⟩

end Geometry

namespace CardTable

variable {t u : CardTable} {r : Interval} {i : Nat}

/-- **The card of that number is dirty.** -/
def Dirty (t : CardTable) (i : Nat) : Prop := t.cards[i]? = some .dirty

/-- Putting cards into a state changes nothing but cards. -/
theorem put_frame {state : CardState} (h : t.put state r = .ok u) :
    u.geometry = t.geometry ∧ u.scanning = t.scanning ∧ u.young = t.young := by
  unfold put at h
  rcases hc : t.geometry.cardsOf r with f | ⟨first, n⟩
  · simp [hc, bind, Except.bind] at h
  · rw [hc] at h
    cases h
    exact ⟨rfl, rfl, rfl⟩

/-- **Putting an interval into a state puts there the cards that it meets**, and leaves the
others as they were. -/
theorem getElem?_put {state : CardState} (h : t.put state r = .ok u) :
    (t.geometry.Meets i r → u.cards[i]? = some state) ∧
      (¬t.geometry.Meets i r → u.cards[i]? = t.cards[i]?) := by
  unfold put at h
  rcases hc : t.geometry.cardsOf r with f | ⟨first, n⟩
  · simp [hc, bind, Except.bind] at h
  · rw [hc] at h
    cases h
    rw [Geometry.meets_iff_of_cardsOf hc]
    by_cases hi : i < t.geometry.count
    · rw [Vector.getElem?_eq_getElem hi, Vector.getElem?_eq_getElem hi, getElem_paint]
      constructor
      · intro hin
        rw [if_pos hin]
      · intro hout
        rw [if_neg hout]
    · constructor
      · intro hin
        exact absurd (Geometry.lt_count_of_meets ((Geometry.meets_iff_of_cardsOf hc).2 hin)) hi
      · intro _
        rw [Vector.getElem?_eq_none (Nat.le_of_not_lt hi),
          Vector.getElem?_eq_none (Nat.le_of_not_lt hi)]

/-- **Marking makes dirty what the interval meets**, and nothing clean. -/
theorem dirty_mark (h : t.mark r = .ok u) : u.Dirty i ↔ t.Dirty i ∨ t.geometry.Meets i r := by
  obtain ⟨hin, hout⟩ := getElem?_put (i := i) h
  unfold Dirty
  by_cases hm : t.geometry.Meets i r
  · simp [hin hm, hm]
  · simp [hout hm, hm]

/-- **Clearing makes clean what the interval meets**, and nothing dirty. -/
theorem dirty_clear (h : t.clear r = .ok u) : u.Dirty i ↔ t.Dirty i ∧ ¬t.geometry.Meets i r := by
  obtain ⟨hin, hout⟩ := getElem?_put (i := i) h
  unfold Dirty
  by_cases hm : t.geometry.Meets i r
  · simp [hin hm, hm]
  · simp [hout hm, hm]

theorem not_dirty_replicate (g : Geometry) (scanning : Scanning) (young : Interval) (i : Nat) :
    ¬CardTable.Dirty ⟨g, scanning, young, Vector.replicate g.count .clean⟩ i := by
  unfold Dirty
  rw [Vector.getElem?_replicate]
  split <;> simp

theorem not_dirty_reset : ¬t.reset.Dirty i := not_dirty_replicate _ _ _ _

theorem not_dirty_ofGeometry (g : Geometry) (scanning : Scanning) :
    ¬(ofGeometry g scanning).Dirty i := not_dirty_replicate _ _ _ _

/-- A table can be marked over any interval inside its covered one. -/
theorem exists_mark_of_includes (h : t.covered.includes r = true) : ∃ u, t.mark r = .ok u := by
  obtain ⟨first, n, hc⟩ := Geometry.exists_cardsOf_of_includes (g := t.geometry) h
  exact ⟨_, by rw [mark, put, hc]; rfl⟩

/-- **Tables that agree on which cards are dirty are the same card for card.** -/
theorem cards_eq_of_dirty_iff (hg : u.geometry = t.geometry)
    (h : ∀ i, u.Dirty i ↔ t.Dirty i) : u.cards.toList = t.cards.toList := by
  refine List.ext_getElem? fun i => ?_
  rw [Vector.getElem?_toList, Vector.getElem?_toList]
  have hi := h i
  unfold Dirty at hi
  have hsize : u.geometry.count = t.geometry.count := by rw [hg]
  rcases hu : u.cards[i]? with _ | s
  · have := Vector.getElem?_eq_none_iff.1 hu
    exact (Vector.getElem?_eq_none (by omega)).symm
  · have hlt := (Vector.getElem?_eq_some_iff.1 hu).1
    obtain ⟨s', ht⟩ : ∃ s', t.cards[i]? = some s' :=
      ⟨_, Vector.getElem?_eq_getElem (hsize ▸ hlt)⟩
    rw [hu, ht] at hi
    rw [ht]
    cases s <;> cases s' <;> simp_all

end CardTable

end CardBarrier
