import CardBarrier.Proofs.LastCard

/-!
# Numbers that stand for the same card

Cards are numbered by words, and where a card begins is worked out by shifting its number to the
left. What is shifted out of the word is lost without a fault, so a number stands for what its
remainder by `Geometry.room` stands for, which is how many cards of that size the address space has
room for. A table has no more cards than that, and so each card that can be worked out has numbers
beyond the table as well.

Below that bound no two numbers stand for the same card, and what stands for anything is the number
of a card. Beyond it two numbers have an address in common just where they leave the same remainder
(`CardTable.numberLaw_after`).
-/

namespace CardBarrier

namespace Geometry

variable {g : Geometry} {m n : UInt64} {r s : Interval}

/-- **The address space has room for so many cards** of that size. -/
def room (g : Geometry) : Nat := UInt64.size / Nat.pow 2 g.shift

theorem room_mul (g : Geometry) : g.room * Nat.pow 2 g.shift = UInt64.size :=
  Nat.div_mul_cancel (Nat.pow_dvd_pow 2 (Nat.le_of_lt g.shift_lt))

/-- A table has no more cards than there is room for. -/
theorem count_le_room (g : Geometry) : g.count ≤ g.room := by
  refine Nat.le_of_not_lt fun hlt => ?_
  -- the card of that number would begin past the last address
  have hbegins := begins_before hlt
  have hstop := g.covered.stop.toNat_lt
  rw [room_mul] at hbegins
  exact absurd (Nat.lt_trans hbegins hstop) (Nat.not_lt.2 (Nat.le_add_left _ _))

/-- A card is at least a heap word, and so there is not room for a card of every number. -/
theorem room_le (g : Geometry) : 8 * g.room ≤ UInt64.size := by
  have hword : 2 ^ 3 ≤ 2 ^ g.shift := Nat.pow_le_pow_right (by decide) g.three_le_shift
  calc 8 * g.room
      ≤ Nat.pow 2 g.shift * g.room := Nat.mul_le_mul_right _ hword
    _ = UInt64.size := by rw [Nat.mul_comm, room_mul]

/-- **What is shifted out of the word is lost.** -/
theorem toNat_offset (g : Geometry) (n : UInt64) :
    (n <<< UInt64.ofNat g.shift).toNat = n.toNat % g.room * Nat.pow 2 g.shift := by
  have hshift : g.shift < UInt64.size := Nat.lt_trans g.shift_lt (by decide)
  rw [UInt64.toNat_shiftLeft, UInt64.toNat_ofNat_of_lt' hshift, Nat.mod_eq_of_lt g.shift_lt,
    Nat.shiftLeft_eq]
  show n.toNat * Nat.pow 2 g.shift % UInt64.size = _
  rw [← g.room_mul, Nat.mul_mod_mul_right]

/-- **Numbers that leave the same remainder stand for the same.** -/
theorem cardInterval_congr (h : m.toNat % g.room = n.toNat % g.room) :
    g.cardInterval m = g.cardInterval n := by
  have hoffset : m <<< UInt64.ofNat g.shift = n <<< UInt64.ofNat g.shift := by
    apply UInt64.toNat_inj.1
    rw [toNat_offset, toNat_offset, h]
  rw [cardInterval, cardInterval, hoffset]

/-- The number of a card is its own remainder. -/
theorem toNat_number (card : Fin g.count) : (UInt64.ofNat card.val).toNat % g.room = card.val := by
  have hlt : card.val < g.room := Nat.lt_of_lt_of_le card.isLt g.count_le_room
  have hword : card.val < UInt64.size := by
    have hroom := g.room_le
    omega
  rw [UInt64.toNat_ofNat_of_lt' hword, Nat.mod_eq_of_lt hlt]

/-- **Where a number begins** if it stands for anything, and that it ends inside what is covered. -/
theorem bounds_of_cardInterval (h : g.cardInterval n = .ok r) :
    r.start.toNat = g.covered.start.toNat + n.toNat % g.room * Nat.pow 2 g.shift ∧
      r.stop ≤ g.covered.stop := by
  unfold cardInterval at h
  split at h
  · cases h
  · rename_i start hstart
    split at h
    · cases h
    · rename_i stop hstop
      unfold Interval.ofBounds at h
      split at h
      · cases h
        refine ⟨?_, ?_⟩
        · rw [← toNat_offset]
          exact Word.toNat_add? hstart
        · rw [UInt64.le_iff_toNat_le]
          refine Nat.le_trans (Nat.le_of_eq (Word.toNat_lesser stop g.covered.stop)) ?_
          exact Nat.min_le_right _ _
      · cases h

/-- **What stands for anything leaves the number of a card**, and stands for its part. -/
theorem exists_card_of_cardInterval (h : g.cardInterval n = .ok r) (hr : r.isEmpty = false) :
    ∃ card : Fin g.count, n.toNat % g.room = card.val ∧ r = g.part card := by
  obtain ⟨hstart, hstop⟩ := bounds_of_cardInterval h
  have hmem : r.start ∈ g.covered := by
    rw [Interval.mem_iff_toNat]
    refine ⟨hstart ▸ Nat.le_add_right _ _, ?_⟩
    exact Nat.lt_of_lt_of_le (Interval.start_lt_stop hr) (UInt64.le_iff_toNat_le.1 hstop)
  -- the card is the one that holds the first address
  have hnumber : g.cardNumber r.start = n.toNat % g.room := by
    rw [cardNumber, hstart, Nat.add_sub_cancel_left, Nat.mul_div_cancel _ g.cardSize_pos]
  refine ⟨⟨g.cardNumber r.start, g.cardNumber_lt hmem⟩, hnumber.symm, ?_⟩
  rw [cardInterval_congr ((hnumber.symm.trans (toNat_number ⟨_, g.cardNumber_lt hmem⟩).symm)),
    cardInterval_eq_ite] at h
  split at h
  · exact (Except.ok.inj h).symm
  · cases h

/-- **A number stands for something** just where its remainder is the number of a card that can be
worked out. -/
theorem cardInterval_nonempty_iff :
    g.cardInterval n = .ok r ∧ r.isEmpty = false ↔
      ∃ card : Fin g.count, n.toNat % g.room = card.val ∧
        g.cardInterval (UInt64.ofNat card.val) = .ok r := by
  constructor
  · rintro ⟨h, hr⟩
    obtain ⟨card, hcard, -⟩ := exists_card_of_cardInterval h hr
    refine ⟨card, hcard, ?_⟩
    rw [cardInterval_congr ((toNat_number card).trans hcard.symm)]
    exact h
  · rintro ⟨card, hcard, h⟩
    refine ⟨(cardInterval_congr (hcard.trans (toNat_number card).symm)).trans h, ?_⟩
    rw [cardInterval_eq_ite] at h
    split at h
    · rw [← Except.ok.inj h]
      exact isEmpty_part card
    · cases h

/-- **Two numbers have an address in common** just where they stand for something and leave the same
remainder. -/
theorem exists_mem_both_iff (hm : g.cardInterval m = .ok r) (hn : g.cardInterval n = .ok s) :
    (∃ a, a ∈ r ∧ a ∈ s) ↔ r.isEmpty = false ∧ m.toNat % g.room = n.toNat % g.room := by
  constructor
  · rintro ⟨a, ha, hb⟩
    have hr : r.isEmpty = false :=
      Bool.eq_false_iff.2 fun hempty => Interval.not_mem_of_isEmpty hempty a ha
    have hs : s.isEmpty = false :=
      Bool.eq_false_iff.2 fun hempty => Interval.not_mem_of_isEmpty hempty a hb
    obtain ⟨card, hcard, rfl⟩ := exists_card_of_cardInterval hm hr
    obtain ⟨other, hother, rfl⟩ := exists_card_of_cardInterval hn hs
    -- an address has one card
    have hsame : card.val = other.val :=
      (holds_iff.1 (mem_part.1 ha)).2.symm.trans (holds_iff.1 (mem_part.1 hb)).2
    exact ⟨hr, hcard.trans (hsame.trans hother.symm)⟩
  · rintro ⟨hr, hsame⟩
    obtain rfl : r = s := Except.ok.inj (hm.symm.trans ((cardInterval_congr hsame).trans hn))
    exact ⟨r.start, Interval.start_mem hr, Interval.start_mem hr⟩

/-- **Every card has a number beyond the table.** -/
theorem exists_number_beyond (card : Fin g.count) :
    ∃ n : UInt64, g.count ≤ n.toNat ∧
      g.cardInterval n = g.cardInterval (UInt64.ofNat card.val) := by
  have hcount := g.count_le_room
  have hlt : card.val + g.room < UInt64.size := by
    have hroom := g.room_le
    have hcard := card.isLt
    omega
  have hnumber : (UInt64.ofNat (card.val + g.room)).toNat = card.val + g.room :=
    UInt64.toNat_ofNat_of_lt' hlt
  refine ⟨UInt64.ofNat (card.val + g.room), ?_, cardInterval_congr ?_⟩
  · rw [hnumber]
    exact Nat.le_trans hcount (Nat.le_add_left _ _)
  · rw [hnumber, Nat.add_mod_right, toNat_number]
    exact Nat.mod_eq_of_lt (Nat.lt_of_lt_of_le card.isLt hcount)

end Geometry

namespace CardTable

variable {t : CardTable}

/-- **What numbers stand for** in a table with cards of a size. -/
structure NumberLaw (size : UInt64) (t : CardTable) : Prop where
  /-- A number stands for something just where its remainder is the number of a card that can be
  worked out, and then for what that card does. -/
  part_iff {n : UInt64} {r : Interval} :
    t.geometry.cardInterval n = .ok r ∧ r.isEmpty = false ↔
      ∃ card : Fin t.size, n.toNat % (UInt64.size / size.toNat) = card.val ∧
        t.geometry.cardInterval (UInt64.ofNat card.val) = .ok r
  /-- A number that there is room for, if it stands for something, is the number of a card. -/
  lt_size {n : UInt64} {r : Interval} (hn : n.toNat < UInt64.size / size.toNat)
    (h : t.geometry.cardInterval n = .ok r) (hr : r.isEmpty = false) : n.toNat < t.size
  /-- Two numbers have an address in common just where they stand for something and leave the same
  remainder. -/
  shared_iff {m n : UInt64} {r s : Interval} (hm : t.geometry.cardInterval m = .ok r)
    (hn : t.geometry.cardInterval n = .ok s) : (∃ a, a ∈ r ∧ a ∈ s) ↔
      r.isEmpty = false ∧
        m.toNat % (UInt64.size / size.toNat) = n.toNat % (UInt64.size / size.toNat)
  /-- Two different numbers that there is room for have none. -/
  apart {m n : UInt64} {r s : Interval} (hm : m.toNat < UInt64.size / size.toNat)
    (hn : n.toNat < UInt64.size / size.toNat) (hne : m ≠ n)
    (hr : t.geometry.cardInterval m = .ok r) (hs : t.geometry.cardInterval n = .ok s)
    (a : Address) : ¬(a ∈ r ∧ a ∈ s)
  /-- Each card that can be worked out has a number beyond the table. -/
  beyond {card : Fin t.size} {r : Interval}
    (h : t.geometry.cardInterval (UInt64.ofNat card.val) = .ok r) :
    ∃ n : UInt64, t.size ≤ n.toNat ∧ t.geometry.cardInterval n = .ok r

/-- **Numbers of cards are told apart up to as many as the address space has room for**, and no
further, whatever the table was asked for before. -/
theorem numberLaw_after {covered : Interval} {size : UInt64} {scanning : Scanning}
    (h : ofCardSize covered size scanning = .ok t) (calls : List Call) :
    NumberLaw size (after calls t) := by
  obtain ⟨-, hsize, -⟩ := of_ofCardSize h
  have hroom : UInt64.size / size.toNat = (after calls t).geometry.room := by
    rw [geometry_after, ← hsize, Geometry.toNat_cardBytes]
    rfl
  constructor
  case part_iff =>
    intro n r
    rw [hroom]
    exact Geometry.cardInterval_nonempty_iff
  case lt_size =>
    intro n r hn hpart hr
    rw [hroom] at hn
    obtain ⟨card, hcard, -⟩ := Geometry.exists_card_of_cardInterval hpart hr
    rw [← Nat.mod_eq_of_lt hn, hcard]
    exact card.isLt
  case shared_iff =>
    intro m n r s hm hn
    rw [hroom]
    exact Geometry.exists_mem_both_iff hm hn
  case apart =>
    intro m n r s hm hn hne hr hs a ha
    rw [hroom] at hm hn
    obtain ⟨-, hsame⟩ := (Geometry.exists_mem_both_iff hr hs).1 ⟨a, ha⟩
    rw [Nat.mod_eq_of_lt hm, Nat.mod_eq_of_lt hn] at hsame
    exact hne (UInt64.toNat_inj.1 hsame)
  case beyond =>
    intro card r hpart
    obtain ⟨n, hn, hnumber⟩ := Geometry.exists_number_beyond card
    exact ⟨n, hn, hnumber.trans hpart⟩

/-- Below the bound a number that stands for something is one of the 128 cards of a table; beyond it
the number of a card comes back. -/
theorem numbers_of_many_cards :
    ∃ t u, ofCardSize ⟨0x10000000, 0x10010000, by decide⟩ 512 .stopTheWorld = .ok t ∧
      after [.mark ⟨0x10000a00, 0x10000a08, by decide⟩] t = u ∧
      (∀ n r, n.toNat < 2 ^ 55 → u.geometry.cardInterval n = .ok r → r.isEmpty = false →
        n.toNat < 128) ∧
      ∃ n, 128 ≤ n.toNat ∧
        u.geometry.cardInterval n = .ok ⟨0x10000a00, 0x10000c00, by decide⟩ := by
  obtain ⟨t, u, ht, rfl, hsize, card, hcard⟩ : ∃ t u,
      ofCardSize ⟨0x10000000, 0x10010000, by decide⟩ 512 .stopTheWorld = .ok t ∧
      after [.mark ⟨0x10000a00, 0x10000a08, by decide⟩] t = u ∧ u.size = 128 ∧
      ∃ card : Fin u.size, u.geometry.cardInterval (UInt64.ofNat card.val)
        = .ok ⟨0x10000a00, 0x10000c00, by decide⟩ := ⟨_, _, rfl, rfl, rfl, ⟨5, by decide⟩, rfl⟩
  have hlaw := numberLaw_after ht [.mark ⟨0x10000a00, 0x10000a08, by decide⟩]
  refine ⟨t, _, ht, rfl, fun n r hn hpart hr => ?_, ?_⟩
  · exact hsize ▸ hlaw.lt_size hn hpart hr
  · obtain ⟨n, hn, hpart⟩ := hlaw.beyond hcard
    exact ⟨n, hsize ▸ hn, hpart⟩

/-- **The number of no card may stand for one.** There are 128 cards, and this number stands for the
first of them. -/
theorem number_stands_again :
    ∃ t r, ofCardSize ⟨0x10000000, 0x10010000, by decide⟩ 512 .stopTheWorld = .ok t ∧
      t.size = 128 ∧ t.geometry.cardInterval 0x80000000000000 = .ok r ∧ r.isEmpty = false ∧
      ¬(0x80000000000000 : UInt64).toNat < t.size ∧ t.geometry.cardInterval 0 = .ok r :=
  ⟨_, _, rfl, rfl, rfl, rfl, by decide, rfl⟩

end CardTable

end CardBarrier
