import CardBarrier.Proofs.Enclosure
import CardBarrier.Proofs.TableHistory

/-!
# Cards partition the covered heap

How many cards there are, which of them holds an address, and what each of them stands for are
worked out by three formulas that know nothing of each other: a division rounded up, a shift to the
right, and a shift to the left that is cut off at the end of the covered interval. They agree. What
the cards stand for lies end to end, from the first covered address to the last, and an address is
in the part of a card exactly if that is the card found for it (`CardTable.Partition`). The last
card may be cut short, but none is empty.

Every covered address has a card that is there, whatever the covered interval is
(`CardTable.partition_of_ofCardSize`). What the last card stands for is worked out only if the
covered end, rounded up to a whole card, is an address.
-/

namespace CardBarrier

namespace Geometry

variable {g : Geometry} {i : Nat} {a : Address}

theorem isPowerOfTwo_cardBytes (g : Geometry) : Word.IsPowerOfTwo g.cardBytes :=
  ⟨g.shift, g.toNat_cardBytes⟩

/-- **The last card ends at an address** if the covered end can be rounded up to a whole card. -/
theorem endsInside_iff :
    g.EndsInside ↔ (Word.roundUp? g.covered.stop g.cardBytes).isSome = true := by
  rw [g.isPowerOfTwo_cardBytes.isSome_roundUp?_iff, toNat_cardBytes]
  constructor
  · rintro ⟨k, hle, hk⟩
    exact ⟨_, Nat.dvd_mul_left _ _, hle, hk⟩
  · rintro ⟨_, ⟨k, rfl⟩, hle, hk⟩
    rw [Nat.mul_comm] at hle hk
    exact ⟨k, hle, hk⟩

/-- **The cards hold all that is covered.** -/
theorem stop_le_end (g : Geometry) :
    g.covered.stop.toNat ≤ g.covered.start.toNat + g.count * Nat.pow 2 g.shift := by
  have hpos := g.cardSize_pos
  -- the division rounded up leaves no remainder over
  have hceil := Nat.lt_div_mul_add (a := g.covered.length.toNat + (Nat.pow 2 g.shift - 1)) hpos
  rw [Interval.toNat_length] at hceil
  rw [count, Interval.toNat_length]
  omega

theorem count_eq_zero_iff : g.count = 0 ↔ g.covered.isEmpty = true := by
  have hle := g.covered.toNat_start_le
  rw [Interval.isEmpty_iff, ← UInt64.toNat_inj]
  constructor
  · intro h
    have hend := g.stop_le_end
    rw [h, Nat.zero_mul] at hend
    omega
  · intro h
    by_contra hne
    -- the first card would begin where the covered interval does, and before it ends
    have hbegins := begins_before (Nat.pos_of_ne_zero hne)
    omega

/-- **The number of a card** is the offset of an address, shifted to the right. -/
theorem cardNumber_eq_shiftRight (h : a ∈ g.covered) :
    g.cardNumber a = ((a - g.covered.start) >>> UInt64.ofNat g.shift).toNat := by
  have hshift : g.shift < UInt64.size := Nat.lt_trans g.shift_lt (by decide)
  rw [UInt64.toNat_shiftRight, UInt64.toNat_sub_of_le _ _ h.1, UInt64.toNat_ofNat_of_lt' hshift,
    Nat.mod_eq_of_lt g.shift_lt, Nat.shiftRight_eq_div_pow]
  rfl

/-- A card size further on the next card begins. -/
theorem succ_card_mul (g : Geometry) (i : Nat) :
    (i + 1) * Nat.pow 2 g.shift = i * Nat.pow 2 g.shift + Nat.pow 2 g.shift := Nat.succ_mul _ _

/-- **No card stands for nothing.** -/
theorem isEmpty_part (card : Fin g.count) : (g.part card).isEmpty = false := by
  have hbegins := begins_before card.isLt
  have hpos := g.cardSize_pos
  rw [Bool.eq_false_iff, Ne, Interval.isEmpty_iff, ← UInt64.toNat_inj, toNat_start_part,
    toNat_stop_part, succ_card_mul]
  omega

theorem length_part_le (card : Fin g.count) : (g.part card).length ≤ g.cardBytes := by
  rw [UInt64.le_iff_toNat_le, Interval.toNat_length, toNat_cardBytes, toNat_start_part,
    toNat_stop_part, succ_card_mul]
  omega

/-- **A card ends where the next one begins.** -/
theorem stop_part_eq_start {card other : Fin g.count} (h : other.val = card.val + 1) :
    (g.part card).stop = (g.part other).start := by
  -- the next card begins before the covered interval ends, so that this one is not cut short
  have hbegins := begins_before other.isLt
  apply UInt64.toNat_inj.1
  rw [toNat_stop_part, toNat_start_part, h]
  rw [h] at hbegins
  omega

theorem start_part_eq {card : Fin g.count} (h : card.val = 0) :
    (g.part card).start = g.covered.start := by
  apply UInt64.toNat_inj.1
  rw [toNat_start_part, h, Nat.zero_mul, Nat.add_zero]

theorem stop_part_eq {card : Fin g.count} (h : card.val + 1 = g.count) :
    (g.part card).stop = g.covered.stop := by
  apply UInt64.toNat_inj.1
  rw [toNat_stop_part, h]
  exact Nat.min_eq_right g.stop_le_end

/-- **An address is in the part of the card that is found for it**, and of no other. -/
theorem mem_part_iff_cardOf {card : Fin g.count} (h : a ∈ g.covered) :
    a ∈ g.part card ↔ g.cardOf a = .ok card := by
  rw [mem_part, holds_iff_eq_cardNumber h, cardOf_of_mem h, Except.ok.injEq, Fin.ext_iff, eq_comm]

end Geometry

namespace CardTable

variable {t : CardTable}

/-- **The cards of a table partition a covered interval**: what each of them stands for is worked
out, and these parts lie end to end. -/
structure Partition (covered : Interval) (size : UInt64) (t : CardTable)
    (part : Fin t.size → Interval) : Prop where
  /-- The part of each card is worked out. -/
  worked_out (card : Fin t.size) :
    t.geometry.cardInterval (UInt64.ofNat card.val) = .ok (part card)
  /-- It is not empty. -/
  nonempty (card : Fin t.size) : (part card).isEmpty = false
  /-- It is no longer than a card is asked to be. -/
  length_le (card : Fin t.size) : (part card).length ≤ size
  /-- It ends where that of the next card begins. -/
  stop_eq_start {card other : Fin t.size} (h : other.val = card.val + 1) :
    (part card).stop = (part other).start
  /-- There are no cards just where nothing is covered. -/
  size_eq_zero_iff : t.size = 0 ↔ covered.isEmpty = true
  /-- The first card begins where the covered interval does. -/
  first {card : Fin t.size} (h : card.val = 0) : (part card).start = covered.start
  /-- The last one ends where it does. -/
  last {card : Fin t.size} (h : card.val + 1 = t.size) : (part card).stop = covered.stop
  /-- A covered address is in the part of the card that is found for it, and in no other. -/
  mem_iff {a : Address} (ha : a ∈ covered) (card : Fin t.size) :
    a ∈ part card ↔ t.geometry.cardOf a = .ok card

/-- **Every covered address has a card**, the one that its offset shifted to the right numbers, and
an interval meets cards that are there. If the covered end can be rounded up to a whole card the
cards partition what is covered. -/
theorem partition_of_ofCardSize {covered : Interval} {size : UInt64} {scanning : Scanning}
    (h : ofCardSize covered size scanning = .ok t) :
    (∀ a ∈ covered, ∃ card : Fin t.size, t.geometry.cardOf a = .ok card ∧
      card.val = ((a - covered.start) >>> UInt64.ofNat t.geometry.shift).toNat ∧
      card.val < t.cards.toList.length) ∧
    (∀ r first n, t.geometry.cardsOf r = .ok (first, n) → first + n ≤ t.cards.toList.length) ∧
    ((Word.roundUp? covered.stop size).isSome = true → ∃ part, Partition covered size t part) := by
  obtain ⟨rfl, rfl, -⟩ := of_ofCardSize h
  have hlen : t.cards.toList.length = t.size := Vector.length_toList
  rw [hlen]
  refine ⟨fun a ha => ?_, fun r first n hcards => Geometry.cardsOf_le_count hcards, fun hend => ?_⟩
  · exact ⟨_, Geometry.cardOf_of_mem ha, Geometry.cardNumber_eq_shiftRight ha,
      t.geometry.cardNumber_lt ha⟩
  · have hinside := Geometry.endsInside_iff.2 hend
    exact ⟨t.geometry.part, Geometry.cardInterval_eq hinside, Geometry.isEmpty_part,
      Geometry.length_part_le, Geometry.stop_part_eq_start, Geometry.count_eq_zero_iff,
      Geometry.start_part_eq, Geometry.stop_part_eq, fun ha _ => Geometry.mem_part_iff_cardOf ha⟩

/-- Seven cards of 512 bytes and a part of an eighth, below the last card of the address space. -/
theorem partition_cut_short :
    ∃ t, ofCardSize ⟨0xffffffffffffee00, 0xfffffffffffffdff, by decide⟩ 512 .concurrent = .ok t ∧
      (∃ card : Fin t.size, t.geometry.cardOf 0xfffffffffffffdfe = .ok card ∧ card.val = 7) ∧
      ∃ part, Partition ⟨0xffffffffffffee00, 0xfffffffffffffdff, by decide⟩ 512 t part := by
  obtain ⟨t, ht, hshift⟩ : ∃ t, ofCardSize ⟨0xffffffffffffee00, 0xfffffffffffffdff, by decide⟩ 512
      .concurrent = .ok t ∧ t.geometry.shift = 9 := ⟨_, rfl, rfl⟩
  obtain ⟨hfound, -, hpart⟩ := partition_of_ofCardSize ht
  obtain ⟨card, hcard, hnumber, -⟩ := hfound 0xfffffffffffffdfe (by decide)
  rw [hshift] at hnumber
  exact ⟨t, ht, ⟨card, hcard, hnumber⟩, hpart (by decide)⟩

end CardTable

end CardBarrier
