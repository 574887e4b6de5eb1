import CardBarrier.Interval.Bounds
import CardBarrier.SetupError

/-!
# How cards divide a heap

A `Geometry` is a covered interval and a card size. The size is a power of
two of at least one heap word and the covered interval begins at a multiple
of it, so that cards line up with the heap; the interval may end in the
middle of a card, and the last card then stands for less than a whole one.

Three readings of the same division are given: the card that holds an
address (`cardOf`), the cards that an interval meets (`cardsOf`), and the part
of the heap that a card stands for (`cardInterval`).
-/

namespace CardBarrier

/-- **The division of a covered interval into cards.** -/
structure Geometry where
  /-- The part of the heap that has cards. -/
  covered : Interval
  /-- The binary logarithm of the card size. -/
  shift : Nat
  /-- A card is at least a heap word. -/
  three_le_shift : 3 ≤ shift
  /-- A card size is a word. -/
  shift_lt : shift < 64
  /-- The first card begins where the covered interval does. -/
  start_aligned : Nat.pow 2 shift ∣ covered.start.toNat
  deriving DecidableEq

namespace Geometry

/-- The bytes of a card. -/
def cardBytes (g : Geometry) : UInt64 := UInt64.ofNat (Nat.pow 2 g.shift)

theorem toNat_cardBytes (g : Geometry) : g.cardBytes.toNat = Nat.pow 2 g.shift := by
  unfold cardBytes
  rw [UInt64.toNat_ofNat']
  exact Nat.mod_eq_of_lt (Nat.pow_lt_pow_right (by decide) g.shift_lt)

/-- The number of cards: as many as it takes to hold the covered bytes. -/
def count (g : Geometry) : Nat :=
  (g.covered.length.toNat + (Nat.pow 2 g.shift - 1)) / Nat.pow 2 g.shift

/-- **The division with a given card size**, where there is one: the size is
looked at before the start. -/
def ofCardSize (covered : Interval) (size : UInt64) : Except SetupError Geometry :=
  if h : Word.IsPowerOfTwo size ∧ minCardBytes ≤ size then
    if ha : size.toNat ∣ covered.start.toNat then
      have hpow : size.toNat = Nat.pow 2 size.toNat.log2 := (Word.isPowerOfTwo_iff size).1 h.1
      .ok {
        covered
        shift := size.toNat.log2
        three_le_shift := by
          have hle : 2 ^ 3 ≤ size.toNat := UInt64.le_iff_toNat_le.1 h.2
          rw [hpow] at hle
          exact (Nat.pow_le_pow_iff_right (by decide)).1 hle
        shift_lt := by
          have hlt : size.toNat < 2 ^ 64 := size.toNat_lt
          rw [hpow] at hlt
          exact (Nat.pow_lt_pow_iff_right (by decide)).1 hlt
        start_aligned := hpow ▸ ha }
    else .error (.mismatch (.unalignedStart covered))
  else .error (.mismatch (.cardSize size))

/-- The number of the card at an offset into the covered interval. -/
def cardNumber (g : Geometry) (a : Address) : Nat :=
  (a.toNat - g.covered.start.toNat) / Nat.pow 2 g.shift

/-- **A covered address has a card.** -/
theorem cardNumber_lt (g : Geometry) {a : Address} (h : a ∈ g.covered) :
    g.cardNumber a < g.count := by
  unfold cardNumber count
  rw [Interval.toNat_length]
  have hlo := UInt64.le_iff_toNat_le.1 h.1
  have hhi := UInt64.lt_iff_toNat_lt.1 h.2
  have hpos : 0 < Nat.pow 2 g.shift := Nat.two_pow_pos _
  rw [Nat.div_lt_iff_lt_mul hpos]
  have hceil := Nat.lt_div_mul_add (a := g.covered.stop.toNat - g.covered.start.toNat
    + (Nat.pow 2 g.shift - 1)) hpos
  omega

/-- The card that holds an address. -/
def cardOf (g : Geometry) (a : Address) : Except Fault (Fin g.count) :=
  if h : a ∈ g.covered then .ok ⟨g.cardNumber a, g.cardNumber_lt h⟩
  else .error (.uncovered a g.covered)

/-- **The cards that an interval meets**: the first of them and how many
there are. An interval that is empty meets none, wherever it lies. -/
def cardsOf (g : Geometry) (r : Interval) : Except Fault (Nat × Nat) :=
  if r.isEmpty then .ok (0, 0)
  else do
    let first ← g.cardOf r.start
    -- the last byte inside, since the end itself need not be covered
    let last ← g.cardOf (r.stop - 1)
    return (first.val, last.val + 1 - first.val)

/-- **The part of the heap that a card stands for.** Cards are numbered by
words, and the offset of a card with too large a number loses its high
bits. -/
def cardInterval (g : Geometry) (card : UInt64) : Except Fault Interval :=
  match Word.add? g.covered.start (card <<< UInt64.ofNat g.shift) with
  | none => .error .sumOverflow
  | some start =>
    match Word.add? start g.cardBytes with
    | none => .error .sumOverflow
    | some stop => Interval.ofBounds start (min stop g.covered.stop)

end Geometry

end CardBarrier
