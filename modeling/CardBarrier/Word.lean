/-!
# Addresses, sizes and counts are 64-bit words

The heap is addressed by byte, and everything the barrier measures – an
address, a length, a number of references – is one word of the machine.
Arithmetic on words wraps; the operations here are the ones that do not:
they answer with nothing where the exact result leaves the word.

Rounding is stated on the remainder. `roundDown v a` drops the remainder
of `v` by `a`, and `roundUp? v a` is the first multiple of `a` not below
`v`, where there is one that fits. Both are meant for an `a` that is a
power of two (`IsPowerOfTwo`).
-/

namespace CardBarrier

/-- A byte address of the heap. -/
abbrev Address := UInt64

/-- The bytes of a heap word. -/
def wordBytes : UInt64 := 8

namespace Word

/-- The sum of two words, where it is itself a word. -/
def add? (a b : UInt64) : Option UInt64 :=
  if a.toNat + b.toNat < UInt64.size then some (a + b) else none

/-- The product of two words, where it is itself a word. -/
def mul? (a b : UInt64) : Option UInt64 :=
  if a.toNat * b.toNat < UInt64.size then some (a * b) else none

/-- **A power of two**, the only kind of alignment that rounding is meant
for. -/
def IsPowerOfTwo (a : UInt64) : Prop := ∃ k : Nat, a.toNat = Nat.pow 2 k

theorem isPowerOfTwo_iff (a : UInt64) :
    IsPowerOfTwo a ↔ a.toNat = Nat.pow 2 a.toNat.log2 := by
  constructor
  · rintro ⟨k, hk⟩
    simp only [hk, Nat.pow_eq, Nat.log2_two_pow]
  · exact fun h => ⟨_, h⟩

instance (a : UInt64) : Decidable (IsPowerOfTwo a) :=
  decidable_of_iff _ (isPowerOfTwo_iff a).symm

/-- The greatest multiple of `a` not above `v`. -/
def roundDown (v a : UInt64) : UInt64 := v - v % a

/-- The least multiple of `a` not below `v`, where it is a word. -/
def roundUp? (v a : UInt64) : Option UInt64 :=
  (add? v (a - 1)).map (roundDown · a)

theorem toNat_add? {a b c : UInt64} (h : add? a b = some c) :
    c.toNat = a.toNat + b.toNat := by
  unfold add? at h
  split at h
  · rename_i hlt
    cases h
    rw [UInt64.toNat_add, Nat.mod_eq_of_lt hlt]
  · cases h

theorem toNat_mul? {a b c : UInt64} (h : mul? a b = some c) :
    c.toNat = a.toNat * b.toNat := by
  unfold mul? at h
  split at h
  · rename_i hlt
    cases h
    rw [UInt64.toNat_mul, Nat.mod_eq_of_lt hlt]
  · cases h

theorem toNat_roundDown (v a : UInt64) :
    (roundDown v a).toNat = v.toNat - v.toNat % a.toNat := by
  unfold roundDown
  rw [UInt64.toNat_sub_of_le, UInt64.toNat_mod]
  rw [UInt64.le_iff_toNat_le, UInt64.toNat_mod]
  exact Nat.mod_le _ _

theorem roundDown_le (v a : UInt64) : roundDown v a ≤ v := by
  rw [UInt64.le_iff_toNat_le, toNat_roundDown]
  exact Nat.sub_le _ _

/-- Rounding up does not go below the value. -/
theorem le_of_roundUp? {v a w : UInt64} (ha : 0 < a) (h : roundUp? v a = some w) :
    v ≤ w := by
  unfold roundUp? at h
  obtain ⟨s, hs, rfl⟩ := Option.map_eq_some_iff.1 h
  have hsum := toNat_add? hs
  have hpos : 0 < a.toNat := by simpa [UInt64.lt_iff_toNat_lt] using ha
  have hpred : (a - 1).toNat = a.toNat - 1 := by
    rw [UInt64.toNat_sub_of_le]
    · rfl
    · rw [UInt64.le_iff_toNat_le]
      exact hpos
  have hmod := Nat.mod_lt s.toNat hpos
  rw [UInt64.le_iff_toNat_le, toNat_roundDown]
  omega

theorem IsPowerOfTwo.pos {a : UInt64} (h : IsPowerOfTwo a) : 0 < a := by
  obtain ⟨k, hk⟩ := h
  rw [UInt64.lt_iff_toNat_lt, hk, Nat.pow_eq]
  exact Nat.two_pow_pos k

end Word

end CardBarrier
