import CardBarrier.Interval.Bounds

/-!
# Rounding and widening as numbers

Sums, products and roundings of words are found where the exact result is a word, and it is then
that result: what is worked out with words can be read as arithmetic on numbers, and nothing has to
be asked about the way there.

For rounding up the way there is a sum, which may leave the word although nothing else does. It
cannot where the multiple that is looked for is a word: an alignment is a power of two and divides
the number of words, so that beyond the last word nothing rounds down to a word
(`Word.IsPowerOfTwo.lt_size`). Widening an interval to an alignment is refused then only where no
multiple of the alignment at or above its end is an address (`Interval.widen_eq_ok_iff`).
-/

namespace CardBarrier

/-! ## Words and bounds from numbers -/

theorem Word.add?_of_toNat {a b c : UInt64} (h : c.toNat = a.toNat + b.toNat) :
    add? a b = some c := by
  have hlt : a.toNat + b.toNat < UInt64.size := h ▸ c.toNat_lt
  unfold add?
  rw [if_pos hlt, Option.some_inj]
  apply UInt64.toNat_inj.1
  rw [h, UInt64.toNat_add, Nat.mod_eq_of_lt hlt]

theorem Word.mul?_of_toNat {a b c : UInt64} (h : c.toNat = a.toNat * b.toNat) :
    mul? a b = some c := by
  have hlt : a.toNat * b.toNat < UInt64.size := h ▸ c.toNat_lt
  unfold mul?
  rw [if_pos hlt, Option.some_inj]
  apply UInt64.toNat_inj.1
  rw [h, UInt64.toNat_mul, Nat.mod_eq_of_lt hlt]

namespace Interval

variable {r s : Interval} {a m n : Nat}

theorem toNat_start_le (r : Interval) : r.start.toNat ≤ r.stop.toNat :=
  UInt64.le_iff_toNat_le.1 r.start_le_stop

/-- An interval is known by its bounds as numbers. -/
theorem eq_of_toNat (hstart : r.start.toNat = s.start.toNat) (hstop : r.stop.toNat = s.stop.toNat) :
    r = s := by
  obtain ⟨start, stop, hr⟩ := r
  obtain ⟨start', stop', hs⟩ := s
  obtain rfl := UInt64.toNat_inj.1 hstart
  obtain rfl := UInt64.toNat_inj.1 hstop
  rfl

/-- An interval lies inside another if it is empty or its bounds do not leave the other's. -/
theorem includes_iff_toNat : r.includes s = true ↔ s.start.toNat = s.stop.toNat ∨
    r.start.toNat ≤ s.start.toNat ∧ s.stop.toNat ≤ r.stop.toNat := by
  rw [includes, Bool.or_eq_true, isEmpty_iff, Bool.and_eq_true, decide_eq_true_eq,
    decide_eq_true_eq, UInt64.le_iff_toNat_le, UInt64.le_iff_toNat_le, UInt64.toNat_inj]

/-- Numbers in order are the bounds of an interval if the upper one is an address. -/
theorem exists_of_toNat (h : m ≤ n) (hn : n < UInt64.size) :
    ∃ r : Interval, r.start.toNat = m ∧ r.stop.toNat = n := by
  have hstart : (UInt64.ofNat m).toNat = m := UInt64.toNat_ofNat_of_lt' (Nat.lt_of_le_of_lt h hn)
  have hstop : (UInt64.ofNat n).toNat = n := UInt64.toNat_ofNat_of_lt' hn
  have hle : UInt64.ofNat m ≤ UInt64.ofNat n := by
    rw [UInt64.le_iff_toNat_le, hstart, hstop]
    exact h
  exact ⟨⟨_, _, hle⟩, hstart, hstop⟩

/-- **The interval encloses what lies between two numbers**, and both of its own bounds are
multiples of an alignment. -/
structure Encloses (r : Interval) (a m n : Nat) : Prop where
  /-- It begins at a multiple of the alignment. -/
  dvd_start : a ∣ r.start.toNat
  /-- It ends at one. -/
  dvd_stop : a ∣ r.stop.toNat
  /-- It does not begin above the lower number. -/
  start_le : r.start.toNat ≤ m
  /-- It does not end below the upper one. -/
  le_stop : n ≤ r.stop.toNat

end Interval

/-! ## Widening -/

namespace Word

variable {a v w : UInt64}

theorem IsPowerOfTwo.toNat_pos (ha : IsPowerOfTwo a) : 0 < a.toNat :=
  UInt64.lt_iff_toNat_lt.1 ha.pos

/-- The bits below an alignment make up one less than it. -/
theorem IsPowerOfTwo.toNat_pred (ha : IsPowerOfTwo a) : (a - 1).toNat = a.toNat - 1 :=
  UInt64.toNat_sub_of_le _ _ (UInt64.le_iff_toNat_le.2 ha.toNat_pos)

theorem IsPowerOfTwo.dvd_size (ha : IsPowerOfTwo a) : a.toNat ∣ UInt64.size := by
  obtain ⟨k, hk⟩ := ha
  have hlt : 2 ^ k < 2 ^ 64 := by
    rw [← Nat.pow_eq, ← hk]
    exact a.toNat_lt
  have hk64 : k < 64 := (Nat.pow_lt_pow_iff_right (by decide)).1 hlt
  rw [hk, Nat.pow_eq]
  exact Nat.pow_dvd_pow 2 (Nat.le_of_lt hk64)

/-- A number that rounds down to a word is one: the alignment divides the number of words. -/
theorem IsPowerOfTwo.lt_size (ha : IsPowerOfTwo a) {n : Nat}
    (h : a.toNat * (n / a.toNat) < UInt64.size) : n < UInt64.size := by
  obtain ⟨q, hq⟩ := ha.dvd_size
  rw [hq] at h ⊢
  calc n < a.toNat * (n / a.toNat + 1) := Nat.lt_mul_div_succ n ha.toNat_pos
    _ ≤ a.toNat * q := Nat.mul_le_mul_left _ (Nat.lt_of_mul_lt_mul_left h)

theorem toNat_roundDown_eq (v a : UInt64) :
    (roundDown v a).toNat = a.toNat * (v.toNat / a.toNat) := by
  rw [toNat_roundDown]
  have := Nat.div_add_mod v.toNat a.toNat
  omega

/-- **The multiple of an alignment that a value rounds up to**, as a number. That it is a word
is all that is asked: then so is the sum that it is worked out from. -/
theorem roundUp?_eq_some_iff (ha : IsPowerOfTwo a) :
    roundUp? v a = some w ↔ w.toNat = a.toNat * ((v.toNat + (a.toNat - 1)) / a.toNat) := by
  unfold roundUp?
  rw [Option.map_eq_some_iff]
  constructor
  · rintro ⟨sum, hsum, rfl⟩
    rw [toNat_roundDown_eq, toNat_add? hsum, ha.toNat_pred]
  · intro hw
    have hfits : v.toNat + (a.toNat - 1) < UInt64.size := ha.lt_size (hw ▸ w.toNat_lt)
    have hsum : (UInt64.ofNat (v.toNat + (a.toNat - 1))).toNat = v.toNat + (a - 1).toNat := by
      rw [ha.toNat_pred, UInt64.toNat_ofNat_of_lt' hfits]
    refine ⟨_, add?_of_toNat hsum, UInt64.toNat_inj.1 ?_⟩
    rw [toNat_roundDown_eq, hsum, ha.toNat_pred, hw]

end Word

namespace Interval

variable {r s : Interval} {a : UInt64}

/-- **The interval that another one is widened to**, by its bounds. -/
theorem widen_eq_ok_iff (ha : Word.IsPowerOfTwo a) :
    r.widen a = .ok s ↔ s.start.toNat = a.toNat * (r.start.toNat / a.toNat) ∧
      s.stop.toNat = a.toNat * ((r.stop.toNat + (a.toNat - 1)) / a.toNat) := by
  rw [← Word.roundUp?_eq_some_iff ha, ← Word.toNat_roundDown_eq]
  unfold widen
  rw [dif_pos ha]
  constructor
  · intro h
    split at h
    · rename_i stop hstop
      cases h
      exact ⟨rfl, hstop⟩
    · cases h
  · rintro ⟨hstart, hstop⟩
    split
    · rename_i stop hstop'
      obtain rfl : stop = s.stop := Option.some_inj.1 (hstop'.symm.trans hstop)
      exact congrArg Except.ok (eq_of_toNat hstart.symm rfl)
    · rename_i hnone
      rw [hstop] at hnone
      cases hnone

/-- **Widening to a power of two is refused only for want of room.** -/
theorem widen_eq_error {f : Fault} (ha : Word.IsPowerOfTwo a) (h : r.widen a = .error f) :
    f = .noRoomAbove r.stop a := by
  unfold widen at h
  rw [dif_pos ha] at h
  split at h
  · cases h
  · cases h
    rfl

end Interval

end CardBarrier
