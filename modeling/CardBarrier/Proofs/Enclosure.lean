import Mathlib.Order.Bounds.Basic
import CardBarrier.Proofs.Widening

/-!
# The least aligned interval around another

Widening works with bits: it clears those below the alignment at the start of an interval, and at
its end it does so after adding all of them, where that sum is a word. For a power of two these bits
are the remainder, so that the two bounds are a floor and a ceiling among the multiples of the
alignment. The ceiling is missed only where it is no word itself, since the sum cannot leave the
word before it does.

What widening finds is therefore the least interval between two multiples of the alignment that
encloses the one it was given, and everything else that may be expected of it follows from that
(`Interval.widenLaw`). Its bounds are in order without being compared.
-/

namespace CardBarrier

/-! ## Bits and multiples -/

namespace Word

variable {a v w : UInt64} {m : Nat}

/-- **The bits of a word below an alignment** are its remainder. -/
theorem IsPowerOfTwo.and_pred (ha : IsPowerOfTwo a) (v : UInt64) : v &&& (a - 1) = v % a := by
  have hpred := ha.toNat_pred
  obtain ⟨k, hk⟩ := ha
  apply UInt64.toNat_inj.1
  rw [UInt64.toNat_and, hpred, UInt64.toNat_mod, hk, Nat.pow_eq, Nat.and_two_pow_sub_one_eq_mod]

/-- The bits outside a mask and the bits inside it add up to the word. -/
theorem and_not_add_and (v mask : UInt64) : (v &&& ~~~mask) + (v &&& mask) = v := by
  apply UInt64.toBitVec_inj.1
  rw [UInt64.toBitVec_add, UInt64.toBitVec_and, UInt64.toBitVec_and, UInt64.toBitVec_not,
    BitVec.add_eq_or_of_and_eq_zero]
  · ext i hi
    rw [BitVec.getElem_or, BitVec.getElem_and, BitVec.getElem_and, BitVec.getElem_not]
    cases v.toBitVec[i] <;> cases mask.toBitVec[i] <;> rfl
  · ext i hi
    rw [BitVec.getElem_and, BitVec.getElem_and, BitVec.getElem_and, BitVec.getElem_not,
      BitVec.getElem_zero]
    cases v.toBitVec[i] <;> cases mask.toBitVec[i] <;> rfl

/-- **Rounding down clears the bits below the alignment.** -/
theorem IsPowerOfTwo.roundDown_eq_and_not (ha : IsPowerOfTwo a) (v : UInt64) :
    roundDown v a = v &&& ~~~(a - 1) := by
  rw [roundDown, ← ha.and_pred, UInt64.sub_eq_iff_eq_add, and_not_add_and]

/-- **Those bits are clear** in the multiples of the alignment and in nothing else. -/
theorem IsPowerOfTwo.lowBitsClear_eq (ha : IsPowerOfTwo a) (v : UInt64) :
    lowBitsClear v a = .ok (decide (a.toNat ∣ v.toNat)) := by
  have hne : a ≠ 0 := fun h => absurd ha.pos (h ▸ UInt64.lt_irrefl 0)
  have hclear : (v &&& (a - 1) == 0) = decide (a.toNat ∣ v.toNat) := by
    rw [ha.and_pred, Bool.eq_iff_iff, beq_iff_eq, decide_eq_true_iff, Nat.dvd_iff_mod_eq_zero,
      ← UInt64.toNat_mod, ← UInt64.toNat_inj, UInt64.toNat_zero]
  rw [lowBitsClear, if_neg hne, hclear]

/-- The multiple that a number is rounded down to is the greatest one not above it. -/
theorem isGreatest_mul_div (hpos : 0 < m) (n : Nat) :
    IsGreatest {k | m ∣ k ∧ k ≤ n} (m * (n / m)) := by
  refine ⟨⟨Nat.dvd_mul_right _ _, Nat.mul_div_le n m⟩, ?_⟩
  rintro _ ⟨⟨q, rfl⟩, hle⟩
  refine Nat.mul_le_mul_left m ((Nat.le_div_iff_mul_le hpos).2 ?_)
  rw [Nat.mul_comm]
  exact hle

/-- The multiple that a number is rounded up to is the least one not below it. -/
theorem isLeast_mul_div (hpos : 0 < m) (n : Nat) :
    IsLeast {k | m ∣ k ∧ n ≤ k} (m * ((n + (m - 1)) / m)) := by
  constructor
  · refine ⟨Nat.dvd_mul_right _ _, ?_⟩
    have := Nat.lt_mul_div_succ (n + (m - 1)) hpos
    rw [Nat.mul_succ] at this
    omega
  · rintro _ ⟨⟨q, rfl⟩, hle⟩
    refine Nat.mul_le_mul_left m (Nat.le_of_lt_succ ((Nat.div_lt_iff_lt_mul hpos).2 ?_))
    rw [Nat.succ_mul, Nat.mul_comm]
    omega

/-- **A word is rounded up** if a multiple of the alignment at or above it is a word. -/
theorem IsPowerOfTwo.isSome_roundUp?_iff (ha : IsPowerOfTwo a) :
    (roundUp? v a).isSome = true ↔ ∃ m, a.toNat ∣ m ∧ v.toNat ≤ m ∧ m < UInt64.size := by
  have hleast := isLeast_mul_div ha.toNat_pos v.toNat
  simp only [Option.isSome_iff_exists, roundUp?_eq_some_iff ha]
  constructor
  · rintro ⟨w, hw⟩
    rw [← hw] at hleast
    exact ⟨w.toNat, hleast.1.1, hleast.1.2, w.toNat_lt⟩
  · rintro ⟨m, hdvd, hle, hm⟩
    exact ⟨_, UInt64.toNat_ofNat_of_lt' (Nat.lt_of_le_of_lt (hleast.2 ⟨hdvd, hle⟩) hm)⟩

end Word

/-! ## The interval found -/

namespace Interval

variable {r s q : Interval} {a : UInt64}

theorem isPowerOfTwo_of_widen (h : r.widen a = .ok s) : Word.IsPowerOfTwo a := by
  unfold widen at h
  split at h
  · assumption
  · cases h

/-- **Widening goes to the nearest multiple on either side.** -/
theorem widen_eq_ok_iff_nearest (ha : Word.IsPowerOfTwo a) :
    r.widen a = .ok s ↔ IsGreatest {m | a.toNat ∣ m ∧ m ≤ r.start.toNat} s.start.toNat ∧
      IsLeast {m | a.toNat ∣ m ∧ r.stop.toNat ≤ m} s.stop.toNat := by
  have hlo := Word.isGreatest_mul_div ha.toNat_pos r.start.toNat
  have hhi := Word.isLeast_mul_div ha.toNat_pos r.stop.toNat
  rw [widen_eq_ok_iff ha]
  constructor
  · rintro ⟨hstart, hstop⟩
    rw [hstart, hstop]
    exact ⟨hlo, hhi⟩
  · rintro ⟨hstart, hstop⟩
    exact ⟨hstart.unique hlo, hstop.unique hhi⟩

/-- The bounds of the interval found, as they are rounded one by one. -/
theorem round_of_widen (h : r.widen a = .ok s) :
    s.start = Word.roundDown r.start a ∧ Word.roundUp? r.stop a = some s.stop := by
  have ha := isPowerOfTwo_of_widen h
  obtain ⟨hstart, hstop⟩ := (widen_eq_ok_iff ha).1 h
  rw [← Word.toNat_roundDown_eq] at hstart
  exact ⟨UInt64.toNat_inj.1 hstart, (Word.roundUp?_eq_some_iff ha).2 hstop⟩

/-- **There is an interval to widen to** if a multiple at or above the end is an address. -/
theorem exists_widen_iff (ha : Word.IsPowerOfTwo a) :
    (∃ s, r.widen a = .ok s) ↔ ∃ m, a.toNat ∣ m ∧ r.stop.toNat ≤ m ∧ m < UInt64.size := by
  rw [← ha.isSome_roundUp?_iff, Option.isSome_iff_exists]
  constructor
  · rintro ⟨s, hs⟩
    exact ⟨s.stop, (round_of_widen hs).2⟩
  · rintro ⟨stop, hstop⟩
    -- the start does not rise and the end does not fall
    have horder : Word.roundDown r.start a ≤ stop := UInt64.le_trans (Word.roundDown_le _ _)
      (UInt64.le_trans r.start_le_stop (Word.le_of_roundUp? ha.pos hstop))
    exact ⟨⟨_, stop, horder⟩, (widen_eq_ok_iff ha).2
      ⟨Word.toNat_roundDown_eq _ _, (Word.roundUp?_eq_some_iff ha).1 hstop⟩⟩

/-- **Bounds are found aligned** where they are multiples. -/
theorem boundsAligned_iff (ha : Word.IsPowerOfTwo a) :
    r.boundsAligned a = .ok true ↔ a.toNat ∣ r.start.toNat ∧ a.toNat ∣ r.stop.toNat := by
  unfold boundsAligned
  rw [ha.lowBitsClear_eq, ha.lowBitsClear_eq]
  by_cases hstart : a.toNat ∣ r.start.toNat <;>
    simp [hstart, bind, Except.bind, pure, Except.pure]

/-- **What there is to say of widening an interval to an alignment.** -/
structure WidenLaw (r : Interval) (a : UInt64) : Prop where
  /-- What is no power of two is refused as an alignment. -/
  refuses (ha : ¬Word.IsPowerOfTwo a) : r.widen a = .error .badAlignment
  /-- An interval is found if and only if a multiple of the alignment at or above the end is an
  address. -/
  exists_iff (ha : Word.IsPowerOfTwo a) :
    (∃ s, r.widen a = .ok s) ↔ ∃ m, a.toNat ∣ m ∧ r.stop.toNat ≤ m ∧ m < UInt64.size
  /-- Where none is, widening stops at a broken invariant. -/
  stops (ha : Word.IsPowerOfTwo a)
    (h : ¬∃ m, a.toNat ∣ m ∧ r.stop.toNat ≤ m ∧ m < UInt64.size) :
    r.widen a = .error (.noRoomAbove r.stop a) ∧ (Fault.noRoomAbove r.stop a).isInvariant = true
  /-- It begins with the greatest multiple of the alignment that is not above the start. -/
  greatest {s : Interval} (h : r.widen a = .ok s) :
    IsGreatest {m | a.toNat ∣ m ∧ m ≤ r.start.toNat} s.start.toNat
  /-- It ends with the least one that is not below the end. -/
  least {s : Interval} (h : r.widen a = .ok s) :
    IsLeast {m | a.toNat ∣ m ∧ r.stop.toNat ≤ m} s.stop.toNat
  /-- These are the bounds with the bits below the alignment cleared, after they were added to the
  end, and as such they are in order. -/
  masked {s : Interval} (h : r.widen a = .ok s) :
    ofBounds (r.start &&& ~~~(a - 1)) ((r.stop + (a - 1)) &&& ~~~(a - 1)) = .ok s
  /-- They are the bounds rounded one by one. -/
  rounded {s : Interval} (h : r.widen a = .ok s) :
    Word.floor r.start a = .ok s.start ∧ Word.ceiling r.stop a = .ok (some s.stop)
  /-- The interval lies inside what is found. -/
  includes {s : Interval} (h : r.widen a = .ok s) : s.includes r = true
  /-- What is found has aligned bounds. -/
  aligned {s : Interval} (h : r.widen a = .ok s) : s.boundsAligned a = .ok true
  /-- It lies between the bounds of any other interval between whose bounds the interval lies, if
  they are aligned. -/
  enclosed {s q : Interval} (h : r.widen a = .ok s) (hq : q.boundsAligned a = .ok true)
    (hstart : q.start ≤ r.start) (hstop : r.stop ≤ q.stop) :
    q.start ≤ s.start ∧ s.stop ≤ q.stop ∧ q.includes s = true
  /-- So it lies inside any other interval with aligned bounds inside which the interval lies. Only
  one that is empty does so wherever it is, and what that is widened to need not. -/
  held {s q : Interval} (h : r.widen a = .ok s) (hq : q.boundsAligned a = .ok true)
    (hr : r.isEmpty = false) (hin : q.includes r = true) : q.includes s = true
  /-- Widening it again changes nothing. -/
  idempotent {s : Interval} (h : r.widen a = .ok s) : s.widen a = .ok s
  /-- A start that is no higher leads to no higher start, and an end that is no lower to no lower
  end. -/
  mono {s r' s' : Interval} (h : r.widen a = .ok s) (h' : r'.widen a = .ok s') :
    (r'.start ≤ r.start → s'.start ≤ s.start) ∧ (r.stop ≤ r'.stop → s.stop ≤ s'.stop)
  /-- Widening leaves alone just those intervals whose bounds are aligned. -/
  self_iff (ha : Word.IsPowerOfTwo a) : r.widen a = .ok r ↔ r.boundsAligned a = .ok true

/-- An interval whose bounds are aligned is widened to itself. -/
theorem widen_self_iff (ha : Word.IsPowerOfTwo a) :
    r.widen a = .ok r ↔ r.boundsAligned a = .ok true := by
  rw [widen_eq_ok_iff_nearest ha, boundsAligned_iff ha]
  constructor
  · rintro ⟨hlo, hhi⟩
    exact ⟨hlo.1.1, hhi.1.1⟩
  · rintro ⟨hstart, hstop⟩
    exact ⟨⟨⟨hstart, Nat.le_refl _⟩, fun m hm => hm.2⟩, ⟨hstop, Nat.le_refl _⟩, fun m hm => hm.2⟩

theorem boundsAligned_of_widen (h : r.widen a = .ok s) : s.boundsAligned a = .ok true := by
  have ha := isPowerOfTwo_of_widen h
  obtain ⟨hlo, hhi⟩ := (widen_eq_ok_iff_nearest ha).1 h
  exact (boundsAligned_iff ha).2 ⟨hlo.1.1, hhi.1.1⟩

/-- **What is found lies between all aligned bounds** between which the interval lies. -/
theorem enclosed_of_widen (h : r.widen a = .ok s) (hq : q.boundsAligned a = .ok true)
    (hstart : q.start ≤ r.start) (hstop : r.stop ≤ q.stop) :
    q.start ≤ s.start ∧ s.stop ≤ q.stop ∧ q.includes s = true := by
  have ha := isPowerOfTwo_of_widen h
  obtain ⟨hlo, hhi⟩ := (widen_eq_ok_iff_nearest ha).1 h
  obtain ⟨hdvd, hdvd'⟩ := (boundsAligned_iff ha).1 hq
  rw [UInt64.le_iff_toNat_le] at hstart hstop
  have hbegin := hlo.2 ⟨hdvd, hstart⟩
  have hend := hhi.2 ⟨hdvd', hstop⟩
  rw [UInt64.le_iff_toNat_le, UInt64.le_iff_toNat_le]
  exact ⟨hbegin, hend, includes_iff_toNat.2 (.inr ⟨hbegin, hend⟩)⟩

/-- **The interval lies inside what is found**, whether or not it is empty. -/
theorem includes_of_widen (h : r.widen a = .ok s) : s.includes r = true := by
  obtain ⟨hlo, hhi⟩ := (widen_eq_ok_iff_nearest (isPowerOfTwo_of_widen h)).1 h
  exact includes_iff_toNat.2 (.inr ⟨hlo.1.2, hhi.1.2⟩)

/-- **Either bound of what is found moves with that bound alone**, and in the same direction. -/
theorem mono_of_widen {r' s' : Interval} (h : r.widen a = .ok s) (h' : r'.widen a = .ok s') :
    (r'.start ≤ r.start → s'.start ≤ s.start) ∧ (r.stop ≤ r'.stop → s.stop ≤ s'.stop) := by
  have ha := isPowerOfTwo_of_widen h
  obtain ⟨hlo, hhi⟩ := (widen_eq_ok_iff_nearest ha).1 h
  obtain ⟨hlo', hhi'⟩ := (widen_eq_ok_iff_nearest ha).1 h'
  simp only [UInt64.le_iff_toNat_le]
  constructor
  · intro hle
    exact hlo.2 ⟨hlo'.1.1, Nat.le_trans hlo'.1.2 hle⟩
  · intro hle
    exact hhi.2 ⟨hhi'.1.1, Nat.le_trans hle hhi'.1.2⟩

/-- **They are made from bits alone**, without a comparison. -/
theorem mask_of_widen (h : r.widen a = .ok s) :
    s.start = r.start &&& ~~~(a - 1) ∧ s.stop = (r.stop + (a - 1)) &&& ~~~(a - 1) := by
  have ha := isPowerOfTwo_of_widen h
  obtain ⟨hstart, hstop⟩ := round_of_widen h
  obtain ⟨sum, hsum, hdown⟩ := Option.map_eq_some_iff.1 hstop
  -- the end was rounded up, so that the sum is a word and wrapping does not show
  have hword : sum = r.stop + (a - 1) := by
    apply UInt64.toNat_inj.1
    rw [Word.toNat_add? hsum, UInt64.toNat_add, Nat.mod_eq_of_lt]
    exact Word.toNat_add? hsum ▸ sum.toNat_lt
  rw [← ha.roundDown_eq_and_not, ← ha.roundDown_eq_and_not, ← hword]
  exact ⟨hstart, hdown.symm⟩

/-- **Widening finds the least aligned interval around the one that it is given**, unless that
leaves the address space. -/
theorem widenLaw (r : Interval) (a : UInt64) : r.WidenLaw a := by
  constructor
  case refuses => exact fun ha => dif_neg ha
  case exists_iff => exact exists_widen_iff
  case stops =>
    intro ha h
    refine ⟨?_, rfl⟩
    cases hwide : r.widen a with
    | ok s => exact absurd ((exists_widen_iff ha).1 ⟨s, hwide⟩) h
    | error f => rw [widen_eq_error ha hwide]
  case greatest => exact fun h => ((widen_eq_ok_iff_nearest (isPowerOfTwo_of_widen h)).1 h).1
  case least => exact fun h => ((widen_eq_ok_iff_nearest (isPowerOfTwo_of_widen h)).1 h).2
  case masked =>
    intro s h
    obtain ⟨hstart, hstop⟩ := mask_of_widen h
    rw [← hstart, ← hstop]
    exact ofBounds_self s
  case rounded =>
    intro s h
    obtain ⟨hstart, hstop⟩ := round_of_widen h
    have hrequire : Word.requirePowerOfTwo a = .ok () := if_pos (isPowerOfTwo_of_widen h)
    rw [Word.floor, Word.ceiling, hrequire, hstart, hstop]
    exact ⟨rfl, rfl⟩
  case includes => exact includes_of_widen
  case aligned => exact boundsAligned_of_widen
  case enclosed => exact enclosed_of_widen
  case held =>
    intro s q h hq hr hin
    rw [includes, hr, Bool.false_or, Bool.and_eq_true, decide_eq_true_eq, decide_eq_true_eq] at hin
    exact (enclosed_of_widen h hq hin.1 hin.2).2.2
  case idempotent =>
    intro s h
    exact (widen_self_iff (isPowerOfTwo_of_widen h)).2 (boundsAligned_of_widen h)
  case mono => exact mono_of_widen
  case self_iff => exact widen_self_iff

/-- With the largest alignment an interval reaches beyond the last multiple as soon as it ends
above it. -/
example : widen ⟨1, 0x8000000000000001, by decide⟩ 0x8000000000000000
    = .error (.noRoomAbove 0x8000000000000001 0x8000000000000000) := rfl

end Interval

end CardBarrier
