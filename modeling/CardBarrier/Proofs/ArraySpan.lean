import CardBarrier.Proofs.ArrayWrite

/-!
# Which span an array write has

Between an array write and its span stand a limit on the number of references, a product, a sum,
room to round the end up, and with word-sized references a comparison of the span with the bytes
written. Any of them can stop the write. They come to one condition on the number at which the
write ends (`Layout.endOf`), which may be no address: a write of compressed references has a span if
a multiple of the word at or above its end is an address, and one of word-sized references if its
end is an address and its start begins a word (`Layout.HasSpan`). The limit on the number of
references never decides, since a reference is several bytes.

The span is the least interval of whole words around the bytes written, whatever they are
(`Layout.SpanLaw`). All of this is read off one statement, `Layout.arraySpan_eq_ok_iff`, which
gives the two bounds of the span as numbers, and off the like for widening to any alignment,
`Interval.widen_eq_ok_iff`.
-/

namespace CardBarrier

/-! ## The span of a write -/

namespace Layout

variable {l : Layout} {start : Address} {count : UInt64} {r span : Interval} {f : Fault}

/-- **Where a write ends**, as a number: it may run past the last address. -/
def endOf (l : Layout) (start : Address) (count : UInt64) : Nat :=
  start.toNat + count.toNat * l.referenceBytes.toNat

theorem four_le_referenceBytes (l : Layout) : 4 ≤ l.referenceBytes.toNat := by
  cases l <;> decide

theorem start_le_endOf (l : Layout) (start : Address) (count : UInt64) :
    start.toNat ≤ l.endOf start count := Nat.le_add_right _ _

/-- A word-sized write is as many whole words as it has references. -/
theorem endOf_wordSized (start : Address) (count : UInt64) :
    wordSized.endOf start count = start.toNat + 8 * count.toNat := by
  rw [Nat.mul_comm]
  rfl

/-- **The bytes of a write** are an interval wherever it ends at an address. The number of its
references is then within the limit by itself. -/
theorem written_eq_ok_iff :
    l.written start count = .ok r ↔ r.start = start ∧ r.stop.toNat = l.endOf start count := by
  constructor
  · exact written_bounds
  · rintro ⟨rfl, hstop⟩
    have hend : l.endOf r.start count < UInt64.size := hstop ▸ r.stop.toNat_lt
    unfold endOf at hstop hend
    have hfour := Nat.mul_le_mul_left count.toNat l.four_le_referenceBytes
    have hlimit : ¬maxCount < count := by
      rw [UInt64.lt_iff_toNat_lt]
      show ¬0x7fffffffffffffff < count.toNat
      have hsize : UInt64.size = 2 ^ 64 := rfl
      omega
    have hbytes : (UInt64.ofNat (count.toNat * l.referenceBytes.toNat)).toNat
        = count.toNat * l.referenceBytes.toNat :=
      UInt64.toNat_ofNat_of_lt' (Nat.lt_of_le_of_lt (Nat.le_add_left _ _) hend)
    have hsum : Word.add? r.start (UInt64.ofNat (count.toNat * l.referenceBytes.toNat))
        = some r.stop := Word.add?_of_toNat (by rw [hbytes, hstop])
    unfold written
    rw [if_neg hlimit, Word.mul?_of_toNat hbytes, Option.bind_some, hsum]
    exact Interval.ofBounds_self r

/-- **A span is the bytes written, widened to whole words**, and with word-sized references
nothing else than the bytes written. -/
theorem arraySpan_eq_ok_iff_exists :
    l.arraySpan start count = .ok span ↔ ∃ written, l.written start count = .ok written ∧
      written.widen wordBytes = .ok span ∧ (l = .wordSized → span = written) := by
  unfold arraySpan
  cases hwritten : l.written start count with
  | error f => simp [bind, Except.bind]
  | ok written =>
    cases hwide : written.widen wordBytes with
    | error f => simp [bind, Except.bind, hwide]
    | ok wide =>
      by_cases hpartial : l = .wordSized ∧ wide ≠ written
      · simp only [bind, Except.bind, hwide, if_pos hpartial]
        constructor
        · intro h
          cases h
        · rintro ⟨_, heq, hspan, hexact⟩
          cases heq
          obtain rfl : wide = span := Except.ok.inj (hwide.symm.trans hspan)
          exact absurd (hexact hpartial.1) hpartial.2
      · simp only [bind, Except.bind, hwide, if_neg hpartial, pure, Except.pure]
        constructor
        · intro h
          cases h
          exact ⟨written, rfl, hwide, fun hl => Classical.not_not.1 fun hne => hpartial ⟨hl, hne⟩⟩
        · rintro ⟨_, heq, hspan, -⟩
          cases heq
          exact hwide.symm.trans hspan

/-- **The span of a write, by its bounds.** It is found wherever these are addresses, except that
word-sized references have to begin with a word. -/
theorem arraySpan_eq_ok_iff :
    l.arraySpan start count = .ok span ↔ span.start.toNat = 8 * (start.toNat / 8) ∧
      span.stop.toNat = 8 * ((l.endOf start count + 7) / 8) ∧
      (l = .wordSized → 8 ∣ start.toNat) := by
  have hword : Word.IsPowerOfTwo wordBytes := ⟨3, rfl⟩
  rw [arraySpan_eq_ok_iff_exists]
  constructor
  · rintro ⟨written, hwritten, hwide, hexact⟩
    obtain ⟨rfl, hstop⟩ := written_eq_ok_iff.1 hwritten
    obtain ⟨hlo, hhi⟩ := (Interval.widen_eq_ok_iff hword).1 hwide
    rw [hstop] at hhi
    refine ⟨hlo, hhi, fun hl => ?_⟩
    rw [hexact hl] at hlo
    exact ⟨_, hlo⟩
  · rintro ⟨hlo, hhi, haligned⟩
    have hend : l.endOf start count < UInt64.size := by
      have hspan := span.stop.toNat_lt
      show _ < 2 ^ 64
      omega
    obtain ⟨written, hstart, hstop⟩ :=
      Interval.exists_of_toNat (l.start_le_endOf start count) hend
    refine ⟨written, written_eq_ok_iff.2 ⟨UInt64.toNat_inj.1 hstart, hstop⟩,
      (Interval.widen_eq_ok_iff hword).2 ⟨by rw [hstart]; exact hlo, by rw [hstop]; exact hhi⟩, ?_⟩
    rintro rfl
    have hdvd := haligned rfl
    rw [endOf_wordSized] at hhi hstop
    exact Interval.eq_of_toNat (by omega) (by omega)

/-- **A write has a span** if it ends at an address, and besides if its end can be rounded up to
one, where references may end inside a word, or if its start begins a word, where they may
not. -/
def HasSpan (l : Layout) (start : Address) (count : UInt64) : Prop :=
  l.endOf start count < UInt64.size ∧
    match l with
    | .compressed => l.endOf start count + 8 ≤ UInt64.size
    | .wordSized => 8 ∣ start.toNat

theorem exists_arraySpan_iff :
    (∃ span, l.arraySpan start count = .ok span) ↔ l.HasSpan start count := by
  have hsize : UInt64.size = 2 ^ 64 := rfl
  have hle := l.start_le_endOf start count
  simp only [arraySpan_eq_ok_iff, HasSpan]
  constructor
  · rintro ⟨span, -, hstop, haligned⟩
    have hspan := span.stop.toNat_lt
    cases l with
    | wordSized => exact ⟨by omega, haligned rfl⟩
    | compressed => exact ⟨by omega, by omega⟩
  · rintro ⟨hend, hroom⟩
    have hfits : 8 * ((l.endOf start count + 7) / 8) < UInt64.size := by
      cases l with
      | wordSized =>
        simp only [endOf_wordSized] at hend ⊢
        omega
      | compressed =>
        simp only at hroom
        omega
    obtain ⟨span, hstart, hstop⟩ :=
      Interval.exists_of_toNat (m := 8 * (start.toNat / 8)) (by omega) hfits
    refine ⟨span, hstart, hstop, ?_⟩
    rintro rfl
    exact hroom

theorem isInvariant_of_written (h : l.written start count = .error f) : f.isInvariant = true := by
  unfold written at h
  split at h
  · cases h
    rfl
  split at h
  · unfold Interval.ofBounds at h
    split at h
    · cases h
    · cases h
      rfl
  · cases h
    rfl

/-- **A write without a span stops at a broken invariant**, and not at a refusal of the
machine. -/
theorem isInvariant_of_arraySpan (h : l.arraySpan start count = .error f) :
    f.isInvariant = true := by
  unfold arraySpan at h
  cases hwritten : l.written start count with
  | error g =>
    simp only [hwritten, bind, Except.bind] at h
    cases h
    exact isInvariant_of_written hwritten
  | ok written =>
    cases hwide : written.widen wordBytes with
    | error g =>
      simp only [hwritten, hwide, bind, Except.bind] at h
      cases h
      rw [Interval.widen_eq_error ⟨3, rfl⟩ hwide]
      rfl
    | ok wide =>
      simp only [hwritten, hwide, bind, Except.bind] at h
      split at h
      · cases h
        rfl
      · cases h

/-- **What there is to say of the span of a write.** -/
structure SpanLaw (l : Layout) (start : Address) (count : UInt64) : Prop where
  /-- There is one where the condition says so. -/
  exists_iff : (∃ span, l.arraySpan start count = .ok span) ↔ l.HasSpan start count
  /-- Anywhere else the write stops at a broken invariant. -/
  stops (h : ¬l.HasSpan start count) :
    ∃ fault, l.arraySpan start count = .error fault ∧ fault.isInvariant = true
  /-- It is an interval of whole words around the bytes written. -/
  encloses {span : Interval} (h : l.arraySpan start count = .ok span) :
    span.Encloses 8 start.toNat (l.endOf start count)
  /-- Any other such interval reaches as far on either side. -/
  least {span r : Interval} (h : l.arraySpan start count = .ok span)
    (hr : r.Encloses 8 start.toNat (l.endOf start count)) :
    r.start ≤ span.start ∧ span.stop ≤ r.stop
  /-- It is less than two words longer than the bytes written. -/
  length_lt {span : Interval} (h : l.arraySpan start count = .ok span) :
    span.length.toNat < count.toNat * l.referenceBytes.toNat + 16
  /-- With word-sized references it is the bytes written. -/
  bytes_written {span : Interval} (h : l.arraySpan start count = .ok span) (hl : l = .wordSized) :
    span.start = start ∧ span.stop.toNat = l.endOf start count
  /-- It lies inside the span of any write, whatever its references, whose bounds enclose the bounds
  of this one. -/
  mono {l' : Layout} {start' : Address} {count' : UInt64} {span span' : Interval}
    (h : l.arraySpan start count = .ok span) (h' : l'.arraySpan start' count' = .ok span')
    (hstart : start' ≤ start) (hend : l.endOf start count ≤ l'.endOf start' count') :
    span'.start ≤ span.start ∧ span.stop ≤ span'.stop

/-- **The span of a write is exact**: it is found whenever there is one, and it is the least
interval of whole words around the bytes written. -/
theorem spanLaw (l : Layout) (start : Address) (count : UInt64) : l.SpanLaw start count := by
  have hle := l.start_le_endOf start count
  constructor
  case exists_iff => exact exists_arraySpan_iff
  case stops =>
    intro h
    cases hspan : l.arraySpan start count with
    | ok span => exact absurd (exists_arraySpan_iff.1 ⟨span, hspan⟩) h
    | error fault => exact ⟨fault, rfl, isInvariant_of_arraySpan hspan⟩
  case encloses =>
    intro span h
    obtain ⟨hlo, hhi, -⟩ := arraySpan_eq_ok_iff.1 h
    exact ⟨⟨_, hlo⟩, ⟨_, hhi⟩, by omega, by omega⟩
  case least =>
    intro span r h hr
    obtain ⟨hlo, hhi, -⟩ := arraySpan_eq_ok_iff.1 h
    obtain ⟨⟨j, hj⟩, ⟨k, hk⟩, hbegin, hend⟩ := hr
    rw [UInt64.le_iff_toNat_le, UInt64.le_iff_toNat_le]
    omega
  case length_lt =>
    intro span h
    obtain ⟨hlo, hhi, -⟩ := arraySpan_eq_ok_iff.1 h
    rw [Interval.toNat_length]
    unfold endOf at hle hhi
    omega
  case bytes_written =>
    intro span h hl
    obtain ⟨hlo, hhi, haligned⟩ := arraySpan_eq_ok_iff.1 h
    have hdvd := haligned hl
    subst hl
    rw [endOf_wordSized] at hhi ⊢
    exact ⟨UInt64.toNat_inj.1 (by omega), by omega⟩
  case mono =>
    intro l' start' count' span span' h h' hstart hend
    obtain ⟨hlo, hhi, -⟩ := arraySpan_eq_ok_iff.1 h
    obtain ⟨hlo', hhi', -⟩ := arraySpan_eq_ok_iff.1 h'
    rw [UInt64.le_iff_toNat_le] at hstart ⊢
    rw [UInt64.le_iff_toNat_le]
    omega

/-- Four references of four bytes that begin in the middle of one word and end in the middle of
another. -/
example : compressed.arraySpan 0x1004 4 = .ok ⟨0x1000, 0x1018, by decide⟩ := rfl

end Layout

end CardBarrier
