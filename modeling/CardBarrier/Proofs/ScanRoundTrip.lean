import CardBarrier.Proofs.Partition
import CardBarrier.Proofs.SplitWrite

/-!
# From cards to intervals and back

A scan turns the cards of a table into intervals of the heap, and marking turns intervals into
cards. The way there and back loses nothing: what a scan reports, marked on a table that is new,
makes the same cards dirty, and cleared on the table that was scanned, it leaves that as if it had
been reset (`CardTable.roundTrip_after`). The part of a card meets that card and no other, also
where it is cut short, so nothing bleeds into the neighbours.

It does not matter in which order the intervals are handed over, nor whether some of them are joined
to longer ones on the way (`Interval.Regroups`). The dirty parts of the heap that a table reports as
intervals that do not touch are one such regrouping.
-/

namespace CardBarrier

open Act

/-! ## Regrouping intervals -/

namespace Interval

variable {r s : Interval} {rs qs : List Interval}

/-- **The intervals are others over again**, in any order and with some of them joined. -/
inductive Regroups (rs : List Interval) : List Interval → Prop where
  /-- As they are. -/
  | refl : Regroups rs rs
  /-- In another order. -/
  | perm {qs qs' : List Interval} (h : Regroups rs qs) (hperm : qs.Perm qs') : Regroups rs qs'
  /-- With two of them made one. -/
  | join {r s t : Interval} {qs : List Interval} (h : Regroups rs (s :: t :: qs))
    (hjoins : r.Joins s t) : Regroups rs (r :: qs)

/-- **What holds of an interval just if it holds of the parts that make it up** holds of all
intervals over again if it holds of all of them. -/
theorem Regroups.forall_iff {P : Interval → Prop}
    (hP : ∀ {r s t : Interval}, r.Joins s t → (P r ↔ P s ∧ P t)) (h : Regroups rs qs) :
    (∀ q ∈ qs, P q) ↔ ∀ r ∈ rs, P r := by
  induction h with
  | refl => rfl
  | perm _ hperm ih =>
    rw [← ih]
    exact forall_congr' fun q => imp_congr_left hperm.mem_iff.symm
  | join _ hjoins ih => rw [← ih, List.forall_mem_cons, List.forall_mem_cons,
      List.forall_mem_cons, hP hjoins, and_assoc]

/-- All of them lie inside an interval if those before do. -/
theorem Regroups.includes_iff {c : Interval} (h : Regroups rs qs) :
    (∀ q ∈ qs, c.includes q = true) ↔ ∀ r ∈ rs, c.includes r = true :=
  h.forall_iff fun hjoins => hjoins.includes_iff

/-- **They meet the same cards.** -/
theorem Regroups.meets_iff {g : Geometry} {i : Nat} (h : Regroups rs qs) :
    (∃ q ∈ qs, g.Meets i q) ↔ ∃ r ∈ rs, g.Meets i r := by
  -- an interval misses a card just if both of its parts do
  have hnone := h.forall_iff (P := fun r => ¬g.Meets i r) fun hjoins => by
    rw [Geometry.meets_joins hjoins, not_or]
  simpa using not_congr hnone

/-- One more interval in front of both. -/
theorem Regroups.cons (r : Interval) (h : Regroups rs qs) : Regroups (r :: rs) (r :: qs) := by
  induction h with
  | refl => exact .refl
  | perm _ hperm ih => exact ih.perm (hperm.cons r)
  | @join whole s t qs _ hjoins ih =>
    -- the two that are to be joined come to the front, and what they make goes back behind `r`
    have hfront : ([s, t] ++ r :: qs).Perm (r :: ([s, t] ++ qs)) := List.perm_middle
    exact ((ih.perm hfront.symm).join hjoins).perm (List.Perm.swap r whole qs)

/-- Intervals of which one ends where the other begins make up the interval from the first to the
last. -/
theorem joins_of_touching (h : r.stop = s.start)
    (hle : r.start ≤ s.stop) : Joins ⟨r.start, s.stop, hle⟩ r s where
  start_eq := rfl
  stop_eq := rfl
  start_le := h ▸ r.toNat_start_le
  stop_le := h ▸ s.toNat_start_le
  no_gap := h ▸ Nat.le_refl _

theorem regroups_consJoining (r : Interval) (rs : List Interval) :
    Regroups (r :: rs) (consJoining r rs) := by
  cases rs with
  | nil => exact .refl
  | cons s rs =>
    rw [consJoining]
    split
    · rename_i h
      exact Regroups.refl.join (joins_of_touching h _)
    · exact .refl

theorem Regroups.trans {ps : List Interval} (h : Regroups rs qs) (h' : Regroups qs ps) :
    Regroups rs ps := by
  induction h' with
  | refl => exact h
  | perm _ hperm ih => exact ih.perm hperm
  | join _ hjoins ih => exact ih.join hjoins

/-- **Joining each interval to the one before it** where the two touch is a regrouping. -/
theorem regroups_joinTouching (rs : List Interval) : Regroups rs (joinTouching rs) := by
  induction rs with
  | nil => exact .refl
  | cons r rs ih => exact (ih.cons r).trans (regroups_consJoining r (joinTouching rs))

end Interval

/-! ## The part of a card -/

namespace Geometry

variable {g : Geometry} {i : Nat}

/-- **The part of a card meets that card** and no other. -/
theorem meets_part_iff {card : Fin g.count} : g.Meets i (g.part card) ↔ i = card := by
  constructor
  · rintro ⟨a, ha, hi⟩
    rw [mem_part, holds_iff] at ha
    rw [holds_iff] at hi
    exact hi.2.symm.trans ha.2
  · rintro rfl
    have hstart := Interval.start_mem (isEmpty_part card)
    exact ⟨_, hstart, mem_part.1 hstart⟩

theorem includes_part (card : Fin g.count) : g.covered.includes (g.part card) = true := by
  rw [Interval.includes_iff_toNat, toNat_start_part, toNat_stop_part]
  omega

end Geometry

/-! ## Calls one after another -/

namespace CardTable

variable {t u : CardTable} {c : Call} {calls : List Call} {rs qs : List Interval} {i : Nat}

/-- **One call after another**, up to the first that stops at a fault. -/
def performAll (calls : List Call) : Act CardTable Unit := calls.forM Call.perform

theorem after_cons (c : Call) (calls : List Call) (t : CardTable) :
    after (c :: calls) t = after calls (c.perform.run t).2 := rfl

/-- **Calls come through one after another** if all of their intervals are covered, and leave the
table as they do where none stops those after it. -/
theorem performAll_yields (h : ∀ c ∈ calls, ∃ state r, c.puts? = some (state, r) ∧
    t.covered.includes r = true) : (performAll calls).Yields t () (after calls t) := by
  induction calls generalizing t with
  | nil => rfl
  | cons c calls ih =>
    rw [List.forall_mem_cons] at h
    obtain ⟨⟨state, r, hc, hr⟩, hrest⟩ := h
    obtain ⟨u, hput, hrun⟩ := Call.run_of_includes hc hr
    have hcovered : u.covered = t.covered := congrArg Geometry.covered (put_frame hput).1
    rw [← hcovered] at hrest
    rw [after_cons, hrun]
    exact yields_bind.2 ⟨(), u, hrun, ih hrest⟩

/-- **Calls that clear nothing of a card** leave it dirty, and one that marks it makes it dirty. -/
theorem dirty_after_of_not_clears (h : ∀ c ∈ calls, ¬c.Clears t.geometry i) :
    (after calls t).Dirty i ↔ t.Dirty i ∨ ∃ c ∈ calls, c.Marks t.geometry i := by
  induction calls generalizing t with
  | nil => simp [after]
  | cons c calls ih =>
    rw [List.forall_mem_cons] at h
    have hgeometry : (c.perform.run t).2.geometry = t.geometry := geometry_perform
    rw [after_cons, ih (hgeometry ▸ h.2), dirty_perform, hgeometry,
      and_iff_left h.1, List.exists_mem_cons_iff, or_assoc]

/-- **Calls that mark nothing of a card** leave it clean, and one that clears it makes it clean. -/
theorem dirty_after_of_not_marks (h : ∀ c ∈ calls, ¬c.Marks t.geometry i) :
    (after calls t).Dirty i ↔ t.Dirty i ∧ ∀ c ∈ calls, ¬c.Clears t.geometry i := by
  induction calls generalizing t with
  | nil => simp [after]
  | cons c calls ih =>
    rw [List.forall_mem_cons] at h
    have hgeometry : (c.perform.run t).2.geometry = t.geometry := geometry_perform
    rw [after_cons, ih (hgeometry ▸ h.2), dirty_perform, hgeometry,
      or_iff_left h.1, List.forall_mem_cons, and_assoc]

/-- A call over an interval changes cards only. -/
theorem Call.frame_of_puts {state : CardState} {r : Interval} (hc : c.puts? = some (state, r)) :
    (c.perform.run t).2.scanning = t.scanning ∧ (c.perform.run t).2.young = t.young := by
  cases hr : t.covered.includes r with
  | true =>
    obtain ⟨u, hput, hrun⟩ := run_of_includes hc hr
    rw [hrun]
    exact (put_frame hput).2
  | false =>
    rw [run_of_not_includes hc hr]
    exact ⟨rfl, rfl⟩

theorem frame_after_of_puts (h : ∀ c ∈ calls, ∃ state r, c.puts? = some (state, r)) :
    (after calls t).scanning = t.scanning ∧ (after calls t).young = t.young := by
  induction calls generalizing t with
  | nil => exact ⟨rfl, rfl⟩
  | cons c calls ih =>
    rw [List.forall_mem_cons] at h
    obtain ⟨⟨state, r, hc⟩, hrest⟩ := h
    rw [after_cons, (ih hrest).1, (ih hrest).2]
    exact Call.frame_of_puts hc

/-! ## There and back -/

/-- All of what a scan reports is covered, however it is regrouped. -/
theorem includes_of_regroups (h : Interval.Regroups (t.dirtyCards.map t.geometry.part) qs) :
    ∀ q ∈ qs, t.covered.includes q = true :=
  h.includes_iff.2 (List.forall_mem_map.2 fun card _ => Geometry.includes_part card)

/-- **What a scan reports reaches the dirty cards** and no others. -/
theorem reached_iff (h : Interval.Regroups (t.dirtyCards.map t.geometry.part) qs) :
    (∃ q ∈ qs, t.covered.includes q = true ∧ t.geometry.Meets i q) ↔ t.Dirty i := by
  have hmeets : (∃ r ∈ t.dirtyCards.map t.geometry.part, t.geometry.Meets i r) ↔ t.Dirty i := by
    simp only [List.mem_map, exists_exists_and_eq_and, Geometry.meets_part_iff, mem_dirtyCards]
    constructor
    · rintro ⟨card, hdirty, rfl⟩
      exact hdirty
    · exact fun hdirty => ⟨⟨i, lt_size_of_dirty hdirty⟩, hdirty, rfl⟩
  rw [← hmeets, ← h.meets_iff]
  exact exists_congr fun q => and_congr_right fun hq => and_iff_right (includes_of_regroups h q hq)

/-- **The way from cards to intervals and back**: what comes of handing over the intervals that a
table reports, over again in any order and with some of them joined. -/
structure RoundTrip (covered : Interval) (size : UInt64) (t : CardTable)
    (rs : List Interval) : Prop where
  /-- They are what a scan reports. -/
  scanned : t.scan = .ok rs
  /-- The dirty intervals that do not touch are a regrouping of them. -/
  joined : ∃ qs, t.dirtyIntervals = .ok qs ∧ Interval.Regroups rs qs
  /-- Marking them on a table that is new, over the same interval and with cards of the same size,
  comes through and makes its cards the same. -/
  marked {qs : List Interval} {scanning : Scanning} {fresh : CardTable}
    (hqs : Interval.Regroups rs qs) (hfresh : ofCardSize covered size scanning = .ok fresh) :
    ∃ u, (performAll (qs.map .mark)).Yields fresh () u ∧ u.cards.toList = t.cards.toList
  /-- Clearing them comes through and leaves the table as if it had been reset. -/
  cleared {qs : List Interval} (hqs : Interval.Regroups rs qs) :
    (performAll (qs.map .clear)).Yields t () t.reset
  /-- Clearing the part of one card comes through, cleans that card, and leaves the others as they
  were. -/
  cleared_one (card : Fin t.size) : ∃ r u, t.geometry.cardInterval (UInt64.ofNat card.val) = .ok r ∧
    (Call.clear r).perform.Yields t () u ∧ u.cards.toList = t.cards.toList.set card .clean

/-- What is marked on a table that is new makes it like the one that was scanned. -/
theorem cards_after_marks {fresh : CardTable} (hgeometry : fresh.geometry = t.geometry)
    (hclean : ∀ i, ¬fresh.Dirty i)
    (h : Interval.Regroups (t.dirtyCards.map t.geometry.part) qs) :
    (after (qs.map .mark) fresh).cards.toList = t.cards.toList := by
  refine cards_eq_of_dirty_iff ((geometry_after _ _).trans hgeometry) fun i => ?_
  have hclears : ∀ c ∈ qs.map Call.mark, ¬c.Clears fresh.geometry i :=
    List.forall_mem_map.2 fun q _ => not_false
  rw [dirty_after_of_not_clears hclears, or_iff_right (hclean i), hgeometry, ← reached_iff h]
  simp only [List.mem_map, exists_exists_and_eq_and]
  rfl

/-- What is cleared on the table that was scanned leaves no card dirty. -/
theorem after_clears (h : Interval.Regroups (t.dirtyCards.map t.geometry.part) qs) :
    after (qs.map .clear) t = t.reset := by
  have hputs : ∀ c ∈ qs.map Call.clear, ∃ state r, c.puts? = some (state, r) :=
    List.forall_mem_map.2 fun q _ => ⟨.clean, q, rfl⟩
  obtain ⟨hscanning, hyoung⟩ := frame_after_of_puts (t := t) hputs
  refine eq_of_dirty_iff (geometry_after _ _) hscanning hyoung fun i => ?_
  have hmarks : ∀ c ∈ qs.map Call.clear, ¬c.Marks t.geometry i :=
    List.forall_mem_map.2 fun q _ => not_false
  refine iff_of_false ?_ not_dirty_reset
  rw [dirty_after_of_not_marks hmarks, ← reached_iff h]
  rintro ⟨⟨q, hq, hreached⟩, hnone⟩
  exact hnone _ (List.mem_map_of_mem hq) hreached

/-- **Clearing the part of a card** cleans that card alone. -/
theorem cards_of_clear_part {card : Fin t.geometry.count}
    (h : t.clear (t.geometry.part card) = .ok u) :
    u.cards.toList = t.cards.toList.set card .clean := by
  refine List.ext_getElem? fun i => ?_
  obtain ⟨hin, hout⟩ := getElem?_put (i := i) h
  rw [Geometry.meets_part_iff] at hin hout
  rw [Vector.getElem?_toList, List.getElem?_set, Vector.getElem?_toList]
  split
  · rename_i hi
    rw [hin hi.symm, if_pos (by simp)]
  · rename_i hi
    exact hout (Ne.symm hi)

/-- **Scanning, marking and clearing agree**, whatever the table was asked for before: marking what
a scan reports gives the cards back, and clearing it clears them. -/
theorem roundTrip_after {covered : Interval} {size : UInt64} {scanning : Scanning}
    (h : ofCardSize covered size scanning = .ok t)
    (hend : (Word.roundUp? covered.stop size).isSome = true) (calls : List Call) :
    ∃ rs, RoundTrip covered size (after calls t) rs := by
  -- of the calls no more is needed than that they leave the division of the heap alone
  have hdivided := geometry_of_ofCardSize h
  rw [← geometry_after calls t] at hdivided
  generalize after calls t = u at hdivided
  have hinside : u.geometry.EndsInside := by
    rw [Geometry.endsInside_iff, (Geometry.of_ofCardSize hdivided).1,
      (Geometry.of_ofCardSize hdivided).2]
    exact hend
  have hscan := scan_eq hinside
  refine ⟨u.dirtyCards.map u.geometry.part, ?_⟩
  constructor
  case scanned => exact hscan
  case joined =>
    refine ⟨_, ?_, Interval.regroups_joinTouching _⟩
    rw [dirtyIntervals, hscan]
    rfl
  case marked =>
    intro qs scanning' fresh hqs hfresh
    have hgeometry : fresh.geometry = u.geometry :=
      Except.ok.inj ((geometry_of_ofCardSize hfresh).symm.trans hdivided)
    have hcovered : fresh.covered = u.covered := congrArg Geometry.covered hgeometry
    have hin : ∀ q ∈ qs, fresh.covered.includes q = true := by
      rw [hcovered]
      exact includes_of_regroups hqs
    refine ⟨_, performAll_yields (List.forall_mem_map.2 fun q hq => ⟨.dirty, q, rfl, hin q hq⟩), ?_⟩
    exact cards_after_marks hgeometry (of_ofCardSize hfresh).2.2 hqs
  case cleared =>
    intro qs hqs
    have hin := includes_of_regroups hqs
    rw [← after_clears hqs]
    exact performAll_yields (List.forall_mem_map.2 fun q hq => ⟨.clean, q, rfl, hin q hq⟩)
  case cleared_one =>
    intro card
    have hin : u.covered.includes (u.geometry.part card) = true := Geometry.includes_part card
    obtain ⟨v, hput, hrun⟩ := Call.run_of_includes (c := .clear (u.geometry.part card)) rfl hin
    exact ⟨_, v, Geometry.cardInterval_eq hinside card, hrun, cards_of_clear_part hput⟩

/-- Three cards of 512 bytes, the last of them cut short. The first is clean, and the dirty ones
touch, so that they are reported as one dirty interval. -/
theorem roundTrip_cut_short :
    ∃ t u, ofCardSize ⟨0x10000, 0x10500, by decide⟩ 512 .concurrent = .ok t ∧
      after [.mark ⟨0x10000, 0x10401, by decide⟩, .clear ⟨0x10000, 0x10001, by decide⟩] t = u ∧
      u.dirtyIntervals = .ok [⟨0x10200, 0x10500, by decide⟩] ∧
      ∃ rs, RoundTrip ⟨0x10000, 0x10500, by decide⟩ 512 u rs := by
  obtain ⟨t, u, ht, rfl, hdirty⟩ : ∃ t u,
      ofCardSize ⟨0x10000, 0x10500, by decide⟩ 512 .concurrent = .ok t ∧
      after [.mark ⟨0x10000, 0x10401, by decide⟩, .clear ⟨0x10000, 0x10001, by decide⟩] t = u ∧
      u.dirtyIntervals = .ok [⟨0x10200, 0x10500, by decide⟩] := ⟨_, _, rfl, rfl, rfl⟩
  exact ⟨t, _, ht, rfl, hdirty, roundTrip_after ht (by decide) _⟩

end CardTable

end CardBarrier
