import CardBarrier.Proofs.Partition

/-!
# The last card of the address space

What a card stands for is worked out by going a whole card size on from where it begins, and only
then cut off at the end of the covered interval. Where the covered interval ends inside the last
card of the address space, going on leads past the last address, and that is a fault although what
the card stands for ends before it. No other card is affected, since a card that is followed by
another ends at a covered address (`Geometry.ends_iff`).

A scan works out the dirty cards only. It comes through on such a table as long as the last card is
clean, and stops as soon as that card is marked (`CardTable.scanLaw_after`).
-/

namespace CardBarrier

namespace Geometry

variable {g : Geometry} {i : Nat}

/-- A card that is followed by another ends at an address. -/
theorem ends_of_succ_lt (h : i + 1 < g.count) :
    g.covered.start.toNat + (i + 1) * Nat.pow 2 g.shift < UInt64.size :=
  Nat.lt_trans (begins_before h) g.covered.stop.toNat_lt

/-- **If the last card ends at an address, the covered end can be rounded up to it.** -/
theorem endsInside_of_last
    (h : g.covered.start.toNat + g.count * Nat.pow 2 g.shift < UInt64.size) : g.EndsInside := by
  have hstop := g.stop_le_end
  -- the cards begin a whole number of card sizes from zero, and so they end there
  obtain ⟨j, hj⟩ := g.start_aligned
  rw [hj, Nat.mul_comm, ← Nat.add_mul] at h hstop
  exact ⟨j + g.count, hstop, h⟩

/-- **A card that ends past the last address** is a fault to work out. -/
theorem cardInterval_eq_error {card : Fin g.count}
    (h : UInt64.size ≤ g.covered.start.toNat + (card + 1) * Nat.pow 2 g.shift) :
    g.cardInterval (UInt64.ofNat card.val) = .error .sumOverflow := by
  have hstop : Word.add? (g.part card).start g.cardBytes = none := by
    rw [succ_card_mul] at h
    rw [Word.add?, toNat_start_part, toNat_cardBytes, Nat.add_assoc]
    exact if_neg (Nat.not_lt.2 h)
  rw [cardInterval, add?_begin]
  dsimp only
  rw [hstop]

/-- **What a card stands for is worked out** if it ends at an address. -/
theorem cardInterval_eq_ite (card : Fin g.count) : g.cardInterval (UInt64.ofNat card.val)
    = if g.covered.start.toNat + (card + 1) * Nat.pow 2 g.shift < UInt64.size
      then .ok (g.part card) else .error .sumOverflow := by
  split
  · rename_i h
    exact cardInterval_of_ends h
  · rename_i h
    exact cardInterval_eq_error (Nat.le_of_not_lt h)

/-- A card ends at an address if the last one does, or if it is not the last. -/
theorem ends_iff {card : Fin g.count} :
    g.covered.start.toNat + (card + 1) * Nat.pow 2 g.shift < UInt64.size ↔
      g.EndsInside ∨ card.val + 1 < g.count := by
  constructor
  · intro h
    rcases Nat.lt_or_eq_of_le (Nat.succ_le_of_lt card.isLt) with hnext | hlast
    · exact .inr hnext
    · rw [← Nat.succ_eq_add_one, hlast] at h
      exact .inl (endsInside_of_last h)
  · rintro (hend | hnext)
    · exact ends_before hend card.isLt
    · exact ends_of_succ_lt hnext

/-- **What a card stands for is worked out** unless that card is the last and ends past the last
address. -/
theorem exists_cardInterval_iff {card : Fin g.count} :
    (∃ r, g.cardInterval (UInt64.ofNat card.val) = .ok r) ↔
      g.EndsInside ∨ card.val + 1 < g.count := by
  rw [cardInterval_eq_ite, ← ends_iff]
  split
  · exact iff_of_true ⟨_, rfl⟩ ‹_›
  · refine iff_of_false ?_ ‹_›
    rintro ⟨r, hr⟩
    cases hr

/-- The only fault there is a sum that leaves the word. -/
theorem eq_of_cardInterval_eq_error {card : Fin g.count} {fault : Fault}
    (h : g.cardInterval (UInt64.ofNat card.val) = .error fault) : fault = .sumOverflow := by
  rw [cardInterval_eq_ite] at h
  split at h <;> cases h
  rfl

end Geometry

namespace CardTable

variable {t : CardTable}

/-- Values are worked out one after another if each of them is. -/
theorem exists_mapM_iff {α β : Type} {f : α → Except Fault β} {xs : List α} :
    (∃ ys, xs.mapM f = .ok ys) ↔ ∀ x ∈ xs, ∃ y, f x = .ok y := by
  induction xs with
  | nil => exact iff_of_true ⟨[], rfl⟩ fun _ h => absurd h List.not_mem_nil
  | cons x xs ih =>
    rw [List.forall_mem_cons, ← ih, List.mapM_cons]
    cases f x with
    | error fault => simp [bind, Except.bind]
    | ok y => cases xs.mapM f <;> simp [bind, Except.bind, pure, Except.pure]

/-- They stop only where one of them does. -/
theorem exists_of_mapM_eq_error {α β : Type} {f : α → Except Fault β} {xs : List α} {fault : Fault}
    (h : xs.mapM f = .error fault) : ∃ x ∈ xs, f x = .error fault := by
  induction xs with
  | nil => cases h
  | cons x xs ih =>
    rw [List.mapM_cons] at h
    cases hx : f x with
    | error other =>
      rw [hx] at h
      cases h
      exact ⟨x, List.mem_cons_self, hx⟩
    | ok y =>
      rw [hx] at h
      cases hrest : xs.mapM f with
      | error other =>
        rw [hrest] at h
        cases h
        obtain ⟨x', hx', hfault⟩ := ih hrest
        exact ⟨x', List.mem_cons_of_mem x hx', hfault⟩
      | ok ys =>
        rw [hrest] at h
        cases h

/-- **A scan comes through** unless the last card is dirty and ends past the last address. -/
theorem exists_scan_iff :
    (∃ rs, t.scan = .ok rs) ↔ t.geometry.EndsInside ∨ ¬t.Dirty (t.size - 1) := by
  unfold scan
  simp only [exists_mapM_iff, mem_dirtyCards, Geometry.exists_cardInterval_iff]
  constructor
  · intro h
    by_contra hnot
    rw [not_or, not_not] at hnot
    have hlt := lt_size_of_dirty hnot.2
    rcases h ⟨t.size - 1, hlt⟩ hnot.2 with hend | hnext
    · exact hnot.1 hend
    · have heq : t.size - 1 + 1 = t.geometry.count :=
        Nat.succ_pred_eq_of_pos (Nat.zero_lt_of_lt hlt)
      exact Nat.lt_irrefl _ (heq ▸ hnext)
  · refine fun h card hdirty => h.imp_right fun hclean => ?_
    -- a dirty card is not the last one, which is clean
    have hne : card.val ≠ t.size - 1 := fun heq => hclean (heq ▸ hdirty)
    have hlt : card.val < t.size := card.isLt
    unfold size at hne hlt
    omega

/-- It stops at a sum that leaves the word, and at nothing else. -/
theorem eq_of_scan_eq_error {fault : Fault} (h : t.scan = .error fault) :
    fault = .sumOverflow := by
  obtain ⟨card, -, hcard⟩ := exists_of_mapM_eq_error h
  exact Geometry.eq_of_cardInterval_eq_error hcard

/-- **What comes of working out the cards of a table** over a covered interval, and of scanning
it. -/
structure ScanLaw (covered : Interval) (size : UInt64) (t : CardTable) : Prop where
  /-- What a card stands for is worked out, except for the last card where the covered end cannot be
  rounded up to a whole card. -/
  part_iff (card : Fin t.size) :
    (∃ r, t.geometry.cardInterval (UInt64.ofNat card.val) = .ok r) ↔
      (Word.roundUp? covered.stop size).isSome = true ∨ card.val + 1 < t.size
  /-- There it stops at a sum that leaves the word, and at nothing else. -/
  part_stops {card : Fin t.size} {fault : Fault}
    (h : t.geometry.cardInterval (UInt64.ofNat card.val) = .error fault) : fault = .sumOverflow
  /-- A scan comes through, except where the last card is such a card and is dirty. -/
  scan_iff : (∃ rs, t.scan = .ok rs) ↔
    (Word.roundUp? covered.stop size).isSome = true ∨ ¬t.Dirty (t.size - 1)
  /-- There it stops at that sum as well. -/
  scan_stops {fault : Fault} (h : t.scan = .error fault) : fault = .sumOverflow

/-- **Scanning fails on the last card of the address space alone**, and if that card is dirty,
whatever the table was asked for before. -/
theorem scanLaw_after {covered : Interval} {size : UInt64} {scanning : Scanning}
    (h : ofCardSize covered size scanning = .ok t) (calls : List Call) :
    ScanLaw covered size (after calls t) := by
  obtain ⟨hcovered, hsize, -⟩ := of_ofCardSize h
  have hend : (after calls t).geometry.EndsInside ↔
      (Word.roundUp? covered.stop size).isSome = true := by
    rw [geometry_after, Geometry.endsInside_iff, ← hcovered, ← hsize]
    rfl
  constructor
  case part_iff =>
    intro card
    rw [← hend]
    exact Geometry.exists_cardInterval_iff
  case part_stops => exact fun hfault => Geometry.eq_of_cardInterval_eq_error hfault
  case scan_iff =>
    rw [← hend]
    exact exists_scan_iff
  case scan_stops => exact eq_of_scan_eq_error

/-- Eight cards up to the last address, the first of them dirty: a scan comes through. -/
theorem scan_below_last :
    ∃ t u, ofCardSize ⟨0xfffffffffffff000, 0xffffffffffffffff, by decide⟩ 512 .concurrent = .ok t ∧
      after [.mark ⟨0xfffffffffffff000, 0xfffffffffffff001, by decide⟩] t = u ∧ u.Dirty 0 ∧
      ScanLaw ⟨0xfffffffffffff000, 0xffffffffffffffff, by decide⟩ 512 u ∧
      ∃ rs, u.scan = .ok rs := by
  obtain ⟨t, u, ht, rfl, hdirty, hclean⟩ : ∃ t u,
      ofCardSize ⟨0xfffffffffffff000, 0xffffffffffffffff, by decide⟩ 512 .concurrent = .ok t ∧
      after [.mark ⟨0xfffffffffffff000, 0xfffffffffffff001, by decide⟩] t = u ∧
      u.Dirty 0 ∧ ¬u.Dirty (u.size - 1) := ⟨_, _, rfl, rfl, by decide, by decide⟩
  have hlaw := scanLaw_after ht [.mark ⟨0xfffffffffffff000, 0xfffffffffffff001, by decide⟩]
  exact ⟨t, _, ht, rfl, hdirty, hlaw, hlaw.scan_iff.2 (.inr hclean)⟩

/-- **One card up to the last address, and it is dirty**: neither a scan of the table nor working
out what the card stands for comes through, though that is just the covered interval. -/
theorem scan_stops_at_last :
    ∃ t, ofCardSize ⟨0xfffffffffffffe00, 0xffffffffffffffff, by decide⟩ 512 .stopTheWorld = .ok t ∧
      t.size = 1 ∧ t.geometry.cardInterval 0 = .error .sumOverflow ∧
      (after [.mark t.covered] t).scan = .error .sumOverflow :=
  ⟨_, rfl, rfl, rfl, rfl⟩

end CardTable

end CardBarrier
