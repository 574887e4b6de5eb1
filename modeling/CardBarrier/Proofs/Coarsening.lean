import CardBarrier.Proofs.TableHistory

/-!
# Coarser cards lose nothing

Two tables over the same part of the heap may have cards of different sizes. Both sizes are powers
of two and both divisions begin at the same address, so every small card lies in one large card,
and a large card is made up of the small ones inside it (`Geometry.Inside`). An interval therefore
meets a large card exactly if it meets one of these (`Geometry.meets_iff_exists_inside`).

Asked for the same marks, the two tables stop at the same ones, and a large card is dirty where a
small one inside it is. So nothing that is found under small cards is missed under large ones;
there is only more of it. The collector may start over, which cleans all cards of both, but clearing
an interval is another matter: where it cleans a large card only some of the small ones inside
may have been meant.
-/

namespace CardBarrier

namespace Geometry

variable {g h : Geometry} {r : Interval} {i j : Nat} {a b : Address}

/-- **A card of one division lies inside a card of another**: it is there, and the other holds
every address that it holds. -/
def Inside (g h : Geometry) (i j : Nat) : Prop := i < g.count ∧ ∀ a, g.Holds i a → h.Holds j a

/-- **The one division is as fine as the other**: it is of the same covered interval, and into
cards that are no larger. -/
structure Refines (g h : Geometry) : Prop where
  covered : g.covered = h.covered
  shift_le : g.shift ≤ h.shift

/-- A large card is so many small ones, and its number is theirs divided by that. -/
theorem Refines.cardNumber_eq (hgh : g.Refines h) (a : Address) :
    h.cardNumber a = g.cardNumber a / Nat.pow 2 (h.shift - g.shift) := by
  have hsize : Nat.pow 2 h.shift = Nat.pow 2 g.shift * Nat.pow 2 (h.shift - g.shift) := by
    show 2 ^ h.shift = 2 ^ g.shift * 2 ^ (h.shift - g.shift)
    rw [← Nat.pow_add, Nat.add_sub_cancel' hgh.shift_le]
  unfold cardNumber
  rw [hgh.covered, hsize, Nat.div_div_eq_div_mul]

/-- **The small card of an address lies inside the large one.** -/
theorem Refines.inside_cardNumber (hgh : g.Refines h) (ha : a ∈ g.covered) :
    g.Inside h (g.cardNumber a) (h.cardNumber a) := by
  refine ⟨g.cardNumber_lt ha, ?_⟩
  intro b hb
  obtain ⟨hcovered, hnumber⟩ := holds_iff.1 hb
  refine holds_iff.2 ⟨hgh.covered ▸ hcovered, ?_⟩
  rw [hgh.cardNumber_eq, hgh.cardNumber_eq, hnumber]

/-- **An interval meets a large card if and only if it meets a small one inside.** -/
theorem Refines.meets_iff_exists_inside (hgh : g.Refines h) :
    h.Meets j r ↔ ∃ i, g.Inside h i j ∧ g.Meets i r := by
  constructor
  · rintro ⟨a, ha, hhold⟩
    obtain ⟨hcovered, rfl⟩ := holds_iff.1 hhold
    rw [← hgh.covered] at hcovered
    exact ⟨g.cardNumber a, hgh.inside_cardNumber hcovered, a, ha, holds_iff.2 ⟨hcovered, rfl⟩⟩
  · rintro ⟨i, ⟨-, hinside⟩, a, ha, hhold⟩
    exact ⟨a, ha, hinside a hhold⟩

/-- **Divisions of one interval by sizes in order** refine each other. -/
theorem refines_of_ofCardSize {covered : Interval} {size size' : UInt64}
    (hg : ofCardSize covered size = .ok g) (hh : ofCardSize covered size' = .ok h)
    (hle : size ≤ size') : g.Refines h := by
  obtain ⟨hcovered, rfl⟩ := of_ofCardSize hg
  obtain ⟨hcovered', rfl⟩ := of_ofCardSize hh
  refine ⟨hcovered.trans hcovered'.symm, ?_⟩
  rw [UInt64.le_iff_toNat_le, toNat_cardBytes, toNat_cardBytes] at hle
  exact (Nat.pow_le_pow_iff_right (by decide)).1 hle

end Geometry

namespace CardTable

variable {g h : Geometry} {t u : CardTable} {c : Call} {i j : Nat}

/-- **A call comes to the same end on tables over the same part of the heap**, however large
their cards are. -/
theorem Call.outcome_eq_of_covered (htu : t.covered = u.covered) (c : Call) :
    (c.perform.run t).1 = (c.perform.run u).1 := by
  cases hc : c.puts? with
  | none => rw [run_of_puts_eq_none hc, run_of_puts_eq_none hc]
  | some puts =>
    cases hr : t.covered.includes puts.2 with
    | true =>
      obtain ⟨t', -, ht⟩ := run_of_includes hc hr
      obtain ⟨u', -, hu⟩ := run_of_includes hc (htu ▸ hr)
      rw [ht, hu]
    | false => rw [run_of_not_includes hc hr, run_of_not_includes hc (htu ▸ hr), htu]

/-- **A call marks a large card if and only if it marks a small one inside.** -/
theorem Call.marks_iff_exists_inside (hgh : g.Refines h) (c : Call) :
    c.Marks h j ↔ ∃ i, g.Inside h i j ∧ c.Marks g i := by
  cases c with
  | mark r | forceMark r =>
    show h.covered.includes r = true ∧ h.Meets j r ↔
      ∃ i, g.Inside h i j ∧ g.covered.includes r = true ∧ g.Meets i r
    rw [hgh.meets_iff_exists_inside, hgh.covered]
    constructor
    · rintro ⟨hcovered, i, hinside, hmeets⟩
      exact ⟨i, hinside, hcovered, hmeets⟩
    · rintro ⟨i, hinside, hcovered, hmeets⟩
      exact ⟨hcovered, i, hinside, hmeets⟩
  | clear r | reset | moveYoung young => simp [Marks]

/-- Where no interval is cleared, a call clears every card or none. -/
theorem Call.clears_congr (hc : ∀ r, c ≠ .clear r) : c.Clears g i ↔ c.Clears h j := by
  cases c with
  | clear r => exact absurd rfl (hc r)
  | mark r | forceMark r | reset | moveYoung young => rfl

/-- **What remains of calls on a large card** is what remains of them on a small one inside. -/
theorem remains_iff_exists_inside {calls : List Call} (hgh : g.Refines h)
    (hcalls : ∀ r, Call.clear r ∉ calls) :
    Remains (·.Marks h j) (·.Clears h j) calls ↔
      ∃ i, g.Inside h i j ∧ Remains (·.Marks g i) (·.Clears g i) calls := by
  have hlater : ∀ {before after : List Call} {x y : Call}, calls = before ++ x :: after →
      y ∈ after → ∀ r, y ≠ .clear r := by
    intro before after x y hcut hy r heq
    refine hcalls r ?_
    rw [hcut, ← heq]
    exact List.mem_append_right _ (List.mem_cons_of_mem _ hy)
  constructor
  · rintro ⟨before, x, after, hcut, hmarks, hclears⟩
    obtain ⟨i, hinside, hmarks⟩ := (Call.marks_iff_exists_inside hgh x).1 hmarks
    refine ⟨i, hinside, before, x, after, hcut, hmarks, ?_⟩
    intro y hy hclear
    exact hclears y hy ((Call.clears_congr (hlater hcut hy)).1 hclear)
  · rintro ⟨i, hinside, before, x, after, hcut, hmarks, hclears⟩
    refine ⟨before, x, after, hcut, (Call.marks_iff_exists_inside hgh x).2 ⟨i, hinside, hmarks⟩, ?_⟩
    intro y hy hclear
    exact hclears y hy ((Call.clears_congr (hlater hcut hy)).1 hclear)

/-- **What a table with large cards makes of calls**, next to one with small cards. -/
structure Coarser (calls : List Call) (t u : CardTable) : Prop where
  /-- Each call comes through on both, or stops at the same fault on both. -/
  outcome_eq {before rest : List Call} {c : Call} (hcalls : calls = before ++ c :: rest) :
    (c.perform.run (after before t)).1 = (c.perform.run (after before u)).1
  /-- A large card is dirty if and only if a small one inside it is. -/
  dirty_iff (j : Nat) : (after calls u).Dirty j ↔
    ∃ i, t.geometry.Inside u.geometry i j ∧ (after calls t).Dirty i
  /-- What is reported dirty under small cards is reported dirty under large ones. -/
  reported {a : Address} (ha : (after calls t).isDirty a = .ok true) :
    (after calls u).isDirty a = .ok true

/-- **Coarser cards lose nothing.** Two tables that are set up over the same part of the heap are
asked for the same marks, and may be cleaned altogether in between: the one with the larger cards
stops where the other does, and has a card dirty if and only if the other has one dirty inside. -/
theorem coarser_after {covered : Interval} {size size' : UInt64} {scanning scanning' : Scanning}
    (ht : ofCardSize covered size scanning = .ok t)
    (hu : ofCardSize covered size' scanning' = .ok u) (hle : size ≤ size') {calls : List Call}
    (hcalls : ∀ r, Call.clear r ∉ calls) : Coarser calls t u := by
  have hrefines : t.geometry.Refines u.geometry :=
    Geometry.refines_of_ofCardSize (geometry_of_ofCardSize ht) (geometry_of_ofCardSize hu) hle
  have hcovered : ∀ cs, (after cs t).covered = (after cs u).covered := by
    intro cs
    show (after cs t).geometry.covered = (after cs u).geometry.covered
    rw [geometry_after, geometry_after, hrefines.covered]
  have hdirty : ∀ j, (after calls u).Dirty j ↔
      ∃ i, t.geometry.Inside u.geometry i j ∧ (after calls t).Dirty i := by
    intro j
    rw [dirty_after calls ((of_ofCardSize hu).2.2 j), remains_iff_exists_inside hrefines hcalls]
    simp only [dirty_after calls ((of_ofCardSize ht).2.2 _)]
  refine ⟨fun {before _ c} _ => c.outcome_eq_of_covered (hcovered before), hdirty, ?_⟩
  intro a ha
  by_cases hin : a ∈ (after calls t).covered
  · rw [isDirty_of_mem hin, geometry_after, Except.ok.injEq, decide_eq_true_iff] at ha
    rw [isDirty_of_mem (hcovered calls ▸ hin), geometry_after, Except.ok.injEq, decide_eq_true_iff]
    rw [CardTable.covered, geometry_after] at hin
    exact (hdirty _).2 ⟨_, hrefines.inside_cardNumber hin, ha⟩
  · -- an address that is not covered has no card to be dirty
    unfold isDirty at ha
    rw [Geometry.cardOf_of_not_mem hin] at ha
    cases ha

/-- Cards of 64 bytes next to cards of 512, the last of them cut short. One mark is over two small
cards that lie in different large ones, one leaves the covered interval, and one is made after all
cards were cleaned. -/
theorem coarser_cut_short :
    ∃ t u, ofCardSize ⟨0, 1000, by decide⟩ 64 .stopTheWorld = .ok t ∧
      ofCardSize ⟨0, 1000, by decide⟩ 512 .concurrent = .ok u ∧
      Coarser [.mark ⟨511, 513, by decide⟩, .forceMark ⟨900, 1001, by decide⟩, .reset,
        .forceMark ⟨960, 1000, by decide⟩] t u := by
  obtain ⟨t, ht⟩ : ∃ t, ofCardSize ⟨0, 1000, by decide⟩ 64 .stopTheWorld = .ok t := ⟨_, rfl⟩
  obtain ⟨u, hu⟩ : ∃ u, ofCardSize ⟨0, 1000, by decide⟩ 512 .concurrent = .ok u := ⟨_, rfl⟩
  refine ⟨t, u, ht, hu, coarser_after ht hu (by decide) ?_⟩
  intro r hr
  simp at hr

end CardTable

end CardBarrier
