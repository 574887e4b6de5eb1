import Mathlib.Data.Set.Card
import CardBarrier.Card.Store
import CardBarrier.Proofs.Meeting

/-!
# What a card table makes of its history

A table is asked for many things in its life, by the barrier and by the collector, and some of
them stop at a fault. What it has to say afterwards is a matter of what it was asked for alone:
a card is dirty if and only if some call marked it and no later one cleared it
(`CardTable.dirty_after`). Which cards a call marks or clears is read off its interval, by the
addresses that it holds and the covered ones that the card holds, and an interval that leaves the
covered part of the heap marks and clears nothing.

There are three ways to look at a table: asking after one address, counting the dirty cards, and
scanning them. All three see that same state (`CardTable.Law`). A scan works out where each
card ends, even where the covered interval ends in the middle of it, so the last card has to end
at an address.
-/

namespace CardBarrier

/-! ## What remains

Of what was done some is undone later. -/

/-- **Something remains** if it was done, and not undone after that. -/
def Remains {α : Type} (does undoes : α → Prop) (xs : List α) : Prop :=
  ∃ before x after, xs = before ++ x :: after ∧ does x ∧ ∀ y ∈ after, ¬undoes y

section Remains

variable {α : Type} {does undoes : α → Prop} {xs : List α} {x : α}

theorem not_remains_nil : ¬Remains does undoes [] := by
  rintro ⟨before, x, after, h, -⟩
  exact List.cons_ne_nil _ _ (List.append_eq_nil_iff.1 h.symm).2

/-- **What remains after one thing more**: what did before and is not undone by it, and what it
does. -/
theorem remains_append :
    Remains does undoes (xs ++ [x]) ↔ Remains does undoes xs ∧ ¬undoes x ∨ does x := by
  constructor
  · rintro ⟨before, y, after, h, hdoes, hundoes⟩
    -- either it was done by the last, or by one of those before
    obtain rfl | ⟨after, last, rfl⟩ := List.eq_nil_or_concat after
    · obtain ⟨rfl, heq⟩ := List.append_inj' h rfl
      obtain rfl : x = y := by simpa using heq
      exact .inr hdoes
    · rw [List.concat_eq_append, ← List.cons_append, ← List.append_assoc] at h
      obtain ⟨rfl, heq⟩ := List.append_inj' h rfl
      obtain rfl : x = last := by simpa using heq
      rw [List.concat_eq_append] at hundoes
      refine .inl ⟨⟨before, y, after, rfl, hdoes, fun z hz => ?_⟩, ?_⟩
      · exact hundoes z (List.mem_append_left _ hz)
      · exact hundoes x (List.mem_append_right _ (List.mem_singleton_self x))
  · rintro (⟨⟨before, y, after, rfl, hdoes, hundoes⟩, hlast⟩ | hdoes)
    · refine ⟨before, y, after ++ [x], by simp, hdoes, fun z hz => ?_⟩
      rcases List.mem_append.1 hz with hz | hz
      · exact hundoes z hz
      · rw [List.mem_singleton.1 hz]
        exact hlast
    · exact ⟨xs, x, [], rfl, hdoes, fun _ h => absurd h List.not_mem_nil⟩

end Remains

/-! ## Where the cards of an interval are -/

namespace Geometry

variable {g : Geometry} {r : Interval} {i first n : Nat} {a : Address}

/-- The cards that are found are there. -/
theorem cardsOf_le_count (h : g.cardsOf r = .ok (first, n)) : first + n ≤ g.count := by
  rcases cardsOf_eq_ok_iff.1 h with ⟨-, rfl, rfl⟩ | ⟨-, hstart, hlast, rfl, rfl⟩
  · exact Nat.zero_le _
  · have hfirst := g.cardNumber_lt hstart
    have hend := g.cardNumber_lt hlast
    omega

/-- **An interval that leaves the covered one** has no cards: its first address is not covered,
or else its last is not. -/
theorem cardsOf_eq_error (h : g.covered.includes r = false) :
    g.cardsOf r = .error (.uncovered (if r.start ∈ g.covered then r.stop - 1 else r.start)
      g.covered) := by
  rw [Interval.includes, Bool.or_eq_false_iff] at h
  obtain ⟨hr, hout⟩ := h
  unfold cardsOf
  rw [hr, if_neg Bool.false_ne_true]
  split
  · rename_i hstart
    have hlast : r.stop - 1 ∉ g.covered := by
      intro hlast
      rw [Interval.mem_iff_toNat] at hstart hlast
      rw [Interval.toNat_last hr] at hlast
      have hlt := Interval.start_lt_stop hr
      rw [Bool.and_eq_false_iff, decide_eq_false_iff_not, decide_eq_false_iff_not,
        UInt64.le_iff_toNat_le, UInt64.le_iff_toNat_le] at hout
      omega
    rw [cardOf_of_mem hstart, cardOf_of_not_mem hlast]
    rfl
  · rename_i hstart
    rw [cardOf_of_not_mem hstart]
    rfl

/-- **A covered address has one card.** -/
theorem holds_iff_eq_cardNumber (h : a ∈ g.covered) : g.Holds i a ↔ i = g.cardNumber a := by
  rw [holds_iff, and_iff_right h, eq_comm]

end Geometry

/-! ## Calls -/

namespace CardTable

/-- **What may be asked of a card table**, by the barrier or by the collector. -/
inductive Call where
  /-- To mark an interval on the store path. -/
  | mark (r : Interval)
  /-- To mark an interval by force. -/
  | forceMark (r : Interval)
  /-- To clear an interval. -/
  | clear (r : Interval)
  /-- To clear every card. -/
  | reset
  /-- To say where young objects are from now on. -/
  | moveYoung (young : Interval)

namespace Call

/-- **What a call does.** -/
def perform : Call → Act CardTable Unit
  | mark r => RememberedSet.mark r
  | forceMark r => RememberedSet.forceMark r
  | clear r => TableBacked.update (CardTable.clear r)
  | reset => TableBacked.update (.ok ∘ CardTable.reset)
  | moveYoung young => TableBacked.update (.ok ∘ CardTable.withYoung young)

/-- The state into which a call puts the cards of an interval, and the interval. -/
def puts? : Call → Option (CardState × Interval)
  | mark r | forceMark r => some (.dirty, r)
  | clear r => some (.clean, r)
  | _ => none

/-- **The cards that a call marks**: those that its interval meets, if that is covered. -/
def Marks (g : Geometry) (i : Nat) : Call → Prop
  | mark r | forceMark r => g.covered.includes r = true ∧ g.Meets i r
  | _ => False

/-- **The cards that a call clears.** -/
def Clears (g : Geometry) (i : Nat) : Call → Prop
  | clear r => g.covered.includes r = true ∧ g.Meets i r
  | reset => True
  | _ => False

end Call

/-- **The table after calls.** One that stops at a fault does not stop those after it. -/
def after (calls : List Call) (t : CardTable) : CardTable :=
  calls.foldl (fun t c => (c.perform.run t).2) t

section Call

variable {t : CardTable} {c : Call} {state : CardState} {r : Interval} {i : Nat}

theorem after_append (calls : List Call) (c : Call) (t : CardTable) :
    after (calls ++ [c]) t = (c.perform.run (after calls t)).2 := by
  rw [after, List.foldl_append]
  rfl

/-- A call that puts cards into a state does that and no more. -/
theorem Call.perform_of_puts (hc : c.puts? = some (state, r)) :
    c.perform = Act.update (put state r) := by
  cases c <;> cases hc <;> rfl

/-- **A call over a covered interval comes through.** -/
theorem Call.run_of_includes (hc : c.puts? = some (state, r))
    (hr : t.covered.includes r = true) :
    ∃ u, t.put state r = .ok u ∧ c.perform.run t = (.ok (), u) := by
  obtain ⟨first, n, hcards⟩ := Geometry.exists_cardsOf_of_includes (g := t.geometry) hr
  refine ⟨{ t with cards := paint state n first t.cards }, ?_, ?_⟩
  · rw [put, hcards]
    rfl
  · rw [perform_of_puts hc, Act.update, Act.run_ofFun, put, hcards]
    rfl

/-- **A call over any other changes nothing**, and says which address is not covered. -/
theorem Call.run_of_not_includes (hc : c.puts? = some (state, r))
    (hr : t.covered.includes r = false) :
    c.perform.run t = (.error (.uncovered (if r.start ∈ t.covered then r.stop - 1 else r.start)
      t.covered), t) := by
  rw [perform_of_puts hc, Act.update, Act.run_ofFun, put, Geometry.cardsOf_eq_error hr]
  rfl

/-- **A call over an empty interval changes nothing**, wherever the interval lies. -/
theorem Call.run_of_isEmpty (hc : c.puts? = some (state, r)) (hr : r.isEmpty = true) :
    c.perform.run t = (.ok (), t) := by
  have hcards : t.geometry.cardsOf r = .ok (0, 0) :=
    Geometry.cardsOf_eq_ok_iff.2 (.inl ⟨hr, rfl, rfl⟩)
  rw [perform_of_puts hc, Act.update, Act.run_ofFun, put, hcards]
  rfl

/-- Calls without an interval come through. -/
theorem Call.run_of_puts_eq_none (hc : c.puts? = none) : (c.perform.run t).1 = .ok () := by
  cases c <;> first | rfl | cases hc

/-- No call changes how the heap is divided. -/
theorem geometry_perform : (c.perform.run t).2.geometry = t.geometry := by
  cases hc : c.puts? with
  | none => cases c <;> first | rfl | cases hc
  | some puts =>
    cases hr : t.covered.includes puts.2 with
    | true =>
      obtain ⟨u, hput, hrun⟩ := Call.run_of_includes hc hr
      rw [hrun]
      exact (put_frame hput).1
    | false => rw [Call.run_of_not_includes hc hr]

/-- A call over an interval marks or clears the cards that the interval meets, if it is covered. -/
theorem Call.marks_iff_of_puts {g : Geometry} (hc : c.puts? = some (state, r)) :
    (c.Marks g i ↔ state = .dirty ∧ g.covered.includes r = true ∧ g.Meets i r) ∧
      (c.Clears g i ↔ state = .clean ∧ g.covered.includes r = true ∧ g.Meets i r) := by
  cases c <;> cases hc <;> simp [Marks, Clears]

/-- **What a call does to a card**: nothing, unless it marks or clears it. -/
theorem dirty_perform : (c.perform.run t).2.Dirty i ↔
    t.Dirty i ∧ ¬c.Clears t.geometry i ∨ c.Marks t.geometry i := by
  cases hc : c.puts? with
  | none =>
    cases c with
    | reset => exact iff_of_false not_dirty_reset (by simp [Call.Clears, Call.Marks])
    | moveYoung young =>
      show t.Dirty i ↔ _
      simp [Call.Clears, Call.Marks]
    | _ => cases hc
  | some puts =>
    obtain ⟨state, r⟩ := puts
    rw [(Call.marks_iff_of_puts hc).1, (Call.marks_iff_of_puts hc).2]
    cases hr : t.covered.includes r with
    | false =>
      have hout : t.geometry.covered.includes r = false := hr
      rw [Call.run_of_not_includes hc hr, hout]
      simp
    | true =>
      have hin : t.geometry.covered.includes r = true := hr
      obtain ⟨u, hput, hrun⟩ := Call.run_of_includes hc hr
      rw [hrun, hin]
      cases state with
      | dirty => simpa using dirty_mark hput
      | clean => simpa using dirty_clear hput

theorem geometry_after (calls : List Call) (t : CardTable) :
    (after calls t).geometry = t.geometry := by
  induction calls using List.reverseRecOn with
  | nil => rfl
  | append_singleton calls c ih => rw [after_append, geometry_perform, ih]

/-- **A card is dirty if and only if some call marked it and no later one cleared it.** -/
theorem dirty_after (calls : List Call) (hclean : ¬t.Dirty i) :
    (after calls t).Dirty i ↔ Remains (·.Marks t.geometry i) (·.Clears t.geometry i) calls := by
  induction calls using List.reverseRecOn with
  | nil => exact iff_of_false hclean not_remains_nil
  | append_singleton calls c ih =>
    rw [after_append, dirty_perform, geometry_after, remains_append, ih]

end Call

/-! ## Looking at a table -/

instance (t : CardTable) (i : Nat) : Decidable (t.Dirty i) :=
  inferInstanceAs (Decidable (t.cards[i]? = some .dirty))

variable {t : CardTable} {a : Address} {i : Nat}

theorem lt_size_of_dirty (h : t.Dirty i) : i < t.size :=
  (Vector.getElem?_eq_some_iff.1 h).1

theorem dirty_iff_getElem (hi : i < t.geometry.count) : t.Dirty i ↔ t.cards[i] = .dirty := by
  unfold Dirty
  rw [Vector.getElem?_eq_getElem hi, Option.some_inj]

/-- **Asking after an address** tells the state of its card. -/
theorem isDirty_of_mem (h : a ∈ t.covered) :
    t.isDirty a = .ok (decide (t.Dirty (t.geometry.cardNumber a))) := by
  unfold isDirty
  rw [Geometry.cardOf_of_mem h]
  have hiff := dirty_iff_getElem (t.geometry.cardNumber_lt h)
  show Except.ok (t.cards[_] == CardState.dirty) = _
  rw [decide_eq_decide.2 hiff]
  rfl

theorem mem_dirtyCards {card : Fin t.geometry.count} : card ∈ t.dirtyCards ↔ t.Dirty card := by
  rw [dirtyCards, List.mem_filter, beq_iff_eq, dirty_iff_getElem card.isLt]
  exact and_iff_right (List.mem_finRange card)

theorem pairwise_dirtyCards (t : CardTable) : t.dirtyCards.Pairwise (· < ·) :=
  (List.pairwise_lt_finRange _).filter _

/-- By their numbers they are those that are dirty, in order. -/
theorem map_val_dirtyCards (t : CardTable) :
    t.dirtyCards.map Fin.val = (List.range t.size).filter fun i => t.Dirty i := by
  have hdirty : (fun card : Fin t.geometry.count => t.cards[card] == .dirty)
      = (fun i => decide (t.Dirty i)) ∘ Fin.val := by
    funext card
    rw [Function.comp, Bool.eq_iff_iff, beq_iff_eq, decide_eq_true_iff,
      dirty_iff_getElem card.isLt]
    rfl
  rw [dirtyCards, hdirty, ← List.filter_map, List.map_coe_finRange_eq_range, size]

/-- **Counting** counts each dirty card once. -/
theorem length_dirtyCards (t : CardTable) : t.dirtyCards.length = {i | t.Dirty i}.ncard := by
  have hset : {i | t.Dirty i} = ↑((Finset.range t.size).filter fun i => t.Dirty i) := by
    ext i
    rw [Set.mem_ofPred_eq, Finset.mem_coe, Finset.mem_filter, Finset.mem_range]
    exact (and_iff_right_of_imp lt_size_of_dirty).symm
  have hlist : t.dirtyCards.length = ((List.range t.size).filter fun i => t.Dirty i).length := by
    rw [← map_val_dirtyCards, List.length_map]
  rw [hset, Set.ncard_coe_finset, hlist]
  rfl

end CardTable

theorem Word.toNat_lesser (a b : UInt64) :
    (if a ≤ b then a else b).toNat = Nat.min a.toNat b.toNat := by
  split
  · rename_i h
    exact (Nat.min_eq_left (UInt64.le_iff_toNat_le.1 h)).symm
  · rename_i h
    rw [UInt64.le_iff_toNat_le] at h
    exact (Nat.min_eq_right (Nat.le_of_not_le h)).symm

/-! ## Where a card ends

A card stands for a whole card size, except that the last ends where the covered interval
does. -/

namespace Geometry

variable {g : Geometry} {i : Nat} {a : Address}

/-- **The last card ends at an address**, though the covered interval may end before it. -/
def EndsInside (g : Geometry) : Prop :=
  ∃ k, g.covered.stop.toNat ≤ k * Nat.pow 2 g.shift ∧ k * Nat.pow 2 g.shift < UInt64.size

/-- Every card begins before the covered interval ends. -/
theorem begins_before (hi : i < g.count) :
    g.covered.start.toNat + i * Nat.pow 2 g.shift < g.covered.stop.toNat := by
  have hpos := g.cardSize_pos
  have hlen := Interval.toNat_length g.covered
  unfold count at hi
  rw [← Nat.succ_le_iff, Nat.le_div_iff_mul_le hpos, Nat.succ_mul] at hi
  have hle := UInt64.le_iff_toNat_le.1 g.covered.start_le_stop
  omega

theorem toNat_begin (hi : i < g.count) :
    (UInt64.ofNat (g.covered.start.toNat + i * Nat.pow 2 g.shift)).toNat
      = g.covered.start.toNat + i * Nat.pow 2 g.shift :=
  UInt64.toNat_ofNat_of_lt' (Nat.lt_trans (begins_before hi) g.covered.stop.toNat_lt)

theorem toNat_end (g : Geometry) (n : Nat) :
    (UInt64.ofNat (min n g.covered.stop.toNat)).toNat = min n g.covered.stop.toNat :=
  UInt64.toNat_ofNat_of_lt' (Nat.lt_of_le_of_lt (Nat.min_le_right _ _) g.covered.stop.toNat_lt)

/-- **The part of the heap that a card stands for**, by its bounds. -/
def part (g : Geometry) (card : Fin g.count) : Interval where
  start := UInt64.ofNat (g.covered.start.toNat + card * Nat.pow 2 g.shift)
  stop := UInt64.ofNat
    (min (g.covered.start.toNat + (card + 1) * Nat.pow 2 g.shift) g.covered.stop.toNat)
  start_le_stop := by
    have hbegins := begins_before card.isLt
    have hsucc := Nat.succ_mul card.val (Nat.pow 2 g.shift)
    rw [UInt64.le_iff_toNat_le, toNat_begin card.isLt, toNat_end]
    simp only [Nat.succ_eq_add_one] at hsucc
    omega

theorem toNat_start_part (card : Fin g.count) :
    (g.part card).start.toNat = g.covered.start.toNat + card * Nat.pow 2 g.shift :=
  toNat_begin card.isLt

theorem toNat_stop_part (card : Fin g.count) : (g.part card).stop.toNat
    = min (g.covered.start.toNat + (card + 1) * Nat.pow 2 g.shift) g.covered.stop.toNat :=
  toNat_end g _

/-- **It is what the card holds.** -/
theorem mem_part {card : Fin g.count} : a ∈ g.part card ↔ g.Holds card a := by
  have hbegins := begins_before card.isLt
  rw [Interval.mem_iff_toNat, Holds, Interval.mem_iff_toNat, toNat_start_part, toNat_stop_part]
  omega

theorem start_part_lt {card other : Fin g.count} (h : card < other) :
    (g.part card).start < (g.part other).start := by
  rw [UInt64.lt_iff_toNat_lt, toNat_start_part, toNat_start_part]
  exact Nat.add_lt_add_left (Nat.mul_lt_mul_of_pos_right h g.cardSize_pos) _

/-- **A card ends at an address** if the last one does. -/
theorem ends_before (hend : g.EndsInside) (hi : i < g.count) :
    g.covered.start.toNat + (i + 1) * Nat.pow 2 g.shift < UInt64.size := by
  obtain ⟨k, hstop, hk⟩ := hend
  obtain ⟨j, hj⟩ := g.start_aligned
  have hbegins := begins_before hi
  rw [hj, Nat.mul_comm _ j, ← Nat.add_mul] at hbegins ⊢
  -- the card begins before the last one ends, and both are whole card sizes from zero
  have hlt := Nat.lt_of_mul_lt_mul_right (Nat.lt_of_lt_of_le hbegins hstop)
  refine Nat.lt_of_le_of_lt (Nat.mul_le_mul_right _ ?_) hk
  omega

theorem toNat_shiftLeft_shift (h : i * Nat.pow 2 g.shift < UInt64.size) :
    (UInt64.ofNat i <<< UInt64.ofNat g.shift).toNat = i * Nat.pow 2 g.shift := by
  have hi : i < UInt64.size :=
    Nat.lt_of_le_of_lt (Nat.le_mul_of_pos_right i g.cardSize_pos) h
  have hshift : g.shift < UInt64.size := Nat.lt_trans g.shift_lt (by decide)
  rw [UInt64.toNat_shiftLeft, UInt64.toNat_ofNat_of_lt' hi, UInt64.toNat_ofNat_of_lt' hshift,
    Nat.mod_eq_of_lt g.shift_lt, Nat.shiftLeft_eq]
  exact Nat.mod_eq_of_lt h

/-- Where a card begins is an address. -/
theorem add?_begin (card : Fin g.count) :
    Word.add? g.covered.start (UInt64.ofNat card.val <<< UInt64.ofNat g.shift)
      = some (g.part card).start := by
  have hbegins := Nat.lt_trans (begins_before card.isLt) g.covered.stop.toNat_lt
  refine Word.add?_of_toNat ?_
  rw [toNat_shiftLeft_shift (Nat.lt_of_le_of_lt (Nat.le_add_left _ _) hbegins), toNat_start_part]

/-- **A card is worked out to stand for that part** if it ends at an address. -/
theorem cardInterval_of_ends {card : Fin g.count}
    (hends : g.covered.start.toNat + (card + 1) * Nat.pow 2 g.shift < UInt64.size) :
    g.cardInterval (UInt64.ofNat card.val) = .ok (g.part card) := by
  have hsucc : (card.val + 1) * Nat.pow 2 g.shift
      = card.val * Nat.pow 2 g.shift + Nat.pow 2 g.shift := Nat.succ_mul _ _
  have hstop : Word.add? (g.part card).start g.cardBytes
      = some (UInt64.ofNat (g.covered.start.toNat + (card + 1) * Nat.pow 2 g.shift)) := by
    refine Word.add?_of_toNat ?_
    rw [UInt64.toNat_ofNat_of_lt' hends, toNat_cardBytes, toNat_start_part, hsucc, Nat.add_assoc]
  have hmin : (if UInt64.ofNat (g.covered.start.toNat + (card + 1) * Nat.pow 2 g.shift)
        ≤ g.covered.stop
      then UInt64.ofNat (g.covered.start.toNat + (card + 1) * Nat.pow 2 g.shift)
      else g.covered.stop) = (g.part card).stop := by
    apply UInt64.toNat_inj.1
    rw [Word.toNat_lesser, UInt64.toNat_ofNat_of_lt' hends, toNat_stop_part]
  unfold cardInterval
  rw [add?_begin]
  dsimp only
  rw [hstop]
  exact (congrArg (Interval.ofBounds _) hmin).trans (Interval.ofBounds_self _)

/-- Every card is, if the last one ends at an address. -/
theorem cardInterval_eq (hend : g.EndsInside) (card : Fin g.count) :
    g.cardInterval (UInt64.ofNat card.val) = .ok (g.part card) :=
  cardInterval_of_ends (ends_before hend card.isLt)

/-- **A division that fits** is of the interval and into cards of the size that were asked
for. -/
theorem of_ofCardSize {covered : Interval} {size : UInt64} (h : ofCardSize covered size = .ok g) :
    g.covered = covered ∧ g.cardBytes = size := by
  unfold ofCardSize at h
  split at h
  · rename_i hsize
    split at h
    · cases h
      refine ⟨rfl, UInt64.toNat_inj.1 ?_⟩
      rw [toNat_cardBytes]
      exact ((Word.isPowerOfTwo_iff size).1 hsize.1).symm
    · cases h
  · cases h

end Geometry

/-! ## Scanning -/

namespace CardTable

/-- What is worked out for each of some values is worked out for all of them. -/
theorem mapM_eq_ok {α β : Type} {f : α → Except Fault β} {g : α → β} {xs : List α}
    (h : ∀ x ∈ xs, f x = .ok (g x)) : xs.mapM f = .ok (xs.map g) := by
  induction xs with
  | nil => rfl
  | cons x xs ih =>
    rw [List.forall_mem_cons] at h
    rw [List.mapM_cons, h.1, ih h.2]
    rfl

/-- **A scan reports what the dirty cards stand for**, in their order, if they end at addresses. -/
theorem scan_eq {t : CardTable} (hend : t.geometry.EndsInside) :
    t.scan = .ok (t.dirtyCards.map t.geometry.part) :=
  mapM_eq_ok fun card _ => Geometry.cardInterval_eq hend card

/-! ## The law of a table -/

/-- A table that is set up is made from the division that was asked for. -/
theorem exists_ofGeometry {covered : Interval} {size : UInt64} {scanning : Scanning}
    {t : CardTable} (h : ofCardSize covered size scanning = .ok t) :
    ∃ g, Geometry.ofCardSize covered size = .ok g ∧ ofGeometry g scanning = t := by
  unfold ofCardSize at h
  cases hg : Geometry.ofCardSize covered size with
  | error e => simp [hg, bind, Except.bind] at h
  | ok g => exact ⟨g, rfl, by simpa [hg, bind, Except.bind, pure, Except.pure] using h⟩

theorem geometry_of_ofCardSize {covered : Interval} {size : UInt64} {scanning : Scanning}
    {t : CardTable} (h : ofCardSize covered size scanning = .ok t) :
    Geometry.ofCardSize covered size = .ok t.geometry := by
  obtain ⟨g, hg, rfl⟩ := exists_ofGeometry h
  exact hg

/-- **A table that is set up** has the interval and the cards that were asked for, and every card
is clean. -/
theorem of_ofCardSize {covered : Interval} {size : UInt64} {scanning : Scanning} {t : CardTable}
    (h : ofCardSize covered size scanning = .ok t) :
    t.covered = covered ∧ t.geometry.cardBytes = size ∧ ∀ i, ¬t.Dirty i := by
  obtain ⟨g, hg, rfl⟩ := exists_ofGeometry h
  obtain ⟨hcovered, hsize⟩ := Geometry.of_ofCardSize hg
  exact ⟨hcovered, hsize, fun i => not_dirty_ofGeometry g scanning⟩

/-- **What a table has to say after calls**, and what comes of one call more. -/
structure Law (covered : Interval) (size : UInt64) (calls : List Call) (t : CardTable) : Prop where
  /-- The heap is divided as it was asked for. -/
  covered_eq : t.covered = covered
  /-- Cards have the size that was asked for. -/
  cardBytes_eq : t.geometry.cardBytes = size
  /-- A card is dirty if and only if some call marked it and no later one cleared it. -/
  dirty_iff (i : Nat) :
    t.Dirty i ↔ Remains (·.Marks t.geometry i) (·.Clears t.geometry i) calls
  /-- A call over an interval that is covered comes through, and it reaches cards that are
  there and no others. -/
  comes_through {c : Call} {state : CardState} {r : Interval} (hc : c.puts? = some (state, r))
    (hr : covered.includes r = true) : (c.perform.run t).1 = .ok () ∧
      ∃ first n, t.geometry.cardsOf r = .ok (first, n) ∧ first + n ≤ t.size
  /-- A call over any other stops at the first or the last address of the interval, and changes
  nothing. -/
  stops {c : Call} {state : CardState} {r : Interval} (hc : c.puts? = some (state, r))
    (hr : covered.includes r = false) : c.perform.run t =
      (.error (.uncovered (if r.start ∈ covered then r.stop - 1 else r.start) covered), t)
  /-- A call over an interval that is empty changes nothing, wherever the interval lies. -/
  empty {c : Call} {state : CardState} {r : Interval} (hc : c.puts? = some (state, r))
    (hr : r.isEmpty = true) : c.perform.run t = (.ok (), t)
  /-- A call that is not over an interval comes through. -/
  others {c : Call} (hc : c.puts? = none) : (c.perform.run t).1 = .ok ()
  /-- Asking after a covered address tells the state of the one card that holds it. -/
  asked {a : Address} (ha : a ∈ covered) :
    ∃ i, (∀ j, t.geometry.Holds j a ↔ j = i) ∧ t.isDirty a = .ok (decide (t.Dirty i))
  /-- Counting counts the dirty cards. -/
  counted : t.dirtyCards.length = {i | t.Dirty i}.ncard
  /-- A scan reports each dirty card once, in the order of addresses, and of each the part of the
  covered interval that it holds, if the last card ends at an address. -/
  scanned (hend : ∃ k, covered.stop.toNat ≤ k * size.toNat ∧ k * size.toNat < UInt64.size) :
    ∃ rs, t.scan = .ok rs ∧ rs.Pairwise (fun r s => r.start < s.start) ∧
      List.Forall₂ (fun i r => ∀ a, a ∈ r ↔ t.geometry.Holds i a)
        ((List.range t.size).filter fun i => t.Dirty i) rs

/-- **Every table keeps the law**, whatever it was asked for since it was set up. -/
theorem law_after {covered : Interval} {size : UInt64} {scanning : Scanning} {t : CardTable}
    (h : ofCardSize covered size scanning = .ok t) (calls : List Call) :
    Law covered size calls (after calls t) := by
  obtain ⟨hcovered, hsize, hclean⟩ := of_ofCardSize h
  have hgeometry := geometry_after calls t
  have hcov : (after calls t).covered = covered :=
    (congrArg Geometry.covered hgeometry).trans hcovered
  refine ⟨hcov, hgeometry ▸ hsize, fun i => ?_, fun hc hr => ?_, fun hc hr => ?_,
    Call.run_of_isEmpty, Call.run_of_puts_eq_none, fun {a} ha => ?_, length_dirtyCards _,
    fun hend => ?_⟩
  · rw [hgeometry]
    exact dirty_after calls (hclean i)
  · rw [← hcov] at hr
    obtain ⟨first, n, hcards⟩ := Geometry.exists_cardsOf_of_includes hr
    obtain ⟨u, -, hrun⟩ := Call.run_of_includes hc hr
    exact ⟨by rw [hrun], first, n, hcards, Geometry.cardsOf_le_count hcards⟩
  · rw [← hcov] at hr ⊢
    exact Call.run_of_not_includes hc hr
  · rw [← hcov] at ha
    exact ⟨_, fun j => Geometry.holds_iff_eq_cardNumber ha, isDirty_of_mem ha⟩
  · refine ⟨_, scan_eq ?_, ?_, ?_⟩
    · rw [← hcov, ← hsize, ← hgeometry, Geometry.toNat_cardBytes] at hend
      exact hend
    · exact List.pairwise_map.2 ((pairwise_dirtyCards _).imp Geometry.start_part_lt)
    · rw [← map_val_dirtyCards, List.forall₂_map_left_iff, List.forall₂_map_right_iff]
      exact List.forall₂_same.2 fun card _ a => Geometry.mem_part

/-- Two cards of 512 bytes, the second of them cut short. The second is marked, a mark that leaves
the covered interval stops, and then the first card is cleared. -/
theorem law_cut_short :
    ∃ t, ofCardSize ⟨0, 1000, by decide⟩ 512 .stopTheWorld = .ok t ∧
      Law ⟨0, 1000, by decide⟩ 512
        [.mark ⟨500, 600, by decide⟩, .forceMark ⟨900, 1001, by decide⟩, .clear ⟨0, 1, by decide⟩]
        (after [.mark ⟨500, 600, by decide⟩, .forceMark ⟨900, 1001, by decide⟩,
          .clear ⟨0, 1, by decide⟩] t) :=
  ⟨_, rfl, law_after rfl _⟩

end CardTable

end CardBarrier
