import CardBarrier.Proofs.History

/-!
# Every card is accounted for

What a run should have remembered is at any time either on the card table or still in the slot
of the thread that allocated it: a card is *accounted for* if it is dirty or if some slot
holds an interval that meets it (`Arena.Accounted`). Flushing moves a mark from the slot to
the table and leaves the account as it is, whichever of its three points it happens at; an
allocation adds what its object owes to the one side or the other; and clearing, while no slot
is taken, takes away what it clears. So along every run the account is exactly the record
(`Policy.Runs.accounted_iff`), and once every thread has been drained there is nothing left but the
table.
-/

namespace CardBarrier

open Act

/-- The slot of the thread holds an interval that meets the card. -/
def Mutator.Pends (t : Mutator) (g : Geometry) (i : Nat) : Prop :=
  ∃ r, t.slot = .holding r ∧ g.Meets i r

/-- The slot of some thread does. -/
def Threads.Pends (ts : Threads Mutator) (g : Geometry) (i : Nat) : Prop :=
  ∃ name t, ts.find? name = some t ∧ t.Pends g i

/-- The slot of some thread of another name does. -/
def Threads.PendsBeside (ts : Threads Mutator) (name : String) (g : Geometry) (i : Nat) : Prop :=
  ∃ other t, other ≠ name ∧ ts.find? other = some t ∧ t.Pends g i

/-- **The card is accounted for**: it is dirty, or a mark that meets it is pending. -/
def Arena.Accounted {ω : Type} (a : Arena CardTable ω Mutator) (i : Nat) : Prop :=
  a.scene.ledger.cards.Dirty i ∨ a.threads.Pends a.scene.ledger.cards.geometry i

/-- **Nothing has happened yet**: no card is dirty and no thread is there. -/
structure Arena.Fresh {ω : Type} (a : Arena CardTable ω Mutator) : Prop where
  /-- Every card is clean. -/
  clean : ∀ i, ¬a.scene.ledger.cards.Dirty i
  /-- No thread is there. -/
  bare : ∀ name, a.threads.find? name = none

/-- **Moves in good order.** Threads come with an empty slot and under a new name, and what is
in a slot is the barrier's business alone; and cards are cleared only while no mark is
pending. -/
def Arena.Admits {ω : Type} (a : Arena CardTable ω Mutator) : Move ω Mutator → Prop
  | .writeTogether _ | .change (.assign _ _) => False
  | .clear _ | .reset => a.NonePending
  | .change (.attach name t) => a.threads.find? name = none ∧ t.slot = .empty
  | _ => True

/-- An array write, if the move is one, is of at least one reference. -/
def Move.WritesSome {ω : Type} : Move ω Mutator → Prop
  | .writeArray _ count | .writeOnFastPath _ count => 0 < count
  | _ => True

theorem Arena.Admits.isOrderly {ω : Type} {a : Arena CardTable ω Mutator} {m : Move ω Mutator}
    (h : a.Admits m) : m.IsOrderly := by
  cases m with
  | change ch => cases ch <;> first | exact h | trivial
  | _ => first | exact h | trivial

/-! ## Slots -/

section Pends

variable {t : Mutator} {ts : Threads Mutator} {name : String} {g : Geometry} {i : Nat}

theorem Mutator.not_pends_of_empty (h : t.slot = .empty) : ¬t.Pends g i := by
  rintro ⟨r, hr, -⟩
  rw [h] at hr
  cases hr

theorem Mutator.pends_of_holding {r : Interval} (h : t.slot = .holding r) :
    t.Pends g i ↔ g.Meets i r := by
  constructor
  · rintro ⟨r', hr', hmeets⟩
    rw [h] at hr'
    cases hr'
    exact hmeets
  · exact fun hmeets => ⟨r, h, hmeets⟩

/-- What is pending is so in the one thread or in another. -/
theorem Threads.pends_iff (h : ts.find? name = some t) :
    ts.Pends g i ↔ t.Pends g i ∨ ts.PendsBeside name g i := by
  constructor
  · rintro ⟨other, u, hu, hpends⟩
    by_cases hother : other = name
    · rw [hother, h] at hu
      cases hu
      exact .inl hpends
    · exact .inr ⟨other, u, hother, hu, hpends⟩
  · rintro (hpends | ⟨other, u, -, hu, hpends⟩)
    · exact ⟨name, t, h, hpends⟩
    · exact ⟨other, u, hu, hpends⟩

theorem Threads.pendsBeside_insert :
    (ts.insert name t).PendsBeside name g i ↔ ts.PendsBeside name g i := by
  constructor
  · rintro ⟨other, u, hne, hu, hpends⟩
    rw [find?_insert_of_ne hne] at hu
    exact ⟨other, u, hne, hu, hpends⟩
  · rintro ⟨other, u, hne, hu, hpends⟩
    exact ⟨other, u, hne, (find?_insert_of_ne hne).trans hu, hpends⟩

theorem Threads.pends_insert :
    (ts.insert name t).Pends g i ↔ t.Pends g i ∨ ts.PendsBeside name g i := by
  rw [pends_iff find?_insert_self, pendsBeside_insert]

/-- A thread with an empty slot may go. -/
theorem Threads.pends_erase (h : ts.find? name = some t) (ht : t.slot = .empty) :
    (ts.erase name).Pends g i ↔ ts.Pends g i := by
  constructor
  · rintro ⟨other, u, hu, hpends⟩
    rw [find?_erase] at hu
    split at hu
    · cases hu
    · exact ⟨other, u, hu, hpends⟩
  · rintro ⟨other, u, hu, hpends⟩
    have hne : other ≠ name := by
      rintro rfl
      rw [h] at hu
      cases hu
      exact Mutator.not_pends_of_empty ht hpends
    exact ⟨other, u, by rw [find?_erase, if_neg hne, hu], hpends⟩

/-- A thread with an empty slot may come. -/
theorem Threads.pends_attach (h : ts.find? name = none) (ht : t.slot = .empty) :
    (ts.insert name t).Pends g i ↔ ts.Pends g i := by
  rw [pends_insert]
  constructor
  · rintro (hpends | ⟨other, u, -, hu, hpends⟩)
    · exact absurd hpends (Mutator.not_pends_of_empty ht)
    · exact ⟨other, u, hu, hpends⟩
  · rintro ⟨other, u, hu, hpends⟩
    refine .inr ⟨other, u, ?_, hu, hpends⟩
    rintro rfl
    rw [h] at hu
    cases hu

/-- **Draining threads empties their slots**, and what was pending was so in one of them or in
another thread. -/
theorem Threads.pends_drained {names : List String} {us : List Mutator}
    (h : names.map ts.find? = us.map some) :
    (∃ u ∈ us, u.Pends g i) ∨ (ts.insertAll (names.zip (us.map Mutator.emptied))).Pends g i ↔
      ts.Pends g i := by
  constructor
  · rintro (⟨u, hu, hpends⟩ | ⟨other, u, hu, hpends⟩)
    · have hmem : some u ∈ names.map ts.find? := h ▸ List.mem_map_of_mem hu
      obtain ⟨other, -, hother⟩ := List.mem_map.1 hmem
      exact ⟨other, u, hother, hpends⟩
    · rw [find?_insertAll_zip _ h] at hu
      split at hu
      · obtain ⟨v, -, rfl⟩ := Option.map_eq_some_iff.1 hu
        exact absurd hpends (Mutator.not_pends_of_empty rfl)
      · exact ⟨other, u, hu, hpends⟩
  · rintro ⟨other, u, hu, hpends⟩
    by_cases hother : other ∈ names
    · have hmem : some u ∈ us.map some := h ▸ hu ▸ List.mem_map_of_mem hother
      obtain ⟨v, hv, heq⟩ := List.mem_map.1 hmem
      cases heq
      exact .inl ⟨u, hv, hpends⟩
    · exact .inr ⟨other, u, by rw [find?_insertAll_zip _ h, if_neg hother, hu], hpends⟩

theorem Arena.NonePending.not_pends {ω : Type} {a : Arena CardTable ω Mutator}
    (h : a.NonePending) : ¬a.threads.Pends g i := by
  rintro ⟨name, t, ht, hpends⟩
  exact Mutator.not_pends_of_empty (h name t ht) hpends

end Pends

/-! ## What the parts of a move do to the account -/

section Parts

variable {ω : Type} [HeapView ω] {p : Policy} {s t : Site CardTable ω Mutator} {b : Bool} {i : Nat}

/-- **A flush takes the mark from the slot to the table**, over any store that marks by force as
its table does. -/
theorem Flushed.dirty_of_table {κ : Type} [RememberedSet κ] (table : κ → CardTable)
    (htable : ∀ r k l, (RememberedSet.forceMark r).Yields k () l → (table k).mark r = .ok (table l))
    {s t : Site κ ω Mutator} (h : Flushed p s b t) :
    (table t.scene.ledger.cards).geometry = (table s.scene.ledger.cards).geometry ∧
      ∀ i, (table t.scene.ledger.cards).Dirty i ↔ (table s.scene.ledger.cards).Dirty i ∨
        s.thread.Pends (table s.scene.ledger.cards).geometry i := by
  cases h with
  | nothing hslot => exact ⟨rfl, fun i => (or_iff_left (Mutator.not_pends_of_empty hslot)).symm⟩
  | mark hslot _ hmark hledger _ _ =>
    have hmarked := htable _ _ _ hmark
    rw [hledger]
    refine ⟨(CardTable.like_mark hmarked).geometry, fun i => ?_⟩
    rw [Mutator.pends_of_holding hslot]
    exact CardTable.dirty_mark hmarked

/-- So it is where the store is the table. -/
theorem Flushed.dirty_iff (h : Flushed p s b t) :
    t.scene.ledger.cards.Dirty i ↔
      s.scene.ledger.cards.Dirty i ∨ s.thread.Pends s.scene.ledger.cards.geometry i :=
  (h.dirty_of_table id fun _ _ _ => CardTable.forceMark_yields.1).2 i

theorem Flushed.not_pends {g : Geometry} (h : Flushed p s b t) : ¬t.thread.Pends g i := by
  rw [h.thread_eq]
  exact Mutator.not_pends_of_empty rfl

/-- **What follows from a verdict adds to the account what the verdict leaves to be marked**,
on the table or in the slot. -/
theorem Concluded.accounted_iff {verdict : Tally.Kind ⊕ Interval} {g : Geometry}
    (hslot : ¬s.thread.Pends g i) (hg : s.scene.ledger.cards.geometry = g)
    (h : Concluded p s t verdict) :
    t.scene.ledger.cards.Dirty i ∨ t.thread.Pends g i ↔
      s.scene.ledger.cards.Dirty i ∨ ∃ r, verdict = .inr r ∧ g.Meets i r := by
  cases h with
  | skipped hledger hthread _ =>
    rw [hledger, hthread]
    simp [hslot]
  | deferred _ hledger hthread _ =>
    rw [hledger, hthread, Mutator.pends_of_holding rfl]
    simp
  | marked _ hmark hledger hthread _ =>
    rw [hledger, hthread, CardTable.dirty_mark (CardTable.forceMark_yields.1 hmark), hg]
    simp [hslot]

omit [HeapView ω] in
/-- **A round of flushes takes the marks of all its threads to the table.** -/
theorem Policy.Drained.dirty_iff {ts : List Mutator} {l m : Ledger CardTable}
    (h : p.Drained ts l m) :
    m.cards.Dirty i ↔ l.cards.Dirty i ∨ ∃ t ∈ ts, t.Pends l.cards.geometry i := by
  induction h with
  | nil => simp
  | nothing hslot _ ih =>
    rw [ih]
    simp [Mutator.not_pends_of_empty hslot]
  | mark hslot hmark _ ih =>
    rw [ih, CardTable.dirty_mark hmark, (CardTable.like_mark hmark).geometry]
    simp [Mutator.pends_of_holding hslot, or_assoc]

end Parts

/-! ## What a move does to the account -/

section Step

variable {ω : Type} [HeapView ω] {p : Policy} {a c : Arena CardTable ω Mutator}
  {m : Move ω Mutator} {i : Nat}

omit [HeapView ω] in
theorem CardTable.exists_cardsOf_of_mark {t u : CardTable} {r : Interval} (h : t.mark r = .ok u) :
    ∃ first n, t.geometry.cardsOf r = .ok (first, n) := by
  unfold mark put at h
  cases hr : t.geometry.cardsOf r with
  | error f => simp [hr, bind, Except.bind] at h
  | ok span => exact ⟨span.1, span.2, rfl⟩

/-- **The move puts the card on the account**: it marks an interval that meets it, or it
allocates an object that owes one. -/
def Policy.Adds (p : Policy) (a : Arena CardTable ω Mutator) (m : Move ω Mutator)
    (i : Nat) : Prop :=
  (∃ r kinds, p.marking m = some (.ok r, kinds) ∧ a.scene.ledger.cards.geometry.Meets i r) ∨
    ∃ name object r, m = .allocate name object ∧ p.Wants a m r ∧
      a.scene.ledger.cards.geometry.Meets i r

theorem Policy.adds_of_marking {r : Interval} {kinds : List Tally.Kind}
    (hm : p.marking m = some (.ok r, kinds)) :
    p.Adds a m i ↔ a.scene.ledger.cards.geometry.Meets i r := by
  constructor
  · rintro (⟨r', kinds', hr', hmeets⟩ | ⟨name, object, r', rfl, -⟩)
    · rw [hm] at hr'
      cases hr'
      exact hmeets
    · cases hm
  · exact fun hmeets => .inl ⟨r, kinds, hm, hmeets⟩

theorem Policy.adds_allocate {name : String} {object : Address} :
    p.Adds a (.allocate name object) i ↔
      ∃ r, p.Wants a (.allocate name object) r ∧ a.scene.ledger.cards.geometry.Meets i r := by
  constructor
  · rintro (⟨r, kinds, hr, -⟩ | ⟨_, _, r, -, hwants, hmeets⟩)
    · cases hr
    · exact ⟨r, hwants, hmeets⟩
  · rintro ⟨r, hwants, hmeets⟩
    exact .inr ⟨name, object, r, rfl, hwants, hmeets⟩

/-- Nothing but marks, writes and allocations puts cards on the account. -/
theorem Policy.not_adds (hm : p.marking m = none)
    (hallocate : ∀ name object, m ≠ .allocate name object) : ¬p.Adds a m i := by
  rintro (⟨r, kinds, hr, -⟩ | ⟨name, object, r, rfl, -⟩)
  · rw [hm] at hr
    cases hr
  · exact hallocate name object rfl

/-- A move that puts nothing on the account and clears nothing leaves it alone. -/
theorem Policy.account_of_quiet {g : Geometry} {A B : Prop} (hm : p.marking m = none)
    (hallocate : ∀ name object, m ≠ .allocate name object) (hclears : ¬m.Clears g i)
    (h : A ↔ B) : A ↔ B ∧ ¬m.Clears g i ∨ p.Adds a m i := by
  rw [and_iff_left hclears, or_iff_left (not_adds hm hallocate)]
  exact h

/-- **What an allocation wants marked** is what its verdict says. -/
theorem Policy.wants_allocate_iff {name : String} {object : Address} {t : Mutator} {b : Bool}
    {verdict : Tally.Kind ⊕ Interval} {s u : Site CardTable ω Mutator} {r : Interval}
    (hfind : a.threads.find? name = some t)
    (hflush : (p.flush .allocation).Yields ⟨a.scene, t⟩ b s)
    (hassess : (Workplace.assess object).Yields s verdict u) :
    p.Wants a (.allocate name object) r ↔ verdict = .inr r := by
  constructor
  · intro h
    cases h with
    | allocate hfind' hflush' howes =>
      rw [hfind] at hfind'
      cases hfind'
      obtain ⟨-, rfl⟩ := hflush.unique hflush'
      obtain ⟨u', hassess'⟩ := Scene.owes_iff.1 howes
      exact (hassess.unique hassess').1
  · rintro rfl
    exact .allocate hfind hflush (Scene.owes_iff.2 ⟨u, hassess⟩)

/-- **What a move puts on the account is what it wants marked**, since the span of an array
write of at least one reference meets no card but those of the bytes written. -/
theorem Policy.Effect.adds_iff_wants (hsome : m.WritesSome) (h : p.Effect a m c) :
    p.Adds a m i ↔ ∃ r, p.Wants a m r ∧ a.scene.ledger.cards.geometry.Meets i r := by
  have hquiet : p.marking m = none → (∀ name object, m ≠ .allocate name object) →
      (p.Adds a m i ↔ ∃ r, p.Wants a m r ∧ a.scene.ledger.cards.geometry.Meets i r) := by
    intro hm hallocate
    refine iff_of_false (not_adds hm hallocate) ?_
    rintro ⟨r, hwants, -⟩
    cases hwants with
    | allocate _ _ _ => exact hallocate _ _ rfl
    | _ => cases hm
  cases h with
  | @marked _ r kinds cards hm hmark =>
    obtain ⟨first, n, hcards⟩ := CardTable.exists_cardsOf_of_mark hmark
    rw [adds_of_marking hm]
    cases m with
    | mark r' | forceMark r' | writeSpan r' =>
      cases hm
      constructor
      · exact fun hmeets => ⟨r, by constructor, hmeets⟩
      · rintro ⟨_, ⟨⟩, hmeets⟩
        exact hmeets
    | writeArray start count | writeOnFastPath start count =>
      obtain ⟨hspan, -⟩ := Prod.mk.inj (Option.some.inj hm)
      obtain ⟨written, hwritten, hmeets⟩ := Geometry.meets_arraySpan (i := i) hspan hsome hcards
      rw [hmeets]
      constructor
      · exact fun hr => ⟨written, by constructor; exact hwritten, hr⟩
      · rintro ⟨r', hwants, hr'⟩
        cases hwants with
        | _ hr =>
          rw [hwritten] at hr
          cases hr
          exact hr'
    | _ => cases hm
  | unreduced _ _ | allocated _ _ _ _ _ => exact adds_allocate
  | flushed hm _ _ _ => obtain rfl | ⟨_, rfl⟩ := hm <;> exact hquiet rfl nofun
  | _ => exact hquiet rfl nofun

/-- **What a move does to the account**: it takes away what it clears, and adds what it marks
or owes. -/
theorem Policy.Effect.accounted_iff (hreduces : p.reducesInitialMarks = true)
    (hadmits : a.Admits m) (h : p.Effect a m c) :
    c.Accounted i ↔
      a.Accounted i ∧ ¬m.Clears a.scene.ledger.cards.geometry i ∨ p.Adds a m i := by
  have hgeometry := h.geometry
  unfold Arena.Accounted
  rw [hgeometry]
  cases h with
  | marked hm hmark =>
    have hclears : ¬m.Clears a.scene.ledger.cards.geometry i := by
      cases m <;> first | exact id | cases hm
    rw [adds_of_marking hm, and_iff_left hclears, or_right_comm]
    exact or_congr (CardTable.dirty_mark hmark) Iff.rfl
  | unreduced hnot _ =>
    rw [hreduces] at hnot
    cases hnot
  | allocated _ hfind hflush hassess hconcluded =>
    have hflushed := flushed_of_yields hflush
    have hu := Workplace.untouched_assess hassess
    have hg := (congrArg (·.cards.geometry) hu.ledger).trans hflushed.like.geometry
    have hslot := hu.thread ▸ hflushed.not_pends (g := a.scene.ledger.cards.geometry) (i := i)
    have hconcluded := hconcluded.accounted_iff hslot hg
    simp only [adds_allocate, wants_allocate_iff hfind hflush hassess, Threads.pends_insert,
      Threads.pends_iff hfind]
    rw [← or_assoc, hconcluded, hu.ledger, hflushed.dirty_iff, and_iff_left (by exact id)]
    simp only [or_assoc, or_comm, or_left_comm]
  | flushed hm hfind hflushed hs =>
    rw [Threads.pends_insert, Threads.pends_iff hfind, hs.ledger, hs.thread, hflushed.dirty_iff,
      or_iff_right hflushed.not_pends, or_assoc]
    obtain rfl | ⟨_, rfl⟩ := hm
    · exact account_of_quiet rfl nofun id Iff.rfl
    · exact account_of_quiet rfl nofun id Iff.rfl
  | drained hfind hdrained hledger hthreads _ =>
    refine account_of_quiet rfl nofun id ?_
    rw [hledger, hthreads, hdrained.dirty_iff, or_assoc, Threads.pends_drained hfind]
  | reported hledger _ hthreads =>
    refine account_of_quiet rfl nofun id ?_
    rw [hledger, hthreads]
  | agreed young => exact account_of_quiet rfl nofun id Iff.rfl
  | @cleared r cards hclear =>
    have hnone := Arena.NonePending.not_pends (g := a.scene.ledger.cards.geometry) (i := i) hadmits
    rw [or_iff_left (not_adds (p := p) (a := a) (m := .clear r) rfl nofun), or_iff_left hnone]
    exact (or_iff_left hnone).trans (CardTable.dirty_clear hclear)
  | reset =>
    have hnone := Arena.NonePending.not_pends (g := a.scene.ledger.cards.geometry) (i := i) hadmits
    rw [or_iff_left (not_adds (p := p) (a := a) (m := .reset) rfl nofun)]
    refine iff_of_false ?_ fun h => h.2 trivial
    exact not_or.2 ⟨CardTable.not_dirty_reset, hnone⟩
  | attached hledger _ hthreads =>
    refine account_of_quiet rfl nofun id ?_
    rw [hledger, hthreads, Threads.pends_attach hadmits.1 hadmits.2]
  | discarded hfind hslot =>
    refine account_of_quiet rfl nofun id ?_
    rw [Threads.pends_erase hfind hslot]
  | rearranged change => exact account_of_quiet rfl nofun id Iff.rfl

end Step

/-! ## What a run does to the account -/

namespace Policy

variable {ω : Type} [HeapView ω] {p : Policy} {a b c : Arena CardTable ω Mutator}
  {steps : List (Step ω)} {i : Nat}

/-- **Along every run the account is the record**: a card is dirty or pending if and only if
some step wanted it marked and no later one cleared it. -/
theorem Runs.accounted_iff (hreduces : p.reducesInitialMarks = true) (hfresh : a.Fresh)
    (h : p.Runs (fun _ a m => a.Admits m ∧ m.WritesSome) a steps b) :
    b.scene.ledger.cards.geometry = a.scene.ledger.cards.geometry ∧
      (b.Accounted i ↔ p.Recorded a.scene.ledger.cards.geometry steps i) := by
  induction h with
  | start =>
    refine ⟨rfl, iff_of_false ?_ not_lasts_nil⟩
    rintro (hdirty | ⟨name, t, ht, -⟩)
    · exact hfresh.clean i hdirty
    · rw [hfresh.bare name] at ht
      cases ht
  | step _ hadmits hstep ih =>
    obtain ⟨hgeometry, hrecord⟩ := ih
    have heffect := effect_of_yields hadmits.1.isOrderly hstep
    refine ⟨heffect.geometry.trans hgeometry, ?_⟩
    unfold Recorded
    rw [lasts_append, heffect.accounted_iff hreduces hadmits.1,
      heffect.adds_iff_wants hadmits.2, hrecord, hgeometry]
    rfl

/-- **A drain of every thread leaves no mark pending.** -/
theorem nonePending_of_drain {names : Option (List String)} {reply : Reply}
    (hall : b.ListsAll names) (h : (p.perform (.drain names)).Yields b reply c) :
    c.NonePending := by
  have heffect : p.Effect b (.drain names) c := effect_of_yields trivial h
  cases heffect with
  | marked hm _ => cases hm
  | flushed hm _ _ _ => obtain hm | ⟨_, hm⟩ := hm <;> cases hm
  | drained hfind _ _ hthreads _ =>
    intro name t ht
    rw [hthreads, Threads.find?_insertAll_zip _ hfind] at ht
    split at ht
    · obtain ⟨u, -, rfl⟩ := Option.map_eq_some_iff.1 ht
      rfl
    · rename_i hname
      exact absurd (hall name t ht) hname

/-- **After a drain of every thread the dirty cards are those to be remembered**: the ones that
meet what an allocation, an array write or a mark wanted marked and that nothing has cleared
since. In particular a collection that scans the cards then misses no object that was allocated
old and with references, and scans no card that nothing asked for. -/
theorem Runs.dirty_iff_recorded {names : Option (List String)} {reply : Reply}
    (hreduces : p.reducesInitialMarks = true) (hfresh : a.Fresh)
    (h : p.Runs (fun _ a m => a.Admits m ∧ m.WritesSome) a steps b) (hall : b.ListsAll names)
    (hdrain : (p.perform (.drain names)).Yields b reply c) :
    c.scene.ledger.cards.Dirty i ↔ p.Recorded a.scene.ledger.cards.geometry steps i := by
  have hnone := (nonePending_of_drain hall hdrain).not_pends
    (g := c.scene.ledger.cards.geometry) (i := i)
  have heffect : p.Effect b (.drain names) c := effect_of_yields trivial hdrain
  have hadds := not_adds (p := p) (a := b) (m := .drain names) (i := i) rfl nofun
  have hadmits : b.Admits (.drain names) := trivial
  calc c.scene.ledger.cards.Dirty i
    _ ↔ c.Accounted i := (or_iff_left hnone).symm
    _ ↔ b.Accounted i :=
      (heffect.accounted_iff hreduces hadmits).trans
        ((or_iff_left hadds).trans (and_iff_left id))
    _ ↔ p.Recorded a.scene.ledger.cards.geometry steps i :=
      (accounted_iff hreduces hfresh h).2

end Policy

/-! ### A small run

One thread attaches, allocates the object of the small heap, and is drained. -/

namespace SmallHeap

theorem fresh_start : start.Fresh :=
  ⟨fun _ => CardTable.not_dirty_ofGeometry _ _, fun _ => rfl⟩

/-- Where a move leads. -/
def next (p : Policy) (a : Arena CardTable Objects Mutator) (m : Move Objects Mutator) :
    Arena CardTable Objects Mutator := ((p.perform m).run a).2

/-- A thread has attached. -/
def attached (p : Policy) : Arena CardTable Objects Mutator :=
  next p start (.change (.attach "m" ⟨0, .empty⟩))

/-- And has allocated the object. -/
def allocated (p : Policy) : Arena CardTable Objects Mutator :=
  next p (attached p) (.allocate "m" 512)

/-- The two steps so far. -/
def steps (p : Policy) : List (Step Objects) :=
  [⟨start, .change (.attach "m" ⟨0, .empty⟩), attached p⟩,
    ⟨attached p, .allocate "m" 512, allocated p⟩]

theorem runs_steps (defers : Bool)
    {admits : List (Step Objects) → Arena CardTable Objects Mutator → Move Objects Mutator → Prop}
    (hattach : admits [] start (.change (.attach "m" ⟨0, .empty⟩)))
    (hallocate : admits [⟨start, .change (.attach "m" ⟨0, .empty⟩), attached (policy defers)⟩]
      (attached (policy defers)) (.allocate "m" 512)) :
    (policy defers).Runs admits start (steps (policy defers)) (allocated (policy defers)) := by
  have hattached : ((policy defers).perform (.change (.attach "m" ⟨0, .empty⟩))).Yields start .done
      (attached (policy defers)) := rfl
  have hallocated : ((policy defers).perform (.allocate "m" 512)).Yields
      (attached (policy defers)) .done (allocated (policy defers)) := by
    cases defers <;> rfl
  exact .step (.step .start hattach hattached) hallocate hallocated

/-- **The card of the object is to be remembered**, and the other is not. -/
theorem recorded_iff : (policy true).Recorded geometry (steps (policy true)) 1 ∧
    ¬(policy true).Recorded geometry (steps (policy true)) 0 := by
  have hrun : (policy true).Runs (fun _ a m => a.Admits m ∧ m.WritesSome) start
      (steps (policy true)) (allocated (policy true)) :=
    runs_steps true ⟨⟨rfl, rfl⟩, trivial⟩ ⟨trivial, trivial⟩
  have hdrain : ((policy true).perform (.drain none)).Yields (allocated (policy true)) (.count 1)
      (next (policy true) (allocated (policy true)) (.drain none)) := rfl
  refine ⟨?_, fun h => ?_⟩
  · exact (Policy.Runs.dirty_iff_recorded rfl fresh_start hrun (Arena.listsAll_none _) hdrain).1 rfl
  · have hclean : some CardState.clean = some .dirty :=
      (Policy.Runs.dirty_iff_recorded rfl fresh_start hrun (Arena.listsAll_none _) hdrain).2 h
    cases hclean

end SmallHeap

end CardBarrier
