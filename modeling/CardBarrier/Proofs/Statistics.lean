import CardBarrier.Proofs.Counting
import CardBarrier.Proofs.Uncounted
import CardBarrier.Proofs.WellBehaved

/-!
# Statistics account for the state

Nine counters are bumped in different places and in different orders, yet at any time they stand
in linear relations to each other, to the moves that were made, and to the marks that wait
(`Policy.Statistics`): what was deferred was flushed or still waits, what was marked by force was
marked for an allocation, by a flush or because somebody asked, and every allocation that was
compensated for came to one of four ends.

Counters wrap, so the relations hold modulo the size of a word. They hold exactly as long as
fewer events have been counted than a word can hold, and then the figures that are read off the
counters are what they are meant to be. Where events are not counted every counter stays as it
is, whatever happens (`Policy.tally_performAll`).
-/

namespace CardBarrier

open Act

namespace Deed

variable {κ ω : Type}

/-- How many events of a kind a deed counted. -/
def ticks (d : Deed κ ω) (k : Tally.Kind) : Nat :=
  (d.after.scene.ledger.tally.get k - d.before.scene.ledger.tally.get k).toNat

/-- How many events of a kind deeds counted. -/
def ticked (deeds : List (Deed κ ω)) (k : Tally.Kind) : Nat := (deeds.map (·.ticks k)).sum

/-- **How many events deeds counted**, of all kinds together. -/
def counted (deeds : List (Deed κ ω)) : Nat := Tally.overKinds (ticked deeds)

theorem counted_eq (deeds : List (Deed κ ω)) : counted deeds = ticked deeds .write +
    (ticked deeds .mark + (ticked deeds .forcedMark + (ticked deeds .markedAtOnce +
      (ticked deeds .deferred + (ticked deeds .flushed + (ticked deeds .referenceFree +
        (ticked deeds .young + (ticked deeds .drain + 0)))))))) := rfl

/-- What was asked for in deeds. -/
def moves (deeds : List (Deed κ ω)) : List (Move ω Mutator) := deeds.map Deed.move

theorem ticked_append (deeds : List (Deed κ ω)) (d : Deed κ ω) (k : Tally.Kind) :
    ticked (deeds ++ [d]) k = ticked deeds k + d.ticks k := by
  simp [ticked]

theorem moves_append (deeds : List (Deed κ ω)) (a : Arena κ ω Mutator) (m : Move ω Mutator)
    (c : Arena κ ω Mutator) : moves (deeds ++ [⟨a, m, c⟩]) = moves deeds ++ [m] := List.map_append

end Deed

variable {κ ω : Type} [RememberedSet κ] [HeapView ω] {p : Policy}

/-! ## What a course counts -/

/-- **What a course has counted** agrees with the moves that were made and with the marks that
wait at its end. -/
structure Policy.Accounts (p : Policy) (deeds : List (Deed κ ω)) (b : Arena κ ω Mutator)
    (events : List Tally.Kind) : Prop where
  tally : b.scene.ledger.tally = p.tallied events {}
  waiting : events.count .deferred = events.count .flushed + b.waiting
  forcedMarks : events.count .forcedMark = events.count .markedAtOnce + events.count .flushed
    + (Deed.moves deeds).countP Move.isForceMark
  marks : events.count .mark = events.count .write + (Deed.moves deeds).countP Move.isMark
  slowPath : events.count .markedAtOnce + events.count .deferred + events.count .referenceFree
      + events.count .young
    = if p.reducesInitialMarks then (Deed.moves deeds).countP Move.isAllocate else 0
  drains : events.count .drain = (Deed.moves deeds).countP Move.isDrain
  markedAtOnce (hdefers : p.defers = true) : events.count .markedAtOnce = 0
  deferred (hdefers : p.defers = false) : events.count .deferred = 0
  /-- What happens at most once in a move is seen to be counted. -/
  le_ticked (k : Tally.Kind)
    (hk : k ∈ [Tally.Kind.markedAtOnce, .deferred, .referenceFree, .young, .drain]) :
    events.count k ≤ Deed.ticked deeds k
  isMark_le_ticked : (Deed.moves deeds).countP Move.isMark ≤ Deed.ticked deeds .mark
  isForceMark_le_ticked :
    (Deed.moves deeds).countP Move.isForceMark ≤ Deed.ticked deeds .forcedMark
  /-- A counter holds no more than what was seen to be counted. -/
  get_le_ticked (k : Tally.Kind) : (b.scene.ledger.tally.get k).toNat ≤ Deed.ticked deeds k

section Step

variable {a b c : Arena κ ω Mutator} {m : Move ω Mutator} {deeds : List (Deed κ ω)}
  {kinds events : List Tally.Kind}

omit [RememberedSet κ] [HeapView ω] in
/-- A move that counts fewer events of a kind than a word can hold is seen to count them. -/
theorem Policy.Counts.ticks_eq (hcounts : p.counts = true) (h : p.Counts a m c kinds)
    {k : Tally.Kind} (hk : kinds.count k < UInt64.size) :
    (Deed.mk a m c).ticks k = kinds.count k := by
  unfold Deed.ticks
  rw [h.tally, get_tallied hcounts, UInt64.add_comm, UInt64.add_sub_cancel,
    UInt64.toNat_ofNat_of_lt' hk]

omit [RememberedSet κ] [HeapView ω] in
/-- No move allocates twice, or drains twice. -/
theorem Policy.Counts.count_le_one (h : p.Counts a m c kinds) {k : Tally.Kind}
    (hk : k ∈ [Tally.Kind.markedAtOnce, .deferred, .referenceFree, .young, .drain]) :
    kinds.count k ≤ 1 := by
  have hslow := h.slowPath
  have hdrains := h.drains
  have hallocate : [m].countP Move.isAllocate ≤ 1 := List.countP_le_length
  have hdrain : [m].countP Move.isDrain ≤ 1 := List.countP_le_length
  have hfour : (if p.reducesInitialMarks then [m].countP Move.isAllocate else 0) ≤ 1 := by
    split
    · exact hallocate
    · exact Nat.zero_le 1
  rw [← hslow] at hfour
  simp only [List.mem_cons, List.not_mem_nil, or_false] at hk
  obtain rfl | rfl | rfl | rfl | rfl := hk <;> omega

omit [RememberedSet κ] [HeapView ω] in
/-- A mark that is asked for is seen to be counted. -/
theorem Policy.Counts.countP_le_ticks (hcounts : p.counts = true) (h : p.Counts a m c kinds) :
    [m].countP Move.isMark ≤ (Deed.mk a m c).ticks .mark ∧
      [m].countP Move.isForceMark ≤ (Deed.mk a m c).ticks .forcedMark := by
  have hmarks := h.marks
  have hforced := h.forcedMarks
  have hone : ∀ k, kinds.length = 1 → (Deed.mk a m c).ticks k = kinds.count k := fun k hlength =>
    h.ticks_eq hcounts (Nat.lt_of_le_of_lt (hlength ▸ List.count_le_length) (by decide))
  constructor
  · cases hm : m.isMark with
    | false => simp [hm]
    | true =>
      rw [hone _ (h.single (.inl hm))]
      omega
  · cases hm : m.isForceMark with
    | false => simp [hm]
    | true =>
      rw [hone _ (h.single (.inr hm))]
      omega

omit [RememberedSet κ] [HeapView ω] in
/-- **One move more** keeps the account. -/
theorem Policy.Accounts.step (hcounts : p.counts = true) (haccounts : p.Accounts deeds b events)
    (h : p.Counts b m c kinds) : p.Accounts (deeds ++ [⟨b, m, c⟩]) c (events ++ kinds) where
  tally := by rw [h.tally, haccounts.tally, tallied_tallied]
  waiting := by
    have hwaiting := haccounts.waiting
    have hstep := h.waiting
    rw [List.count_append, List.count_append]
    omega
  forcedMarks := by
    rw [Deed.moves_append, List.countP_append, List.count_append, List.count_append,
      List.count_append, haccounts.forcedMarks, h.forcedMarks]
    omega
  marks := by
    rw [Deed.moves_append, List.countP_append, List.count_append, List.count_append,
      haccounts.marks, h.marks]
    omega
  slowPath := by
    have hslow := haccounts.slowPath
    have hstep := h.slowPath
    rw [Deed.moves_append, List.countP_append]
    simp only [List.count_append]
    split
    all_goals simp only [*, if_true, if_false, Bool.false_eq_true] at hslow hstep; omega
  drains := by
    rw [Deed.moves_append, List.countP_append, List.count_append, haccounts.drains, h.drains]
  markedAtOnce hdefers := by
    rw [List.count_append, haccounts.markedAtOnce hdefers, h.markedAtOnce hdefers]
  deferred hdefers := by
    rw [List.count_append, haccounts.deferred hdefers, h.deferred hdefers]
  le_ticked k hk := by
    have hone := h.count_le_one hk
    rw [List.count_append, Deed.ticked_append,
      h.ticks_eq hcounts (Nat.lt_of_le_of_lt hone (by decide))]
    exact Nat.add_le_add_right (haccounts.le_ticked k hk) _
  isMark_le_ticked := by
    rw [Deed.moves_append, List.countP_append, Deed.ticked_append]
    exact Nat.add_le_add haccounts.isMark_le_ticked (h.countP_le_ticks hcounts).1
  isForceMark_le_ticked := by
    rw [Deed.moves_append, List.countP_append, Deed.ticked_append]
    exact Nat.add_le_add haccounts.isForceMark_le_ticked (h.countP_le_ticks hcounts).2
  get_le_ticked k := by
    rw [Deed.ticked_append]
    exact Nat.le_trans (Tally.toNat_get_le _ _ k)
      (Nat.add_le_add_right (haccounts.get_le_ticked k) _)

end Step

section Course

variable [TableBacked κ] {a b : Arena κ ω Mutator} {deeds : List (Deed κ ω)}

/-- **Every course has counted what it should.** -/
theorem Policy.Course.accounts (hcounts : p.counts = true)
    (hbare : ∀ name, a.threads.find? name = none) (huncounted : a.scene.ledger.tally = {})
    (h : p.Course a deeds b) : ∃ events, p.Accounts deeds b events := by
  induction h with
  | start =>
    have hordered := Threads.ordered_of_bare hbare
    have hwaiting : a.waiting = 0 := Threads.count_eq_zero hordered fun name t ht => by
      rw [hbare] at ht
      cases ht
    refine ⟨[], ⟨?_, by rw [hwaiting]; rfl, rfl, rfl, (ite_self _).symm, rfl, fun _ => rfl,
      fun _ => rfl, fun k _ => Nat.le_refl 0, Nat.le_refl 0, Nat.le_refl 0, fun k => ?_⟩⟩
    · rw [huncounted, tallied_nil]
    · rw [huncounted]
      cases k <;> exact Nat.le_refl 0
  | step h hm hstep ih =>
    obtain ⟨events, haccounts⟩ := ih
    obtain ⟨kinds, hkinds⟩ := (outcome_of_yields hm.leavesSlots hstep).counts
      (h.ordered_threads hbare) hm
    exact ⟨_, haccounts.step hcounts hkinds⟩

/-- **A drain of every thread answers with how many marks waited.** -/
theorem Policy.drain_replies {names : Option (List String)} {reply : Reply} {c : Arena κ ω Mutator}
    (hb : b.threads.Ordered) (hm : b.Accepts (.drain names))
    (hall : ∀ name ∈ b.threads.names, name ∈ names.getD b.threads.names)
    (h : (p.perform (.drain names)).Yields b reply c) : reply = .count b.waiting := by
  have houtcome : p.Outcome b (.drain names) reply c := outcome_of_yields trivial h
  cases houtcome with
  | ordered horders _ =>
    cases horders with
    | writes hwrites _ => cases hwrites
  | flushed hmove _ _ _ => obtain ⟨hmove, -⟩ | hmove := hmove <;> cases hmove
  | collected hcollects _ => cases hcollects
  | @drained _ ts bs s _ hfind hround _ hthreads _ =>
    -- nothing waits afterwards, so all that waited was found
    have hnone : c.threads.count Mutator.waits = 0 := by
      refine Threads.count_eq_zero (hthreads ▸ Threads.ordered_insertAll _ hb) fun name t ht => ?_
      rw [hthreads, Threads.find?_insertAll_zip _ hfind] at ht
      split at ht
      · obtain ⟨u, -, rfl⟩ := Option.map_eq_some_iff.1 ht
        rfl
      · rename_i hname
        exact absurd (hall name (Threads.mem_names_iff.2 ⟨t, ht⟩)) hname
    have hcount := hround.waiting_eq hb (hm.nodup_drain hb) hfind
    rw [← hthreads, hnone, Nat.add_zero] at hcount
    rw [hcount]

end Course

/-! ## The relations -/

/-- **What the counters say**, modulo the size of a word. -/
structure Policy.Statistics (p : Policy) (deeds : List (Deed κ ω)) (b : Arena κ ω Mutator) :
    Prop where
  /-- What was deferred was flushed or still waits. -/
  deferred : b.scene.ledger.tally.deferred
    = b.scene.ledger.tally.flushed + UInt64.ofNat b.waiting
  /-- What was marked by force was marked for an allocation at once, by a flush, or for somebody
  who asked. -/
  forcedMarks : b.scene.ledger.tally.forcedMarks
    = b.scene.ledger.tally.markedAtOnce + b.scene.ledger.tally.flushed
      + UInt64.ofNat ((Deed.moves deeds).countP Move.isForceMark)
  /-- What was marked on the store path was written to an array, or somebody asked. -/
  marks : b.scene.ledger.tally.marks
    = b.scene.ledger.tally.writes + UInt64.ofNat ((Deed.moves deeds).countP Move.isMark)
  /-- Allocations came to one of four ends, if they are compensated for. -/
  slowPath : b.scene.ledger.tally.markedAtOnce + b.scene.ledger.tally.deferred
      + b.scene.ledger.tally.referenceFree + b.scene.ledger.tally.young
    = if p.reducesInitialMarks then UInt64.ofNat ((Deed.moves deeds).countP Move.isAllocate) else 0
  /-- Drains were counted. -/
  drains : b.scene.ledger.tally.drains = UInt64.ofNat ((Deed.moves deeds).countP Move.isDrain)
  /-- Nothing was deferred where marks do not wait. -/
  deferred_eq_zero (hdefers : p.defers = false) : b.scene.ledger.tally.deferred = 0
  /-- Nothing was marked at once where they do. -/
  markedAtOnce_eq_zero (hdefers : p.defers = true) : b.scene.ledger.tally.markedAtOnce = 0

/-- **What the counters say exactly**, and the figures that are read off them. -/
structure Policy.ExactStatistics (p : Policy) (deeds : List (Deed κ ω)) (b : Arena κ ω Mutator) :
    Prop where
  /-- What was deferred was flushed or still waits. -/
  deferred : b.scene.ledger.tally.deferred.toNat
    = b.scene.ledger.tally.flushed.toNat + b.waiting
  /-- The marks that are outstanding are those that wait. -/
  outstanding : b.scene.ledger.tally.outstanding.toNat = b.waiting
  /-- What was marked by force was marked for an allocation at once, by a flush, or for somebody
  who asked. -/
  forcedMarks : b.scene.ledger.tally.forcedMarks.toNat
    = b.scene.ledger.tally.markedAtOnce.toNat + b.scene.ledger.tally.flushed.toNat
      + (Deed.moves deeds).countP Move.isForceMark
  /-- What was marked on the store path was written to an array, or somebody asked. -/
  marks : b.scene.ledger.tally.marks.toNat
    = b.scene.ledger.tally.writes.toNat + (Deed.moves deeds).countP Move.isMark
  /-- Allocations that are compensated for left the slow path. -/
  slowPath : ∃ n, b.scene.ledger.tally.slowPath = .ok n ∧
    n.toNat = if p.reducesInitialMarks then (Deed.moves deeds).countP Move.isAllocate else 0
  /-- Drains were counted. -/
  drains : b.scene.ledger.tally.drains.toNat = (Deed.moves deeds).countP Move.isDrain

section Relations

variable {b : Arena κ ω Mutator} {deeds : List (Deed κ ω)} {events : List Tally.Kind}

omit [RememberedSet κ] [HeapView ω] in
theorem Policy.Accounts.get_eq (hcounts : p.counts = true) (h : p.Accounts deeds b events)
    (k : Tally.Kind) : b.scene.ledger.tally.get k = UInt64.ofNat (events.count k) := by
  rw [h.tally, get_tallied hcounts]
  cases k <;> exact UInt64.zero_add _

omit [RememberedSet κ] [HeapView ω] in
theorem Policy.Accounts.statistics (hcounts : p.counts = true) (h : p.Accounts deeds b events) :
    p.Statistics deeds b := by
  have hget := h.get_eq hcounts
  have hdeferred : b.scene.ledger.tally.deferred = _ := hget .deferred
  have hflushed : b.scene.ledger.tally.flushed = _ := hget .flushed
  have hforced : b.scene.ledger.tally.forcedMarks = _ := hget .forcedMark
  have honce : b.scene.ledger.tally.markedAtOnce = _ := hget .markedAtOnce
  have hmarks : b.scene.ledger.tally.marks = _ := hget .mark
  have hwrites : b.scene.ledger.tally.writes = _ := hget .write
  have hfree : b.scene.ledger.tally.referenceFree = _ := hget .referenceFree
  have hyoung : b.scene.ledger.tally.young = _ := hget .young
  have hdrains : b.scene.ledger.tally.drains = _ := hget .drain
  refine ⟨?_, ?_, ?_, ?_, ?_, fun hdefers => ?_, fun hdefers => ?_⟩
  · rw [hdeferred, hflushed, h.waiting, UInt64.ofNat_add]
  · rw [hforced, honce, hflushed, h.forcedMarks, UInt64.ofNat_add, UInt64.ofNat_add]
  · rw [hmarks, hwrites, h.marks, UInt64.ofNat_add]
  · rw [honce, hdeferred, hfree, hyoung, ← UInt64.ofNat_add, ← UInt64.ofNat_add,
      ← UInt64.ofNat_add, h.slowPath, apply_ite UInt64.ofNat]
    rfl
  · rw [hdrains, h.drains]
  · rw [hdeferred, h.deferred hdefers]
    rfl
  · rw [honce, h.markedAtOnce hdefers]
    rfl

/-- A sum that stays in the word. -/
theorem Tally.sum_eq_ok {a b : UInt64} {m n : Nat} (ha : a.toNat = m) (hb : b.toNat = n)
    (h : m + n < UInt64.size) : ∃ c, sum a b = .ok c ∧ c.toNat = m + n := by
  subst ha hb
  refine ⟨a + b, ?_, ?_⟩
  · rw [sum, Word.add?, if_pos h]
  · rw [UInt64.toNat_add, Nat.mod_eq_of_lt h]

omit [RememberedSet κ] [HeapView ω] in
/-- What is counted of one kind is counted. -/
theorem Deed.ticked_le_counted (deeds : List (Deed κ ω)) (k : Tally.Kind) :
    ticked deeds k ≤ counted deeds := by
  rw [counted_eq]
  cases k <;> omega

omit [RememberedSet κ] [HeapView ω] in
/-- **A counter of what happens at most once in a move** has not wrapped. -/
theorem Policy.Accounts.toNat_get (hcounts : p.counts = true) (h : p.Accounts deeds b events)
    (hcounted : Deed.counted deeds < UInt64.size) {k : Tally.Kind}
    (hk : k ∈ [Tally.Kind.markedAtOnce, .deferred, .referenceFree, .young, .drain]) :
    (b.scene.ledger.tally.get k).toNat = events.count k := by
  have hle := Nat.le_trans (h.le_ticked k hk) (Deed.ticked_le_counted deeds k)
  rw [h.get_eq hcounts, UInt64.toNat_ofNat_of_lt' (Nat.lt_of_le_of_lt hle hcounted)]

omit [RememberedSet κ] [HeapView ω] in
/-- Nor has that of flushes, since what was flushed was deferred before. -/
theorem Policy.Accounts.toNat_flushed (hcounts : p.counts = true) (h : p.Accounts deeds b events)
    (hcounted : Deed.counted deeds < UInt64.size) :
    b.scene.ledger.tally.flushed.toNat = events.count .flushed := by
  have hdeferred := Nat.le_trans (h.le_ticked .deferred (by decide))
    (Deed.ticked_le_counted deeds .deferred)
  have hflushed : events.count .flushed ≤ events.count .deferred :=
    h.waiting ▸ Nat.le_add_right _ _
  have hget : b.scene.ledger.tally.flushed = _ := h.get_eq hcounts .flushed
  rw [hget, UInt64.toNat_ofNat_of_lt' (by omega)]

omit [RememberedSet κ] [HeapView ω] in
/-- **Forced marks are exact**: flushes and marks that were asked for are among those that were
counted. -/
theorem Policy.Accounts.exact_forcedMarks (hcounts : p.counts = true)
    (h : p.Accounts deeds b events) (hcounted : Deed.counted deeds < UInt64.size) :
    b.scene.ledger.tally.forcedMarks.toNat = b.scene.ledger.tally.markedAtOnce.toNat
      + b.scene.ledger.tally.flushed.toNat + (Deed.moves deeds).countP Move.isForceMark := by
  have honce : b.scene.ledger.tally.markedAtOnce.toNat = _ :=
    h.toNat_get hcounts hcounted (k := .markedAtOnce) (by decide)
  have hflushed := h.toNat_flushed hcounts hcounted
  have hflushes : b.scene.ledger.tally.flushed.toNat ≤ _ := h.get_le_ticked .flushed
  have hasked := h.isForceMark_le_ticked
  have hmarked := h.le_ticked .markedAtOnce (by decide)
  have hforced := h.forcedMarks
  have hget : b.scene.ledger.tally.forcedMarks = _ := h.get_eq hcounts .forcedMark
  rw [Deed.counted_eq] at hcounted
  rw [hget, UInt64.toNat_ofNat_of_lt' (by omega)]
  omega

omit [RememberedSet κ] [HeapView ω] in
/-- **Marks on the store path are exact**, writes among them. -/
theorem Policy.Accounts.exact_marks (hcounts : p.counts = true) (h : p.Accounts deeds b events)
    (hcounted : Deed.counted deeds < UInt64.size) :
    b.scene.ledger.tally.marks.toNat
      = b.scene.ledger.tally.writes.toNat + (Deed.moves deeds).countP Move.isMark := by
  have hwrites : b.scene.ledger.tally.writes.toNat ≤ _ := h.get_le_ticked .write
  have hasked := h.isMark_le_ticked
  have hmarks := h.marks
  -- a write counts twice, and how many there were is known only up to the size of a word
  have tmarks : b.scene.ledger.tally.marks.toNat = events.count .mark % UInt64.size :=
    (congrArg UInt64.toNat (h.get_eq hcounts .mark)).trans UInt64.toNat_ofNat'
  have twrites : b.scene.ledger.tally.writes.toNat = events.count .write % UInt64.size :=
    (congrArg UInt64.toNat (h.get_eq hcounts .write)).trans UInt64.toNat_ofNat'
  rw [Deed.counted_eq] at hcounted
  simp only [UInt64.size] at *
  omega

omit [RememberedSet κ] [HeapView ω] in
/-- **Allocations that left the slow path** can be added up. -/
theorem Policy.Accounts.exact_slowPath (hcounts : p.counts = true)
    (h : p.Accounts deeds b events) (hcounted : Deed.counted deeds < UInt64.size) :
    ∃ n, b.scene.ledger.tally.slowPath = .ok n ∧
      n.toNat = if p.reducesInitialMarks then (Deed.moves deeds).countP Move.isAllocate else 0 := by
  have hget : ∀ k ∈ [Tally.Kind.markedAtOnce, .deferred, .referenceFree, .young, .drain],
      (b.scene.ledger.tally.get k).toNat = events.count k := fun _ => h.toNat_get hcounts hcounted
  have honce := h.le_ticked .markedAtOnce (by decide)
  have hdeferred := h.le_ticked .deferred (by decide)
  have hfree := h.le_ticked .referenceFree (by decide)
  have hyoung := h.le_ticked .young (by decide)
  rw [Deed.counted_eq] at hcounted
  have tonce : b.scene.ledger.tally.markedAtOnce.toNat = _ := hget .markedAtOnce (by decide)
  have tdeferred : b.scene.ledger.tally.deferred.toNat = _ := hget .deferred (by decide)
  have tfree : b.scene.ledger.tally.referenceFree.toNat = _ := hget .referenceFree (by decide)
  have tyoung : b.scene.ledger.tally.young.toNat = _ := hget .young (by decide)
  obtain ⟨marked, hmarked, tmarked⟩ := Tally.sum_eq_ok tonce tdeferred (by omega)
  obtain ⟨unskipped, hunskipped, tunskipped⟩ := Tally.sum_eq_ok tmarked tfree (by omega)
  obtain ⟨n, hn, tn⟩ := Tally.sum_eq_ok tunskipped tyoung (by omega)
  refine ⟨n, ?_, tn.trans h.slowPath⟩
  rw [Tally.slowPath, hmarked]
  show (Tally.sum marked _ >>= fun unskipped => Tally.sum unskipped _) = _
  rw [hunskipped]
  exact hn

omit [RememberedSet κ] [HeapView ω] in
/-- **The relations are exact** as long as fewer events were counted than a word can hold: no
counter has wrapped. -/
theorem Policy.Accounts.exact (hcounts : p.counts = true) (h : p.Accounts deeds b events)
    (hcounted : Deed.counted deeds < UInt64.size) : p.ExactStatistics deeds b := by
  have hdeferred : b.scene.ledger.tally.deferred.toNat = _ :=
    h.toNat_get hcounts hcounted (k := .deferred) (by decide)
  have hdrains : b.scene.ledger.tally.drains.toNat = _ :=
    h.toNat_get hcounts hcounted (k := .drain) (by decide)
  have hflushed := h.toNat_flushed hcounts hcounted
  have hwaiting := h.waiting
  have hle : b.scene.ledger.tally.flushed ≤ b.scene.ledger.tally.deferred := by
    rw [UInt64.le_iff_toNat_le]
    omega
  refine ⟨by omega, ?_, h.exact_forcedMarks hcounts hcounted, h.exact_marks hcounts hcounted,
    h.exact_slowPath hcounts hcounted, hdrains.trans h.drains⟩
  rw [Tally.outstanding, if_pos hle, UInt64.toNat_sub_of_le _ _ hle]
  omega

end Relations

/-- **Statistics account for the state.** Along every course from an arena without threads the
counters, if events are counted, stand in their relations to the moves made and to the marks that
wait, exactly so before as many events have been counted as a word can hold; and a drain of every
thread that comes next answers with how many marks wait. If events are not counted, the counters
stay as they are whatever is asked for, faults included. -/
theorem Policy.statistics_account (τ : Type) [TableBacked κ] [SlotHolder τ] (p : Policy) :
    (p.counts = true → ∀ (a b : Arena κ ω Mutator) (deeds : List (Deed κ ω)),
      (∀ name, a.threads.find? name = none) → a.scene.ledger.tally = {} → p.Course a deeds b →
        p.Statistics deeds b ∧
        (Deed.counted deeds < UInt64.size → p.ExactStatistics deeds b) ∧
        ∀ (names : Option (List String)) (reply : Reply) (c : Arena κ ω Mutator),
          b.Accepts (.drain names) →
          (∀ name ∈ b.threads.names, name ∈ names.getD b.threads.names) →
          (p.perform (.drain names)).Yields b reply c → reply = .count b.waiting) ∧
    (p.counts = false → ∀ (a : Arena κ ω τ) (moves : List (Move ω τ)),
      a.scene.ledger.tally = {} → (p.performAll moves a).scene.ledger.tally = {}) := by
  constructor
  · intro hcounts a b deeds hbare huncounted h
    obtain ⟨events, haccounts⟩ := h.accounts hcounts hbare huncounted
    refine ⟨haccounts.statistics hcounts, haccounts.exact hcounts, fun names reply c => ?_⟩
    exact drain_replies (h.ordered_threads hbare)
  · intro hcounts a moves huncounted
    exact (tally_performAll hcounts moves a).trans huncounted

namespace SmallHeap

/-- The deeds of the two steps. -/
def deeds (p : Policy) : List (Deed CardTable Objects) :=
  [⟨start, .change (.attach "m" ⟨0, .empty⟩), attached p⟩,
    ⟨attached p, .allocate "m" 512, allocated p⟩]

theorem course_deeds (defers : Bool) :
    (policy defers).Course start (deeds (policy defers)) (allocated (policy defers)) := by
  have hattached : ((policy defers).perform (.change (.attach "m" ⟨0, .empty⟩))).Yields start .done
      (attached (policy defers)) := rfl
  have hallocated : ((policy defers).perform (.allocate "m" 512)).Yields
      (attached (policy defers)) .done (allocated (policy defers)) := by
    cases defers <;> rfl
  have hnew : start.Accepts (.change (.attach "m" ⟨0, .empty⟩)) := ⟨rfl, rfl⟩
  exact .step (.step .start hnew hattached) trivial hallocated

/-- The thread of the small heap has one mark waiting, which is outstanding, and which a drain
finds. -/
theorem statistics_allocated :
    (policy true).ExactStatistics (deeds (policy true)) (allocated (policy true)) ∧
      (allocated (policy true)).waiting = 1 ∧
      ∀ reply c, ((policy true).perform (.drain none)).Yields (allocated (policy true)) reply c →
        reply = .count 1 := by
  obtain ⟨-, hexact, hdrain⟩ := (Policy.statistics_account Mutator (policy true)).1 rfl
    start (allocated (policy true)) (deeds (policy true)) (fun _ => rfl) rfl (course_deeds true)
  exact ⟨hexact (by decide), rfl, fun reply c => hdrain none reply c trivial fun _ h => h⟩

end SmallHeap

end CardBarrier
