import CardBarrier.Proofs.Course

/-!
# What a move counts

A counter is bumped in one place and what it counts happens in another. A flush counts a forced
mark before it looks at the store and itself after it has emptied the slot, an allocation counts
whichever verdict it reached, an array write counts twice, and a drain counts each of its flushes
and itself. Read move by move this is a list of the kinds of events counted, and the
lists agree with the moves and with the marks that wait (`Policy.Counts`): as many marks are
deferred as are flushed or go on waiting, and nobody marks by force but flushes, allocations that
mark at once, and those who ask for it.
-/

namespace CardBarrier

open Act

/-! ## Kinds of moves -/

namespace Move

variable {ω τ : Type}

/-- An interval was written on the store path. -/
def isMark : Move ω τ → Bool
  | .mark _ => true
  | _ => false

/-- An interval is to be marked by force. -/
def isForceMark : Move ω τ → Bool
  | .forceMark _ => true
  | _ => false

/-- An allocation leaves the slow path. -/
def isAllocate : Move ω τ → Bool
  | .allocate _ _ => true
  | _ => false

/-- Threads are drained. -/
def isDrain : Move ω τ → Bool
  | .drain _ => true
  | _ => false

/-- The move is of none of these kinds, and counts for nothing by itself. -/
def isPlain (m : Move ω τ) : Bool := !(m.isMark || m.isForceMark || m.isAllocate || m.isDrain)

theorem isPlain_iff {m : Move ω τ} : m.isPlain = true ↔
    m.isMark = false ∧ m.isForceMark = false ∧ m.isAllocate = false ∧ m.isDrain = false := by
  simp [isPlain, and_assoc]

end Move

/-! ## Kinds of events -/

/-- What a flush counts, if it finds a mark waiting. -/
def flushKinds : Bool → List Tally.Kind
  | true => [.forcedMark, .flushed]
  | false => []

/-- What an allocation counts for its verdict. -/
def Policy.verdictKinds (p : Policy) : Tally.Kind ⊕ Interval → List Tally.Kind
  | .inl kind => [kind]
  | .inr _ => if p.defers then [.deferred] else [.forcedMark, .markedAtOnce]

theorem count_flatMap_flushKinds (bs : List Bool) (k : Tally.Kind) :
    (bs.flatMap flushKinds).count k = bs.count true * (flushKinds true).count k := by
  induction bs with
  | nil => exact (Nat.zero_mul _).symm
  | cons b bs ih =>
    rw [List.flatMap_cons, List.count_append, ih]
    cases b with
    | false =>
      rw [List.count_cons_of_ne Bool.false_ne_true]
      exact Nat.zero_add _
    | true => rw [List.count_cons_self, Nat.succ_mul, Nat.add_comm]

theorem count_flatMap_const {α : Type} (xs : List α) (kinds : List Tally.Kind) (k : Tally.Kind) :
    (xs.flatMap fun _ => kinds).count k = xs.length * kinds.count k := by
  induction xs with
  | nil => exact (Nat.zero_mul _).symm
  | cons x xs ih =>
    rw [List.flatMap_cons, List.count_append, ih, List.length_cons, Nat.succ_mul, Nat.add_comm]

/-- The kinds that an allocation counts, one by one. -/
structure Policy.AllocationKinds (p : Policy) (b : Bool) (verdict : Tally.Kind ⊕ Interval)
    (kinds : List Tally.Kind) : Prop where
  deferred : kinds.count .deferred = (verdict.isRight && p.defers).toNat
  flushed : kinds.count .flushed = b.toNat
  forcedMarks : kinds.count .forcedMark = kinds.count .markedAtOnce + b.toNat
  slowPath : kinds.count .markedAtOnce + kinds.count .deferred + kinds.count .referenceFree
    + kinds.count .young = 1
  others : kinds.count .mark = 0 ∧ kinds.count .write = 0 ∧ kinds.count .drain = 0
  markedAtOnce : p.defers = true → kinds.count .markedAtOnce = 0

theorem Policy.allocationKinds {p : Policy} {verdict : Tally.Kind ⊕ Interval}
    (hkind : ∀ kind, verdict = .inl kind → kind = .referenceFree ∨ kind = .young) (b : Bool) :
    p.AllocationKinds b verdict (flushKinds b ++ p.verdictKinds verdict) := by
  have hverdict : p.AllocationKinds false verdict (p.verdictKinds verdict) := by
    unfold verdictKinds
    cases verdict with
    | inl kind =>
      obtain rfl | rfl := hkind kind rfl
      · exact ⟨rfl, rfl, rfl, rfl, ⟨rfl, rfl, rfl⟩, fun _ => rfl⟩
      · exact ⟨rfl, rfl, rfl, rfl, ⟨rfl, rfl, rfl⟩, fun _ => rfl⟩
    | inr r =>
      cases hdefers : p.defers with
      | true => exact ⟨by rw [hdefers]; rfl, rfl, rfl, rfl, ⟨rfl, rfl, rfl⟩, fun _ => rfl⟩
      | false =>
        refine ⟨by rw [hdefers]; rfl, rfl, rfl, rfl, ⟨rfl, rfl, rfl⟩, fun h => ?_⟩
        rw [hdefers] at h
        cases h
  cases b with
  | false => exact hverdict
  | true =>
    obtain ⟨hdeferred, hflushed, hforced, hslow, ⟨hmark, hwrite, hdrain⟩, honce⟩ := hverdict
    refine ⟨?_, ?_, ?_, ?_, ⟨?_, ?_, ?_⟩, fun h => ?_⟩
    case refine_8 => exact honce h
    all_goals
      simp only [flushKinds, List.cons_append, List.nil_append, List.count_cons, beq_iff_eq,
        reduceCtorEq, if_false, if_true, Bool.toNat_true, Bool.toNat_false] at *
      omega

variable {κ ω : Type} [RememberedSet κ] [HeapView ω] {p : Policy}

section Parts

variable {s t : Site κ ω Mutator} {b : Bool}

/-- **A flush counts a forced mark and itself**, if it finds a mark waiting. -/
theorem Flushed.tally_eq (h : Flushed p s b t) :
    t.scene.ledger.tally = p.tallied (flushKinds b) s.scene.ledger.tally := by
  cases h with
  | nothing _ => exact (Policy.tallied_nil _ _).symm
  | mark _ _ _ hledger _ _ =>
    rw [hledger]
    rfl

theorem Policy.Round.tally_eq {ts : List Mutator} {bs : List Bool} {s v : Scene κ ω}
    (h : p.Round ts s bs v) :
    v.ledger.tally = p.tallied (bs.flatMap flushKinds) s.ledger.tally := by
  induction h with
  | nil => exact (tallied_nil _ _).symm
  | cons hflush _ ih =>
    rw [ih, (flushed_of_yields hflush).tally_eq, tallied_tallied, List.flatMap_cons]

/-- **An allocation counts what its verdict says.** -/
theorem Concluded.tally_eq {verdict : Tally.Kind ⊕ Interval} (h : Concluded p s t verdict) :
    t.scene.ledger.tally = p.tallied (p.verdictKinds verdict) s.scene.ledger.tally := by
  cases h with
  | skipped hledger _ _ =>
    rw [hledger]
    rfl
  | deferred hdefers hledger _ _ =>
    rw [hledger, Policy.verdictKinds, if_pos hdefers]
  | marked hdefers _ hledger _ _ =>
    rw [hledger, Policy.verdictKinds, if_neg (by simp [hdefers])]

/-- **A mark waits after an allocation** if its verdict left one to be made and marks wait. -/
theorem Concluded.waits_eq {verdict : Tally.Kind ⊕ Interval} (h : Concluded p s t verdict)
    (hslot : s.thread.slot = .empty) : t.thread.waits = (verdict.isRight && p.defers) := by
  cases h with
  | skipped _ hthread _ =>
    rw [hthread]
    exact Mutator.waits_eq_false hslot
  | deferred hdefers _ hthread _ =>
    rw [hthread, hdefers]
    rfl
  | marked hdefers _ _ hthread _ =>
    rw [hthread, hdefers, Bool.and_false]
    exact Mutator.waits_eq_false hslot

end Parts

/-! ## What a move counts -/

/-- **What a move counts** agrees with what it is and with the marks that wait before and after
it. -/
structure Policy.Counts (p : Policy) (a : Arena κ ω Mutator) (m : Move ω Mutator)
    (c : Arena κ ω Mutator) (kinds : List Tally.Kind) : Prop where
  /-- These are the kinds of events that it counts, if events are counted. -/
  tally : c.scene.ledger.tally = p.tallied kinds a.scene.ledger.tally
  /-- What is deferred waits until it is flushed. -/
  waiting : kinds.count .deferred + a.waiting = kinds.count .flushed + c.waiting
  /-- Marks are made by force by allocations, by flushes and by those who ask for them. -/
  forcedMarks : kinds.count .forcedMark
    = kinds.count .markedAtOnce + kinds.count .flushed + [m].countP Move.isForceMark
  /-- Marks are made on the store path by writes and by those who ask for them. -/
  marks : kinds.count .mark = kinds.count .write + [m].countP Move.isMark
  /-- An allocation that is compensated for has one of four ends. -/
  slowPath : kinds.count .markedAtOnce + kinds.count .deferred + kinds.count .referenceFree
      + kinds.count .young
    = if p.reducesInitialMarks then [m].countP Move.isAllocate else 0
  /-- A drain counts itself. -/
  drains : kinds.count .drain = [m].countP Move.isDrain
  /-- Nothing is marked at once where marks wait. -/
  markedAtOnce (hdefers : p.defers = true) : kinds.count .markedAtOnce = 0
  /-- Nothing is deferred where they do not. -/
  deferred (hdefers : p.defers = false) : kinds.count .deferred = 0
  /-- A mark that is asked for counts once. -/
  single (hm : m.isMark = true ∨ m.isForceMark = true) : kinds.length = 1

section Step

variable {a c : Arena κ ω Mutator} {m : Move ω Mutator} {reply : Reply} {name : String}
  {t u : Mutator}

omit [RememberedSet κ] [HeapView ω] in
/-- A thread that is put back changes what waits by what waits in its own slot. -/
theorem Arena.waiting_insert (ha : a.threads.Ordered) (hfind : a.threads.find? name = some t) :
    (a.threads.insert name u).count Mutator.waits + t.waits.toNat = a.waiting + u.waits.toNat := by
  have hcount := Threads.count_insert (P := Mutator.waits) (n := name) (t := u) ha
  have htoNat : ∀ v : Mutator, [v].countP Mutator.waits = v.waits.toNat := fun v => by
    cases hv : v.waits <;> simp [hv]
  rw [hfind, Option.toList_some, htoNat, htoNat] at hcount
  exact hcount

omit [RememberedSet κ] [HeapView ω] in
/-- **A move that is of no kind in particular** counts nothing. -/
theorem Policy.Counts.of_plain (hm : m.isPlain = true)
    (hledger : c.scene.ledger.tally = a.scene.ledger.tally) (hwaiting : c.waiting = a.waiting) :
    p.Counts a m c [] := by
  obtain ⟨hmark, hforce, hallocate, hdrain⟩ := Move.isPlain_iff.1 hm
  refine ⟨hledger.trans (tallied_nil _ _).symm, ?_, ?_, ?_, ?_, ?_, fun _ => rfl, fun _ => rfl, ?_⟩
  · rw [hwaiting, List.count_nil, List.count_nil]
  all_goals simp [hmark, hforce, hallocate, hdrain]

omit [RememberedSet κ] [HeapView ω] in
/-- **What marks and writes count.** -/
theorem Policy.Orders.counts {calls : List MarkCall} {kinds : List Tally.Kind} (cards : κ)
    (h : p.Orders m calls kinds) :
    p.Counts a m (a.withLedger ⟨cards, p.tallied kinds a.scene.ledger.tally⟩) kinds := by
  cases h with
  | mark r | forceMark r =>
    refine ⟨rfl, rfl, rfl, rfl, (ite_self _).symm, rfl, fun _ => rfl, fun _ => rfl, fun _ => rfl⟩
  | writeSpan r =>
    refine ⟨rfl, rfl, rfl, rfl, (ite_self _).symm, rfl, fun _ => rfl, fun _ => rfl, ?_⟩
    rintro (hm | hm) <;> cases hm
  | @writes _ writes rs hwrites _ =>
    have hplain : m.isPlain = true := by cases m <;> first | rfl | cases hwrites
    obtain ⟨hmark, hforce, hallocate, hdrain⟩ := Move.isPlain_iff.1 hplain
    have hcount := count_flatMap_const rs [.write, .mark]
    refine ⟨rfl, ?_, ?_, ?_, ?_, ?_, fun _ => hcount _, fun _ => hcount _, ?_⟩
    · rw [hcount, hcount]
      rfl
    all_goals simp [hcount, hmark, hforce, hallocate, hdrain]

omit [RememberedSet κ] [HeapView ω] in
/-- **What flushes count**, by themselves or in a drain. -/
theorem Policy.Counts.of_flushes {bs : List Bool} (hmark : m.isMark = false)
    (hforce : m.isForceMark = false) (hallocate : m.isAllocate = false)
    (htally : c.scene.ledger.tally
      = p.tallied (bs.flatMap flushKinds ++ if m.isDrain then [.drain] else [])
        a.scene.ledger.tally)
    (hwaiting : a.waiting = bs.count true + c.waiting) : ∃ kinds, p.Counts a m c kinds := by
  have hcount : ∀ k, (bs.flatMap flushKinds ++ if m.isDrain then [Tally.Kind.drain] else []).count k
      = bs.count true * (flushKinds true).count k
        + (if m.isDrain then [Tally.Kind.drain] else []).count k := fun k => by
    rw [List.count_append, count_flatMap_flushKinds]
  refine ⟨_, htally, ?_, ?_, ?_, ?_, ?_, fun _ => ?_, fun _ => ?_, ?_⟩
  case refine_8 => simp [hmark, hforce]
  all_goals
    simp only [hcount]
    cases hdrain : m.isDrain <;> simp [flushKinds, hwaiting, hmark, hforce, hallocate, hdrain]

omit [RememberedSet κ] [HeapView ω] in
theorem Mutator.count_map_waits (ts : List Mutator) :
    (ts.map Mutator.waits).count true = ts.countP Mutator.waits := by
  rw [List.count, List.countP_map]
  exact List.countP_congr fun t _ => by simp

omit [RememberedSet κ] [HeapView ω] in
theorem Mutator.countP_map_emptied (ts : List Mutator) :
    (ts.map Mutator.emptied).countP Mutator.waits = 0 := by
  rw [List.countP_map]
  exact List.countP_eq_zero.2 fun t _ => Bool.false_ne_true

/-- **Threads that are drained** have nothing waiting afterwards, and the drain found out how much
there was. -/
theorem Policy.Round.waiting_eq {names : List String} {ts : List Mutator} {bs : List Bool}
    {s v : Scene κ ω} (h : p.Round ts s bs v) (ha : a.threads.Ordered) (hnames : names.Nodup)
    (hfind : names.map a.threads.find? = ts.map some) :
    a.waiting = bs.count true
      + (a.threads.insertAll (names.zip (ts.map Mutator.emptied))).count Mutator.waits := by
  have hcount := Threads.count_insertAll (P := Mutator.waits) ha hnames hfind
    (List.length_map Mutator.emptied)
  rw [Mutator.countP_map_emptied, ← Mutator.count_map_waits, ← h.eq_waits, Nat.add_zero,
    Nat.add_comm] at hcount
  exact hcount.symm

omit [RememberedSet κ] [HeapView ω] in
/-- **An allocation that is not compensated for** counts nothing. -/
theorem Policy.Counts.of_unreduced {object : Address} (hreduces : p.reducesInitialMarks = false)
    (ha : a.threads.Ordered) (hfind : a.threads.find? name = some t) :
    p.Counts a (.allocate name object) ⟨a.scene, a.threads.insert name t⟩ [] := by
  refine ⟨(tallied_nil _ _).symm, ?_, rfl, rfl, ?_, rfl, fun _ => rfl, fun _ => rfl, ?_⟩
  · have hwaiting := Arena.waiting_insert (u := t) ha hfind
    show 0 + a.waiting = 0 + (a.threads.insert name t).count Mutator.waits
    omega
  · rw [hreduces]
    rfl
  · rintro (hm | hm) <;> cases hm

/-- **An allocation** counts what its flush does, and its verdict. -/
theorem Policy.Counts.of_allocated {object : Address} {b : Bool}
    {verdict : Tally.Kind ⊕ Interval} {s u v : Site κ ω Mutator}
    (hreduces : p.reducesInitialMarks = true) (ha : a.threads.Ordered)
    (hfind : a.threads.find? name = some t)
    (hflush : (p.flush .allocation).Yields ⟨a.scene, t⟩ b s)
    (hassess : (Workplace.assess object).Yields s verdict u)
    (hconcluded : Concluded p u v verdict) :
    p.Counts a (.allocate name object) ⟨v.scene, a.threads.insert name v.thread⟩
      (flushKinds b ++ p.verdictKinds verdict) := by
  have hflushed := flushed_of_yields hflush
  have hu := Workplace.untouched_assess hassess
  have htally : v.scene.ledger.tally
      = p.tallied (flushKinds b ++ p.verdictKinds verdict) a.scene.ledger.tally := by
    rw [hconcluded.tally_eq, hu.ledger, hflushed.tally_eq, tallied_tallied]
  have hslot : u.thread.slot = .empty := by
    rw [hu.thread, hflushed.thread_eq]
    rfl
  have hwaiting := Arena.waiting_insert (u := v.thread) ha hfind
  rw [hconcluded.waits_eq hslot, ← hflushed.eq_waits] at hwaiting
  have hskips : ∀ kind, verdict = .inl kind → kind = .referenceFree ∨ kind = .young :=
    fun kind hkind => Workplace.assess_skips (hkind ▸ hassess)
  have hkinds := p.allocationKinds hskips b
  obtain ⟨hmark, hwrite, hdrain⟩ := hkinds.others
  refine ⟨htally, ?_, ?_, ?_, ?_, hdrain, hkinds.markedAtOnce, fun hdefers => ?_, ?_⟩
  · rw [hkinds.deferred, hkinds.flushed]
    show _ = _ + (a.threads.insert name v.thread).count Mutator.waits
    omega
  · exact hkinds.forcedMarks.trans (hkinds.flushed ▸ rfl)
  · rw [hmark, hwrite]
    rfl
  · rw [hkinds.slowPath, hreduces]
    rfl
  · rw [hkinds.deferred, hdefers, Bool.and_false]
    rfl
  · rintro (hm | hm) <;> cases hm

/-- **Every move counts what it should.** -/
theorem Policy.Outcome.counts [TableBacked κ] (ha : a.threads.Ordered) (hm : a.Accepts m)
    (h : p.Outcome a m reply c) : ∃ kinds, p.Counts a m c kinds := by
  cases h with
  | ordered horders hmade => exact ⟨_, horders.counts _⟩
  | unreduced hreduces hfind => exact ⟨_, .of_unreduced hreduces ha hfind⟩
  | allocated hreduces hfind hflush hassess hconcluded =>
    exact ⟨_, .of_allocated hreduces ha hfind hflush hassess hconcluded⟩
  | @flushed _ _ name point t b s u hmove hfind hflush hs =>
    have hflushed := flushed_of_yields hflush
    have hwaiting := Arena.waiting_insert (u := u.thread) ha hfind
    rw [hs.thread, hflushed.thread_eq, ← hflushed.eq_waits, Mutator.waits_emptied] at hwaiting
    have htally : u.scene.ledger.tally
        = p.tallied ([b].flatMap flushKinds ++ []) a.scene.ledger.tally := by
      rw [hs.ledger, hflushed.tally_eq, List.append_nil, List.flatMap_singleton]
    have hcount : a.waiting
        = [b].count true + (a.threads.insert name u.thread).count Mutator.waits := by
      rw [hs.thread, hflushed.thread_eq]
      cases b <;> simpa [Nat.add_comm, eq_comm] using hwaiting
    obtain ⟨rfl, -⟩ | rfl := hmove
    · exact Counts.of_flushes rfl rfl rfl htally hcount
    · exact Counts.of_flushes rfl rfl rfl htally hcount
  | drained hfind hround hledger hthreads _ =>
    have htally := congrArg Ledger.tally hledger
    rw [hround.tally_eq, tallied_tallied] at htally
    refine Counts.of_flushes rfl rfl rfl htally ?_
    rw [hround.waiting_eq ha (hm.nodup_drain ha) hfind, ← hthreads]
    rfl
  | reported hledger _ hthreads =>
    exact ⟨[], .of_plain rfl (congrArg Ledger.tally hledger)
      (congrArg (Threads.count Mutator.waits) hthreads)⟩
  | collected hcollects _ =>
    refine ⟨[], .of_plain ?_ rfl rfl⟩
    cases m <;> first | rfl | cases hcollects
  | @attached name t _ _ hledger _ hthreads =>
    have hcount := Threads.count_insert (P := Mutator.waits) (n := name) (t := t) ha
    rw [hm.1, ← hthreads] at hcount
    refine ⟨[], .of_plain rfl (congrArg Ledger.tally hledger) ?_⟩
    show c.threads.count Mutator.waits = a.threads.count Mutator.waits
    simpa [Mutator.waits_eq_false hm.2] using hcount
  | @discarded name t _ hfind hslot =>
    have hcount := Threads.count_erase (P := Mutator.waits) (n := name) ha
    rw [hfind] at hcount
    refine ⟨[], .of_plain rfl rfl ?_⟩
    show (a.threads.erase name).count Mutator.waits = a.threads.count Mutator.waits
    simpa [Mutator.waits_eq_false hslot] using hcount
  | rearranged change => exact ⟨[], .of_plain rfl rfl rfl⟩

end Step

end CardBarrier
