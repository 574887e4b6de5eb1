import CardBarrier.Proofs.ArrayWrite
import CardBarrier.Proofs.InStep
import CardBarrier.Proofs.TableHistory

/-!
# Marks in safekeeping

A mark that waits in a slot is in safekeeping there, and once its cards are dirty it is so on the
table. A flush moves it from the one place to the other and checks half a dozen things on the way,
any of which may stop it, and more may stop the work of which the flush is a part. Wherever that
happens, the mark is in one place or the other (`Arena.MarksKept`), whatever the objects answer: the
checks come before the marks are made, the slot is emptied after, and nothing a thread does later
makes a card clean.

A flush by itself that stops has done nothing at all (`Policy.Thwarted`), except that a mark over an
interval that has no cards is counted before it is found to have none.
-/

namespace CardBarrier

open Act

/-! ## Steps that secure something -/

namespace Act

variable {σ α β : Type} {I J : σ → Prop}

/-- **A step secures a property** if it comes through nowhere without it; where the step stops,
the property may be secured or things may still be as they were. -/
def Secures (I J : σ → Prop) (act : Act σ α) : Prop :=
  ∀ s, I s → (∃ a t, act.Yields s a t ∧ J t) ∨ ∃ f t, act.run s = (.error f, t) ∧ (I t ∨ J t)

theorem Secures.or {act : Act σ α} (h : Secures I J act) {s : σ} (hs : I s) :
    I (act.run s).2 ∨ J (act.run s).2 := by
  obtain ⟨a, t, hrun, ht⟩ | ⟨f, t, hrun, ht⟩ := h s hs
  · rw [hrun.run_eq]
    exact .inr ht
  · rw [hrun]
    exact ht

/-- What is secured stays so. -/
theorem Secures.bind {act : Act σ α} {next : α → Act σ β} (h : Secures I J act)
    (hnext : ∀ a, Keeps J (next a)) : Secures I J (act >>= next) := by
  intro s hs
  unfold Yields
  rw [run_bind]
  obtain ⟨a, t, hrun, ht⟩ | ⟨f, t, hrun, ht⟩ := h s hs
  · rw [hrun.run_eq]
    have hu := hnext a t ht
    dsimp only
    rcases hlast : (next a).run t with ⟨f | b, u⟩
    · exact .inr ⟨f, u, rfl, .inr (by rwa [hlast] at hu)⟩
    · exact .inl ⟨b, u, rfl, by rwa [hlast] at hu⟩
  · rw [hrun]
    exact .inr ⟨f, t, rfl, ht⟩

/-- Until it is secured things stay as they were. -/
theorem Keeps.bind_secures {act : Act σ α} {next : α → Act σ β} (h : Keeps I act)
    (hnext : ∀ a, Secures I J (next a)) : Secures I J (act >>= next) := by
  intro s hs
  have ht := h s hs
  unfold Yields
  rw [run_bind]
  rcases hrun : act.run s with ⟨f | a, t⟩
  · exact .inr ⟨f, t, rfl, .inl (by rwa [hrun] at ht)⟩
  · exact hnext a t (by rwa [hrun] at ht)

/-- **A sequence stops** where its first step does, or where the rest does. -/
theorem run_bind_eq_error {act : Act σ α} {next : α → Act σ β} {s u : σ} {f : Fault}
    (h : (act >>= next).run s = (.error f, u)) :
    act.run s = (.error f, u) ∨ ∃ a t, act.Yields s a t ∧ (next a).run t = (.error f, u) := by
  rw [run_bind] at h
  rcases hrun : act.run s with ⟨f' | a, t⟩
  · rw [hrun] at h
    cases h
    exact .inl rfl
  · rw [hrun] at h
    exact .inr ⟨a, t, hrun, h⟩

theorem Succeeds.not_error {act : Act σ α} {s u : σ} {f : Fault} (h : act.Succeeds s) :
    act.run s ≠ (.error f, u) := by
  obtain ⟨a, t, hrun⟩ := h
  intro heq
  have hout : (.ok a : Except Fault α) = .error f := congrArg Prod.fst (hrun.symm.trans heq)
  cases hout

end Act

/-! ## Marks on a store -/

/-- The interval of a mark. -/
def MarkCall.region : MarkCall → Interval
  | mark r => r
  | forceMark r => r

/-- **Every card that the interval meets is dirty.** -/
def CardTable.Marked (t : CardTable) (r : Interval) : Prop := ∀ i, t.geometry.Meets i r → t.Dirty i

namespace CardTable

variable {t u : CardTable} {r r' : Interval}

theorem marked_mark (h : t.mark r = .ok u) : u.Marked r := by
  intro i hi
  rw [(like_mark h).geometry] at hi
  exact (dirty_mark h).2 (.inr hi)

/-- A mark makes no card clean. -/
theorem Marked.mark (ht : t.Marked r) (h : t.mark r' = .ok u) : u.Marked r := by
  intro i hi
  rw [(like_mark h).geometry] at hi
  exact (dirty_mark h).2 (.inl (ht i hi))

end CardTable

namespace Store

/-- A mark on a store is one on its table. -/
theorem exists_run_make (call : MarkCall) (s : Store) :
    ∃ t : Store, call.make.run s = ((call.make.run (TableBacked.table s)).1, t) ∧
      TableBacked.table t = (call.make.run (TableBacked.table s)).2 := by
  cases s with
  | inl x => cases call <;> exact ⟨_, rfl, rfl⟩
  | inr x => cases call <;> exact ⟨_, rfl, rfl⟩

/-- **A store makes a mark on its table**, or stops at an interval that is not covered, and then
the table is as it was. -/
theorem make_cases (call : MarkCall) (s : Store) :
    (∃ t : Store, call.make.Yields s () t ∧
      (TableBacked.table s).mark call.region = .ok (TableBacked.table t)) ∨
    ∃ (f : Fault) (t : Store), call.make.run s = (.error f, t) ∧
      TableBacked.table t = TableBacked.table s ∧
        (TableBacked.table s).covered.includes call.region = false := by
  obtain ⟨t, hrun, ht⟩ := exists_run_make call s
  have htable : call.make.run (TableBacked.table s)
      = (Act.update (CardTable.mark call.region)).run (TableBacked.table s) := by
    cases call <;> rfl
  rw [Act.update, run_ofFun] at htable
  cases hr : (TableBacked.table s).covered.includes call.region with
  | true =>
    obtain ⟨u, hu⟩ := CardTable.exists_mark_of_includes hr
    rw [hu] at htable
    rw [htable] at hrun ht
    exact .inl ⟨t, hrun, by rw [hu, ht]⟩
  | false =>
    obtain ⟨f, hf⟩ : ∃ f, (TableBacked.table s).mark call.region = .error f := by
      unfold CardTable.mark CardTable.put
      rw [Geometry.cardsOf_eq_error hr]
      exact ⟨_, rfl⟩
    rw [hf] at htable
    rw [htable] at hrun ht
    exact .inr ⟨f, t, hrun, ht, rfl⟩

end Store

/-- **Whatever marks keep true of a table**, counting and marking do. -/
theorem Books.coupling_table {Q : CardTable → Prop}
    (hQ : ∀ r t u, CardTable.mark r t = .ok u → Q t → Q u) (p : Policy) :
    Books.Coupling p p fun l m : Ledger Store => l = m ∧ Q (TableBacked.table l.cards) := by
  have hmake : ∀ call : MarkCall, Keeps (fun l : Ledger Store => Q (TableBacked.table l.cards))
      (Ledger.onCards call.make) := by
    intro call l hl
    show Q (TableBacked.table (call.make.run l.cards).2)
    obtain ⟨t, hmade, hmark⟩ | ⟨f, t, hrun, htable, -⟩ := Store.make_cases call l.cards
    · rw [hmade.run_eq]
      exact hQ _ _ _ hmark hl
    · rw [hrun, htable]
      exact hl
  refine ⟨fun kind => ?_, fun r => couples_self_iff.2 (hmake (.mark r)),
    fun r => couples_self_iff.2 (hmake (.forceMark r))⟩
  unfold Policy.count
  exact couples_ite (couples_self_iff.2 fun l hl => hl) (couples_pure ())

/-! ## The work of one thread -/

section Work

variable {ω : Type} [HeapView ω] {p : Policy} {s u : Site Store ω Mutator} {r : Interval}

/-- The mark waits in the slot. -/
def Site.Waiting (r : Interval) (s : Site Store ω Mutator) : Prop := s.thread.slot = .holding r

/-- The mark has been made. -/
def Site.Made (r : Interval) (s : Site Store ω Mutator) : Prop :=
  (TableBacked.table s.scene.ledger.cards).Marked r

/-- **A thread at work does not undo what marks keep true of a table.** -/
theorem Workplace.coupling_table {τ : Type} [SlotHolder τ] {Q : CardTable → Prop}
    (hQ : ∀ r t u, CardTable.mark r t = .ok u → Q t → Q u) (p : Policy) :
    Workplace.Coupling p p (Site.InStep fun l m => l = m ∧ Q (TableBacked.table l.cards) :
      Site Store ω τ → Site Store ω τ → Prop) := by
  refine Site.coupling_inStep rfl rfl (Books.coupling_table hQ p) ?_
  rintro l _ a ⟨rfl, -⟩
  rfl

/-- What has been made stays made. -/
theorem Workplace.coupling_made (r : Interval) (p : Policy) :
    Workplace.Coupling p p (Site.InStep fun l m => l = m ∧ (TableBacked.table l.cards).Marked r :
      Site Store ω Mutator → Site Store ω Mutator → Prop) :=
  coupling_table (fun _ _ _ hmark ht => CardTable.Marked.mark ht hmark) p

/-- **The checks on a deferred mark** leave ledger and thread as they are, whichever of them
fails. -/
theorem Policy.keeps_requireDue {κ τ : Type} [RememberedSet κ] [SlotHolder τ] (p : Policy)
    (r : Interval) (l : Ledger κ) (t : τ) :
    Keeps (fun s : Site κ ω τ => s.scene.ledger = l ∧ s.thread = t) (p.requireDue r) :=
  couples_self_iff.1 <| Workplace.Coupling.couples_requireDue rfl
    (fun _ => couples_self_iff.2 fun _ hs => hs) (fun _ => couples_self_iff.2 fun _ hs => hs)
    (fun _ => couples_self_iff.2 fun _ hs => hs) r

theorem Policy.run_forceMark {κ : Type} [RememberedSet κ] (p : Policy) (r : Interval)
    (l : Ledger κ) : (p.forceMark r).run l = (((RememberedSet.forceMark r).run l.cards).1,
      ⟨((RememberedSet.forceMark r).run l.cards).2, p.tallied [.forcedMark] l.tally⟩) := by
  unfold forceMark
  rw [run_bind, run_count]
  rfl

/-- **A mark by force** is made, or the interval is not covered and the table is as it was. -/
theorem Policy.forceMark_cases (p : Policy) (r : Interval) (s : Site Store ω Mutator) :
    (∃ t : Store, (p.forceMark r).Yields s ()
        (s.withLedger ⟨t, p.tallied [.forcedMark] s.scene.ledger.tally⟩) ∧
      (TableBacked.table t).Marked r) ∨
    ∃ (f : Fault) (t : Store), (p.forceMark r).run s
        = (.error f, s.withLedger ⟨t, p.tallied [.forcedMark] s.scene.ledger.tally⟩) ∧
      TableBacked.table t = TableBacked.table s.scene.ledger.cards ∧
        (TableBacked.table s.scene.ledger.cards).covered.includes r = false := by
  obtain ⟨t, hmade, hmark⟩ | ⟨f, t, hrun, htable, hout⟩ :=
    Store.make_cases (.forceMark r) s.scene.ledger.cards
  · exact .inl ⟨t, forceMark_yields_site.2 ⟨t, hmade, rfl⟩, CardTable.marked_mark hmark⟩
  · refine .inr ⟨f, t, ?_, htable, hout⟩
    have hledger : (p.forceMark r).run s.scene.ledger
        = (.error f, ⟨t, p.tallied [.forcedMark] s.scene.ledger.tally⟩) := by
      rw [run_forceMark]
      exact congrArg (fun x : Except Fault Unit × Store => (x.1, (⟨x.2, _⟩ : Ledger Store))) hrun
    rw [forceMark_site]
    exact congrArg (fun x : Except Fault Unit × Ledger Store => (x.1, s.withLedger x.2)) hledger

/-- **A flush of a slot that is taken.** -/
theorem Policy.run_flush_of_holding {κ : Type} [RememberedSet κ] {s : Site κ ω Mutator}
    (hslot : s.thread.slot = .holding r) (point : FlushPoint) :
    (p.flush point).run s = (p.flushMark point r >>= fun _ => pure true : Act _ Bool).run s := by
  have hask : (Workplace.ask : Act (Site κ ω Mutator) _).run s = (.ok (some r), s) :=
    Site.yields_ask.2 ⟨by rw [hslot]; rfl, rfl⟩
  rw [flush_eq, run_bind, hask]

/-- **A flush secures the mark** that it finds. -/
theorem Policy.secures_flush (p : Policy) (point : FlushPoint) (r : Interval) :
    Secures (Site.Waiting r) (Site.Made r) (p.flush point : Act (Site Store ω Mutator) Bool) := by
  have hmade := Workplace.coupling_made (ω := ω) r p
  have hdue : Keeps (Site.Waiting r) (p.requireDue r : Act (Site Store ω Mutator) Unit) := by
    intro s hs
    have hthread := (p.keeps_requireDue r s.scene.ledger s.thread s ⟨rfl, rfl⟩).2
    exact (congrArg Mutator.slot hthread).trans hs
  have hforce : Secures (Site.Waiting r) (Site.Made r)
      (p.forceMark r : Act (Site Store ω Mutator) Unit) := by
    intro s hs
    obtain ⟨t, hmark, ht⟩ | ⟨f, t, hrun, -, -⟩ := p.forceMark_cases r s
    · exact .inl ⟨(), _, hmark, ht⟩
    · exact .inr ⟨f, _, hrun, .inl hs⟩
  have hmark : Secures (Site.Waiting r) (Site.Made r)
      (p.flushMark point r : Act (Site Store ω Mutator) Unit) :=
    hdue.bind_secures fun _ => hforce.bind fun _ => (Site.keeps_of_inStep hmade.release).bind
      fun _ => Site.keeps_of_inStep (hmade.reportFlush point r)
  have hanswer : ∀ _ : Unit, Keeps (Site.Made r) (pure true : Act (Site Store ω Mutator) Bool) :=
    fun _ _ hu => hu
  intro s hs
  unfold Yields
  rw [run_flush_of_holding hs]
  exact hmark.bind hanswer s hs

/-- **An allocation leaves the mark in safekeeping** that it finds waiting. -/
theorem Policy.finishAllocation_safe (p : Policy) (object : Address)
    (hs : s.Waiting r) : ((p.finishAllocation object).run s).2.Waiting r ∨
      ((p.finishAllocation object).run s).2.Made r := by
  have hmade := Workplace.coupling_made (ω := ω) r p
  rw [finishAllocation_eq]
  split
  · have hobject : Keeps (Site.Waiting r)
        (requireObject object : Act (Site Store ω Mutator) Unit) := by
      intro u hu
      unfold requireObject
      split
      · exact hu
      · exact hu
    have hjudge : Secures (Site.Waiting r) (Site.Made r)
        (p.judge object : Act (Site Store ω Mutator) _) :=
      (p.secures_flush .allocation r).bind fun _ => Site.keeps_of_inStep (hmade.assess object)
    have hall := hobject.bind_secures fun _ =>
      hjudge.bind fun verdict => Site.keeps_of_inStep (hmade.conclude object verdict)
    exact hall.or hs
  · exact .inl hs

/-- **So does a detachment.** -/
theorem Policy.detach_safe (p : Policy) (hs : s.Waiting r) :
    (p.detach.run s).2.Waiting r ∨ (p.detach.run s).2.Made r := by
  have hmade := Workplace.coupling_made (ω := ω) r p
  rw [detach_eq]
  have hall := (p.secures_flush .detach r).bind fun flushed =>
    Site.keeps_of_inStep (hmade.announce (.detached flushed) ⟨_, rfl⟩)
  exact hall.or hs

/-- **A flush that stops has done nothing**: neither slot nor table nor counters are other than they
were, unless the interval of the mark has no cards, in which case the mark has been counted. -/
structure Policy.Thwarted (p : Policy) (s u : Site Store ω Mutator) : Prop where
  /-- The slot is as it was. -/
  thread : u.thread = s.thread
  /-- The table is as it was, card by card. -/
  table : TableBacked.table u.scene.ledger.cards = TableBacked.table s.scene.ledger.cards
  /-- The counters are as they were, or count a forced mark over an interval without cards. -/
  tally : u.scene.ledger.tally = s.scene.ledger.tally ∨
    ∃ r, s.thread.slot = .holding r ∧
      (TableBacked.table s.scene.ledger.cards).covered.includes r = false ∧
        u.scene.ledger.tally = p.tallied [.forcedMark] s.scene.ledger.tally

/-- **Wherever a flush stops, it has done nothing.** -/
theorem Policy.thwarted_of_flush {point : FlushPoint} {f : Fault}
    (h : (p.flush point).run s = (.error f, u)) : p.Thwarted s u := by
  cases hslot : s.thread.slot with
  | empty =>
    have hask : (Workplace.ask : Act (Site Store ω Mutator) _).Yields s none s :=
      Site.yields_ask.2 ⟨by rw [hslot]; rfl, rfl⟩
    have hrun : (p.flush point).Succeeds s := by
      rw [flush_eq]
      exact hask.succeeds_bind (succeeds_pure _ _)
    exact absurd h hrun.not_error
  | holding r =>
    rw [run_flush_of_holding hslot] at h
    obtain hmark | ⟨_, _, -, hanswer⟩ := run_bind_eq_error h
    · obtain hdue | ⟨_, v, hdue, hrest⟩ := run_bind_eq_error hmark
      · have hu := p.keeps_requireDue r s.scene.ledger s.thread s ⟨rfl, rfl⟩
        rw [hdue] at hu
        exact ⟨hu.2, by rw [hu.1], .inl (by rw [hu.1])⟩
      · have hv := p.keeps_requireDue r s.scene.ledger s.thread s ⟨rfl, rfl⟩
        rw [hdue.run_eq] at hv
        obtain ⟨w, hforce, -⟩ | ⟨f', w, hforce, hw, hout⟩ := p.forceMark_cases r v
        · -- what comes after the mark cannot stop
          have hend : (p.forceMark r >>= fun _ => release >>= fun _ => p.reportFlush point r :
              Act (Site Store ω Mutator) Unit).Succeeds v :=
            hforce.succeeds_bind (release_yields_self.succeeds_bind (succeeds_reportFlush _ _ _))
          exact absurd hrest hend.not_error
        · obtain hstop | ⟨_, _, hyields, -⟩ := run_bind_eq_error hrest
          · rw [hforce] at hstop
            cases hstop
            obtain ⟨hledger, hthread⟩ := hv
            dsimp only at hledger hthread
            rw [hledger] at hw hout
            refine ⟨hthread, hw, .inr ⟨r, hslot, hout, ?_⟩⟩
            show p.tallied _ v.scene.ledger.tally = _
            rw [hledger]
          · rw [hyields.run_eq] at hforce
            cases hforce
    · cases hanswer

/-! ## Several threads -/

/-- What a thread has waiting still waits for it, or has been made on the table. -/
def Mutator.KeptBy (table : CardTable) (t u : Mutator) : Prop :=
  ∀ r, t.slot = .holding r → u.slot = .holding r ∨ table.Marked r

omit [HeapView ω] in
theorem Mutator.KeptBy.refl (table : CardTable) (t : Mutator) : t.KeptBy table t :=
  fun _ ht => .inl ht

/-- **A round of flushes makes no mark undone**, though it may stop half way. -/
theorem Policy.made_flushEach (p : Policy) (threads : List Mutator) {s : Scene Store ω}
    (hs : (TableBacked.table s.ledger.cards).Marked r) :
    (TableBacked.table (p.flushEach threads s).2.2.ledger.cards).Marked r :=
  (inStep_flushEach (Workplace.coupling_made r p) threads ⟨⟨rfl, hs⟩, rfl⟩).2.2.ledger.2

/-- **Every thread of a round keeps its mark**, whether its turn comes or not. -/
theorem Policy.kept_flushEach (p : Policy) (threads : List Mutator) (s : Scene Store ω) :
    List.Forall₂ (Mutator.KeptBy (TableBacked.table (p.flushEach threads s).2.2.ledger.cards))
      threads (p.flushEach threads s).2.1 := by
  induction threads generalizing s with
  | nil => exact .nil
  | cons thread threads ih =>
    have hsafe : ∀ r, (Site.mk s thread).Waiting r →
        ((p.flush .safepoint).run (Site.mk s thread)).2.Waiting r ∨
          ((p.flush .safepoint).run (Site.mk s thread)).2.Made r :=
      fun r hr => (p.secures_flush .safepoint r).or hr
    rw [flushEach]
    revert hsafe
    generalize (p.flush .safepoint).run (Site.mk s thread) = x
    obtain ⟨o, u⟩ := x
    intro hsafe
    cases o with
    | error f =>
      -- the threads whose turn did not come are as they were
      exact .cons hsafe (List.forall₂_same.2 fun t _ => .refl _ t)
    | ok b =>
      refine .cons (fun r hr => ?_) (ih u.scene)
      exact (hsafe r hr).imp_right fun hmade => made_flushEach p threads hmade

/-- **A drain leaves records and marks as its flushes do**, wherever it stops. -/
theorem Policy.drain_after {κ τ : Type} [RememberedSet κ] [SlotHolder τ] (p : Policy)
    (threads : List τ) (s : Scene κ ω) :
    (p.drain.run ⟨s, threads⟩).2.thread = (p.flushEach threads s).2.1 ∧
      (p.drain.run ⟨s, threads⟩).2.scene.ledger.cards
        = (p.flushEach threads s).2.2.ledger.cards := by
  rw [run_drain]
  rcases p.flushEach threads s with ⟨f | n, us, t⟩
  · exact ⟨rfl, rfl⟩
  · obtain ⟨o, j, hrun, -⟩ := p.exists_run_end_drain us.length n t us
    dsimp only
    rw [hrun]
    exact ⟨rfl, rfl⟩

end Work

/-! ## Moves -/

/-- **Several threads put in, each standing in a relation to the one found before**, are found so.
It does no harm if one is named more than once. -/
theorem Threads.exists_find?_insertAll {τ : Type} {ts : Threads τ} {names : List String}
    {us vs : List τ} {S : τ → τ → Prop} (h : names.map ts.find? = us.map some)
    (huv : List.Forall₂ S us vs) (ts' : Threads τ) {name : String} {t : τ}
    (ht : ts.find? name = some t) (ht' : ∃ u, ts'.find? name = some u ∧ S t u) :
    ∃ u, (ts'.insertAll (names.zip vs)).find? name = some u ∧ S t u := by
  induction huv generalizing names ts' with
  | nil =>
    rw [List.zip_nil_right]
    exact ht'
  | @cons u v us vs huv _ ih =>
    cases names with
    | nil => exact ht'
    | cons other names =>
      obtain ⟨hother, hnames⟩ := List.cons.inj h
      refine ih hnames (ts'.insert other v) ?_
      rw [find?_insert]
      by_cases hname : name = other
      · rw [hname, hother] at ht
        cases ht
        exact ⟨v, if_pos hname, huv⟩
      · rw [if_neg hname]
        exact ht'

section Move

variable {ω α : Type} {p : Policy}

/-- **The marks of all threads are kept** between two arenas: what waited for a thread still waits
for it, or all of its cards are dirty. -/
structure Arena.MarksKept (a c : Arena Store ω Mutator) : Prop where
  /-- The heap is divided into cards as before. -/
  geometry : (TableBacked.table c.scene.ledger.cards).geometry
    = (TableBacked.table a.scene.ledger.cards).geometry
  /-- Every thread that was there is there, and its mark waits on or has been made. -/
  kept : ∀ name t, a.threads.find? name = some t → ∃ u, c.threads.find? name = some u ∧
    t.KeptBy (TableBacked.table c.scene.ledger.cards) u

/-- **A step of one thread** keeps the marks of all threads if it keeps its own. -/
theorem Arena.kept_atThread {act : Act (Site Store ω Mutator) α}
    (hact : ∀ s r, s.Waiting r → (act.run s).2.Waiting r ∨ (act.run s).2.Made r)
    (a : Arena Store ω Mutator) (name other : String) {t : Mutator}
    (ht : a.threads.find? other = some t) :
    ∃ u, ((atThread name act).run a).2.threads.find? other = some u ∧
      t.KeptBy (TableBacked.table ((atThread name act).run a).2.scene.ledger.cards) u := by
  cases hfind : a.threads.find? name with
  | none =>
    rw [run_atThread_of_none act hfind]
    exact ⟨t, ht, .refl _ t⟩
  | some v =>
    rw [run_atThread act hfind]
    by_cases hname : other = name
    · rw [hname, hfind] at ht
      cases ht
      rw [hname]
      exact ⟨_, Threads.find?_insert_self, hact ⟨a.scene, t⟩⟩
    · exact ⟨t, (Threads.find?_insert_of_ne hname).trans ht, .refl _ t⟩

variable [HeapView ω]

/-- **A drain** keeps the marks of all threads. -/
theorem Arena.kept_drain (p : Policy) (a : Arena Store ω Mutator) (names : List String)
    (other : String) {t : Mutator} (ht : a.threads.find? other = some t) :
    ∃ u, ((atThreads names p.drain).run a).2.threads.find? other = some u ∧
      t.KeptBy (TableBacked.table ((atThreads names p.drain).run a).2.scene.ledger.cards) u := by
  cases hfind : names.mapM a.threads.require with
  | error f =>
    rw [run_atThreads_of_error _ hfind]
    exact ⟨t, ht, .refl _ t⟩
  | ok ts =>
    have hts := Threads.mapM_require_eq_ok_iff.1 hfind
    obtain ⟨hthread, hcards⟩ := p.drain_after ts a.scene
    rw [run_atThreads _ hts]
    dsimp only
    rw [hthread, hcards]
    exact Threads.exists_find?_insertAll hts (p.kept_flushEach ts a.scene) a.threads ht
      ⟨t, ht, .refl _ t⟩

/-- **Work for threads keeps the marks of all threads**, whether it comes through or not. -/
theorem Policy.marksKept_perform (p : Policy) {m : Move ω Mutator} (hm : m.IsWork)
    (a : Arena Store ω Mutator) : a.MarksKept ((p.perform m).run a).2 where
  geometry := by
    have hgeometry : ∀ r t u, CardTable.mark r t = .ok u →
        t.geometry = (TableBacked.table a.scene.ledger.cards).geometry →
          u.geometry = (TableBacked.table a.scene.ledger.cards).geometry :=
      fun _ _ _ hmark ht => (CardTable.like_mark hmark).geometry.trans ht
    exact (stepAlike_work (Workplace.coupling_table hgeometry p)
      (Books.coupling_table hgeometry p) hm a a ⟨⟨⟨rfl, rfl⟩, rfl⟩, rfl⟩).1.scene.ledger.2
  kept := by
    intro other t ht
    cases m with
    | allocate name object =>
      have hstep : ((p.perform (.allocate name object)).run a).2
          = ((Arena.atThread name (p.finishAllocation object)).run a).2 :=
        congrArg Prod.snd (run_silently _ a)
      rw [hstep]
      exact Arena.kept_atThread (fun _ _ hs => p.finishAllocation_safe object hs) a name other ht
    | detach name =>
      have hstep : ((p.perform (.detach name)).run a).2
          = ((Arena.atThread name p.detach).run a).2 :=
        congrArg Prod.snd (run_silently _ a)
      rw [hstep]
      exact Arena.kept_atThread (fun _ _ hs => p.detach_safe hs) a name other ht
    | flush name point =>
      have hstep : ((p.perform (.flush name point)).run a).2
          = ((Arena.atThread name (p.flush point)).run a).2 := congrArg Prod.snd (run_map _ _ a)
      rw [hstep]
      exact Arena.kept_atThread (fun _ r hs => (p.secures_flush point r).or hs) a name other ht
    | drain names =>
      have hstep : ((p.perform (.drain names)).run a).2
          = ((Arena.atThreads (names.getD a.threads.names) p.drain).run a).2 :=
        congrArg Prod.snd (run_map _ _ a)
      rw [hstep]
      exact Arena.kept_drain p a _ other ht
    | _ => exact hm.elim

/-- **A flush that is made as a move and stops has done nothing.** -/
structure Policy.Foiled (p : Policy) (name : String) (a c : Arena Store ω Mutator) : Prop where
  /-- Every slot is as it was. -/
  threads : ∀ other, c.threads.find? other = a.threads.find? other
  /-- The table is as it was, card by card. -/
  table : TableBacked.table c.scene.ledger.cards = TableBacked.table a.scene.ledger.cards
  /-- The counters are as they were, or count a forced mark over an interval without cards. -/
  tally : c.scene.ledger.tally = a.scene.ledger.tally ∨
    ∃ t r, a.threads.find? name = some t ∧ t.slot = .holding r ∧
      (TableBacked.table a.scene.ledger.cards).covered.includes r = false ∧
        c.scene.ledger.tally = p.tallied [.forcedMark] a.scene.ledger.tally

theorem Policy.foiled_perform {a c : Arena Store ω Mutator} {name : String} {point : FlushPoint}
    {f : Fault} (h : (p.perform (.flush name point)).run a = (.error f, c)) :
    p.Foiled name a c := by
  have hrun : (p.perform (.flush name point)).run a
      = (.flag <$> Arena.atThread name (p.flush point)).run a := rfl
  rw [hrun, run_map] at h
  cases hfind : a.threads.find? name with
  | none =>
    rw [Arena.run_atThread_of_none _ hfind] at h
    cases h
    exact ⟨fun _ => rfl, rfl, .inl rfl⟩
  | some t =>
    rw [Arena.run_atThread _ hfind] at h
    rcases hflush : (p.flush point).run (Site.mk a.scene t) with ⟨f' | b, u⟩
    · rw [hflush] at h
      cases h
      obtain ⟨hthread, htable, htally⟩ := thwarted_of_flush hflush
      refine ⟨fun other => ?_, htable, ?_⟩
      · rw [Threads.find?_insert]
        split
        · rename_i hother
          rw [hother, hfind, hthread]
        · rfl
      · obtain hsame | ⟨r, hslot, hout, hcounted⟩ := htally
        · exact .inl hsame
        · exact .inr ⟨t, r, hfind, hslot, hout, hcounted⟩
    · rw [hflush] at h
      cases h

/-- **No mark is lost.** Whatever the objects answer, and whether it comes through or stops
somewhere on the way, work for threads leaves every mark that was waiting where it was or has made
it on the table; and a flush by itself that stops leaves slots, table and counters as they were, but
for the count of a mark over an interval that has no cards. -/
theorem Policy.keeps_marks (p : Policy) (a : Arena Store ω Mutator) :
    (∀ m : Move ω Mutator, m.IsWork → a.MarksKept ((p.perform m).run a).2) ∧
      ∀ name point f c, (p.perform (.flush name point)).run a = (.error f, c) →
        p.Foiled name a c :=
  ⟨fun _ hm => p.marksKept_perform hm a, fun _ _ _ _ h => foiled_perform h⟩

end Move

namespace SmallHeap

/-- A mark waits for an object that has grown since it was deferred. -/
def stale : Arena Store Objects Mutator :=
  ⟨⟨onRecord.scene.ledger, ⟨[{ address := 512, words := 8 }]⟩, {}⟩,
    ⟨[("m", ⟨0, .holding objectExtent⟩)]⟩⟩

/-- The mark waits on, for a flush or a drain stops at the object. -/
theorem keeps_marks_stale :
    ((policy true).perform (.flush "m" .safepoint)).run stale
        = (.error (.staleMark objectExtent ⟨512, 576, by decide⟩), stale) ∧
      (policy true).Foiled "m" stale stale ∧
        stale.MarksKept (((policy true).perform (.drain none)).run stale).2 := by
  obtain ⟨hkept, hfoiled⟩ := (policy true).keeps_marks stale
  exact ⟨rfl, hfoiled "m" .safepoint _ stale rfl, hkept (.drain none) trivial⟩

end SmallHeap

end CardBarrier
