import CardBarrier.Proofs.Outcome

/-!
# Moves in step with each other

Two arenas are *in step* if their ledgers are related, and if the objects and the records of the
threads are the same in both; the journals may say what they like. Nothing is asked of the objects,
which may change as they are asked about: they are asked the same in both arenas, and so change
alike.

Under policies that mark alike (`Policy.MarksAlike`) a move keeps arenas in step whether it comes
through or not, and it comes to the same outcome in both, since nothing that has been said is ever
looked at again (`Policy.MarksAlike.perform`). The one exception are the counters, which a drain
and a report put into a sentence, for those of the one arena may be too large for that and those of
the other not.
-/

namespace CardBarrier

open Act

namespace Act

variable {σ ρ α β : Type} {R : σ → ρ → Prop}

theorem couples_ofExcept (x : Except Fault α) :
    Couples R (ofExcept x : Act σ α) (ofExcept x : Act ρ α) := fun _ _ h => ⟨rfl, h⟩

/-- What comes after a look at the state may depend on the state. -/
theorem couples_get_bind {next : σ → Act σ β} {next' : ρ → Act ρ β}
    (h : ∀ s t, R s t → Couples R (next s) (next' t)) :
    Couples R (get >>= next) (get >>= next') := fun s t hst => h s t hst s t hst

theorem Couples.map {act : Act σ α} {act' : Act ρ α} (h : Couples R act act') (f : α → β) :
    Couples R (f <$> act) (f <$> act') := by
  intro s t hst
  obtain ⟨hout, hrel⟩ := h s t hst
  rw [run_map, run_map, hout]
  exact ⟨rfl, hrel⟩

end Act

variable {κ ω τ α : Type} {R : Ledger κ → Ledger κ → Prop} {p q : Policy}

/-- **Two scenes in step.** -/
structure Scene.InStep (R : Ledger κ → Ledger κ → Prop) (s t : Scene κ ω) : Prop where
  /-- Marks and counters are related. -/
  ledger : R s.ledger t.ledger
  /-- The objects are the same. -/
  heap : s.heap = t.heap

/-- **Two threads at work in step**, or several. -/
structure Site.InStep (R : Ledger κ → Ledger κ → Prop) (s t : Site κ ω τ) : Prop where
  /-- What is shared is in step. -/
  scene : s.scene.InStep R t.scene
  /-- The records are the same. -/
  thread : s.thread = t.thread

/-- **Two arenas in step.** -/
structure Arena.InStep (R : Ledger κ → Ledger κ → Prop) (a b : Arena κ ω τ) : Prop where
  /-- What is shared is in step. -/
  scene : a.scene.InStep R b.scene
  /-- The records of all threads are the same. -/
  threads : a.threads = b.threads

/-! ## Threads at work -/

namespace Site

theorem couples_inStep_of_alike {act act' : Act (Site κ ω τ) α}
    (h : ∀ heap, Couples (Alike R heap) act act') : Couples (InStep R) act act' := by
  rintro s t ⟨⟨hledger, hheap⟩, hthread⟩
  obtain ⟨hout, hledger', hs, ht, hthread'⟩ := h t.scene.heap s t ⟨hledger, hheap, rfl, hthread⟩
  exact ⟨hout, ⟨hledger', hs.trans ht.symm⟩, hthread'⟩

/-- The same question changes the same objects in the same way. -/
theorem couples_inStep_onHeap (act : Act ω α) :
    Couples (InStep R : Site κ ω τ → Site κ ω τ → Prop) (onScene (Scene.onHeap act))
      (onScene (Scene.onHeap act)) := by
  rintro s t ⟨⟨hledger, hheap⟩, hthread⟩
  have hsame : act.run s.scene.heap = act.run t.scene.heap := by rw [hheap]
  have hout : (act.run s.scene.heap).1 = (act.run t.scene.heap).1 := congrArg Prod.fst hsame
  have hheap' : (act.run s.scene.heap).2 = (act.run t.scene.heap).2 := congrArg Prod.snd hsame
  exact ⟨hout, ⟨hledger, hheap'⟩, hthread⟩

/-- What is kept by threads in step with themselves is kept. -/
theorem keeps_of_inStep {Q : Ledger κ → Prop} {act : Act (Site κ ω τ) α}
    (h : Couples (InStep fun l m => l = m ∧ Q l) act act) :
    Keeps (fun s => Q s.scene.ledger) act := by
  intro s hs
  exact (h s s ⟨⟨⟨rfl, hs⟩, rfl⟩, rfl⟩).2.scene.ledger.2

variable [RememberedSet κ] [HeapView ω] [SlotHolder τ]

/-- **Threads that are in step work in step**, whatever their objects do. -/
theorem coupling_inStep (hreduces : p.reducesInitialMarks = q.reducesInitialMarks)
    (hdefers : p.defers = q.defers) (h : Books.Coupling p q R)
    (hyoung : ∀ l m a, R l m → RememberedSet.isYoung l.cards a = RememberedSet.isYoung m.cards a) :
    Workplace.Coupling p q (InStep R : Site κ ω τ → Site κ ω τ → Prop) where
  reduces := hreduces
  defers := hdefers
  count kind := by
    rw [Policy.count_site, Policy.count_site]
    exact couples_inStep_of_alike fun _ => couples_onLedger (h.count kind)
  mark r := couples_inStep_of_alike fun _ => couples_onLedger (h.mark r)
  forceMark r := couples_inStep_of_alike fun _ => couples_onLedger (h.forceMark r)
  ask := couples_inStep_of_alike fun _ => couples_onThread _
  tell r := couples_inStep_of_alike fun _ => couples_onThread _
  isYoung a := by
    intro s t hst
    exact ⟨congrArg Except.ok (hyoung _ _ a hst.scene.ledger), hst⟩
  isReferenceFree a := couples_inStep_onHeap _
  extent a := couples_inStep_onHeap _
  isWhole a := couples_inStep_onHeap _
  remark d := by
    rintro s t ⟨⟨hledger, hheap⟩, hthread⟩
    exact ⟨rfl, ⟨hledger, hheap⟩, hthread⟩
  announce e he := couples_inStep_of_alike fun _ => couples_announce he

end Site

/-! ## Putting the counters into a sentence -/

/-- **The counters can be told**: those that the sentence adds up are not too large for it. -/
def Scene.Tellable (s : Scene κ ω) : Prop := (Event.counted s.ledger.tally).Speakable

/-- **Counters can be put into a sentence** if the two that it adds up do not leave the word. -/
theorem Event.speakable_counted {t : Tally}
    (h : t.referenceFree.toNat + t.young.toNat < UInt64.size) : (Event.counted t).Speakable :=
  speakable_iff.2 (Nat.not_le.2 h)

/-- The event log takes an event or stops at one that cannot be told, and all that changes is the
journal. -/
theorem Scene.exists_run_keep (e : Event) (s : Scene κ ω) :
    ∃ o j, (keep e).run s = (o, { s with journal := j }) ∧ (e.Speakable → o = .ok ()) := by
  have hrun : (keep e).run s = (let x := (Act.update (Journal.keep e)).run s.journal
      (x.1, ({ s with journal := x.2 } : Scene κ ω))) := rfl
  rw [hrun]
  unfold Act.update
  rw [run_ofFun]
  cases hkeep : s.journal.keep e with
  | ok j => exact ⟨_, j, rfl, fun _ => rfl⟩
  | error f =>
    refine ⟨_, s.journal, rfl, fun he => ?_⟩
    obtain ⟨j, hj⟩ := s.journal.exists_keep he
    rw [hkeep] at hj
    cases hj

/-- So it is with a report. -/
theorem Policy.exists_run_report (s : Scene κ ω) :
    ∃ o j, report.run s = (o, { s with journal := j }) ∧ (s.Tellable → o = .ok ()) := by
  obtain ⟨o, j, hrun, hout⟩ := s.exists_run_keep (.counted s.ledger.tally)
  refine ⟨o, j, ?_, hout⟩
  unfold report
  rw [run_bind, run_get]
  exact hrun

theorem Policy.exists_run_announceDrain (p : Policy) (k n : Nat) (s : Site κ ω (List τ)) :
    ∃ o j, (p.announceDrain k n).run s = (o, ⟨⟨s.scene.ledger, s.scene.heap, j⟩, s.thread⟩) ∧
      (s.scene.Tellable → o = .ok ()) := by
  unfold announceDrain
  split
  · obtain ⟨o, j, hkeep, hout⟩ :=
      s.scene.exists_run_keep (.drained (UInt64.ofNat k) (UInt64.ofNat n))
    obtain rfl := hout ⟨_, rfl⟩
    obtain ⟨o, j', hreport, hout⟩ := exists_run_report { s.scene with journal := j }
    refine ⟨o, j', ?_, hout⟩
    rw [run_bind]
    unfold Site.onScene
    rw [run_within, hkeep]
    dsimp only
    rw [run_within, hreport]
  · exact ⟨_, s.scene.journal, rfl, fun _ => rfl⟩

theorem Policy.run_count [RememberedSet κ] (p : Policy) (kind : Tally.Kind) (l : Ledger κ) :
    (p.count kind).run l = (.ok (), ⟨l.cards, p.tallied [kind] l.tally⟩) := count_yields.2 rfl

/-- **What comes after the flushes of a drain** counts it, and stops only where the counters cannot
be told. -/
theorem Policy.exists_run_end_drain [RememberedSet κ] (p : Policy) (k n : Nat)
    (s : Scene κ ω) (us : List τ) :
    ∃ o j, (do
        Site.onScene (Scene.onLedger (p.count .drain))
        Site.onScene (Scene.remark (.drained k n))
        p.announceDrain k n
        return n : Act (Site κ ω (List τ)) Nat).run ⟨s, us⟩
      = (o, ⟨⟨⟨s.ledger.cards, p.tallied [.drain] s.ledger.tally⟩, s.heap, j⟩, us⟩) ∧
        (Scene.Tellable ⟨⟨s.ledger.cards, p.tallied [.drain] s.ledger.tally⟩, s.heap, j⟩ →
          o = .ok n) := by
  have hcount : (Site.onScene (Scene.onLedger (p.count .drain))).run (⟨s, us⟩ : Site κ ω (List τ))
      = (.ok (), ⟨⟨⟨s.ledger.cards, p.tallied [.drain] s.ledger.tally⟩, s.heap, s.journal⟩, us⟩) :=
    Site.yields_onLedger.2 ⟨_, count_yields.2 rfl, rfl⟩
  have hremark : ∀ t : Site κ ω (List τ), (Site.onScene (Scene.remark (.drained k n))).run t
      = (.ok (), { t with scene.journal := t.scene.journal.remarkAll [.drained k n] }) :=
    fun _ => rfl
  obtain ⟨o, j, hannounce, hout⟩ := p.exists_run_announceDrain k n
    (⟨⟨⟨s.ledger.cards, p.tallied [.drain] s.ledger.tally⟩, s.heap,
      s.journal.remarkAll [.drained k n]⟩, us⟩ : Site κ ω (List τ))
  refine ⟨o.map fun _ => n, j, ?_, fun htell => by rw [hout htell]; rfl⟩
  rw [run_bind, hcount]
  dsimp only
  rw [run_bind, hremark]
  dsimp only
  rw [run_bind, hannounce]
  cases o with
  | ok _ => rfl
  | error f => rfl

/-! ## Draining -/

section Drain

variable [RememberedSet κ] [HeapView ω] [SlotHolder τ]

/-- **Rounds of flushes are in step**: they get equally far, and leave the same records. -/
theorem Policy.inStep_flushEach
    (h : Workplace.Coupling p q (Site.InStep R : Site κ ω τ → Site κ ω τ → Prop))
    (threads : List τ) {s t : Scene κ ω} (hst : s.InStep R t) :
    (p.flushEach threads s).1 = (q.flushEach threads t).1 ∧
      (p.flushEach threads s).2.1 = (q.flushEach threads t).2.1 ∧
        (p.flushEach threads s).2.2.InStep R (q.flushEach threads t).2.2 := by
  induction threads generalizing s t with
  | nil => exact ⟨rfl, rfl, hst⟩
  | cons thread threads ih =>
    obtain ⟨hout, hscene, hthread⟩ := h.flush .safepoint ⟨s, thread⟩ ⟨t, thread⟩ ⟨hst, rfl⟩
    rw [flushEach, flushEach]
    revert hout hscene hthread
    generalize (p.flush .safepoint).run (Site.mk s thread) = x
    generalize (q.flush .safepoint).run (Site.mk t thread) = y
    obtain ⟨o, u, thread'⟩ := x
    obtain ⟨o', v, thread''⟩ := y
    intro hout hscene hthread
    obtain rfl : o = o' := hout
    obtain rfl : thread' = thread'' := hthread
    cases o with
    | error f => exact ⟨rfl, rfl, hscene⟩
    | ok b =>
      obtain ⟨hrest, hthreads, hlast⟩ := ih hscene
      exact ⟨congrArg (Except.map (b.toNat + ·)) hrest, congrArg (thread' :: ·) hthreads, hlast⟩

/-- **Drains are in step.** -/
theorem Policy.inStep_drain
    (h : Workplace.Coupling p q (Site.InStep R : Site κ ω τ → Site κ ω τ → Prop))
    (hbooks : Books.Coupling p q R) (threads : List τ) {s t : Scene κ ω} (hst : s.InStep R t) :
    (p.drain.run ⟨s, threads⟩).2.InStep R (q.drain.run ⟨t, threads⟩).2 ∧
      ((p.drain.run ⟨s, threads⟩).2.scene.Tellable → (q.drain.run ⟨t, threads⟩).2.scene.Tellable →
        (p.drain.run ⟨s, threads⟩).1 = (q.drain.run ⟨t, threads⟩).1) := by
  obtain ⟨hout, hthreads, hscene⟩ := inStep_flushEach h threads hst
  rw [run_drain, run_drain]
  revert hout hthreads hscene
  generalize p.flushEach threads s = x
  generalize q.flushEach threads t = y
  obtain ⟨o, us, u⟩ := x
  obtain ⟨o', vs, v⟩ := y
  intro hout hthreads hscene
  obtain rfl : o = o' := hout
  obtain rfl : us = vs := hthreads
  dsimp only at hscene ⊢
  cases o with
  | error f => exact ⟨⟨hscene, rfl⟩, fun _ _ => rfl⟩
  | ok n =>
    obtain ⟨o, j, hrun, hn⟩ := p.exists_run_end_drain us.length n u us
    obtain ⟨o', j', hrun', hn'⟩ := q.exists_run_end_drain us.length n v us
    have hcount : R ⟨u.ledger.cards, p.tallied [.drain] u.ledger.tally⟩
        ⟨v.ledger.cards, q.tallied [.drain] v.ledger.tally⟩ := by
      have hcount := (hbooks.count .drain _ _ hscene.ledger).2
      rwa [run_count, run_count] at hcount
    dsimp only
    rw [hrun, hrun']
    exact ⟨⟨⟨hcount, hscene.heap⟩, rfl⟩, fun htell htell' => (hn htell).trans (hn' htell').symm⟩

end Drain

/-! ## Moves -/

theorem Policy.run_silently {σ : Type} (act : Act σ Unit) (s : σ) :
    (silently act).run s = ((act.run s).1.map fun _ => .done, (act.run s).2) := by
  unfold silently
  rw [run_bind]
  rcases act.run s with ⟨_ | _, t⟩ <;> rfl

/-- **Two steps on arenas are alike**: they keep arenas in step, and come to the same outcome unless
there are counters that cannot be told. -/
def Arena.StepAlike (R : Ledger κ → Ledger κ → Prop) (act act' : Act (Arena κ ω τ) α) : Prop :=
  ∀ a b, a.InStep R b → (act.run a).2.InStep R (act'.run b).2 ∧
    ((act.run a).2.scene.Tellable → (act'.run b).2.scene.Tellable →
      (act.run a).1 = (act'.run b).1)

namespace Arena

theorem StepAlike.of_couples {act act' : Act (Arena κ ω τ) α} (h : Couples (InStep R) act act') :
    StepAlike R act act' := by
  intro a b hab
  obtain ⟨hout, hrel⟩ := h a b hab
  exact ⟨hrel, fun _ _ => hout⟩

/-- Steps that answer nothing. -/
theorem StepAlike.silently {act act' : Act (Arena κ ω τ) Unit} (h : StepAlike R act act') :
    StepAlike R (Policy.silently act) (Policy.silently act') := by
  intro a b hab
  obtain ⟨hrel, hout⟩ := h a b hab
  rw [Policy.run_silently, Policy.run_silently]
  exact ⟨hrel, fun htell htell' => congrArg (Except.map fun _ => Reply.done) (hout htell htell')⟩

theorem couples_inStep_onLedger {act act' : Act (Ledger κ) α} (h : Couples R act act') :
    Couples (InStep R : Arena κ ω τ → Arena κ ω τ → Prop) (onLedger act) (onLedger act') := by
  rintro a b ⟨⟨hledger, hheap⟩, hthreads⟩
  obtain ⟨hout, hledger'⟩ := h _ _ hledger
  exact ⟨hout, ⟨hledger', hheap⟩, hthreads⟩

/-- **A thread that works in step moves in step.** -/
theorem couples_inStep_atThread {act act' : Act (Site κ ω τ) α}
    (h : Couples (Site.InStep R) act act') (name : String) :
    Couples (InStep R : Arena κ ω τ → Arena κ ω τ → Prop) (atThread name act)
      (atThread name act') := by
  rintro a b ⟨hscene, hthreads⟩
  cases hfind : a.threads.find? name with
  | none =>
    rw [run_atThread_of_none act hfind, run_atThread_of_none act' (hthreads ▸ hfind)]
    exact ⟨rfl, hscene, hthreads⟩
  | some t =>
    rw [run_atThread act hfind, run_atThread act' (hthreads ▸ hfind)]
    obtain ⟨hout, hscene', hthread⟩ := h ⟨a.scene, t⟩ ⟨b.scene, t⟩ ⟨hscene, rfl⟩
    refine ⟨hout, hscene', ?_⟩
    show a.threads.insert name _ = b.threads.insert name _
    rw [hthreads, hthread]

theorem couples_inStep_change [SlotHolder τ] (ch : Change ω τ) :
    Couples (InStep R : Arena κ ω τ → Arena κ ω τ → Prop) (change ch) (change ch) := by
  cases ch with
  | attach name thread =>
    rintro a b ⟨⟨hledger, hheap⟩, hthreads⟩
    refine ⟨rfl, ⟨hledger, hheap⟩, ?_⟩
    show a.threads.insert name thread = b.threads.insert name thread
    rw [hthreads]
  | discard name underway =>
    refine couples_get_bind fun a b hab => ?_
    rw [hab.threads]
    refine (couples_ofExcept _).bind fun thread => Couples.bind (fun c d hcd => ?_) fun _ => ?_
    · refine ⟨rfl, hcd.scene, ?_⟩
      show c.threads.erase name = d.threads.erase name
      rw [hcd.threads]
    · cases underway with
      | none => exact couples_ofExcept _
      | some fault => exact couples_throw _
  | assign name region =>
    exact couples_inStep_atThread (Site.couples_inStep_of_alike fun _ => Site.couples_onThread _) _
  | rearrange f =>
    rintro a b ⟨⟨hledger, hheap⟩, hthreads⟩
    refine ⟨rfl, ⟨hledger, ?_⟩, hthreads⟩
    show f a.scene.heap = f b.scene.heap
    rw [hheap]

/-- **Several threads that drain in step move in step.** -/
theorem stepAlike_drain [RememberedSet κ] [HeapView ω] [SlotHolder τ]
    (h : Workplace.Coupling p q (Site.InStep R : Site κ ω τ → Site κ ω τ → Prop))
    (hbooks : Books.Coupling p q R) (names : List String) :
    StepAlike R (atThreads names p.drain : Act (Arena κ ω τ) Nat) (atThreads names q.drain) := by
  rintro a b ⟨hscene, hthreads⟩
  cases hfind : names.mapM a.threads.require with
  | error f =>
    rw [run_atThreads_of_error _ hfind, run_atThreads_of_error _ (hthreads ▸ hfind)]
    exact ⟨⟨hscene, hthreads⟩, fun _ _ => rfl⟩
  | ok ts =>
    have hts := Threads.mapM_require_eq_ok_iff.1 hfind
    rw [run_atThreads _ hts, run_atThreads _ (hthreads ▸ hts), hthreads]
    obtain ⟨hsite, hout⟩ := Policy.inStep_drain h hbooks ts hscene
    exact ⟨⟨hsite.scene, congrArg (fun us => b.threads.insertAll (names.zip us)) hsite.thread⟩,
      hout⟩

/-- **Reports are in step.** -/
theorem stepAlike_report :
    StepAlike R (onScene Policy.report : Act (Arena κ ω τ) Unit) (onScene Policy.report) := by
  intro a b hab
  obtain ⟨o, j, hreport, hout⟩ := Policy.exists_run_report a.scene
  obtain ⟨o', j', hreport', hout'⟩ := Policy.exists_run_report b.scene
  unfold onScene
  rw [run_within, run_within, hreport, hreport']
  exact ⟨⟨⟨hab.scene.ledger, hab.scene.heap⟩, hab.threads⟩, fun htell htell' =>
    (hout htell).trans (hout' htell').symm⟩

end Arena

/-- **Two barriers of two policies in step.** -/
def Barrier.InStep (p q : Policy) (R : Ledger κ → Ledger κ → Prop) (b c : Barrier κ) : Prop :=
  b.policy = p ∧ c.policy = q ∧ R b.ledger c.ledger

section Write

variable [RememberedSet κ]

theorem Barrier.inStep_recordSpan (h : Books.Coupling p q R) (r : Interval) :
    Couples (Barrier.InStep p q R) (WriteBarrier.recordSpan r) (WriteBarrier.recordSpan r) := by
  rintro b c ⟨rfl, rfl, hledger⟩
  obtain ⟨hout, hledger'⟩ := h.writeSpan r _ _ hledger
  exact ⟨hout, rfl, rfl, hledger'⟩

theorem Barrier.inStep_recordArray (hlayout : p.layout = q.layout) (h : Books.Coupling p q R)
    (start : Address) (count : UInt64) :
    Couples (Barrier.InStep p q R) (WriteBarrier.recordArray start count)
      (WriteBarrier.recordArray start count) := by
  refine couples_get_bind fun b c hbc => ?_
  obtain ⟨rfl, rfl, -⟩ := hbc
  have hspan : WriteBarrier.layout b = WriteBarrier.layout c := hlayout
  rw [hspan]
  exact (couples_ofExcept _).bind fun r => inStep_recordSpan h r

theorem Barrier.inStep_recordBatch (hlayout : p.layout = q.layout) (h : Books.Coupling p q R)
    (batch : List (Address × UInt64)) :
    Couples (Barrier.InStep p q R) (WriteBarrier.recordBatch batch)
      (WriteBarrier.recordBatch batch) := by
  induction batch with
  | nil => exact couples_pure ()
  | cons write batch ih => exact (inStep_recordArray hlayout h write.1 write.2).bind fun _ => ih

/-- **Writes of several threads are in step**, though some of them may stop. -/
theorem Barrier.inStep_recordBatches (hlayout : p.layout = q.layout) (h : Books.Coupling p q R)
    (batches : List (List (Address × UInt64))) :
    Couples (Barrier.InStep p q R) (WriteBarrier.recordBatches batches)
      (WriteBarrier.recordBatches batches) := by
  induction batches with
  | nil => exact couples_pure ()
  | cons batch batches ih =>
    intro b c hbc
    obtain ⟨hout, hbatch⟩ := inStep_recordBatch hlayout h batch b c hbc
    unfold WriteBarrier.recordBatches
    rw [run_ofFun, run_ofFun]
    revert hout hbatch
    generalize (WriteBarrier.recordBatch batch).run b = x
    generalize (WriteBarrier.recordBatch batch).run c = y
    obtain ⟨o, b'⟩ := x
    obtain ⟨o', c'⟩ := y
    intro hout hbatch
    obtain rfl : o = o' := hout
    obtain ⟨hrest, hbatches⟩ := ih b' c' hbatch
    cases o with
    | ok _ => exact ⟨hrest, hbatches⟩
    | error f => exact ⟨rfl, hbatches⟩

omit [RememberedSet κ] in
theorem Arena.couples_inStep_onBarrier {act act' : Act (Barrier κ) α}
    (h : Couples (Barrier.InStep p q R) act act') :
    Couples (InStep R : Arena κ ω τ → Arena κ ω τ → Prop) (onBarrier p act)
      (onBarrier q act') := by
  rintro a b ⟨⟨hledger, hheap⟩, hthreads⟩
  obtain ⟨hout, -, -, hledger'⟩ := h ⟨p, a.scene.ledger⟩ ⟨q, b.scene.ledger⟩ ⟨rfl, rfl, hledger⟩
  exact ⟨hout, ⟨hledger', hheap⟩, hthreads⟩

end Write

variable [RememberedSet κ] [TableBacked κ] [HeapView ω] [SlotHolder τ]

/-- The move is work that the barrier does for threads. -/
def Move.IsWork : Move ω τ → Prop
  | .allocate _ _ | .detach _ | .flush _ _ | .drain _ => True
  | _ => False

/-- **Work for threads is in step** if the work of each of them is. -/
theorem Policy.stepAlike_work
    (h : Workplace.Coupling p q (Site.InStep R : Site κ ω τ → Site κ ω τ → Prop))
    (hbooks : Books.Coupling p q R) {m : Move ω τ} (hm : m.IsWork) :
    Arena.StepAlike R (p.perform m) (q.perform m) := by
  cases m with
  | allocate name object =>
    exact (Arena.StepAlike.of_couples
      (Arena.couples_inStep_atThread (h.finishAllocation object) name)).silently
  | detach name =>
    exact (Arena.StepAlike.of_couples (Arena.couples_inStep_atThread h.detach name)).silently
  | flush name point =>
    exact .of_couples ((Arena.couples_inStep_atThread (h.flush point) name).map _)
  | drain names =>
    intro a b hab
    obtain ⟨hrel, hout⟩ := Arena.stepAlike_drain h hbooks (names.getD b.threads.names) a b hab
    have hrun : ∀ (r : Policy) (c : Arena κ ω τ), c.threads = b.threads →
        (r.perform (.drain names)).run c
          = (.count <$> Arena.atThreads (names.getD b.threads.names) r.drain).run c :=
      fun r c hc => by rw [← hc]; rfl
    rw [hrun p a hab.threads, hrun q b rfl, run_map, run_map]
    exact ⟨hrel, fun htell htell' => congrArg (Except.map Reply.count) (hout htell htell')⟩
  | _ => exact hm.elim

/-- **Two policies mark alike** over related ledgers. They may differ in what they count and in
what they tell, as far as the relation does not mind. -/
structure Policy.MarksAlike (p q : Policy) (R : Ledger κ → Ledger κ → Prop) : Prop extends
    Books.Coupling p q R where
  /-- References are of the same width. -/
  layout : p.layout = q.layout
  /-- Allocations are compensated for under both policies or under neither. -/
  reduces : p.reducesInitialMarks = q.reducesInitialMarks
  /-- Marks wait under both policies or under neither. -/
  defers : p.defers = q.defers
  /-- The same objects are young. -/
  isYoung : ∀ l m a, R l m → RememberedSet.isYoung l.cards a = RememberedSet.isYoung m.cards a
  /-- The collector has its way with both tables. -/
  update : ∀ f, Couples R (Ledger.onCards (TableBacked.update f))
    (Ledger.onCards (TableBacked.update f))

/-- **Moves are in step** under policies that mark alike, whether they come through or not. -/
theorem Policy.MarksAlike.perform (h : p.MarksAlike q R) (m : Move ω τ) :
    Arena.StepAlike R (p.perform m) (q.perform m) := by
  have hwork := Site.coupling_inStep (ω := ω) (τ := τ) h.reduces h.defers h.toCoupling h.isYoung
  have hledger : ∀ {act act' : Act (Ledger κ) Unit}, Couples R act act' →
      Arena.StepAlike R (silently (Arena.onLedger act) : Act (Arena κ ω τ) Reply)
        (silently (Arena.onLedger act')) :=
    fun hact => (Arena.StepAlike.of_couples (Arena.couples_inStep_onLedger hact)).silently
  have hbarrier : ∀ {act act' : Act (Barrier κ) Unit}, Couples (Barrier.InStep p q R) act act' →
      Arena.StepAlike R (silently (Arena.onBarrier p act) : Act (Arena κ ω τ) Reply)
        (silently (Arena.onBarrier q act')) :=
    fun hact => (Arena.StepAlike.of_couples (Arena.couples_inStep_onBarrier hact)).silently
  cases m with
  | mark r => exact hledger (h.policyMark r)
  | forceMark r => exact hledger (h.policyForceMark r)
  | writeSpan r => exact hledger (h.writeSpan r)
  | writeArray start count =>
    exact hbarrier (Barrier.inStep_recordArray h.layout h.toCoupling start count)
  | writeOnFastPath start count =>
    have hwrite : Couples (Barrier.InStep p q R)
        ((FastPath.mk p.layout ()).recordArray start count)
        ((FastPath.mk p.layout ()).recordArray start count) :=
      (couples_ofExcept _).bind fun r => Barrier.inStep_recordSpan h.toCoupling r
    rw [p.perform_writeOnFastPath (), q.perform_writeOnFastPath (), ← h.layout]
    exact .of_couples ((Arena.couples_inStep_onBarrier hwrite).bind fun _ => couples_pure _)
  | writeTogether batches =>
    exact hbarrier (Barrier.inStep_recordBatches h.layout h.toCoupling batches)
  | allocate _ _ | detach _ | flush _ _ | drain _ => exact stepAlike_work hwork h.toCoupling trivial
  | report => exact Arena.stepAlike_report.silently
  | moveYoung _ | clear _ | reset => exact hledger (h.update _)
  | change ch => exact (Arena.StepAlike.of_couples (Arena.couples_inStep_change ch)).silently

end CardBarrier
