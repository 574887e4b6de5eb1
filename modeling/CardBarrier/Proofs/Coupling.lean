import CardBarrier.Proofs.Work

/-!
# Steps in step with each other

Two steps on two states are *coupled* by a relation of the states if from related states
they come to the same outcome, a fault or an answer, and leave states that are related
again (`Act.Couples`). Sequences of coupled steps are coupled, so that of the work of a
thread nothing has to be known but the dozen steps that it is made of: where these are
coupled, so is a flush, a detachment and an allocation, under policies that agree on what
they decide (`Workplace.Coupling`).

With the two states the same and the relation a property, coupling says that a property is
kept, whatever the outcome (`Act.Keeps`).
-/

namespace CardBarrier

namespace Act

variable {σ ρ α β : Type} {R : σ → ρ → Prop} {I : σ → Prop}

/-- **Two steps are coupled** by a relation of the states. -/
def Couples (R : σ → ρ → Prop) (act : Act σ α) (act' : Act ρ α) : Prop :=
  ∀ s t, R s t → (act.run s).1 = (act'.run t).1 ∧ R (act.run s).2 (act'.run t).2

/-- **A step keeps a property** of the state, whether it comes through or not. -/
def Keeps (I : σ → Prop) (act : Act σ α) : Prop := ∀ s, I s → I (act.run s).2

theorem couples_pure (a : α) : Couples R (pure a) (pure a) := fun _ _ h => ⟨rfl, h⟩

theorem couples_throw (f : Fault) :
    Couples R (throw f : Act σ α) (throw f) := fun _ _ h => ⟨rfl, h⟩

/-- **Coupled steps in sequence are coupled.** -/
theorem Couples.bind {act : Act σ α} {act' : Act ρ α} {next : α → Act σ β} {next' : α → Act ρ β}
    (h : Couples R act act') (hnext : ∀ a, Couples R (next a) (next' a)) :
    Couples R (act >>= next) (act' >>= next') := by
  intro s t hst
  obtain ⟨hout, hrel⟩ := h s t hst
  rw [run_bind, run_bind]
  revert hout hrel
  generalize act.run s = x
  generalize act'.run t = y
  obtain ⟨o, u⟩ := x
  obtain ⟨o', v⟩ := y
  intro hout hrel
  obtain rfl : o = o' := hout
  cases o with
  | error f => exact ⟨rfl, hrel⟩
  | ok a => exact hnext a u v hrel

theorem couples_ite {c : Prop} [Decidable c] {x y : Act σ α} {x' y' : Act ρ α}
    (h : Couples R x x') (h' : Couples R y y') :
    Couples R (if c then x else y) (if c then x' else y') := by
  split
  · exact h
  · exact h'

/-- A property is kept by a step that is coupled with itself over the states that have it. -/
theorem couples_self_iff {act : Act σ α} :
    Couples (fun s t => s = t ∧ I s) act act ↔ Keeps I act := by
  constructor
  · intro h s hs
    exact (h s s ⟨rfl, hs⟩).2.2
  · rintro h s _ ⟨rfl, hs⟩
    exact ⟨rfl, rfl, h s hs⟩

theorem Keeps.bind {act : Act σ α} {next : α → Act σ β} (h : Keeps I act)
    (hnext : ∀ a, Keeps I (next a)) : Keeps I (act >>= next) :=
  couples_self_iff.1 ((couples_self_iff.2 h).bind fun a => couples_self_iff.2 (hnext a))

end Act

/-- **An event that can be told in a sentence.** -/
def Event.Speakable (e : Event) : Prop := ∃ text, e.human = .ok text

/-- **A report of counters too large for a sentence**: the sum of two of them leaves the word. -/
def Event.IsTooLarge : Event → Prop
  | .counted t => UInt64.size ≤ t.referenceFree.toNat + t.young.toNat
  | _ => False

instance : DecidablePred Event.IsTooLarge
  | .counted t =>
    inferInstanceAs (Decidable (UInt64.size ≤ t.referenceFree.toNat + t.young.toNat))
  | .setUp .. | .flushed .. | .detached _ | .drained .. => inferInstanceAs (Decidable False)

/-- Nothing but that sum stands in the way of a sentence. -/
theorem Event.human_eq_error_iff {e : Event} {fault : Fault} :
    e.human = .error fault ↔ fault = .sumOverflow ∧ e.IsTooLarge := by
  cases e with
  | counted t =>
    unfold human IsTooLarge Tally.skipped Tally.sum Word.add?
    by_cases hsum : t.referenceFree.toNat + t.young.toNat < UInt64.size
    · simp [hsum, Nat.not_le.2 hsum, bind, Except.bind, pure, Except.pure]
    · simp [hsum, Nat.not_lt.1 hsum, bind, Except.bind, eq_comm]
  | _ => simp [human, IsTooLarge]

/-- **An event can be told** unless it is such a report. -/
theorem Event.speakable_iff {e : Event} : e.Speakable ↔ ¬e.IsTooLarge := by
  unfold Speakable
  cases h : e.human with
  | ok text =>
    refine iff_of_true ⟨text, rfl⟩ fun hlarge => ?_
    have hfault := human_eq_error_iff.2 ⟨rfl, hlarge⟩
    rw [h] at hfault
    cases hfault
  | error fault =>
    refine iff_of_false ?_ fun hfits => hfits (human_eq_error_iff.1 h).2
    rintro ⟨text, htext⟩
    cases htext

/-- **Counting and marking are coupled** under two policies. -/
structure Books.Coupling {σ ρ : Type} [Books σ] [Books ρ] (p q : Policy) (R : σ → ρ → Prop) :
    Prop where
  /-- Counting. -/
  count : ∀ kind, Act.Couples R (p.count kind) (q.count kind)
  /-- Marking on the store path. -/
  mark : ∀ r, Act.Couples R (Books.mark r) (Books.mark r)
  /-- Marking by force. -/
  forceMark : ∀ r, Act.Couples R (Books.forceMark r) (Books.forceMark r)

namespace Books.Coupling

open Act

variable {σ ρ : Type} [Books σ] [Books ρ] {p q : Policy} {R : σ → ρ → Prop}

theorem policyMark (h : Coupling p q R) (r : Interval) : Couples R (p.mark r) (q.mark r) :=
  (h.count _).bind fun _ => h.mark r

theorem policyForceMark (h : Coupling p q R) (r : Interval) :
    Couples R (p.forceMark r) (q.forceMark r) :=
  (h.count _).bind fun _ => h.forceMark r

theorem writeSpan (h : Coupling p q R) (r : Interval) :
    Couples R (p.writeSpan r) (q.writeSpan r) :=
  (h.count _).bind fun _ => h.policyMark r

end Books.Coupling

/-- **The steps of two places of work are coupled**, for two policies that decide alike. How
much they count and tell may differ, as far as the relation does not mind. -/
structure Workplace.Coupling {σ ρ : Type} [Workplace σ] [Workplace ρ] (p q : Policy)
    (R : σ → ρ → Prop) : Prop extends Books.Coupling p q R where
  /-- Allocations are compensated for under both policies or under neither. -/
  reduces : p.reducesInitialMarks = q.reducesInitialMarks
  /-- Marks wait under both policies or under neither. -/
  defers : p.defers = q.defers
  /-- Asking for the deferred mark. -/
  ask : Act.Couples R Workplace.ask Workplace.ask
  /-- Setting the deferred mark. -/
  tell : ∀ r, Act.Couples R (Workplace.tell r) (Workplace.tell r)
  /-- Asking for the age of an object. -/
  isYoung : ∀ a, Act.Couples R (Workplace.isYoung a) (Workplace.isYoung a)
  /-- Asking for the kind of an object. -/
  isReferenceFree : ∀ a, Act.Couples R (Workplace.isReferenceFree a) (Workplace.isReferenceFree a)
  /-- Asking for the extent of an object. -/
  extent : ∀ a, Act.Couples R (Workplace.extent a) (Workplace.extent a)
  /-- Asking whether an object is whole. -/
  isWhole : ∀ a, Act.Couples R (Workplace.isWhole a) (Workplace.isWhole a)
  /-- Adding a diagnostic. -/
  remark : ∀ d, Act.Couples R (Workplace.remark d) (Workplace.remark d)
  /-- Telling an event. -/
  announce : ∀ e : Event, e.Speakable → Act.Couples R (p.announce e) (q.announce e)

namespace Workplace.Coupling

open Act

variable {σ ρ : Type} [Workplace σ] [Workplace ρ] {p q : Policy} {R : σ → ρ → Prop}

/-- **The checks on a deferred mark** ask three questions. -/
theorem couples_requireDue (hdefers : p.defers = q.defers)
    (hyoung : ∀ a, Couples R (Workplace.isYoung a) (Workplace.isYoung a))
    (hwhole : ∀ a, Couples R (Workplace.isWhole a) (Workplace.isWhole a))
    (hextent : ∀ a, Couples R (Workplace.extent a) (Workplace.extent a)) (r : Interval) :
    Couples R (p.requireDue r) (q.requireDue r) := by
  unfold Policy.requireDue Policy.requireStillThere
  rw [hdefers]
  refine couples_ite ?_ (couples_throw _)
  refine (hyoung _).bind fun young => couples_ite ((couples_throw _).bind fun _ => ?_) ?_
  all_goals
    refine (hwhole _).bind fun whole => couples_ite ?_ ((couples_throw _).bind fun _ => ?_)
    all_goals
      exact (hextent _).bind fun extent => couples_ite (couples_pure _) (couples_throw _)

theorem requireDue (h : Coupling p q R) (r : Interval) :
    Couples R (p.requireDue r) (q.requireDue r) :=
  couples_requireDue h.defers h.isYoung h.isWhole h.extent r

theorem release (h : Coupling p q R) :
    Couples R (Policy.release : Act σ Unit) (Policy.release : Act ρ Unit) :=
  (h.tell none).bind fun _ => h.ask.bind fun _ => couples_ite (couples_throw _) (couples_pure _)

theorem reportFlush (h : Coupling p q R) (point : FlushPoint) (r : Interval) :
    Couples R (p.reportFlush point r) (q.reportFlush point r) :=
  (h.count _).bind fun _ => (h.remark _).bind fun _ => h.announce _ ⟨_, rfl⟩

theorem flushMark (h : Coupling p q R) (point : FlushPoint) (r : Interval) :
    Couples R (p.flushMark point r) (q.flushMark point r) :=
  (h.requireDue r).bind fun _ => (h.policyForceMark r).bind fun _ => h.release.bind fun _ =>
    h.reportFlush point r

/-- **Flushes are coupled.** -/
theorem flush (h : Coupling p q R) (point : FlushPoint) :
    Couples R (p.flush point) (q.flush point) := by
  rw [Policy.flush_eq, Policy.flush_eq]
  refine h.ask.bind fun o => ?_
  cases o with
  | none => exact couples_pure _
  | some r => exact (h.flushMark point r).bind fun _ => couples_pure _

/-- **Detachments are coupled.** -/
theorem detach (h : Coupling p q R) : Couples R p.detach q.detach := by
  rw [Policy.detach_eq, Policy.detach_eq]
  exact (h.flush .detach).bind fun _ => h.announce _ ⟨_, rfl⟩

theorem assess (h : Coupling p q R) (object : Address) :
    Couples R (Workplace.assess object) (Workplace.assess object) :=
  (h.isReferenceFree object).bind fun _ => couples_ite (couples_pure _) <|
    (h.isYoung object).bind fun _ => couples_ite (couples_pure _) <|
      (h.extent object).bind fun _ => couples_pure _

theorem judge (h : Coupling p q R) (object : Address) :
    Couples R (p.judge object) (q.judge object) :=
  (h.flush .allocation).bind fun _ => h.assess object

theorem compensate (h : Coupling p q R) (object : Address) (r : Interval) :
    Couples R (p.compensate object r) (q.compensate object r) := by
  unfold Policy.compensate
  rw [h.defers]
  refine couples_ite ?_ ((h.policyForceMark r).bind fun _ => h.count _)
  refine h.ask.bind fun o => ?_
  -- putting a mark into a slot looks at the slot alone
  have hput : Couples R (Act.ofExcept ((Slot.ofOption o).put r))
      (Act.ofExcept ((Slot.ofOption o).put r)) := fun _ _ hst => ⟨rfl, hst⟩
  exact hput.bind fun slot => (h.tell _).bind fun _ => (h.count _).bind fun _ => h.remark _

theorem conclude (h : Coupling p q R) (object : Address) (verdict : Tally.Kind ⊕ Interval) :
    Couples R (p.conclude object verdict) (q.conclude object verdict) := by
  cases verdict with
  | inl kind =>
    exact (h.count kind).bind fun _ => h.ask.bind fun _ =>
      couples_ite (couples_throw _) (couples_pure _)
  | inr r => exact couples_ite (couples_throw _) (h.compensate object r)

/-- **Allocations are coupled.** -/
theorem finishAllocation (h : Coupling p q R) (object : Address) :
    Couples R (p.finishAllocation object) (q.finishAllocation object) := by
  rw [Policy.finishAllocation_eq, Policy.finishAllocation_eq, h.reduces]
  refine couples_ite ?_ (couples_pure _)
  exact Couples.bind (couples_ite (couples_throw _) (couples_pure _)) fun _ =>
    (h.judge object).bind fun verdict => h.conclude object verdict

end Workplace.Coupling

/-! ## Threads at work over related ledgers

A thread at work sees its slot, its objects and, through the store, which objects are young.
Where two threads have all of these in common and their ledgers are coupled, so is their
work, whatever has been said in the journal. -/

/-- **Asking about objects does not change them.** -/
structure HeapView.Steady {ω : Type} [HeapView ω] (heap : ω) : Prop where
  /-- Asking for the kind of an object. -/
  isReferenceFree : ∀ a, ((HeapView.isReferenceFree a).run heap).2 = heap
  /-- Asking for the extent of an object. -/
  extent : ∀ a, ((HeapView.extent a).run heap).2 = heap
  /-- Asking whether an object is whole. -/
  isWhole : ∀ a, ((HeapView.isWhole a).run heap).2 = heap

/-- A list of objects does not change as it is asked. -/
theorem Objects.steady (os : Objects) : HeapView.Steady os :=
  ⟨fun _ => rfl, fun _ => rfl, fun _ => rfl⟩

/-- **There are lines to print of an event** unless it is for a console that shows sentences and
cannot be told in one. -/
theorem EventLog.exists_linesOf_iff {s : LogSettings} {e : Event} :
    (∃ lines, linesOf s e = .ok lines) ↔ (s.console = true → s.json = false → e.Speakable) := by
  unfold linesOf Event.Speakable
  cases s.console <;> cases s.json <;> cases e.human <;> simp [bind, Except.bind, pure, Except.pure]

/-- **A journal takes an event** that its log takes no notice of, or has lines to print of. -/
theorem Journal.exists_keep_iff {e : Event} {j : Journal} : (∃ k, j.keep e = .ok k) ↔
    (j.log.keeps e = true → ∃ lines, EventLog.linesOf j.log.settings e = .ok lines) := by
  constructor
  · rintro ⟨k, hk⟩ hkeeps
    obtain ⟨l, hadd, -⟩ := keep_eq_ok_iff.1 hk
    obtain ⟨lines, hlines, -⟩ := EventLog.add_eq_ok_iff.1 hadd
    rw [if_pos hkeeps] at hlines
    exact ⟨lines, hlines⟩
  · intro h
    have hlines : ∃ lines, (if j.log.keeps e = true then EventLog.linesOf j.log.settings e
        else .ok []) = .ok lines := by
      split
      · exact h ‹_›
      · exact ⟨[], rfl⟩
    obtain ⟨lines, hlines⟩ := hlines
    exact ⟨_, keep_eq_ok_iff.2 ⟨_, EventLog.add_eq_ok_iff.2 ⟨lines, hlines, rfl⟩, rfl⟩⟩

/-- An event that can be told in a sentence can be given to any journal. -/
theorem Journal.exists_keep {e : Event} (he : e.Speakable) (j : Journal) :
    ∃ k, j.keep e = .ok k :=
  exists_keep_iff.2 fun _ => EventLog.exists_linesOf_iff.2 fun _ _ => he

namespace Site

open Act

variable {κ ι ω τ α : Type}

/-- Two threads at work with related ledgers, and with all else in common that they see. -/
def Alike (R : Ledger κ → Ledger ι → Prop) (heap : ω) (s : Site κ ω τ) (t : Site ι ω τ) : Prop :=
  R s.scene.ledger t.scene.ledger ∧ s.scene.heap = heap ∧ t.scene.heap = heap ∧
    s.thread = t.thread

variable {R : Ledger κ → Ledger ι → Prop} {heap : ω}

theorem couples_onLedger {act : Act (Ledger κ) α} {act' : Act (Ledger ι) α}
    (h : Couples R act act') :
    Couples (Alike R heap : Site κ ω τ → Site ι ω τ → Prop)
      (onScene (Scene.onLedger act)) (onScene (Scene.onLedger act')) := by
  rintro s t ⟨hrel, hs, ht, hthread⟩
  obtain ⟨hout, hrel'⟩ := h _ _ hrel
  exact ⟨hout, hrel', hs, ht, hthread⟩

theorem couples_onHeap {act : Act ω α} (h : (act.run heap).2 = heap) :
    Couples (Alike R heap : Site κ ω τ → Site ι ω τ → Prop)
      (onScene (Scene.onHeap act)) (onScene (Scene.onHeap act)) := by
  rintro s t ⟨hrel, hs, ht, hthread⟩
  have hsame : act.run s.scene.heap = act.run t.scene.heap := by rw [hs, ht]
  refine ⟨congrArg Prod.fst hsame, hrel, ?_, ?_, hthread⟩
  · show (act.run s.scene.heap).2 = heap
    rw [hs, h]
  · show (act.run t.scene.heap).2 = heap
    rw [ht, h]

theorem couples_onThread (act : Act τ α) :
    Couples (Alike R heap : Site κ ω τ → Site ι ω τ → Prop) (onThread act) (onThread act) := by
  rintro s t ⟨hrel, hs, ht, hthread⟩
  have hsame : act.run s.thread = act.run t.thread := by rw [hthread]
  exact ⟨congrArg Prod.fst hsame, hrel, hs, ht, congrArg Prod.snd hsame⟩

variable [RememberedSet κ] [RememberedSet ι] [HeapView ω] [SlotHolder τ]

/-- **An event that can be told in a sentence is told**, if events are, and all that changes is the
journal. -/
theorem exists_run_announce (p : Policy) {e : Event} (he : e.Speakable) (s : Site κ ω τ) :
    ∃ j, (p.announce e).run s = (.ok (), { s with scene := { s.scene with journal := j } }) := by
  unfold Policy.announce
  cases p.verbose with
  | false => exact ⟨s.scene.journal, rfl⟩
  | true =>
    obtain ⟨j, hj⟩ := s.scene.journal.exists_keep he
    refine ⟨j, ?_⟩
    show (let x := (Act.update (Journal.keep e)).run s.scene.journal
      (x.1, ({ s with scene := { s.scene with journal := x.2 } } : Site κ ω τ))) = _
    unfold Act.update
    rw [run_ofFun, hj]

theorem couples_announce {p q : Policy} {e : Event} (he : e.Speakable) :
    Couples (Alike R heap : Site κ ω τ → Site ι ω τ → Prop) (p.announce e) (q.announce e) := by
  rintro s t ⟨hrel, hs, ht, hthread⟩
  obtain ⟨j, hj⟩ := exists_run_announce p he s
  obtain ⟨k, hk⟩ := exists_run_announce q he t
  rw [hj, hk]
  exact ⟨rfl, hrel, hs, ht, hthread⟩

/-- **Threads that are alike do alike work**, if their object model is steady and the relation
of their ledgers couples counting and marking and says who is young. -/
theorem coupling {p q : Policy} (hreduces : p.reducesInitialMarks = q.reducesInitialMarks)
    (hdefers : p.defers = q.defers) (h : Books.Coupling p q R)
    (hyoung : ∀ l m a, R l m → RememberedSet.isYoung l.cards a = RememberedSet.isYoung m.cards a)
    (hsteady : HeapView.Steady heap) :
    Workplace.Coupling p q (Alike R heap : Site κ ω τ → Site ι ω τ → Prop) where
  reduces := hreduces
  defers := hdefers
  count kind := by
    rw [Policy.count_site, Policy.count_site]
    exact couples_onLedger (h.count kind)
  mark r := couples_onLedger (h.mark r)
  forceMark r := couples_onLedger (h.forceMark r)
  ask := couples_onThread _
  tell r := couples_onThread _
  isYoung a := by
    rintro s t ⟨hrel, hrest⟩
    exact ⟨congrArg Except.ok (hyoung _ _ a hrel), hrel, hrest⟩
  isReferenceFree a := couples_onHeap (hsteady.isReferenceFree a)
  extent a := couples_onHeap (hsteady.extent a)
  isWhole a := couples_onHeap (hsteady.isWhole a)
  remark d := by
    rintro s t h
    exact ⟨rfl, h⟩
  announce e he := couples_announce he

end Site

end CardBarrier
