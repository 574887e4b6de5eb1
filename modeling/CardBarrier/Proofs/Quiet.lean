import CardBarrier.Proofs.InStep

/-!
# Steps that tell nothing

A step is *quiet* if it leaves the event log alone, whether it comes through or not (`Site.Quiet`,
`Arena.Quiet`). Of what a thread at work does everything is quiet but telling an event, so that
under a policy that tells none all of its work is; and no other move tells anything, whatever the
policy, except a report (`Policy.quiet_perform`).
-/

namespace CardBarrier

open Act

variable {κ ω τ α : Type}

/-- **A step tells nothing**: it leaves the event log alone. -/
def Site.Quiet (act : Act (Site κ ω τ) α) : Prop :=
  ∀ log, Keeps (fun s => s.scene.journal.log = log) act

/-- **A step on an arena tells nothing.** -/
def Arena.Quiet (act : Act (Arena κ ω τ) α) : Prop :=
  ∀ log, Keeps (fun a => a.scene.journal.log = log) act

/-- A quiet step that comes through has left the log as it was. -/
theorem Site.Quiet.log_eq {act : Act (Site κ ω τ) α} {s t : Site κ ω τ} {x : α} (h : Quiet act)
    (hact : act.Yields s x t) : t.scene.journal.log = s.scene.journal.log := by
  have ht := h s.scene.journal.log s rfl
  rwa [hact.run_eq] at ht

theorem Arena.Quiet.log_eq {act : Act (Arena κ ω τ) α} {a c : Arena κ ω τ} {x : α} (h : Quiet act)
    (hact : act.Yields a x c) : c.scene.journal.log = a.scene.journal.log := by
  have hc := h a.scene.journal.log a rfl
  rwa [hact.run_eq] at hc

theorem Site.Quiet.of_couples {act : Act (Site κ ω τ) α}
    (h : ∀ log, Couples (fun s t => s = t ∧ s.scene.journal.log = log) act act) : Quiet act :=
  fun log => couples_self_iff.1 (h log)

/-! ## Threads at work -/

section Work

variable [RememberedSet κ] [HeapView ω] [SlotHolder τ] {p : Policy}

/-- **Where nothing is told the log stays as it is.** -/
theorem Workplace.coupling_silent (hverbose : p.verbose = false) (log : EventLog) :
    Workplace.Coupling p p fun s t : Site κ ω τ => s = t ∧ s.scene.journal.log = log where
  reduces := rfl
  defers := rfl
  count kind := by
    unfold Policy.count
    exact couples_ite (couples_self_iff.2 fun s h => h) (couples_pure ())
  mark r := couples_self_iff.2 fun s h => h
  forceMark r := couples_self_iff.2 fun s h => h
  ask := couples_self_iff.2 fun s h => h
  tell r := couples_self_iff.2 fun s h => h
  isYoung a := couples_self_iff.2 fun s h => h
  isReferenceFree a := couples_self_iff.2 fun s h => h
  extent a := couples_self_iff.2 fun s h => h
  isWhole a := couples_self_iff.2 fun s h => h
  remark d := couples_self_iff.2 fun s h => h
  announce e he := by
    unfold Policy.announce
    rw [hverbose]
    exact couples_pure ()

namespace Policy

/-- The policy that tells nothing and is the same otherwise. -/
def silent (p : Policy) : Policy := { p with verbose := false }

/-- The checks on a deferred mark tell nothing. -/
theorem quiet_requireDue (p : Policy) (r : Interval) :
    Site.Quiet (p.requireDue r : Act (Site κ ω τ) Unit) := .of_couples fun log =>
  (Workplace.coupling_silent (p := p.silent) rfl log).requireDue r

theorem quiet_forceMark (p : Policy) (r : Interval) :
    Site.Quiet (p.forceMark r : Act (Site κ ω τ) Unit) := .of_couples fun log =>
  (Workplace.coupling_silent (p := p.silent) rfl log).policyForceMark r

theorem quiet_release : Site.Quiet (release : Act (Site κ ω τ) Unit) := .of_couples fun log =>
  (Workplace.coupling_silent (p := ofSettings default false) rfl log).release

theorem quiet_count (p : Policy) (kind : Tally.Kind) :
    Site.Quiet (p.count kind : Act (Site κ ω τ) Unit) := .of_couples fun log =>
  (Workplace.coupling_silent (p := p.silent) rfl log).count kind

theorem quiet_remark (d : Diagnostic) :
    Site.Quiet (Workplace.remark d : Act (Site κ ω τ) Unit) := fun _ _ hs => hs

theorem quiet_assess (object : Address) :
    Site.Quiet (Workplace.assess object : Act (Site κ ω τ) _) := .of_couples fun log =>
  (Workplace.coupling_silent (p := ofSettings default false) rfl log).assess object

theorem quiet_conclude (p : Policy) (object : Address) (verdict : Tally.Kind ⊕ Interval) :
    Site.Quiet (p.conclude object verdict : Act (Site κ ω τ) Unit) := .of_couples fun log =>
  (Workplace.coupling_silent (p := p.silent) rfl log).conclude object verdict

/-! ### Draining -/

/-- **A round of flushes tells nothing** where nothing is told. -/
theorem log_flushEach (hverbose : p.verbose = false) (ts : List τ) (u : Scene κ ω) :
    (p.flushEach ts u).2.2.journal.log = u.journal.log := by
  have hquiet : Site.Quiet (p.flush .safepoint : Act (Site κ ω τ) Bool) := .of_couples fun log =>
    (Workplace.coupling_silent hverbose log).flush .safepoint
  induction ts generalizing u with
  | nil => rfl
  | cons t ts ih =>
    have hflush : ((p.flush .safepoint).run (Site.mk u t)).2.scene.journal.log = u.journal.log :=
      hquiet _ _ rfl
    rw [flushEach]
    revert hflush
    generalize (p.flush .safepoint).run (Site.mk u t) = x
    obtain ⟨_ | b, s⟩ := x
    · exact id
    · exact fun hflush => (ih s.scene).trans hflush

theorem quiet_drain (hverbose : p.verbose = false) :
    Site.Quiet (p.drain : Act (Site κ ω (List τ)) Nat) := by
  rintro log ⟨u, ts⟩ hu
  rw [run_drain]
  have hlog := log_flushEach hverbose ts u
  revert hlog
  generalize p.flushEach ts u = x
  obtain ⟨_ | n, us, v⟩ := x
  · exact fun hlog => hlog.trans hu
  · intro hlog
    have hannounce : Site.Quiet (p.announceDrain us.length n : Act (Site κ ω (List τ)) Unit) := by
      unfold announceDrain
      rw [hverbose]
      exact fun _ _ hs => hs
    -- a count is for the ledger, and a remark goes past the log
    have hlast : Keeps (fun s : Site κ ω (List τ) => s.scene.journal.log = log) (do
        Site.onScene (Scene.onLedger (p.count .drain))
        Site.onScene (Scene.remark (.drained us.length n))
        p.announceDrain us.length n
        return n) :=
      Keeps.bind (fun _ hs => hs) fun _ => Keeps.bind (fun _ hs => hs) fun _ =>
        (hannounce log).bind fun _ _ hs => hs
    exact hlast ⟨v, us⟩ (hlog.trans hu)

end Policy

end Work

/-! ## Moves -/

namespace Arena

theorem Quiet.silently {act : Act (Arena κ ω τ) Unit} (h : Quiet act) :
    Quiet (Policy.silently act) := fun log => (h log).bind fun _ _ ha => ha

theorem Quiet.map {β : Type} {act : Act (Arena κ ω τ) α} (h : Quiet act) (f : α → β) :
    Quiet (f <$> act) := by
  intro log a ha
  rw [run_map]
  exact h log a ha

theorem quiet_onLedger (act : Act (Ledger κ) α) :
    Quiet (onLedger act : Act (Arena κ ω τ) α) := fun _ _ ha => ha

theorem quiet_onBarrier (p : Policy) (act : Act (Barrier κ) α) :
    Quiet (onBarrier p act : Act (Arena κ ω τ) α) := fun _ _ ha => ha

theorem quiet_atThread {act : Act (Site κ ω τ) α} (h : Site.Quiet act) (name : String) :
    Quiet (atThread name act) := by
  intro log a ha
  cases hfind : a.threads.find? name with
  | none =>
    rw [run_atThread_of_none _ hfind]
    exact ha
  | some t =>
    rw [run_atThread _ hfind]
    exact h log ⟨a.scene, t⟩ ha

theorem quiet_atThreads {act : Act (Site κ ω (List τ)) α} (h : Site.Quiet act)
    (names : List String) : Quiet (atThreads names act) := by
  intro log a ha
  cases hfind : names.mapM a.threads.require with
  | error f =>
    rw [run_atThreads_of_error _ hfind]
    exact ha
  | ok ts =>
    rw [run_atThreads _ (Threads.mapM_require_eq_ok_iff.1 hfind)]
    exact h log ⟨a.scene, ts⟩ ha

theorem quiet_change [SlotHolder τ] (ch : Change ω τ) :
    Quiet (change ch : Act (Arena κ ω τ) Unit) := by
  intro log
  cases ch with
  | attach name thread => exact fun _ ha => ha
  | discard name underway =>
    refine Keeps.bind (fun _ ha => ha) fun _ => Keeps.bind (fun _ ha => ha) fun _ =>
      Keeps.bind (fun _ ha => ha) fun _ => ?_
    cases underway with
    | none => exact fun _ ha => ha
    | some fault => exact fun _ ha => ha
  | assign name region =>
    have htell : Site.Quiet (Site.onThread (SlotHolder.tell region) : Act (Site κ ω τ) Unit) :=
      fun _ _ hs => hs
    exact quiet_atThread htell name log
  | rearrange change => exact fun _ ha => ha

end Arena

/-- **Moves tell nothing** if they are neither work for threads nor a report, and under a policy
that tells nothing work for threads does not either. -/
theorem Policy.quiet_perform [RememberedSet κ] [TableBacked κ] [HeapView ω] [SlotHolder τ]
    {p : Policy} {m : Move ω τ} (hm : m.IsWork → p.verbose = false)
    (hreport : m ≠ .report) : Arena.Quiet (p.perform m : Act (Arena κ ω τ) Reply) := by
  have hsilent : m.IsWork → ∀ log, Workplace.Coupling p p
      fun s t : Site κ ω τ => s = t ∧ s.scene.journal.log = log :=
    fun hwork => Workplace.coupling_silent (hm hwork)
  cases m with
  | mark r | forceMark r | writeSpan r | moveYoung young | clear r | reset =>
    exact (Arena.quiet_onLedger _).silently
  | writeArray start count | writeTogether batches => exact (Arena.quiet_onBarrier p _).silently
  | writeOnFastPath start count =>
    rw [p.perform_writeOnFastPath ()]
    exact fun log => (Arena.quiet_onBarrier p _ log).bind fun _ _ ha => ha
  | allocate name object =>
    exact (Arena.quiet_atThread (.of_couples fun log =>
      (hsilent trivial log).finishAllocation object) name).silently
  | detach name =>
    exact (Arena.quiet_atThread (.of_couples fun log =>
      (hsilent trivial log).detach) name).silently
  | flush name point =>
    exact (Arena.quiet_atThread (.of_couples fun log =>
      (hsilent trivial log).flush point) name).map _
  | drain names =>
    intro log a ha
    exact (Arena.quiet_atThreads (quiet_drain (hm trivial)) _).map _ log a ha
  | report => exact absurd rfl hreport
  | change ch => exact (Arena.quiet_change ch).silently

end CardBarrier
