import CardBarrier.Proofs.Counting
import CardBarrier.Proofs.Observation
import CardBarrier.Proofs.Quiet
import CardBarrier.Proofs.Recording
import CardBarrier.Proofs.Uncounted

/-!
# The event stream

An event log that takes everything and prints nothing (`Journal.Listens`) ends up with exactly what
happened, in order. Whatever was pending in a slot when it was flushed is told with the point at
which it was flushed; a thread that detaches says whether anything was; a drain says how many
threads it came to and how many marks it found, and gives the counters; and a report gives the
counters. A barrier that tells nothing gives the log no more than the reports that are asked for.

Each step either tells one event or leaves the log alone (`Journal.Hears`), and what a move tells
is put together from its steps.
-/

namespace CardBarrier

open Act

/-! ## Listening -/

namespace Journal

/-- **The log takes every event**, and prints none. -/
structure Listens (j : Journal) : Prop where
  /-- It is switched on. -/
  enabled : j.log.enabled = true
  /-- No event is too unimportant. -/
  level : j.log.settings.level = .trace
  /-- There is no console. -/
  console : j.log.settings.console = false

/-- **A journal that listens hears these events**, in that order and no others, and goes on
listening. -/
def Hears (events : List Event) (j k : Journal) : Prop :=
  j.Listens → k.Listens ∧ k.log.events = j.log.events ++ events

variable {i j k : Journal} {es es' : List Event}

theorem Hears.trans (h : Hears es i j) (h' : Hears es' j k) : Hears (es ++ es') i k := by
  intro hi
  obtain ⟨hj, hevents⟩ := h hi
  obtain ⟨hk, hevents'⟩ := h' hj
  exact ⟨hk, by rw [hevents', hevents, List.append_assoc]⟩

/-- Where the log stays as it is nothing is heard. -/
theorem hears_nil (h : k.log = j.log) : Hears [] j k := by
  intro hj
  refine ⟨⟨?_, ?_, ?_⟩, ?_⟩
  · rw [h, hj.enabled]
  · rw [h, hj.level]
  · rw [h, hj.console]
  · rw [h, List.append_nil]

/-- **An event that is given to the log is heard.** -/
theorem hears_keep {e : Event} (h : j.keep e = .ok k) : Hears [e] j k := by
  intro hj
  have hkeeps : j.log.keeps e = true := by
    unfold EventLog.keeps
    rw [hj.enabled, hj.level]
    cases e <;> rfl
  obtain ⟨l, hadd, rfl⟩ := keep_eq_ok_iff.1 h
  obtain ⟨lines, -, rfl⟩ := EventLog.add_eq_ok_iff.1 hadd
  have htaken : j.log.taken e = [e] := if_pos hkeeps
  exact ⟨⟨hj.enabled, hj.level, hj.console⟩, congrArg (j.log.events ++ ·) htaken⟩

end Journal

/-! ## What a move tells -/

/-- What is told of a slot that is flushed. -/
def Slot.told (point : FlushPoint) : Slot → List Event
  | .empty => []
  | .holding r => [.flushed r.start r.stop point.name]

namespace Episode

variable {κ ω : Type}

/-- **The slots that an episode flushes**, in turn and as they were before it. An allocation flushes
only where allocations are compensated for. -/
def slots (p : Policy) (e : Episode κ ω Mutator) : List Slot :=
  let flushed := (e.before.threads.named (e.before.flushing e.move).2).map fun t => t.2.slot
  match e.move with
  | .allocate _ _ => if p.reducesInitialMarks then flushed else []
  | _ => flushed

/-- How many of these had something pending. -/
def pending (p : Policy) (e : Episode κ ω Mutator) : Nat :=
  (e.slots p).countP fun slot => !slot.isEmpty

/-- **What is told at the end of an episode**, after the flushes. -/
def closing (p : Policy) (e : Episode κ ω Mutator) : List Event :=
  match e.move with
  | .detach _ => [.detached (0 < e.pending p)]
  | .drain _ => [.drained (UInt64.ofNat (e.slots p).length) (UInt64.ofNat (e.pending p)),
      .counted e.after.scene.ledger.tally]
  | _ => []

/-- **What an episode tells.** -/
def told (p : Policy) (e : Episode κ ω Mutator) : List Event :=
  match e.move with
  | .report => [.counted e.after.scene.ledger.tally]
  | _ =>
    if p.verbose then (e.slots p).flatMap (Slot.told (e.before.flushing e.move).1) ++ e.closing p
    else []

/-! ### Move by move -/

section Told

variable {p : Policy} {a c : Arena κ ω Mutator} {name : String} {t : Mutator}
  {o : Except Fault Reply}

/-- Moves that are neither work for threads nor a report are not told of. -/
theorem told_of_quiet {e : Episode κ ω Mutator} (hm : e.move.IsWork → p.verbose = false)
    (hreport : e.move ≠ .report) : e.told p = [] := by
  obtain ⟨a, m, o, c⟩ := e
  cases m with
  | allocate | detach | flush | drain =>
    unfold told
    rw [hm trivial]
    rfl
  | report => exact absurd rfl hreport
  | _ => exact ite_self _

theorem told_of_work (e : Episode κ ω Mutator) (hverbose : p.verbose = true)
    (hm : e.move.IsWork) :
    e.told p = (e.slots p).flatMap (Slot.told (e.before.flushing e.move).1) ++ e.closing p := by
  obtain ⟨a, m, o, c⟩ := e
  cases m with
  | allocate | detach | flush | drain => exact if_pos hverbose
  | _ => exact hm.elim

/-- The slots of threads under the names that they are found by. -/
theorem map_slot_named {names : List String} {ts : List Mutator}
    (hfind : names.map a.threads.find? = ts.map some) :
    (a.threads.named names).map (fun t => t.2.slot) = ts.map Mutator.slot := by
  have hlength : ts.length ≤ names.length := by
    have heq := congrArg List.length hfind
    rw [List.length_map, List.length_map] at heq
    rw [heq]
  rw [Threads.named_eq_zip hfind]
  show (names.zip ts).map (Mutator.slot ∘ Prod.snd) = _
  rw [← List.map_map, List.map_snd_zip hlength]

theorem map_slot_singleton (hfind : a.threads.find? name = some t) :
    (a.threads.named [name]).map (fun t => t.2.slot) = [t.slot] := by
  have hnames : [name].map a.threads.find? = [t].map some := congrArg (fun o => [o]) hfind
  exact map_slot_named hnames

/-- **An allocation tells what it flushes**, where allocations are compensated for. -/
theorem told_allocate {object : Address} (hverbose : p.verbose = true)
    (hfind : a.threads.find? name = some t) : told p ⟨a, .allocate name object, o, c⟩
      = if p.reducesInitialMarks then t.slot.told .allocation else [] := by
  have hslots : slots p ⟨a, .allocate name object, o, c⟩
      = if p.reducesInitialMarks then [t.slot] else [] := by
    rw [← map_slot_singleton hfind]
    rfl
  rw [told_of_work ⟨a, .allocate name object, o, c⟩ hverbose trivial, hslots]
  cases p.reducesInitialMarks with
  | false => rfl
  | true =>
    show [t.slot].flatMap (Slot.told .allocation) ++ [] = _
    rw [List.append_nil, List.flatMap_singleton]
    rfl

/-- **A detachment tells what it flushes**, and then whether there was anything. -/
theorem told_detach (hverbose : p.verbose = true) (hfind : a.threads.find? name = some t) :
    told p ⟨a, .detach name, o, c⟩ = t.slot.told .detach ++ [.detached t.waits] := by
  have hslots : slots p ⟨a, .detach name, o, c⟩ = [t.slot] := map_slot_singleton hfind
  have hpending : decide (0 < pending p ⟨a, .detach name, o, c⟩) = t.waits := by
    rw [pending, hslots, Mutator.waits]
    cases t.slot <;> rfl
  rw [told_of_work ⟨a, .detach name, o, c⟩ hverbose trivial, hslots, closing, hpending,
    List.flatMap_singleton]
  rfl

/-- **A flush tells what was pending.** -/
theorem told_flush {point : FlushPoint} (hverbose : p.verbose = true)
    (hfind : a.threads.find? name = some t) :
    told p ⟨a, .flush name point, o, c⟩ = t.slot.told point := by
  have hslots : slots p ⟨a, .flush name point, o, c⟩ = [t.slot] := map_slot_singleton hfind
  rw [told_of_work ⟨a, .flush name point, o, c⟩ hverbose trivial, hslots, List.flatMap_singleton]
  exact List.append_nil _

section Drain

variable {names : Option (List String)} {ts : List Mutator}

theorem slots_drain (hfind : (names.getD a.threads.names).map a.threads.find? = ts.map some) :
    slots p ⟨a, .drain names, o, c⟩ = ts.map Mutator.slot := map_slot_named hfind

theorem pending_drain (hfind : (names.getD a.threads.names).map a.threads.find? = ts.map some) :
    pending p ⟨a, .drain names, o, c⟩ = ts.countP Mutator.waits := by
  rw [pending, slots_drain hfind, List.countP_map]
  rfl

/-- **A drain tells what it flushes**, thread by thread, then what it came to, and the counters. -/
theorem told_drain (hverbose : p.verbose = true)
    (hfind : (names.getD a.threads.names).map a.threads.find? = ts.map some) :
    told p ⟨a, .drain names, o, c⟩ = (ts.flatMap fun t => t.slot.told .safepoint)
      ++ [.drained (UInt64.ofNat ts.length)
        (UInt64.ofNat (pending p ⟨a, .drain names, o, c⟩)), .counted c.scene.ledger.tally] := by
  have hslots := slots_drain (p := p) (o := o) (c := c) hfind
  rw [told_of_work ⟨a, .drain names, o, c⟩ hverbose trivial, closing, hslots, List.length_map,
    List.flatMap_map]
  rfl

end Drain

end Told

end Episode

/-! ## What a thread at work tells -/

section Work

variable {κ ω τ α : Type} {p : Policy}

theorem Site.Quiet.hears {act : Act (Site κ ω τ) α} {s t : Site κ ω τ} {x : α} (h : Quiet act)
    (hact : act.Yields s x t) : Journal.Hears [] s.scene.journal t.scene.journal :=
  Journal.hears_nil (h.log_eq hact)

namespace Policy

theorem hears_keep {e : Event} {s t : Scene κ ω} {x : Unit} (h : (Scene.keep e).Yields s x t) :
    Journal.Hears [e] s.journal t.journal := by
  unfold Scene.keep Scene.onJournal at h
  obtain ⟨_, hkeep, rfl⟩ := yields_within.1 h
  exact Journal.hears_keep (yields_update.1 hkeep)

/-- **A report is heard.** -/
theorem hears_report {s t : Scene κ ω} {x : Unit} (h : report.Yields s x t) :
    Journal.Hears [.counted t.ledger.tally] s.journal t.journal := by
  obtain ⟨_, u, hget, hkeep⟩ := yields_bind.1 h
  obtain ⟨rfl, rfl⟩ := yields_get.1 hget
  have htally : t.ledger = u.ledger := by
    unfold Scene.keep Scene.onJournal at hkeep
    obtain ⟨_, -, rfl⟩ := yields_within.1 hkeep
    rfl
  rw [htally]
  exact hears_keep hkeep

/-- **An event that is announced is heard**, if events are told. -/
theorem hears_announce [RememberedSet κ] [HeapView ω] [SlotHolder τ] {e : Event}
    {s t : Site κ ω τ} {x : Unit} (hverbose : p.verbose = true)
    (h : (p.announce e).Yields s x t) : Journal.Hears [e] s.scene.journal t.scene.journal := by
  unfold announce at h
  rw [if_pos hverbose] at h
  have hkeep : (Site.onScene (Scene.keep e)).Yields s x t := h
  obtain ⟨_, hscene, rfl⟩ := yields_within.1 hkeep
  exact hears_keep hscene

/-- **A drain that is announced is heard**, and the counters with it. -/
theorem hears_announceDrain {k n : Nat} {s t : Site κ ω (List τ)} {x : Unit}
    (hverbose : p.verbose = true) (h : (p.announceDrain k n).Yields s x t) :
    Journal.Hears [.drained (UInt64.ofNat k) (UInt64.ofNat n), .counted t.scene.ledger.tally]
      s.scene.journal t.scene.journal := by
  unfold announceDrain at h
  rw [if_pos hverbose] at h
  obtain ⟨_, u, hkeep, hreport⟩ := yields_bind.1 h
  obtain ⟨_, hdrained, rfl⟩ := yields_within.1 hkeep
  obtain ⟨_, hcounted, rfl⟩ := yields_within.1 hreport
  exact (hears_keep hdrained).trans (hears_report hcounted)

section Mutator

variable [RememberedSet κ] [HeapView ω] {s t : Site κ ω Mutator}

/-- **A flush tells what was pending**, and at which point it is flushed. -/
theorem hears_flush {point : FlushPoint} {b : Bool} (hverbose : p.verbose = true)
    (h : (p.flush point).Yields s b t) :
    Journal.Hears (s.thread.slot.told point) s.scene.journal t.scene.journal := by
  rw [flush_eq] at h
  obtain ⟨o, s₁, hask, hflush⟩ := yields_bind.1 h
  obtain ⟨rfl, rfl⟩ := Site.yields_ask.1 hask
  cases hslot : s₁.thread.slot with
  | empty =>
    rw [hslot] at hflush
    obtain ⟨-, rfl⟩ := yields_pure.1 hflush
    exact Journal.hears_nil rfl
  | holding r =>
    rw [hslot] at hflush
    -- of all that a flush does only its last step tells anything
    obtain ⟨_, s₂, hmark, hanswer⟩ := yields_bind.1 hflush
    obtain ⟨-, rfl⟩ := yields_pure.1 hanswer
    obtain ⟨_, s₃, hdue, hmark⟩ := yields_bind.1 hmark
    obtain ⟨_, s₄, hforce, hmark⟩ := yields_bind.1 hmark
    obtain ⟨_, s₅, hrelease, hreport⟩ := yields_bind.1 hmark
    obtain ⟨_, s₆, hcount, hreport⟩ := yields_bind.1 hreport
    obtain ⟨_, s₇, hremark, hannounce⟩ := yields_bind.1 hreport
    exact ((p.quiet_requireDue r).hears hdue).trans <|
      ((p.quiet_forceMark r).hears hforce).trans <| (quiet_release.hears hrelease).trans <|
        ((p.quiet_count _).hears hcount).trans <|
          ((quiet_remark _).hears hremark).trans (hears_announce hverbose hannounce)

/-- **An allocation tells what it flushes**, where allocations are compensated for. -/
theorem hears_finishAllocation {object : Address} {x : Unit} (hverbose : p.verbose = true)
    (h : (p.finishAllocation object).Yields s x t) :
    Journal.Hears (if p.reducesInitialMarks then s.thread.slot.told .allocation else [])
      s.scene.journal t.scene.journal := by
  rw [finishAllocation_eq] at h
  split at h
  · rename_i hreduces
    rw [if_pos hreduces]
    obtain ⟨_, s₁, hobject, hrest⟩ := yields_bind.1 h
    have hs₁ : s₁ = s := by
      unfold requireObject at hobject
      split at hobject
      · exact absurd hobject not_yields_throw
      · exact (yields_pure.1 hobject).2
    subst hs₁
    obtain ⟨verdict, s₂, hjudge, hconclude⟩ := yields_bind.1 hrest
    obtain ⟨b, s₃, hflush, hassess⟩ := yields_bind.1 hjudge
    have hevents := (hears_flush hverbose hflush).trans <|
      ((quiet_assess object).hears hassess).trans ((p.quiet_conclude _ _).hears hconclude)
    simpa using hevents
  · rename_i hreduces
    rw [if_neg hreduces]
    obtain ⟨-, rfl⟩ := yields_pure.1 h
    exact Journal.hears_nil rfl

/-- **A detachment tells what it flushes**, and then whether there was anything. -/
theorem hears_detach {x : Unit} (hverbose : p.verbose = true) (h : p.detach.Yields s x t) :
    Journal.Hears (s.thread.slot.told .detach ++ [.detached s.thread.waits])
      s.scene.journal t.scene.journal := by
  rw [detach_eq] at h
  obtain ⟨b, s₁, hflush, hannounce⟩ := yields_bind.1 h
  rw [← (flushed_of_yields hflush).eq_waits]
  exact (hears_flush hverbose hflush).trans (hears_announce hverbose hannounce)

/-- **A round of flushes tells what was pending**, thread by thread. -/
theorem Round.hears {ts : List Mutator} {bs : List Bool} {u v : Scene κ ω}
    (hverbose : p.verbose = true) (h : p.Round ts u bs v) :
    Journal.Hears (ts.flatMap fun t => t.slot.told .safepoint) u.journal v.journal := by
  induction h with
  | nil => exact Journal.hears_nil rfl
  | cons hflush _ ih => exact (hears_flush hverbose hflush).trans ih

/-- **A drain tells what it flushes**, how many threads it came to and how many marks it found
there, which is what it answers, and the counters after that. -/
theorem hears_drain {ts : List Mutator} {u : Scene κ ω} {n : Nat} {v : Site κ ω (List Mutator)}
    (hverbose : p.verbose = true) (h : p.drain.Yields ⟨u, ts⟩ n v) :
    Journal.Hears ((ts.flatMap fun t => t.slot.told .safepoint)
      ++ [.drained (UInt64.ofNat ts.length) (UInt64.ofNat n), .counted v.scene.ledger.tally])
        u.journal v.scene.journal := by
  unfold Yields at h
  rw [run_drain] at h
  rcases heach : p.flushEach ts u with ⟨f | k, us, w⟩
  · rw [heach] at h
    cases h
  · rw [heach] at h
    obtain ⟨bs, hround, rfl, rfl⟩ := flushEach_round heach
    obtain ⟨_, s₁, hcount, hrest⟩ := yields_bind.1 h
    obtain ⟨_, s₂, hremark, hlast⟩ := yields_bind.1 hrest
    obtain ⟨_, s₃, hannounce, hanswer⟩ := yields_bind.1 hlast
    obtain ⟨rfl, rfl⟩ := yields_pure.1 hanswer
    obtain ⟨l, -, rfl⟩ := Site.yields_onLedger.1 hcount
    rw [List.length_map] at hannounce
    have hflushes := hround.hears hverbose
    have hremarked : Journal.Hears [] w.journal s₂.scene.journal := by
      cases hremark
      exact Journal.hears_nil rfl
    simpa using hflushes.trans (hremarked.trans (hears_announceDrain hverbose hannounce))

end Mutator

end Policy

end Work

/-! ## Every move -/

section Move

variable {κ ω : Type} [RememberedSet κ] [TableBacked κ] [HeapView ω] {p : Policy}
  {a c : Arena κ ω Mutator} {m : Move ω Mutator} {reply : Reply}

/-- **A drain answers** how many marks it found. -/
theorem Policy.drain_answers {names : Option (List String)}
    (h : (p.perform (.drain names)).Yields a reply c) :
    reply = .count (Episode.pending p ⟨a, .drain names, .ok reply, c⟩) := by
  obtain ⟨_, b, hget, hrest⟩ := yields_bind.1 h
  obtain ⟨rfl, rfl⟩ := yields_get.1 hget
  obtain ⟨n, hact, rfl⟩ := yields_map.1 hrest
  obtain ⟨ts, s, hfind, hdrain, rfl⟩ := Arena.atThreads_yields hact
  obtain ⟨bs, v, hround, rfl, -⟩ := drain_yields hdrain
  rw [Episode.pending_drain hfind, hround.eq_waits, Mutator.count_map_waits]

/-- **What is told of work for threads is what is heard.** -/
theorem Policy.hears_work (hverbose : p.verbose = true) (hm : m.IsWork)
    (h : (p.perform m).Yields a reply c) :
    Journal.Hears (Episode.told p ⟨a, m, .ok reply, c⟩) a.scene.journal c.scene.journal := by
  cases m with
  | allocate name object =>
    obtain ⟨t, s, hfind, hact, rfl⟩ := Arena.atThread_yields.1 (silently_yields.1 h).2
    rw [Episode.told_allocate hverbose hfind]
    exact hears_finishAllocation hverbose hact
  | detach name =>
    obtain ⟨t, s, hfind, hact, rfl⟩ := Arena.atThread_yields.1 (silently_yields.1 h).2
    rw [Episode.told_detach hverbose hfind]
    exact hears_detach hverbose hact
  | flush name point =>
    obtain ⟨b, hact, -⟩ := yields_map.1 h
    obtain ⟨t, s, hfind, hflush, rfl⟩ := Arena.atThread_yields.1 hact
    rw [Episode.told_flush hverbose hfind]
    exact hears_flush hverbose hflush
  | drain names =>
    have hanswer := drain_answers h
    obtain ⟨_, b, hget, hrest⟩ := yields_bind.1 h
    obtain ⟨rfl, rfl⟩ := yields_get.1 hget
    obtain ⟨n, hact, rfl⟩ := yields_map.1 hrest
    obtain ⟨ts, s, hfind, hdrain, rfl⟩ := Arena.atThreads_yields hact
    rw [Episode.told_drain hverbose hfind, ← Reply.count.inj hanswer]
    exact hears_drain hverbose hdrain
  | _ => exact hm.elim

/-- **What a move tells is what is heard.** -/
theorem Policy.hears_perform (h : (p.perform m).Yields a reply c) :
    Journal.Hears (Episode.told p ⟨a, m, .ok reply, c⟩) a.scene.journal c.scene.journal := by
  -- a report is told of under every policy, work for threads under some, and nothing else is
  by_cases hreport : m = .report
  · subst hreport
    obtain ⟨u, hact, rfl⟩ := yields_within.1 (silently_yields.1 h).2
    exact hears_report hact
  by_cases hquiet : m.IsWork → p.verbose = false
  · rw [Episode.told_of_quiet hquiet hreport]
    exact Journal.hears_nil ((quiet_perform hquiet hreport).log_eq h)
  · rw [Classical.not_imp, Bool.not_eq_false] at hquiet
    exact hears_work hquiet.2 hquiet.1 h

/-- **What moves tell is what is heard**, if all of them come through. -/
theorem Policy.hears_performAll (moves : List (Move ω Mutator)) {a : Arena κ ω Mutator}
    (hok : ∀ e ∈ p.episodes (fun _ j => j) moves a, ∃ reply, e.outcome = .ok reply) :
    Journal.Hears ((p.episodes (fun _ j => j) moves a).flatMap (Episode.told p))
      a.scene.journal (p.performAll moves a).scene.journal := by
  induction moves generalizing a with
  | nil => exact Journal.hears_nil rfl
  | cons m moves ih =>
    -- nothing is done to the journal between moves
    have hepisodes : p.episodes (fun _ j => j) (m :: moves) a
        = ⟨a, m, ((p.perform m).run a).1, ((p.perform m).run a).2⟩
          :: p.episodes (fun _ j => j) moves ((p.perform m).run a).2 := rfl
    rw [hepisodes] at hok ⊢
    obtain ⟨⟨reply, hreply⟩, hrest⟩ := List.forall_mem_cons.1 hok
    have hm : (p.perform m).Yields a reply ((p.perform m).run a).2 := Prod.ext hreply rfl
    have htold := (hears_perform hm).trans (ih hrest)
    have hreply : ((p.perform m).run a).1 = .ok reply := hreply
    rw [List.flatMap_cons, hreply]
    exact htold

end Move

/-! ## From the setting up -/

variable {κ ω : Type} [RememberedSet κ] [TableBacked κ] [HeapView ω]

omit [TableBacked κ] in
/-- **What is heard as a barrier comes into force**, if its settings ask for events. -/
theorem Barrier.hears_setUp {s : Settings} {cards : κ} {b : Barrier κ} {j k : Journal}
    (h : (setUp s cards).run j = (.ok b, k)) :
    Journal.Hears (if s.verbose then [.setUp (RememberedSet.summary cards)
      (s.elision.defers (RememberedSet.ordersMarks cards)) (RememberedSet.ordersMarks cards)
      s.cardBytes] else []) j k := by
  cases hb : ofSettings s cards with
  | error e =>
    rw [run_setUp_of_error hb] at h
    cases h
  | ok b' =>
    obtain ⟨k', hk'⟩ := b'.exists_keep_initialized j
    rw [run_setUp hb hk'] at h
    cases h
    have hpresented : Journal.Hears [] j (b.presented j) := Journal.hears_nil rfl
    have hverbose : b.policy.verbose = s.verbose := by
      rw [eq_of_ofSettings hb]
      rfl
    rw [← initialized_of_ofSettings hb, ← hverbose]
    cases b.policy.verbose with
    | false => exact hpresented
    | true => exact hpresented.trans (Journal.hears_keep hk')

/-- **An episode is of the move that was made.** -/
theorem Policy.perform_of_mem_episodes {p : Policy} {meddle : Nat → Journal → Journal}
    {moves : List (Move ω Mutator)} {a : Arena κ ω Mutator} {e : Episode κ ω Mutator}
    (he : e ∈ p.episodes meddle moves a) :
    (p.perform e.move).run e.before = (e.outcome, e.after) := by
  induction moves generalizing a with
  | nil => cases he
  | cons m moves ih =>
    rcases List.mem_cons.1 he with rfl | he
    · rfl
    · exact ih he

/-- **The event log mirrors what happened.** A barrier is set up while the log takes every event and
prints none, and moves are made that all come through. Then the log has got, in order and with
nothing in between, that the barrier was set up over the store, if its settings ask for events, and
what each move tells; and a drain answered how many marks it found. -/
theorem Barrier.log_mirrors_moves {s : Settings} {cards : κ} {b : Barrier κ} {j k : Journal}
    {heap : ω} {threads : Threads Mutator} {moves : List (Move ω Mutator)}
    {es : List (Episode κ ω Mutator)} (hj : j.Listens)
    (hsetUp : (setUp s cards).run j = (.ok b, k))
    (hes : es = b.policy.episodes (fun _ j => j) moves ⟨⟨b.ledger, heap, k⟩, threads⟩)
    (hok : ∀ e ∈ es, ∃ reply, e.outcome = .ok reply) :
    (b.policy.performAll moves ⟨⟨b.ledger, heap, k⟩, threads⟩).scene.journal.log.events
        = j.log.events ++ (if s.verbose then [.setUp (RememberedSet.summary cards)
            (s.elision.defers (RememberedSet.ordersMarks cards)) (RememberedSet.ordersMarks cards)
            s.cardBytes] else [])
          ++ es.flatMap (Episode.told b.policy) ∧
      ∀ e ∈ es, ∀ names, e.move = .drain names → e.outcome = .ok (.count (e.pending b.policy)) := by
  subst hes
  refine ⟨?_, ?_⟩
  · have hheard := (hears_setUp hsetUp).trans (Policy.hears_performAll moves hok)
    rw [(hheard hj).2, List.append_assoc]
  · rintro ⟨a, m, o, c⟩ he names rfl
    obtain ⟨reply, rfl⟩ := hok _ he
    exact congrArg Except.ok (Policy.drain_answers (Policy.perform_of_mem_episodes he))

namespace SmallHeap

/-- A journal that listens, and has heard nothing yet. -/
def listening : Journal := { log := { settings := { level := .trace, console := false } } }

/-- Two threads with nothing waiting for them. -/
def mutators : Threads Mutator := ⟨[("m", ⟨0, .empty⟩), ("n", ⟨0, .empty⟩)]⟩

/-- A barrier that lets marks wait, counts and tells. -/
def inForce : Barrier CardTable :=
  ⟨.ofSettings (settings true true) false, start.scene.ledger⟩

/-- Where the barrier has come into force. -/
def attended : Arena CardTable Objects Mutator :=
  ⟨⟨inForce.ledger, start.scene.heap,
    ((Barrier.setUp (settings true true) start.scene.ledger.cards).run listening).2⟩, mutators⟩

/-- One thread allocates twice and detaches, the other allocates and is drained. -/
def errands : List (Move Objects Mutator) :=
  [.allocate "m" 512, .allocate "m" 512, .detach "m", .allocate "n" 512, .drain none, .report]

theorem log_mirrors_errands :
    (inForce.policy.performAll errands attended).scene.journal.log.events
      = [.setUp "card table [0x0, 0x400) (2 cards of 512 bytes, StopTheWorld scanning)"
          true false 512,
        .flushed 512 544 "allocation", .flushed 512 544 "thread detach", .detached true,
        .flushed 512 544 "safepoint", .drained 2 1,
        .counted { forcedMarks := 3, deferred := 3, flushed := 3, drains := 1 },
        .counted { forcedMarks := 3, deferred := 3, flushed := 3, drains := 1 }] := by
  have hanswers : ((inForce.policy.episodes (fun _ j => j) errands attended).map
      fun e => e.outcome.toOption.isSome) = List.replicate 6 true := rfl
  have hok : ∀ e ∈ inForce.policy.episodes (fun _ j => j) errands attended,
      ∃ reply, e.outcome = .ok reply := by
    intro e he
    have hsome := List.eq_of_mem_replicate (hanswers ▸ List.mem_map_of_mem he)
    cases hout : e.outcome with
    | ok reply => exact ⟨reply, rfl⟩
    | error f =>
      rw [hout] at hsome
      cases hsome
  have hsetUp : (Barrier.setUp (settings true true) start.scene.ledger.cards).run listening
      = (.ok inForce, attended.scene.journal) := rfl
  have hsummary : RememberedSet.summary start.scene.ledger.cards
      = "card table [0x0, 0x400) (2 cards of 512 bytes, StopTheWorld scanning)" := by
    decide +kernel
  have hlog := (Barrier.log_mirrors_moves ⟨rfl, rfl, rfl⟩ hsetUp rfl hok).1
  rw [hsummary] at hlog
  exact hlog

end SmallHeap

end CardBarrier
