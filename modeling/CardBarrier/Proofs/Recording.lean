import CardBarrier.Proofs.Course

/-!
# Who asked for a mark

A recorder lists the marks that it was asked for and does not say who asked. That is found out
here by making the flushes of a move once more, by themselves and thread by thread
(`Policy.flushesOf`): what is on record after the flush of a thread and was not before it was asked
for by that flush, and what is left when all of them are made was asked for by somebody else
(`Deed.otherCalls`).

Under a policy that defers a slot is then a mailbox with one place (`Deed.Kept`). A move that
flushes a thread takes out what is in its slot and asks for it to be marked, and leaves there what
it defers itself, if it is an allocation. Every other move leaves the slot alone.
-/

namespace CardBarrier

open Act

/-! ## Flushes by themselves -/

section Flushes

variable {κ ι ω : Type}

/-- The marks that a recorder was asked for since an earlier scene. -/
def Scene.callsSince (s t : Scene (Recorder ι) ω) : List MarkCall :=
  t.ledger.cards.calls.drop s.ledger.cards.calls.length

/-- **Flushes of threads**, one after the other: what each of them asked for, under the name of
its thread, and where they lead. -/
def Policy.flushesOf [RememberedSet ι] [HeapView ω] (p : Policy) (point : FlushPoint) :
    List (String × Mutator) → Scene (Recorder ι) ω →
      List (String × MarkCall) × Scene (Recorder ι) ω
  | [], s => ([], s)
  | (name, t) :: threads, s =>
    let u := ((p.flush point).run (Site.mk s t)).2.scene
    let (calls, v) := p.flushesOf point threads u
    ((s.callsSince u).map (name, ·) ++ calls, v)

/-- At which point a move flushes threads, and which. -/
def Arena.flushing (a : Arena κ ω Mutator) : Move ω Mutator → FlushPoint × List String
  | .allocate name _ => (.allocation, [name])
  | .detach name => (.detach, [name])
  | .flush name point => (point, [name])
  | .drain names => (.safepoint, names.getD a.threads.names)
  | _ => (.safepoint, [])

/-- Threads under the names that they are found by. -/
def Threads.named {τ : Type} (ts : Threads τ) (names : List String) : List (String × τ) :=
  names.filterMap fun name => (ts.find? name).map (name, ·)

/-- **The interval that is still to be marked for a thread.** -/
def Arena.pending (a : Arena κ ω Mutator) (name : String) : Option Interval :=
  (a.threads.find? name).bind (·.slot.region?)

/-- **What an object leaves to be marked**: its extent, unless it is an array without references
or young. -/
def Scene.owed? [RememberedSet κ] [HeapView ω] (s : Scene κ ω) (object : Address) :
    Option Interval :=
  match (HeapView.isReferenceFree object).run s.heap with
  | (.ok false, heap) =>
    if RememberedSet.isYoung s.ledger.cards object then none
    else ((HeapView.extent object).run heap).1.toOption
  | _ => none

end Flushes

namespace MarkCall

/-- The interval that is to be marked by force, if the mark is of that kind. -/
def forced? : MarkCall → Option Interval
  | mark _ => none
  | forceMark r => some r

/-- The interval that is to be marked on the store path, if the mark is of that kind. -/
def marked? : MarkCall → Option Interval
  | mark r => some r
  | forceMark _ => none

end MarkCall

/-- The interval that is to be marked by force, if somebody asks for that. -/
def Move.forced? {ω τ : Type} : Move ω τ → Option Interval
  | .forceMark r => some r
  | _ => none

/-- **The intervals that a move asks to be marked on the store path**: one that was written, or
the spans of array writes. -/
def Policy.asked {ω τ : Type} (p : Policy) : Move ω τ → List (Except Fault Interval)
  | .mark r | .writeSpan r => [.ok r]
  | m => (m.arrayWrites.map p.spans).getD []

namespace Deed

variable {ι ω : Type} [RememberedSet ι] [HeapView ω]

/-- The flushes of a deed by themselves. -/
def flushed (p : Policy) (d : Deed (Recorder ι) ω) :
    List (String × MarkCall) × Scene (Recorder ι) ω :=
  p.flushesOf (d.before.flushing d.move).1 (d.before.threads.named (d.before.flushing d.move).2)
    d.before.scene

/-- **The marks that flushes asked for**, under the names of their threads. -/
def flushCalls (p : Policy) (d : Deed (Recorder ι) ω) : List (String × MarkCall) :=
  (d.flushed p).1

/-- **The marks that were asked for otherwise.** -/
def otherCalls (p : Policy) (d : Deed (Recorder ι) ω) : List MarkCall :=
  (d.flushed p).2.callsSince d.after.scene

/-- The intervals that flushes of a thread asked to be marked by force. -/
def flushes (p : Policy) (name : String) (d : Deed (Recorder ι) ω) : List Interval :=
  (d.flushCalls p).filterMap fun call => if call.1 = name then call.2.forced? else none

/-- **What an allocation of a thread leaves to be marked**, as it is found when the last mark of
the thread has gone. -/
def owed? (p : Policy) (name : String) (d : Deed (Recorder ι) ω) : Option Interval :=
  match d.move with
  | .allocate other object => if other = name then (d.flushed p).2.owed? object else none
  | _ => none

/-- The deed flushes the thread. -/
def Flushes {κ : Type} (name : String) (d : Deed κ ω) : Prop :=
  name ∈ (d.before.flushing d.move).2

/-- **What a deed does to slots and record.** -/
structure Kept (p : Policy) (d : Deed (Recorder ι) ω) : Prop where
  /-- Every mark on record was asked for by a flush or otherwise. -/
  calls : d.after.scene.ledger.cards.calls = d.before.scene.ledger.cards.calls
    ++ ((d.flushCalls p).map Prod.snd ++ d.otherCalls p)
  /-- A thread that is flushed is asked to be marked what waited for it, and what it leaves to be
  marked waits after that. -/
  of_flushes {name : String} (h : d.Flushes name) :
    d.flushes p name = (d.before.pending name).toList ∧ d.after.pending name = d.owed? p name
  /-- A thread that is not flushed goes on waiting. -/
  of_not_flushes {name : String} (h : ¬d.Flushes name) : d.flushes p name = [] ∧
    d.owed? p name = none ∧ d.after.pending name = d.before.pending name
  /-- Otherwise marks are made by force for those who ask for them. -/
  forced : (d.otherCalls p).filterMap MarkCall.forced? = d.move.forced?.toList
  /-- Marks are made on the store path as they were asked for. -/
  marked : (((d.flushCalls p).map Prod.snd ++ d.otherCalls p).filterMap MarkCall.marked?).map .ok
    = p.asked d.move

end Deed

/-! ## What flushes put on record -/

section Record

variable {ι ω : Type} [RememberedSet ι] [HeapView ω] {p : Policy}

/-- The marks that wait in the slots of threads, under their names. -/
def slotCalls (threads : List (String × Mutator)) : List (String × MarkCall) :=
  threads.flatMap fun entry => entry.2.slot.region?.toList.map fun r => (entry.1, .forceMark r)

theorem slotCalls_append (threads threads' : List (String × Mutator)) :
    slotCalls (threads ++ threads') = slotCalls threads ++ slotCalls threads' :=
  List.flatMap_append

omit [RememberedSet ι] [HeapView ω] in
theorem Scene.callsSince_eq {s t : Scene (Recorder ι) ω} {calls : List MarkCall}
    (h : t.ledger.cards.calls = s.ledger.cards.calls ++ calls) : s.callsSince t = calls := by
  rw [callsSince, h, List.drop_left]

/-- **A flush puts on record the mark that waited**, if one did. -/
theorem Flushed.calls_eq {s u : Site (Recorder ι) ω Mutator} {b : Bool} (h : Flushed p s b u) :
    u.scene.ledger.cards.calls = s.scene.ledger.cards.calls
      ++ s.thread.slot.region?.toList.map .forceMark := by
  cases h with
  | nothing hslot =>
    rw [hslot]
    exact (List.append_nil _).symm
  | mark hslot _ hmark hledger _ _ =>
    obtain ⟨store, -, rfl⟩ := Recorder.passOn_yields.1 hmark
    rw [hslot, hledger]
    rfl

omit [RememberedSet ι] [HeapView ω] in
theorem map_snd_slotCalls_singleton (name : String) (t : Mutator) :
    (slotCalls [(name, t)]).map Prod.snd = t.slot.region?.toList.map .forceMark := by
  rw [slotCalls, List.flatMap_singleton, List.map_map]
  rfl

theorem Policy.flushesOf_cons {point : FlushPoint} {name : String} {t : Mutator} {b : Bool}
    {threads : List (String × Mutator)} {s : Scene (Recorder ι) ω}
    {u : Site (Recorder ι) ω Mutator} (h : (p.flush point).Yields ⟨s, t⟩ b u) :
    p.flushesOf point ((name, t) :: threads) s = (slotCalls [(name, t)]
      ++ (p.flushesOf point threads u.scene).1, (p.flushesOf point threads u.scene).2) := by
  rw [flushesOf, h.run_eq]
  dsimp only
  rw [Scene.callsSince_eq (flushed_of_yields h).calls_eq, List.map_map, slotCalls,
    List.flatMap_singleton]
  rfl

/-- **One thread flushed** puts its mark on record. -/
theorem Policy.flushesOf_singleton {point : FlushPoint} (name : String) {t : Mutator} {b : Bool}
    {s : Scene (Recorder ι) ω} {u : Site (Recorder ι) ω Mutator}
    (h : (p.flush point).Yields ⟨s, t⟩ b u) :
    p.flushesOf point [(name, t)] s = (slotCalls [(name, t)], u.scene) := by
  rw [flushesOf_cons h, flushesOf, List.append_nil]

/-- **A round of flushes** puts the marks of its threads on record, in turn. -/
theorem Policy.Round.flushesOf_eq {ts : List Mutator} {bs : List Bool}
    {s v : Scene (Recorder ι) ω} (h : p.Round ts s bs v) {names : List String}
    (hlength : names.length = ts.length) :
    p.flushesOf .safepoint (names.zip ts) s = (slotCalls (names.zip ts), v) ∧
      v.ledger.cards.calls
        = s.ledger.cards.calls ++ (slotCalls (names.zip ts)).map Prod.snd := by
  induction h generalizing names with
  | nil =>
    rw [List.zip_nil_right]
    exact ⟨rfl, (List.append_nil _).symm⟩
  | @cons t ts s v b bs u hflush _ ih =>
    obtain ⟨name, names, rfl⟩ := List.exists_cons_of_length_eq_add_one hlength
    obtain ⟨hrest, hcalls⟩ := ih (Nat.succ.inj hlength)
    have hsplit : slotCalls ((name, t) :: names.zip ts)
        = slotCalls [(name, t)] ++ slotCalls (names.zip ts) :=
      slotCalls_append [(name, t)] (names.zip ts)
    rw [List.zip_cons_cons, flushesOf_cons hflush, hrest, hcalls,
      (flushed_of_yields hflush).calls_eq, hsplit, List.map_append, ← List.append_assoc]
    refine ⟨rfl, ?_⟩
    simp [slotCalls, Function.comp_def]

omit [HeapView ω] in
/-- **Marks that are asked for go on record**, one after the other. -/
theorem Recorder.calls_of_makeAll {calls : List MarkCall} {r s : Recorder ι}
    (h : (MarkCall.makeAll calls).Yields r () s) : s.calls = r.calls ++ calls := by
  induction calls generalizing r with
  | nil =>
    obtain rfl := MarkCall.makeAll_nil.1 h
    exact (List.append_nil _).symm
  | cons call calls ih =>
    obtain ⟨t, hcall, hcalls⟩ := MarkCall.makeAll_cons.1 h
    obtain ⟨store, -, rfl⟩ := make_yields.1 hcall
    rw [ih hcalls, List.append_assoc]
    rfl

end Record

/-! ## What waits for threads -/

section Slots

variable {κ ω : Type}

theorem Threads.named_cons {τ : Type} (ts : Threads τ) (name : String) (names : List String) :
    ts.named (name :: names)
      = (ts.find? name).toList.map (name, ·) ++ ts.named names := by
  rw [named, List.filterMap_cons]
  cases ts.find? name <;> rfl

theorem Threads.named_eq_zip {τ : Type} {ts : Threads τ} {names : List String} {us : List τ}
    (h : names.map ts.find? = us.map some) : ts.named names = names.zip us := by
  induction names generalizing us with
  | nil => rfl
  | cons name names ih =>
    cases us with
    | nil => cases h
    | cons u us =>
      obtain ⟨hname, hnames⟩ := List.cons.inj h
      rw [named_cons, hname, ih hnames]
      rfl

theorem Threads.named_singleton {τ : Type} {ts : Threads τ} {name : String} {t : τ}
    (h : ts.find? name = some t) : ts.named [name] = [(name, t)] := by
  rw [named_cons, h]
  rfl

theorem Arena.pending_eq {a : Arena κ ω Mutator} {name : String} {t : Mutator}
    (h : a.threads.find? name = some t) : a.pending name = t.slot.region? := by
  rw [pending, h]
  rfl

theorem Arena.pending_insert (s : Scene κ ω) (ts : Threads Mutator) (name other : String)
    (t : Mutator) : Arena.pending ⟨s, ts.insert other t⟩ name
      = if name = other then t.slot.region? else Arena.pending ⟨s, ts⟩ name := by
  unfold pending
  rw [Threads.find?_insert]
  split <;> rfl

theorem Arena.pending_congr {a c : Arena κ ω Mutator} (h : c.threads = a.threads) (name : String) :
    c.pending name = a.pending name := by
  rw [pending, pending, h]

/-- **Each thread has what is in its slot to be marked**, if it is named once. -/
theorem Arena.filterMap_slotCalls (a : Arena κ ω Mutator) {names : List String}
    (hnames : names.Nodup) (name : String) :
    ((slotCalls (a.threads.named names)).filterMap fun call =>
        if call.1 = name then call.2.forced? else none)
      = if name ∈ names then (a.pending name).toList else [] := by
  induction names with
  | nil => rfl
  | cons other names ih =>
    obtain ⟨hother, hnames⟩ := List.nodup_cons.1 hnames
    have hone : ((slotCalls ((a.threads.find? other).toList.map (other, ·))).filterMap fun call =>
        if call.1 = name then call.2.forced? else none)
          = if other = name then (a.pending other).toList else [] := by
      unfold slotCalls pending
      cases a.threads.find? other with
      | none => exact (ite_self _).symm
      | some t =>
        simp only [Option.toList_some, List.map_cons, List.map_nil, List.flatMap_singleton,
          Option.bind_some]
        cases t.slot.region? with
        | none => exact (ite_self _).symm
        | some r => by_cases heq : other = name <;> simp [heq, MarkCall.forced?]
    rw [Threads.named_cons, slotCalls_append, List.filterMap_append, hone, ih hnames]
    by_cases heq : other = name
    · subst heq
      simp [hother]
    · simp [heq, Ne.symm heq]

/-- Marks that wait are to be made by force. -/
theorem filterMap_marked?_slotCalls (threads : List (String × Mutator)) :
    ((slotCalls threads).map Prod.snd).filterMap MarkCall.marked? = [] := by
  refine List.filterMap_eq_nil_iff.2 fun call hcall => ?_
  obtain ⟨entry, hentry, rfl⟩ := List.mem_map.1 hcall
  obtain ⟨thread, -, hthread⟩ := List.mem_flatMap.1 hentry
  obtain ⟨r, -, rfl⟩ := List.mem_map.1 hthread
  rfl

variable [RememberedSet κ] [HeapView ω]

/-- **The verdict on a fresh object** says what it leaves to be marked. -/
theorem Scene.owed?_of_assess {s t : Site κ ω Mutator} {object : Address}
    {verdict : Tally.Kind ⊕ Interval} (h : (Workplace.assess object).Yields s verdict t) :
    s.scene.owed? object = verdict.getRight? := by
  unfold owed?
  cases Workplace.assessed_of_yields h with
  | referenceFree hfree =>
    rw [hfree.run_eq]
    rfl
  | young hfree hyoung =>
    rw [hfree.run_eq, hyoung]
    rfl
  | owing hfree hyoung hextent =>
    rw [hfree.run_eq, hyoung]
    dsimp only
    rw [hextent.run_eq]
    rfl

end Slots

/-! ## Every deed keeps to its account -/

namespace Deed

variable {ι ω : Type} [RememberedSet ι] [HeapView ω] {p : Policy}
  {a c : Arena (Recorder ι) ω Mutator} {m : Move ω Mutator} {point : FlushPoint}

/-- **A move that flushes no thread** puts on record what was asked for and leaves slots alone. -/
theorem kept_of_others (calls : List MarkCall) (hm : a.flushing m = (point, []))
    (hcalls : c.scene.ledger.cards.calls = a.scene.ledger.cards.calls ++ calls)
    (hpending : ∀ name, c.pending name = a.pending name)
    (hforced : calls.filterMap MarkCall.forced? = m.forced?.toList)
    (hmarked : (calls.filterMap MarkCall.marked?).map .ok = p.asked m) : Kept p ⟨a, m, c⟩ := by
  have hflushed : flushed p ⟨a, m, c⟩ = ([], a.scene) := by
    simp only [flushed, hm]
    rfl
  have hothers : otherCalls p ⟨a, m, c⟩ = calls := by
    rw [otherCalls, hflushed]
    exact Scene.callsSince_eq hcalls
  have hflushCalls : flushCalls p ⟨a, m, c⟩ = [] := by rw [flushCalls, hflushed]
  refine ⟨?_, fun h => ?_, fun {name} _ => ⟨?_, ?_, hpending name⟩, ?_, ?_⟩
  · rw [hflushCalls, hothers]
    exact hcalls
  · rw [Flushes, hm] at h
    exact absurd h List.not_mem_nil
  · rw [flushes, hflushCalls]
    rfl
  · unfold owed?
    cases m with
    | allocate other object => cases hm
    | _ => rfl
  · rw [hothers]
    exact hforced
  · rw [hflushCalls, hothers]
    exact hmarked

/-- **A move that flushes threads** puts on record what waited in their slots, and nothing
else. -/
theorem kept_of_flushed {names : List String} {s : Scene (Recorder ι) ω}
    (hm : a.flushing m = (point, names)) (hnames : names.Nodup)
    (hflushed : p.flushesOf point (a.threads.named names) a.scene
      = (slotCalls (a.threads.named names), s))
    (hbefore : s.ledger.cards.calls = a.scene.ledger.cards.calls
      ++ (slotCalls (a.threads.named names)).map Prod.snd)
    (hafter : c.scene.ledger.cards.calls = s.ledger.cards.calls)
    (hpending : ∀ name, c.pending name
      = if name ∈ names then owed? p name ⟨a, m, c⟩ else a.pending name)
    (howed : ∀ name ∉ names, owed? p name ⟨a, m, c⟩ = none)
    (hforced : m.forced? = none) (hmarked : p.asked m = []) : Kept p ⟨a, m, c⟩ := by
  have hflushed : flushed p ⟨a, m, c⟩ = (slotCalls (a.threads.named names), s) := by
    simp only [flushed, hm]
    exact hflushed
  have hothers : otherCalls p ⟨a, m, c⟩ = [] := by
    rw [otherCalls, hflushed]
    exact Scene.callsSince_eq (hafter.trans (List.append_nil _).symm)
  have hflushCalls : flushCalls p ⟨a, m, c⟩ = slotCalls (a.threads.named names) := by
    rw [flushCalls, hflushed]
  have hflushes : ∀ name, flushes p name ⟨a, m, c⟩
      = if name ∈ names then (a.pending name).toList else [] := fun name => by
    rw [flushes, hflushCalls]
    exact a.filterMap_slotCalls hnames name
  have hmem : ∀ name, Flushes name ⟨a, m, c⟩ ↔ name ∈ names := fun name => by rw [Flushes, hm]
  refine ⟨?_, fun {name} h => ?_, fun {name} h => ?_, ?_, ?_⟩
  · rw [hflushCalls, hothers, List.append_nil]
    exact hafter.trans hbefore
  · rw [hmem] at h
    rw [hflushes, if_pos h]
    exact ⟨rfl, (hpending name).trans (if_pos h)⟩
  · rw [hmem] at h
    rw [hflushes, if_neg h]
    exact ⟨rfl, howed name h, (hpending name).trans (if_neg h)⟩
  · rw [hothers, hforced]
    rfl
  · rw [hflushCalls, hothers, List.append_nil, filterMap_marked?_slotCalls, hmarked]
    rfl

end Deed

section Outcome

variable {ι ω : Type} [RememberedSet ι] [HeapView ω] {p : Policy}

omit [RememberedSet ι] [HeapView ω] in
/-- **A mark or a write asks for what it speaks of**, and flushes no thread. -/
theorem Policy.Orders.calls_eq {m : Move ω Mutator} {calls : List MarkCall}
    {kinds : List Tally.Kind} (h : p.Orders m calls kinds) :
    (∀ a : Arena (Recorder ι) ω Mutator, a.flushing m = (.safepoint, [])) ∧
      calls.filterMap MarkCall.forced? = m.forced?.toList ∧
      (calls.filterMap MarkCall.marked?).map .ok = p.asked m := by
  cases h with
  | mark r | forceMark r | writeSpan r => exact ⟨fun _ => rfl, rfl, rfl⟩
  | @writes _ ws rs hm hspans =>
    have hforced : (rs.map MarkCall.mark).filterMap MarkCall.forced? = [] :=
      List.filterMap_eq_nil_iff.2 fun call hcall => by
        obtain ⟨r, -, rfl⟩ := List.mem_map.1 hcall
        rfl
    have hmarked : (rs.map MarkCall.mark).filterMap MarkCall.marked? = rs := by
      rw [List.filterMap_map]
      exact List.filterMap_some
    rw [hforced, hmarked, ← hspans]
    cases m <;> cases hm <;> exact ⟨fun _ => rfl, rfl, rfl⟩

variable {a c : Arena (Recorder ι) ω Mutator} {m : Move ω Mutator} {point : FlushPoint}

/-- **What an allocation leaves to be marked waits** from then on, where marks wait. -/
theorem Concluded.region?_eq {κ : Type} [RememberedSet κ] {s t : Site κ ω Mutator}
    {verdict : Tally.Kind ⊕ Interval} (hdefers : p.defers = true)
    (hempty : s.thread.slot = .empty) (h : Concluded p s t verdict) :
    t.thread.slot.region? = verdict.getRight? ∧
      t.scene.ledger.cards = s.scene.ledger.cards := by
  cases h with
  | skipped hledger hthread _ =>
    rw [hthread, hempty, hledger]
    exact ⟨rfl, rfl⟩
  | deferred _ hledger hthread _ =>
    rw [hthread, hledger]
    exact ⟨rfl, rfl⟩
  | marked hnot _ _ _ _ =>
    rw [hdefers] at hnot
    cases hnot

/-- **An allocation flushes its thread** and leaves its own mark in the slot. -/
theorem Deed.kept_of_allocated {name : String} {object : Address} {t : Mutator} {b : Bool}
    {verdict : Tally.Kind ⊕ Interval} {s u v : Site (Recorder ι) ω Mutator}
    (hdefers : p.defers = true) (hfind : a.threads.find? name = some t)
    (hflush : (p.flush .allocation).Yields ⟨a.scene, t⟩ b s)
    (hassess : (Workplace.assess object).Yields s verdict u)
    (hconcluded : Concluded p u v verdict) :
    Kept p ⟨a, .allocate name object, ⟨v.scene, a.threads.insert name v.thread⟩⟩ := by
  have hflushed := Policy.flushed_of_yields hflush
  have hthreads := Threads.named_singleton hfind
  have hrun := Policy.flushesOf_singleton name hflush
  have hu := Workplace.untouched_assess hassess
  have hempty : u.thread.slot = .empty := by
    rw [hu.thread, hflushed.thread_eq]
    rfl
  obtain ⟨hslot, hcards⟩ := hconcluded.region?_eq hdefers hempty
  rw [hu.ledger] at hcards
  have howed : ∀ other,
      owed? p other ⟨a, .allocate name object, ⟨v.scene, a.threads.insert name v.thread⟩⟩
        = if name = other then verdict.getRight? else none := fun other => by
    simp only [owed?, flushed, Arena.flushing, hthreads, hrun, Scene.owed?_of_assess hassess]
  refine kept_of_flushed rfl (List.pairwise_singleton _ _) (hthreads ▸ hrun) ?_
    (congrArg Recorder.calls hcards) (fun other => ?_) (fun other hother => ?_) rfl rfl
  · rw [hthreads, hflushed.calls_eq, map_snd_slotCalls_singleton]
  · rw [Arena.pending_insert, howed, hslot]
    by_cases heq : other = name
    · rw [if_pos heq, if_pos heq.symm, if_pos (List.mem_singleton.2 heq)]
    · rw [if_neg heq, if_neg fun h => heq (List.mem_singleton.1 h)]
      rfl
  · rw [howed, if_neg fun heq => hother (List.mem_singleton.2 heq.symm)]

/-- **A thread that is flushed** has nothing in its slot afterwards. -/
theorem Deed.kept_of_flush {name : String} {t : Mutator} {b : Bool}
    {s u : Site (Recorder ι) ω Mutator}
    (hm : m = .detach name ∧ point = .detach ∨ m = .flush name point)
    (hfind : a.threads.find? name = some t) (hflush : (p.flush point).Yields ⟨a.scene, t⟩ b s)
    (hs : s.Untouched u) : Kept p ⟨a, m, ⟨u.scene, a.threads.insert name u.thread⟩⟩ := by
  have hflushed := Policy.flushed_of_yields hflush
  have hthreads := Threads.named_singleton hfind
  have hrun := Policy.flushesOf_singleton name hflush
  have hslot : u.thread.slot.region? = none := by
    rw [hs.thread, hflushed.thread_eq]
    rfl
  have hflushing : a.flushing m = (point, [name]) := by
    obtain ⟨rfl, rfl⟩ | rfl := hm <;> rfl
  have hrest : (∀ other, owed? p other ⟨a, m, ⟨u.scene, a.threads.insert name u.thread⟩⟩ = none) ∧
      m.forced? = none ∧ p.asked m = [] := by
    obtain ⟨rfl, -⟩ | rfl := hm <;> exact ⟨fun _ => rfl, rfl, rfl⟩
  refine kept_of_flushed hflushing (List.pairwise_singleton _ _) (hthreads ▸ hrun) ?_
    (congrArg (Recorder.calls ∘ Ledger.cards) hs.ledger) (fun other => ?_)
    (fun other _ => hrest.1 other) hrest.2.1 hrest.2.2
  · rw [hthreads, hflushed.calls_eq, map_snd_slotCalls_singleton]
  · rw [Arena.pending_insert, hrest.1, hslot]
    by_cases heq : other = name
    · rw [if_pos heq, if_pos (List.mem_singleton.2 heq)]
    · rw [if_neg heq, if_neg fun h => heq (List.mem_singleton.1 h)]
      rfl

/-- **Threads that are drained** have nothing in their slots afterwards. -/
theorem Deed.kept_of_drained {names : Option (List String)} {ts : List Mutator} {bs : List Bool}
    {s : Scene (Recorder ι) ω} (hnames : (names.getD a.threads.names).Nodup)
    (hfind : (names.getD a.threads.names).map a.threads.find? = ts.map some)
    (hround : p.Round ts a.scene bs s)
    (hcards : c.scene.ledger.cards = s.ledger.cards)
    (hthreads : c.threads
      = a.threads.insertAll ((names.getD a.threads.names).zip (ts.map Mutator.emptied))) :
    Kept p ⟨a, .drain names, c⟩ := by
  have hlength : (names.getD a.threads.names).length = ts.length := by
    simpa using congrArg List.length hfind
  obtain ⟨hrun, hcalls⟩ := hround.flushesOf_eq hlength
  rw [← Threads.named_eq_zip hfind] at hrun hcalls
  refine kept_of_flushed rfl hnames hrun hcalls (congrArg Recorder.calls hcards) (fun name => ?_)
    (fun _ _ => rfl) rfl rfl
  show (c.threads.find? name).bind _ = if _ then none else a.pending name
  rw [hthreads, Threads.find?_insertAll_zip _ hfind]
  split
  · cases a.threads.find? name <;> rfl
  · rfl

/-- **Whatever comes through keeps to its account**, if marks may wait. -/
theorem Policy.Outcome.kept [TableBacked ι] {reply : Reply} (hdefers : p.defers = true)
    (hreduces : p.reducesInitialMarks = true) (ha : a.threads.Ordered) (hm : a.Accepts m)
    (h : p.Outcome a m reply c) :
    Deed.Kept p ⟨a, m, c⟩ := by
  have hsame : a.scene.ledger.cards.calls = a.scene.ledger.cards.calls ++ [] :=
    (List.append_nil _).symm
  cases h with
  | ordered horders hmade =>
    obtain ⟨hflushing, hforced, hmarked⟩ := horders.calls_eq
    exact Deed.kept_of_others _ (hflushing a) (Recorder.calls_of_makeAll hmade) (fun _ => rfl)
      hforced hmarked
  | unreduced hnot _ =>
    rw [hreduces] at hnot
    cases hnot
  | allocated _ hfind hflush hassess hconcluded =>
    exact Deed.kept_of_allocated hdefers hfind hflush hassess hconcluded
  | flushed hmove hfind hflush hs => exact Deed.kept_of_flush hmove hfind hflush hs
  | drained hfind hround hledger hthreads _ =>
    exact Deed.kept_of_drained (hm.nodup_drain ha) hfind hround (by rw [hledger]) hthreads
  | reported hledger _ hthreads =>
    refine Deed.kept_of_others [] rfl ?_ (Arena.pending_congr hthreads) rfl rfl
    rw [hledger]
    exact hsame
  | collected hcollects _ =>
    cases m with
    | moveYoung _ | clear _ | reset => exact Deed.kept_of_others [] rfl hsame (fun _ => rfl) rfl rfl
    | _ => cases hcollects
  | @attached name t _ _ hledger _ hthreads =>
    obtain ⟨hnew, hslot⟩ := hm
    refine Deed.kept_of_others [] rfl ?_ (fun other => ?_) rfl rfl
    · rw [hledger]
      exact hsame
    · rw [Arena.pending_congr (a := ⟨a.scene, a.threads.insert name t⟩) hthreads,
        Arena.pending_insert, hslot]
      split
      · rename_i heq
        rw [heq, Arena.pending, hnew]
        rfl
      · rfl
  | @discarded name t _ hfind hslot =>
    refine Deed.kept_of_others [] rfl hsame (fun other => ?_) rfl rfl
    show ((a.threads.erase name).find? other).bind _ = _
    rw [Threads.find?_erase]
    split
    · rename_i heq
      rw [heq, Arena.pending_eq hfind, hslot]
      rfl
    · rfl
  | rearranged change => exact Deed.kept_of_others [] rfl hsame (fun _ => rfl) rfl rfl

end Outcome

end CardBarrier
