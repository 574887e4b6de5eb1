import CardBarrier.Proofs.MoveEffect
import CardBarrier.Proofs.Posting

/-!
# The order in which threads take their turns

Threads that each work through a program of their own share one barrier, and which of them
makes its next call when is left to a schedule. What they share they only add to: a call posts
cards and counts to the ledger, and neither which it posts nor how it ends depends on
what others have posted before. So the turns of two threads can be swapped
(`Crew.turn_comm`), up to what is said in the journal, and hence a schedule can be
permuted (`Crew.play_perm`).

A schedule that brings every thread to rest need not be a permutation of another that does,
since a turn of a thread at rest counts for nothing. But the one followed by the other is a
permutation of the other followed by the one, and that settles it.
-/

namespace CardBarrier

open Act

/-- **A call that a thread makes.** -/
inductive Call where
  /-- An allocation leaves the slow path with an object. -/
  | allocate (object : Address)
  /-- The thread detaches. -/
  | detach
  /-- A write of so many references from there on. -/
  | writeArray (start : Address) (count : UInt64)
  /-- An interval was written on the store path. -/
  | mark (r : Interval)
  /-- An interval is to be marked by force. -/
  | forceMark (r : Interval)

/-- The move that the call is, of a thread of that name. -/
def Call.move {ω τ : Type} (name : String) : Call → Move ω τ
  | allocate object => .allocate name object
  | detach => .detach name
  | writeArray start count => .writeArray start count
  | mark r => .mark r
  | forceMark r => .forceMark r

/-- **Threads that work through programs**: where they are, which calls each has still to make,
and the fault at which it stopped, if it did. -/
structure Crew (ω τ : Type) where
  /-- Where they are. -/
  arena : Arena CardTable ω τ
  /-- The calls still to be made, of each thread. A thread that stopped did so at the first
  of them. -/
  todo : String → List Call
  /-- The faults of threads that stopped. -/
  stopped : String → Option Fault := fun _ => none

namespace Crew

variable {ω τ : Type} [HeapView ω] [SlotHolder τ]

/-- **A turn of a thread**: it makes its next call, if it has one and has not stopped. -/
def turn (p : Policy) (name : String) (c : Crew ω τ) : Crew ω τ :=
  match c.stopped name, c.todo name with
  | none, call :: rest =>
    match (p.perform (call.move name)).run c.arena with
    | (.ok _, a) => { c with arena := a, todo := fun n => if n = name then rest else c.todo n }
    | (.error f, a) =>
      { c with arena := a, stopped := fun n => if n = name then some f else c.stopped n }
  | _, _ => c

/-- **The turns of a schedule**, one after the other. -/
def play (p : Policy) (schedule : List String) (c : Crew ω τ) : Crew ω τ :=
  schedule.foldl (fun c name => c.turn p name) c

omit [HeapView ω] [SlotHolder τ] in
/-- **Every thread is at rest**: it has stopped or has nothing more to do. -/
def AtRest (c : Crew ω τ) : Prop := ∀ name, c.stopped name ≠ none ∨ c.todo name = []

omit [HeapView ω] [SlotHolder τ] in
/-- What there is of a thread: its record, the calls still to be made and its fault. -/
def view (c : Crew ω τ) (name : String) : Option τ × List Call × Option Fault :=
  (c.arena.threads.find? name, c.todo name, c.stopped name)

end Crew

/-! ## One call

A call is seen through its thread, its objects and the ledger: where these are alike, so is
what it does. -/

namespace Arena

variable {ω τ : Type} {name other : String} {objects : ω}
  {R : Ledger CardTable → Ledger CardTable → Prop}

/-- **Two arenas are alike for a thread**: their ledgers are related, and the objects and the
record of the thread are the same. -/
def AlikeFor (name : String) (R : Ledger CardTable → Ledger CardTable → Prop) (objects : ω)
    (a b : Arena CardTable ω τ) : Prop :=
  R a.scene.ledger b.scene.ledger ∧ a.scene.heap = objects ∧ b.scene.heap = objects ∧
    a.threads.find? name = b.threads.find? name

theorem couples_onLedger {α : Type} {act : Act (Ledger CardTable) α} (h : Couples R act act) :
    Couples (AlikeFor name R objects : Arena CardTable ω τ → Arena CardTable ω τ → Prop)
      (onLedger act) (onLedger act) := by
  rintro a b ⟨hrel, ha, hb, hthread⟩
  obtain ⟨hout, hrel'⟩ := h _ _ hrel
  exact ⟨hout, hrel', ha, hb, hthread⟩

/-- **A step of a thread is coupled for that thread** if it is at its place of work. -/
theorem couples_atThread {α : Type} {act : Act (Site CardTable ω τ) α}
    (h : Couples (Site.Alike R objects) act act) :
    Couples (AlikeFor name R objects : Arena CardTable ω τ → Arena CardTable ω τ → Prop)
      (atThread name act) (atThread name act) := by
  rintro a b ⟨hrel, ha, hb, hthread⟩
  cases hfind : a.threads.find? name with
  | none =>
    rw [run_atThread_of_none act hfind, run_atThread_of_none act (hthread ▸ hfind)]
    exact ⟨rfl, hrel, ha, hb, hthread⟩
  | some t =>
    rw [run_atThread act hfind, run_atThread act (hthread ▸ hfind)]
    obtain ⟨hout, hrel', ha', hb', hthread'⟩ := h ⟨a.scene, t⟩ ⟨b.scene, t⟩ ⟨hrel, ha, hb, rfl⟩
    refine ⟨hout, hrel', ha', hb', ?_⟩
    rw [Threads.find?_insert_self, Threads.find?_insert_self, hthread']

/-- **A step of one thread leaves the record of another alone.** -/
theorem keeps_atThread {α : Type} {act : Act (Site CardTable ω τ) α} {o : Option τ}
    (h : other ≠ name) : Keeps (fun a => a.threads.find? other = o) (atThread name act) := by
  intro a ha
  cases hfind : a.threads.find? name with
  | none =>
    rw [run_atThread_of_none act hfind]
    exact ha
  | some t =>
    rw [run_atThread act hfind]
    exact (Threads.find?_insert_of_ne h).trans ha

end Arena

namespace Call

variable {ω τ : Type} [HeapView ω] [SlotHolder τ] {p : Policy} {name other : String}
  {objects : ω} {R : Ledger CardTable → Ledger CardTable → Prop}

/-- **A call is coupled with itself for its thread**, over ledgers that couple counting and
marking and agree on who is young. -/
theorem couples (call : Call) (name : String) (hbooks : Books.Coupling p p R)
    (hyoung : ∀ l m a, R l m → RememberedSet.isYoung l.cards a = RememberedSet.isYoung m.cards a)
    (hsteady : HeapView.Steady objects) :
    Couples (Arena.AlikeFor name R objects : Arena CardTable ω τ → Arena CardTable ω τ → Prop)
      (p.perform (call.move name)) (p.perform (call.move name)) := by
  have hwork := Site.coupling (τ := τ) rfl rfl hbooks hyoung hsteady
  cases call with
  | allocate object =>
    exact (Arena.couples_atThread (hwork.finishAllocation object)).bind fun _ => couples_pure _
  | detach => exact (Arena.couples_atThread hwork.detach).bind fun _ => couples_pure _
  | writeArray start count =>
    show Couples _ (Policy.silently _) (Policy.silently _)
    rw [Policy.recordArray_eq]
    have hspan : Couples (Arena.AlikeFor name R objects)
        (Act.ofExcept (p.layout.arraySpan start count) : Act (Arena CardTable ω τ) Interval)
        (Act.ofExcept (p.layout.arraySpan start count)) := fun _ _ h => ⟨rfl, h⟩
    exact (hspan.bind fun span => Arena.couples_onLedger (hbooks.writeSpan span)).bind
      fun _ => couples_pure _
  | mark r => exact (Arena.couples_onLedger (hbooks.policyMark r)).bind fun _ => couples_pure _
  | forceMark r =>
    exact (Arena.couples_onLedger (hbooks.policyForceMark r)).bind fun _ => couples_pure _

/-- **A call of one thread leaves the record of another alone.** -/
theorem keeps_other (call : Call) {o : Option τ} (h : other ≠ name) :
    Keeps (fun a : Arena CardTable ω τ => a.threads.find? other = o)
      (p.perform (call.move name)) := by
  have hpure : Keeps (fun a : Arena CardTable ω τ => a.threads.find? other = o)
      (pure Reply.done) := fun _ ha => ha
  cases call with
  | allocate object => exact (Arena.keeps_atThread h).bind fun _ => hpure
  | detach => exact (Arena.keeps_atThread h).bind fun _ => hpure
  | writeArray start count =>
    show Keeps _ (Policy.silently _)
    rw [Policy.recordArray_eq]
    exact (Keeps.bind (fun _ ha => ha) fun _ => fun _ ha => ha).bind fun _ => hpure
  | mark r | forceMark r => exact Keeps.bind (fun _ ha => ha) fun _ => hpure

end Call

/-! ## One turn -/

namespace Crew

variable {ω τ : Type} {p : Policy} {name other : String} {objects : ω} {e : Posting}
  {c d : Crew ω τ}

/-- **The one crew is as the other with a posting on top**, as far as it concerns one
thread. -/
structure Ahead (objects : ω) (e : Posting) (name : String) (c d : Crew ω τ) : Prop where
  ledger : d.arena.scene.ledger = c.arena.scene.ledger.post e
  heap : c.arena.scene.heap = objects
  heap' : d.arena.scene.heap = objects
  view : d.view name = c.view name

/-- **Two crews are the same**, whatever has been said in their journals. -/
structure Same (objects : ω) (c d : Crew ω τ) : Prop where
  ledger : d.arena.scene.ledger = c.arena.scene.ledger
  heap : c.arena.scene.heap = objects
  heap' : d.arena.scene.heap = objects
  view : ∀ name, d.view name = c.view name

theorem view_eq_iff : d.view name = c.view name ↔
    d.arena.threads.find? name = c.arena.threads.find? name ∧ d.todo name = c.todo name ∧
      d.stopped name = c.stopped name := by
  unfold view
  rw [Prod.mk.injEq, Prod.mk.injEq]

theorem Same.refl (h : c.arena.scene.heap = objects) : c.Same objects c :=
  ⟨rfl, h, h, fun _ => rfl⟩

theorem Same.trans {d' : Crew ω τ} (h : c.Same objects d) (h' : d.Same objects d') :
    c.Same objects d' :=
  ⟨h'.ledger.trans h.ledger, h.heap, h'.heap', fun name => (h'.view name).trans (h.view name)⟩

theorem Same.ahead (h : c.Same objects d) (name : String) : c.Ahead objects {} name d :=
  ⟨by rw [h.ledger, Ledger.post_empty], h.heap, h.heap', h.view name⟩

variable [HeapView ω] [SlotHolder τ]

/-- A turn of a thread that has nothing to do, or has stopped, does nothing. -/
theorem turn_eq_self (h : c.stopped name ≠ none ∨ c.todo name = []) : c.turn p name = c := by
  unfold turn
  rcases h with h | h
  · cases hstopped : c.stopped name with
    | none => exact absurd hstopped h
    | some f => rfl
  · rw [h]
    cases c.stopped name <;> rfl

/-- **A turn makes the next call**, and notes that it was made or where it stopped. -/
theorem turn_eq {call : Call} {rest : List Call} (hstopped : c.stopped name = none)
    (htodo : c.todo name = call :: rest) :
    c.turn p name =
      { arena := ((p.perform (call.move name)).run c.arena).2
        todo := fun n => if n = name ∧ ((p.perform (call.move name)).run c.arena).1.isOk then rest
          else c.todo n
        stopped := fun n => match ((p.perform (call.move name)).run c.arena).1 with
          | .error f => if n = name then some f else c.stopped n
          | .ok _ => c.stopped n } := by
  unfold turn
  rw [hstopped, htodo]
  dsimp only
  cases (p.perform (call.move name)).run c.arena with
  | mk o a =>
    cases o with
    | ok r => simp [Except.isOk, Except.toBool]
    | error f => simp [Except.isOk, Except.toBool]

/-- **A turn of one thread does not concern another.** -/
theorem view_turn_of_ne (h : other ≠ name) : (c.turn p name).view other = c.view other := by
  cases hstopped : c.stopped name with
  | some f => rw [turn_eq_self (.inl (hstopped ▸ Option.some_ne_none f))]
  | none =>
    cases htodo : c.todo name with
    | nil => rw [turn_eq_self (.inr htodo)]
    | cons call rest =>
      rw [turn_eq hstopped htodo]
      unfold view
      have hthread := call.keeps_other (p := p) h c.arena rfl
      rw [hthread]
      simp only [h, false_and, if_false]
      cases ((p.perform (call.move name)).run c.arena).1 <;> rfl

/-- **A turn only adds to the ledger**, and leaves the objects as they are. -/
theorem exists_post_turn (p : Policy) (name : String) (hsteady : HeapView.Steady objects)
    (hc : c.arena.scene.heap = objects) :
    ∃ e, (c.turn p name).arena.scene.ledger = c.arena.scene.ledger.post e ∧
      (c.turn p name).arena.scene.heap = objects := by
  cases hstopped : c.stopped name with
  | some f =>
    rw [turn_eq_self (.inl (hstopped ▸ Option.some_ne_none f))]
    exact ⟨{}, (Ledger.post_empty _).symm, hc⟩
  | none =>
    cases htodo : c.todo name with
    | nil =>
      rw [turn_eq_self (.inr htodo)]
      exact ⟨{}, (Ledger.post_empty _).symm, hc⟩
    | cons call rest =>
      rw [turn_eq hstopped htodo]
      have hcall := call.couples (τ := τ) name
        (Books.coupling_grown p c.arena.scene.ledger) (fun l m a hlm => by rw [hlm.1]) hsteady
      obtain ⟨-, ⟨-, e, he⟩, hheap, -, -⟩ := hcall c.arena c.arena
        ⟨⟨rfl, {}, (Ledger.post_empty _).symm⟩, hc, hc, rfl⟩
      exact ⟨e, he, hheap⟩

/-- **A thread takes its turn in the same way whatever others have posted.** -/
theorem Ahead.turn (hsteady : HeapView.Steady objects) (h : c.Ahead objects e name d) :
    (c.turn p name).Ahead objects e name (d.turn p name) := by
  obtain ⟨hthread, htodo', hstopped'⟩ := view_eq_iff.1 h.view
  cases hstopped : c.stopped name with
  | some f =>
    have hne : some f ≠ none := Option.some_ne_none f
    rw [turn_eq_self (.inl (hstopped ▸ hne)),
      turn_eq_self (.inl (hstopped'.trans hstopped ▸ hne))]
    exact h
  | none =>
    cases htodo : c.todo name with
    | nil =>
      rw [turn_eq_self (.inr htodo), turn_eq_self (.inr (htodo'.trans htodo))]
      exact h
    | cons call rest =>
      rw [turn_eq hstopped htodo, turn_eq (hstopped'.trans hstopped) (htodo'.trans htodo)]
      have hcall := call.couples (τ := τ) name (Books.coupling_post p e)
        (fun l m a hlm => by rw [hlm]; rfl) hsteady
      obtain ⟨hout, hledger, hheap, hheap', hthread'⟩ := hcall c.arena d.arena
        ⟨h.ledger, h.heap, h.heap', hthread.symm⟩
      refine ⟨hledger, hheap, hheap', view_eq_iff.2 ⟨hthread'.symm, ?_, ?_⟩⟩
      · simp only [← hout, htodo']
      · simp only [← hout, hstopped']

/-- **The turns of two threads can be swapped.** -/
theorem turn_comm (hsteady : HeapView.Steady objects) (hc : c.arena.scene.heap = objects)
    (h : name ≠ other) :
    ((c.turn p name).turn p other).Same objects ((c.turn p other).turn p name) := by
  obtain ⟨e, he, hheap⟩ := exists_post_turn p name hsteady hc
  obtain ⟨f, hf, hheap'⟩ := exists_post_turn p other hsteady hc
  -- each of the two takes its turn as it would have without the turn of the other
  have hother : (c.turn p other).Ahead objects e other ((c.turn p name).turn p other) :=
    Ahead.turn hsteady ⟨he, hc, hheap, view_turn_of_ne h.symm⟩
  have hname : (c.turn p name).Ahead objects f name ((c.turn p other).turn p name) :=
    Ahead.turn hsteady ⟨hf, hc, hheap', view_turn_of_ne h⟩
  refine ⟨?_, hother.heap', hname.heap', fun n => ?_⟩
  · rw [hother.ledger, hname.ledger, he, hf, Ledger.post_comm]
  · by_cases hn : n = name
    · rw [hn, hname.view, view_turn_of_ne h]
    · by_cases ho : n = other
      · rw [ho, hother.view, view_turn_of_ne h.symm]
      · rw [view_turn_of_ne hn, view_turn_of_ne ho, view_turn_of_ne ho, view_turn_of_ne hn]

/-- Crews that are the same take their turns in the same way. -/
theorem Same.turn (hsteady : HeapView.Steady objects) (h : c.Same objects d) :
    (c.turn p name).Same objects (d.turn p name) := by
  have hname : (c.turn p name).Ahead objects {} name (d.turn p name) :=
    (h.ahead name).turn hsteady
  refine ⟨?_, hname.heap, hname.heap', fun n => ?_⟩
  · rw [hname.ledger, Ledger.post_empty]
  · by_cases hn : n = name
    · rw [hn, hname.view]
    · rw [view_turn_of_ne hn, view_turn_of_ne hn, h.view]

/-! ## Whole schedules -/

theorem Same.play (hsteady : HeapView.Steady objects) (schedule : List String)
    (h : c.Same objects d) : (c.play p schedule).Same objects (d.play p schedule) := by
  induction schedule generalizing c d with
  | nil => exact h
  | cons name rest ih => exact ih (h.turn hsteady)

/-- **A schedule may be permuted.** -/
theorem play_perm (hsteady : HeapView.Steady objects) {s s' : List String} (hperm : s.Perm s')
    (hc : c.arena.scene.heap = objects) : (c.play p s).Same objects (c.play p s') := by
  induction hperm generalizing c with
  | nil => exact .refl hc
  | cons name _ ih =>
    obtain ⟨e, -, hheap⟩ := exists_post_turn p name hsteady hc
    exact ih hheap
  | swap name other rest =>
    by_cases h : other = name
    · rw [h]
      exact Same.play hsteady _ (.refl hc)
    · exact Same.play hsteady rest (turn_comm hsteady hc h)
  | trans _ _ ih ih' => exact (ih hc).trans (ih' hc)

theorem view_play_of_not_mem {schedule : List String} (h : other ∉ schedule) :
    (c.play p schedule).view other = c.view other := by
  induction schedule generalizing c with
  | nil => rfl
  | cons name rest ih =>
    rw [List.mem_cons, not_or] at h
    exact (ih h.2).trans (view_turn_of_ne h.1)

/-- **A crew at rest stays as it is.** -/
theorem AtRest.play_eq (h : c.AtRest) (schedule : List String) : c.play p schedule = c := by
  induction schedule with
  | nil => rfl
  | cons name rest ih =>
    show (c.turn p name).play p rest = c
    rw [turn_eq_self (h name)]
    exact ih

theorem play_append (s s' : List String) : c.play p (s ++ s') = (c.play p s).play p s' :=
  List.foldl_append

/-- **The order of turns makes no difference.** Any two schedules that let all threads come to
the end of their programs, or to the fault at which they stop, lead to the same cards, the same
counters, the same records of all threads, and the same end for each: with the same calls left to
be made, and the same fault if it stopped. -/
theorem play_eq_of_atRest (hsteady : HeapView.Steady c.arena.scene.heap) {s s' : List String}
    (hs : (c.play p s).AtRest) (hs' : (c.play p s').AtRest) :
    (c.play p s).arena.scene.ledger = (c.play p s').arena.scene.ledger ∧
      (∀ name, (c.play p s).arena.threads.find? name = (c.play p s').arena.threads.find? name) ∧
      (c.play p s).todo = (c.play p s').todo ∧ (c.play p s).stopped = (c.play p s').stopped := by
  have hperm : (c.play p (s' ++ s)).Same _ (c.play p (s ++ s')) :=
    play_perm hsteady List.perm_append_comm rfl
  rw [play_append, play_append, hs.play_eq, hs'.play_eq] at hperm
  have hview := fun name => view_eq_iff.1 (hperm.view name)
  refine ⟨hperm.ledger, fun name => (hview name).1, ?_, ?_⟩
  · funext name
    exact (hview name).2.1
  · funext name
    exact (hview name).2.2

end Crew

namespace SmallHeap

/-- Two threads, one of which allocates the object and the other writes and then stops, since
its allocation came out with nothing. -/
def crew : Crew Objects Mutator where
  arena := ⟨start.scene, ⟨[("a", ⟨0, .empty⟩), ("b", ⟨1, .empty⟩)]⟩⟩
  todo name :=
    if name = "a" then [.allocate 512, .detach]
    else if name = "b" then [.writeArray 0 1, .allocate 0] else []

theorem atRest_play {s : List String} (ha : (crew.play (policy true) s).todo "a" = [])
    (hb : (crew.play (policy true) s).stopped "b" = some .nullObject)
    (h : ∀ name ∈ s, name = "a" ∨ name = "b") : (crew.play (policy true) s).AtRest := by
  intro name
  by_cases hname : name = "a"
  · exact .inr (hname ▸ ha)
  by_cases hname' : name = "b"
  · exact .inl (by rw [hname', hb]; exact Option.some_ne_none _)
  · have hview := Crew.view_play_of_not_mem (p := policy true) (c := crew) fun hmem =>
      (h name hmem).elim hname hname'
    rw [(Crew.view_eq_iff.1 hview).2.1]
    exact .inr ((if_neg hname).trans (if_neg hname'))

/-- **Whichever of the two goes first**, the ledger is the same in the end, and the second
thread stops at the same fault. -/
theorem ledger_of_crew :
    (crew.play (policy true) ["a", "a", "b", "b"]).arena.scene.ledger =
        (crew.play (policy true) ["b", "a", "b", "a"]).arena.scene.ledger ∧
      (crew.play (policy true) ["b", "a", "b", "a"]).stopped "b" = some .nullObject := by
  have hsame := Crew.play_eq_of_atRest (p := policy true) (c := crew) (Objects.steady _)
    (atRest_play (s := ["a", "a", "b", "b"]) rfl rfl (by decide))
    (atRest_play (s := ["b", "a", "b", "a"]) rfl rfl (by decide))
  exact ⟨hsame.1, rfl⟩

end SmallHeap

end CardBarrier
