import CardBarrier.Proofs.MoveEffect
import CardBarrier.Proofs.Recording
import Mathlib.Data.List.Forall2

/-!
# Deferred marks are delivered once, in order and in time

Along a course a thread defers marks, and flushes of the thread ask for them to be made. Each
deferral and each flush has a number, that of the deed in which it happened, and the two lists
are the same marks in the same order, but for the last, which may still wait
(`Policy.Deliveries`). A mark is never asked for by the deed that deferred it, nor put off beyond
the next deed that flushes its thread (`Deed.Delivered`). The invariant that carries this is that
no deed has flushed the thread since what waits was deferred.

Nothing else is marked by force but what somebody asked for, and nothing is marked on the store
path but what was written (`Policy.OnRecord`).
-/

namespace CardBarrier

namespace Deed

variable {κ ω α : Type}

/-- **What deeds did**, with the number of the deed that did it. -/
def timed (f : Deed κ ω → List α) (deeds : List (Deed κ ω)) : List (Nat × α) :=
  deeds.zipIdx.flatMap fun entry => (f entry.1).map (entry.2, ·)

theorem timed_snoc (f : Deed κ ω → List α) (deeds : List (Deed κ ω)) (d : Deed κ ω) :
    timed f (deeds ++ [d]) = timed f deeds ++ (f d).map (deeds.length, ·) := by
  rw [timed, List.zipIdx_append, List.flatMap_append, Nat.zero_add, List.zipIdx_singleton,
    List.flatMap_singleton]
  rfl

theorem lt_length_of_mem_timed {f : Deed κ ω → List α} {deeds : List (Deed κ ω)}
    {event : Nat × α} (h : event ∈ timed f deeds) : event.1 < deeds.length := by
  obtain ⟨⟨d, i⟩, hentry, hevent⟩ := List.mem_flatMap.1 h
  obtain ⟨x, -, rfl⟩ := List.mem_map.1 hevent
  exact List.snd_lt_of_mem_zipIdx hentry

/-- **A deferred mark was delivered**: a later deed asked for it, and none in between that
flushes the thread. -/
structure Delivered (name : String) (deeds : List (Deed κ ω))
    (deferral flush : Nat × Interval) : Prop where
  /-- The mark that was asked for is the one that was deferred. -/
  region : flush.2 = deferral.2
  /-- It was asked for by a later deed. -/
  later : deferral.1 < flush.1
  /-- That deed has been done. -/
  done : flush.1 < deeds.length
  /-- No deed that flushes the thread came in between. -/
  next {k : Nat} {d : Deed κ ω} (hd : deeds[k]? = some d) (hk : deferral.1 < k)
    (hflushes : d.Flushes name) : flush.1 ≤ k

/-- **A deferred mark waits**: no deed has flushed the thread since. -/
def Waits (name : String) (deeds : List (Deed κ ω)) (deferral : Nat × Interval) : Prop :=
  ∀ k d, deeds[k]? = some d → deferral.1 < k → ¬d.Flushes name

variable {name : String} {deeds : List (Deed κ ω)} {d : Deed κ ω}
  {deferral flush : Nat × Interval}

/-- What was delivered stays so. -/
theorem Delivered.snoc (h : Delivered name deeds deferral flush) (d : Deed κ ω) :
    Delivered name (deeds ++ [d]) deferral flush := by
  refine ⟨h.region, h.later, ?_, fun {k e} he hk hflushes => ?_⟩
  · rw [List.length_append]
    exact Nat.lt_add_right 1 h.done
  · by_cases hold : k < deeds.length
    · rw [List.getElem?_append_left hold] at he
      exact h.next he hk hflushes
    · exact Nat.le_trans (Nat.le_of_lt h.done) (Nat.le_of_not_lt hold)

/-- **What waits is delivered** by a deed that flushes the thread. -/
theorem Waits.delivered (h : Waits name deeds deferral) (hlt : deferral.1 < deeds.length)
    (d : Deed κ ω) : Delivered name (deeds ++ [d]) deferral (deeds.length, deferral.2) := by
  refine ⟨rfl, hlt, ?_, fun {k e} he hk hflushes => ?_⟩
  · rw [List.length_append]
    exact Nat.lt_succ_self _
  · by_cases hold : k < deeds.length
    · rw [List.getElem?_append_left hold] at he
      exact absurd hflushes (h k e he hk)
    · exact Nat.le_of_not_lt hold

/-- **What waits goes on waiting** as long as no deed flushes the thread. -/
theorem Waits.snoc (h : Waits name deeds deferral) (hd : ¬d.Flushes name) :
    Waits name (deeds ++ [d]) deferral := by
  intro k e he hk
  by_cases hold : k < deeds.length
  · rw [List.getElem?_append_left hold] at he
    exact h k e he hk
  · rw [List.getElem?_append_right (Nat.le_of_not_lt hold)] at he
    rw [List.eq_of_mem_singleton (List.mem_of_getElem? he)]
    exact hd

/-- What a deed has just deferred waits. -/
theorem waits_new (r : Interval) : Waits name (deeds ++ [d]) (deeds.length, r) := by
  intro k e he hk
  have hlt := (List.getElem?_eq_some_iff.1 he).1
  rw [List.length_append] at hlt
  exact absurd hk (Nat.not_lt.2 (Nat.le_of_lt_succ hlt))

end Deed

section Deliveries

variable {ι ω : Type} [RememberedSet ι] [HeapView ω]

/-- **The marks that flushes of a thread asked for** in deeds. -/
def Policy.flushes (p : Policy) (name : String) (deeds : List (Deed (Recorder ι) ω)) :
    List (Nat × Interval) :=
  Deed.timed (Deed.flushes p name) deeds

/-- **The marks that a thread deferred** in deeds: the extents of the objects that it allocated
and that were neither arrays without references nor young. -/
def Policy.deferrals (p : Policy) (name : String) (deeds : List (Deed (Recorder ι) ω)) :
    List (Nat × Interval) :=
  Deed.timed (fun d => (d.owed? p name).toList) deeds

/-- **What became of the marks that a thread deferred**: some were delivered, one by one, and
the others wait in the slot. -/
structure Policy.Deliveries (p : Policy) (name : String) (deeds : List (Deed (Recorder ι) ω))
    (b : Arena (Recorder ι) ω Mutator) (delivered waiting : List (Nat × Interval)) : Prop where
  /-- What was delivered was deferred before what waits. -/
  deferrals : p.deferrals name deeds = delivered ++ waiting
  /-- Every flush delivered one mark, and in the order in which they were deferred. -/
  flushes : List.Forall₂ (Deed.Delivered name deeds) delivered (p.flushes name deeds)
  /-- What waits is in the slot. -/
  pending : waiting.map Prod.snd = (b.pending name).toList
  /-- And the thread has not been flushed since. -/
  waits : ∀ deferral ∈ waiting, Deed.Waits name deeds deferral

variable {p : Policy} {name : String} {deeds : List (Deed (Recorder ι) ω)}
  {b : Arena (Recorder ι) ω Mutator} {delivered waiting : List (Nat × Interval)}

/-- **The marks that were asked for, and then the one that is pending**, are the marks that were
deferred, in the same order. -/
theorem Policy.Deliveries.in_order (h : p.Deliveries name deeds b delivered waiting) :
    (p.flushes name deeds).map Prod.snd ++ (b.pending name).toList
      = (p.deferrals name deeds).map Prod.snd := by
  have hregions : List.Forall₂ (· = ·) (delivered.map Prod.snd)
      ((p.flushes name deeds).map Prod.snd) := by
    rw [List.forall₂_map_left_iff, List.forall₂_map_right_iff]
    exact h.flushes.imp fun _ _ hdelivered => hdelivered.region.symm
  rw [List.forall₂_eq_eq_eq] at hregions
  rw [h.deferrals, List.map_append, hregions, h.pending]

/-- Nothing is delivered and nothing waits before anything is done. -/
theorem Policy.Deliveries.start (h : b.pending name = none) :
    p.Deliveries name [] b [] [] :=
  ⟨rfl, .nil, by rw [h]; rfl, fun _ hmem => absurd hmem List.not_mem_nil⟩

/-- **A deed that flushes the thread delivers what waits**, and what it defers itself waits
then. -/
theorem Policy.Deliveries.of_flushes {d : Deed (Recorder ι) ω}
    (h : p.Deliveries name deeds d.before delivered waiting) (hkept : d.Kept p)
    (hd : d.Flushes name) : p.Deliveries name (deeds ++ [d]) d.after (delivered ++ waiting)
      ((d.owed? p name).toList.map (deeds.length, ·)) := by
  obtain ⟨hflushes, hpending⟩ := hkept.of_flushes hd
  have hnow : (d.flushes p name).map (deeds.length, ·)
      = waiting.map fun deferral => (deeds.length, deferral.2) := by
    rw [hflushes, ← h.pending, List.map_map]
    rfl
  refine ⟨?_, ?_, ?_, fun deferral hdeferral => ?_⟩
  · rw [Policy.deferrals, Deed.timed_snoc]
    exact congrArg (· ++ _) h.deferrals
  · rw [Policy.flushes, Deed.timed_snoc, hnow]
    refine List.rel_append (h.flushes.imp fun _ _ hdelivered => hdelivered.snoc d) ?_
    rw [List.forall₂_map_right_iff, List.forall₂_same]
    refine fun deferral hdeferral => (h.waits deferral hdeferral).delivered ?_ d
    refine Deed.lt_length_of_mem_timed (f := fun d => (d.owed? p name).toList) ?_
    show deferral ∈ p.deferrals name deeds
    rw [h.deferrals]
    exact List.mem_append_right _ hdeferral
  · rw [List.map_map, hpending]
    exact List.map_id _
  · obtain ⟨r, -, rfl⟩ := List.mem_map.1 hdeferral
    exact Deed.waits_new r

/-- **A deed that does not flush the thread** defers nothing for it, and leaves waiting what
waits. -/
theorem Policy.Deliveries.of_not_flushes {d : Deed (Recorder ι) ω}
    (h : p.Deliveries name deeds d.before delivered waiting) (hkept : d.Kept p)
    (hd : ¬d.Flushes name) : p.Deliveries name (deeds ++ [d]) d.after delivered waiting := by
  obtain ⟨hflushes, howed, hpending⟩ := hkept.of_not_flushes hd
  refine ⟨?_, ?_, hpending ▸ h.pending, fun deferral hdeferral =>
    (h.waits deferral hdeferral).snoc hd⟩
  · rw [Policy.deferrals, Deed.timed_snoc, howed]
    exact (List.append_nil _).trans h.deferrals
  · rw [Policy.flushes, Deed.timed_snoc, hflushes]
    show List.Forall₂ _ _ (p.flushes name deeds ++ [])
    rw [List.append_nil]
    exact h.flushes.imp fun _ _ hdelivered => hdelivered.snoc d

end Deliveries

/-! ## Along a course -/

section Course

variable {ι ω : Type} [RememberedSet ι] [HeapView ω]

/-- All marks that a deed asked for. -/
def Deed.calls (p : Policy) (d : Deed (Recorder ι) ω) : List MarkCall :=
  (d.flushCalls p).map Prod.snd ++ d.otherCalls p

/-- **What is on record** of deeds: every mark was asked for by a flush or otherwise. -/
structure Policy.OnRecord (p : Policy) (a : Arena (Recorder ι) ω Mutator)
    (deeds : List (Deed (Recorder ι) ω)) (b : Arena (Recorder ι) ω Mutator) : Prop where
  /-- The marks on record are those that deeds asked for. -/
  calls : b.scene.ledger.cards.calls
    = a.scene.ledger.cards.calls ++ deeds.flatMap (Deed.calls p)
  /-- Marks are made by force, but for flushes, exactly for those who ask for them. -/
  forced : (deeds.flatMap (Deed.otherCalls p)).filterMap MarkCall.forced?
    = deeds.filterMap fun d => d.move.forced?
  /-- Marks are made on the store path exactly for writes and those who ask for them. -/
  marked : ((deeds.flatMap (Deed.calls p)).filterMap MarkCall.marked?).map .ok
    = deeds.flatMap fun d => p.asked d.move

variable {p : Policy} {a b : Arena (Recorder ι) ω Mutator} {deeds : List (Deed (Recorder ι) ω)}

theorem Policy.OnRecord.snoc {d : Deed (Recorder ι) ω} (h : p.OnRecord a deeds d.before)
    (hkept : d.Kept p) : p.OnRecord a (deeds ++ [d]) d.after := by
  refine ⟨?_, ?_, ?_⟩
  · rw [hkept.calls, h.calls, List.flatMap_append, List.flatMap_singleton, List.append_assoc]
    rfl
  · rw [List.flatMap_append, List.filterMap_append, h.forced, List.flatMap_singleton,
      hkept.forced, List.filterMap_append]
    cases hd : d.move.forced? <;> simp [hd]
  · rw [List.flatMap_append, List.filterMap_append, List.map_append, h.marked,
      List.flatMap_singleton, List.flatMap_append, List.flatMap_singleton]
    exact congrArg (_ ++ ·) hkept.marked

variable [TableBacked ι]

/-- **Every deed of a course keeps to its account.** -/
theorem Policy.Course.kept {m : Move ω Mutator} {reply : Reply}
    {c : Arena (Recorder ι) ω Mutator} (hdefers : p.defers = true)
    (hreduces : p.reducesInitialMarks = true) (hbare : ∀ name, a.threads.find? name = none)
    (h : p.Course a deeds b) (hm : b.Accepts m) (hstep : (p.perform m).Yields b reply c) :
    Deed.Kept p ⟨b, m, c⟩ :=
  (outcome_of_yields hm.leavesSlots hstep).kept hdefers hreduces (h.ordered_threads hbare) hm

theorem Policy.Course.deliveries (hdefers : p.defers = true)
    (hreduces : p.reducesInitialMarks = true) (hbare : ∀ name, a.threads.find? name = none)
    (h : p.Course a deeds b) (name : String) :
    ∃ delivered waiting, p.Deliveries name deeds b delivered waiting := by
  induction h with
  | start => exact ⟨[], [], .start (by rw [Arena.pending, hbare]; rfl)⟩
  | @step deeds b c m reply h hm hstep ih =>
    obtain ⟨delivered, waiting, hdeliveries⟩ := ih
    have hkept := h.kept hdefers hreduces hbare hm hstep
    by_cases hd : Deed.Flushes name (Deed.mk b m c)
    · exact ⟨_, _, hdeliveries.of_flushes hkept hd⟩
    · exact ⟨_, _, hdeliveries.of_not_flushes hkept hd⟩

theorem Policy.Course.onRecord (hdefers : p.defers = true)
    (hreduces : p.reducesInitialMarks = true) (hbare : ∀ name, a.threads.find? name = none)
    (h : p.Course a deeds b) : p.OnRecord a deeds b := by
  induction h with
  | start => exact ⟨(List.append_nil _).symm, rfl, rfl⟩
  | step h hm hstep ih => exact ih.snoc (h.kept hdefers hreduces hbare hm hstep)

/-- **Each deferred mark is delivered once, in order and in time.** Along every course in which
marks may wait, the marks that flushes of a thread asked for, and then the one that still waits,
are the extents of the objects that the thread left to be marked, in the same order. Each of them
was asked for after the deed that deferred it, by the next deed that flushes the thread. All other
marks were asked for: by force by those who say so, and on the store path by writes. -/
theorem Policy.Course.delivers_once {s : Settings} {ordersMarks : Bool}
    (hp : p = ofSettings s ordersMarks) (hdefers : p.defers = true)
    (hbare : ∀ name, a.threads.find? name = none) (h : p.Course a deeds b) :
    (∀ name, (p.flushes name deeds).map Prod.snd ++ (b.pending name).toList
        = (p.deferrals name deeds).map Prod.snd ∧
      ∃ delivered waiting, p.Deliveries name deeds b delivered waiting) ∧
    p.OnRecord a deeds b := by
  have hreduces : p.reducesInitialMarks = true := by
    have helision : s.elision.defers ordersMarks = true := by
      rw [← hdefers, hp]
      rfl
    rw [hp]
    unfold Elision.defers at helision
    simp only [Bool.and_eq_true] at helision
    exact helision.1.1.2
  refine ⟨fun name => ?_, h.onRecord hdefers hreduces hbare⟩
  obtain ⟨delivered, waiting, hdeliveries⟩ := h.deliveries hdefers hreduces hbare name
  exact ⟨hdeliveries.in_order, delivered, waiting, hdeliveries⟩

end Course

namespace SmallHeap

/-- The small heap with its marks on record. -/
def recorder : Arena (Recorder CardTable) Objects Mutator :=
  ⟨⟨{ cards := { store := .ofGeometry geometry .stopTheWorld } },
    ⟨[{ address := 512, words := 4 }]⟩, {}⟩, {}⟩

/-- Where a move leads there. -/
def led (a : Arena (Recorder CardTable) Objects Mutator) (m : Move Objects Mutator) :
    Arena (Recorder CardTable) Objects Mutator := (((policy true).perform m).run a).2

/-- A thread has attached. -/
def joined : Arena (Recorder CardTable) Objects Mutator :=
  led recorder (.change (.attach "m" ⟨0, .empty⟩))

/-- It has allocated the object, and every thread was drained. -/
def drained : Arena (Recorder CardTable) Objects Mutator :=
  led (led joined (.allocate "m" 512)) (.drain none)

/-- The deeds so far, and an allocation more. -/
def deferringDeeds : List (Deed (Recorder CardTable) Objects) :=
  [⟨recorder, .change (.attach "m" ⟨0, .empty⟩), joined⟩,
    ⟨joined, .allocate "m" 512, led joined (.allocate "m" 512)⟩,
    ⟨led joined (.allocate "m" 512), .drain none, drained⟩,
    ⟨drained, .allocate "m" 512, led drained (.allocate "m" 512)⟩]

/-- The mark over the object is deferred twice, and delivered by the drain in between. -/
theorem delivers_drained :
    (policy true).OnRecord recorder deferringDeeds (led drained (.allocate "m" 512)) ∧
      (∃ delivered waiting, (policy true).Deliveries "m" deferringDeeds
        (led drained (.allocate "m" 512)) delivered waiting) ∧
      (policy true).deferrals "m" deferringDeeds
        = [(1, ⟨512, 544, by decide⟩), (3, ⟨512, 544, by decide⟩)] ∧
      (policy true).flushes "m" deferringDeeds = [(2, ⟨512, 544, by decide⟩)] ∧
      (led drained (.allocate "m" 512)).pending "m" = some ⟨512, 544, by decide⟩ := by
  have hjoined : ((policy true).perform (.change (.attach "m" ⟨0, .empty⟩))).Yields recorder .done
      joined := rfl
  have hallocated : ((policy true).perform (.allocate "m" 512)).Yields joined .done
      (led joined (.allocate "m" 512)) := rfl
  have hdrained : ((policy true).perform (.drain none)).Yields (led joined (.allocate "m" 512))
      (.count 1) drained := rfl
  have hagain : ((policy true).perform (.allocate "m" 512)).Yields drained .done
      (led drained (.allocate "m" 512)) := rfl
  have hnew : recorder.Accepts (.change (.attach "m" ⟨0, .empty⟩)) := ⟨rfl, rfl⟩
  have hcourse : (policy true).Course recorder deferringDeeds (led drained (.allocate "m" 512)) :=
    .step (m := .allocate "m" 512) (.step (m := .drain none) (.step (m := .allocate "m" 512)
      (.step .start hnew hjoined) trivial hallocated) trivial hdrained) trivial hagain
  have hpolicy : policy true
      = .ofSettings { compressed := true, elision := { defersInitialMark := true } } false := rfl
  obtain ⟨hdeliveries, honRecord⟩ := hcourse.delivers_once hpolicy rfl fun _ => rfl
  exact ⟨honRecord, (hdeliveries "m").2, rfl, rfl, rfl⟩

end SmallHeap

end CardBarrier
