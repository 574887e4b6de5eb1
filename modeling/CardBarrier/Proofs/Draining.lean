import CardBarrier.Proofs.Accounting
import CardBarrier.Proofs.Counting
import CardBarrier.Proofs.Safekeeping

/-!
# Draining threads, to the end and to where it stops

A drain flushes thread after thread and then says what it did. It ends in one of three ways
(`Policy.drain_ends`). It comes through, and then nothing waits any more in any of the slots, the
cards that were waited for are dirty, and a second drain finds nothing (`Policy.Drains`). A flush
stops it, and then it has drained the threads before that one and has left all others as they were
(`Policy.Stops`). Or all flushes come through and the counters cannot be told.

That a drain which could say what it did can do so again is a matter of the event log: what it takes
depends on how it is set up and on a sum of two counters, neither of which a drain changes
(`Journal.Alike.tells`).
-/

namespace CardBarrier

open Act

/-! ## What an event log takes -/

/-- The event log takes the event. -/
def Journal.Tells (j : Journal) (e : Event) : Prop := ∃ k, j.keep e = .ok k

/-- **The event logs are set up alike.** -/
structure Journal.Alike (j k : Journal) : Prop where
  /-- They have the same settings. -/
  settings : k.log.settings = j.log.settings
  /-- They are both switched on or both off. -/
  enabled : k.log.enabled = j.log.enabled

namespace Journal

variable {j k : Journal} {e : Event} {t t' : Tally}

theorem Alike.trans {l : Journal} (h : j.Alike k) (h' : k.Alike l) : j.Alike l :=
  ⟨h'.settings.trans h.settings, h'.enabled.trans h.enabled⟩

/-- Taking an event does not change how a log is set up. -/
theorem alike_of_keep (h : j.keep e = .ok k) : j.Alike k := by
  obtain ⟨l, hadd, rfl⟩ := keep_eq_ok_iff.1 h
  obtain ⟨lines, -, rfl⟩ := EventLog.add_eq_ok_iff.1 hadd
  exact ⟨rfl, rfl⟩

/-- **A log takes an event** that can be told in a sentence, and any other that it need not print
as one. -/
theorem tells_iff : j.Tells e ↔ (j.log.keeps e = true → j.log.settings.console = true →
    j.log.settings.json = false → e.Speakable) :=
  exists_keep_iff.trans (imp_congr_right fun _ => EventLog.exists_linesOf_iff)

/-- **A log that takes a report takes another**, if the counters that are added up are the same. -/
theorem Alike.tells (h : j.Alike k) (hskipped : t'.skipped = t.skipped)
    (ht : j.Tells (.counted t)) : k.Tells (.counted t') := by
  have hkeeps : k.log.keeps (.counted t') = j.log.keeps (.counted t) := by
    unfold EventLog.keeps
    rw [h.enabled, h.settings]
    rfl
  have hspeakable : (Event.counted t).Speakable → (Event.counted t').Speakable := by
    unfold Event.Speakable Event.human
    dsimp only
    rw [hskipped]
    cases t.skipped with
    | error f => exact id
    | ok skipped => exact fun _ => ⟨_, rfl⟩
  rw [tells_iff, hkeeps, h.settings]
  exact fun hk hconsole hjson => hspeakable (tells_iff.1 ht hk hconsole hjson)

end Journal

/-! ## Saying what a drain did -/

section Announce

variable {κ ω τ : Type} {p : Policy} {k n : Nat} {s t : Site κ ω (List τ)} {x : Unit}

/-- **What a drain says** changes the journal alone, and if the counters were told, the event log
was as it is set up after. -/
theorem Policy.announceDrain_yields (h : (p.announceDrain k n).Yields s x t) :
    ∃ j, t = s.withJournal j ∧
      (p.verbose = true → ∃ i : Journal, i.Alike j ∧ i.Tells (.counted s.scene.ledger.tally)) := by
  unfold announceDrain at h
  split at h
  · obtain ⟨_, _, hdrained, hreport⟩ := yields_bind.1 h
    obtain ⟨i, -, rfl⟩ := Site.keep_yields.1 hdrained
    obtain ⟨j, hj, rfl⟩ := Site.report_yields.1 hreport
    exact ⟨j, rfl, fun _ => ⟨i, Journal.alike_of_keep hj, j, hj⟩⟩
  · rename_i hverbose
    obtain ⟨-, rfl⟩ := yields_pure.1 h
    exact ⟨t.scene.journal, rfl, fun h => absurd h hverbose⟩

/-- It can be said if it need not be, or if the log takes a report of the counters. -/
theorem Policy.succeeds_announceDrain
    (h : p.verbose = true → s.scene.journal.Tells (.counted s.scene.ledger.tally)) :
    (p.announceDrain k n).Succeeds s := by
  unfold announceDrain
  split
  · rename_i hverbose
    obtain ⟨i, hi⟩ : s.scene.journal.Tells (.drained (UInt64.ofNat k) (UInt64.ofNat n)) :=
      s.scene.journal.exists_keep ⟨_, rfl⟩
    have hdrained : (Site.onScene (Scene.keep _)).Yields s () (s.withJournal i) :=
      Site.keep_yields.2 ⟨i, hi, rfl⟩
    refine hdrained.succeeds_bind ?_
    obtain ⟨j, hj⟩ := (Journal.alike_of_keep hi).tells rfl (h hverbose)
    exact ⟨(), _, Site.report_yields.2 ⟨j, hj, rfl⟩⟩
  · exact succeeds_pure _ _

end Announce

/-! ## A second drain -/

section Again

variable {κ ω : Type} [RememberedSet κ] [HeapView ω] {p : Policy} {ts : List Mutator}
  {s : Scene κ ω} {n : Nat} {u : Site κ ω (List Mutator)}

/-- **A round of flushes finds nothing** where nothing waits, and does nothing. -/
theorem Policy.flushEach_of_empty (h : ∀ t ∈ ts, t.slot = .empty) :
    p.flushEach ts s = (.ok 0, ts, s) := by
  induction ts with
  | nil => rfl
  | cons t ts ih =>
    have hflush : (p.flush .safepoint).run (⟨s, t⟩ : Site κ ω Mutator) = (.ok false, ⟨s, t⟩) := by
      rw [flush_eq]
      refine yields_bind.2 ⟨none, _, Site.yields_ask.2 ⟨?_, rfl⟩, yields_pure.2 ⟨rfl, rfl⟩⟩
      rw [h t List.mem_cons_self]
      rfl
    rw [flushEach, hflush]
    dsimp only
    rw [ih fun t ht => h t (List.mem_cons_of_mem _ ht)]
    rfl

omit [RememberedSet κ] [HeapView ω] in
/-- Counting a drain does not change what is added up in a report. -/
theorem Policy.skipped_tallied_drain (t : Tally) :
    (p.tallied [.drain] t).skipped = t.skipped := by
  unfold tallied
  split <;> rfl

/-- **A drain after a drain** comes through as well, finds nothing, and changes neither slot nor
card. -/
theorem Policy.drain_again (h : p.drain.Yields ⟨s, ts⟩ n u) :
    ∃ v, p.drain.Yields u 0 v ∧ v.thread = u.thread ∧
      v.scene.ledger.cards = u.scene.ledger.cards := by
  obtain ⟨us, t, heach, hannounce⟩ := drain_yields_iff.1 h
  obtain ⟨bs, -, rfl, -⟩ := flushEach_round heach
  obtain ⟨j, rfl, htold⟩ := announceDrain_yields hannounce
  have hempty : ∀ t ∈ ts.map Mutator.emptied, t.slot = .empty := by
    intro t ht
    obtain ⟨_, -, rfl⟩ := List.mem_map.1 ht
    rfl
  -- the second drain flushes nothing, so its report is the only thing that could stop it
  have hagain : (p.announceDrain (ts.map Mutator.emptied).length 0).Succeeds
      (⟨⟨⟨t.ledger.cards, p.tallied [.drain] (p.tallied [.drain] t.ledger.tally)⟩, t.heap,
        j.remarkAll [.drained (ts.map Mutator.emptied).length 0]⟩,
        ts.map Mutator.emptied⟩ : Site κ ω (List Mutator)) := by
    refine succeeds_announceDrain fun hverbose => ?_
    obtain ⟨i, hij, hi⟩ := htold hverbose
    have hremark : j.Alike (j.remarkAll [.drained (ts.map Mutator.emptied).length 0]) := ⟨rfl, rfl⟩
    exact (hij.trans hremark).tells (skipped_tallied_drain _) hi
  obtain ⟨_, v, hv⟩ := hagain
  obtain ⟨j', rfl, -⟩ := announceDrain_yields hv
  exact ⟨_, drain_yields_iff.2 ⟨_, _, flushEach_of_empty hempty, hv⟩, rfl, rfl⟩

end Again

/-! ## How a drain ends -/

/-- **A mark by force on a store** is one on its table. -/
theorem Store.mark_of_forceMark {s t : Store} {r : Interval}
    (h : (RememberedSet.forceMark r).Yields s () t) :
    (TableBacked.table s).mark r = .ok (TableBacked.table t) := by
  obtain ⟨u, hmade, hmark⟩ | ⟨f, u, hrun, -⟩ := make_cases (.forceMark r) s
  · obtain ⟨-, rfl⟩ := Act.Yields.unique h hmade
    exact hmark
  · have heq : (.ok (), t) = ((.error f, u) : Except Fault Unit × Store) := h.symm.trans hrun
    cases heq

section Ends

variable {ω : Type} [HeapView ω] {p : Policy} {ts : List Mutator} {bs : List Bool}
  {s v : Scene Store ω} {f : Fault} {n : Nat} {i : Nat}

/-- The cards of the store of a scene. -/
def Scene.table (s : Scene Store ω) : CardTable := TableBacked.table s.ledger.cards

/-- **A round of flushes takes the marks of its threads to the table of the store.** -/
theorem Policy.Round.dirty_table (h : p.Round ts s bs v) :
    v.table.geometry = s.table.geometry ∧ ∀ i, v.table.Dirty i ↔
      s.table.Dirty i ∨ ∃ t ∈ ts, t.Pends s.table.geometry i := by
  induction h with
  | nil => exact ⟨rfl, fun i => by simp⟩
  | cons hflush _ ih =>
    obtain ⟨hgeometry, hdirty⟩ :=
      (flushed_of_yields hflush).dirty_of_table TableBacked.table fun _ _ _ =>
        Store.mark_of_forceMark
    refine ⟨ih.1.trans hgeometry, fun i => ?_⟩
    rw [ih.2, Scene.table, hdirty, hgeometry]
    simp [Scene.table, or_assoc]

/-- **A round of flushes stops at one thread.** Those before it have been flushed, and those after
it are as they were. -/
theorem Policy.flushEach_stops {us : List Mutator} (h : p.flushEach ts s = (.error f, us, v)) :
    ∃ before thread after bs w u, ts = before ++ thread :: after ∧ p.Round before s bs w ∧
      (p.flush .safepoint).run ⟨w, thread⟩ = (.error f, (⟨v, u⟩ : Site Store ω Mutator)) ∧
      us = before.map Mutator.emptied ++ u :: after := by
  induction ts generalizing us s with
  | nil => cases h
  | cons thread ts ih =>
    rw [flushEach] at h
    rcases hflush : (p.flush .safepoint).run (Site.mk s thread) with ⟨f' | b, site⟩
    · rw [hflush] at h
      cases h
      exact ⟨[], thread, ts, [], s, site.thread, rfl, .nil, hflush, rfl⟩
    · rw [hflush] at h
      dsimp only at h
      rcases hrest : p.flushEach ts site.scene with ⟨f' | k, vs, w⟩
      · rw [hrest] at h
        cases h
        obtain ⟨before, other, after, bs, w, u, rfl, hround, hstop, rfl⟩ := ih hrest
        refine ⟨thread :: before, other, after, b :: bs, w, u, rfl, .cons hflush hround, hstop, ?_⟩
        rw [(flushed_of_yields hflush).thread_eq]
        rfl
      · rw [hrest] at h
        cases h

/-- **A round of flushes counts what waited**, once as flushed and once as marked by force. -/
theorem Policy.Round.get_of_mem {k : Tally.Kind} (hcounts : p.counts = true)
    (h : p.Round ts s bs v) (hk : k ∈ flushKinds true) :
    v.ledger.tally.get k = s.ledger.tally.get k + UInt64.ofNat (ts.countP Mutator.waits) := by
  have hnodup : (flushKinds true).Nodup := by decide
  rw [h.tally_eq, get_tallied hcounts, count_flatMap_flushKinds, hnodup.count, if_pos hk,
    Nat.mul_one, h.eq_waits, Mutator.count_map_waits]

/-- It counts nothing else. -/
theorem Policy.Round.get_of_not_mem {k : Tally.Kind} (h : p.Round ts s bs v)
    (hk : k ∉ flushKinds true) : v.ledger.tally.get k = s.ledger.tally.get k := by
  rw [h.tally_eq, get_tallied_of_not_mem]
  rw [← List.count_eq_zero, count_flatMap_flushKinds, List.count_eq_zero.2 hk, Nat.mul_zero]

/-- **What a drain has done** that comes through and answers with a number. -/
structure Policy.Drains (p : Policy) (s : Scene Store ω) (ts : List Mutator) (n : Nat)
    (u : Site Store ω (List Mutator)) : Prop where
  /-- It answers with how many marks were waiting. -/
  answer : n = ts.countP Mutator.waits
  /-- Nothing waits any more. -/
  threads : u.thread = ts.map Mutator.emptied
  /-- The dirty cards are those of before and those that were waited for. -/
  dirty_iff (i : Nat) : u.scene.table.Dirty i ↔
    s.table.Dirty i ∨ ∃ t ∈ ts, t.Pends s.table.geometry i
  /-- As many flushes are counted. -/
  flushed : u.scene.ledger.tally.get .flushed = s.ledger.tally.get .flushed + UInt64.ofNat n
  /-- And as many marks by force. -/
  forcedMarks : u.scene.ledger.tally.get .forcedMark
    = s.ledger.tally.get .forcedMark + UInt64.ofNat n
  /-- And one drain. -/
  drains : u.scene.ledger.tally.get .drain = s.ledger.tally.get .drain + 1
  /-- A second drain finds nothing, and changes neither slot nor card. -/
  again : ∃ v, p.drain.Yields u 0 v ∧ v.thread = u.thread ∧ v.scene.table = u.scene.table

/-- **What a drain has done** that is stopped by the flush of one thread, after which others would
have had their turn. -/
structure Policy.Stops (p : Policy) (s : Scene Store ω) (before : List Mutator) (thread : Mutator)
    (after : List Mutator) (f : Fault) (u : Site Store ω (List Mutator)) : Prop where
  /-- The threads before it are flushed, and its flush stops. -/
  stopped : ∃ bs v, p.Round before s bs v ∧
    (p.flush .safepoint).run (⟨v, thread⟩ : Site Store ω Mutator) = (.error f, ⟨u.scene, thread⟩)
  /-- Nothing waits any more for the threads before it; it is as it was, and so are those after. -/
  threads : u.thread = before.map Mutator.emptied ++ thread :: after
  /-- The dirty cards are those of before and those that were waited for by the threads before. -/
  dirty_iff (i : Nat) : u.scene.table.Dirty i ↔
    s.table.Dirty i ∨ ∃ t ∈ before, t.Pends s.table.geometry i
  /-- Their flushes are counted. -/
  flushed : u.scene.ledger.tally.get .flushed
    = s.ledger.tally.get .flushed + UInt64.ofNat (before.countP Mutator.waits)
  /-- No drain is. -/
  drains : u.scene.ledger.tally.get .drain = s.ledger.tally.get .drain

/-- **A drain that comes through** has done all of it. -/
theorem Policy.drains_of_yields (hcounts : p.counts = true) {u : Site Store ω (List Mutator)}
    (h : p.drain.Yields ⟨s, ts⟩ n u) : p.Drains s ts n u := by
  obtain ⟨bs, v, hround, rfl, hthreads, hledger, -⟩ := drain_yields h
  have hcount : bs.count true = ts.countP Mutator.waits := by
    rw [hround.eq_waits, Mutator.count_map_waits]
  have htable : u.scene.table = v.table := by
    unfold Scene.table
    rw [hledger]
  have hget : ∀ k ∈ flushKinds true, u.scene.ledger.tally.get k
      = s.ledger.tally.get k + UInt64.ofNat (bs.count true) := by
    intro k hk
    have hne : k ∉ [Tally.Kind.drain] := by
      revert k
      decide
    rw [hledger, get_tallied_of_not_mem hne, hround.get_of_mem hcounts hk, hcount]
  refine ⟨hcount, hthreads, fun i => ?_, hget _ (by decide), hget _ (by decide), ?_, ?_⟩
  · rw [htable]
    exact hround.dirty_table.2 i
  · rw [hledger, get_tallied_self hcounts, hround.get_of_not_mem (by decide)]
  · obtain ⟨w, hw, hthread, hcards⟩ := drain_again h
    exact ⟨w, hw, hthread, congrArg TableBacked.table hcards⟩

/-- **A flush that stops a drain** has left its thread as it was, and of the counters at most that
of marks by force is other than before it. -/
theorem Policy.stops_of_flush (hcounts : p.counts = true) {before after : List Mutator}
    {thread w : Mutator} {t : Scene Store ω} (hround : p.Round before s bs t)
    (hstop : (p.flush .safepoint).run ⟨t, thread⟩ = (.error f, (⟨v, w⟩ : Site Store ω Mutator))) :
    p.Stops s before thread after f ⟨v, before.map Mutator.emptied ++ w :: after⟩ := by
  have hthwarted := thwarted_of_flush hstop
  obtain rfl : w = thread := hthwarted.thread
  have htable : v.table = t.table := hthwarted.table
  have hget : ∀ k ≠ Tally.Kind.forcedMark, v.ledger.tally.get k = t.ledger.tally.get k := by
    intro k hk
    obtain htally | ⟨_, -, -, htally⟩ := hthwarted.tally
    · exact congrArg (Tally.get · k) htally
    · refine (congrArg (Tally.get · k) htally).trans (get_tallied_of_not_mem ?_)
      simpa using hk
  refine ⟨⟨bs, t, hround, hstop⟩, rfl, fun i => ?_, ?_, ?_⟩
  · show v.table.Dirty i ↔ _
    rw [htable]
    exact hround.dirty_table.2 i
  · show v.ledger.tally.get .flushed = _
    rw [hget .flushed (by decide), hround.get_of_mem hcounts (by decide)]
  · show v.ledger.tally.get .drain = _
    rw [hget .drain (by decide), hround.get_of_not_mem (by decide)]

/-- **A drain ends in one of three ways.** It comes through; it is stopped by the flush of one
thread; or every thread is flushed, and the counters cannot be put into a sentence. -/
theorem Policy.drain_ends (hcounts : p.counts = true) (ts : List Mutator) (s : Scene Store ω) :
    (∃ n u, p.drain.Yields ⟨s, ts⟩ n u ∧ p.Drains s ts n u) ∨
      (∃ f u before thread after, p.drain.run ⟨s, ts⟩ = (.error f, u) ∧
        ts = before ++ thread :: after ∧ p.Stops s before thread after f u) ∨
      ∃ f u bs v, p.drain.run ⟨s, ts⟩ = (.error f, u) ∧ p.Round ts s bs v ∧
        u.thread = ts.map Mutator.emptied ∧ ¬u.scene.Tellable := by
  rcases heach : p.flushEach ts s with ⟨f | n, us, v⟩
  · obtain ⟨before, thread, after, bs, w, u, rfl, hround, hstop, rfl⟩ := flushEach_stops heach
    refine .inr (.inl ⟨f, _, before, thread, after, ?_, rfl, stops_of_flush hcounts hround hstop⟩)
    rw [run_drain, heach]
  · obtain ⟨bs, hround, rfl, rfl⟩ := flushEach_round heach
    obtain ⟨o, j, hrun, htell⟩ := p.exists_run_end_drain (ts.map Mutator.emptied).length
      (bs.count true) v (ts.map Mutator.emptied)
    have hdrain : p.drain.run ⟨s, ts⟩ = (o, ⟨⟨⟨v.ledger.cards,
        p.tallied [.drain] v.ledger.tally⟩, v.heap, j⟩, ts.map Mutator.emptied⟩) := by
      rw [run_drain, heach]
      exact hrun
    cases o with
    | ok n => exact .inl ⟨n, _, hdrain, drains_of_yields hcounts hdrain⟩
    | error f => exact .inr (.inr ⟨f, _, bs, v, hdrain, hround, rfl, fun h => nomatch htell h⟩)

end Ends

namespace SmallHeap

/-- Two threads, for one of which the mark over the object waits. -/
def waiting : List Mutator := [⟨0, .empty⟩, ⟨1, .holding objectExtent⟩]

/-- Another thread holds an interval that no object takes. -/
def waitingInVain : List Mutator := waiting ++ [⟨2, .holding ⟨0, 8, by decide⟩⟩, ⟨3, .empty⟩]

/-- The mark is drained; and a mark in vain stops the drain at its thread. -/
theorem drained_waiting :
    (∃ u, (policy true).Drains onRecord.scene waiting 1 u) ∧
      ∃ f u before thread after, waitingInVain = before ++ thread :: after ∧
        (policy true).Stops onRecord.scene before thread after f u := by
  constructor
  · obtain ⟨n, u, -, h⟩ | ⟨f, u, _, _, _, hrun, -⟩ | ⟨f, u, _, _, hrun, -⟩ :=
      Policy.drain_ends (p := policy true) rfl waiting onRecord.scene
    · obtain rfl : n = 1 := h.answer
      exact ⟨u, h⟩
    · cases hrun
    · cases hrun
  · obtain ⟨n, u, hrun, -⟩ | ⟨f, u, before, thread, after, -, h⟩ |
        ⟨f, u, _, _, hrun, -, hthread, -⟩ :=
      Policy.drain_ends (p := policy true) rfl waitingInVain onRecord.scene
    · cases hrun
    · exact ⟨f, u, before, thread, after, h⟩
    · cases hrun
      exact absurd hthread (by decide)

end SmallHeap

end CardBarrier
