import CardBarrier.Card.Store
import CardBarrier.Proofs.MutatorWork
import CardBarrier.Proofs.Threads

/-!
# What comes of a move, over any store

A move that comes through has asked its store for certain marks, in a certain order, has counted
certain events, and has done something to the threads. `Policy.Outcome` says what, once and for
all moves, whichever store the barrier works over: a card table, a recorder, or any other of
which nothing is known but that it takes marks. Marks and writes ask for the marks that they
speak of (`Policy.Orders`), an allocation flushes, reaches a verdict and acts on it, slots
are flushed one by one or in a round (`Policy.Round`), the collector has its way with the table,
or something happens around the barrier.

One move is left aside (`Move.LeavesSlots`): the setting of a slot from outside.
-/

namespace CardBarrier

open Act

/-- A move that does not meddle with slots. -/
def Move.LeavesSlots {ω τ : Type} : Move ω τ → Prop
  | .change (.assign _ _) => False
  | _ => True

/-- What the collector does to the table, if the move is one of its own. -/
def Move.collects {ω τ : Type} : Move ω τ → Option (CardTable → Except Fault CardTable)
  | .moveYoung young => some (.ok ∘ CardTable.withYoung young)
  | .clear r => some (CardTable.clear r)
  | .reset => some (.ok ∘ CardTable.reset)
  | _ => none

/-! ## Marks asked for -/

namespace MarkCall

variable {κ : Type} [RememberedSet κ]

/-- Asks a store for a mark. -/
def make : MarkCall → Act κ Unit
  | mark r => RememberedSet.mark r
  | forceMark r => RememberedSet.forceMark r

/-- **Asks a store for marks**, one after the other. -/
def makeAll : List MarkCall → Act κ Unit
  | [] => pure ()
  | call :: calls => do
    call.make
    makeAll calls

variable {s t u : κ} {call : MarkCall} {calls calls' : List MarkCall}

theorem makeAll_nil : (makeAll ([] : List MarkCall)).Yields s () t ↔ t = s := by
  simp [makeAll]

theorem makeAll_cons :
    (makeAll (call :: calls)).Yields s () u ↔
      ∃ t, call.make.Yields s () t ∧ (makeAll calls).Yields t () u := by
  show (call.make >>= fun _ => makeAll calls).Yields s () u ↔ _
  rw [yields_bind]
  exact ⟨fun ⟨_, h⟩ => h, fun h => ⟨(), h⟩⟩

theorem makeAll_singleton : (makeAll [call]).Yields s () t ↔ call.make.Yields s () t := by
  simp only [makeAll_cons, makeAll_nil, exists_eq_right']

theorem makeAll_append :
    (makeAll (calls ++ calls')).Yields s () u ↔
      ∃ t, (makeAll calls).Yields s () t ∧ (makeAll calls').Yields t () u := by
  induction calls generalizing s with
  | nil => simp only [List.nil_append, makeAll_nil, exists_eq_left]
  | cons call calls ih =>
    simp only [List.cons_append, makeAll_cons, ih]
    constructor
    · rintro ⟨v, hcall, t, hcalls, hrest⟩
      exact ⟨t, ⟨v, hcall, hcalls⟩, hrest⟩
    · rintro ⟨t, ⟨v, hcall, hcalls⟩, hrest⟩
      exact ⟨v, hcall, t, hcalls, hrest⟩

end MarkCall

theorem Recorder.passOn_yields {κ : Type} {call : MarkCall} {act : Act κ Unit}
    {r s : Recorder κ} {u : Unit} :
    (passOn call act).Yields r u s ↔
      ∃ store, act.Yields r.store u store ∧ s = ⟨store, r.calls ++ [call]⟩ := by
  unfold passOn
  rw [yields_bind]
  simp only [yields_modify, yields_within]
  constructor
  · rintro ⟨_, _, rfl, hact⟩
    exact hact
  · exact fun hact => ⟨(), _, rfl, hact⟩

/-- **A recorder makes a mark** on the store behind it, and notes it. -/
theorem Recorder.make_yields {κ : Type} [RememberedSet κ] {call : MarkCall} {r s : Recorder κ} :
    call.make.Yields r () s ↔
      ∃ store, call.make.Yields r.store () store ∧ s = ⟨store, r.calls ++ [call]⟩ := by
  cases call with
  | mark region => exact passOn_yields
  | forceMark region => exact passOn_yields

/-- The array writes that a move makes, with the start and the number of references of each. -/
def Move.arrayWrites {ω τ : Type} : Move ω τ → Option (List (Address × UInt64))
  | .writeArray start count | .writeOnFastPath start count => some [(start, count)]
  | .writeTogether batches => some batches.flatten
  | _ => none

/-- The spans of array writes. -/
def Policy.spans (p : Policy) (writes : List (Address × UInt64)) : List (Except Fault Interval) :=
  writes.map fun w => p.layout.arraySpan w.1 w.2

theorem Policy.spans_append (p : Policy) (ws ws' : List (Address × UInt64)) :
    p.spans (ws ++ ws') = p.spans ws ++ p.spans ws' := List.map_append

/-- **The marks that a mark or a write asks for**, and as what it counts. -/
inductive Policy.Orders {ω τ : Type} (p : Policy) :
    Move ω τ → List MarkCall → List Tally.Kind → Prop
  | mark (r : Interval) : Orders p (.mark r) [.mark r] [.mark]
  | forceMark (r : Interval) : Orders p (.forceMark r) [.forceMark r] [.forcedMark]
  | writeSpan (r : Interval) : Orders p (.writeSpan r) [.mark r] [.write, .mark]
  | writes {m : Move ω τ} {writes : List (Address × UInt64)} {rs : List Interval}
      (hm : m.arrayWrites = some writes) (h : p.spans writes = rs.map .ok) :
      Orders p m (rs.map .mark) (rs.flatMap fun _ => [.write, .mark])

variable {κ ω : Type} [RememberedSet κ] [HeapView ω]

/-- **A round of flushes**, one thread after the other, with the answer of each: whether a mark
was pending. -/
inductive Policy.Round (p : Policy) :
    List Mutator → Scene κ ω → List Bool → Scene κ ω → Prop
  | nil {s : Scene κ ω} : Round p [] s [] s
  | cons {t : Mutator} {ts : List Mutator} {s v : Scene κ ω} {b : Bool} {bs : List Bool}
      {u : Site κ ω Mutator} (hflush : (p.flush .safepoint).Yields ⟨s, t⟩ b u)
      (h : Round p ts u.scene bs v) : Round p (t :: ts) s (b :: bs) v

/-- **What comes of a move** that comes through, with its answer. -/
inductive Policy.Outcome [TableBacked κ] (p : Policy) (a : Arena κ ω Mutator) :
    Move ω Mutator → Reply → Arena κ ω Mutator → Prop
  | ordered {m : Move ω Mutator} {reply : Reply} {calls : List MarkCall}
      {kinds : List Tally.Kind} {cards : κ} (horders : p.Orders m calls kinds)
      (hmade : (MarkCall.makeAll calls).Yields a.scene.ledger.cards () cards) :
      Outcome p a m reply (a.withLedger ⟨cards, p.tallied kinds a.scene.ledger.tally⟩)
  | unreduced {name : String} {object : Address} {reply : Reply} {t : Mutator}
      (hreduces : p.reducesInitialMarks = false) (hfind : a.threads.find? name = some t) :
      Outcome p a (.allocate name object) reply ⟨a.scene, a.threads.insert name t⟩
  | allocated {name : String} {object : Address} {reply : Reply} {t : Mutator} {b : Bool}
      {verdict : Tally.Kind ⊕ Interval} {s u v : Site κ ω Mutator}
      (hreduces : p.reducesInitialMarks = true) (hfind : a.threads.find? name = some t)
      (hflush : (p.flush .allocation).Yields ⟨a.scene, t⟩ b s)
      (hassess : (Workplace.assess object).Yields s verdict u)
      (hconcluded : Concluded p u v verdict) :
      Outcome p a (.allocate name object) reply ⟨v.scene, a.threads.insert name v.thread⟩
  | flushed {m : Move ω Mutator} {reply : Reply} {name : String} {point : FlushPoint}
      {t : Mutator} {b : Bool} {s u : Site κ ω Mutator}
      (hm : m = .detach name ∧ point = .detach ∨ m = .flush name point)
      (hfind : a.threads.find? name = some t)
      (hflush : (p.flush point).Yields ⟨a.scene, t⟩ b s) (hs : s.Untouched u) :
      Outcome p a m reply ⟨u.scene, a.threads.insert name u.thread⟩
  | drained {names : Option (List String)} {ts : List Mutator} {bs : List Bool} {s : Scene κ ω}
      {c : Arena κ ω Mutator}
      (hfind : (names.getD a.threads.names).map a.threads.find? = ts.map some)
      (hround : p.Round ts a.scene bs s)
      (hledger : c.scene.ledger = ⟨s.ledger.cards, p.tallied [.drain] s.ledger.tally⟩)
      (hthreads : c.threads
        = a.threads.insertAll ((names.getD a.threads.names).zip (ts.map Mutator.emptied)))
      (hsettled : s.Settled c.scene) : Outcome p a (.drain names) (.count (bs.count true)) c
  | reported {reply : Reply} {c : Arena κ ω Mutator} (hledger : c.scene.ledger = a.scene.ledger)
      (hheap : c.scene.heap = a.scene.heap) (hthreads : c.threads = a.threads) :
      Outcome p a .report reply c
  | collected {m : Move ω Mutator} {reply : Reply} {f : CardTable → Except Fault CardTable}
      {table : CardTable} (hm : m.collects = some f)
      (hf : f (TableBacked.table a.scene.ledger.cards) = .ok table) :
      Outcome p a m reply (a.withLedger
        ⟨TableBacked.setTable table a.scene.ledger.cards, a.scene.ledger.tally⟩)
  | attached {name : String} {t : Mutator} {reply : Reply} {c : Arena κ ω Mutator}
      (hledger : c.scene.ledger = a.scene.ledger) (hheap : c.scene.heap = a.scene.heap)
      (hthreads : c.threads = a.threads.insert name t) :
      Outcome p a (.change (.attach name t)) reply c
  | discarded {name : String} {t : Mutator} {reply : Reply}
      (hfind : a.threads.find? name = some t) (hslot : t.slot = .empty) :
      Outcome p a (.change (.discard name none)) reply ⟨a.scene, a.threads.erase name⟩
  | rearranged {reply : Reply} (change : ω → ω) : Outcome p a (.change (.rearrange change)) reply
      ⟨{ a.scene with heap := change a.scene.heap }, a.threads⟩

/-! ## Writes -/

section Write

variable {p : Policy} {a : Arena κ ω Mutator}

omit [RememberedSet κ] [HeapView ω] in
theorem Arena.run_onBarrier {τ α : Type} (act : Act (Barrier κ) α) (a : Arena κ ω τ) :
    (Arena.onBarrier p act).run a = ((act.run ⟨p, a.scene.ledger⟩).1,
      a.withLedger (act.run ⟨p, a.scene.ledger⟩).2.ledger) := rfl

omit [RememberedSet κ] [HeapView ω] in
theorem Arena.onBarrier_yields {τ α : Type} {act : Act (Barrier κ) α} {a d : Arena κ ω τ} {x : α} :
    (Arena.onBarrier p act).Yields a x d ↔
      ∃ b, act.Yields ⟨p, a.scene.ledger⟩ x b ∧ d = a.withLedger b.ledger := by
  unfold onBarrier
  simp only [onLedger_yields, yields_within]
  constructor
  · rintro ⟨_, ⟨b, hact, rfl⟩, rfl⟩
    exact ⟨b, hact, rfl⟩
  · rintro ⟨b, hact, rfl⟩
    exact ⟨_, ⟨b, hact, rfl⟩, rfl⟩

omit [HeapView ω] in
/-- **An array write** works out its span and marks it. -/
theorem Policy.recordArray_eq {τ : Type} (start : Address) (count : UInt64) :
    (Arena.onBarrier p (WriteBarrier.recordArray start count) : Act (Arena κ ω τ) Unit) =
      Act.ofExcept (p.layout.arraySpan start count) >>= fun span =>
        Arena.onLedger (p.writeSpan span) := by
  funext a
  show (Arena.onBarrier p (WriteBarrier.recordArray start count)).run a = Act.run _ a
  rw [Arena.run_onBarrier, run_bind, run_ofExcept]
  unfold WriteBarrier.recordArray
  rw [run_bind, run_get]
  dsimp only
  rw [run_bind, run_ofExcept]
  have hlayout : WriteBarrier.layout (⟨p, a.scene.ledger⟩ : Barrier κ) = p.layout := rfl
  rw [hlayout]
  cases p.layout.arraySpan start count <;> rfl

omit [HeapView ω] in
/-- **So does one by a fast path.** -/
theorem Policy.fastPath_eq {τ π : Type} (place : π) (start : Address) (count : UInt64) :
    (Arena.onBarrier p ((FastPath.mk p.layout place).recordArray start count) :
      Act (Arena κ ω τ) Unit) =
        Act.ofExcept (p.layout.arraySpan start count) >>= fun span =>
          Arena.onLedger (p.writeSpan span) := by
  funext a
  show (Arena.onBarrier p ((FastPath.mk p.layout place).recordArray start count)).run a
    = Act.run _ a
  rw [Arena.run_onBarrier, run_bind, run_ofExcept]
  unfold FastPath.recordArray
  rw [run_bind, run_ofExcept]
  cases p.layout.arraySpan start count <;> rfl

omit [RememberedSet κ] [HeapView ω] in
theorem Barrier.onLedger_yields {α : Type} {act : Policy → Act (Ledger κ) α} {b c : Barrier κ}
    {x : α} : (Barrier.onLedger act).Yields b x c ↔
      ∃ l, (act b.policy).Yields b.ledger x l ∧ c = ⟨b.policy, l⟩ := by
  unfold Yields Barrier.onLedger
  rw [run_ofFun]
  rcases (act b.policy).run b.ledger with ⟨o, l⟩
  simp [eq_comm, and_assoc]

/-- **Array writes have been made**: their spans were marked in turn, and each was counted. -/
def Policy.Wrote (p : Policy) (writes : List (Address × UInt64)) (l m : Ledger κ) : Prop :=
  ∃ (rs : List Interval) (cards : κ), p.spans writes = rs.map .ok ∧
    (MarkCall.makeAll (rs.map .mark)).Yields l.cards () cards ∧
    m = ⟨cards, p.tallied (rs.flatMap fun _ => [.write, .mark]) l.tally⟩

omit [HeapView ω] in
theorem Policy.Wrote.nil (l : Ledger κ) : p.Wrote [] l l :=
  ⟨[], l.cards, rfl, MarkCall.makeAll_nil.2 rfl, by rw [List.flatMap_nil, tallied_nil]⟩

omit [HeapView ω] in
theorem Policy.Wrote.append {ws ws' : List (Address × UInt64)} {l m n : Ledger κ}
    (h : p.Wrote ws l m) (h' : p.Wrote ws' m n) : p.Wrote (ws ++ ws') l n := by
  obtain ⟨rs, cards, hspans, hmade, rfl⟩ := h
  obtain ⟨rs', cards', hspans', hmade', rfl⟩ := h'
  refine ⟨rs ++ rs', cards', ?_, ?_, ?_⟩
  · rw [spans_append, hspans, hspans', List.map_append]
  · rw [List.map_append]
    exact MarkCall.makeAll_append.2 ⟨cards, hmade, hmade'⟩
  · rw [tallied_tallied, List.flatMap_append]

omit [HeapView ω] in
theorem WriteBarrier.recordArray_yields {start : Address} {count : UInt64} {b c : Barrier κ}
    (h : (WriteBarrier.recordArray start count).Yields b () c) :
    c.policy = b.policy ∧ b.policy.Wrote [(start, count)] b.ledger c.ledger := by
  obtain ⟨_, b', hget, hrest⟩ := yields_bind.1 h
  obtain ⟨rfl, rfl⟩ := yields_get.1 hget
  obtain ⟨r, b'', hwork, hwrite⟩ := yields_bind.1 hrest
  obtain ⟨hspan, rfl⟩ := yields_ofExcept.1 hwork
  obtain ⟨l, hl, rfl⟩ := Barrier.onLedger_yields.1 hwrite
  obtain ⟨cards, hmark, rfl⟩ := Policy.writeSpan_yields.1 hl
  exact ⟨rfl, [r], cards, congrArg (fun span => [span]) hspan,
    MarkCall.makeAll_singleton.2 hmark, rfl⟩

omit [HeapView ω] in
theorem WriteBarrier.recordBatch_yields {batch : List (Address × UInt64)} {b c : Barrier κ}
    (h : (WriteBarrier.recordBatch batch).Yields b () c) :
    c.policy = b.policy ∧ b.policy.Wrote batch b.ledger c.ledger := by
  induction batch generalizing b with
  | nil =>
    obtain ⟨-, rfl⟩ := yields_pure.1 h
    exact ⟨rfl, .nil _⟩
  | cons write batch ih =>
    obtain ⟨_, b', hwrite, hbatch⟩ := yields_bind.1 h
    obtain ⟨hpolicy, hwrote⟩ := recordArray_yields hwrite
    obtain ⟨hpolicy', hwrote'⟩ := ih hbatch
    rw [hpolicy] at hpolicy' hwrote'
    exact ⟨hpolicy', hwrote.append hwrote'⟩

omit [HeapView ω] in
/-- **Writes of several threads** that all come through have been made, whichever thread they
are of. -/
theorem WriteBarrier.recordBatches_yields {batches : List (List (Address × UInt64))}
    {b c : Barrier κ} (h : (WriteBarrier.recordBatches batches).Yields b () c) :
    c.policy = b.policy ∧ b.policy.Wrote batches.flatten b.ledger c.ledger := by
  induction batches generalizing b with
  | nil =>
    obtain ⟨-, rfl⟩ := yields_pure.1 h
    exact ⟨rfl, .nil _⟩
  | cons batch batches ih =>
    unfold Yields WriteBarrier.recordBatches at h
    rw [run_ofFun] at h
    cases hbatch : (WriteBarrier.recordBatch batch).run b with
    | mk o b' =>
      rw [hbatch] at h
      cases o with
      | error f => cases h
      | ok x =>
        obtain ⟨hpolicy, hwrote⟩ := recordBatch_yields hbatch
        obtain ⟨hpolicy', hwrote'⟩ := ih h
        rw [hpolicy] at hpolicy' hwrote'
        exact ⟨hpolicy', hwrote.append hwrote'⟩

omit [HeapView ω] in
theorem FastPath.recordArray_yields {π : Type} {path : FastPath π} {start : Address}
    {count : UInt64} {b c : Barrier κ} (h : (path.recordArray start count).Yields b () c)
    (hpath : path.layout = b.policy.layout) :
    b.policy.Wrote [(start, count)] b.ledger c.ledger := by
  obtain ⟨r, b', hwork, hwrite⟩ := yields_bind.1 h
  obtain ⟨hspan, rfl⟩ := yields_ofExcept.1 hwork
  rw [hpath] at hspan
  obtain ⟨l, hl, rfl⟩ := Barrier.onLedger_yields.1 hwrite
  obtain ⟨cards, hmark, rfl⟩ := Policy.writeSpan_yields.1 hl
  exact ⟨[r], cards, congrArg (fun span => [span]) hspan,
    MarkCall.makeAll_singleton.2 hmark, rfl⟩

end Write

/-! ## Draining -/

section Drain

variable {p : Policy}

/-- **A round of flushes that comes through** has flushed thread after thread, and says how
many marks were pending. -/
theorem Policy.flushEach_round {ts us : List Mutator} {s v : Scene κ ω} {n : Nat}
    (h : p.flushEach ts s = (.ok n, us, v)) :
    ∃ bs, p.Round ts s bs v ∧ us = ts.map Mutator.emptied ∧ n = bs.count true := by
  induction ts generalizing us s n with
  | nil =>
    cases h
    exact ⟨[], .nil, rfl, rfl⟩
  | cons thread ts ih =>
    rw [flushEach] at h
    cases hflush : (p.flush .safepoint).run (Site.mk s thread) with
    | mk o site =>
      rw [hflush] at h
      cases o with
      | error f => cases h
      | ok b =>
        dsimp only at h
        cases hrest : p.flushEach ts site.scene with
        | mk o' rest =>
          obtain ⟨vs, w⟩ := rest
          rw [hrest] at h
          cases o' with
          | error f => cases h
          | ok k =>
            cases h
            obtain ⟨bs, hround, hvs, rfl⟩ := ih hrest
            refine ⟨b :: bs, .cons hflush hround, ?_, ?_⟩
            · rw [hvs, List.map_cons, (flushed_of_yields hflush).thread_eq]
            · cases b <;> simp [Nat.add_comm]

theorem Policy.Round.settled {ts : List Mutator} {bs : List Bool} {s v : Scene κ ω}
    (h : p.Round ts s bs v) : s.Settled v := by
  induction h with
  | nil => exact fun _ => rfl
  | cons hflush _ ih => exact (flushed_of_yields hflush).settled.trans ih

/-- What is said after a round of flushes. -/
def Policy.announceDrain {τ : Type} (p : Policy) (threads flushed : Nat) :
    Act (Site κ ω (List τ)) Unit :=
  if p.verbose then do
    Site.onScene (Scene.keep (.drained (UInt64.ofNat threads) (UInt64.ofNat flushed)))
    Site.onScene report
  else pure ()

/-- **A drain** flushes in turn, counts itself and says what it did. -/
theorem Policy.run_drain {τ : Type} [SlotHolder τ] (ts : List τ) (s : Scene κ ω) :
    p.drain.run ⟨s, ts⟩ =
      match p.flushEach ts s with
      | (.error f, us, t) => (.error f, ⟨t, us⟩)
      | (.ok n, us, t) =>
        (do
          Site.onScene (Scene.onLedger (p.count .drain))
          Site.onScene (Scene.remark (.drained us.length n))
          p.announceDrain us.length n
          return n : Act (Site κ ω (List τ)) Nat).run ⟨t, us⟩ := by
  unfold drain
  rw [run_bind, run_ofFun]
  dsimp only
  cases p.flushEach ts s with
  | mk o rest =>
    obtain ⟨us, t⟩ := rest
    cases o with
    | error f => rfl
    | ok n =>
      dsimp only
      rw [run_bind, run_get]
      dsimp only
      unfold announceDrain
      cases p.verbose <;> simp

omit [RememberedSet κ] [HeapView ω] in
/-- A report tells the counters as they are. -/
theorem Site.report_yields {τ : Type} {s t : Site κ ω τ} {x : Unit} :
    (Site.onScene Policy.report).Yields s x t ↔
      ∃ j, s.scene.journal.keep (.counted s.scene.ledger.tally) = .ok j ∧ t = s.withJournal j := by
  have hrun : (Site.onScene Policy.report).run s
      = (Site.onScene (Scene.keep (.counted s.scene.ledger.tally))).run s := by
    unfold Site.onScene Policy.report
    rw [run_within, run_within, run_bind, run_get]
  unfold Yields
  rw [hrun]
  exact keep_yields

omit [RememberedSet κ] in
theorem Policy.untouched_announceDrain {τ : Type} {k n : Nat} {s t : Site κ ω (List τ)}
    {x : Unit} (h : (p.announceDrain k n).Yields s x t) : s.Untouched t := by
  unfold announceDrain at h
  split at h
  · obtain ⟨_, _, hkeep, hreport⟩ := yields_bind.1 h
    obtain ⟨_, -, rfl⟩ := Site.keep_yields.1 hkeep
    obtain ⟨j, -, rfl⟩ := Site.report_yields.1 hreport
    exact Site.untouched_withJournal j s
  · obtain ⟨-, rfl⟩ := yields_pure.1 h
    exact .refl _

/-- **A drain comes through** if its flushes do, and it can say what it did. -/
theorem Policy.drain_yields_iff {τ : Type} [SlotHolder τ] {ts : List τ} {s : Scene κ ω} {n : Nat}
    {u : Site κ ω (List τ)} : p.drain.Yields ⟨s, ts⟩ n u ↔
      ∃ us t, p.flushEach ts s = (.ok n, us, t) ∧
        (p.announceDrain us.length n).Yields
          ⟨⟨⟨t.ledger.cards, p.tallied [.drain] t.ledger.tally⟩, t.heap,
            t.journal.remarkAll [.drained us.length n]⟩, us⟩ () u := by
  unfold Yields
  rw [run_drain]
  rcases p.flushEach ts s with ⟨f | k, us, t⟩
  · constructor
    · nofun
    · rintro ⟨_, _, h, -⟩
      cases h
  dsimp only
  have hcount : (Site.onScene (Scene.onLedger (p.count .drain))).Yields
      (⟨t, us⟩ : Site κ ω (List τ)) ()
      ⟨⟨⟨t.ledger.cards, p.tallied [.drain] t.ledger.tally⟩, t.heap, t.journal⟩, us⟩ :=
    Site.yields_onLedger.2 ⟨_, count_yields.2 rfl, rfl⟩
  constructor
  · intro h
    obtain ⟨_, _, hcount', hrest⟩ := yields_bind.1 h
    obtain ⟨-, rfl⟩ := hcount.unique hcount'
    obtain ⟨_, _, hremark, hlast⟩ := yields_bind.1 hrest
    cases hremark
    obtain ⟨_, _, hannounce, hreply⟩ := yields_bind.1 hlast
    obtain ⟨rfl, rfl⟩ := yields_pure.1 hreply
    exact ⟨us, t, rfl, hannounce⟩
  · rintro ⟨us', t', h, hannounce⟩
    cases h
    exact yields_bind.2 ⟨(), _, hcount, yields_bind.2 ⟨(), _, rfl,
      yields_bind.2 ⟨(), _, hannounce, yields_pure.2 ⟨rfl, rfl⟩⟩⟩⟩

/-- **A drain that comes through** is a round of flushes, and answers with how many marks were
pending. -/
theorem Policy.drain_yields {ts : List Mutator} {s : Scene κ ω} {n : Nat}
    {u : Site κ ω (List Mutator)} (h : p.drain.Yields ⟨s, ts⟩ n u) :
    ∃ bs v, p.Round ts s bs v ∧ n = bs.count true ∧ u.thread = ts.map Mutator.emptied ∧
      u.scene.ledger = ⟨v.ledger.cards, p.tallied [.drain] v.ledger.tally⟩ ∧
      v.Settled u.scene := by
  obtain ⟨us, t, heach, hannounce⟩ := drain_yields_iff.1 h
  obtain ⟨bs, hround, rfl, rfl⟩ := flushEach_round heach
  have hs := untouched_announceDrain hannounce
  exact ⟨bs, t, hround, rfl, hs.thread, hs.ledger, hs.settled⟩

end Drain

/-! ## Every move -/

section Move

variable [TableBacked κ] {p : Policy} {a c : Arena κ ω Mutator} {m : Move ω Mutator}
  {reply : Reply}

omit [RememberedSet κ] [HeapView ω] in
/-- The collector's step on a table comes through if the table lets it. -/
theorem Policy.onTable_yields {f : CardTable → Except Fault CardTable} {x : Unit} :
    (onTable f : Act (Arena κ ω Mutator) Unit).Yields a x c ↔
      ∃ table, f (TableBacked.table a.scene.ledger.cards) = .ok table ∧
        c = a.withLedger
          ⟨TableBacked.setTable table a.scene.ledger.cards, a.scene.ledger.tally⟩ := by
  unfold onTable Ledger.onCards TableBacked.update
  simp only [Arena.onLedger_yields, yields_within, yields_update]
  constructor
  · rintro ⟨_, ⟨_, ⟨table, htable, rfl⟩, rfl⟩, rfl⟩
    exact ⟨table, htable, rfl⟩
  · rintro ⟨table, htable, rfl⟩
    exact ⟨_, ⟨_, ⟨table, htable, rfl⟩, rfl⟩, rfl⟩

/-- **A write on a fast path made for it** is one with the layout of the policy, and answers that.
The place to which the path leads does not matter. -/
theorem Policy.perform_writeOnFastPath {τ π : Type} [SlotHolder τ] (p : Policy) (place : π)
    (start : Address) (count : UInt64) :
    (p.perform (.writeOnFastPath start count) : Act (Arena κ ω τ) Reply) = do
      Arena.onBarrier p ((FastPath.mk p.layout place).recordArray start count)
      return .layout p.layout := rfl

/-- Array writes that were made are what the move asked for. -/
theorem Policy.Outcome.of_wrote {ws : List (Address × UInt64)} {l : Ledger κ}
    (hm : m.arrayWrites = some ws) (h : p.Wrote ws a.scene.ledger l) :
    p.Outcome a m reply (a.withLedger l) := by
  obtain ⟨rs, cards, hspans, hmade, rfl⟩ := h
  exact .ordered (.writes hm hspans) hmade

/-- **What happens around a barrier.** -/
theorem Policy.outcome_of_change {ch : Change ω Mutator} {x : Unit}
    (hm : (Move.change ch).LeavesSlots) (h : (Arena.change ch).Yields a x c) :
    p.Outcome a (.change ch) reply c := by
  cases ch with
  | attach name t =>
    obtain ⟨_, b, hremark, hinsert⟩ := yields_bind.1 h
    obtain rfl := yields_modify.1 hinsert
    unfold Arena.onScene Scene.remarkAll Scene.onJournal at hremark
    obtain ⟨_, hjournal, rfl⟩ := yields_within.1 hremark
    obtain ⟨_, -, rfl⟩ := yields_within.1 hjournal
    exact .attached rfl rfl rfl
  | discard name underway =>
    obtain ⟨_, b, hget, hrest⟩ := yields_bind.1 h
    obtain ⟨rfl, rfl⟩ := yields_get.1 hget
    obtain ⟨t, b', hrequire, hrest'⟩ := yields_bind.1 hrest
    obtain ⟨hfind, rfl⟩ := yields_ofExcept.1 hrequire
    obtain ⟨_, b'', hmodify, hdismiss⟩ := yields_bind.1 hrest'
    obtain rfl := yields_modify.1 hmodify
    cases underway with
    | some f => exact absurd hdismiss not_yields_throw
    | none =>
      obtain ⟨hslot, rfl⟩ := yields_ofExcept.1 hdismiss
      refine .discarded (Threads.require_eq_ok_iff.1 hfind) ?_
      cases hempty : t.slot with
      | empty => rfl
      | holding r =>
        have habandoned : t.dismissal = .ok () := hslot
        rw [Mutator.dismissal, hempty] at habandoned
        cases habandoned
  | assign name region => exact hm.elim
  | rearrange change =>
    obtain rfl := yields_modify.1 h
    exact .rearranged change

/-- **An allocation** is not compensated for at all, or reaches a verdict after a flush. -/
theorem Policy.outcome_of_finishAllocation {name : String} {object : Address} {x : Unit}
    (h : (Arena.atThread name (p.finishAllocation object)).Yields a x c) :
    p.Outcome a (.allocate name object) reply c := by
  obtain ⟨t, s, hfind, hact, rfl⟩ := Arena.atThread_yields.1 h
  cases hreduces : p.reducesInitialMarks with
  | false =>
    rw [finishAllocation_eq, if_neg (by simp [hreduces])] at hact
    obtain ⟨-, rfl⟩ := yields_pure.1 hact
    exact .unreduced hreduces hfind
  | true =>
    obtain ⟨-, verdict, u, hjudge, hconcluded⟩ := finishAllocation_yields hreduces hact
    obtain ⟨b, s₁, hflush, hassess⟩ := yields_bind.1 hjudge
    exact .allocated hreduces hfind hflush hassess hconcluded

/-- **Every move that comes through has one of the outcomes.** -/
theorem Policy.outcome_of_yields (hm : m.LeavesSlots) (h : (p.perform m).Yields a reply c) :
    p.Outcome a m reply c := by
  cases m with
  | mark r =>
    obtain ⟨l, hl, rfl⟩ := Arena.onLedger_yields.1 (silently_yields.1 h).2
    obtain ⟨cards, hmark, rfl⟩ := mark_yields.1 hl
    exact .ordered (.mark r) (MarkCall.makeAll_singleton.2 hmark)
  | forceMark r =>
    obtain ⟨l, hl, rfl⟩ := Arena.onLedger_yields.1 (silently_yields.1 h).2
    obtain ⟨cards, hmark, rfl⟩ := forceMark_yields.1 hl
    exact .ordered (.forceMark r) (MarkCall.makeAll_singleton.2 hmark)
  | writeSpan r =>
    obtain ⟨l, hl, rfl⟩ := Arena.onLedger_yields.1 (silently_yields.1 h).2
    obtain ⟨cards, hmark, rfl⟩ := writeSpan_yields.1 hl
    exact .ordered (.writeSpan r) (MarkCall.makeAll_singleton.2 hmark)
  | writeArray start count =>
    obtain ⟨b, hwrite, rfl⟩ := Arena.onBarrier_yields.1 (silently_yields.1 h).2
    exact .of_wrote rfl (WriteBarrier.recordArray_yields hwrite).2
  | writeOnFastPath start count =>
    rw [p.perform_writeOnFastPath ()] at h
    obtain ⟨_, b', hact, hreply⟩ := yields_bind.1 h
    obtain ⟨-, rfl⟩ := yields_pure.1 hreply
    obtain ⟨b, hwrite, rfl⟩ := Arena.onBarrier_yields.1 hact
    have hwrote := FastPath.recordArray_yields hwrite rfl
    exact .of_wrote rfl hwrote
  | writeTogether batches =>
    obtain ⟨b, hwrite, rfl⟩ := Arena.onBarrier_yields.1 (silently_yields.1 h).2
    exact .of_wrote rfl (WriteBarrier.recordBatches_yields hwrite).2
  | allocate name object => exact outcome_of_finishAllocation (silently_yields.1 h).2
  | detach name =>
    obtain ⟨t, s, hfind, hact, rfl⟩ := Arena.atThread_yields.1 (silently_yields.1 h).2
    rw [detach_eq] at hact
    obtain ⟨b, s₁, hflush, hannounce⟩ := yields_bind.1 hact
    exact .flushed (.inl ⟨rfl, rfl⟩) hfind hflush (Site.untouched_announce hannounce)
  | flush name point =>
    obtain ⟨b, hact, -⟩ := yields_map.1 h
    obtain ⟨t, s, hfind, hflush, rfl⟩ := Arena.atThread_yields.1 hact
    exact .flushed (.inr rfl) hfind hflush (.refl _)
  | drain names =>
    obtain ⟨_, b, hget, hrest⟩ := yields_bind.1 h
    obtain ⟨rfl, rfl⟩ := yields_get.1 hget
    obtain ⟨n, hact, rfl⟩ := yields_map.1 hrest
    obtain ⟨ts, s, hfind, hdrain, rfl⟩ := Arena.atThreads_yields hact
    obtain ⟨bs, v, hround, rfl, hthread, hledger, hsettled⟩ := drain_yields hdrain
    refine .drained hfind hround hledger ?_ hsettled
    rw [hthread]
  | report =>
    obtain ⟨s, hreport, rfl⟩ := yields_within.1 (silently_yields.1 h).2
    obtain ⟨_, b, hget, hkeep⟩ := yields_bind.1 hreport
    obtain ⟨rfl, rfl⟩ := yields_get.1 hget
    unfold Scene.keep Scene.onJournal at hkeep
    obtain ⟨_, -, rfl⟩ := yields_within.1 hkeep
    exact .reported rfl rfl rfl
  | moveYoung _ | clear _ | reset =>
    obtain ⟨table, htable, rfl⟩ := onTable_yields.1 (silently_yields.1 h).2
    exact .collected rfl htable
  | change ch => exact outcome_of_change hm (silently_yields.1 h).2

end Move

end CardBarrier
