import CardBarrier.Proofs.Meeting
import CardBarrier.Proofs.Outcome

/-!
# What a move does to a card table

Over a card table the two ways of marking are one, and what comes of a move can be said of its
cards. `Policy.Effect` says it, once and for all moves: intervals are marked as they stand
(`Policy.marking`), an allocation reaches a verdict and acts on it, a slot is flushed or several
are (`Policy.Drained`), the collector clears, or something happens around the barrier. What holds
of the cards along every run of moves is proved from this, case by case, and the program of a
move is not looked at again.

Two kinds of move are left aside (`Move.IsOrderly`): writes of several threads at once, which
are so many single writes, and the setting of a slot from outside.
-/

namespace CardBarrier

open Act

/-- A move of one thread, the collector or the runtime, which does not meddle with slots. -/
def Move.IsOrderly {ω τ : Type} : Move ω τ → Prop
  | .writeTogether _ | .change (.assign _ _) => False
  | _ => True

/-- **What a move marks as it stands**, if it is a mark or a write, and as what it counts. -/
def Policy.marking {ω τ : Type} (p : Policy) :
    Move ω τ → Option (Except Fault Interval × List Tally.Kind)
  | .mark r => some (.ok r, [.mark])
  | .forceMark r => some (.ok r, [.forcedMark])
  | .writeSpan r => some (.ok r, [.write, .mark])
  | .writeArray start count | .writeOnFastPath start count =>
    some (p.layout.arraySpan start count, [.write, .mark])
  | _ => none

/-- **What draining threads does to marks and counters**, one thread after the other. -/
inductive Policy.Drained (p : Policy) :
    List Mutator → Ledger CardTable → Ledger CardTable → Prop
  | nil {l : Ledger CardTable} : Drained p [] l l
  | nothing {t : Mutator} {ts : List Mutator} {l m : Ledger CardTable} (hslot : t.slot = .empty)
      (h : Drained p ts l m) : Drained p (t :: ts) l m
  | mark {t : Mutator} {ts : List Mutator} {l m : Ledger CardTable} {r : Interval}
      {cards : CardTable} (hslot : t.slot = .holding r) (hmark : l.cards.mark r = .ok cards)
      (h : Drained p ts ⟨cards, p.tallied [.forcedMark, .flushed] l.tally⟩ m) :
      Drained p (t :: ts) l m

/-- A round of flushes counts forced marks and flushes. -/
theorem Policy.Drained.get_eq {p : Policy} {k : Tally.Kind} {ts : List Mutator}
    {l m : Ledger CardTable} (h : p.Drained ts l m)
    (hk : k ∉ [Tally.Kind.forcedMark, .flushed]) : m.tally.get k = l.tally.get k := by
  induction h with
  | nil => rfl
  | nothing _ _ ih => exact ih
  | mark _ _ _ ih => exact ih.trans (get_tallied_of_not_mem hk)

variable {ω : Type} [HeapView ω]

/-- **What a move does** that comes through. -/
inductive Policy.Effect (p : Policy) (a : Arena CardTable ω Mutator) :
    Move ω Mutator → Arena CardTable ω Mutator → Prop
  | marked {m : Move ω Mutator} {r : Interval} {kinds : List Tally.Kind} {cards : CardTable}
      (hm : p.marking m = some (.ok r, kinds)) (hmark : a.scene.ledger.cards.mark r = .ok cards) :
      Effect p a m (a.withLedger ⟨cards, p.tallied kinds a.scene.ledger.tally⟩)
  | unreduced {name : String} {object : Address} {t : Mutator}
      (hreduces : p.reducesInitialMarks = false) (hfind : a.threads.find? name = some t) :
      Effect p a (.allocate name object) ⟨a.scene, a.threads.insert name t⟩
  | allocated {name : String} {object : Address} {t : Mutator} {b : Bool}
      {verdict : Tally.Kind ⊕ Interval} {s u v : Site CardTable ω Mutator}
      (hreduces : p.reducesInitialMarks = true) (hfind : a.threads.find? name = some t)
      (hflush : (p.flush .allocation).Yields ⟨a.scene, t⟩ b s)
      (hassess : (Workplace.assess object).Yields s verdict u)
      (hconcluded : Concluded p u v verdict) :
      Effect p a (.allocate name object) ⟨v.scene, a.threads.insert name v.thread⟩
  | flushed {m : Move ω Mutator} {name : String} {t : Mutator} {b : Bool}
      {s u : Site CardTable ω Mutator} (hm : m = .detach name ∨ ∃ point, m = .flush name point)
      (hfind : a.threads.find? name = some t) (hflushed : Flushed p ⟨a.scene, t⟩ b s)
      (hs : s.Untouched u) : Effect p a m ⟨u.scene, a.threads.insert name u.thread⟩
  | drained {names : Option (List String)} {ts : List Mutator} {l : Ledger CardTable}
      {c : Arena CardTable ω Mutator}
      (hfind : (names.getD a.threads.names).map a.threads.find? = ts.map some)
      (hdrained : p.Drained ts a.scene.ledger l)
      (hledger : c.scene.ledger = ⟨l.cards, p.tallied [.drain] l.tally⟩)
      (hthreads : c.threads
        = a.threads.insertAll ((names.getD a.threads.names).zip (ts.map Mutator.emptied)))
      (hsettled : a.scene.Settled c.scene) : Effect p a (.drain names) c
  | reported {c : Arena CardTable ω Mutator} (hledger : c.scene.ledger = a.scene.ledger)
      (hheap : c.scene.heap = a.scene.heap) (hthreads : c.threads = a.threads) :
      Effect p a .report c
  | agreed (young : Interval) : Effect p a (.moveYoung young)
      (a.withLedger ⟨a.scene.ledger.cards.withYoung young, a.scene.ledger.tally⟩)
  | cleared {r : Interval} {cards : CardTable} (hclear : a.scene.ledger.cards.clear r = .ok cards) :
      Effect p a (.clear r) (a.withLedger ⟨cards, a.scene.ledger.tally⟩)
  | reset : Effect p a .reset (a.withLedger ⟨a.scene.ledger.cards.reset, a.scene.ledger.tally⟩)
  | attached {name : String} {t : Mutator} {c : Arena CardTable ω Mutator}
      (hledger : c.scene.ledger = a.scene.ledger) (hheap : c.scene.heap = a.scene.heap)
      (hthreads : c.threads = a.threads.insert name t) :
      Effect p a (.change (.attach name t)) c
  | discarded {name : String} {t : Mutator} (hfind : a.threads.find? name = some t)
      (hslot : t.slot = .empty) :
      Effect p a (.change (.discard name none)) ⟨a.scene, a.threads.erase name⟩
  | rearranged (change : ω → ω) : Effect p a (.change (.rearrange change))
      ⟨{ a.scene with heap := change a.scene.heap }, a.threads⟩

/-! ## Marks and writes -/

theorem CardTable.mark_yields {t u : CardTable} {r : Interval} {x : Unit} :
    (RememberedSet.mark r : Act CardTable Unit).Yields t x u ↔ t.mark r = .ok u := yields_update

theorem CardTable.forceMark_yields {t u : CardTable} {r : Interval} {x : Unit} :
    (RememberedSet.forceMark r : Act CardTable Unit).Yields t x u ↔ t.mark r = .ok u :=
  yields_update

variable {p : Policy} {a c : Arena CardTable ω Mutator} {m : Move ω Mutator} {reply : Reply}

omit [HeapView ω] in
/-- An orderly move leaves slots alone. -/
theorem Move.IsOrderly.leavesSlots {τ : Type} {m : Move ω τ} (h : m.IsOrderly) :
    m.LeavesSlots := by
  cases m with
  | change ch => cases ch <;> exact h
  | _ => trivial

omit [HeapView ω] in
/-- **What an orderly mark or write asks for** is the one interval that it marks. -/
theorem Policy.Orders.marking {calls : List MarkCall} {kinds : List Tally.Kind}
    (hm : m.IsOrderly) (h : p.Orders m calls kinds) :
    ∃ r, p.marking m = some (.ok r, kinds) ∧ (calls = [.mark r] ∨ calls = [.forceMark r]) := by
  have hsingle : ∀ {start count} {rs : List Interval},
      p.spans [(start, count)] = rs.map .ok → ∃ r, p.layout.arraySpan start count = .ok r ∧
        rs = [r] := by
    intro start count rs hspans
    obtain ⟨r, rfl, hr⟩ := List.map_eq_singleton_iff.1 hspans.symm
    exact ⟨r, hr.symm, rfl⟩
  cases h with
  | mark r | writeSpan r => exact ⟨r, rfl, .inl rfl⟩
  | forceMark r => exact ⟨r, rfl, .inr rfl⟩
  | writes hwrites hspans =>
    cases m with
    | writeArray start count | writeOnFastPath start count =>
      cases hwrites
      obtain ⟨r, hr, rfl⟩ := hsingle hspans
      exact ⟨r, congrArg (fun span => some (span, [Tally.Kind.write, .mark])) hr, .inl rfl⟩
    | writeTogether batches => exact hm.elim
    | _ => cases hwrites

/-! ## Draining -/

/-- **A round of flushes** marks what was pending. -/
theorem Policy.Round.drained {ts : List Mutator} {bs : List Bool} {s v : Scene CardTable ω}
    (h : p.Round ts s bs v) : p.Drained ts s.ledger v.ledger := by
  induction h with
  | nil => exact .nil
  | cons hflush _ ih =>
    cases flushed_of_yields hflush with
    | nothing hslot => exact .nothing hslot ih
    | mark hslot _ hmark hledger _ _ =>
      refine .mark hslot (CardTable.forceMark_yields.1 hmark) ?_
      rw [← hledger]
      exact ih

/-! ## Every move -/

/-- **Every move that comes through has one of the effects.** -/
theorem Policy.effect_of_yields (hm : m.IsOrderly) (h : (p.perform m).Yields a reply c) :
    p.Effect a m c := by
  cases outcome_of_yields hm.leavesSlots h with
  | ordered horders hmade =>
    obtain ⟨r, hmarking, rfl | rfl⟩ := horders.marking hm
    · exact .marked hmarking (CardTable.mark_yields.1 (MarkCall.makeAll_singleton.1 hmade))
    · exact .marked hmarking (CardTable.forceMark_yields.1 (MarkCall.makeAll_singleton.1 hmade))
  | unreduced hreduces hfind => exact .unreduced hreduces hfind
  | allocated hreduces hfind hflush hassess hconcluded =>
    exact .allocated hreduces hfind hflush hassess hconcluded
  | flushed hm hfind hflush hs =>
    exact .flushed (hm.imp And.left fun hm => ⟨_, hm⟩) hfind (flushed_of_yields hflush) hs
  | drained hfind hround hledger hthreads hsettled =>
    exact .drained hfind hround.drained hledger hthreads (hround.settled.trans hsettled)
  | reported hledger hheap hthreads => exact .reported hledger hheap hthreads
  | collected hcollects htable =>
    cases m with
    | moveYoung young | reset =>
      cases hcollects
      cases htable
      constructor
    | clear r =>
      cases hcollects
      exact .cleared htable
    | _ => cases hcollects
  | attached hledger hheap hthreads => exact .attached hledger hheap hthreads
  | discarded hfind hslot => exact .discarded hfind hslot
  | rearranged change => exact .rearranged change

/-- **The effect of an allocation that is compensated for** is the one made for it. -/
theorem Policy.Effect.of_allocate {name : String} {object : Address}
    (hreduces : p.reducesInitialMarks = true) (h : p.Effect a (.allocate name object) c) :
    ∃ t b verdict, ∃ s u v : Site CardTable ω Mutator, a.threads.find? name = some t ∧
      (p.flush .allocation).Yields ⟨a.scene, t⟩ b s ∧
      (Workplace.assess object).Yields s verdict u ∧ Concluded p u v verdict ∧
      c = ⟨v.scene, a.threads.insert name v.thread⟩ := by
  cases h with
  | marked hm _ => cases hm
  | unreduced hnot _ =>
    rw [hreduces] at hnot
    cases hnot
  | flushed hm _ _ _ => obtain hm | ⟨_, hm⟩ := hm <;> cases hm
  | @allocated _ _ t b verdict s u v _ hfind hflush hassess hconcluded =>
    exact ⟨t, b, verdict, s, u, v, hfind, hflush, hassess, hconcluded, rfl⟩

/-! ## What moves leave alone

How the heap is divided never changes, and where young objects are and what the objects are
changes only by the move that is made for it. -/

/-- The table stands for the same heap, with the same young objects. -/
structure CardTable.Like (t u : CardTable) : Prop where
  geometry : u.geometry = t.geometry
  young : u.young = t.young

theorem CardTable.Like.refl (t : CardTable) : t.Like t := ⟨rfl, rfl⟩

theorem CardTable.Like.trans {t u v : CardTable} (h : t.Like u) (h' : u.Like v) : t.Like v :=
  ⟨h'.geometry.trans h.geometry, h'.young.trans h.young⟩

section Like

variable {s t : Site CardTable ω Mutator} {b : Bool}

omit [HeapView ω] in
theorem CardTable.like_mark {t u : CardTable} {r : Interval} (h : t.mark r = .ok u) : t.Like u :=
  ⟨(put_frame h).1, (put_frame h).2.2⟩

theorem Flushed.like (h : Flushed p s b t) :
    s.scene.ledger.cards.Like t.scene.ledger.cards := by
  cases h with
  | nothing _ => exact .refl _
  | mark _ _ hmark hledger _ _ =>
    rw [hledger]
    exact CardTable.like_mark (CardTable.forceMark_yields.1 hmark)

theorem Concluded.like {verdict : Tally.Kind ⊕ Interval} (h : Concluded p s t verdict) :
    s.scene.ledger.cards.Like t.scene.ledger.cards := by
  cases h with
  | skipped hledger _ _ | deferred _ hledger _ _ =>
    rw [hledger]
    exact .refl _
  | marked _ hmark hledger _ _ =>
    rw [hledger]
    exact CardTable.like_mark (CardTable.forceMark_yields.1 hmark)

omit [HeapView ω] in
theorem Policy.Drained.like {ts : List Mutator} {l m : Ledger CardTable}
    (h : p.Drained ts l m) : l.cards.Like m.cards := by
  induction h with
  | nil => exact .refl _
  | nothing _ _ ih => exact ih
  | mark _ hmark _ ih => exact (CardTable.like_mark hmark).trans ih

end Like

/-- **The young range after a move**, given the one before. -/
def Move.youngAfter {ω : Type} (young : Interval) : Move ω Mutator → Interval
  | .moveYoung young => young
  | _ => young

/-- The objects after a move, given those before. -/
def Move.heapAfter {ω : Type} (heap : ω) : Move ω Mutator → ω
  | .change (.rearrange f) => f heap
  | _ => heap

/-- **No move changes how the heap is divided**, and only the collector says where the young
objects are. -/
theorem Policy.Effect.like (h : p.Effect a m c) :
    (a.scene.ledger.cards.withYoung (m.youngAfter a.scene.ledger.cards.young)).Like
      c.scene.ledger.cards := by
  cases h with
  | marked hm hmark =>
    have hlike := CardTable.like_mark hmark
    cases m <;> first | exact ⟨hlike.geometry, hlike.young⟩ | cases hm
  | unreduced _ _ => exact ⟨rfl, rfl⟩
  | allocated _ _ hflush hassess hconcluded =>
    have hlike := (flushed_of_yields hflush).like
    rw [← (Workplace.untouched_assess hassess).ledger] at hlike
    exact ⟨(hlike.trans hconcluded.like).geometry, (hlike.trans hconcluded.like).young⟩
  | flushed hm _ hflushed hs =>
    have hlike := hflushed.like
    rw [← hs.ledger] at hlike
    obtain rfl | ⟨_, rfl⟩ := hm <;> exact ⟨hlike.geometry, hlike.young⟩
  | drained _ hdrained hledger _ _ =>
    rw [hledger]
    exact ⟨hdrained.like.geometry, hdrained.like.young⟩
  | reported hledger _ _ | attached hledger _ _ =>
    rw [hledger]
    exact ⟨rfl, rfl⟩
  | cleared hclear =>
    obtain ⟨hgeometry, -, hyoung⟩ := CardTable.put_frame hclear
    exact ⟨hgeometry, hyoung⟩
  | agreed _ | reset | discarded _ _ | rearranged _ => exact ⟨rfl, rfl⟩

theorem Policy.Effect.geometry (h : p.Effect a m c) :
    c.scene.ledger.cards.geometry = a.scene.ledger.cards.geometry := h.like.geometry

/-- **Objects change only as the runtime rearranges them**, if asking does not change them. -/
theorem Policy.Effect.heap_eq (hsteady : HeapView.Steady a.scene.heap) (h : p.Effect a m c) :
    c.scene.heap = m.heapAfter a.scene.heap := by
  cases h with
  | marked hm _ =>
    cases m <;> first | rfl | cases hm
  | allocated _ _ hflush hassess hconcluded =>
    have hflushed := (flushed_of_yields hflush).settled
    have hassessed := (Workplace.untouched_assess hassess).settled
    exact ((hflushed.trans hassessed).trans hconcluded.settled) hsteady
  | flushed hm _ hflushed hs =>
    obtain rfl | ⟨_, rfl⟩ := hm <;> exact (hflushed.settled.trans hs.settled) hsteady
  | drained _ _ _ _ hsettled => exact hsettled hsteady
  | reported _ hheap _ | attached _ hheap _ => exact hheap
  | unreduced _ _ | agreed _ | cleared _ | reset | discarded _ _ | rearranged _ => rfl

/-! ## A small heap

Two cards, and one object in the second of them, on which the results about runs are tried. -/

namespace SmallHeap

/-- Two cards of 512 bytes. -/
def geometry : Geometry := ⟨⟨0, 1024, by decide⟩, 9, by decide, by decide, by decide⟩

/-- The extent of the object. -/
def objectExtent : Interval := ⟨512, 544, by decide⟩

/-- Allocations are compensated for, and whether marks wait is left open. -/
def policy (defers : Bool) : Policy := ⟨.compressed, true, defers, false, true, false⟩

/-- The object is in the second card, and no thread is there yet. -/
def start : Arena CardTable Objects Mutator :=
  ⟨⟨{ cards := .ofGeometry geometry .stopTheWorld },
    ⟨[{ address := 512, words := 4 }]⟩, {}⟩, {}⟩

end SmallHeap

end CardBarrier
