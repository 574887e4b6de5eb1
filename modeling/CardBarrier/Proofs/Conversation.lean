import CardBarrier.Proofs.MoveEffect

/-!
# What is said to a thread about its mark

The record of a thread may answer as it likes: whatever the barrier has told it, and whatever it
said a moment before. All that the barrier can do is not to overwrite what it was shown. That is a
rule on what it asks, says and marks, one after the other (`Memory.Allows`): a mark is taken back
only after the interval that was answered last has been marked since, and one is left only where the
last answer was that there is none.

To follow it, a place of work is given a trace of these contacts (`Traced`), which changes nothing
about the work (`Traced.coupling`). Whatever the answers are the rule is kept, even by work that
stops; and work that comes through has had one of a few conversations (`Policy.Talk`), in which at
most one interval was shown, marked once before anything else, and in the end the thread had
none.
-/

namespace CardBarrier

open Act

/-- **What passes between the barrier and a thread**, and what is marked meanwhile. -/
inductive Contact where
  /-- The thread was asked for its deferred mark, and answered. -/
  | read (answer : Option Interval)
  /-- The thread was told its deferred mark, or that there is none. -/
  | set (region : Option Interval)
  /-- An interval was given to be marked by force. -/
  | forced (r : Interval)
  /-- An interval was given to be marked on the store path. -/
  | marked (r : Interval)
  deriving DecidableEq

/-- An answer, if the contact is one. -/
def Contact.answer? : Contact → Option (Option Interval)
  | .read answer => some answer
  | _ => none

/-- **A place of work with a trace** of what passed there, oldest first. -/
structure Traced (σ : Type) where
  /-- The place. -/
  place : σ
  /-- The trace. -/
  contacts : List Contact := []

namespace Traced

variable {σ α : Type}

/-- Adds to the trace. -/
def note (c : Contact) (s : Traced σ) : Traced σ := { s with contacts := s.contacts ++ [c] }

/-- A step of which nothing is noted. -/
def onPlace (act : Act σ α) : Act (Traced σ) α :=
  Act.within place (fun place s => { s with place }) act

/-- Answers are noted as they come, and what is said or marked before it is. -/
instance [Workplace σ] : Workplace (Traced σ) where
  tick kind := onPlace (Books.tick kind)
  mark r := do
    modify (note (.marked r))
    onPlace (Books.mark r)
  forceMark r := do
    modify (note (.forced r))
    onPlace (Books.forceMark r)
  ask := do
    let answer ← onPlace Workplace.ask
    modify (note (.read answer))
    return answer
  tell region := do
    modify (note (.set region))
    onPlace (Workplace.tell region)
  isYoung a := onPlace (Workplace.isYoung a)
  isReferenceFree a := onPlace (Workplace.isReferenceFree a)
  extent a := onPlace (Workplace.extent a)
  isWhole a := onPlace (Workplace.isWhole a)
  remark d := onPlace (Workplace.remark d)
  keep e := onPlace (Workplace.keep e)

/-! ## The trace changes nothing -/

theorem couples_onPlace (act : Act σ α) :
    Couples (fun s t => s.place = t) (onPlace act : Act (Traced σ) α) act := by
  rintro s _ rfl
  exact ⟨rfl, rfl⟩

theorem couples_noted (c : Contact) (act : Act σ α) :
    Couples (fun s t => s.place = t)
      (modify (note c) >>= fun _ => onPlace act : Act (Traced σ) α) act := by
  rintro s _ rfl
  rw [run_bind]
  exact ⟨rfl, rfl⟩

/-- **Work at a place is the same with a trace and without.** -/
theorem coupling [Workplace σ] (p : Policy) :
    Workplace.Coupling p p fun (s : Traced σ) (t : σ) => s.place = t where
  reduces := rfl
  defers := rfl
  count _ := couples_ite (couples_onPlace _) (couples_pure _)
  mark r := couples_noted (.marked r) _
  forceMark r := couples_noted (.forced r) _
  ask := by
    rw [← bind_pure (Workplace.ask : Act σ _)]
    refine (couples_onPlace Workplace.ask).bind fun answer => ?_
    rintro s _ rfl
    exact ⟨rfl, rfl⟩
  tell region := couples_noted (.set region) _
  isYoung _ := couples_onPlace _
  isReferenceFree _ := couples_onPlace _
  extent _ := couples_onPlace _
  isWhole _ := couples_onPlace _
  remark _ := couples_onPlace _
  announce _ _ := couples_ite (couples_onPlace _) (couples_pure _)

end Traced

/-! ## Steps by what they add to the trace -/

namespace Act

variable {σ α β : Type} {act : Act (Traced σ) α} {next : α → Act (Traced σ) β}
  {done : α → List Contact → Prop} {done' : β → List Contact → Prop}
  {stopped stopped' : List Contact → Prop}

/-- **What a step adds to the trace**: if it comes through, as `done` says of its answer, and if it
stops, as `stopped` says. -/
def Speaks (act : Act (Traced σ) α) (done : α → List Contact → Prop)
    (stopped : List Contact → Prop) : Prop :=
  ∀ s, ∃ cs, (act.run s).2.contacts = s.contacts ++ cs ∧
    match (act.run s).1 with
    | .ok a => done a cs
    | .error _ => stopped cs

theorem speaks_pure {a : α} (h : done a []) : (pure a : Act (Traced σ) α).Speaks done stopped :=
  fun _ => ⟨[], (List.append_nil _).symm, h⟩

theorem speaks_throw {f : Fault} (h : stopped []) :
    (throw f : Act (Traced σ) α).Speaks done stopped :=
  fun _ => ⟨[], (List.append_nil _).symm, h⟩

/-- **One step after another** adds to what the first one added. -/
theorem Speaks.bind (h : act.Speaks done stopped) (hstop : ∀ cs, stopped cs → stopped' cs)
    (hnext : ∀ a cs, done a cs →
      (next a).Speaks (fun b ds => done' b (cs ++ ds)) fun ds => stopped' (cs ++ ds)) :
    (act >>= next).Speaks done' stopped' := by
  intro s
  obtain ⟨cs, hcs, hout⟩ := h s
  rw [run_bind]
  rcases hact : act.run s with ⟨f | a, t⟩
  · rw [hact] at hcs hout
    exact ⟨cs, hcs, hstop cs hout⟩
  · rw [hact] at hcs hout
    obtain ⟨ds, hds, hrest⟩ := hnext a cs hout t
    refine ⟨cs ++ ds, ?_, hrest⟩
    rw [hds]
    show t.contacts ++ ds = _
    rw [hcs, List.append_assoc]

theorem Speaks.mono {done₁ : α → List Contact → Prop} (h : act.Speaks done stopped)
    (hdone : ∀ a cs, done a cs → done₁ a cs) (hstop : ∀ cs, stopped cs → stopped' cs) :
    act.Speaks done₁ stopped' := by
  intro s
  obtain ⟨cs, hcs, hout⟩ := h s
  refine ⟨cs, hcs, ?_⟩
  revert hout
  rcases (act.run s).1 with f | a
  · exact hstop cs
  · exact hdone a cs

theorem speaks_ite {c : Prop} [Decidable c] {act' : Act (Traced σ) α}
    (h : c → act.Speaks done stopped) (h' : ¬c → act'.Speaks done stopped) :
    (if c then act else act').Speaks done stopped := by
  split
  · exact h ‹_›
  · exact h' ‹_›

/-- **A step of which nothing is noted**, and which comes through only if something is the case. -/
def Silent (act : Act (Traced σ) α) (c : Prop) : Prop :=
  act.Speaks (fun _ cs => cs = [] ∧ c) fun cs => cs = []

theorem speaks_ofExcept {x : Except Fault α} : (ofExcept x : Act (Traced σ) α).Speaks
    (fun a cs => cs = [] ∧ x = .ok a) fun cs => cs = [] := by
  intro s
  refine ⟨[], (List.append_nil _).symm, ?_⟩
  cases x with
  | error f => rfl
  | ok a => exact ⟨rfl, rfl⟩

theorem silent_onPlace (act : Act σ α) : (Traced.onPlace act).Silent True := by
  intro s
  refine ⟨[], (List.append_nil _).symm, ?_⟩
  rcases ((Traced.onPlace act).run s).1 with f | a
  · rfl
  · exact ⟨rfl, trivial⟩

/-- **What comes after a silent step** starts with the trace as it was. -/
theorem Silent.bind {c : Prop} (h : act.Silent c) (hstop : stopped' [])
    (hnext : c → ∀ a, (next a).Speaks done' stopped') : (act >>= next).Speaks done' stopped' := by
  refine Speaks.bind h ?_ ?_
  · rintro _ rfl
    exact hstop
  · rintro a _ ⟨rfl, hc⟩
    exact hnext hc a

section Steps

variable [Workplace σ] {p : Policy}

theorem speaks_ask : (Workplace.ask : Act (Traced σ) _).Speaks
    (fun answer cs => cs = [.read answer]) fun cs => cs = [] :=
  (silent_onPlace Workplace.ask).bind rfl fun _ answer _ => ⟨[.read answer], rfl, rfl⟩

omit [Workplace σ] in
theorem speaks_noted (c : Contact) (act : Act σ α) :
    (modify (Traced.note c) >>= fun _ => Traced.onPlace act).Speaks
      (fun _ cs => cs = [c]) fun cs => cs = [c] := by
  have hnoted : (modify (Traced.note c) : Act (Traced σ) PUnit).Speaks
      (fun _ cs => cs = [c]) fun _ => False := fun s => ⟨[c], rfl, rfl⟩
  refine hnoted.bind (fun _ h => h.elim) ?_
  rintro _ _ rfl
  refine (silent_onPlace act).mono ?_ ?_
  · rintro _ _ ⟨rfl, -⟩
    rfl
  · rintro _ rfl
    rfl

end Steps

end Act

/-! ## What is said to a thread -/

/-- **What is remembered of contacts**: the answer that was given last, and what has been marked by
force since. -/
structure Memory where
  /-- The answer that was given last. -/
  answer? : Option (Option Interval) := none
  /-- What has been marked by force since, latest first. -/
  forced : List Interval := []

namespace Memory

/-- What is remembered after one more contact. -/
def note (m : Memory) : Contact → Memory
  | .read answer => ⟨some answer, []⟩
  | .forced r => { m with forced := r :: m.forced }
  | _ => m

/-- What is remembered after contacts, oldest first. -/
def of (cs : List Contact) : Memory := cs.foldl note {}

/-- **The rule.** A deferred mark is taken back if the thread has just shown it, and it has been
marked since; one is left if the thread has just said that there is none. -/
def Allows (m : Memory) : Contact → Prop
  | .set none => ∃ r, m.answer? = some (some r) ∧ r ∈ m.forced
  | .set (some _) => m.answer? = some none
  | _ => True

/-- **Contacts heed the rule** one after the other. -/
def Heeds : Memory → List Contact → Prop
  | _, [] => True
  | m, c :: cs => m.Allows c ∧ (m.note c).Heeds cs

variable {m : Memory} {c : Contact} {cs ds : List Contact}

theorem heeds_append : m.Heeds (cs ++ ds) ↔ m.Heeds cs ∧ (cs.foldl note m).Heeds ds := by
  induction cs generalizing m with
  | nil => exact (and_iff_right trivial).symm
  | cons c cs ih =>
    show m.Allows c ∧ (m.note c).Heeds (cs ++ ds) ↔ _
    rw [ih, ← and_assoc]
    rfl

/-- Each contact is allowed by what is remembered of those before it. -/
theorem Heeds.allows {before later : List Contact} (h : (of []).Heeds (before ++ c :: later)) :
    (of before).Allows c :=
  (heeds_append.1 h).2.1

end Memory

namespace Policy

/-- **What a flush has said and heard** that came through: that there is no mark, or one, which was
made before it was taken back. -/
inductive FlushTalk (p : Policy) : List Contact → Prop
  | nothing : FlushTalk p [.read none]
  | flushed (r : Interval) (hdefers : p.defers = true) :
      FlushTalk p [.read (some r), .forced r, .set none, .read none]

/-- **How an allocation ends** that came through: it makes sure that there is no mark, leaves one
where there is none, or makes one. -/
inductive EndTalk (p : Policy) : List Contact → Prop
  | skipped : EndTalk p [.read none]
  | deferred (r : Interval) (hdefers : p.defers = true) : EndTalk p [.read none, .set (some r)]
  | marked (r : Interval) (hdefers : p.defers = false) : EndTalk p [.forced r]

variable {p : Policy} {cs : List Contact}

/-- A flush that came through heeds the rule and ends with the answer that there is no mark. -/
theorem FlushTalk.heeds (h : p.FlushTalk cs) :
    (Memory.of []).Heeds cs ∧ (Memory.of cs).answer? = some none := by
  cases h with
  | nothing => exact ⟨⟨trivial, trivial⟩, rfl⟩
  | flushed r _ => exact ⟨⟨trivial, trivial, ⟨r, rfl, List.mem_cons_self⟩, trivial, trivial⟩, rfl⟩

variable {σ : Type} [Workplace σ]

theorem silent_count (kind : Tally.Kind) : (p.count kind : Act (Traced σ) Unit).Silent True :=
  speaks_ite (fun _ => silent_onPlace _) fun _ => speaks_pure ⟨rfl, trivial⟩

theorem silent_announce (e : Event) : (p.announce e : Act (Traced σ) Unit).Silent True :=
  speaks_ite (fun _ => silent_onPlace _) fun _ => speaks_pure ⟨rfl, trivial⟩

/-- The checks on a deferred mark let nothing through where marks do not wait. -/
theorem silent_requireDue (r : Interval) :
    (p.requireDue r : Act (Traced σ) Unit).Silent (p.defers = true) := by
  unfold requireDue requireStillThere
  refine speaks_ite (fun hdefers => ?_) fun _ => speaks_throw rfl
  refine (silent_onPlace _).bind rfl fun _ young => ?_
  cases young with
  | true => exact speaks_throw rfl
  | false =>
    refine (silent_onPlace _).bind rfl fun _ whole => ?_
    cases whole with
    | false => exact speaks_throw rfl
    | true =>
      refine (silent_onPlace _).bind rfl fun _ extent => ?_
      exact speaks_ite (fun _ => speaks_pure ⟨rfl, hdefers⟩) fun _ => speaks_throw rfl

theorem silent_assess (object : Address) :
    (Workplace.assess object : Act (Traced σ) _).Silent True := by
  refine (silent_onPlace _).bind rfl fun _ free => ?_
  refine speaks_ite (fun _ => speaks_pure ⟨rfl, trivial⟩) fun _ => ?_
  refine (silent_onPlace _).bind rfl fun _ young => ?_
  refine speaks_ite (fun _ => speaks_pure ⟨rfl, trivial⟩) fun _ => ?_
  exact (silent_onPlace _).bind rfl fun _ r => speaks_pure ⟨rfl, trivial⟩

/-- The rule never minds a mark. -/
theorem speaks_forceMark (r : Interval) {m : Memory} :
    (p.forceMark r : Act (Traced σ) Unit).Speaks (fun _ cs => cs = [.forced r]) m.Heeds := by
  refine (silent_count _).bind trivial fun _ _ => ?_
  refine (speaks_noted (.forced r) _).mono (fun _ _ h => h) ?_
  rintro _ rfl
  exact ⟨trivial, trivial⟩

theorem silent_reportFlush (point : FlushPoint) (r : Interval) :
    (p.reportFlush point r : Act (Traced σ) Unit).Silent True :=
  (silent_count _).bind rfl fun _ _ => (silent_onPlace _).bind rfl fun _ _ => silent_announce _

/-- **A mark is taken back** where the rule allows it, and the thread must have none after. -/
theorem speaks_release {m : Memory} (h : m.Allows (.set none)) :
    (release : Act (Traced σ) Unit).Speaks (fun _ cs => cs = [.set none, .read none]) m.Heeds := by
  refine (speaks_noted (.set none) _).bind ?_ ?_
  · rintro _ rfl
    exact ⟨h, trivial⟩
  rintro _ _ rfl
  refine speaks_ask.bind ?_ ?_
  · rintro _ rfl
    exact ⟨h, trivial⟩
  rintro (_ | r) _ rfl
  · exact speaks_pure rfl
  · exact speaks_throw ⟨h, trivial, trivial⟩

/-- **A mark that was shown is made**, and then taken back. -/
theorem speaks_flushMark (point : FlushPoint) (r : Interval) :
    (p.flushMark point r : Act (Traced σ) Unit).Speaks
      (fun _ cs => p.defers = true ∧ cs = [.forced r, .set none, .read none])
      (Memory.of [.read (some r)]).Heeds := by
  refine (silent_requireDue r).bind trivial fun hdefers _ => ?_
  refine (speaks_forceMark r).bind (fun _ h => h) ?_
  rintro _ _ rfl
  have hshown : (Memory.of [.read (some r), .forced r]).Allows (.set none) :=
    ⟨r, rfl, List.mem_cons_self⟩
  refine (speaks_release hshown).bind (fun _ h => ⟨trivial, h⟩) ?_
  rintro _ _ rfl
  refine (silent_reportFlush point r).mono ?_ ?_
  · rintro _ _ ⟨rfl, -⟩
    exact ⟨hdefers, rfl⟩
  · rintro _ rfl
    exact ⟨trivial, hshown, trivial, trivial⟩

/-- **A flush has one of two conversations**, or stops on the way without having broken the
rule. -/
theorem speaks_flush (point : FlushPoint) : (p.flush point : Act (Traced σ) Bool).Speaks
    (fun _ cs => p.FlushTalk cs) (Memory.of []).Heeds := by
  rw [flush_eq]
  refine speaks_ask.bind ?_ ?_
  · rintro _ rfl
    trivial
  rintro (_ | r) _ rfl
  · exact speaks_pure .nothing
  · refine (speaks_flushMark point r).bind (fun _ h => ⟨trivial, h⟩) ?_
    rintro _ _ ⟨hdefers, rfl⟩
    exact speaks_pure (.flushed r hdefers)

/-- **So does a detachment.** -/
theorem speaks_detach : (p.detach : Act (Traced σ) Unit).Speaks
    (fun _ cs => p.FlushTalk cs) (Memory.of []).Heeds := by
  rw [detach_eq]
  refine (speaks_flush .detach).bind (fun _ h => h) fun flushed cs h => ?_
  refine (silent_announce _).mono ?_ ?_
  · rintro _ _ ⟨rfl, -⟩
    rwa [List.append_nil]
  · rintro _ rfl
    rw [List.append_nil]
    exact h.heeds.1

/-- **What is left is left where there is nothing**, and what is made is made at once. -/
theorem speaks_conclude (object : Address) (verdict : Tally.Kind ⊕ Interval) {m : Memory} :
    (p.conclude object verdict : Act (Traced σ) Unit).Speaks
      (fun _ cs => p.EndTalk cs) m.Heeds := by
  cases verdict with
  | inl kind =>
    refine (silent_count kind).bind trivial fun _ _ => speaks_ask.bind ?_ ?_
    · rintro _ rfl
      trivial
    rintro (_ | r) _ rfl
    · exact speaks_pure .skipped
    · exact speaks_throw ⟨trivial, trivial⟩
  | inr r =>
    refine speaks_ite (fun _ => speaks_throw trivial) fun _ => ?_
    refine speaks_ite (fun hdefers => ?_) fun hdefers => ?_
    · refine speaks_ask.bind ?_ ?_
      · rintro _ rfl
        trivial
      rintro answer _ rfl
      refine speaks_ofExcept.bind ?_ ?_
      · rintro _ rfl
        exact ⟨trivial, trivial⟩
      rintro slot _ ⟨rfl, hput⟩
      -- only an answer that there is no mark lets one be left
      cases answer with
      | some old => cases hput
      | none =>
        cases hput
        refine (speaks_noted (.set (some r)) _).bind ?_ ?_
        · rintro _ rfl
          exact ⟨trivial, rfl, trivial⟩
        rintro _ _ rfl
        refine (silent_count _).bind ⟨trivial, rfl, trivial⟩ fun _ _ => ?_
        refine (silent_onPlace _).mono ?_ ?_
        · rintro _ _ ⟨rfl, -⟩
          exact .deferred r hdefers
        · rintro _ rfl
          exact ⟨trivial, rfl, trivial⟩
    · refine (speaks_forceMark r).bind (fun _ h => h) ?_
      rintro _ _ rfl
      refine (silent_count _).mono ?_ ?_
      · rintro _ _ ⟨rfl, -⟩
        exact .marked r (Bool.eq_false_iff.2 hdefers)
      · rintro _ rfl
        exact ⟨trivial, trivial⟩

/-- **An allocation flushes and then ends in one of three ways**, or stops on the way without having
broken the rule. -/
theorem speaks_finishAllocation (hreduces : p.reducesInitialMarks = true) (object : Address) :
    (p.finishAllocation object : Act (Traced σ) Unit).Speaks
      (fun _ cs => ∃ before last, cs = before ++ last ∧ p.FlushTalk before ∧ p.EndTalk last)
      (Memory.of []).Heeds := by
  have hobject : (requireObject object : Act (Traced σ) Unit).Silent True :=
    speaks_ite (fun _ => speaks_throw rfl) fun _ => speaks_pure ⟨rfl, trivial⟩
  have hjudge : (p.judge object : Act (Traced σ) _).Speaks
      (fun _ cs => p.FlushTalk cs) (Memory.of []).Heeds := by
    refine (speaks_flush .allocation).bind (fun _ h => h) fun _ cs h => ?_
    refine (silent_assess object).mono ?_ ?_
    · rintro _ _ ⟨rfl, -⟩
      rwa [List.append_nil]
    · rintro _ rfl
      rw [List.append_nil]
      exact h.heeds.1
  rw [finishAllocation_eq, if_pos hreduces]
  refine hobject.bind trivial fun _ _ => hjudge.bind (fun _ h => h) fun verdict cs h => ?_
  have hstop : ∀ ds, (Memory.of cs).Heeds ds → (Memory.of []).Heeds (cs ++ ds) :=
    fun ds hds => Memory.heeds_append.2 ⟨h.heeds.1, hds⟩
  exact (speaks_conclude object verdict).mono (fun _ ds hds => ⟨cs, ds, rfl, h, hds⟩) hstop

end Policy

/-! ## The rule is kept -/

/-- **What a thread does with its deferred mark.** -/
inductive Errand where
  /-- It is flushed. -/
  | flush (point : FlushPoint)
  /-- The thread detaches. -/
  | detach
  /-- The thread has allocated an object on the slow path. -/
  | allocate (object : Address)

namespace Policy

/-- Does an errand. -/
def errand {σ : Type} [Workplace σ] (p : Policy) : Errand → Act σ Unit
  | .flush point => do
    let _ ← p.flush point
  | .detach => p.detach
  | .allocate object => p.finishAllocation object

/-- **The conversations of an errand** that came through. -/
def Talk (p : Policy) : Errand → List Contact → Prop
  | .flush _, cs | .detach, cs => p.FlushTalk cs
  | .allocate _, cs => ∃ before last, cs = before ++ last ∧ p.FlushTalk before ∧ p.EndTalk last

/-- **No mark is left of what the thread showed.** -/
structure LeavesNothing (cs : List Contact) : Prop where
  /-- The last answer is that there is no mark. -/
  last : (cs.filterMap Contact.answer?).getLast? = some none
  /-- At most one interval is shown. -/
  once : (cs.filterMap Contact.answer?).countP Option.isSome ≤ 1
  /-- It is marked by force once, and that is before anything is said or made. -/
  marked (r : Interval) (h : .read (some r) ∈ cs) : cs.count (.forced r) = 1 ∧
    ∃ later, cs = .read (some r) :: .forced r :: .set none :: .read none :: later

/-- **What an errand may do** that ends as given. -/
structure HeedsAnswers (p : Policy) (e : Errand) (outcome : Except Fault Unit) (cs : List Contact) :
    Prop where
  /-- All that is said is allowed by what was answered and marked before. -/
  allowed (before : List Contact) (c : Contact) (later : List Contact)
    (h : cs = before ++ c :: later) : (Memory.of before).Allows c
  /-- An errand that comes through has one of its conversations. -/
  talk (h : outcome = .ok ()) : p.Talk e cs
  /-- And leaves the thread with nothing that it showed. -/
  leavesNothing (h : outcome = .ok ()) : LeavesNothing cs

variable {p : Policy} {e : Errand} {cs : List Contact}

theorem EndTalk.heeds {m : Memory} (h : p.EndTalk cs) : m.Heeds cs := by
  cases h with
  | skipped => exact ⟨trivial, trivial⟩
  | deferred r _ => exact ⟨trivial, rfl, trivial⟩
  | marked r _ => exact ⟨trivial, trivial⟩

theorem Talk.heeds (h : p.Talk e cs) : (Memory.of []).Heeds cs := by
  cases e with
  | flush point | detach => exact FlushTalk.heeds h |>.1
  | allocate object =>
    obtain ⟨before, last, rfl, hbefore, hlast⟩ := h
    exact Memory.heeds_append.2 ⟨hbefore.heeds.1, hlast.heeds⟩

/-- How an allocation ends shows no mark. -/
theorem EndTalk.answers (h : p.EndTalk cs) :
    ∀ answer ∈ cs.filterMap Contact.answer?, answer = none := by
  cases h <;> simp [Contact.answer?]

/-- Where marks wait none is made at the end of an allocation. -/
theorem EndTalk.not_forced (hdefers : p.defers = true) (h : p.EndTalk cs) (r : Interval) :
    .forced r ∉ cs := by
  cases h with
  | skipped | deferred => simp
  | marked _ hatOnce =>
    rw [hdefers] at hatOnce
    cases hatOnce

/-! Contacts in which no mark is shown. -/

section Answers

variable {ds : List Contact} (h : ∀ answer ∈ ds.filterMap Contact.answer?, answer = none)
include h

theorem getLast?_answers : (none :: ds.filterMap Contact.answer?).getLast? = some none := by
  rw [List.eq_replicate_of_mem h, ← List.replicate_succ, List.getLast?_replicate]
  rfl

theorem countP_answers : (ds.filterMap Contact.answer?).countP Option.isSome = 0 := by
  refine List.countP_eq_zero.2 fun answer hanswer => ?_
  rw [h answer hanswer]
  exact Bool.false_ne_true

theorem not_shown (r : Interval) : .read (some r) ∉ ds := fun hr =>
  Option.some_ne_none r (h (some r) (List.mem_filterMap.2 ⟨_, hr, rfl⟩))

theorem leavesNothing_of_answers : LeavesNothing (.read none :: ds) where
  last := getLast?_answers h
  once := by
    show (none :: ds.filterMap Contact.answer?).countP Option.isSome ≤ 1
    rw [List.countP_cons_of_neg Bool.false_ne_true, countP_answers h]
    exact Nat.zero_le 1
  marked r hr := by
    obtain hr | hr := List.mem_cons.1 hr
    · cases hr
    · exact absurd hr (not_shown h r)

theorem leavesNothing_of_flushed {r : Interval} (hforced : ∀ r, .forced r ∉ ds) :
    LeavesNothing (.read (some r) :: .forced r :: .set none :: .read none :: ds) where
  last := by
    show (some r :: none :: ds.filterMap Contact.answer?).getLast? = some none
    rw [List.getLast?_cons_cons, getLast?_answers h]
  once := by
    have hcount :
        (some r :: none :: ds.filterMap Contact.answer?).countP Option.isSome = 0 + 1 := by
      rw [List.countP_cons_of_pos rfl, List.countP_cons_of_neg Bool.false_ne_true,
        countP_answers h]
    exact Nat.le_of_eq hcount
  marked r' hr' := by
    obtain rfl : r' = r := by
      simpa [not_shown h] using hr'
    refine ⟨?_, ds, rfl⟩
    simp [List.count_eq_zero.2 (hforced r')]

end Answers

/-- **A conversation in which a mark is shown** shows no other, and the mark is made first. -/
theorem Talk.leavesNothing (h : p.Talk e cs) : LeavesNothing cs := by
  have hflush : ∀ cs, p.FlushTalk cs → LeavesNothing cs := by
    intro cs hcs
    cases hcs with
    | nothing => exact leavesNothing_of_answers (by simp)
    | flushed r _ => exact leavesNothing_of_flushed (by simp) (by simp)
  cases e with
  | flush point | detach => exact hflush cs h
  | allocate object =>
    obtain ⟨_, last, rfl, hbefore, hlast⟩ := h
    cases hbefore with
    | nothing => exact leavesNothing_of_answers hlast.answers
    | flushed r hdefers => exact leavesNothing_of_flushed hlast.answers (hlast.not_forced hdefers)

/-- **Every errand has one of its conversations**, or stops on the way without having broken the
rule. -/
theorem speaks_errand {σ : Type} [Workplace σ] (hreduces : p.reducesInitialMarks = true)
    (e : Errand) :
    (p.errand e : Act (Traced σ) Unit).Speaks (fun _ cs => p.Talk e cs) (Memory.of []).Heeds := by
  cases e with
  | flush point =>
    refine (speaks_flush point).bind (fun _ h => h) fun _ cs h => speaks_pure ?_
    rwa [List.append_nil]
  | detach => exact speaks_detach
  | allocate object => exact speaks_finishAllocation hreduces object

/-- **Nothing that a thread shows is overwritten**, whatever it answers. -/
theorem errand_heeds_answers {σ : Type} [Workplace σ] (hreduces : p.reducesInitialMarks = true)
    (e : Errand) (s : σ) :
    ((p.errand e).run (⟨s, []⟩ : Traced σ)).1 = ((p.errand e).run s).1 ∧
      ((p.errand e).run (⟨s, []⟩ : Traced σ)).2.place = ((p.errand e).run s).2 ∧
      p.HeedsAnswers e ((p.errand e).run s).1
        ((p.errand e).run (⟨s, []⟩ : Traced σ)).2.contacts := by
  have hsame : Couples (fun (s : Traced σ) (t : σ) => s.place = t) (p.errand e) (p.errand e) := by
    cases e with
    | flush point => exact ((Traced.coupling p).flush point).bind fun _ => couples_pure _
    | detach => exact (Traced.coupling p).detach
    | allocate object => exact (Traced.coupling p).finishAllocation object
  -- the trace is followed along the traced run, which the coupling says is the run itself
  obtain ⟨houtcome, hplace⟩ := hsame ⟨s, []⟩ s rfl
  obtain ⟨cs, hcs, hspoken⟩ := speaks_errand hreduces e (⟨s, []⟩ : Traced σ)
  refine ⟨houtcome, hplace, ?_⟩
  rw [hcs, List.nil_append, ← houtcome]
  revert hspoken
  rcases ((p.errand e).run (⟨s, []⟩ : Traced σ)).1 with f | _
  · intro hstopped
    refine ⟨fun before c later hsplit => ?_, nofun, nofun⟩
    exact Memory.Heeds.allows (hsplit ▸ hstopped)
  · intro (htalk : p.Talk e cs)
    refine ⟨fun before c later hsplit => ?_, fun _ => htalk, fun _ => htalk.leavesNothing⟩
    exact Memory.Heeds.allows (hsplit ▸ htalk.heeds)

end Policy

namespace SmallHeap

/-- A record that shows the mark over the object at first, and none from then on. -/
def showing : Site CardTable Objects Replay :=
  ⟨start.scene, { answers := [some objectExtent, none] }⟩

/-- What it showed is marked and taken back before the next mark is left with it. -/
theorem heedsAnswers_showing : (policy true).HeedsAnswers (.allocate 512)
    (((policy true).errand (.allocate 512)).run showing).1
    [.read (some objectExtent), .forced objectExtent, .set none, .read none, .read none,
      .set (some objectExtent)] :=
  (Policy.errand_heeds_answers rfl (.allocate 512) showing).2.2

end SmallHeap

end CardBarrier
