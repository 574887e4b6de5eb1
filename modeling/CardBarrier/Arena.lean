import CardBarrier.Barrier
import CardBarrier.Policy.Allocation

/-!
# Threads at work with a barrier

An `Arena` is a scene with named threads on it. What the threads, the collector
and the runtime ask of the barrier there is a `Move`, and `Policy.perform` is
what a move does; what happens there without the barrier – a thread attaches, an
object is moved – is a `Change`. Threads are kept in the order of their names,
which is the order in which they are drained when no other is given.

A move or a change that speaks of a thread that is not there is a mistake of
whoever asked for it, and does nothing.
-/

namespace CardBarrier

/-- **Threads by name**, in the order of names. -/
structure Threads (τ : Type) where
  /-- Names and threads. -/
  entries : List (String × τ) := []

namespace Threads

variable {τ : Type}

/-- The thread of a name. -/
def find? (ts : Threads τ) (name : String) : Option τ := ts.entries.lookup name

/-- The thread of a name, which must be there. -/
def require (ts : Threads τ) (name : String) : Except Fault τ :=
  match ts.find? name with
  | some t => .ok t
  | none => .error (.foreign s!"no thread named {name}")

/-- Puts a thread at the place of its name in a list that is in order. -/
def insertEntry (name : String) (t : τ) : List (String × τ) → List (String × τ)
  | [] => [(name, t)]
  | (other, u) :: rest =>
    if name < other then (name, t) :: (other, u) :: rest
    else if name = other then (name, t) :: rest
    else (other, u) :: insertEntry name t rest

/-- Puts a thread in the place of any other of its name. -/
def insert (ts : Threads τ) (name : String) (t : τ) : Threads τ :=
  ⟨insertEntry name t ts.entries⟩

/-- Forgets the thread of a name. -/
def erase (ts : Threads τ) (name : String) : Threads τ :=
  ⟨ts.entries.filter (·.1 != name)⟩

/-- The names of all threads. -/
def names (ts : Threads τ) : List String := ts.entries.map Prod.fst

/-- Puts threads in the places of their names. -/
def insertAll (ts : Threads τ) (named : List (String × τ)) : Threads τ :=
  named.foldl (fun ts (name, t) => ts.insert name t) ts

end Threads

/-- **A scene and the threads on it.** -/
structure Arena (κ ω τ : Type) where
  /-- What the threads share. -/
  scene : Scene κ ω
  /-- The threads. -/
  threads : Threads τ := {}

namespace Arena

variable {κ ω τ α : Type}

/-- A step on what the threads share. -/
def onScene (act : Act (Scene κ ω) α) : Act (Arena κ ω τ) α :=
  Act.within scene (fun scene a => { a with scene }) act

/-- A step on marks and counters. -/
def onLedger (act : Act (Ledger κ) α) : Act (Arena κ ω τ) α := onScene (Scene.onLedger act)

/-- **A step of one thread.** -/
def atThread (name : String) (act : Act (Site κ ω τ) α) : Act (Arena κ ω τ) α := do
  let a ← get
  let thread ← Act.ofExcept (a.threads.require name)
  Act.within (fun a => ⟨a.scene, thread⟩)
    (fun site a => { scene := site.scene, threads := a.threads.insert name site.thread }) act

/-- **A step of several threads**, in the order given. -/
def atThreads (names : List String) (act : Act (Site κ ω (List τ)) α) :
    Act (Arena κ ω τ) α := do
  let a ← get
  let threads ← Act.ofExcept (names.mapM a.threads.require)
  Act.within (fun a => ⟨a.scene, threads⟩)
    (fun site a =>
      { scene := site.scene, threads := a.threads.insertAll (names.zip site.thread) }) act

/-- A step on the barrier of a policy. -/
def onBarrier (p : Policy) (act : Act (Barrier κ) α) : Act (Arena κ ω τ) α :=
  onLedger (Act.within (fun ledger => ⟨p, ledger⟩) (fun b _ => b.ledger) act)

end Arena

/-- **What happens around a barrier**: threads come and go, and objects
change. -/
inductive Change (ω τ : Type) where
  /-- A thread attaches. -/
  | attach (name : String) (thread : τ)
  /-- The record of a thread is thrown away, maybe while another fault is
  being dealt with. -/
  | discard (name : String) (underway : Option Fault)
  /-- The deferred mark of a thread is set from outside. -/
  | assign (name : String) (region : Option Interval)
  /-- The objects change. -/
  | rearrange (change : ω → ω)

/-- **What may be asked of a barrier**, by its threads, the collector or the
runtime, and what may happen in between. -/
inductive Move (ω τ : Type) where
  /-- An interval was written on the store path. -/
  | mark (r : Interval)
  /-- An interval is to be marked by force. -/
  | forceMark (r : Interval)
  /-- An array write with that span. -/
  | writeSpan (r : Interval)
  /-- A write of so many references from there on. -/
  | writeArray (start : Address) (count : UInt64)
  /-- The same by a fast path made for it. -/
  | writeOnFastPath (start : Address) (count : UInt64)
  /-- Writes of threads at the same time, a list for each. -/
  | writeTogether (batches : List (List (Address × UInt64)))
  /-- A thread's allocation leaves the slow path with an object. -/
  | allocate (name : String) (object : Address)
  /-- A thread detaches. -/
  | detach (name : String)
  /-- The deferred mark of a thread is flushed. -/
  | flush (name : String) (point : FlushPoint)
  /-- Threads are drained, in the order given or all of them. -/
  | drain (names : Option (List String))
  /-- The counters are reported. -/
  | report
  /-- The collector says where young objects are. -/
  | moveYoung (young : Interval)
  /-- The collector clears the cards of an interval. -/
  | clear (r : Interval)
  /-- The collector clears every card. -/
  | reset
  /-- Something happens around the barrier. -/
  | change (c : Change ω τ)

/-- **What a move answers.** -/
inductive Reply where
  /-- It was done. -/
  | done
  /-- A yes or no. -/
  | flag (b : Bool)
  /-- A number. -/
  | count (n : Nat)
  /-- The width of references. -/
  | layout (l : Layout)
  deriving DecidableEq

namespace Arena

variable {κ ω τ : Type} [SlotHolder τ]

/-- **What a change does.** No barrier takes part in it. -/
def change : Change ω τ → Act (Arena κ ω τ) Unit
  | .attach name thread => do
    onScene (Scene.remarkAll (SlotHolder.arrival thread))
    modify fun a => { a with threads := a.threads.insert name thread }
  | .discard name underway => do
    let thread ← Act.ofExcept ((← get).threads.require name)
    modify fun a => { a with threads := a.threads.erase name }
    match underway with
    | some fault => throw fault
    | none => Act.ofExcept (SlotHolder.dismissal thread)
  | .assign name region => atThread name (Site.onThread (SlotHolder.tell region))
  | .rearrange change =>
    modify fun a => { a with scene := { a.scene with heap := change a.scene.heap } }

end Arena

namespace Policy

variable {κ ω τ : Type} [RememberedSet κ] [TableBacked κ] [HeapView ω] [SlotHolder τ]

/-- A step that answers nothing. -/
def silently {σ : Type} (act : Act σ Unit) : Act σ Reply := do
  act
  return .done

/-- The collector's step on the card table. -/
def onTable (f : CardTable → Except Fault CardTable) : Act (Arena κ ω τ) Unit :=
  Arena.onLedger (Ledger.onCards (TableBacked.update f))

/-- **What a move does**, under a policy. -/
def perform (p : Policy) : Move ω τ → Act (Arena κ ω τ) Reply
  | .mark r => silently (Arena.onLedger (p.mark r))
  | .forceMark r => silently (Arena.onLedger (p.forceMark r))
  | .writeSpan r => silently (Arena.onLedger (p.writeSpan r))
  | .writeArray start count =>
    silently (Arena.onBarrier p (WriteBarrier.recordArray start count))
  | .writeOnFastPath start count => do
    let path ← Arena.onBarrier p (FastPath.ofBarrier <$> get)
    Arena.onBarrier p (path.recordArray start count)
    return .layout path.layout
  | .writeTogether batches => silently (Arena.onBarrier p (WriteBarrier.recordBatches batches))
  | .allocate name object => silently (Arena.atThread name (p.finishAllocation object))
  | .detach name => silently (Arena.atThread name p.detach)
  | .flush name point => .flag <$> Arena.atThread name (p.flush point)
  | .drain names => do
    let names := names.getD (← get).threads.names
    .count <$> Arena.atThreads names p.drain
  | .report => silently (Arena.onScene report)
  | .moveYoung young => silently (onTable (.ok ∘ CardTable.withYoung young))
  | .clear r => silently (onTable (CardTable.clear r))
  | .reset => silently (onTable (.ok ∘ CardTable.reset))
  | .change c => silently (Arena.change c)

end Policy

end CardBarrier
