import CardBarrier.Arena
import CardBarrier.Environment

/-!
# The host of barriers

A host – the running program that has the heap – sets barriers up and installs
one, once and for all: compiled code, the interpreter and the collector all find
it in the same place, so there is no putting another in its stead. A `Host`
keeps every barrier that was set up, in the order in which they were, and which of
them is installed. Beside card-marking barriers it may have barriers of other kinds,
which it can install like any other but knows nothing more of. The threads, the
objects and the journal belong to the host and are shared by whatever barriers it
has. A fast path into the installed barrier leads to its position
(`Host.fastPath`).

An `Action` is what may be done in a host, and `Host.perform` does it.
-/

namespace CardBarrier

/-- **A running program with barriers**: card-marking ones over stores `κ`, and
others of the kind `β`. -/
structure Host (κ β ω τ : Type) where
  /-- The barriers that were set up, oldest first. -/
  barriers : Array (Barrier κ ⊕ β) := #[]
  /-- The position of the one that is installed. -/
  installed : Option Nat := none
  /-- The objects. -/
  heap : ω
  /-- What is said. -/
  journal : Journal := {}
  /-- The threads. -/
  threads : Threads τ := {}
  /-- The variables of the environment. -/
  environment : Environment := {}

/-- **What may be done in a host.** -/
inductive Action (κ β ω τ : Type) where
  /-- A card-marking barrier is set up over a store. -/
  | setUp (settings : Settings) (cards : κ)
  /-- A barrier of another kind is set up. -/
  | bring (barrier : β)
  /-- A card-marking barrier is set up and installed. -/
  | start (settings : Settings) (cards : κ)
  /-- A card-marking barrier is set up as the environment asks, and
  installed. -/
  | startFromEnvironment (cards : κ)
  /-- The barrier at a position is installed. -/
  | install (position : Nat)
  /-- The environment changes. -/
  | setEnvironment (environment : Environment)
  /-- Something happens that no barrier takes part in. -/
  | change (c : Change ω τ)
  /-- Something is asked of the card-marking barrier at a position. -/
  | ask (position : Nat) (move : Move ω τ)
  /-- Something is asked of the installed barrier. -/
  | askInstalled (move : Move ω τ)
  /-- A write of so many references from there on, by a fast path made for it
  into the installed barrier. -/
  | writeInstalled (start : Address) (count : UInt64)

namespace Host

variable {κ β ω τ α : Type}

/-- The position of the barrier that was set up last. -/
def latest (host : Host κ β ω τ) : Nat := host.barriers.size - 1

/-- The card-marking barrier at a position. -/
def cardMarking? (host : Host κ β ω τ) (position : Nat) : Option (Barrier κ) :=
  host.barriers[position]?.bind Sum.getLeft?

/-- The barrier that is installed, if any. -/
def installedBarrier? (host : Host κ β ω τ) : Option (Barrier κ ⊕ β) :=
  host.installed.bind (host.barriers[·]?)

/-- A barrier is installed. -/
def isInstalled (host : Host κ β ω τ) : Bool := host.installedBarrier?.isSome

/-- **The installed barrier**, which must be there. -/
def requireInstalled (host : Host κ β ω τ) : Except SetupError (Barrier κ ⊕ β) :=
  match host.installedBarrier? with
  | some b => .ok b
  | none => .error .vacant

/-- An attempt on the journal. -/
def onJournal (attempt : Attempt Journal α) : Attempt (Host κ β ω τ) α :=
  Attempt.within journal (fun journal host => { host with journal }) attempt

/-- A mistake of whoever asked, since nothing that could answer is there. -/
def noBarrier : Failure := .fault (.foreign "no card-marking barrier there")

/-- **A step on a card-marking barrier of the host**, with the threads, the
objects and the journal that it shares with the others. -/
def atBarrier (position : Nat) (act : Policy → Act (Arena κ ω τ) α) :
    Attempt (Host κ β ω τ) α := Attempt.ofFun fun host =>
  match host.cardMarking? position with
  | none => (.error noBarrier, host)
  | some b =>
    let (outcome, arena) := (act b.policy).run ⟨⟨b.ledger, host.heap, host.journal⟩, host.threads⟩
    (outcome.mapError .fault,
      { host with
        barriers := host.barriers.setIfInBounds position (.inl ⟨b.policy, arena.scene.ledger⟩)
        heap := arena.scene.heap
        journal := arena.scene.journal
        threads := arena.threads })

/-- **A change of threads or objects.** It needs no barrier, so the marks and
counters in its arena are those of none. -/
def change [SlotHolder τ] (c : Change ω τ) : Attempt (Host κ β ω τ) Unit :=
  Attempt.within
    (fun host => (⟨⟨{ cards := () }, host.heap, host.journal⟩, host.threads⟩ : Arena Unit ω τ))
    (fun arena host =>
      { host with
        heap := arena.scene.heap
        journal := arena.scene.journal
        threads := arena.threads })
    (Attempt.ofAct (Arena.change c))

/-- Adds a barrier, which is then the latest. -/
def add (b : Barrier κ ⊕ β) (host : Host κ β ω τ) : Host κ β ω τ :=
  { host with barriers := host.barriers.push b }

variable [RememberedSet κ] [WriteBarrier β]

/-- **The fast path into the installed barrier**, which must be there. -/
def fastPath (host : Host κ β ω τ) : Except SetupError (FastPath Nat) :=
  match host.installed with
  | some position => FastPath.into position <$> host.requireInstalled
  | none => .error .vacant

/-- **Records an array write on a fast path**, in the barrier that it leads
into. -/
def recordArray (path : FastPath Nat) (start : Address) (count : UInt64) :
    Attempt (Host κ β ω τ) Unit :=
  atBarrier path.barrier fun policy => Arena.onBarrier policy (path.recordArray start count)

/-- Stops if a barrier is installed already. -/
def requireNoneInstalled : Attempt (Host κ β ω τ) Unit := do
  match (← get).installedBarrier? with
  | some b => throw (.setup (.occupied (WriteBarrier.name b)))
  | none => return

/-- **Installs the barrier at a position.** Nothing else can be installed
after. -/
def install (position : Nat) : Attempt (Host κ β ω τ) Unit := do
  match (← get).barriers[position]? with
  | none => throw noBarrier
  | some b =>
    requireNoneInstalled
    onJournal (modify (Journal.remarkAll [.installing (WriteBarrier.name b)]))
    modify fun host => { host with installed := some position }

/-- Sets a card-marking barrier up. -/
def setUp (settings : Settings) (cards : κ) : Attempt (Host κ β ω τ) Unit := do
  let b ← onJournal (Barrier.setUp settings cards)
  modify (add (.inl b))

/-- **Sets a card-marking barrier up and installs it.** If another is installed
the new one is not kept. -/
def start (settings : Settings) (cards : κ) : Attempt (Host κ β ω τ) Unit := do
  let b ← onJournal (Barrier.setUp settings cards)
  requireNoneInstalled
  modify (add (.inl b))
  install (← get).latest

/-- Settings as the environment asks for them, with a remark on every variable
that is passed over. -/
def readEnvironment : Attempt (Host κ β ω τ) Settings := do
  let (settings, remarks) := (← get).environment.settings
  onJournal (modify (Journal.remarkAll remarks))
  return settings

/-- **Does an action.** -/
def perform [TableBacked κ] [HeapView ω] [SlotHolder τ] :
    Action κ β ω τ → Attempt (Host κ β ω τ) Reply
  | .setUp settings cards => do
    setUp settings cards
    return .done
  | .bring barrier => do
    modify (add (.inr barrier))
    return .done
  | .start settings cards => do
    start settings cards
    return .done
  | .startFromEnvironment cards => do
    start (← readEnvironment) cards
    return .done
  | .install position => do
    install position
    return .done
  | .setEnvironment environment => do
    modify fun host => { host with environment }
    return .done
  | .change c => do
    change c
    return .done
  | .ask position move => atBarrier position fun policy => policy.perform move
  | .askInstalled move => do
    let _ ← Attempt.ofSetup (← get).requireInstalled
    atBarrier ((← get).installed.getD 0) fun policy => policy.perform move
  | .writeInstalled start count => do
    let path ← Attempt.ofSetup (← get).fastPath
    recordArray path start count
    return .layout path.layout

end Host

end CardBarrier
