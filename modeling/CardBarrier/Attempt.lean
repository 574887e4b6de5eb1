import CardBarrier.Act
import CardBarrier.SetupError

/-!
# Attempts at setting something up

Setting up can fail in two ways, by an error of its own or by a fault of a step on
the way. An `Attempt` is a step that may fail in either, and like a step it keeps
what it did before it failed.
-/

namespace CardBarrier

/-- **What went wrong** while something was set up. -/
inductive Failure where
  /-- A fault. -/
  | fault (f : Fault)
  /-- An error of setting up. -/
  | setup (e : SetupError)
  deriving DecidableEq

/-- **An attempt** on a state `σ`, with an answer in `α` unless it fails. -/
abbrev Attempt (σ α : Type) := ExceptT Failure (StateM σ) α

namespace Attempt

variable {σ ρ α : Type}

/-- The outcome of an attempt and the state after it. -/
def run (attempt : Attempt σ α) (s : σ) : Except Failure α × σ :=
  StateT.run (ExceptT.run attempt) s

/-- An attempt given by what it does to every state. -/
def ofFun (f : σ → Except Failure α × σ) : Attempt σ α := ExceptT.mk fun s => f s

/-- A step as an attempt. -/
def ofAct (act : Act σ α) : Attempt σ α := ofFun fun s =>
  let (outcome, t) := act.run s
  (outcome.mapError .fault, t)

/-- An attempt that changes nothing and fails by an error of setting up. -/
def ofSetup (x : Except SetupError α) : Attempt σ α := ofFun fun s => (x.mapError .setup, s)

/-- An attempt on a part of the state. -/
def within (part : σ → ρ) (put : ρ → σ → σ) (attempt : Attempt ρ α) : Attempt σ α :=
  ofFun fun s =>
    let (outcome, p) := attempt.run (part s)
    (outcome, put p s)

end Attempt

end CardBarrier
