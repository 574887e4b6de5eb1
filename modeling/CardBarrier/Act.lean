import CardBarrier.Fault

/-!
# Steps that may stop at a fault

A step of the barrier reads and changes some state and may stop at a fault.
What it changed before that stays changed: a counter bumped by a step that
then stops at a fault has been bumped. So the fault lies *inside* the state –
`Act σ α` takes a state to an outcome together with the state after it,
whichever outcome it is.

A step on a part of a state is a step on the whole (`Act.within`).
-/

namespace CardBarrier

/-- **A step** on a state `σ`, with an answer in `α` unless it stops at a
fault. -/
abbrev Act (σ α : Type) := ExceptT Fault (StateM σ) α

namespace Act

variable {σ ρ α β : Type}

/-- The outcome of a step and the state after it. -/
def run (act : Act σ α) (s : σ) : Except Fault α × σ := StateT.run (ExceptT.run act) s

/-- A step given by what it does to every state. -/
def ofFun (f : σ → Except Fault α × σ) : Act σ α := ExceptT.mk fun s => f s

/-- A step that changes nothing. -/
def ofExcept (x : Except Fault α) : Act σ α := ofFun fun s => (x, s)

/-- A step that gives the state after it, and leaves it as it was at a
fault. -/
def update (f : σ → Except Fault σ) : Act σ Unit := ofFun fun s =>
  match f s with
  | .ok t => (.ok (), t)
  | .error fault => (.error fault, s)

/-- **A step on a part of the state**, given by how the part is read and
put back. -/
def within (part : σ → ρ) (put : ρ → σ → σ) (act : Act ρ α) : Act σ α := ofFun fun s =>
  let (outcome, p) := act.run (part s)
  (outcome, put p s)

/-- A step on a state of either of two kinds. -/
def onEither (left : Act σ α) (right : Act ρ α) : Act (σ ⊕ ρ) α := ofFun fun s =>
  match s with
  | .inl s => (left.run s).map id .inl
  | .inr s => (right.run s).map id .inr

@[simp] theorem run_ofFun (f : σ → Except Fault α × σ) (s : σ) : (ofFun f).run s = f s := rfl

@[simp] theorem run_ofExcept (x : Except Fault α) (s : σ) :
    (ofExcept x : Act σ α).run s = (x, s) := rfl

@[simp] theorem run_pure (a : α) (s : σ) : (pure a : Act σ α).run s = (.ok a, s) := rfl

@[simp] theorem run_throw (f : Fault) (s : σ) :
    (throw f : Act σ α).run s = (.error f, s) := rfl

@[simp] theorem run_get (s : σ) : (get : Act σ σ).run s = (.ok s, s) := rfl

@[simp] theorem run_modify (f : σ → σ) (s : σ) :
    (modify f : Act σ PUnit).run s = (.ok ⟨⟩, f s) := rfl

/-- **One step after another.** The second runs only if the first did not
stop. -/
theorem run_bind (act : Act σ α) (next : α → Act σ β) (s : σ) :
    (act >>= next).run s = match act.run s with
      | (.ok a, t) => (next a).run t
      | (.error f, t) => (.error f, t) := by
  unfold run
  rw [ExceptT.run_bind, StateT.run_bind]
  show (match StateT.run (ExceptT.run act) s with | (r, t) => _) = _
  rcases StateT.run (ExceptT.run act) s with ⟨_ | _, t⟩ <;> rfl

/-- A function of the answer does not touch the state. -/
theorem run_map (f : α → β) (act : Act σ α) (s : σ) :
    (f <$> act).run s = ((act.run s).1.map f, (act.run s).2) := by
  rw [map_eq_pure_bind, run_bind]
  rcases act.run s with ⟨_ | _, t⟩ <;> rfl

@[simp] theorem run_within (part : σ → ρ) (put : ρ → σ → σ) (act : Act ρ α) (s : σ) :
    (within part put act).run s = ((act.run (part s)).1, put (act.run (part s)).2 s) := rfl

end Act

end CardBarrier
