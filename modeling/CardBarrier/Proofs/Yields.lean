import CardBarrier.Act

/-!
# Steps that come through

A step stops at a fault or comes through with an answer. `Act.Yields` says of a
step that it came through, with which answer and in which state it left things.
A sequence of steps comes through exactly if each of them does, from where the one
before it left off, and the lemmas here say the like for the other ways in which
steps are put together. What a long step did can then be read off by taking it
apart, without ever following a fault.
-/

namespace CardBarrier.Act

variable {σ ρ α β : Type}

/-- **The step comes through** from a state, with that answer and that state
after it. -/
def Yields (act : Act σ α) (s : σ) (a : α) (t : σ) : Prop := act.run s = (.ok a, t)

theorem Yields.run_eq {act : Act σ α} {s t : σ} {a : α} (h : act.Yields s a t) :
    act.run s = (.ok a, t) := h

/-- A step comes through in one way only. -/
theorem Yields.unique {act : Act σ α} {s t u : σ} {a b : α} (h : act.Yields s a t)
    (h' : act.Yields s b u) : a = b ∧ t = u := by
  have heq : ((.ok a : Except Fault α), t) = (.ok b, u) := h.symm.trans h'
  simpa using heq

@[simp] theorem yields_pure {a b : α} {s t : σ} :
    (pure a : Act σ α).Yields s b t ↔ b = a ∧ t = s := by
  simp [Yields, eq_comm]

@[simp] theorem not_yields_throw {f : Fault} {s t : σ} {a : α} :
    ¬(throw f : Act σ α).Yields s a t := by
  simp [Yields]

/-- What would come after a fault does not. -/
@[simp] theorem throw_bind (f : Fault) (next : α → Act σ β) :
    (throw f >>= next : Act σ β) = throw f := rfl

/-- What comes after a check comes after what the check lets through. -/
theorem ite_throw_bind {c : Prop} [Decidable c] (f : Fault) (act : Act σ α)
    (next : α → Act σ β) :
    ((if c then throw f else act) >>= next : Act σ β) = if c then throw f else act >>= next := by
  split <;> rfl

/-- **One step after another comes through** if both do. -/
theorem yields_bind {act : Act σ α} {next : α → Act σ β} {s u : σ} {b : β} :
    (act >>= next).Yields s b u ↔ ∃ a t, act.Yields s a t ∧ (next a).Yields t b u := by
  unfold Yields
  rw [run_bind]
  rcases hact : act.run s with ⟨f | a, t⟩
  · simp
  · constructor
    · intro h
      exact ⟨a, t, rfl, h⟩
    · rintro ⟨a', t', heq, h⟩
      obtain ⟨rfl, rfl⟩ : a = a' ∧ t = t' := by simpa using heq
      exact h

theorem yields_map {f : α → β} {act : Act σ α} {s t : σ} {b : β} :
    (f <$> act).Yields s b t ↔ ∃ a, act.Yields s a t ∧ f a = b := by
  unfold Yields
  rw [run_map]
  rcases act.run s with ⟨f | a, u⟩
  · simp [Except.map]
  · simp [Except.map, and_comm, and_assoc]

@[simp] theorem yields_get {s t a : σ} : (get : Act σ σ).Yields s a t ↔ a = s ∧ t = s := by
  simp [Yields, eq_comm]

@[simp] theorem yields_modify {f : σ → σ} {s t : σ} {u : PUnit} :
    (modify f : Act σ PUnit).Yields s u t ↔ t = f s := by
  simp [Yields, eq_comm]

@[simp] theorem yields_ofExcept {x : Except Fault α} {s t : σ} {a : α} :
    (ofExcept x : Act σ α).Yields s a t ↔ x = .ok a ∧ t = s := by
  simp [Yields, eq_comm]

@[simp] theorem yields_update {f : σ → Except Fault σ} {s t : σ} {u : Unit} :
    (update f).Yields s u t ↔ f s = .ok t := by
  unfold Yields update
  rw [run_ofFun]
  cases f s <;> simp

theorem yields_within {part : σ → ρ} {put : ρ → σ → σ} {act : Act ρ α} {s t : σ} {a : α} :
    (within part put act).Yields s a t ↔ ∃ q, act.Yields (part s) a q ∧ t = put q s := by
  unfold Yields
  rw [run_within]
  rcases act.run (part s) with ⟨o, q⟩
  simp [eq_comm, and_assoc]

theorem Yields.onEither_inl {left : Act σ α} {s t : σ} {a : α} (h : left.Yields s a t)
    (right : Act ρ α) : (onEither left right).Yields (.inl s) a (.inl t) := by
  unfold Yields at h ⊢
  rw [onEither, run_ofFun]
  dsimp only
  rw [h]
  rfl

theorem Yields.onEither_inr {right : Act ρ α} {s t : ρ} {a : α} (h : right.Yields s a t)
    (left : Act σ α) : (onEither left right).Yields (.inr s) a (.inr t) := by
  unfold Yields at h ⊢
  rw [onEither, run_ofFun]
  dsimp only
  rw [h]
  rfl

/-- **The step comes through**, whatever its answer. -/
def Succeeds (act : Act σ α) (s : σ) : Prop := ∃ a t, act.Yields s a t

theorem Yields.succeeds {act : Act σ α} {s t : σ} {a : α} (h : act.Yields s a t) :
    act.Succeeds s := ⟨a, t, h⟩

theorem succeeds_pure (a : α) (s : σ) : (pure a : Act σ α).Succeeds s := ⟨a, s, rfl⟩

/-- **A sequence comes through** if its first step does, and the rest does from wherever that
leads. -/
theorem Succeeds.bind {act : Act σ α} {next : α → Act σ β} {s : σ} (h : act.Succeeds s)
    (hnext : ∀ a t, act.Yields s a t → (next a).Succeeds t) : (act >>= next).Succeeds s := by
  obtain ⟨a, t, hact⟩ := h
  obtain ⟨b, u, hrest⟩ := hnext a t hact
  exact ⟨b, u, yields_bind.2 ⟨a, t, hact, hrest⟩⟩

/-- Where the first step is known to lead, the rest has to come through from there alone. -/
theorem Yields.succeeds_bind {act : Act σ α} {next : α → Act σ β} {s t : σ} {a : α}
    (h : act.Yields s a t) (hnext : (next a).Succeeds t) : (act >>= next).Succeeds s := by
  obtain ⟨b, u, hrest⟩ := hnext
  exact ⟨b, u, yields_bind.2 ⟨a, t, h, hrest⟩⟩

theorem Succeeds.map (f : α → β) {act : Act σ α} {s : σ} (h : act.Succeeds s) :
    (f <$> act).Succeeds s := by
  obtain ⟨a, t, hact⟩ := h
  exact ⟨f a, t, yields_map.2 ⟨a, hact, rfl⟩⟩

end CardBarrier.Act
