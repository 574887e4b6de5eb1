import CardBarrier.Host
import CardBarrier.Proofs.Observation

/-!
# The first installation stands

A host has one place for the barrier that everybody finds, and it is filled once. Calls that would
fill it come in any order and may be of two minds: some come with a barrier that was set up before,
others have settings and a store and set one up on the way, which can fail by itself. What such a
call comes with is said of its settings and its store alone (`Action.Proposes`).

The first call that comes with a barrier installs it, and nothing that is done later – by those who
ask barriers for moves, by those who change the environment, or by other calls of the kind – puts
another in its stead (`Host.Taken`). A call that fails, before that or after, has said something at
most: barriers with their marks and counters are as they were.

Which barrier is installed is a matter of its position, at which it stays; its ledger goes on
changing as it is asked for moves (`Persists`). A fast path into it knows it by that position, so one
that was made early is as good as one that is made late.
-/

namespace CardBarrier

variable {κ β ω τ : Type}

namespace Attempt

variable {σ α : Type}

theorem run_ofFun (f : σ → Except Failure α × σ) (s : σ) : (ofFun f).run s = f s := rfl

theorem run_get (s : σ) : (get : Attempt σ σ).run s = (.ok s, s) := rfl

theorem run_modify (f : σ → σ) (s : σ) :
    (modify f : Attempt σ PUnit).run s = (.ok ⟨⟩, f s) := rfl

theorem run_within {ρ : Type} (part : σ → ρ) (put : ρ → σ → σ) (attempt : Attempt ρ α) (s : σ) :
    (within part put attempt).run s
      = ((attempt.run (part s)).1, put (attempt.run (part s)).2 s) := rfl

theorem run_ofSetup (x : Except SetupError α) (s : σ) :
    (ofSetup x : Attempt σ α).run s = (x.mapError .setup, s) := rfl

/-- An attempt of which the answer does not matter. -/
theorem run_bind_pure {act : Attempt σ Unit} {a : α} {s : σ} :
    (act >>= fun _ => pure a).run s = ((act.run s).1.map fun _ => a, (act.run s).2) := by
  rw [run_bind]
  rcases act.run s with ⟨_ | _, t⟩ <;> rfl

end Attempt

/-- **The same barrier at another time.** A card-marking barrier may have another ledger by then,
and of a barrier of another kind nothing is known that could be different. -/
inductive Persists : Barrier κ ⊕ β → Barrier κ ⊕ β → Prop
  | cardMarking (b : Barrier κ) (ledger : Ledger κ) : Persists (.inl b) (.inl { b with ledger })
  | other (b : β) : Persists (.inr b) (.inr b)

namespace Persists

theorem refl (b : Barrier κ ⊕ β) : Persists b b := by
  cases b with
  | inl b => exact .cardMarking b b.ledger
  | inr b => exact .other b

theorem trans {b c d : Barrier κ ⊕ β} (h : Persists b c) (h' : Persists c d) : Persists b d := by
  cases h with
  | cardMarking b ledger =>
    cases h' with
    | cardMarking _ ledger' => exact .cardMarking b ledger'
  | other b => exact h'

variable [RememberedSet κ] [WriteBarrier β] {b c : Barrier κ ⊕ β}

theorem name_eq (h : Persists b c) : WriteBarrier.name c = WriteBarrier.name b := by
  cases h <;> rfl

theorem layout_eq (h : Persists b c) : WriteBarrier.layout c = WriteBarrier.layout b := by
  cases h <;> rfl

end Persists

/-- The settings and the store with which an action sets up a barrier to be installed. -/
def Action.startsWith? (host : Host κ β ω τ) : Action κ β ω τ → Option (Settings × κ)
  | .start settings cards => some (settings, cards)
  | .startFromEnvironment cards => some (host.environment.settings.1, cards)
  | _ => none

/-- The action is to install a barrier. -/
def Action.installs : Action κ β ω τ → Bool
  | .start _ _ | .startFromEnvironment _ | .install _ => true
  | _ => false

/-- **What a call that is to install a barrier comes with**: a barrier, or the error for which there
is none. Settings are looked at before the store is. -/
inductive Action.Proposes [RememberedSet κ] (host : Host κ β ω τ) (x : Action κ β ω τ) :
    Except SetupError (Barrier κ ⊕ β) → Prop
  | unusable {s : Settings} {cards : κ} {e : SettingsError}
      (hx : x.startsWith? host = some (s, cards)) (hs : s.validate = .error e) :
      Proposes host x (.error (.settings e))
  | mismatched {s : Settings} {cards : κ} (hx : x.startsWith? host = some (s, cards))
      (hs : s.validate = .ok ()) (hsize : RememberedSet.cardBytes cards ≠ s.cardBytes) :
      Proposes host x
        (.error (.mismatch (.otherCardSize (RememberedSet.cardBytes cards) s.cardBytes)))
  | fitting {s : Settings} {cards : κ} (hx : x.startsWith? host = some (s, cards))
      (hs : s.validate = .ok ()) (hsize : RememberedSet.cardBytes cards = s.cardBytes) :
      Proposes host x (.ok (.inl ⟨.ofSettings s (RememberedSet.ordersMarks cards), { cards }⟩))
  | present {position : Nat} {b : Barrier κ ⊕ β} (hx : x = .install position)
      (hb : host.barriers[position]? = some b) : Proposes host x (.ok b)

namespace Action

variable [RememberedSet κ] {host : Host κ β ω τ} {x : Action κ β ω τ}

/-- A call has a barrier or an error to come with. -/
theorem exists_proposes {s : Settings} {cards : κ} (hx : x.startsWith? host = some (s, cards)) :
    ∃ o, x.Proposes host o := by
  cases hs : s.validate with
  | error e => exact ⟨_, .unusable hx hs⟩
  | ok u =>
    by_cases hsize : RememberedSet.cardBytes cards = s.cardBytes
    · exact ⟨_, .fitting hx hs hsize⟩
    · exact ⟨_, .mismatched hx hs hsize⟩

/-- **A call that comes with a barrier** sets it up first, or finds it at its position. -/
theorem Proposes.cases {b : Barrier κ ⊕ β} (h : x.Proposes host (.ok b)) :
    (∃ s cards b', x.startsWith? host = some (s, cards) ∧ Barrier.ofSettings s cards = .ok b' ∧
      b = .inl b') ∨ ∃ position, x = .install position ∧ host.barriers[position]? = some b := by
  cases h with
  | fitting hx hs hsize =>
    exact .inl ⟨_, _, _, hx, by rw [Barrier.ofSettings, hs]; exact if_pos hsize, rfl⟩
  | present hx hb => exact .inr ⟨_, hx, hb⟩

end Action

namespace Host

/-! ## One call -/

section Call

variable [RememberedSet κ] [WriteBarrier β] {host : Host κ β ω τ} {s : Settings} {cards : κ}
  {b : Barrier κ} {c : Barrier κ ⊕ β} {position : Nat}

theorem run_requireNoneInstalled (host : Host κ β ω τ) :
    requireNoneInstalled.run host = match host.installedBarrier? with
      | some c => (.error (.setup (.occupied (WriteBarrier.name c))), host)
      | none => (.ok (), host) := by
  unfold requireNoneInstalled
  rw [Attempt.run_bind, Attempt.run_get]
  dsimp only
  cases host.installedBarrier? <;> rfl

omit [RememberedSet κ] [WriteBarrier β] in
theorem installedBarrier?_of_none (h : host.installed = none) : host.installedBarrier? = none := by
  rw [installedBarrier?, h]
  rfl

/-- **A barrier that is there is installed** if none is yet. -/
theorem run_install (h : host.barriers[position]? = some c) :
    (install position).run host = match host.installedBarrier? with
      | some d => (.error (.setup (.occupied (WriteBarrier.name d))), host)
      | none => (.ok (), { host with
          journal := host.journal.remarkAll [.installing (WriteBarrier.name c)]
          installed := some position }) := by
  unfold install
  rw [Attempt.run_bind, Attempt.run_get]
  dsimp only
  rw [h]
  dsimp only
  rw [Attempt.run_bind, run_requireNoneInstalled]
  cases host.installedBarrier? <;> rfl

omit [RememberedSet κ] [WriteBarrier β] in
theorem run_onJournal {α : Type} (attempt : Attempt Journal α) (host : Host κ β ω τ) :
    (onJournal attempt).run host = ((attempt.run host.journal).1,
      { host with journal := (attempt.run host.journal).2 }) := rfl

/-- **Settings that do not fit their store** end a start before anything is said. -/
theorem run_start_of_error {e : SetupError} (h : Barrier.ofSettings s cards = .error e) :
    (start s cards).run host = (.error (.setup e), host) := by
  unfold start
  rw [Attempt.run_bind, run_onJournal, Barrier.run_setUp_of_error h]

omit [WriteBarrier β] in
/-- Setting a barrier up adds to the journal only. -/
theorem exists_run_setUp (h : Barrier.ofSettings s cards = .ok b) (host : Host κ β ω τ) :
    ∃ j, (onJournal (Barrier.setUp s cards)).run host = (.ok b, { host with journal := j }) := by
  obtain ⟨k, hk⟩ := b.exists_keep_initialized host.journal
  rw [run_onJournal, Barrier.run_setUp h hk]
  exact ⟨_, rfl⟩

/-- A barrier that is added and installed takes the next position. -/
theorem run_add_install (b : Barrier κ) (hnone : host.installed = none) :
    (do
        requireNoneInstalled
        modify (add (.inl b))
        install (← get).latest : Attempt (Host κ β ω τ) Unit).run host
      = (.ok (), { host with
        barriers := host.barriers.push (.inl b)
        installed := some host.barriers.size
        journal := host.journal.remarkAll [.installing (WriteBarrier.name b)] }) := by
  rw [Attempt.run_bind, run_requireNoneInstalled, installedBarrier?_of_none hnone]
  dsimp only
  rw [Attempt.run_bind, Attempt.run_modify]
  dsimp only
  rw [Attempt.run_bind, Attempt.run_get]
  dsimp only
  have hlatest : (add (.inl b) host).latest = host.barriers.size := by
    rw [latest, add, Array.size_push, Nat.add_sub_cancel]
  have hb : (add (.inl b) host).barriers[host.barriers.size]? = some (.inl b) :=
    Array.getElem?_push_size
  have hstill : (add (.inl b) host).installed = none := hnone
  rw [hlatest, run_install hb, installedBarrier?_of_none hstill]
  rfl

/-- **A barrier that could be set up is installed** if none is yet. -/
theorem exists_run_start_of_none (h : Barrier.ofSettings s cards = .ok b)
    (hnone : host.installed = none) :
    ∃ j, (start s cards).run host = (.ok (), { host with
      barriers := host.barriers.push (.inl b)
      installed := some host.barriers.size
      journal := j }) := by
  obtain ⟨j, hsetUp⟩ := exists_run_setUp h host
  unfold start
  rw [Attempt.run_bind, hsetUp]
  exact ⟨_, run_add_install b hnone⟩

/-- **It is not kept** if another is installed. -/
theorem exists_run_start_of_some (h : Barrier.ofSettings s cards = .ok b)
    (hc : host.installedBarrier? = some c) :
    ∃ j, (start s cards).run host
      = (.error (.setup (.occupied (WriteBarrier.name c))), { host with journal := j }) := by
  obtain ⟨j, hsetUp⟩ := exists_run_setUp h host
  have hinstalled : installedBarrier? { host with journal := j } = some c := hc
  unfold start
  rw [Attempt.run_bind, hsetUp]
  dsimp only
  rw [Attempt.run_bind, run_requireNoneInstalled, hinstalled]
  exact ⟨_, rfl⟩

end Call

/-! ## One action -/

/-- **Barriers stay where they are**, and so does the one that is installed. -/
structure Endures (host later : Host κ β ω τ) : Prop where
  /-- The same position is installed, or still none. -/
  installed : later.installed = host.installed
  /-- Every barrier is at its position. -/
  barriers (k : Nat) (b : Barrier κ ⊕ β) (hb : host.barriers[k]? = some b) :
    ∃ c, later.barriers[k]? = some c ∧ Persists b c

theorem Endures.of_eq {host later : Host κ β ω τ} (hinstalled : later.installed = host.installed)
    (hbarriers : later.barriers = host.barriers) : host.Endures later :=
  ⟨hinstalled, fun k b hb => ⟨b, by rw [hbarriers, hb], .refl b⟩⟩

theorem Endures.trans {host later last : Host κ β ω τ} (h : host.Endures later)
    (h' : later.Endures last) : host.Endures last := by
  refine ⟨h'.installed.trans h.installed, fun k b hb => ?_⟩
  obtain ⟨c, hc, hbc⟩ := h.barriers k b hb
  obtain ⟨d, hd, hcd⟩ := h'.barriers k c hc
  exact ⟨d, hd, hbc.trans hcd⟩

theorem endures_add (b : Barrier κ ⊕ β) (host : Host κ β ω τ) : host.Endures (add b host) := by
  refine ⟨rfl, fun k c hc => ⟨c, ?_, .refl c⟩⟩
  have hk := (Array.getElem?_eq_some_iff.1 hc).1
  rw [add, Array.getElem?_push_lt hk, ← Array.getElem?_eq_getElem hk, hc]

/-- **A barrier that is asked for a move** is the same barrier afterwards. -/
theorem endures_atBarrier {α : Type} (host : Host κ β ω τ) (position : Nat)
    (act : Policy → Act (Arena κ ω τ) α) :
    host.Endures ((atBarrier position act).run host).2 := by
  rw [atBarrier, Attempt.run_ofFun]
  cases hposition : host.cardMarking? position with
  | none => exact .of_eq rfl rfl
  | some b =>
    refine ⟨rfl, fun k c hc => ?_⟩
    obtain ⟨d, hd, hleft⟩ := Option.bind_eq_some_iff.1 hposition
    obtain rfl := Sum.getLeft?_eq_some_iff.1 hleft
    dsimp only
    rw [Array.getElem?_setIfInBounds]
    split
    · rename_i hk
      subst hk
      obtain rfl : .inl b = c := Option.some.inj (hd.symm.trans hc)
      rw [if_pos (Array.getElem?_eq_some_iff.1 hd).1]
      exact ⟨_, rfl, .cardMarking b _⟩
    · exact ⟨c, hc, .refl c⟩

section Perform

variable [RememberedSet κ] [TableBacked κ] [HeapView ω] [SlotHolder τ] [WriteBarrier β]
  {host : Host κ β ω τ} {x : Action κ β ω τ} {b c : Barrier κ ⊕ β} {e : SetupError}

/-- There is nothing to install at a position where there is no barrier. -/
theorem run_install_of_none {position : Nat} (h : host.barriers[position]? = none) :
    (perform (.install position)).run host = (.error noBarrier, host) := by
  show (install position >>= fun _ => pure Reply.done).run host = _
  rw [Attempt.run_bind_pure, install, Attempt.run_bind, Attempt.run_get]
  dsimp only
  rw [h]
  rfl

/-- **An action that sets up a barrier to be installed** is a start, before which something may be
said of the environment. -/
theorem exists_run_of_startsWith {s : Settings} {cards : κ}
    (hx : x.startsWith? host = some (s, cards)) :
    ∃ j, (perform x).run host
      = (start s cards >>= fun _ => pure Reply.done).run { host with journal := j } := by
  cases x with
  | start settings cards' =>
    cases hx
    exact ⟨host.journal, rfl⟩
  | startFromEnvironment cards' =>
    cases hx
    exact ⟨host.journal.remarkAll host.environment.settings.2, rfl⟩
  | _ => cases hx

/-- **A call that comes with an error fails with it**, and has said something at most. -/
theorem refused_of_error (h : x.Proposes host (.error e)) :
    ∃ j, (perform x).run host = (.error (.setup e), { host with journal := j }) := by
  obtain ⟨s, cards, hx, hs⟩ : ∃ s cards, x.startsWith? host = some (s, cards) ∧
      Barrier.ofSettings s cards = .error e := by
    cases h with
    | unusable hx hs => exact ⟨_, _, hx, by rw [Barrier.ofSettings, hs]⟩
    | mismatched hx hs hsize => exact ⟨_, _, hx, by rw [Barrier.ofSettings, hs]; exact if_neg hsize⟩
  obtain ⟨j, hrun⟩ := exists_run_of_startsWith hx
  rw [hrun, Attempt.run_bind_pure, run_start_of_error hs]
  exact ⟨j, rfl⟩

/-- **It is installed** if none is yet. -/
theorem accepted_of_none (hnone : host.installed = none) (h : x.Proposes host (.ok b)) :
    ∃ k later, (perform x).run host = (.ok .done, later) ∧ later.installed = some k ∧
      later.barriers[k]? = some b := by
  obtain ⟨s, cards, b', hx, hs, rfl⟩ | ⟨position, rfl, hb⟩ := h.cases
  · obtain ⟨j, hrun⟩ := exists_run_of_startsWith hx
    have hstill : installed { host with journal := j } = none := hnone
    obtain ⟨j', hstart⟩ := exists_run_start_of_none hs hstill
    rw [hrun, Attempt.run_bind_pure, hstart]
    exact ⟨host.barriers.size, _, rfl, rfl, Array.getElem?_push_size⟩
  · have hrun : (perform (.install position)).run host
        = (install position >>= fun _ => pure Reply.done).run host := rfl
    rw [hrun, Attempt.run_bind_pure, run_install hb, installedBarrier?_of_none hnone]
    exact ⟨position, _, rfl, rfl, hb⟩

/-- **It is refused** if another is installed, by that one's name. -/
theorem refused_of_some (hc : host.installedBarrier? = some c) (h : x.Proposes host (.ok b)) :
    ∃ j, (perform x).run host
      = (.error (.setup (.occupied (WriteBarrier.name c))), { host with journal := j }) := by
  obtain ⟨s, cards, b', hx, hs, rfl⟩ | ⟨position, rfl, hb⟩ := h.cases
  · obtain ⟨j, hrun⟩ := exists_run_of_startsWith hx
    have hstill : installedBarrier? { host with journal := j } = some c := hc
    obtain ⟨j', hstart⟩ := exists_run_start_of_some hs hstill
    rw [hrun, Attempt.run_bind_pure, hstart]
    exact ⟨j', rfl⟩
  · refine ⟨host.journal, ?_⟩
    show (install position >>= fun _ => pure Reply.done).run host = _
    rw [Attempt.run_bind_pure, run_install hb, hc]
    rfl

/-- **The installed barrier is asked** if there is one. -/
theorem run_askInstalled (host : Host κ β ω τ) (move : Move ω τ) :
    (perform (.askInstalled move)).run host = match host.requireInstalled with
      | .error e => (.error (.setup e), host)
      | .ok _ => (perform (.ask (host.installed.getD 0) move)).run host := by
  show (do
    let _ ← Attempt.ofSetup (← get).requireInstalled
    atBarrier ((← get).installed.getD 0) fun policy => policy.perform move :
      Attempt (Host κ β ω τ) Reply).run host = _
  rw [Attempt.run_bind, Attempt.run_get]
  dsimp only
  rw [Attempt.run_bind, Attempt.run_ofSetup]
  cases host.requireInstalled <;> rfl

/-- **A write on the fast path into the installed barrier** is recorded if there is one. -/
theorem run_writeInstalled (host : Host κ β ω τ) (start : Address) (count : UInt64) :
    (perform (.writeInstalled start count)).run host = match host.fastPath with
      | .error e => (.error (.setup e), host)
      | .ok path =>
        (recordArray path start count >>= fun _ => pure (Reply.layout path.layout)).run host := by
  show (do
    let path ← Attempt.ofSetup (← get).fastPath
    recordArray path start count
    return Reply.layout path.layout : Attempt (Host κ β ω τ) Reply).run host = _
  rw [Attempt.run_bind, Attempt.run_get]
  dsimp only
  rw [Attempt.run_bind, Attempt.run_ofSetup]
  cases host.fastPath <;> rfl

/-- **A write on a fast path to a position** is a write that the barrier there is asked for. -/
theorem run_recordArray {position : Nat} (hc : host.barriers[position]? = some c) (start : Address)
    (count : UInt64) :
    (recordArray (.into position c) start count
      >>= fun _ => pure (Reply.layout (WriteBarrier.layout c))).run host
      = (perform (.ask position (.writeOnFastPath start count))).run host := by
  show _ = (atBarrier position fun policy => policy.perform (.writeOnFastPath start count)).run host
  rw [Attempt.run_bind_pure, recordArray, atBarrier, atBarrier, Attempt.run_ofFun,
    Attempt.run_ofFun]
  have hmarks : host.cardMarking? position = c.getLeft? := by
    rw [cardMarking?, hc]
    rfl
  dsimp only [FastPath.into]
  rw [hmarks]
  cases c with
  | inr b => rfl
  | inl b =>
    dsimp only [Sum.getLeft?]
    rw [b.policy.perform_writeOnFastPath position, Act.run_bind]
    have hlayout : WriteBarrier.layout (.inl b : Barrier κ ⊕ β) = b.policy.layout := rfl
    rw [hlayout]
    generalize Act.run (Arena.onBarrier b.policy _) _ = x
    obtain ⟨f | u, arena⟩ := x <;> rfl

/-- **An action that comes with no barrier** leaves every barrier where it is. -/
theorem endures_perform (h : ∀ b, ¬x.Proposes host (.ok b)) :
    host.Endures ((perform x).run host).2 := by
  have hstarts : ∀ s cards, x.startsWith? host = some (s, cards) →
      host.Endures ((perform x).run host).2 := by
    intro s cards hx
    obtain ⟨e | b, ho⟩ := Action.exists_proposes hx
    · obtain ⟨j, hrun⟩ := refused_of_error ho
      rw [hrun]
      exact .of_eq rfl rfl
    · exact absurd ho (h b)
  cases x with
  | start s cards => exact hstarts _ _ rfl
  | startFromEnvironment cards => exact hstarts _ _ rfl
  | setUp s cards =>
    show host.Endures ((setUp s cards >>= fun _ => pure Reply.done).run host).2
    rw [Attempt.run_bind_pure, setUp, Attempt.run_bind]
    cases hs : Barrier.ofSettings s cards with
    | error e =>
      rw [run_onJournal, Barrier.run_setUp_of_error hs]
      exact .of_eq rfl rfl
    | ok b =>
      obtain ⟨j, hsetUp⟩ := exists_run_setUp hs host
      rw [hsetUp]
      have hsaid : host.Endures { host with journal := j } := .of_eq rfl rfl
      exact hsaid.trans (endures_add (.inl b) _)
  | bring b => exact endures_add (.inr b) host
  | install position =>
    cases hb : host.barriers[position]? with
    | none =>
      rw [run_install_of_none hb]
      exact .of_eq rfl rfl
    | some b => exact absurd (.present rfl hb) (h b)
  | setEnvironment environment => exact .of_eq rfl rfl
  | change ch =>
    show host.Endures ((change ch >>= fun _ => pure Reply.done).run host).2
    rw [Attempt.run_bind_pure, change, Attempt.run_within]
    exact .of_eq rfl rfl
  | ask position move => exact endures_atBarrier host position _
  | askInstalled move =>
    rw [run_askInstalled]
    cases host.requireInstalled with
    | error e => exact .of_eq rfl rfl
    | ok b => exact endures_atBarrier host _ _
  | writeInstalled start count =>
    rw [run_writeInstalled]
    cases host.fastPath with
    | error e => exact .of_eq rfl rfl
    | ok path =>
      dsimp only
      rw [Attempt.run_bind_pure]
      exact endures_atBarrier host _ _

/-! ## A run of actions -/

/-- **The host after actions.** One that fails does not stop those after it. -/
def after (host : Host κ β ω τ) (actions : List (Action κ β ω τ)) : Host κ β ω τ :=
  actions.foldl (fun host x => ((perform x).run host).2) host

theorem after_concat (host : Host κ β ω τ) (actions : List (Action κ β ω τ))
    (x : Action κ β ω τ) :
    host.after (actions ++ [x]) = ((perform x).run (host.after actions)).2 := by
  rw [after, List.foldl_append]
  rfl

/-- **No call came with a barrier** among actions. -/
def Unclaimed (host : Host κ β ω τ) (actions : List (Action κ β ω τ)) : Prop :=
  ∀ before x later, actions = before ++ x :: later →
    ∀ b, ¬x.Proposes (host.after before) (.ok b)

theorem unclaimed_nil (host : Host κ β ω τ) : host.Unclaimed [] := by
  intro before x later h
  exact absurd (List.append_eq_nil_iff.1 h.symm).2 (List.cons_ne_nil _ _)

theorem unclaimed_concat {actions : List (Action κ β ω τ)} :
    host.Unclaimed (actions ++ [x]) ↔
      host.Unclaimed actions ∧ ∀ b, ¬x.Proposes (host.after actions) (.ok b) := by
  constructor
  · intro h
    refine ⟨fun before y later hsplit => ?_, h actions x [] rfl⟩
    exact h before y (later ++ [x]) (by rw [hsplit, List.append_assoc, List.cons_append])
  · rintro ⟨hactions, hx⟩ before y later hsplit
    obtain rfl | ⟨later, last, rfl⟩ := List.eq_nil_or_concat later
    · obtain ⟨rfl, heq⟩ := List.append_inj' hsplit rfl
      obtain rfl : x = y := by simpa using heq
      exact hx
    · rw [List.concat_eq_append, ← List.cons_append, ← List.append_assoc] at hsplit
      exact hactions before y later (List.append_inj' hsplit rfl).1

/-- **Nothing is installed as long as no call came with a barrier.** -/
theorem installed_of_unclaimed {actions : List (Action κ β ω τ)} (hnone : host.installed = none)
    (h : host.Unclaimed actions) : (host.after actions).installed = none := by
  induction actions using List.reverseRecOn with
  | nil => exact hnone
  | append_singleton actions x ih =>
    obtain ⟨hactions, hx⟩ := unclaimed_concat.1 h
    rw [after_concat, (endures_perform hx).installed]
    exact ih hactions

/-- A barrier is installed at a position, by now maybe with another ledger. -/
def Seats (host : Host κ β ω τ) (k : Nat) (b : Barrier κ ⊕ β) : Prop :=
  host.installed = some k ∧ ∃ c, host.barriers[k]? = some c ∧ Persists b c

omit [RememberedSet κ] [TableBacked κ] [HeapView ω] [SlotHolder τ] [WriteBarrier β] in
theorem Seats.installedBarrier? {k : Nat} (h : host.Seats k b) :
    ∃ c, host.installedBarrier? = some c ∧ host.barriers[k]? = some c ∧ Persists b c := by
  obtain ⟨hinstalled, c, hc, hbc⟩ := h
  refine ⟨c, ?_, hc, hbc⟩
  rw [Host.installedBarrier?, hinstalled]
  exact hc

/-- **What is installed stays so**, whatever is done. -/
theorem Seats.perform {k : Nat} (h : host.Seats k b) (x : Action κ β ω τ) :
    ((perform x).run host).2.Seats k b := by
  -- a call that comes with a barrier is refused, and any other action leaves barriers in place
  by_cases hx : ∃ c, x.Proposes host (.ok c)
  · obtain ⟨c, hc⟩ := hx
    obtain ⟨d, hd, -⟩ := h.installedBarrier?
    obtain ⟨j, hrun⟩ := refused_of_some hd hc
    rw [hrun]
    exact h
  · have hendures := endures_perform fun c hc => hx ⟨c, hc⟩
    obtain ⟨hinstalled, c, hc, hbc⟩ := h
    obtain ⟨d, hd, hcd⟩ := hendures.barriers k c hc
    exact ⟨hendures.installed.trans hinstalled, d, hd, hbc.trans hcd⟩

theorem Seats.after {k : Nat} (h : host.Seats k b) (actions : List (Action κ β ω τ)) :
    (host.after actions).Seats k b := by
  induction actions using List.reverseRecOn with
  | nil => exact h
  | append_singleton actions x ih =>
    rw [after_concat]
    exact ih.perform x

/-- **A host in which nothing is installed.** Whoever asks for the installed barrier is told so; a
call that comes with an error fails with it, and one that comes with a barrier installs it. -/
structure Open (host : Host κ β ω τ) : Prop where
  /-- No barrier is installed. -/
  isInstalled : host.isInstalled = false
  /-- There is none to be had. -/
  required : host.requireInstalled = .error .vacant
  /-- There is no fast path into one. -/
  path : host.fastPath = .error .vacant
  /-- Nothing can be asked of one. -/
  asked (move : Move ω τ) :
    (perform (.askInstalled move)).run host = (.error (.setup .vacant), host)
  /-- Nothing can be written on a fast path into one. -/
  written (start : Address) (count : UInt64) :
    (perform (.writeInstalled start count)).run host = (.error (.setup .vacant), host)
  /-- A call that comes with an error fails with it, and has said something at most. -/
  refused (x : Action κ β ω τ) (e : SetupError) (h : x.Proposes host (.error e)) :
    ∃ j, (perform x).run host = (.error (.setup e), { host with journal := j })
  /-- A call that comes with a barrier installs it. -/
  accepted (x : Action κ β ω τ) (b : Barrier κ ⊕ β) (h : x.Proposes host (.ok b)) :
    ∃ k later, (perform x).run host = (.ok .done, later) ∧ later.installed = some k ∧
      later.barriers[k]? = some b

/-- **A host in which a barrier is installed** at a position. Whoever asks for the installed barrier
is given that one, and every call that would install another fails: with the error that it comes
with, or else by the name of the one that is installed. -/
structure Taken (host : Host κ β ω τ) (k : Nat) (b : Barrier κ ⊕ β) : Prop where
  /-- A barrier is installed. -/
  isInstalled : host.isInstalled = true
  /-- It is the one at that position. -/
  required : ∃ c, host.requireInstalled = .ok c ∧ host.barriers[k]? = some c ∧ Persists b c
  /-- The fast path leads to that position, and has the layout of the barrier. -/
  path : host.fastPath = .ok ⟨WriteBarrier.layout b, k⟩
  /-- What is asked of the installed barrier is asked of it. -/
  asked (move : Move ω τ) : (perform (.askInstalled move)).run host
    = (perform (.ask k move)).run host
  /-- A write on that path is one that the barrier at the position is asked for. -/
  written (start : Address) (count : UInt64) : (perform (.writeInstalled start count)).run host
    = (perform (.ask k (.writeOnFastPath start count))).run host
  /-- A call that comes with an error fails with it, and has said something at most. -/
  refused (x : Action κ β ω τ) (e : SetupError) (h : x.Proposes host (.error e)) :
    ∃ j, (perform x).run host = (.error (.setup e), { host with journal := j })
  /-- A call that comes with a barrier fails as well. -/
  occupied (x : Action κ β ω τ) (c : Barrier κ ⊕ β) (h : x.Proposes host (.ok c)) :
    ∃ j, (perform x).run host
      = (.error (.setup (.occupied (WriteBarrier.name b))), { host with journal := j })
  /-- So no call succeeds. -/
  alone (x : Action κ β ω τ) (h : x.installs = true) :
    ∃ e j, (perform x).run host = (.error e, { host with journal := j })

theorem open_of_none (h : host.installed = none) : host.Open := by
  have hinstalled := installedBarrier?_of_none h
  have hrequired : host.requireInstalled = .error .vacant := by
    rw [requireInstalled, hinstalled]
  have hpath : host.fastPath = .error .vacant := by
    rw [fastPath, h]
  constructor
  case isInstalled =>
    rw [isInstalled, hinstalled]
    rfl
  case required => exact hrequired
  case path => exact hpath
  case asked =>
    intro move
    rw [run_askInstalled, hrequired]
  case written =>
    intro start count
    rw [run_writeInstalled, hpath]
  case refused => exact fun x e hx => refused_of_error hx
  case accepted => exact fun x b hx => accepted_of_none h hx

/-- **A call that is to install a barrier fails** if one is installed. -/
theorem exists_error_of_installs (hc : host.installedBarrier? = some c)
    (hx : x.installs = true) :
    ∃ e j, (perform x).run host = (.error e, { host with journal := j }) := by
  have hstarts : ∀ s cards, x.startsWith? host = some (s, cards) →
      ∃ e j, (perform x).run host = (.error e, { host with journal := j }) := by
    intro s cards hs
    obtain ⟨e | b, ho⟩ := Action.exists_proposes hs
    · exact ⟨_, refused_of_error ho⟩
    · exact ⟨_, refused_of_some hc ho⟩
  cases x with
  | start s cards => exact hstarts _ _ rfl
  | startFromEnvironment cards => exact hstarts _ _ rfl
  | install position =>
    cases hb : host.barriers[position]? with
    | none => exact ⟨_, host.journal, run_install_of_none hb⟩
    | some b => exact ⟨_, refused_of_some hc (.present rfl hb)⟩
  | _ => cases hx

theorem Seats.taken {k : Nat} (h : host.Seats k b) : host.Taken k b := by
  obtain ⟨c, hinstalled, hc, hbc⟩ := h.installedBarrier?
  have hrequired : host.requireInstalled = .ok c := by
    rw [requireInstalled, hinstalled]
  have hpath : host.fastPath = .ok (.into k c) := by
    rw [fastPath, h.1, hrequired]
    rfl
  constructor
  case isInstalled =>
    rw [isInstalled, hinstalled]
    rfl
  case required => exact ⟨c, hrequired, hc, hbc⟩
  case path => rw [hpath, FastPath.into, hbc.layout_eq]
  case asked =>
    intro move
    rw [run_askInstalled, hrequired, h.1]
    rfl
  case written =>
    intro start count
    rw [run_writeInstalled, hpath]
    exact run_recordArray hc start count
  case refused => exact fun x e hx => refused_of_error hx
  case occupied =>
    intro x d hx
    rw [← hbc.name_eq]
    exact refused_of_some hinstalled hx
  case alone => exact fun x hx => exists_error_of_installs hinstalled hx

/-- **The first call that comes with a barrier installs it for good.** Up to that call nothing is
installed, and whoever asks is told so. It succeeds, and from then on the barrier that it came with
is the one that everybody is given, at the position at which the call put or found it, and every
other call of the kind fails. -/
theorem first_call_installs (hnone : host.installed = none) (actions : List (Action κ β ω τ)) :
    (host.Unclaimed actions → (host.after actions).Open) ∧
      ∀ before x later b, actions = before ++ x :: later → host.Unclaimed before →
        x.Proposes (host.after before) (.ok b) →
          ∃ k, ((perform x).run (host.after before)).1 = .ok .done ∧
            (host.after (before ++ [x])).barriers[k]? = some b ∧
              (host.after actions).Taken k b := by
  refine ⟨fun h => open_of_none (installed_of_unclaimed hnone h), ?_⟩
  rintro before x later b rfl hbefore hx
  obtain ⟨k, first, hrun, hinstalled, hb⟩ :=
    accepted_of_none (installed_of_unclaimed hnone hbefore) hx
  have hfirst : host.after (before ++ [x]) = first := by
    rw [after_concat, hrun]
  have hsplit : host.after (before ++ x :: later) = first.after later := by
    rw [← hfirst, after, after, after, ← List.foldl_append, List.append_assoc]
    rfl
  have hseats : first.Seats k b := ⟨hinstalled, b, hb, .refl b⟩
  refine ⟨k, by rw [hrun], by rw [hfirst, hb], ?_⟩
  rw [hsplit]
  exact (hseats.after later).taken

end Perform

end Host

namespace SmallHeap

/-- A host that has a barrier which lists what is written, and none is installed yet. -/
def host : Host Store ListBarrier Objects Mutator :=
  { barriers := #[.inr { layout := .compressed }], heap := onRecord.scene.heap }

/-- No barrier can be set up for cards of three bytes. -/
theorem unclaimed_odd (cards : Store) : host.Unclaimed [.start { cardBytes := 3 } cards] := by
  show host.Unclaimed ([] ++ [_])
  refine Host.unclaimed_concat.2 ⟨Host.unclaimed_nil host, fun b h => ?_⟩
  obtain ⟨s, cards, b', hx, hs, -⟩ | ⟨position, hx, -⟩ := h.cases
  · cases hx
    cases hs
  · cases hx

/-- A start fails by its settings and leaves the place open. The barrier that lists is installed
then, and stays so when a card-marking barrier is to be installed after. -/
theorem host_listBarrier_installed :
    (host.after [.start { cardBytes := 3 } onRecord.scene.ledger.cards]).Open ∧
      ∃ k, (host.after [.start { cardBytes := 3 } onRecord.scene.ledger.cards, .install 0,
        .start (settings true true) onRecord.scene.ledger.cards]).Taken k
          (.inr { layout := .compressed }) := by
  have hodd := unclaimed_odd onRecord.scene.ledger.cards
  obtain ⟨k, -, -, h⟩ :=
    (Host.first_call_installs rfl _).2 _ (.install 0) _ _ rfl hodd (.present rfl rfl)
  exact ⟨(Host.first_call_installs rfl _).1 hodd, k, h⟩

end SmallHeap

end CardBarrier
