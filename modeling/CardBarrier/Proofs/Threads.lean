import CardBarrier.Arena
import CardBarrier.Proofs.Yields

/-!
# Threads by name, and steps of one of them

Threads are kept in a list that is in order of names, but which thread a name finds
(`Threads.find?`) can be told without that: putting a thread in, forgetting one and putting in
several at once change what these names find and no more. That the list is in order
(`Threads.Ordered`) matters where threads are counted, for then each of them is listed once.

With the first of these a step of one thread is a step of the others only in what they share
(`Arena.run_atThread`).
-/

namespace CardBarrier

namespace Threads

variable {τ : Type} {ts : Threads τ} {n m : String} {t : τ}

theorem lookup_cons (entries : List (String × τ)) (n m : String) (t : τ) :
    ((n, t) :: entries).lookup m = if m = n then some t else entries.lookup m := by
  rw [List.lookup_cons]
  by_cases hmn : m = n
  · rw [beq_iff_eq.2 hmn, if_pos hmn]
  · rw [beq_eq_false_iff_ne.2 hmn, if_neg hmn]

theorem lookup_insertEntry (entries : List (String × τ)) (n m : String) (t : τ) :
    (insertEntry n t entries).lookup m = if m = n then some t else entries.lookup m := by
  induction entries with
  | nil => exact lookup_cons [] n m t
  | cons entry rest ih =>
    obtain ⟨other, u⟩ := entry
    rw [insertEntry]
    split
    · rw [lookup_cons]
    · split
      · rename_i heq
        subst heq
        rw [lookup_cons, lookup_cons]
        by_cases hmn : m = n <;> simp [hmn]
      · rename_i hne
        rw [lookup_cons, lookup_cons, ih]
        by_cases hmo : m = other
        · have hmn : m ≠ n := fun hmn => hne (hmn.symm.trans hmo)
          rw [if_pos hmo, if_neg hmn, if_pos hmo]
        · rw [if_neg hmo, if_neg hmo]

/-- **A thread put in is found under its name**, and the others as before. -/
theorem find?_insert (ts : Threads τ) (n m : String) (t : τ) :
    (ts.insert n t).find? m = if m = n then some t else ts.find? m :=
  lookup_insertEntry _ _ _ _

@[simp] theorem find?_insert_self : (ts.insert n t).find? n = some t := by
  rw [find?_insert, if_pos rfl]

theorem find?_insert_of_ne (h : m ≠ n) : (ts.insert n t).find? m = ts.find? m := by
  rw [find?_insert, if_neg h]

/-- What is found after a thread was put in is that thread or was there before. -/
theorem find?_insert_cases {u : τ} (h : (ts.insert n t).find? m = some u) :
    m = n ∧ u = t ∨ ts.find? m = some u := by
  rw [find?_insert] at h
  split at h
  · rename_i hmn
    exact .inl ⟨hmn, (Option.some.inj h).symm⟩
  · exact .inr h

/-- **A thread that is forgotten is not found**, and the others are as before. -/
theorem find?_erase (ts : Threads τ) (n m : String) :
    (ts.erase n).find? m = if m = n then none else ts.find? m := by
  unfold erase find?
  induction ts.entries with
  | nil => simp
  | cons entry rest ih =>
    obtain ⟨other, u⟩ := entry
    rw [List.filter_cons, lookup_cons]
    by_cases hon : other = n
    · rw [if_neg (by simp [hon]), hon]
      by_cases hmn : m = n
      · rw [if_pos hmn] at ih ⊢
        exact ih
      · rw [if_neg hmn] at ih ⊢
        rw [if_neg hmn]
        exact ih
    · rw [if_pos (by simp [hon]), lookup_cons]
      by_cases hmo : m = other
      · rw [if_pos hmo, if_pos hmo, if_neg (hmo ▸ hon)]
      · rw [if_neg hmo, if_neg hmo]
        exact ih

/-- **The names are those under which a thread is found.** -/
theorem mem_names_iff : n ∈ ts.names ↔ ∃ t, ts.find? n = some t := by
  unfold names find?
  induction ts.entries with
  | nil => simp
  | cons entry rest ih =>
    obtain ⟨other, u⟩ := entry
    rw [List.map_cons, List.mem_cons, ih, lookup_cons]
    by_cases hno : n = other <;> simp [hno]

theorem require_eq_ok_iff : ts.require n = .ok t ↔ ts.find? n = some t := by
  unfold require
  cases ts.find? n <;> simp

/-- Several threads are there if each of them is. -/
theorem mapM_require_eq_ok_iff {names : List String} {us : List τ} :
    names.mapM ts.require = .ok us ↔ names.map ts.find? = us.map some := by
  induction names generalizing us with
  | nil => cases us <;> simp [pure, Except.pure]
  | cons name names ih =>
    rw [List.mapM_cons]
    constructor
    · intro h
      cases hname : ts.require name with
      | error f => simp [hname, bind, Except.bind] at h
      | ok t =>
        cases hnames : names.mapM ts.require with
        | error f => simp [hname, hnames, bind, Except.bind] at h
        | ok vs =>
          rw [hname, hnames] at h
          cases h
          rw [List.map_cons, List.map_cons, require_eq_ok_iff.1 hname, ih.1 hnames]
    · intro h
      cases us with
      | nil => cases h
      | cons u us =>
        obtain ⟨hname, hnames⟩ := List.cons.inj h
        rw [require_eq_ok_iff.2 hname, ih.2 hnames]
        rfl

theorem exists_map_find? {names : List String} (h : ∀ n ∈ names, ∃ t, ts.find? n = some t) :
    ∃ us : List τ, names.map ts.find? = us.map some := by
  induction names with
  | nil => exact ⟨[], rfl⟩
  | cons name names ih =>
    obtain ⟨t, ht⟩ := h name List.mem_cons_self
    obtain ⟨us, hus⟩ := ih fun n hn => h n (List.mem_cons_of_mem name hn)
    exact ⟨t :: us, by rw [List.map_cons, List.map_cons, ht, hus]⟩

/-- **Several threads put in, each with something done to it**, are found so, and the others
as before. It does no harm if one is named more than once. -/
theorem find?_insertAll_zip {names : List String} {us : List τ} (f : τ → τ)
    (h : names.map ts.find? = us.map some) (ts' : Threads τ) :
    (ts'.insertAll (names.zip (us.map f))).find? m
      = if m ∈ names then (ts.find? m).map f else ts'.find? m := by
  induction names generalizing us ts' with
  | nil => simp [insertAll]
  | cons name names ih =>
    cases us with
    | nil => simp at h
    | cons u us =>
      rw [List.map_cons, List.map_cons, List.cons.injEq] at h
      obtain ⟨hname, hnames⟩ := h
      show ((ts'.insert name (f u)).insertAll (names.zip (us.map f))).find? m = _
      rw [ih hnames, find?_insert]
      by_cases hmem : m ∈ names
      · simp [hmem]
      · by_cases hmn : m = name
        · simp [hmn, hname]
        · simp [hmem, hmn]

/-! ## In order, and counted -/

/-- **Threads in the order of their names**, each name once. -/
def Ordered (ts : Threads τ) : Prop := ts.names.Pairwise (· < ·)

theorem find?_eq_none_iff : ts.find? n = none ↔ n ∉ ts.names := by
  rw [mem_names_iff]
  cases ts.find? n <;> simp

theorem mem_names_insert : m ∈ (ts.insert n t).names ↔ m = n ∨ m ∈ ts.names := by
  rw [mem_names_iff, mem_names_iff, find?_insert]
  split
  · rename_i hmn
    exact iff_of_true ⟨t, rfl⟩ (.inl hmn)
  · rename_i hmn
    exact (or_iff_right hmn).symm

theorem ordered_of_bare (h : ∀ name, ts.find? name = none) : ts.Ordered := by
  have hnames : ts.names = [] :=
    List.eq_nil_iff_forall_not_mem.2 fun name => find?_eq_none_iff.1 (h name)
  rw [Ordered, hnames]
  exact .nil

/-- A thread finds its place in the order. -/
theorem ordered_insert (h : ts.Ordered) : (ts.insert n t).Ordered := by
  obtain ⟨entries⟩ := ts
  induction entries with
  | nil => exact List.pairwise_singleton _ _
  | cons entry rest ih =>
    obtain ⟨other, u⟩ := entry
    obtain ⟨hother, hrest⟩ := List.pairwise_cons.1 h
    show ((insertEntry n t ((other, u) :: rest)).map Prod.fst).Pairwise (· < ·)
    rw [insertEntry]
    split
    · rename_i hlt
      refine List.pairwise_cons.2 ⟨fun m hm => ?_, h⟩
      rcases List.mem_cons.1 hm with rfl | hm
      · exact hlt
      · exact String.lt_trans hlt (hother m hm)
    · split
      · rename_i heq
        subst heq
        exact h
      · rename_i hle hne
        refine List.pairwise_cons.2 ⟨fun m hm => ?_, ih hrest⟩
        have hnames : m ∈ (insert ⟨rest⟩ n t).names := hm
        rcases mem_names_insert.1 hnames with rfl | hm
        · refine String.not_le.1 fun hge => hne ?_
          exact (String.le_antisymm (String.not_lt.1 hle) hge).symm
        · exact hother m hm

theorem ordered_erase (h : ts.Ordered) : (ts.erase n).Ordered :=
  h.sublist (List.Sublist.map _ List.filter_sublist)

theorem ordered_insertAll (named : List (String × τ)) (h : ts.Ordered) :
    (ts.insertAll named).Ordered := by
  induction named generalizing ts with
  | nil => exact h
  | cons entry named ih => exact ih (ordered_insert h)

theorem Ordered.nodup_names (h : ts.Ordered) : ts.names.Nodup := by
  refine List.Pairwise.imp (fun {n m} hlt => ?_) h
  rintro rfl
  exact String.lt_irrefl _ hlt

/-- In order, what is listed under a name is found there. -/
theorem find?_of_mem (h : ts.Ordered) (hmem : (n, t) ∈ ts.entries) : ts.find? n = some t := by
  obtain ⟨entries⟩ := ts
  induction entries with
  | nil => exact absurd hmem List.not_mem_nil
  | cons entry rest ih =>
    obtain ⟨other, u⟩ := entry
    obtain ⟨hother, hrest⟩ := List.pairwise_cons.1 h
    show ((other, u) :: rest).lookup n = some t
    rw [lookup_cons]
    rcases List.mem_cons.1 hmem with heq | hmem
    · cases heq
      exact if_pos rfl
    · have hlt : other < n := hother n (List.mem_map_of_mem hmem)
      rw [if_neg fun heq => String.lt_irrefl _ (heq ▸ hlt)]
      exact ih hrest hmem

/-- **How many threads are of some kind.** -/
def count (P : τ → Bool) (ts : Threads τ) : Nat := ts.entries.countP fun entry => P entry.2

variable {P : τ → Bool}

/-- **A thread put in takes the place of the one of its name**, and counts in its stead. -/
theorem count_insert (h : ts.Ordered) :
    (ts.insert n t).count P + (ts.find? n).toList.countP P = ts.count P + [t].countP P := by
  obtain ⟨entries⟩ := ts
  induction entries with
  | nil => simp [count, insert, insertEntry, find?]
  | cons entry rest ih =>
    obtain ⟨other, u⟩ := entry
    obtain ⟨hother, hrest⟩ := List.pairwise_cons.1 h
    show (insertEntry n t ((other, u) :: rest)).countP _
      + (((other, u) :: rest).lookup n).toList.countP P = _
    rw [insertEntry, lookup_cons]
    split
    · rename_i hlt
      have hnot : find? ⟨rest⟩ n = none := find?_eq_none_iff.2 fun hmem =>
        String.lt_irrefl _ (String.lt_trans hlt (hother n hmem))
      have hnot : rest.lookup n = none := hnot
      have hne : n ≠ other := fun heq => String.lt_irrefl _ (heq ▸ hlt)
      rw [if_neg hne, hnot]
      simp [count, List.countP_cons]
    · split
      · simp [count, List.countP_cons]
        omega
      · have := ih hrest
        simp only [count, insert, find?, List.countP_cons] at this ⊢
        omega

/-- **A thread that is forgotten** does not count any more. -/
theorem count_erase (h : ts.Ordered) :
    (ts.erase n).count P + (ts.find? n).toList.countP P = ts.count P := by
  obtain ⟨entries⟩ := ts
  induction entries with
  | nil => rfl
  | cons entry rest ih =>
    obtain ⟨other, u⟩ := entry
    obtain ⟨hother, hrest⟩ := List.pairwise_cons.1 h
    have ih := ih hrest
    simp only [count, erase, find?] at ih ⊢
    rw [List.filter_cons, lookup_cons]
    by_cases hne : n = other
    · -- no other thread has its name
      subst hne
      have hrest : rest.filter (·.1 != n) = rest := by
        refine List.filter_eq_self.2 fun entry hentry => bne_iff_ne.2 fun heq => ?_
        exact String.lt_irrefl _ (heq ▸ hother entry.1 (List.mem_map_of_mem hentry))
      rw [if_neg (by simp), if_pos rfl, hrest, List.countP_cons]
      simp
    · rw [if_pos (bne_iff_ne.2 (Ne.symm hne)), if_neg hne, List.countP_cons, List.countP_cons]
      omega

/-- **Several threads put in take the places of those of their names**, if no name is given
twice. -/
theorem count_insertAll {names : List String} {us vs : List τ} (h : ts.Ordered)
    (hnames : names.Nodup) (hfind : names.map ts.find? = us.map some)
    (hlength : vs.length = us.length) :
    (ts.insertAll (names.zip vs)).count P + us.countP P = ts.count P + vs.countP P := by
  induction names generalizing ts us vs with
  | nil =>
    obtain rfl : us = [] := List.map_eq_nil_iff.1 hfind.symm
    obtain rfl : vs = [] := List.eq_nil_of_length_eq_zero hlength
    rfl
  | cons name names ih =>
    obtain ⟨u, us, rfl⟩ : ∃ u us', us = u :: us' := by
      cases us with
      | nil => cases hfind
      | cons u us => exact ⟨u, us, rfl⟩
    obtain ⟨v, vs, rfl⟩ := List.exists_cons_of_length_eq_add_one hlength
    obtain ⟨hname, hnames⟩ := List.nodup_cons.1 hnames
    obtain ⟨hu, hfind⟩ := List.cons.inj hfind
    have hrest : names.map (ts.insert name v).find? = us.map some := by
      rw [← hfind]
      refine List.map_congr_left fun m hm => find?_insert_of_ne ?_
      rintro rfl
      exact hname hm
    have hrest := ih (ordered_insert h) hnames hrest (Nat.succ.inj hlength)
    have hfirst := count_insert (P := P) (t := v) (n := name) h
    rw [hu] at hfirst
    show ((ts.insert name v).insertAll (names.zip vs)).count P + _ = _
    simp only [Option.toList_some, List.countP_cons, List.countP_nil] at hfirst hrest ⊢
    omega

/-- No thread counts if none is of that kind. -/
theorem count_eq_zero (h : ts.Ordered) (hP : ∀ name t, ts.find? name = some t → P t = false) :
    ts.count P = 0 := by
  refine List.countP_eq_zero.2 fun entry hentry => ?_
  rw [hP entry.1 entry.2 (find?_of_mem h hentry)]
  exact Bool.false_ne_true

end Threads

namespace Arena

variable {κ ω τ α : Type} {a c : Arena κ ω τ} {name : String} {x : α}

/-- The arena with another ledger. -/
def withLedger (l : Ledger κ) (a : Arena κ ω τ) : Arena κ ω τ :=
  ⟨⟨l, a.scene.heap, a.scene.journal⟩, a.threads⟩

/-- **A step of one thread** changes that thread and what all of them share. -/
theorem run_atThread (act : Act (Site κ ω τ) α) {t : τ} (h : a.threads.find? name = some t) :
    (atThread name act).run a = ((act.run ⟨a.scene, t⟩).1,
      ⟨(act.run ⟨a.scene, t⟩).2.scene,
        a.threads.insert name (act.run ⟨a.scene, t⟩).2.thread⟩) := by
  unfold atThread
  rw [Act.run_bind, Act.run_get]
  dsimp only
  rw [Act.run_bind, Act.run_ofExcept, Threads.require_eq_ok_iff.2 h]
  rfl

/-- A thread that is not there takes no step. -/
theorem run_atThread_of_none (act : Act (Site κ ω τ) α) (h : a.threads.find? name = none) :
    (atThread name act).run a = (.error (.foreign s!"no thread named {name}"), a) := by
  unfold atThread Threads.require
  rw [Act.run_bind, Act.run_get]
  dsimp only
  rw [Act.run_bind, Act.run_ofExcept, h]

theorem atThread_yields {act : Act (Site κ ω τ) α} :
    (atThread name act).Yields a x c ↔ ∃ t s, a.threads.find? name = some t ∧
      act.Yields ⟨a.scene, t⟩ x s ∧ c = ⟨s.scene, a.threads.insert name s.thread⟩ := by
  unfold Act.Yields
  cases hname : a.threads.find? name with
  | none =>
    rw [run_atThread_of_none act hname]
    simp
  | some t =>
    rw [run_atThread act hname]
    constructor
    · intro h
      rw [Prod.mk.injEq] at h
      exact ⟨t, _, rfl, Prod.ext h.1 rfl, h.2.symm⟩
    · rintro ⟨_, s, ht, hact, rfl⟩
      cases ht
      rw [hact]

/-- **A step of several threads** puts all of them back. -/
theorem run_atThreads {names : List String} {ts : List τ} (act : Act (Site κ ω (List τ)) α)
    (h : names.map a.threads.find? = ts.map some) :
    (atThreads names act).run a = ((act.run ⟨a.scene, ts⟩).1,
      ⟨(act.run ⟨a.scene, ts⟩).2.scene,
        a.threads.insertAll (names.zip (act.run ⟨a.scene, ts⟩).2.thread)⟩) := by
  unfold atThreads
  rw [Act.run_bind, Act.run_get]
  dsimp only
  rw [Act.run_bind, Act.run_ofExcept, Threads.mapM_require_eq_ok_iff.2 h]
  rfl

/-- Threads of which one is not there take no step. -/
theorem run_atThreads_of_error {names : List String} {f : Fault} (act : Act (Site κ ω (List τ)) α)
    (h : names.mapM a.threads.require = .error f) :
    (atThreads names act).run a = (.error f, a) := by
  unfold atThreads
  rw [Act.run_bind, Act.run_get]
  dsimp only
  rw [Act.run_bind, Act.run_ofExcept, h]

theorem atThreads_yields {names : List String} {act : Act (Site κ ω (List τ)) α}
    (h : (atThreads names act).Yields a x c) :
    ∃ ts s, names.map a.threads.find? = ts.map some ∧ act.Yields ⟨a.scene, ts⟩ x s ∧
      c = ⟨s.scene, a.threads.insertAll (names.zip s.thread)⟩ := by
  have hthreads := h
  unfold atThreads at hthreads
  obtain ⟨_, b, hget, hrest⟩ := Act.yields_bind.1 hthreads
  obtain ⟨rfl, rfl⟩ := Act.yields_get.1 hget
  obtain ⟨ts, b', hrequire, -⟩ := Act.yields_bind.1 hrest
  have hfind := Threads.mapM_require_eq_ok_iff.1 (Act.yields_ofExcept.1 hrequire).1
  unfold Act.Yields at h
  rw [run_atThreads act hfind, Prod.mk.injEq] at h
  exact ⟨ts, _, hfind, Prod.ext h.1 rfl, h.2.symm⟩

/-- A thread that is there can take a step that comes through for it. -/
theorem succeeds_atThread {act : Act (Site κ ω τ) α} {t : τ} (h : a.threads.find? name = some t)
    (hact : act.Succeeds ⟨a.scene, t⟩) : (atThread name act).Succeeds a := by
  obtain ⟨x, s, hs⟩ := hact
  exact ⟨x, _, atThread_yields.2 ⟨t, s, h, hs, rfl⟩⟩

theorem succeeds_atThreads {names : List String} {act : Act (Site κ ω (List τ)) α}
    (h : ∀ n ∈ names, ∃ t, a.threads.find? n = some t)
    (hact : ∀ ts, names.map a.threads.find? = ts.map some → act.Succeeds ⟨a.scene, ts⟩) :
    (atThreads names act).Succeeds a := by
  obtain ⟨ts, hts⟩ := Threads.exists_map_find? h
  obtain ⟨x, s, hs⟩ := hact ts hts
  unfold Act.Yields at hs
  refine ⟨x, ⟨s.scene, a.threads.insertAll (names.zip s.thread)⟩, ?_⟩
  unfold Act.Yields
  rw [run_atThreads act hts, hs]

theorem onLedger_yields {act : Act (Ledger κ) α} :
    (onLedger act : Act (Arena κ ω τ) α).Yields a x c ↔
      ∃ l, act.Yields a.scene.ledger x l ∧ c = a.withLedger l := by
  unfold onLedger onScene Scene.onLedger
  simp only [Act.yields_within]
  constructor
  · rintro ⟨_, ⟨l, hl, rfl⟩, rfl⟩
    exact ⟨l, hl, rfl⟩
  · rintro ⟨l, hl, rfl⟩
    exact ⟨_, ⟨l, hl, rfl⟩, rfl⟩

end Arena

theorem Policy.silently_yields {σ : Type} {act : Act σ Unit} {s t : σ} {reply : Reply} :
    (silently act).Yields s reply t ↔ reply = .done ∧ act.Yields s () t := by
  unfold silently
  rw [Act.yields_bind]
  constructor
  · rintro ⟨_, u, hact, hpure⟩
    obtain ⟨rfl, rfl⟩ := Act.yields_pure.1 hpure
    exact ⟨rfl, hact⟩
  · rintro ⟨rfl, hact⟩
    exact ⟨(), t, hact, Act.yields_pure.2 ⟨rfl, rfl⟩⟩

theorem Policy.succeeds_silently {σ : Type} {act : Act σ Unit} {s : σ} (h : act.Succeeds s) :
    (silently act).Succeeds s := h.bind fun _ _ _ => Act.succeeds_pure _ _

end CardBarrier
