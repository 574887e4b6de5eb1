import CardBarrier.Proofs.Enclosure
import CardBarrier.Proofs.Observation
import CardBarrier.Proofs.TableHistory

/-!
# Which barriers can be set up

Three things are looked at before a barrier is in force: a card table looks at the size of its cards
and at where they begin, the settings at the size that they ask for, and the barrier at whether both
sizes are the same. Each of them refuses in a way of its own, and what one accepts the next may
still refuse, since a table takes cards of any power of two from a heap word on, and settings take
the smaller ones of these alone.

Together they accept the powers of two between a heap word and the largest size for settings, as
long as table and settings agree on one of them, and nothing else (`Barrier.setUpLaw`). A table that
is accepted has no more cards than it takes to hold what is covered. What is refused leaves no
event behind.
-/

namespace CardBarrier

/-! ## Powers of two between two others -/

namespace Word

variable {a : UInt64} {lo hi : Nat}

/-- **A power of two between two others**, which are given by their exponents. -/
def IsPowerBetween (lo hi : Nat) (a : UInt64) : Prop :=
  ∃ k, lo ≤ k ∧ k ≤ hi ∧ a.toNat = Nat.pow 2 k

theorem isPowerBetween_iff :
    IsPowerBetween lo hi a ↔
      IsPowerOfTwo a ∧ Nat.pow 2 lo ≤ a.toNat ∧ a.toNat ≤ Nat.pow 2 hi := by
  constructor
  · rintro ⟨k, hlo, hhi, hk⟩
    rw [hk]
    exact ⟨⟨k, hk⟩, Nat.pow_le_pow_right Nat.two_pos hlo, Nat.pow_le_pow_right Nat.two_pos hhi⟩
  · rintro ⟨⟨k, hk⟩, hlo, hhi⟩
    rw [hk] at hlo hhi
    exact ⟨k, (Nat.pow_le_pow_iff_right Nat.one_lt_two).1 hlo,
      (Nat.pow_le_pow_iff_right Nat.one_lt_two).1 hhi, hk⟩

instance : Decidable (IsPowerBetween lo hi a) :=
  decidable_of_iff _ isPowerBetween_iff.symm

/-- No power of two that is a word has a greater exponent than the last bit. -/
theorem isPowerBetween_word_iff :
    IsPowerBetween lo 63 a ↔ IsPowerOfTwo a ∧ Nat.pow 2 lo ≤ a.toNat := by
  rw [isPowerBetween_iff]
  refine and_congr_right fun ha => and_iff_left ?_
  obtain ⟨k, hk⟩ := ha
  have hlt : Nat.pow 2 k < Nat.pow 2 64 := hk ▸ a.toNat_lt
  have hk64 : k < 64 := (Nat.pow_lt_pow_iff_right Nat.one_lt_two).1 hlt
  rw [hk]
  exact Nat.pow_le_pow_right Nat.two_pos (Nat.le_of_lt_succ hk64)

end Word

/-! ## Tables -/

namespace Geometry

variable {covered : Interval} {size : UInt64} {g : Geometry}

/-- The sizes that cards of a table may have. -/
theorem cardSize_iff :
    Word.IsPowerOfTwo size ∧ minCardBytes ≤ size ↔ Word.IsPowerBetween 3 63 size := by
  rw [Word.isPowerBetween_word_iff, UInt64.le_iff_toNat_le]
  rfl

/-- **The size of cards is looked at first**, and where they begin second. -/
theorem ofCardSize_eq_error (h : ¬Word.IsPowerBetween 3 63 size) :
    ofCardSize covered size = .error (.mismatch (.cardSize size)) := by
  rw [← cardSize_iff] at h
  exact dif_neg h

theorem ofCardSize_eq_error_of_start (h : Word.IsPowerBetween 3 63 size)
    (hstart : ¬size.toNat ∣ covered.start.toNat) :
    ofCardSize covered size = .error (.mismatch (.unalignedStart covered)) := by
  rw [← cardSize_iff] at h
  unfold ofCardSize
  rw [dif_pos h, dif_neg hstart]

/-- **The intervals and the sizes that fit.** -/
theorem exists_ofCardSize_iff : (∃ g, ofCardSize covered size = .ok g) ↔
    Word.IsPowerBetween 3 63 size ∧ size.toNat ∣ covered.start.toNat := by
  rw [← cardSize_iff]
  unfold ofCardSize
  split
  · rename_i hsize
    rw [and_iff_right hsize]
    split
    · exact iff_of_true ⟨_, rfl⟩ ‹_›
    · refine iff_of_false ?_ ‹_›
      rintro ⟨g, hg⟩
      cases hg
  · rename_i hsize
    refine iff_of_false ?_ fun h => hsize h.1
    rintro ⟨g, hg⟩
    cases hg

/-- **There are no more cards than it takes** to hold the covered bytes. -/
theorem isLeast_count (g : Geometry) :
    IsLeast {n | g.covered.length.toNat ≤ n * g.cardBytes.toNat} g.count := by
  have hleast := Word.isLeast_mul_div g.cardSize_pos g.covered.length.toNat
  rw [toNat_cardBytes]
  constructor
  · rw [Set.mem_ofPred_eq, Nat.mul_comm]
    exact hleast.1.2
  · intro n hn
    rw [Set.mem_ofPred_eq, Nat.mul_comm] at hn
    exact Nat.le_of_mul_le_mul_left (hleast.2 ⟨Nat.dvd_mul_right _ n, hn⟩) g.cardSize_pos

end Geometry

namespace CardTable

variable {covered : Interval} {size : UInt64} {scanning : Scanning} {t : CardTable}

/-- A table is refused where the heap cannot be divided. -/
theorem ofCardSize_eq_error {e : SetupError} (h : Geometry.ofCardSize covered size = .error e) :
    ofCardSize covered size scanning = .error e := by
  unfold ofCardSize
  rw [h]
  rfl

theorem exists_ofCardSize_iff : (∃ t, ofCardSize covered size scanning = .ok t) ↔
    Word.IsPowerBetween 3 63 size ∧ size.toNat ∣ covered.start.toNat := by
  rw [← Geometry.exists_ofCardSize_iff]
  constructor
  · rintro ⟨t, ht⟩
    exact ⟨t.geometry, geometry_of_ofCardSize ht⟩
  · rintro ⟨g, hg⟩
    refine ⟨ofGeometry g scanning, ?_⟩
    unfold ofCardSize
    rw [hg]
    rfl

/-- **Every card of a table that is set up is clean.** -/
theorem get_of_ofCardSize (h : ofCardSize covered size scanning = .ok t)
    (card : Fin t.geometry.count) : t.cards.get card = .clean := by
  obtain ⟨g, -, rfl⟩ := exists_ofGeometry h
  exact Vector.getElem_replicate card.isLt

theorem scanning_of_ofCardSize (h : ofCardSize covered size scanning = .ok t) :
    t.scanning = scanning := by
  obtain ⟨g, -, rfl⟩ := exists_ofGeometry h
  rfl

end CardTable

/-! ## Settings -/

namespace Settings

variable {s : Settings}

/-- **Why settings are refused**: a size that is no power of two is named, and one that is a power
of two is too small or too large. -/
theorem validate_of_not_power (h : ¬Word.IsPowerOfTwo s.cardBytes) :
    s.validate = .error (.cardSizeNotPower s.cardBytes) := if_pos h

theorem validate_of_lt (h : Word.IsPowerOfTwo s.cardBytes) (hlt : s.cardBytes.toNat < Nat.pow 2 3) :
    s.validate = .error .cardTooSmall := by
  unfold validate
  rw [if_neg (not_not_intro h)]
  exact if_pos (UInt64.lt_iff_toNat_lt.2 hlt)

theorem validate_of_gt (h : Word.IsPowerOfTwo s.cardBytes)
    (hgt : Nat.pow 2 12 < s.cardBytes.toNat) : s.validate = .error .cardTooLarge := by
  have hlarge : maxCardBytes < s.cardBytes := UInt64.lt_iff_toNat_lt.2 hgt
  have hmin : ¬s.cardBytes < minCardBytes := by
    rw [UInt64.lt_iff_toNat_lt, Nat.not_lt]
    exact Nat.le_trans (by decide) (Nat.le_of_lt hgt)
  unfold validate
  rw [if_neg (not_not_intro h), if_neg hmin, if_pos hlarge]

/-- **The settings that can be used.** -/
theorem validate_eq_ok_iff :
    s.validate = .ok () ↔ Word.IsPowerBetween 3 12 s.cardBytes := by
  rw [Word.isPowerBetween_iff]
  constructor
  · intro h
    by_contra hnot
    by_cases hpower : Word.IsPowerOfTwo s.cardBytes
    · rw [and_iff_right hpower, not_and_or, Nat.not_le, Nat.not_le] at hnot
      rcases hnot with hlt | hgt
      · rw [validate_of_lt hpower hlt] at h
        cases h
      · rw [validate_of_gt hpower hgt] at h
        cases h
    · rw [validate_of_not_power hpower] at h
      cases h
  · rintro ⟨hpower, hmin, hmax⟩
    have hsmall : ¬s.cardBytes < minCardBytes :=
      fun hlt => Nat.not_lt.2 hmin (UInt64.lt_iff_toNat_lt.1 hlt)
    have hlarge : ¬maxCardBytes < s.cardBytes :=
      fun hlt => Nat.not_lt.2 hmax (UInt64.lt_iff_toNat_lt.1 hlt)
    unfold validate
    rw [if_neg (not_not_intro hpower), if_neg hsmall, if_neg hlarge]

theorem exists_validate_eq_error_iff :
    (∃ e, s.validate = .error e) ↔ ¬Word.IsPowerBetween 3 12 s.cardBytes := by
  rw [← validate_eq_ok_iff]
  cases s.validate with
  | error e => exact iff_of_true ⟨e, rfl⟩ nofun
  | ok u =>
    refine iff_of_false ?_ (not_not_intro rfl)
    rintro ⟨e, he⟩
    cases he

end Settings

/-! ## Barriers -/

namespace Barrier

variable {κ : Type} [RememberedSet κ] {s : Settings} {cards : κ} {b : Barrier κ} {j k : Journal}

/-- Settings that cannot be used are refused whatever the store is. -/
theorem ofSettings_eq_error (h : ¬Word.IsPowerBetween 3 12 s.cardBytes) (cards : κ) :
    ∃ e, s.validate = .error e ∧ ofSettings s cards = .error (.settings e) := by
  obtain ⟨e, he⟩ := Settings.exists_validate_eq_error_iff.2 h
  exact ⟨e, he, by rw [ofSettings, he]⟩

theorem ofSettings_of_ne (h : Word.IsPowerBetween 3 12 s.cardBytes)
    (hne : RememberedSet.cardBytes cards ≠ s.cardBytes) : ofSettings s cards
      = .error (.mismatch (.otherCardSize (RememberedSet.cardBytes cards) s.cardBytes)) := by
  rw [ofSettings, Settings.validate_eq_ok_iff.2 h]
  exact if_neg hne

/-- **The settings and the stores that fit.** -/
theorem exists_ofSettings_iff : (∃ b, ofSettings s cards = .ok b) ↔
    Word.IsPowerBetween 3 12 s.cardBytes ∧ RememberedSet.cardBytes cards = s.cardBytes := by
  constructor
  · rintro ⟨b, hb⟩
    by_contra hnot
    by_cases hsettings : Word.IsPowerBetween 3 12 s.cardBytes
    · rw [ofSettings_of_ne hsettings fun heq => hnot ⟨hsettings, heq⟩] at hb
      cases hb
    · obtain ⟨e, -, he⟩ := ofSettings_eq_error hsettings cards
      rw [he] at hb
      cases hb
  · rintro ⟨hsettings, heq⟩
    rw [ofSettings, Settings.validate_eq_ok_iff.2 hsettings]
    exact ⟨_, if_pos heq⟩

/-- **What comes of setting a barrier up** is what comes of its settings and its store: to say so
never fails. -/
theorem outcome_setUp (s : Settings) (cards : κ) (j : Journal) :
    ((setUp s cards).run j).1 = (ofSettings s cards).mapError .setup := by
  cases hb : ofSettings s cards with
  | error e =>
    rw [run_setUp_of_error hb]
    rfl
  | ok b =>
    obtain ⟨k, hk⟩ := b.exists_keep_initialized j
    rw [run_setUp hb hk]
    rfl

theorem setUp_eq_ok_iff : ((setUp s cards).run j).1 = .ok b ↔ ofSettings s cards = .ok b := by
  rw [outcome_setUp]
  cases ofSettings s cards <;> simp [Except.mapError]

/-- **A barrier that is set up is told of if its settings ask for events**, and else is not. -/
theorem log_setUp (h : (setUp s cards).run j = (.ok b, k)) :
    (s.verbose = true → j.log.add b.initialized = .ok k.log) ∧
      (s.verbose = false → k.log = j.log) := by
  have hb := setUp_eq_ok_iff.1 (congrArg Prod.fst h)
  have hverbose : b.policy.verbose = s.verbose := by
    rw [eq_of_ofSettings hb]
    rfl
  obtain ⟨k', hk'⟩ := b.exists_keep_initialized j
  rw [run_setUp hb hk', hverbose] at h
  constructor
  · intro hs
    rw [hs, if_pos rfl] at h
    cases h
    obtain ⟨l, hadd, rfl⟩ := Journal.keep_eq_ok_iff.1 hk'
    exact hadd
  · intro hs
    rw [hs, if_neg Bool.false_ne_true] at h
    cases h
    rfl

/-- Where no barrier is set up nothing is said. -/
theorem eq_of_setUp_eq_error {e : Failure} (h : (setUp s cards).run j = (.error e, k)) : k = j := by
  cases hs : ofSettings s cards with
  | error e' =>
    rw [run_setUp_of_error hs] at h
    cases h
    rfl
  | ok b =>
    have hok := setUp_eq_ok_iff (j := j).2 hs
    rw [h] at hok
    cases hok

/-- **What comes of setting up a card table** over a covered interval, with cards of a size, **and a
barrier** over a table with cards of that size. -/
structure SetUpLaw (covered : Interval) (size : UInt64) (scanning : Scanning) (s : Settings) :
    Prop where
  /-- A table is set up if and only if the size is a power of two from a heap word on and the
  covered interval begins at a multiple of it. -/
  table_iff : (∃ t, CardTable.ofCardSize covered size scanning = .ok t) ↔
    Word.IsPowerBetween 3 63 size ∧ size.toNat ∣ covered.start.toNat
  /-- Any other size is refused, wherever the interval begins. -/
  size_refused (h : ¬Word.IsPowerBetween 3 63 size) :
    CardTable.ofCardSize covered size scanning = .error (.mismatch (.cardSize size))
  /-- With such a size any other start is refused. -/
  start_refused (h : Word.IsPowerBetween 3 63 size) (hstart : ¬size.toNat ∣ covered.start.toNat) :
    CardTable.ofCardSize covered size scanning = .error (.mismatch (.unalignedStart covered))
  /-- A table that is set up is what was asked for. -/
  table_eq {t : CardTable} (h : CardTable.ofCardSize covered size scanning = .ok t) :
    t.covered = covered ∧ t.geometry.cardBytes = size ∧ t.scanning = scanning
  /-- It has the least number of cards that hold the covered bytes. -/
  least {t : CardTable} (h : CardTable.ofCardSize covered size scanning = .ok t) :
    IsLeast {n | covered.length.toNat ≤ n * size.toNat} t.size
  /-- All of them are clean. -/
  clean {t : CardTable} (h : CardTable.ofCardSize covered size scanning = .ok t)
    (card : Fin t.geometry.count) : t.cards.get card = .clean
  /-- A barrier is set up over a table with cards of that size, in whatever state, if and only if
  the settings ask for the size and can be used. -/
  barrier_iff {t : CardTable} (ht : t.geometry.cardBytes = size) (j : Journal) :
    (∃ b, ((setUp s t).run j).1 = .ok b) ↔
      Word.IsPowerBetween 3 12 s.cardBytes ∧ size = s.cardBytes
  /-- Settings that cannot be used are refused as such over any table, and nothing is said. -/
  settings_refused (h : ¬Word.IsPowerBetween 3 12 s.cardBytes) (t : CardTable) (j : Journal) :
    ∃ e, s.validate = .error e ∧ (setUp s t).run j = (.error (.setup (.settings e)), j)
  /-- With settings that can be used a table with other cards is refused, and nothing is said. -/
  table_refused (h : Word.IsPowerBetween 3 12 s.cardBytes) {t : CardTable}
    (ht : t.geometry.cardBytes = size) (hne : size ≠ s.cardBytes) (j : Journal) :
    (setUp s t).run j = (.error (.setup (.mismatch (.otherCardSize size s.cardBytes))), j)
  /-- Where a barrier is set up, the event log is given the event of it if the settings ask for
  events, and else stays as it was. -/
  told {t : CardTable} {b : Barrier CardTable} {j k : Journal}
    (h : (setUp s t).run j = (.ok b, k)) :
    (s.verbose = true → j.log.add (.setUp t.summary (s.elision.defers t.scanning.ordersMarks)
      t.scanning.ordersMarks s.cardBytes) = .ok k.log) ∧ (s.verbose = false → k.log = j.log)
  /-- Where none is, it stays as it was. -/
  untold {t : CardTable} {e : Failure} {j k : Journal} (h : (setUp s t).run j = (.error e, k)) :
    k.log = j.log

/-- **Tables, settings and barriers together accept just the powers of two that they should**, and
each refuses what it refuses in its turn. -/
theorem setUpLaw (covered : Interval) (size : UInt64) (scanning : Scanning) (s : Settings) :
    SetUpLaw covered size scanning s := by
  constructor
  case table_iff => exact CardTable.exists_ofCardSize_iff
  case size_refused =>
    exact fun h => CardTable.ofCardSize_eq_error (Geometry.ofCardSize_eq_error h)
  case start_refused =>
    exact fun h hstart => CardTable.ofCardSize_eq_error
      (Geometry.ofCardSize_eq_error_of_start h hstart)
  case table_eq =>
    intro t h
    obtain ⟨hcovered, hsize, -⟩ := CardTable.of_ofCardSize h
    exact ⟨hcovered, hsize, CardTable.scanning_of_ofCardSize h⟩
  case least =>
    intro t h
    obtain ⟨rfl, rfl, -⟩ := CardTable.of_ofCardSize h
    exact t.geometry.isLeast_count
  case clean => exact CardTable.get_of_ofCardSize
  case barrier_iff =>
    intro t ht j
    subst ht
    simp only [setUp_eq_ok_iff]
    exact exists_ofSettings_iff
  case settings_refused =>
    intro h t j
    obtain ⟨e, hvalidate, he⟩ := ofSettings_eq_error h t
    exact ⟨e, hvalidate, run_setUp_of_error he j⟩
  case table_refused =>
    intro h t ht hne j
    subst ht
    exact run_setUp_of_error (ofSettings_of_ne h hne) j
  case told =>
    intro t b j k h
    have hlog := log_setUp h
    rw [initialized_of_ofSettings (setUp_eq_ok_iff.1 (congrArg Prod.fst h))] at hlog
    exact hlog
  case untold => exact fun h => congrArg Journal.log (eq_of_setUp_eq_error h)

/-- A table may have a single card of half the address space. No settings ask for one. -/
example : ∃ t, CardTable.ofCardSize ⟨0x8000000000000000, 0x8000000000000001, by decide⟩
    0x8000000000000000 .stopTheWorld = .ok t ∧ t.size = 1 := ⟨_, rfl, rfl⟩

end Barrier

end CardBarrier
