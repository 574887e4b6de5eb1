import Mathlib.Data.List.Forall2
import CardBarrier.Environment
import CardBarrier.Proofs.Acceptance

/-!
# What the environment asks for

A text stands for a switch or for a word, or for neither, and which it is is said here by what the
text looks like and not by how it is read: a switch is a digit or a word whose letters may be
capitals each (`Environment.Spells`), and a number is decimal digits that may have a plus sign in
front (`Environment.IsNumeral`). Reading recognizes just these texts.

Each of the five variables has a setting of its own, and that follows from the variable alone
(`Environment.Follows`): it is what the text stands for, or else the standard one, and the only
thing that is remarked on is a text that stands for nothing. So the settings that an environment
asks for are known field by field (`Environment.settingsLaw`), and the only ones that cannot be used
are those with a card size that was asked for.
-/

namespace CardBarrier

namespace Environment

/-! ## What texts stand for -/

/-- **A word in any mixture of cases**: each letter is that of the word or its capital. -/
def Spells (word s : String) : Prop :=
  List.Forall₂ (fun c d => d = c ∨ d = c.toUpper) word.toList s.toList

/-- **The texts that stand for a switch.** -/
def IsSwitch (s : String) : Bool → Prop
  | true => s = "1" ∨ Spells "true" s
  | false => s = "0" ∨ Spells "false" s

/-- **The texts that stand for a word**: decimal digits, of which there is one at least, with that
value, and at most one plus sign in front. -/
def IsNumeral (s : String) (w : UInt64) : Prop :=
  ∃ digits : List Char, digits ≠ [] ∧ (s.toList = digits ∨ s.toList = '+' :: digits) ∧
    (∀ c ∈ digits, '0' ≤ c ∧ c ≤ '9') ∧ Nat.ofDigitChars 10 digits 0 = w.toNat

/-! ### Switches -/

section Switch

variable {c d : Char} {s word : String}

theorem toNat_toLower (c : Char) :
    c.toLower.toNat = if 65 ≤ c.toNat ∧ c.toNat ≤ 90 then c.toNat + 32 else c.toNat := by
  have hiff : c.val ≥ 'A'.val ∧ c.val ≤ 'Z'.val ↔ 65 ≤ c.toNat ∧ c.toNat ≤ 90 := Iff.rfl
  unfold Char.toLower
  simp only [hiff]
  split
  · rename_i h
    have hhi : c.val.toNat ≤ 90 := h.2
    show (c.val + 32).toNat = c.val.toNat + 32
    rw [UInt32.toNat_add]
    exact Nat.mod_eq_of_lt (Nat.lt_of_le_of_lt (Nat.add_le_add_right hhi 32) (by decide))
  · rfl

theorem toNat_toUpper (hc : 97 ≤ c.toNat ∧ c.toNat ≤ 122) : c.toUpper.toNat + 32 = c.toNat := by
  have hrange : c.val ≥ 'a'.val ∧ c.val ≤ 'z'.val := hc
  have hlo : 97 ≤ c.val.toNat := hc.1
  have hhi : c.val.toNat ≤ 122 := hc.2
  unfold Char.toUpper
  rw [dif_pos hrange]
  -- going down by 32 is going up by the rest of the word
  show (c.val + 4294967264).toNat + 32 = c.val.toNat
  rw [UInt32.toNat_add]
  show (c.val.toNat + 4294967264) % 4294967296 + 32 = c.val.toNat
  omega

/-- The characters that have a small letter in lower case. -/
theorem toLower_eq_iff (hc : c.isLower = true) : d.toLower = c ↔ d = c ∨ d = c.toUpper := by
  have hboth : (decide (c.val ≥ 'a'.val) && decide (c.val ≤ 'z'.val)) = true := hc
  rw [Bool.and_eq_true, decide_eq_true_iff, decide_eq_true_iff] at hboth
  have hrange : 97 ≤ c.toNat ∧ c.toNat ≤ 122 := hboth
  have hupper := toNat_toUpper hrange
  rw [← Char.toNat_inj, ← Char.toNat_inj, ← Char.toNat_inj, toNat_toLower]
  split <;> omega

/-- **A text has a word of small letters in lower case** if it spells the word. -/
theorem lowercase_eq_iff (hword : word.toList.all Char.isLower = true) :
    lowercase s = word ↔ Spells word s := by
  rw [lowercase, ← String.toList_inj, String.toList_ofList, Spells]
  generalize s.toList = ds at *
  generalize word.toList = cs at *
  induction cs generalizing ds with
  | nil => simp
  | cons c cs ih =>
    rw [List.all_cons, Bool.and_eq_true] at hword
    cases ds with
    | nil => simp
    | cons d ds =>
      rw [List.map_cons, List.cons.injEq, List.forall₂_cons, toLower_eq_iff hword.1,
        ih ds hword.2]

/-- **A switch is read from the texts that stand for it.** -/
theorem readSwitch?_eq_some_iff {b : Bool} : readSwitch? s = some b ↔ IsSwitch s b := by
  have htrue : lowercase s = "true" ↔ Spells "true" s := lowercase_eq_iff (by decide)
  have hfalse : lowercase s = "false" ↔ Spells "false" s := lowercase_eq_iff (by decide)
  -- no text stands for both
  have hone : s = "0" ∨ lowercase s = "false" → ¬(s = "1" ∨ lowercase s = "true") := by
    rintro (rfl | hoff) (hon | hon)
    · exact absurd hon (by decide)
    · exact absurd hon (by decide)
    · exact absurd (hon ▸ hoff) (by decide)
    · exact absurd (hon.symm.trans hoff) (by decide)
  unfold readSwitch?
  cases b with
  | true =>
    rw [IsSwitch, ← htrue]
    split
    · exact iff_of_true rfl ‹_›
    · exact iff_of_false (by split <;> exact nofun) ‹_›
  | false =>
    rw [IsSwitch, ← hfalse]
    split
    · exact iff_of_false nofun fun h => hone h ‹_›
    · split
      · exact iff_of_true rfl ‹_›
      · exact iff_of_false nofun ‹_›

end Switch

/-! ### Numbers -/

section Number

variable {s : String} {w : UInt64}

theorem isDigit_iff {c : Char} : c.isDigit = true ↔ '0' ≤ c ∧ c ≤ '9' := by
  unfold Char.isDigit
  rw [Bool.and_eq_true, decide_eq_true_iff, decide_eq_true_iff]
  rfl

/-- **Digits are read as a number** that goes on from the one before them. -/
theorem readDigits?_eq_some_iff {n m : Nat} {cs : List Char} :
    readDigits? n cs = some m ↔
      (∀ c ∈ cs, '0' ≤ c ∧ c ≤ '9') ∧ Nat.ofDigitChars 10 cs n = m := by
  induction cs generalizing n with
  | nil => simp [readDigits?]
  | cons c cs ih =>
    rw [readDigits?, List.forall_mem_cons, ← isDigit_iff, Nat.ofDigitChars_cons]
    cases c.isDigit with
    | false => simp
    | true => rw [if_pos rfl, ih, and_iff_right rfl]

/-- **The digits of a text** are what it is without a plus sign in front, if that is digits. -/
theorem digits?_eq_some_iff {cs : List Char} (hdigits : ∀ c ∈ cs, '0' ≤ c ∧ c ≤ '9') :
    digits? s = some cs ↔ cs ≠ [] ∧ (s.toList = cs ∨ s.toList = '+' :: cs) := by
  have hplus : ∀ tail, '+' :: tail ≠ cs := by
    rintro tail rfl
    exact absurd (hdigits '+' List.mem_cons_self).1 (by decide)
  unfold digits?
  split
  · rename_i c tail hs
    rw [hs, or_iff_right (hplus _), Option.some.injEq, List.cons.injEq, and_iff_right rfl]
    exact ⟨fun h => ⟨h ▸ List.cons_ne_nil c tail, h⟩, fun h => h.2⟩
  · rename_i hs
    rw [hs, or_iff_right (hplus _), List.cons.injEq, and_iff_right rfl]
    exact iff_of_false nofun fun h => h.1 h.2.symm
  · rename_i hs
    rw [hs]
    exact iff_of_false nofun fun h => h.2.elim (fun h' => h.1 h'.symm) nofun
  · rename_i c tail hsingle hpair hs
    have hne : s.toList ≠ '+' :: cs := by
      intro h
      rw [hs, List.cons.injEq] at h
      cases cs with
      | nil => exact hpair h.1 h.2
      | cons d ds => exact hsingle d ds h.1 h.2
    rw [or_iff_left hne, hs, Option.some.injEq]
    exact ⟨fun h => ⟨h ▸ List.cons_ne_nil c tail, h⟩, fun h => h.2⟩

/-- **A word is read from the texts that stand for it.** -/
theorem readWord?_eq_some_iff : readWord? s = some w ↔ IsNumeral s w := by
  have hword : ∀ n, (if n < UInt64.size then some (UInt64.ofNat n) else none) = some w ↔
      n = w.toNat := by
    intro n
    split
    · rename_i hn
      rw [Option.some.injEq, ← UInt64.toNat_inj, UInt64.toNat_ofNat_of_lt' hn]
    · rename_i hn
      exact iff_of_false nofun fun h => hn (h ▸ w.toNat_lt)
  unfold readWord? IsNumeral
  simp only [Option.bind_eq_bind, Option.bind_eq_some_iff, hword, readDigits?_eq_some_iff]
  refine exists_congr fun cs => ?_
  constructor
  · rintro ⟨hcs, n, ⟨hdigits, rfl⟩, hn⟩
    obtain ⟨hne, hs⟩ := (digits?_eq_some_iff hdigits).1 hcs
    exact ⟨hne, hs, hdigits, hn⟩
  · rintro ⟨hne, hs, hdigits, hn⟩
    exact ⟨(digits?_eq_some_iff hdigits).2 ⟨hne, hs⟩, _, ⟨hdigits, rfl⟩, hn⟩

/-- Zeros in front do not matter, but a second plus sign and the last bit do. -/
example : readWord? "+0018446744073709551615" = some 0xffffffffffffffff ∧
    readWord? "18446744073709551616" = none ∧ readWord? "++1" = none := by decide

end Number

/-! ## What comes of a variable -/

section Variable

variable {α : Type} {env env' : Environment} {name text : String} {read? : String → Option α}
  {Stands : String → α → Prop} {ignored : String → String → Diagnostic}

/-- **A variable is set to a text**: its bytes are those of the text. -/
def IsSet (env : Environment) (name text : String) : Prop :=
  env.entries.lookup name = some text.toUTF8

/-- **A setting follows from a variable**: it is what a text stands for that the variable is set
to, and otherwise the standard one. The only thing to remark on is a text that stands for
nothing. -/
structure Follows (env : Environment) (name : String) (Stands : String → α → Prop)
    (ignored : String → String → Diagnostic) (standard setting : α) (remarks : List Diagnostic) :
    Prop where
  /-- The variable is set to a text that stands for something. -/
  accepted {text : String} {a : α} (h : env.IsSet name text) (ha : Stands text a) :
    setting = a ∧ remarks = []
  /-- It is set to a text that does not. -/
  passedOver {text : String} (h : env.IsSet name text) (hnone : ∀ a, ¬Stands text a) :
    setting = standard ∧ remarks = [ignored name text]
  /-- It is not set, or to bytes that are no text. -/
  unset (h : ∀ text, ¬env.IsSet name text) : setting = standard ∧ remarks = []

/-- What a variable asks for. -/
def asked? (env : Environment) (name : String) (read? : String → Option α) : Option α :=
  (env.text? name).bind read?

/-- What is remarked on a variable. -/
def remarks (env : Environment) (name : String) (read? : String → Option α)
    (ignored : String → String → Diagnostic) : List Diagnostic :=
  (env.text? name).elim [] fun text => (read? text).elim [ignored name text] fun _ => []

theorem text?_eq_some_iff : env.text? name = some text ↔ env.IsSet name text := by
  unfold text? IsSet String.fromUTF8?
  rw [Option.bind_eq_some_iff]
  constructor
  · rintro ⟨bytes, hbytes, htext⟩
    split at htext
    · cases htext
      exact hbytes
    · cases htext
  · intro h
    exact ⟨_, h, dif_pos text.isValidUTF8⟩

theorem asked?_eq_some_iff {a : α} :
    env.asked? name read? = some a ↔ ∃ text, env.IsSet name text ∧ read? text = some a := by
  simp only [asked?, Option.bind_eq_some_iff, text?_eq_some_iff]

/-- **A variable changes settings as it asks**, and adds what is remarked on it. -/
theorem override_eq (env : Environment) (name : String) (read? : String → Option α)
    (ignored : String → String → Diagnostic) (apply : α → Settings → Settings)
    (acc : Settings × List Diagnostic) : env.override name read? ignored apply acc
      = ((env.asked? name read?).elim acc.1 (apply · acc.1),
        acc.2 ++ env.remarks name read? ignored) := by
  unfold override asked? remarks
  cases env.text? name with
  | none => exact congrArg (Prod.mk acc.1) (List.append_nil acc.2).symm
  | some text =>
    dsimp only [Option.bind_some, Option.elim_some]
    cases read? text with
    | none => rfl
    | some a => exact congrArg (Prod.mk _) (List.append_nil acc.2).symm

/-- **The setting follows from the variable** if just the texts are read that stand for something,
as what they stand for. -/
theorem follows_asked? (hread : ∀ {text a}, read? text = some a ↔ Stands text a) (standard : α) :
    env.Follows name Stands ignored standard ((env.asked? name read?).getD standard)
      (env.remarks name read? ignored) := by
  constructor
  case accepted =>
    intro text a h ha
    unfold asked? remarks
    rw [text?_eq_some_iff.2 h, Option.bind_some, Option.elim_some, hread.2 ha]
    exact ⟨rfl, rfl⟩
  case passedOver =>
    intro text h hnone
    have hnot : read? text = none :=
      Option.eq_none_iff_forall_ne_some.2 fun a ha => hnone a (hread.1 ha)
    unfold asked? remarks
    rw [text?_eq_some_iff.2 h, Option.bind_some, Option.elim_some, hnot]
    exact ⟨rfl, rfl⟩
  case unset =>
    intro h
    have hnot : env.text? name = none :=
      Option.eq_none_iff_forall_ne_some.2 fun text ht => h text (text?_eq_some_iff.1 ht)
    unfold asked? remarks
    rw [hnot]
    exact ⟨rfl, rfl⟩

/-- What is remarked on has a level of its own. -/
theorem level_of_mem_remarks {level : Level} {d : Diagnostic}
    (hlevel : ∀ name text, (ignored name text).level = level)
    (hd : d ∈ env.remarks name read? ignored) : d.level = level := by
  unfold remarks at hd
  cases htext : env.text? name with
  | none =>
    rw [htext] at hd
    cases hd
  | some text =>
    rw [htext, Option.elim_some] at hd
    cases hread : read? text with
    | some a =>
      rw [hread] at hd
      cases hd
    | none =>
      rw [hread, Option.elim_none, List.mem_singleton] at hd
      rw [hd, hlevel]

/-- What a variable asks for depends on it alone. -/
theorem asked?_congr (h : env'.entries.lookup name = env.entries.lookup name) :
    env'.asked? name read? = env.asked? name read? := by
  rw [asked?, asked?, text?, text?, h]

end Variable

/-! ## What comes of an environment -/

/-- **The settings that an environment asks for**, and what is remarked on, variable by
variable. -/
theorem settings_eq (env : Environment) : env.settings =
    ({ ({} : Settings) with
        compressed := (env.asked? "CARDMARK_COMPRESSED_REFS" readSwitch?).getD false
        cardBytes := (env.asked? "CARDMARK_CARD_SIZE" readWord?).getD defaultCardBytes
        elision := { ({} : Elision) with
          reducesInitialMarks :=
            (env.asked? "CARDMARK_REDUCE_INITIAL_CARD_MARKS" readSwitch?).getD true
          defersInitialMark :=
            (env.asked? "CARDMARK_DEFER_INITIAL_CARD_MARK" readSwitch?).getD false }
        verbose := (env.asked? "CARDMARK_VERBOSE" readSwitch?).getD false },
      env.remarks "CARDMARK_COMPRESSED_REFS" readSwitch? .ignoredSwitch
        ++ env.remarks "CARDMARK_CARD_SIZE" readWord? .ignoredNumber
        ++ env.remarks "CARDMARK_REDUCE_INITIAL_CARD_MARKS" readSwitch? .ignoredSwitch
        ++ env.remarks "CARDMARK_DEFER_INITIAL_CARD_MARK" readSwitch? .ignoredSwitch
        ++ env.remarks "CARDMARK_VERBOSE" readSwitch? .ignoredSwitch) := by
  simp only [settings, overrideSwitch, override_eq, List.nil_append]
  -- each setting is changed or left, whatever becomes of the others
  cases env.asked? "CARDMARK_COMPRESSED_REFS" readSwitch? <;>
    cases env.asked? "CARDMARK_CARD_SIZE" readWord? <;>
    cases env.asked? "CARDMARK_REDUCE_INITIAL_CARD_MARKS" readSwitch? <;>
    cases env.asked? "CARDMARK_DEFER_INITIAL_CARD_MARK" readSwitch? <;>
    cases env.asked? "CARDMARK_VERBOSE" readSwitch? <;> rfl

/-- **What there is to say of the settings that an environment asks for**, and of what is remarked
on. -/
structure SettingsLaw (env : Environment) : Prop where
  /-- Five settings follow from a variable each, and the remarks come in the order of these. -/
  follows : ∃ onCompressed onCardBytes onReduces onDefers onVerbose,
    env.settings.2 = onCompressed ++ onCardBytes ++ onReduces ++ onDefers ++ onVerbose ∧
    env.Follows "CARDMARK_COMPRESSED_REFS" IsSwitch .ignoredSwitch
      ({} : Settings).compressed env.settings.1.compressed onCompressed ∧
    env.Follows "CARDMARK_CARD_SIZE" IsNumeral .ignoredNumber
      ({} : Settings).cardBytes env.settings.1.cardBytes onCardBytes ∧
    env.Follows "CARDMARK_REDUCE_INITIAL_CARD_MARKS" IsSwitch .ignoredSwitch
      ({} : Settings).elision.reducesInitialMarks env.settings.1.elision.reducesInitialMarks
      onReduces ∧
    env.Follows "CARDMARK_DEFER_INITIAL_CARD_MARK" IsSwitch .ignoredSwitch
      ({} : Settings).elision.defersInitialMark env.settings.1.elision.defersInitialMark onDefers ∧
    env.Follows "CARDMARK_VERBOSE" IsSwitch .ignoredSwitch
      ({} : Settings).verbose env.settings.1.verbose onVerbose
  /-- All others are the standard ones. -/
  others : env.settings.1 = { ({} : Settings) with
    compressed := env.settings.1.compressed
    cardBytes := env.settings.1.cardBytes
    elision := { ({} : Elision) with
      reducesInitialMarks := env.settings.1.elision.reducesInitialMarks
      defersInitialMark := env.settings.1.elision.defersInitialMark }
    verbose := env.settings.1.verbose }
  /-- What is remarked on are warnings. -/
  warns (d : Diagnostic) (h : d ∈ env.settings.2) : d.level = .warn
  /-- A variable that changes may change its own setting and no other. -/
  apart {env' : Environment} {name : String}
    (h : ∀ other, other ≠ name → env'.entries.lookup other = env.entries.lookup other) :
    (name ≠ "CARDMARK_COMPRESSED_REFS" →
      env'.settings.1.compressed = env.settings.1.compressed) ∧
    (name ≠ "CARDMARK_CARD_SIZE" → env'.settings.1.cardBytes = env.settings.1.cardBytes) ∧
    (name ≠ "CARDMARK_REDUCE_INITIAL_CARD_MARKS" →
      env'.settings.1.elision.reducesInitialMarks = env.settings.1.elision.reducesInitialMarks) ∧
    (name ≠ "CARDMARK_DEFER_INITIAL_CARD_MARK" →
      env'.settings.1.elision.defersInitialMark = env.settings.1.elision.defersInitialMark) ∧
    (name ≠ "CARDMARK_VERBOSE" → env'.settings.1.verbose = env.settings.1.verbose)
  /-- The settings cannot be used if and only if a card size is asked for that is not one of the
  powers of two that settings take. -/
  refused_iff : (∃ e, env.settings.1.validate = .error e) ↔
    ∃ text size, env.IsSet "CARDMARK_CARD_SIZE" text ∧ IsNumeral text size ∧
      ¬Word.IsPowerBetween 3 12 size

/-- **The settings that an environment asks for follow from its variables, one by one**, and only a
card size that is asked for can spoil them. -/
theorem settingsLaw (env : Environment) : env.SettingsLaw := by
  constructor
  case follows =>
    rw [settings_eq]
    exact ⟨_, _, _, _, _, rfl, follows_asked? readSwitch?_eq_some_iff _,
      follows_asked? readWord?_eq_some_iff _, follows_asked? readSwitch?_eq_some_iff _,
      follows_asked? readSwitch?_eq_some_iff _, follows_asked? readSwitch?_eq_some_iff _⟩
  case others => rw [settings_eq]
  case warns =>
    intro d hd
    rw [settings_eq] at hd
    simp only [List.mem_append] at hd
    rcases hd with (((hd | hd) | hd) | hd) | hd <;>
      exact level_of_mem_remarks (fun _ _ => rfl) hd
  case apart =>
    intro env' name h
    rw [settings_eq, settings_eq]
    refine ⟨fun hne => ?_, fun hne => ?_, fun hne => ?_, fun hne => ?_, fun hne => ?_⟩ <;>
      exact congrArg (Option.getD · _) (asked?_congr (h _ hne.symm))
  case refused_iff =>
    rw [Settings.exists_validate_eq_error_iff, settings_eq]
    dsimp only
    cases hasked : env.asked? "CARDMARK_CARD_SIZE" readWord? with
    | none =>
      -- the standard size can be used
      refine iff_of_false (not_not_intro (by decide)) ?_
      rintro ⟨text, size, hset, hnumeral, -⟩
      have hsome := asked?_eq_some_iff.2 ⟨text, hset, readWord?_eq_some_iff.2 hnumeral⟩
      rw [hasked] at hsome
      cases hsome
    | some size =>
      constructor
      · intro hnot
        obtain ⟨text, hset, hread⟩ := asked?_eq_some_iff.1 hasked
        exact ⟨text, size, hset, readWord?_eq_some_iff.1 hread, hnot⟩
      · rintro ⟨text, size', hset, hnumeral, hnot⟩
        have hsome := asked?_eq_some_iff.2 ⟨text, hset, readWord?_eq_some_iff.2 hnumeral⟩
        rw [hasked] at hsome
        cases hsome
        exact hnot

end Environment

end CardBarrier
