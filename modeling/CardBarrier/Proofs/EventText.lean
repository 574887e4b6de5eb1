import CardBarrier.Event.Reader
import CardBarrier.EventLog
import CardBarrier.Proofs.Threads

/-!
# The text of events

Whatever an event tells, the line of it in an event log that writes JSON is one line, and tells
all of it. No character that would break a line or upset a console stands in it, since those are
written by what stands for them. And what is written is read back: a text up to its quote, a number
up to what is no digit, and a value with whatever follows it (`JsonValue.readBack`), from
which the event is found member by member (`Event.textLaw`). So lines that are the same tell of
the same event.
-/

namespace CardBarrier

namespace JsonValue

/-! ## What is written -/

section Written

variable {c d : Char} {s : String}

/-- **A character is written in one of three ways**: by a letter that stands for it, by its number,
or as it is. -/
theorem escape_cases (c : Char) :
    (∃ letter, unescape? letter = some c ∧ escape c = ['\\', letter]) ∨
    (c.toNat < 0x20 ∧
      escape c = ['\\', 'u', '0', '0', hexDigit (c.toNat / 16), hexDigit c.toNat]) ∨
    (0x20 ≤ c.toNat ∧ c ≠ '"' ∧ c ≠ '\\' ∧ escape c = [c]) := by
  unfold escape
  split
  case h_8 hquote hescape _ _ _ _ _ =>
    right
    split
    · exact .inl ⟨‹_›, rfl⟩
    · exact .inr ⟨Nat.le_of_not_lt ‹_›, hquote, hescape, rfl⟩
  all_goals exact .inl ⟨_, rfl, rfl⟩

theorem hexDigit_le (n : Nat) : 0x20 ≤ (hexDigit n).toNat := by
  have hall : ∀ m < 16, 0x20 ≤ (Nat.digitChar m).toNat := by decide
  exact hall _ (Nat.mod_lt n (by decide))

theorem letter_le {letter : Char} (h : unescape? letter = some c) : 0x20 ≤ letter.toNat := by
  unfold unescape? at h
  split at h <;> first | decide | cases h

/-- **No escape has a control character in it.** -/
theorem le_of_mem_escape (h : d ∈ escape c) : 0x20 ≤ d.toNat := by
  rcases escape_cases c with ⟨letter, hletter, he⟩ | ⟨-, he⟩ | ⟨hc, -, -, he⟩
  · rw [he, List.mem_cons, List.mem_singleton] at h
    rcases h with rfl | rfl
    · decide
    · exact letter_le hletter
  · simp only [he, List.mem_cons, List.not_mem_nil, or_false] at h
    rcases h with rfl | rfl | rfl | rfl | rfl | rfl
    all_goals first | decide | exact hexDigit_le _
  · rw [he, List.mem_singleton] at h
    exact h ▸ hc

theorem le_of_mem_quote (h : d ∈ quote s) : 0x20 ≤ d.toNat := by
  simp only [quote, List.mem_cons, List.mem_append, List.mem_flatMap, List.not_mem_nil,
    or_false] at h
  rcases h with (rfl | ⟨c, -, h⟩) | rfl
  · decide
  · exact le_of_mem_escape h
  · decide

theorem le_of_isDigit (h : c.isDigit = true) : 0x20 ≤ c.toNat := by
  unfold Char.isDigit at h
  rw [Bool.and_eq_true, decide_eq_true_iff, decide_eq_true_iff] at h
  exact Nat.le_trans (by decide) (show '0'.toNat ≤ c.toNat from h.1)

theorem le_of_all {cs : List Char} (h : cs.all (0x20 ≤ ·.toNat) = true) (hc : c ∈ cs) :
    0x20 ≤ c.toNat :=
  of_decide_eq_true (List.all_eq_true.1 h c hc)

mutual

/-- **No value is written with a control character.** -/
theorem le_of_mem_chars {c : Char} : (v : JsonValue) → c ∈ v.chars → 0x20 ≤ c.toNat
  | bool true, h => le_of_all (by decide) h
  | bool false, h => le_of_all (by decide) h
  | nat n, h => le_of_isDigit (Nat.isDigit_of_mem_toDigits (by decide) (by decide) h)
  | text s, h => le_of_mem_quote h
  | object members, h => by
    simp only [chars, List.mem_cons, List.mem_append, List.not_mem_nil, or_false] at h
    rcases h with (rfl | h) | rfl
    · decide
    · exact le_of_mem_memberChars members h
    · decide

theorem le_of_mem_memberChars {c : Char} :
    (members : List (String × JsonValue)) → c ∈ memberChars members → 0x20 ≤ c.toNat
  | [], h => by cases h
  | [(name, value)], h => by
    simp only [memberChars, List.mem_append, List.mem_cons] at h
    rcases h with h | rfl | h
    · exact le_of_mem_quote h
    · decide
    · exact le_of_mem_chars value h
  | (name, value) :: member :: members, h => by
    simp only [memberChars, List.mem_append, List.mem_cons] at h
    rcases h with (h | rfl | h) | rfl | h
    · exact le_of_mem_quote h
    · decide
    · exact le_of_mem_chars value h
    · decide
    · exact le_of_mem_memberChars (member :: members) h

end

end Written

/-! ## What is read -/

section Read

variable {c : Char} {s : String} {rest : List Char}

/-! ### Texts -/

theorem hexValue?_hexDigit (n : Nat) : hexValue? (hexDigit n) = some (n % 16) := by
  have hall : ∀ m < 16, hexValue? (Nat.digitChar m) = some m := by decide
  exact hall _ (Nat.mod_lt n (by decide))

/-- **A character that is written by its number is found by it.** -/
theorem codePoint?_hexDigit (hc : c.toNat < 0x20) :
    codePoint? '0' '0' (hexDigit (c.toNat / 16)) (hexDigit c.toNat) = some c := by
  have hzero : hexValue? '0' = some 0 := by decide
  have hnumber : 4096 * 0 + 256 * 0 + 16 * (c.toNat / 16 % 16) + c.toNat % 16 = c.toNat := by
    omega
  unfold codePoint?
  simp only [hzero, hexValue?_hexDigit, Option.bind_eq_bind, Option.bind_some, hnumber]
  exact (if_pos c.valid).trans (congrArg some (Char.ofNat_toNat c))

/-- A character that an escape by a letter stands for is read. -/
theorem readText?_letter {letter x : Char} (h : unescape? letter = some x) :
    readText? ('\\' :: letter :: rest) = (readText? rest).map fun p => (x :: p.1, p.2) := by
  have hletter : letter ≠ 'u' := by
    rintro rfl
    cases h
  rw [readText?, h]
  · cases readText? rest <;> rfl
  · exact fun _ _ _ _ _ hu _ => hletter hu

theorem readText?_number {a b c d x : Char} (h : codePoint? a b c d = some x) :
    readText? ('\\' :: 'u' :: a :: b :: c :: d :: rest)
      = (readText? rest).map fun p => (x :: p.1, p.2) := by
  rw [readText?, h]
  cases readText? rest <;> rfl

/-- Any other character is read as it stands. -/
theorem readText?_plain (hc : 0x20 ≤ c.toNat) (hquote : c ≠ '"') (hescape : c ≠ '\\') :
    readText? (c :: rest) = (readText? rest).map fun p => (c :: p.1, p.2) := by
  have hplain : ¬(c = '\\' ∨ c.toNat < 0x20) := fun h => h.elim hescape (Nat.not_lt.2 hc)
  rw [readText?, if_neg hplain]
  · cases readText? rest <;> rfl
  · exact hquote
  · exact fun _ _ _ _ _ h _ => hescape h
  · exact fun _ _ h _ => hescape h

/-- **A character is read back as it is written.** -/
theorem readText?_escape (c : Char) (rest : List Char) :
    readText? (escape c ++ rest) = (readText? rest).map fun p => (c :: p.1, p.2) := by
  rcases escape_cases c with
    ⟨letter, hletter, he⟩ | ⟨hc, he⟩ | ⟨hc, hquote, hescape, he⟩ <;> rw [he]
  · exact readText?_letter hletter
  · exact readText?_number (codePoint?_hexDigit hc)
  · exact readText?_plain hc hquote hescape

theorem readText?_flatMap_escape (cs rest : List Char) :
    readText? (cs.flatMap escape ++ '"' :: rest) = some (cs, rest) := by
  induction cs with
  | nil => rw [List.flatMap_nil, List.nil_append, readText?]
  | cons c cs ih =>
    rw [List.flatMap_cons, List.append_assoc, readText?_escape, ih]
    rfl

/-- **A text is read back up to its quote.** -/
theorem exists_quote (s : String) (rest : List Char) : ∃ cs, quote s ++ rest = '"' :: cs ∧
    readText? cs = some (s.toList, rest) := by
  refine ⟨s.toList.flatMap escape ++ '"' :: rest, ?_, readText?_flatMap_escape _ _⟩
  rw [quote, List.append_assoc, List.cons_append, List.singleton_append]

/-! ### Numbers -/

/-- **A text goes on with no digit**, so that a number ends before it. -/
def EndsNumber (rest : List Char) : Prop := ∀ c ∈ rest.head?, c.isDigit = false

theorem endsNumber_cons (h : c.isDigit = false) : EndsNumber (c :: rest) := by
  rintro d hd
  cases hd
  exact h

theorem EndsNumber.takeWhile (h : EndsNumber rest) : rest.takeWhile Char.isDigit = [] := by
  cases rest with
  | nil => rfl
  | cons c rest => rw [List.takeWhile_cons_of_neg (Bool.eq_false_iff.1 (h c rfl))]

theorem EndsNumber.dropWhile (h : EndsNumber rest) : rest.dropWhile Char.isDigit = rest := by
  cases rest with
  | nil => rfl
  | cons c rest => rw [List.dropWhile_cons_of_neg (Bool.eq_false_iff.1 (h c rfl))]

/-- **A number is read back**, if no digit follows it. -/
theorem readNat?_toDigits (n : Nat) (hrest : EndsNumber rest) :
    readNat? (Nat.toDigits 10 n ++ rest) = some (n, rest) := by
  have hdigits : ∀ c ∈ Nat.toDigits 10 n, c.isDigit = true :=
    fun c hc => Nat.isDigit_of_mem_toDigits (by decide) (by decide) hc
  unfold readNat?
  rw [List.takeWhile_append_of_pos hdigits, List.dropWhile_append_of_pos hdigits,
    hrest.takeWhile, hrest.dropWhile, List.append_nil, if_neg Nat.toDigits_ne_nil,
    Nat.ofDigitChars_ten_toDigits]

/-! ### Values -/

theorem readValue?_text (n : Nat) (s : String) (rest : List Char) :
    readValue? (n + 1) (quote s ++ rest) = some (text s, rest) := by
  obtain ⟨cs, hcs, hread⟩ := exists_quote s rest
  rw [hcs, readValue?, hread]
  show some (text (String.ofList s.toList), rest) = _
  rw [String.ofList_toList]

theorem readValue?_nat (n m : Nat) (hrest : EndsNumber rest) :
    readValue? (n + 1) (Nat.toDigits 10 m ++ rest) = some (nat m, rest) := by
  obtain ⟨c, cs, hcs⟩ := List.exists_cons_of_ne_nil (Nat.toDigits_ne_nil (n := m) (b := 10))
  have hdigit : c.isDigit = true := by
    have hmem : c ∈ Nat.toDigits 10 m := hcs ▸ List.mem_cons_self
    exact Nat.isDigit_of_mem_toDigits (by decide) (by decide) hmem
  have hnot : ∀ d : Char, d.isDigit = false → c ≠ d := by
    rintro d hd rfl
    exact Bool.false_ne_true (hd.symm.trans hdigit)
  have hread := readNat?_toDigits m hrest
  rw [hcs] at hread ⊢
  rw [List.cons_append] at hread ⊢
  rw [readValue?, hread]
  · rfl
  all_goals exact fun _ h => hnot _ rfl (List.head_eq_of_cons_eq h)

theorem readMembers?_last {n : Nat} {name : String} {value : JsonValue} {cs : List Char}
    (hvalue : readValue? n cs = some (value, '\x7d' :: rest)) :
    readMembers? (n + 1) (quote name ++ ':' :: cs) = some ([(name, value)], rest) := by
  obtain ⟨ds, hds, hread⟩ := exists_quote name (':' :: cs)
  rw [hds, readMembers?, hread]
  show (readValue? n cs).bind _ = _
  rw [hvalue]
  show some ([(String.ofList name.toList, value)], rest) = _
  rw [String.ofList_toList]

theorem readMembers?_more {n : Nat} {name : String} {value : JsonValue} {cs ds : List Char}
    {members : List (String × JsonValue)} (hvalue : readValue? n cs = some (value, ',' :: ds))
    (hmembers : readMembers? n ds = some (members, rest)) :
    readMembers? (n + 1) (quote name ++ ':' :: cs) = some ((name, value) :: members, rest) := by
  obtain ⟨es, hes, hread⟩ := exists_quote name (':' :: cs)
  rw [hes, readMembers?, hread]
  show (readValue? n cs).bind _ = _
  rw [hvalue]
  show (readMembers? n ds).bind _ = _
  rw [hmembers]
  show some ((String.ofList name.toList, value) :: members, rest) = _
  rw [String.ofList_toList]

theorem readValue?_object {n : Nat} {members : List (String × JsonValue)} {cs : List Char}
    (hcs : cs.head? ≠ some '\x7d') (hread : readMembers? n cs = some (members, rest)) :
    readValue? (n + 1) ('\x7b' :: cs) = some (object members, rest) := by
  rw [readValue?, hread]
  · rfl
  · rintro ds rfl
    exact hcs rfl

/-- The members of an object begin with the quote of a name. -/
theorem head?_memberChars (member : String × JsonValue) (members : List (String × JsonValue))
    (rest : List Char) : (memberChars (member :: members) ++ rest).head? = some '"' := by
  cases members <;> rfl

/-- **A value is read back, and its members are**, with as many characters as it has to open
values with. The induction is on that number, and the members of an object take one each. -/
theorem readBack (n : Nat) :
    (∀ (v : JsonValue) (rest : List Char), v.chars.length < n → EndsNumber rest →
      readValue? n (v.chars ++ rest) = some (v, rest)) ∧
    (∀ (members : List (String × JsonValue)) (rest : List Char), members ≠ [] →
      (memberChars members).length < n →
      readMembers? n (memberChars members ++ '\x7d' :: rest) = some (members, rest)) := by
  induction n with
  | zero => exact ⟨fun _ _ h _ => absurd h (Nat.not_lt_zero _),
      fun _ _ _ h => absurd h (Nat.not_lt_zero _)⟩
  | succ n ih =>
    obtain ⟨ihValue, ihMembers⟩ := ih
    constructor
    · intro v rest hn hrest
      cases v with
      | bool b => cases b <;> rfl
      | nat m => exact readValue?_nat n m hrest
      | text s => exact readValue?_text n s rest
      | object members =>
        cases members with
        | nil => rfl
        | cons member members =>
          rw [chars, List.length_append, List.length_cons, List.length_singleton] at hn
          rw [chars, List.append_assoc, List.cons_append, List.singleton_append]
          refine readValue?_object ?_ (ihMembers _ rest (List.cons_ne_nil _ _) (by omega))
          rw [head?_memberChars]
          decide
    · intro members rest hne hn
      match members, hne with
      | [(name, value)], _ =>
        rw [memberChars, List.length_append, List.length_cons] at hn
        rw [memberChars, List.append_assoc, List.cons_append]
        exact readMembers?_last (ihValue value _ (by omega) (endsNumber_cons rfl))
      | (name, value) :: member :: members, _ =>
        rw [memberChars, List.length_append, List.length_cons, List.length_append,
          List.length_cons] at hn
        rw [memberChars, List.append_assoc, List.cons_append, List.append_assoc, List.cons_append]
        exact readMembers?_more (ihValue value _ (by omega) (endsNumber_cons rfl))
          (ihMembers _ rest (List.cons_ne_nil _ _) (by omega))

/-- **A value is read back from the text that it is written as.** -/
theorem read?_render (v : JsonValue) : read? v.render = some v := by
  have hread := (readBack (v.chars.length + 1)).1 v [] (Nat.lt_succ_self _) nofun
  rw [List.append_nil] at hread
  unfold read? render
  rw [String.toList_ofList, hread]

end Read

/-! ## What is found by name -/

section Found

variable {name key : String} {value : JsonValue} {members : List (String × JsonValue)}

theorem lookup_insertMember : (insertMember name value members).lookup key
    = if key = name then some value else members.lookup key := by
  induction members with
  | nil => rw [insertMember, Threads.lookup_cons]
  | cons member members ih =>
    obtain ⟨other, v⟩ := member
    unfold insertMember
    split
    · rw [Threads.lookup_cons]
    · rename_i hle
      have hne : other ≠ name := by
        rintro rfl
        exact hle (String.le_refl other)
      rw [Threads.lookup_cons, Threads.lookup_cons, ih]
      by_cases hkey : key = other
      · rw [if_pos hkey, if_pos hkey, if_neg (hkey ▸ hne)]
      · rw [if_neg hkey, if_neg hkey]

/-- **A member is found by its name** wherever it stands, and of several the first. -/
theorem lookup_sortMembers (members : List (String × JsonValue)) (key : String) :
    (sortMembers members).lookup key = (members.lookup key).map sortKeys := by
  induction members with
  | nil => rfl
  | cons member members ih =>
    obtain ⟨name, value⟩ := member
    rw [sortMembers, lookup_insertMember, Threads.lookup_cons, ih]
    split <;> rfl

theorem member?_sortKeys (members : List (String × JsonValue)) (key : String) :
    (object members).sortKeys.member? key = (members.lookup key).map sortKeys :=
  lookup_sortMembers members key

theorem sortKeys_bool (b : Bool) : (bool b).sortKeys = bool b := by
  rw [sortKeys]

theorem sortKeys_text (s : String) : (text s).sortKeys = text s := by
  rw [sortKeys]

theorem sortKeys_word (w : UInt64) : (word w).sortKeys = word w := by
  rw [word, sortKeys]

/-- A word is found in the number that it is written as. -/
theorem word?_word (w : UInt64) : (word w).word? = some w := by
  rw [word, word?, if_pos w.toNat_lt, UInt64.ofNat_toNat]

end Found

end JsonValue

/-! ## Events -/

open JsonValue

/-- **Counters are read back.** -/
theorem Tally.ofJson?_json (t : Tally) : ofJson? t.json.sortKeys = some t := by
  simp [ofJson?, json, wordAt?, member?_sortKeys, Threads.lookup_cons, sortKeys_word, word?_word]

/-- **A text that stays on one line**: it has no control character. -/
def IsUnbroken (s : String) : Prop := ∀ c ∈ s.toList, 0x20 ≤ c.toNat

theorem IsUnbroken.append {s t : String} (hs : IsUnbroken s) (ht : IsUnbroken t) :
    IsUnbroken (s ++ t) := by
  intro c hc
  rw [String.toList_append, List.mem_append] at hc
  exact hc.elim (hs c) (ht c)

namespace Event

/-- **An event is found in its members.** -/
theorem ofJson?_members (e : Event) : ofJson? (object e.members).sortKeys = some e := by
  cases e with
  | counted t =>
    simp [ofJson?, members, textAt?, member?_sortKeys, Threads.lookup_cons, sortKeys_text, text?,
      Tally.ofJson?_json]
  | _ =>
    simp [ofJson?, members, textAt?, boolAt?, wordAt?, member?_sortKeys, Threads.lookup_cons,
      sortKeys_bool, sortKeys_text, sortKeys_word, bool?, text?, word?_word]

/-- **An event is read back from its line.** -/
theorem read?_json (e : Event) : read? e.json = some e := by
  rw [read?, json, read?_render]
  exact ofJson?_members e

example : (flushed 16 48 "a \"slow\\\" path\n\x01").json =
    "\x7b\"end\":48,\"reason\":\"a \\\"slow\\\\\\\" path\\n\\u0001\",\"start\":16," ++
      "\"type\":\"deferred_flush\"\x7d" := by
  cbv

theorem isUnbroken_json (e : Event) : IsUnbroken e.json := by
  intro c hc
  rw [json, render, String.toList_ofList] at hc
  exact le_of_mem_chars _ hc

/-- A log that writes JSON prints an event as one line with its text. -/
theorem linesOf_json {s : LogSettings} (hconsole : s.console = true) (hjson : s.json = true)
    (e : Event) : EventLog.linesOf s e = .ok [⟨s.timestamps, e.json⟩] := by
  rw [EventLog.linesOf, if_pos hconsole, hjson]
  rfl

/-- A time in front does not break a line, if nothing in the time does. -/
theorem isUnbroken_render {time : String} {line : Line} (htime : IsUnbroken time)
    (hline : IsUnbroken line.text) : IsUnbroken (line.render time) := by
  have hopen : IsUnbroken "[" := fun _ => le_of_all (by decide)
  have hclose : IsUnbroken "] " := fun _ => le_of_all (by decide)
  unfold Line.render
  split
  · exact ((hopen.append htime).append hclose).append hline
  · exact hline

/-- **The text of an event tells all of it on one line.** -/
structure TextLaw (e : Event) : Prop where
  /-- No control character stands in the text. -/
  unbroken : IsUnbroken e.json
  /-- The event is read back from the text. -/
  read_back : read? e.json = some e
  /-- No other event has that text. -/
  eq_of_json_eq : ∀ other : Event, other.json = e.json → other = e
  /-- A console that is given JSON shows the text, and on one line whatever time is put in front. -/
  one_line : ∀ s : LogSettings, s.console = true → s.json = true →
    ∃ line, EventLog.linesOf s e = .ok [line] ∧ line.text = e.json ∧
      ∀ time, IsUnbroken time → IsUnbroken (line.render time)

/-- **The text of any event tells all of it on one line.** -/
theorem textLaw (e : Event) : e.TextLaw where
  unbroken := e.isUnbroken_json
  read_back := e.read?_json
  eq_of_json_eq other h := by
    have hread : some other = some e := by rw [← other.read?_json, h, e.read?_json]
    exact Option.some.inj hread
  one_line s hconsole hjson :=
    ⟨⟨s.timestamps, e.json⟩, linesOf_json hconsole hjson e, rfl,
      fun _ htime => isUnbroken_render htime e.isUnbroken_json⟩

end Event

end CardBarrier
