import CardBarrier.Proofs.InStep
import Mathlib.Data.List.Forall2
import Mathlib.Data.List.Induction

/-!
# What an event log makes of its history

An event log is given events, and in between it is switched on and off, is told to forget, and is
started again with other settings. What it has in the end is a matter of these calls alone: it
keeps an event if the log was on when the event was given, the level in force then asked for events
of its kind (`Event.askedAt`), and nothing had the log forget it since (`EventLog.kept`). What was
given to it is looked at as *moments*, each an event with the calls before it and those after it.
The lines that were printed are those of the events that were let through while there was a console,
whether or not they were forgotten afterwards.

A log of one's own is never started again, and a log that is shared is given events and started
again and nothing else; both have histories of this kind. No report stops a log unless the sum in
the sentence on it leaves the word, so the laws are about calls that give it none of these
(`EventLog.historyLaw`).
-/

namespace CardBarrier

namespace Level

variable {a b c : Level}

theorem admits_iff : a.admits b = true ↔ b.rank ≤ a.rank := decide_eq_true_iff

theorem admits_trans (h : a.admits b = true) (h' : b.admits c = true) : a.admits c = true :=
  admits_iff.2 (Nat.le_trans (admits_iff.1 h') (admits_iff.1 h))

end Level

/-- **The levels that ask for an event.** That a barrier came into force, and what the counters are,
is asked for from `info` on; that threads detached or were drained, from `debug` on; and that a mark
was flushed, at `trace` alone. -/
def Event.askedAt : Event → List Level
  | .setUp .. | .counted _ => [.info, .debug, .trace]
  | .detached _ | .drained .. => [.debug, .trace]
  | .flushed .. => [.trace]

/-- **A level lets an event through if it asks for it.** -/
theorem Level.admits_level (limit : Level) (e : Event) :
    limit.admits e.level = decide (limit ∈ e.askedAt) := by
  cases e <;> cases limit <;> rfl

/-- **The line that settings ask for** to print an event as. -/
structure LogSettings.Writes (s : LogSettings) (e : Event) (line : Line) : Prop where
  /-- The time goes in front if they say so. -/
  stamped : line.stamped = s.timestamps
  /-- The text is a JSON object or a sentence, as they say. -/
  text : if s.json = true then line.text = e.json else e.human = .ok line.text

namespace EventLog

/-! ## Calls -/

/-- **What may be asked of an event log.** -/
inductive Call where
  /-- To keep an event. -/
  | give (e : Event)
  /-- To be on. -/
  | switchOn
  /-- To be off. -/
  | switchOff
  /-- To forget the events kept so far. -/
  | forget
  /-- To start again with other settings. -/
  | restart (s : LogSettings)

namespace Call

/-- **What a call does.** -/
def perform : Call → EventLog → Except Fault EventLog
  | give e => add e
  | switchOn => .ok ∘ EventLog.switchOn
  | switchOff => .ok ∘ EventLog.switchOff
  | forget => .ok ∘ EventLog.forget
  | restart s => .ok ∘ EventLog.restart s

/-- The settings that a call puts into force. -/
def settings? : Call → Option LogSettings
  | restart s => some s
  | _ => none

/-- Whether the log is on after the call, if that is what the call is about. A log that starts
again is on. -/
def turns? : Call → Option Bool
  | switchOn | restart _ => some true
  | switchOff => some false
  | _ => none

/-- **The call has the log forget** what it has kept. -/
def forgets : Call → Bool
  | forget | restart _ => true
  | _ => false

/-- **The calls are the same, but that the second may set a level that lets more through.** -/
inductive Raised : Call → Call → Prop
  | give (e : Event) : Raised (give e) (give e)
  | switchOn : Raised switchOn switchOn
  | switchOff : Raised switchOff switchOff
  | forget : Raised forget forget
  | restart {s s' : LogSettings} (h : s'.level.admits s.level = true) :
      Raised (restart s) (restart s')

end Call

/-- **The log after calls**, if none of them stops it. -/
def performAll (calls : List Call) (l : EventLog) : Except Fault EventLog :=
  calls.foldlM (fun l c => c.perform l) l

/-- **The settings in force after calls**: those that were put into force last, or the first. -/
def inForce (s : LogSettings) (calls : List Call) : LogSettings :=
  (calls.filterMap Call.settings?).getLastD s

/-- **The log is on after calls**, as it is at first. -/
def isOn (calls : List Call) : Bool := (calls.filterMap Call.turns?).getLastD true

/-! ## Moments -/

/-- **A moment at which an event is given**: the calls before, the event, and the calls after. -/
structure Moment where
  /-- The calls before. -/
  before : List Call
  /-- The event. -/
  event : Event
  /-- The calls after. -/
  after : List Call

/-- The moments of calls that come after others, in order. -/
def momentsFrom (before : List Call) : List Call → List Moment
  | [] => []
  | .give e :: after => ⟨before, e, after⟩ :: momentsFrom (before ++ [.give e]) after
  | c :: after => momentsFrom (before ++ [c]) after

/-- **The moments at which calls give an event**, in order. -/
def moments (calls : List Call) : List Moment := momentsFrom [] calls

namespace Moment

/-- **The event is let through**: the log is on, and the level in force asks for it. -/
def isHeard (s : LogSettings) (m : Moment) : Bool :=
  isOn m.before && decide ((inForce s m.before).level ∈ m.event.askedAt)

/-- **The event is kept**: it is let through, and nothing has the log forget it later. -/
def isKept (s : LogSettings) (m : Moment) : Bool :=
  m.isHeard s && m.after.all fun c => !c.forgets

/-- The event is printed: it is let through while there is a console. -/
def isShown (s : LogSettings) (m : Moment) : Bool :=
  m.isHeard s && (inForce s m.before).console

/-- The moment with one more call after it. -/
def followedBy (c : Call) (m : Moment) : Moment := { m with after := m.after ++ [c] }

end Moment

/-- **The moments whose events are kept** of calls to a log that is set up with settings. -/
def kept (s : LogSettings) (calls : List Call) : List Moment := (moments calls).filter (·.isKept s)

/-- **The moments whose events are printed.** -/
def shown (s : LogSettings) (calls : List Call) : List Moment :=
  (moments calls).filter (·.isShown s)

/-- The events that a log prints if it is given one: what it takes, if there is a console. -/
def uttered (l : EventLog) (e : Event) : List Event :=
  if l.settings.console = true then l.taken e else []

section Append

variable {s : LogSettings} {calls : List Call} {c : Call} {m : Moment}

theorem inForce_append (s : LogSettings) (calls : List Call) (c : Call) :
    inForce s (calls ++ [c]) = c.settings?.getD (inForce s calls) := by
  unfold inForce
  rw [List.filterMap_append]
  cases c <;> simp [Call.settings?]

theorem isOn_append (calls : List Call) (c : Call) :
    isOn (calls ++ [c]) = c.turns?.getD (isOn calls) := by
  unfold isOn
  rw [List.filterMap_append]
  cases c <;> simp [Call.turns?]

theorem mem_momentsFrom {before : List Call} : m ∈ momentsFrom before calls ↔
    ∃ between, m.before = before ++ between ∧ calls = between ++ .give m.event :: m.after := by
  induction calls generalizing before with
  | nil => simp [momentsFrom]
  | cons c calls ih =>
    have hlater : m ∈ momentsFrom (before ++ [c]) calls ↔ ∃ between,
        m.before = before ++ c :: between ∧ calls = between ++ .give m.event :: m.after := by
      rw [ih]
      simp only [List.append_assoc, List.singleton_append]
    have hfirst : m ∈ momentsFrom before (c :: calls) ↔
        c = .give m.event ∧ m.before = before ∧ m.after = calls ∨
          m ∈ momentsFrom (before ++ [c]) calls := by
      obtain ⟨mbefore, e, after⟩ := m
      cases c <;> simp [momentsFrom, and_left_comm, eq_comm]
    rw [hfirst, hlater]
    constructor
    · rintro (⟨rfl, hbefore, hafter⟩ | ⟨between, hbefore, rfl⟩)
      · exact ⟨[], by rw [hbefore, List.append_nil], by rw [hafter, List.nil_append]⟩
      · exact ⟨c :: between, hbefore, rfl⟩
    · rintro ⟨_ | ⟨first, between⟩, hbefore, hcalls⟩
      · obtain ⟨rfl, rfl⟩ := List.cons.inj hcalls
        exact .inl ⟨rfl, hbefore.trans (List.append_nil _), rfl⟩
      · obtain ⟨rfl, rfl⟩ := List.cons.inj hcalls
        exact .inr ⟨between, hbefore, rfl⟩

/-- **The moments are all places** in the calls where an event is given. -/
theorem mem_moments : m ∈ moments calls ↔ calls = m.before ++ .give m.event :: m.after := by
  simp [moments, mem_momentsFrom]

theorem momentsFrom_append (before calls : List Call) (c : Call) :
    momentsFrom before (calls ++ [c])
      = (momentsFrom before calls).map (·.followedBy c) ++ momentsFrom (before ++ calls) [c] := by
  induction calls generalizing before with
  | nil => rw [List.append_nil]; rfl
  | cons first calls ih =>
    have hrest := ih (before ++ [first])
    rw [List.append_assoc, List.singleton_append] at hrest
    cases first with
    | give e =>
      show _ :: momentsFrom _ (calls ++ [c]) = _
      rw [hrest]
      rfl
    | _ => exact hrest

/-- **A call more** adds itself to what comes after the moments so far, and makes one of its own if
it gives an event. -/
theorem moments_append (calls : List Call) (c : Call) : moments (calls ++ [c])
    = (moments calls).map (·.followedBy c) ++ momentsFrom calls [c] :=
  momentsFrom_append [] calls c

theorem isKept_followedBy (s : LogSettings) (c : Call) (m : Moment) :
    (m.followedBy c).isKept s = (!c.forgets && m.isKept s) := by
  have hheard : (m.followedBy c).isHeard s = m.isHeard s := rfl
  have hafter : (m.followedBy c).after = m.after ++ [c] := rfl
  unfold Moment.isKept
  rw [hheard, hafter, List.all_append, List.all_cons, List.all_nil, Bool.and_true, ← Bool.and_assoc,
    Bool.and_comm]

theorem map_event_kept_append (s : LogSettings) (calls : List Call) (c : Call) :
    (kept s (calls ++ [c])).map Moment.event
      = (if c.forgets then [] else (kept s calls).map Moment.event)
        ++ ((momentsFrom calls [c]).filter (·.isKept s)).map Moment.event := by
  unfold kept
  rw [moments_append, List.filter_append, List.map_append, List.filter_map, List.map_map]
  congr 1
  have hkept : (fun m : Moment => m.isKept s) ∘ (fun m : Moment => m.followedBy c)
      = fun m => !c.forgets && m.isKept s := funext (isKept_followedBy s c)
  rw [hkept]
  cases c.forgets with
  | true =>
    simp only [Bool.not_true, Bool.false_and, List.filter_false]
    rfl
  | false => rfl

/-- Of the moment at which an event is given the event is kept if it is let through. -/
theorem map_event_filter_isKept (s : LogSettings) (calls : List Call) (e : Event) :
    ((momentsFrom calls [.give e]).filter (·.isKept s)).map Moment.event
      = if Moment.isHeard s ⟨calls, e, []⟩ then [e] else [] := by
  have hkept : Moment.isKept s ⟨calls, e, []⟩ = Moment.isHeard s ⟨calls, e, []⟩ := Bool.and_true _
  have hmoments : momentsFrom calls [.give e] = [⟨calls, e, []⟩] := rfl
  rw [hmoments, List.filter_cons, hkept]
  cases Moment.isHeard s ⟨calls, e, []⟩ <;> rfl

theorem shown_append (s : LogSettings) (calls : List Call) (c : Call) :
    shown s (calls ++ [c]) = (shown s calls).map (·.followedBy c)
      ++ (momentsFrom calls [c]).filter (·.isShown s) := by
  unfold shown
  rw [moments_append, List.filter_append, List.filter_map]
  rfl

end Append

/-! ## What a log tells of its history -/

/-- **The line tells of the moment**, as the settings ask that are in force then. -/
def Moment.Shows (s : LogSettings) (m : Moment) (line : Line) : Prop :=
  (inForce s m.before).Writes m.event line

/-- **The log tells of its history**, which are the calls to a log that is set up with settings. -/
structure Recounts (s : LogSettings) (calls : List Call) (l : EventLog) : Prop where
  /-- The settings are those that were put into force last. -/
  settings : l.settings = inForce s calls
  /-- It is on if it was switched on last. -/
  enabled : l.enabled = isOn calls
  /-- It keeps the events that were let through and not forgotten, in the order in which they were
  given. -/
  events : l.events = (kept s calls).map Moment.event
  /-- It has printed one line for each event that was let through while there was a console, in
  that order and as asked for then. -/
  printed : List.Forall₂ (Moment.Shows s) (shown s calls) l.printed
  /-- If there is a console, then the last lines are those of the events that are kept. -/
  console : l.settings.console = true → ∃ earlier lines, l.printed = earlier ++ lines ∧
    List.Forall₂ l.settings.Writes l.events lines

section Recounts

variable {s : LogSettings} {calls : List Call} {l l' : EventLog} {c : Call} {e : Event}

/-- The lines after a call that prints some. -/
theorem Recounts.printed_append (h : Recounts s calls l) {lines : List Line}
    (hlines : List.Forall₂ (Moment.Shows s) ((momentsFrom calls [c]).filter (·.isShown s)) lines) :
    List.Forall₂ (Moment.Shows s) (shown s (calls ++ [c])) (l.printed ++ lines) := by
  have hearlier : List.Forall₂ (Moment.Shows s) ((shown s calls).map (·.followedBy c)) l.printed :=
    List.forall₂_map_left_iff.2 h.printed
  rw [shown_append]
  exact List.rel_append hearlier hlines

/-- **A call that gives no event** prints nothing, and either changes no settings and leaves the
events alone, or has them forgotten. -/
theorem Recounts.of_quiet (h : Recounts s calls l) (hmoments : momentsFrom calls [c] = [])
    (hsettings : l'.settings = c.settings?.getD l.settings)
    (henabled : l'.enabled = c.turns?.getD l.enabled)
    (hevents : l'.events = if c.forgets then [] else l.events)
    (hprinted : l'.printed = l.printed) (hforgets : c.forgets = false → c.settings? = none) :
    Recounts s (calls ++ [c]) l' where
  settings := by rw [hsettings, inForce_append, h.settings]
  enabled := by rw [henabled, isOn_append, h.enabled]
  events := by
    rw [hevents, map_event_kept_append, hmoments, h.events]
    exact (List.append_nil _).symm
  printed := by
    rw [hprinted, ← List.append_nil l.printed]
    refine h.printed_append ?_
    rw [hmoments]
    exact .nil
  console := by
    intro hconsole
    cases hc : c.forgets with
    | true =>
      rw [hevents, hc]
      exact ⟨l'.printed, [], (List.append_nil _).symm, .nil⟩
    | false =>
      rw [hforgets hc] at hsettings
      have hsame : l'.settings = l.settings := hsettings
      rw [hevents, hprinted, hc, hsame]
      exact h.console (hsame ▸ hconsole)

/-- A console takes any event that can be told in a sentence, and prints the line that is asked
for. -/
theorem exists_linesOf (he : e.Speakable) (t : LogSettings) (hconsole : t.console = true) :
    ∃ line, linesOf t e = .ok [line] ∧ t.Writes e line := by
  obtain ⟨sentence, hsentence⟩ := he
  unfold linesOf
  rw [if_pos hconsole]
  cases hjson : t.json with
  | true => exact ⟨⟨t.timestamps, e.json⟩, rfl, rfl, by rw [if_pos hjson]⟩
  | false =>
    rw [hsentence]
    exact ⟨⟨t.timestamps, sentence⟩, rfl, rfl, by rw [hjson, if_neg Bool.false_ne_true, hsentence]⟩

/-- **An event that can be told does not stop a log**, and is printed if the log takes it and has a
console. -/
theorem exists_add (he : e.Speakable) (l : EventLog) :
    ∃ lines, List.Forall₂ l.settings.Writes (l.uttered e) lines ∧ l.add e =
      .ok { l with events := l.events ++ l.taken e, printed := l.printed ++ lines } := by
  simp only [add_eq_ok_iff, uttered]
  cases hkeeps : l.keeps e with
  | false => exact ⟨[], by simp [taken, hkeeps], [], rfl, rfl⟩
  | true =>
    have htaken : l.taken e = [e] := if_pos hkeeps
    rw [htaken, if_pos rfl]
    cases hconsole : l.settings.console with
    | false =>
      refine ⟨[], .nil, [], ?_, rfl⟩
      rw [linesOf, hconsole]
      rfl
    | true =>
      obtain ⟨line, hlines, hwrites⟩ := exists_linesOf he l.settings hconsole
      exact ⟨[line], .cons hwrites .nil, [line], hlines, rfl⟩

/-- A log takes an event if its history has the event let through. -/
theorem Recounts.keeps_eq (h : Recounts s calls l) (e : Event) :
    l.keeps e = Moment.isHeard s ⟨calls, e, []⟩ := by
  rw [keeps, h.enabled, h.settings, Level.admits_level]
  rfl

/-- Of the moment at which an event is given the event is kept if the log takes it. -/
theorem Recounts.filter_isKept (h : Recounts s calls l) (e : Event) :
    ((momentsFrom calls [.give e]).filter (·.isKept s)).map Moment.event = l.taken e := by
  rw [map_event_filter_isKept, ← h.keeps_eq]
  rfl

/-- It is printed if there is a console as well. -/
theorem Recounts.filter_isShown (h : Recounts s calls l) (e : Event) :
    (momentsFrom calls [.give e]).filter (·.isShown s) = (l.uttered e).map (⟨calls, ·, []⟩) := by
  have hshown : Moment.isShown s ⟨calls, e, []⟩ = (l.keeps e && l.settings.console) := by
    rw [h.keeps_eq, h.settings]
    rfl
  have hmoments : momentsFrom calls [.give e] = [⟨calls, e, []⟩] := rfl
  rw [hmoments, List.filter_cons, hshown, uttered, taken]
  cases l.keeps e <;> cases l.settings.console <;> rfl

/-- **An event that is given is kept and printed**, or not, as the settings in force have it. -/
theorem Recounts.add (h : Recounts s calls l) (he : e.Speakable) :
    ∃ l', l.add e = .ok l' ∧ Recounts s (calls ++ [.give e]) l' := by
  obtain ⟨lines, hlines, hadd⟩ := exists_add he l
  refine ⟨_, hadd, ?_⟩
  constructor
  · rw [inForce_append]
    exact h.settings
  · rw [isOn_append]
    exact h.enabled
  · rw [map_event_kept_append, h.filter_isKept, ← h.events]
    rfl
  · refine h.printed_append ?_
    rw [h.filter_isShown, List.forall₂_map_left_iff]
    rw [h.settings] at hlines
    exact hlines
  · intro hconsole
    obtain ⟨earlier, recent, hprinted, hrecent⟩ := h.console hconsole
    refine ⟨earlier, recent ++ lines, ?_, List.rel_append hrecent ?_⟩
    · dsimp only
      rw [hprinted, List.append_assoc]
    · have huttered : l.uttered e = l.taken e := if_pos hconsole
      rwa [huttered] at hlines

/-- **A log that tells of its history does so after one call more.** -/
theorem Recounts.perform (h : Recounts s calls l) (hc : ∀ e, c = .give e → e.Speakable) :
    ∃ l', c.perform l = .ok l' ∧ Recounts s (calls ++ [c]) l' := by
  cases c with
  | give e => exact h.add (hc e rfl)
  | switchOn => exact ⟨_, rfl, h.of_quiet rfl rfl rfl rfl rfl fun _ => rfl⟩
  | switchOff => exact ⟨_, rfl, h.of_quiet rfl rfl rfl rfl rfl fun _ => rfl⟩
  | forget => exact ⟨_, rfl, h.of_quiet rfl rfl rfl rfl rfl nofun⟩
  | restart t => exact ⟨_, rfl, h.of_quiet rfl rfl rfl rfl rfl nofun⟩

end Recounts

/-! ## Raising the level -/

section Raised

variable {s s' : LogSettings} {calls calls' : List Call} {m m' : Moment}

/-- What raising a level does not change of a call it does not change of calls. -/
theorem map_eq_of_raised {β : Type} {f : Call → β} (hf : ∀ {c c'}, Call.Raised c c' → f c' = f c)
    (h : List.Forall₂ Call.Raised calls calls') : calls'.map f = calls.map f := by
  induction h with
  | nil => rfl
  | cons hc _ ih => rw [List.map_cons, List.map_cons, hf hc, ih]

theorem all_forgets_of_raised (h : List.Forall₂ Call.Raised calls calls') :
    (calls'.all fun c => !c.forgets) = calls.all fun c => !c.forgets := by
  have hmap : calls'.map Call.forgets = calls.map Call.forgets :=
    map_eq_of_raised (fun hc => by cases hc <;> rfl) h
  have hall := congrArg (List.all · (!·)) hmap
  rwa [List.all_map, List.all_map] at hall

theorem isOn_of_raised (h : List.Forall₂ Call.Raised calls calls') : isOn calls' = isOn calls := by
  have hmap : calls'.map Call.turns? = calls.map Call.turns? :=
    map_eq_of_raised (fun hc => by cases hc <;> rfl) h
  have hturns := congrArg (List.filterMap id) hmap
  rw [List.filterMap_map, List.filterMap_map] at hturns
  exact congrArg (List.getLastD · true) hturns

theorem inForce_cons (s : LogSettings) (c : Call) (calls : List Call) :
    inForce s (c :: calls) = inForce (c.settings?.getD s) calls := by
  unfold inForce
  cases c with
  | restart t => exact List.getLastD_cons
  | _ => rfl

/-- **Raised levels stay raised.** -/
theorem admits_of_raised (hs : s'.level.admits s.level = true)
    (h : List.Forall₂ Call.Raised calls calls') :
    (inForce s' calls').level.admits (inForce s calls).level = true := by
  induction h generalizing s s' with
  | nil => exact hs
  | cons hc _ ih =>
    rw [inForce_cons, inForce_cons]
    refine ih ?_
    cases hc with
    | restart h => exact h
    | _ => exact hs

/-- The moments are the same, but that settings may let more through. -/
structure Moment.Raised (m m' : Moment) : Prop where
  /-- The calls before are raised. -/
  before : List.Forall₂ Call.Raised m.before m'.before
  /-- The event is the same. -/
  event : m'.event = m.event
  /-- The calls after are raised. -/
  after : List.Forall₂ Call.Raised m.after m'.after

/-- **What is kept is kept with raised levels.** -/
theorem Moment.Raised.isKept (h : m.Raised m') (hs : s'.level.admits s.level = true)
    (hm : m.isKept s = true) : m'.isKept s' = true := by
  have hlevel := admits_of_raised hs h.before
  unfold Moment.isKept Moment.isHeard at hm ⊢
  rw [← Level.admits_level, Bool.and_eq_true, Bool.and_eq_true] at hm ⊢
  rw [isOn_of_raised h.before, h.event, all_forgets_of_raised h.after]
  exact ⟨⟨hm.1.1, Level.admits_trans hlevel hm.1.2⟩, hm.2⟩

end Raised

/-! ## The law -/

/-- What is kept of the calls, moment by moment. -/
theorem mem_map_event_kept {s : LogSettings} {calls : List Call} {e : Event} :
    e ∈ (kept s calls).map Moment.event ↔
      ∃ before after, calls = before ++ .give e :: after ∧ isOn before = true ∧
        (inForce s before).level ∈ e.askedAt ∧ ∀ c ∈ after, c.forgets = false := by
  simp only [kept, List.mem_map, List.mem_filter, mem_moments, Moment.isKept, Moment.isHeard,
    Bool.and_eq_true, decide_eq_true_iff, List.all_eq_true, Bool.not_eq_true']
  constructor
  · rintro ⟨m, ⟨hcalls, ⟨hon, hlevel⟩, hafter⟩, rfl⟩
    exact ⟨m.before, m.after, hcalls, hon, hlevel, hafter⟩
  · rintro ⟨before, after, hcalls, hon, hlevel, hafter⟩
    exact ⟨⟨before, e, after⟩, ⟨hcalls, ⟨hon, hlevel⟩, hafter⟩, rfl⟩

end EventLog

end CardBarrier
