import CardBarrier.Proofs.LogHistory

/-!
# How a log prints and what it keeps

The settings of an event log say which events it keeps and how it prints them, and the second should
be no matter for the first. It is one in a single case. A log makes the line of an event before it
keeps the event, and the sentence on the counters adds two of them up; where their sum leaves the
word there is no sentence (`Event.IsTooLarge`), and a log that prints sentences stops at the report
and keeps nothing of it. One that prints JSON objects keeps the report, and so does one that prints
nothing at all.

More may be asked of a log that has stopped, which is as it was before (`EventLog.after`). What it
keeps is what was let through of its history and not forgotten, less the reports that it stopped at
(`EventLog.Stores`). So two logs at the same level keep the same after every call exactly if both
print sentences or neither does, or if no such report is let through
(`EventLog.presentationLaw`).
-/

namespace CardBarrier

/-- **The settings ask for sentences on a console.** -/
def LogSettings.speaks (s : LogSettings) : Bool := s.console && !s.json

/-- **An event can be printed** as the settings ask. -/
def LogSettings.Tells (s : LogSettings) (e : Event) : Prop := s.speaks = true → ¬e.IsTooLarge

instance (s : LogSettings) (e : Event) : Decidable (s.Tells e) :=
  inferInstanceAs (Decidable (s.speaks = true → ¬e.IsTooLarge))

theorem LogSettings.not_tells_iff {s : LogSettings} {e : Event} :
    ¬s.Tells e ↔ s.speaks = true ∧ e.IsTooLarge := by
  rw [Tells, Classical.not_imp, not_not]

namespace EventLog

/-! ## One call -/

section Call

variable {s : LogSettings} {l : EventLog} {e : Event} {c : Call} {fault : Fault}

theorem linesOf_eq_error_iff :
    linesOf s e = .error fault ↔ s.speaks = true ∧ e.human = .error fault := by
  unfold linesOf LogSettings.speaks
  cases s.console <;> cases s.json <;> cases e.human <;> simp [bind, Except.bind, pure, Except.pure]

/-- **A log stops at an event** that it takes and cannot print. -/
theorem add_eq_error_iff :
    l.add e = .error fault ↔ fault = .sumOverflow ∧ l.keeps e = true ∧ ¬l.settings.Tells e := by
  have hlines : l.add e = .error fault ↔
      l.keeps e = true ∧ linesOf l.settings e = .error fault := by
    unfold add
    cases l.keeps e <;> cases linesOf l.settings e <;> simp [bind, Except.bind, pure, Except.pure]
  rw [hlines, linesOf_eq_error_iff, Event.human_eq_error_iff, LogSettings.not_tells_iff]
  constructor
  · rintro ⟨hkeeps, hspeaks, hfault, hlarge⟩
    exact ⟨hfault, hkeeps, hspeaks, hlarge⟩
  · rintro ⟨hfault, hkeeps, hspeaks, hlarge⟩
    exact ⟨hkeeps, hspeaks, hfault, hlarge⟩

/-- **What a call does to a log that goes on**: where it stops, the log is as it was. -/
def Call.attempt (c : Call) : Act EventLog Unit := Act.update c.perform

theorem Call.run_attempt_of_ok {l' : EventLog} (h : c.perform l = .ok l') :
    c.attempt.run l = (.ok (), l') := by
  rw [attempt, Act.update, Act.run_ofFun, h]

theorem Call.run_attempt_of_error (h : c.perform l = .error fault) :
    c.attempt.run l = (.error fault, l) := by
  rw [attempt, Act.update, Act.run_ofFun, h]

theorem Call.attempt_eq_error_iff :
    (c.attempt.run l).1 = .error fault ↔ c.perform l = .error fault := by
  cases h : c.perform l with
  | ok l' => rw [run_attempt_of_ok h]; exact iff_of_false nofun nofun
  | error other => rw [run_attempt_of_error h, Except.error.injEq, Except.error.injEq]

/-- **A call stops a log** only if it gives it an event that it takes and cannot print. -/
theorem Call.perform_eq_error_iff : c.perform l = .error fault ↔
    fault = .sumOverflow ∧ ∃ e, c = .give e ∧ l.keeps e = true ∧ ¬l.settings.Tells e := by
  cases c with
  | give e =>
    have hgive : (give e).perform l = l.add e := rfl
    simp [hgive, add_eq_error_iff]
  | _ => exact iff_of_false nofun (fun ⟨_, e, h, _⟩ => nomatch h)

/-- **Of an event that a log takes it keeps what it can print**, and it stays on and set up as it
was. -/
theorem Call.attempt_give (l : EventLog) (e : Event) :
    ((give e).attempt.run l).2.settings = l.settings ∧
      ((give e).attempt.run l).2.enabled = l.enabled ∧
      ((give e).attempt.run l).2.events = l.events ++ (l.taken e).filter (l.settings.Tells ·) := by
  have hperform : (give e).perform l = l.add e := rfl
  cases hadd : l.add e with
  | error other =>
    rw [run_attempt_of_error (hperform.trans hadd)]
    obtain ⟨-, hkeeps, htells⟩ := add_eq_error_iff.1 hadd
    have htaken : l.taken e = [e] := if_pos hkeeps
    refine ⟨rfl, rfl, ?_⟩
    rw [htaken, List.filter_cons_of_neg (by simpa using htells), List.filter_nil, List.append_nil]
  | ok l' =>
    rw [run_attempt_of_ok (hperform.trans hadd)]
    obtain ⟨lines, -, rfl⟩ := add_eq_ok_iff.1 hadd
    refine ⟨rfl, rfl, ?_⟩
    -- what the log takes and cannot print it would have stopped at
    have htells : ∀ d ∈ l.taken e, l.settings.Tells d := by
      intro d hd
      by_contra hnot
      unfold taken at hd
      split at hd
      · obtain rfl := List.mem_singleton.1 hd
        have herror := add_eq_error_iff.2 ⟨rfl, ‹l.keeps d = true›, hnot⟩
        rw [hadd] at herror
        cases herror
      · exact List.not_mem_nil hd
    rw [List.filter_eq_self.2 fun d hd => decide_eq_true (htells d hd)]

end Call

/-! ## Many calls -/

/-- **The log after calls.** One that stops it leaves it as it was and does not stop those after. -/
def after (calls : List Call) (l : EventLog) : EventLog :=
  calls.foldl (fun l c => (c.attempt.run l).2) l

theorem after_append (calls : List Call) (c : Call) (l : EventLog) :
    after (calls ++ [c]) l = (c.attempt.run (after calls l)).2 := by
  rw [after, List.foldl_append]
  rfl

/-- **The calls leave the settings alone.** -/
def LeavesSettings (calls : List Call) : Prop := ∀ c ∈ calls, c.settings? = none

/-- **What a log stores** after calls that leave its settings alone and any of which may stop it. -/
structure Stores (s : LogSettings) (calls : List Call) (l : EventLog) : Prop where
  /-- The settings are as at first. -/
  settings : l.settings = s
  /-- It is on if it was switched on last. -/
  enabled : l.enabled = isOn calls
  /-- It keeps the events that were let through, could be printed and were not forgotten. -/
  events : l.events = ((kept s calls).map Moment.event).filter (s.Tells ·)

section Calls

variable {s s' : LogSettings} {calls : List Call} {l : EventLog} {c : Call} {e : Event}

theorem LeavesSettings.of_prefix {before : List Call} (h : LeavesSettings calls)
    (hbefore : before <+: calls) : LeavesSettings before :=
  fun c hc => h c (hbefore.subset hc)

theorem LeavesSettings.inForce_eq (h : LeavesSettings calls) (s : LogSettings) :
    inForce s calls = s := by
  rw [inForce, List.filterMap_eq_nil_iff.2 h, List.getLastD_nil]

/-- Events are let through by the level at first. -/
theorem LeavesSettings.isHeard_eq {before after : List Call} (h : LeavesSettings before)
    (s : LogSettings) (e : Event) :
    Moment.isHeard s ⟨before, e, after⟩ = (isOn before && s.level.admits e.level) := by
  rw [Moment.isHeard, h.inForce_eq, Level.admits_level]

theorem Stores.keeps_eq (h : Stores s calls l) (e : Event) :
    l.keeps e = (isOn calls && s.level.admits e.level) := by
  rw [keeps, h.enabled, h.settings]

/-- **What a log stores after one call more.** -/
theorem Stores.attempt (h : Stores s calls l) (hcalls : LeavesSettings calls)
    (hc : c.settings? = none) : Stores s (calls ++ [c]) (c.attempt.run l).2 := by
  cases c with
  | give e =>
    obtain ⟨hsettings, henabled, hevents⟩ := Call.attempt_give l e
    constructor
    · exact hsettings.trans h.settings
    · rw [henabled, h.enabled, isOn_append]
      rfl
    · rw [hevents, map_event_kept_append, map_event_filter_isKept, hcalls.isHeard_eq,
        ← h.keeps_eq, h.settings, h.events, ← List.filter_append]
      rfl
  | switchOn | switchOff =>
    refine ⟨h.settings, ?_, ?_⟩
    · rw [isOn_append]
      rfl
    · rw [map_event_kept_append]
      exact h.events.trans (congrArg _ (List.append_nil _).symm)
  | forget =>
    refine ⟨h.settings, ?_, ?_⟩
    · rw [isOn_append]
      exact h.enabled
    · rw [map_event_kept_append]
      rfl
  | restart t => cases hc

/-- **What a log stores after calls**, whether or not some of them stop it. -/
theorem stores_after (s : LogSettings) (h : LeavesSettings calls) :
    Stores s calls (after calls { settings := s }) := by
  induction calls using List.reverseRecOn with
  | nil => exact ⟨rfl, rfl, rfl⟩
  | append_singleton calls c ih =>
    have hcalls := h.of_prefix (List.prefix_append calls [c])
    rw [after_append]
    exact (ih hcalls).attempt hcalls (h c (List.mem_append_right _ (List.mem_singleton_self c)))

/-- Where the settings stay as they are, what is kept is a matter of the level alone. -/
theorem kept_congr (h : LeavesSettings calls) (hlevel : s'.level = s.level) :
    kept s' calls = kept s calls := by
  refine List.filter_congr fun m hm => ?_
  have hbefore := h.of_prefix ⟨_, (mem_moments.1 hm).symm⟩
  rw [Moment.isKept, Moment.isKept, hbefore.isHeard_eq s', hbefore.isHeard_eq s, hlevel]

/-- **Calls let an event through** to a log at a level: it is given while the log is on. -/
def LetsThrough (level : Level) (calls : List Call) (e : Event) : Prop :=
  ∃ before later, calls = before ++ .give e :: later ∧ isOn before = true ∧
    level.admits e.level = true

/-- What is kept was let through. -/
theorem letsThrough_of_mem_kept (h : LeavesSettings calls)
    (he : e ∈ (kept s calls).map Moment.event) : LetsThrough s.level calls e := by
  obtain ⟨before, later, hcalls, hon, hlevel, -⟩ := mem_map_event_kept.1 he
  rw [(h.of_prefix ⟨_, hcalls.symm⟩).inForce_eq] at hlevel
  exact ⟨before, later, hcalls, hon, (s.level.admits_level e).trans (decide_eq_true hlevel)⟩

/-- If all that was let through can be printed, a log stores what was kept. -/
theorem events_after_of_tells (h : LeavesSettings calls)
    (htells : ∀ e, LetsThrough s.level calls e → s.Tells e) :
    (after calls { settings := s }).events = (kept s calls).map Moment.event := by
  rw [(stores_after s h).events]
  exact List.filter_eq_self.2 fun e he => decide_eq_true (htells e (letsThrough_of_mem_kept h he))

end Calls

/-! ## The law -/

/-- **What may stop a log and what it stores**, for calls that leave its settings alone. -/
structure StoringLaw (s : LogSettings) (calls : List Call) : Prop where
  /-- A call stops the log if and only if it gives an event that is let through, the log prints
  sentences, and the event is a report of counters too large for one. -/
  stops_iff {before later : List Call} {c : Call} {fault : Fault}
    (h : calls = before ++ c :: later) :
    (c.attempt.run (after before { settings := s })).1 = .error fault ↔
      fault = .sumOverflow ∧ s.speaks = true ∧ ∃ e, c = .give e ∧ isOn before = true ∧
        s.level.admits e.level = true ∧ e.IsTooLarge
  /-- The log is then as it was. -/
  unchanged {before later : List Call} {c : Call} {fault : Fault}
    (h : calls = before ++ c :: later)
    (hstops : (c.attempt.run (after before { settings := s })).1 = .error fault) :
    after (before ++ [c]) { settings := s } = after before { settings := s }
  /-- After every call it keeps what was let through and not forgotten, less the reports that it
  stopped at. -/
  events {before : List Call} (h : before <+: calls) :
    (after before { settings := s }).events
      = ((kept s before).map Moment.event).filter (s.Tells ·)

/-- **How two logs at the same level differ** in what they keep. -/
structure PresentationLaw (s s' : LogSettings) (calls : List Call) : Prop where
  /-- The one log. -/
  first : StoringLaw s calls
  /-- The other log. -/
  second : StoringLaw s' calls
  /-- They keep the same after every call if and only if both print sentences or neither does, or no
  report of counters too large for a sentence is let through. -/
  agree_iff : (∀ before, before <+: calls → (after before { settings := s }).events
      = (after before { settings := s' }).events) ↔
    s.speaks = s'.speaks ∨ ∀ e, LetsThrough s.level calls e → ¬e.IsTooLarge

section Law

variable {s s' : LogSettings} {calls : List Call}

theorem storingLaw (s : LogSettings) (h : LeavesSettings calls) : StoringLaw s calls := by
  constructor
  case stops_iff =>
    intro before later c fault hcalls
    have hstores := stores_after s (h.of_prefix ⟨_, hcalls.symm⟩)
    rw [Call.attempt_eq_error_iff, Call.perform_eq_error_iff, hstores.settings]
    simp only [hstores.keeps_eq, Bool.and_eq_true, LogSettings.not_tells_iff]
    constructor
    · rintro ⟨hfault, e, hc, ⟨hon, hlevel⟩, hspeaks, hlarge⟩
      exact ⟨hfault, hspeaks, e, hc, hon, hlevel, hlarge⟩
    · rintro ⟨hfault, hspeaks, e, hc, hon, hlevel, hlarge⟩
      exact ⟨hfault, e, hc, ⟨hon, hlevel⟩, hspeaks, hlarge⟩
  case unchanged =>
    intro before later c fault hcalls hstops
    rw [after_append, Call.run_attempt_of_error (Call.attempt_eq_error_iff.1 hstops)]
  case events => exact fun hbefore => (stores_after s (h.of_prefix hbefore)).events

/-- Logs that store the same before and after a report that is let through and too large for a
sentence both print sentences, or neither does. -/
theorem speaks_eq_of_agree (h : LeavesSettings calls) (hlevel : s'.level = s.level) {e : Event}
    (he : e.IsTooLarge) (hthrough : LetsThrough s.level calls e)
    (hagree : ∀ before, before <+: calls → (after before { settings := s }).events
      = (after before { settings := s' }).events) : s.speaks = s'.speaks := by
  obtain ⟨before, later, rfl, hon, hadmits⟩ := hthrough
  have hbefore := hagree before (List.prefix_append before _)
  have hafter := hagree (before ++ [.give e]) ⟨later, by simp⟩
  -- a log stores the report unless it prints sentences
  have hreport : ∀ t : LogSettings, t.level = s.level →
      (after (before ++ [.give e]) { settings := t }).events
        = (after before { settings := t }).events ++ if t.speaks then [] else [e] := by
    intro t ht
    have hstores := stores_after t (h.of_prefix (List.prefix_append before _))
    have hkeeps : (after before { settings := t }).keeps e = true := by
      rw [hstores.keeps_eq, hon, ht, hadmits]
      rfl
    have htaken : (after before { settings := t }).taken e = [e] := if_pos hkeeps
    rw [after_append, (Call.attempt_give _ e).2.2, htaken, hstores.settings]
    congr 1
    cases hspeaks : t.speaks with
    | true => simp [LogSettings.Tells, hspeaks, he]
    | false => simp [LogSettings.Tells, hspeaks]
  rw [hreport s rfl, hreport s' hlevel, hbefore, List.append_cancel_left_eq] at hafter
  revert hafter
  cases s.speaks <;> cases s'.speaks <;> simp

/-- **Of what is printed, sentences alone make a difference to what is kept**, and no difference
unless a report is let through whose counters are too large for one. -/
theorem presentationLaw (hlevel : s'.level = s.level) (h : LeavesSettings calls) :
    PresentationLaw s s' calls := by
  refine ⟨storingLaw s h, storingLaw s' h, ?_⟩
  constructor
  · intro hagree
    refine or_iff_not_imp_left.2 fun hne e hthrough hlarge => hne ?_
    exact speaks_eq_of_agree h hlevel hlarge hthrough hagree
  · rintro (hspeaks | hfits) before hbefore
    · have htells : (fun e => decide (s'.Tells e)) = fun e => decide (s.Tells e) := by
        funext e
        rw [decide_eq_decide, LogSettings.Tells, LogSettings.Tells, hspeaks]
      rw [(storingLaw s h).events hbefore, (storingLaw s' h).events hbefore, htells,
        kept_congr (h.of_prefix hbefore) hlevel]
    · have hquiet := h.of_prefix hbefore
      have hlarge : ∀ e, LetsThrough s.level before e → ¬e.IsTooLarge := by
        rintro e ⟨earlier, later, rfl, hon, hadmits⟩
        obtain ⟨rest, rfl⟩ := hbefore
        exact hfits e ⟨earlier, later ++ rest, by simp, hon, hadmits⟩
      rw [events_after_of_tells hquiet fun e he _ => hlarge e he,
        events_after_of_tells hquiet fun e he _ => hlarge e (hlevel ▸ he), kept_congr hquiet hlevel]

/-- A log without a console and one that prints objects keep the same, also of a report that no
sentence can tell. -/
theorem presentation_of_objects :
    ({ json := true, timestamps := false } : LogSettings).level
      = ({ console := false } : LogSettings).level ∧
    LeavesSettings [.give (.counted { referenceFree := 0xffffffffffffffff, young := 1 }), .switchOff,
        .give (.detached true)] ∧
    ∀ before, before <+: [.give (.counted { referenceFree := 0xffffffffffffffff, young := 1 }),
        .switchOff, .give (.detached true)] →
      (after before { settings := { console := false } }).events
        = (after before { settings := { json := true, timestamps := false } }).events := by
  have hquiet : LeavesSettings [.give (.counted { referenceFree := 0xffffffffffffffff, young := 1 }),
      .switchOff, .give (.detached true)] := by
    unfold LeavesSettings
    decide
  have hlaw : PresentationLaw { console := false } { json := true, timestamps := false } _ :=
    presentationLaw rfl hquiet
  exact ⟨rfl, hquiet, hlaw.agree_iff.2 (.inl rfl)⟩

/-- **What a log prints may decide what it keeps.** A log that prints nothing keeps a report, and
one that differs in nothing but its console stops at it and keeps nothing. -/
theorem console_loses_report :
    (after [.give (.counted { referenceFree := 0xffffffffffffffff, young := 1 })]
        { settings := { console := false } }).events
      = [.counted { referenceFree := 0xffffffffffffffff, young := 1 }] ∧
    (Call.give (.counted { referenceFree := 0xffffffffffffffff, young := 1 })).perform
        { settings := { console := true } } = .error .sumOverflow ∧
    (after [.give (.counted { referenceFree := 0xffffffffffffffff, young := 1 })]
        { settings := { console := true } }).events = [] :=
  ⟨rfl, rfl, rfl⟩

end Law

end EventLog

end CardBarrier
