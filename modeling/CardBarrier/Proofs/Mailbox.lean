import CardBarrier.Act
import CardBarrier.Slot

/-!
# A slot is a mailbox with one place

A slot is put intervals in and is taken them out of, in any order, and goes on after a fault:
putting something in while something is there is a fault that leaves the slot as it was. What came
of each call is kept (`Slot.transcript`), together with the slot before the call and after it.

Nothing is lost and nothing comes twice. What was taken out, followed by what is still there, is
what was put in without a fault, in the same order (`Slot.MailboxLaw.in_order`). The step that
carries this adds to both sides at once: what a slot holds and is put in is what it gives away and
holds then.

A slot may also be read out and made anew of what was read. Such conversions leave no trace,
wherever they are made.
-/

namespace CardBarrier.Slot

/-! ## Calls -/

/-- **What may be asked of a slot.** -/
inductive Call where
  /-- To put an interval in. -/
  | put (r : Interval)
  /-- To take out what is there. -/
  | take
  /-- To read the slot out and to make it anew of what was read. -/
  | convert
  deriving DecidableEq

namespace Call

/-- **What a call does**, and what is taken out. -/
def perform : Call → Act Slot (Option Interval)
  | put r => do
    Act.update (Slot.put r)
    return none
  | take => Act.ofFun fun s => (.ok s.take.1, s.take.2)
  | convert => do
    modify fun s => ofOption s.region?
    return none

/-- The slot is read out and made anew. -/
def converts : Call → Bool
  | convert => true
  | _ => false

end Call

/-- **What came of a call.** -/
structure Entry where
  /-- The call. -/
  call : Call
  /-- The slot before it. -/
  before : Slot
  /-- Its outcome. -/
  outcome : Except Fault (Option Interval)
  /-- The slot after it. -/
  after : Slot

namespace Entry

/-- What was put in without a fault. -/
def posted? (e : Entry) : Option Interval :=
  match e.call, e.outcome with
  | .put r, .ok _ => some r
  | _, _ => none

/-- What was taken out. -/
def fetched? (e : Entry) : Option Interval :=
  match e.call, e.outcome with
  | .take, .ok o => o
  | _, _ => none

end Entry

/-- What comes of a call to a slot. -/
def Call.entry (c : Call) (s : Slot) : Entry :=
  ⟨c, s, (c.perform.run s).1, (c.perform.run s).2⟩

/-- **What came of calls to a slot**, one after another. One that stops at a fault does not stop
those after it. -/
def transcript (s : Slot) : List Call → List Entry
  | [] => []
  | c :: calls => c.entry s :: transcript (c.entry s).after calls

/-- The slot after calls. -/
def after (calls : List Call) (s : Slot) : Slot :=
  calls.foldl (fun s c => (c.entry s).after) s

/-- **What was put in without a fault**, in order. -/
def posted (entries : List Entry) : List Interval := entries.filterMap Entry.posted?

/-- **What was taken out**, in order. -/
def fetched (entries : List Entry) : List Interval := entries.filterMap Entry.fetched?

/-! ## One call -/

section Call

variable {s : Slot} {c : Call} {r p : Interval} {fault : Fault}

theorem entry_put_empty (r : Interval) :
    (Call.put r).entry .empty = ⟨.put r, .empty, .ok none, .holding r⟩ := rfl

/-- **Putting in over something leaves it there.** -/
theorem entry_put_holding (r p : Interval) :
    (Call.put r).entry (.holding p)
      = ⟨.put r, .holding p, .error (.slotTaken r p), .holding p⟩ := rfl

theorem entry_take (s : Slot) : Call.take.entry s = ⟨.take, s, .ok s.region?, .empty⟩ := rfl

/-- **A conversion leaves the slot as it was.** -/
theorem entry_convert (s : Slot) : Call.convert.entry s = ⟨.convert, s, .ok none, s⟩ := by
  have hrun : Call.convert.perform.run s = (.ok none, ofOption s.region?) := rfl
  rw [Call.entry, hrun, ofOption_region?]

/-- **A call stops only at something put in over something else**, and changes nothing then. -/
theorem eq_of_outcome_eq_error (h : (c.entry s).outcome = .error fault) :
    (c.entry s).after = s ∧ ∃ r p, c = .put r ∧ s = .holding p ∧ fault = .slotTaken r p := by
  cases c with
  | put r =>
    cases s with
    | empty =>
      rw [entry_put_empty] at h
      cases h
    | holding p =>
      rw [entry_put_holding] at h
      cases h
      exact ⟨rfl, r, p, rfl, rfl, rfl⟩
  | take => cases h
  | convert =>
    rw [entry_convert] at h
    cases h

/-- **Putting in is a fault if and only if something is there.** -/
theorem put_stops_iff :
    (∃ fault, ((Call.put r).entry s).outcome = .error fault) ↔ ∃ p, s.region? = some p := by
  cases s with
  | empty =>
    rw [entry_put_empty]
    exact iff_of_false (fun ⟨_, h⟩ => nomatch h) (fun ⟨_, h⟩ => nomatch h)
  | holding p => exact iff_of_true ⟨_, rfl⟩ ⟨p, rfl⟩

/-- **What is there and is put in** is what is taken out and is there then. -/
theorem posted_entry (c : Call) (s : Slot) :
    s.region?.toList ++ (c.entry s).posted?.toList
      = (c.entry s).fetched?.toList ++ (c.entry s).after.region?.toList := by
  cases c with
  | put r => cases s <;> rfl
  | take =>
    rw [entry_take]
    exact (List.append_nil _).trans (List.append_nil _).symm
  | convert =>
    rw [entry_convert]
    exact List.append_nil _

end Call

/-! ## Many calls -/

section Calls

variable {s : Slot} {c : Call} {calls : List Call} {e : Entry}

/-- What is read off a transcript is read off its first entry, and then off the others. -/
theorem filterMap_entries (read : Entry → Option Interval) (e : Entry) (entries : List Entry) :
    (e :: entries).filterMap read = (read e).toList ++ entries.filterMap read := by
  rw [List.filterMap_cons]
  cases read e <;> rfl

/-- **Nothing is lost and nothing comes twice.** -/
theorem posted_transcript (s : Slot) (calls : List Call) :
    s.region?.toList ++ posted (transcript s calls)
      = fetched (transcript s calls) ++ (after calls s).region?.toList := by
  induction calls generalizing s with
  | nil => exact List.append_nil _
  | cons c calls ih =>
    have hrest := ih (c.entry s).after
    have hposted := filterMap_entries Entry.posted? (c.entry s)
    have hfetched := filterMap_entries Entry.fetched? (c.entry s)
    rw [transcript, posted, fetched, hposted, hfetched]
    calc s.region?.toList
          ++ ((c.entry s).posted?.toList ++ posted (transcript (c.entry s).after calls))
        = (c.entry s).fetched?.toList ++ ((c.entry s).after.region?.toList
            ++ posted (transcript (c.entry s).after calls)) := by
          rw [← List.append_assoc, posted_entry, List.append_assoc]
      _ = (c.entry s).fetched?.toList ++ fetched (transcript (c.entry s).after calls)
            ++ (after (c :: calls) s).region?.toList := by
          rw [hrest, List.append_assoc]
          rfl

/-- What is on a transcript came of a call to the slot before it. -/
theorem eq_entry_of_mem (h : e ∈ transcript s calls) : e = e.call.entry e.before := by
  induction calls generalizing s with
  | nil => cases h
  | cons c calls ih =>
    rcases List.mem_cons.1 h with rfl | hrest
    · rfl
    · exact ih hrest

/-- **Conversions leave no trace**: without them the other calls come to the same, one by one. -/
theorem transcript_filter (s : Slot) (calls : List Call) :
    transcript s (calls.filter (!·.converts))
        = (transcript s calls).filter (!·.call.converts) ∧
      after (calls.filter (!·.converts)) s = after calls s := by
  induction calls generalizing s with
  | nil => exact ⟨rfl, rfl⟩
  | cons c calls ih =>
    obtain ⟨htranscript, hafter⟩ := ih (c.entry s).after
    cases c with
    | convert =>
      have hentry : transcript s (.convert :: calls)
          = ⟨.convert, s, .ok none, s⟩ :: transcript s calls := by
        rw [transcript, entry_convert]
      have hslot : after (.convert :: calls) s = after calls s := by
        rw [after, after, List.foldl_cons, entry_convert]
      rw [entry_convert] at htranscript hafter
      rw [hentry, hslot]
      exact ⟨htranscript, hafter⟩
    | put _ | take => exact ⟨congrArg (_ :: ·) htranscript, hafter⟩

/-- **Something is there after calls** if it is the one thing that was put in and not yet taken
out. -/
theorem after_eq_holding_iff {p : Interval} :
    after calls .empty = .holding p ↔
      posted (transcript .empty calls) = fetched (transcript .empty calls) ++ [p] := by
  have horder := posted_transcript .empty calls
  have hnone : region? empty = none := rfl
  rw [hnone, Option.toList_none, List.nil_append] at horder
  rw [horder, List.append_cancel_left_eq]
  cases after calls .empty with
  | empty => exact iff_of_false (fun h => nomatch h) (fun h => nomatch h)
  | holding q => simp [region?]

end Calls

/-! ## The law -/

/-- **The laws of a mailbox with one place**, of calls to a slot that is empty at first. -/
structure MailboxLaw (calls : List Call) : Prop where
  /-- Putting in is a fault if and only if something is there. -/
  put_stops_iff {e : Entry} {r : Interval} (he : e ∈ transcript .empty calls)
    (hc : e.call = .put r) :
    (∃ fault, e.outcome = .error fault) ↔ ∃ p, e.before.region? = some p
  /-- Nothing else is a fault, and a fault leaves the slot as it was and says what there was to put
  in and what was there. -/
  stops {e : Entry} {fault : Fault} (he : e ∈ transcript .empty calls)
    (h : e.outcome = .error fault) :
    e.after = e.before ∧
      ∃ r p, e.call = .put r ∧ e.before = .holding p ∧ fault = .slotTaken r p
  /-- What was taken out, followed by what is still there, is what was put in without a fault, in
  the same order. -/
  in_order : fetched (transcript .empty calls) ++ (after calls .empty).region?.toList
    = posted (transcript .empty calls)
  /-- What is there is the one thing that was put in and not yet taken out. -/
  holding_iff {p : Interval} : after calls .empty = .holding p ↔
    posted (transcript .empty calls) = fetched (transcript .empty calls) ++ [p]
  /-- Without the conversions the other calls come to the same, one by one. -/
  unconverted : transcript .empty (calls.filter (!·.converts))
    = (transcript .empty calls).filter (!·.call.converts)
  /-- And so does the slot in the end. -/
  after_unconverted : after (calls.filter (!·.converts)) .empty = after calls .empty

/-- **A slot is a mailbox with one place**, whatever is asked of it. -/
theorem mailboxLaw (calls : List Call) : MailboxLaw calls := by
  have horder := posted_transcript .empty calls
  obtain ⟨htranscript, hafter⟩ := transcript_filter .empty calls
  constructor
  case put_stops_iff =>
    intro e r he hc
    rw [eq_entry_of_mem he, hc]
    exact put_stops_iff
  case stops =>
    intro e fault he h
    rw [eq_entry_of_mem he] at h
    have hstops := eq_of_outcome_eq_error h
    rwa [← eq_entry_of_mem he] at hstops
  case in_order => exact horder.symm
  case holding_iff => exact after_eq_holding_iff
  case unconverted => exact htranscript
  case after_unconverted => exact hafter

/-- The second interval is refused, and the first is taken out once. -/
example (p r : Interval) :
    fetched (transcript .empty [.put p, .put r, .convert, .take, .take]) = [p] := rfl

end CardBarrier.Slot
