import EndpointSync.Proofs.ResumeVersion
import EndpointSync.Rules.Service

/-!
# Expired versions

A watch can be told that its version has expired in two ways. An event that reports it makes the
next watch start anew. A body that is the report itself, with no event around it, does not: it is no
event, so it ends the watch like any other line that does not read, and the version stays. The watch
is then asked for from the expired version again.

From one watch to a later one the version changes by the events in between. After a fresh start it
is therefore the version of one of these, or the start is fresh still.
-/

namespace EndpointSync

open Cluster (ErrorReport ListResult Response WatchEvent)

namespace Cluster

namespace WatchEvent

/-! ## The versions that events carry -/

/-- The version that an event carries. -/
def version? : WatchEvent → Option String
  | .changed change => change.object.metadata.resourceVersion
  | .bookmark version => some version
  | .error _ => none

theorem resume_eq_or (version : String) (e : WatchEvent) :
    e.version? = some (e.resume version) ∨ e.resume version = version ∨
      e.resume version = Controller.fromStart := by
  cases e with
  | changed change =>
    rw [version?, resume]
    cases change.object.metadata.resourceVersion with
    | none => exact .inr (.inl rfl)
    | some newer => exact .inl rfl
  | bookmark newer => exact .inl rfl
  | error report =>
    rw [resume]
    split
    · exact .inr (.inr rfl)
    · exact .inr (.inl rfl)

/-- The version that some events lead to is the one before them, a fresh start, or one that an event
carries. -/
theorem foldl_resume_eq_or (events : List WatchEvent) (version : String) :
    events.foldl resume version = version ∨
      events.foldl resume version = Controller.fromStart ∨
      ∃ e ∈ events, e.version? = some (events.foldl resume version) := by
  induction events generalizing version with
  | nil => exact .inl rfl
  | cons e rest ih =>
    rw [List.foldl_cons]
    rcases ih (e.resume version) with hlast | hstart | ⟨later, hlater, hversion⟩
    · rw [hlast]
      rcases resume_eq_or version e with hcarried | hkept | hstart
      · exact .inr (.inr ⟨e, List.mem_cons_self, hcarried⟩)
      · exact .inl hkept
      · exact .inr (.inl hstart)
    · exact .inr (.inl hstart)
    · exact .inr (.inr ⟨later, List.mem_cons_of_mem e hlater, hversion⟩)

/-! ## Errors and events -/

private theorem ofJson?_of_report {j : Json} {report : ErrorReport}
    (hreport : ErrorReport.ofJson? j = some report) (htype : j.field? "type" = none) :
    ofJson? j = none := by
  cases j with
  | obj fields =>
    have hfind : fields.reverse.find? (·.1 == "type") = none := Option.map_eq_none_iff.mp htype
    have hno : ∀ f ∈ fields, ¬(f.1 == "type") = true := by
      intro f hf
      exact List.find?_eq_none.mp hfind f (List.mem_reverse.mpr hf)
    have honly : onlyField? fields "type" = none := by
      rw [onlyField?, List.filter_eq_nil_iff.mpr hno]
    rw [ofJson?, honly]
    rfl
  | arr items =>
    -- a report has four parts and an event two
    rw [ErrorReport.ofJson?.eq_def] at hreport
    split at hreport
    next status message reason code heq =>
      rw [Json.arr.injEq] at heq
      rw [heq]
      simp [ofJson?]
    next heq => exact absurd heq (by simp)
    · exact absurd hreport (by simp)
  | null => exact absurd hreport (by simp [ErrorReport.ofJson?])
  | bool b => exact absurd hreport (by simp [ErrorReport.ofJson?])
  | int n => exact absurd hreport (by simp [ErrorReport.ofJson?])
  | real x => exact absurd hreport (by simp [ErrorReport.ofJson?])
  | str text => exact absurd hreport (by simp [ErrorReport.ofJson?])

private theorem heard_of_error_mem {events : List WatchEvent} {report : ErrorReport}
    (h : .error report ∈ heard events) : ∃ before, heard events = before ++ [.error report] := by
  induction events with
  | nil => exact absurd h List.not_mem_nil
  | cons e rest ih =>
    by_cases herror : e.isError = true
    · rw [heard_cons_of_isError herror] at h ⊢
      exact ⟨[], by rw [List.mem_singleton.mp h, List.nil_append]⟩
    · have hgoesOn : e.isError = false := Bool.eq_false_iff.mpr herror
      rw [heard_cons hgoesOn] at h ⊢
      rcases List.mem_cons.mp h with rfl | hrest
      · exact absurd rfl herror
      · obtain ⟨before, hbefore⟩ := ih hrest
        exact ⟨e :: before, by rw [hbefore, List.cons_append]⟩

end WatchEvent

/-! ## Bodies without events -/

namespace Feed

/-- The event that a line says happened. -/
def event? (line : List Char) : Option WatchEvent :=
  (Json.parse (String.ofList (chomp line))).toOption.bind WatchEvent.ofJson?

theorem events_ofLines_of_no_event (ending : WatchEnd) {lines : List (List Char)}
    (h : ∀ line ∈ lines, event? line = none) : (ofLines ending lines).events = [] := by
  induction lines with
  | nil => rfl
  | cons line rest ih =>
    have hline : event? line = none := h line List.mem_cons_self
    have hrest := ih fun later hlater ↦ h later (List.mem_cons_of_mem line hlater)
    rw [event?] at hline
    rw [ofLines]
    cases hparse : Json.parse (String.ofList (chomp line)) with
    | error flaw =>
      cases flaw with
      | incomplete => exact hrest
      | malformed => rfl
    | ok j =>
      rw [hparse] at hline
      have hnone : WatchEvent.ofJson? j = none := hline
      dsimp only
      rw [hnone]

private theorem lines_of_not_mem {cs : List Char} (h : '\n' ∉ cs) : lines cs = ([], cs) := by
  induction cs with
  | nil => rfl
  | cons c rest ih =>
    rw [List.mem_cons, not_or] at h
    have hrest := ih h.2
    rw [lines, hrest]
    exact fun hc ↦ h.1 hc.symm

/-- The lines of a body, with what is left behind the last line feed. -/
def allLines (body : String) : List (List Char) :=
  (lines body.toList).1 ++ [(lines body.toList).2]

private theorem events_ofBody_of_no_event {body : String} (ending : Ending)
    (h : ∀ line ∈ allLines body, event? line = none) : (ofBody body ending).events = [] := by
  have hlines : ∀ line ∈ (lines body.toList).1, event? line = none :=
    fun line hline ↦ h line (List.mem_append_left _ hline)
  rw [ofBody]
  cases ending with
  | complete =>
    dsimp only
    split
    · exact events_ofLines_of_no_event _ hlines
    · exact events_ofLines_of_no_event _ h
  | broken => exact events_ofLines_of_no_event _ hlines
  | stalled => exact events_ofLines_of_no_event _ hlines

end Feed

/-! ## The two ways to report it -/

namespace Response

/-- An event of the watch reports that its version has expired. -/
def ExpiredByEvent (r : Response) : Prop :=
  ∃ report, .error report ∈ r.events ∧ report.code = 410

/-- The body is the report that the version has expired, and no line of it is an event. -/
def ExpiredByStatus (r : Response) : Prop :=
  ∃ status body ending report, r = .reply status body ending ∧
    (wholeJson? body).bind ErrorReport.ofJson? = some report ∧ report.code = 410 ∧
    ∀ line ∈ Feed.allLines body, Feed.event? line = none

/-- A report that is written on one line and has no type is such a body. -/
theorem expiredByStatus_of_line {body : String} {report : ErrorReport}
    (hline : '\n' ∉ body.toList) (hreturn : body.toList.getLast? ≠ some '\r')
    (hreport : (wholeJson? body).bind ErrorReport.ofJson? = some report)
    (hcode : report.code = 410) (htype : (wholeJson? body).bind (·.field? "type") = none)
    (status : Nat) (ending : Ending) : (Response.reply status body ending).ExpiredByStatus := by
  refine ⟨status, body, ending, report, rfl, hreport, hcode, ?_⟩
  obtain ⟨j, hj, hjreport⟩ := Option.bind_eq_some_iff.mp hreport
  rw [hj, Option.bind_some] at htype
  intro line hmem
  rw [Feed.allLines, Feed.lines_of_not_mem hline, List.nil_append, List.mem_singleton] at hmem
  have hevent : Feed.event? line = (wholeJson? body).bind WatchEvent.ofJson? := by
    rw [hmem, Feed.event?, Feed.chomp, if_neg hreturn, String.ofList_toList, wholeJson?]
  rw [hevent, hj, Option.bind_some, WatchEvent.ofJson?_of_report hjreport htype]

variable {r : Response}

theorem resume_of_expiredByEvent (h : r.ExpiredByEvent) (version : String) :
    r.resume version = Controller.fromStart := by
  obtain ⟨report, hreport, hcode⟩ := h
  rw [resume]
  rw [events] at hreport ⊢
  cases hwatch : r.watch? with
  | none =>
    rw [hwatch] at hreport
    exact absurd hreport List.not_mem_nil
  | some feed =>
    rw [hwatch] at hreport
    obtain ⟨before, hbefore⟩ := WatchEvent.heard_of_error_mem hreport
    dsimp only
    rw [hbefore, List.foldl_append, List.foldl_cons, List.foldl_nil, WatchEvent.resume,
      if_pos hcode]
    rfl

theorem events_of_expiredByStatus (h : r.ExpiredByStatus) : r.events = [] := by
  obtain ⟨status, body, ending, report, rfl, -, -, hlines⟩ := h
  have hnone : (Feed.ofBody body ending).events = [] := Feed.events_ofBody_of_no_event ending hlines
  rw [events, watch?]
  dsimp only
  rw [hnone]
  rfl

theorem not_expiredByEvent_of_expiredByStatus (h : r.ExpiredByStatus) : ¬r.ExpiredByEvent := by
  rintro ⟨report, hreport, -⟩
  rw [events_of_expiredByStatus h] at hreport
  exact absurd hreport List.not_mem_nil

end Response

end Cluster

namespace Controller

variable {κ : Type} {c : Controller κ}

/-! ## The watches after it -/

theorem take_succ_add_of_getElem? {responses : List Response} {k : Nat} {r : Response}
    (h : responses[k]? = some r) (j : Nat) :
    responses.take (k + 1 + j) = responses.take k ++ r :: (responses.drop (k + 1)).take j := by
  obtain ⟨hk, hr⟩ := List.getElem?_eq_some_iff.mp h
  rw [show k + 1 + j = k + (j + 1) from by omega, List.take_add, List.drop_eq_getElem_cons hk, hr,
    List.take_succ_cons]

/-- From one watch to a later one the version changes by the events in between. -/
theorem version_of_later_ask {script : Script} {k j : Nat} {v u : String} {r : Response}
    (hv : (c.asks script)[k + 1]? = some (.watch v)) (hr : script[k + 1]? = some r)
    (hu : (c.asks script)[k + 2 + j]? = some (.watch u)) :
    u = (((script.drop (k + 2)).take j).flatMap Response.events).foldl WatchEvent.resume
      (r.resume v) := by
  obtain ⟨l, hlist, hversion⟩ := watch_of_asks hv
  rw [show k + 2 + j = (k + 1 + j) + 1 from by omega] at hu
  obtain ⟨l', hlist', hlater⟩ := watch_of_asks hu
  -- both versions come from that of one list, so the later one goes on where the other one is
  have hl : l' = l := by
    rw [hlist, ListResult.listed.injEq] at hlist'
    exact hlist'.symm
  have hnext : script.tail[k]? = some r := by rw [List.getElem?_tail, hr]
  rw [Ask.watch.injEq] at hversion hlater
  rw [hlater, hl, take_succ_add_of_getElem? hnext j, List.flatMap_append, List.flatMap_cons,
    List.foldl_append, List.foldl_append, ← hversion, ← Response.resume, List.drop_tail]

/-- **When an expired version is abandoned.** Suppose that the response to a watch reports that its
version has expired. If it does so by an event, the next watch starts anew, and every later one does
so too or resumes from a version that an event has carried in between. If its body is the report
itself, the next watch is asked for from the expired version again. So the next watch starts anew
exactly if there was an event, or if the watch had started anew already. -/
theorem watch_after_expiry {s : Store} {script : Script} {stop : Option Moment} {polls : List Poll}
    (hpolls : (c.run s script stop).store.polls = s.polls ++ polls) {k : Nat} {v : String}
    {r : Response} (hasked : (polls.map Poll.ask)[k + 1]? = some (.watch v))
    (hanswer : script[k + 1]? = some r) (hexpired : r.ExpiredByEvent ∨ r.ExpiredByStatus) :
    (∀ w, (polls.map Poll.ask)[k + 2]? = some (.watch w) →
      (w = fromStart ↔ r.ExpiredByEvent ∨ v = fromStart) ∧ (r.ExpiredByStatus → w = v)) ∧
    (r.ExpiredByEvent → ∀ j u, (polls.map Poll.ask)[k + 2 + j]? = some (.watch u) →
      u = fromStart ∨ ∃ later ∈ (script.drop (k + 2)).take j,
        ∃ e ∈ later.events, e.version? = some u) := by
  have hasks : AsksFor c s (c.asks script) (c.run s script stop) := asksFor_run s script
  have hv := hasks.getElem? hpolls hasked
  refine ⟨?_, ?_⟩
  · intro w hw
    -- no response lies between this watch and the next
    have hnext : w = r.resume v :=
      version_of_later_ask hv hanswer (hasks.getElem? hpolls hw : _[k + 2 + 0]? = _)
    have hstays : r.ExpiredByStatus → w = v := by
      intro hstatus
      rw [hnext, Response.resume, Response.events_of_expiredByStatus hstatus, List.foldl_nil]
    refine ⟨?_, hstays⟩
    rcases hexpired with hevent | hstatus
    · have hstart : w = fromStart := hnext.trans (Response.resume_of_expiredByEvent hevent v)
      exact ⟨fun _ ↦ .inl hevent, fun _ ↦ hstart⟩
    · have hsilent := Response.not_expiredByEvent_of_expiredByStatus hstatus
      rw [hstays hstatus]
      exact ⟨.inr, fun h ↦ h.resolve_left hsilent⟩
  · intro hevent j u hu
    have hlater := version_of_later_ask hv hanswer (hasks.getElem? hpolls hu)
    rw [Response.resume_of_expiredByEvent hevent] at hlater
    have hcarried := WatchEvent.foldl_resume_eq_or
      (((script.drop (k + 2)).take j).flatMap Response.events) fromStart
    rw [← hlater] at hcarried
    rcases hcarried with hstart | hstart | ⟨e, he, hversion⟩
    · exact .inl hstart
    · exact .inl hstart
    · obtain ⟨later, hmem, hevents⟩ := List.mem_flatMap.mp he
      exact .inr ⟨later, hmem, e, hevents, hversion⟩

/-! ### A version that stays expired -/

/-- A controller for services with nothing configured. -/
def serviceWatcher : Controller Cluster.Service := { rules := Rules.Service.rules, config := {} }

/-- The report of an expired version, without a message. -/
def goneReport : String := "\x7b\"status\":\"Failure\",\"reason\":\"Expired\",\"code\":410\x7d"

def goneStatus : Response := .reply 410 goneReport .complete

/-- An empty list of version 10, and then the report that this version has expired. -/
def expiringScript : Script :=
  [.reply 200 "\x7b\"metadata\":\x7b\"resourceVersion\":\"10\"\x7d,\"items\":[]\x7d" .complete,
    goneStatus]

theorem expiredByStatus_goneStatus : goneStatus.ExpiredByStatus := by
  have hreport : (Cluster.wholeJson? goneReport).bind ErrorReport.ofJson?
      = some ⟨410, "", "Expired"⟩ := by decide +kernel
  have htype : ((Cluster.wholeJson? goneReport).bind (·.field? "type")).isNone = true := by
    decide +kernel
  exact Response.expiredByStatus_of_line (by decide +kernel) (by decide +kernel) hreport rfl
    (Option.isNone_iff_eq_none.mp htype) 410 .complete

/-- Version 10 has expired, and it is asked for again. -/
theorem expired_version_asked_again :
    ∃ polls, (serviceWatcher.run {} expiringScript none).store.polls
        = ({} : Store).polls ++ polls ∧
      polls.map Poll.ask = [.list, .watch "10", .watch "10"] ∧
      expiringScript[0 + 1]? = some goneStatus ∧ goneStatus.ExpiredByStatus ∧
      ("10" = fromStart ↔ goneStatus.ExpiredByEvent ∨ "10" = fromStart) := by
  obtain ⟨polls, hpolls⟩ :
      ∃ polls, polls = (serviceWatcher.run {} expiringScript none).store.polls := ⟨_, rfl⟩
  have hasks : polls.map Poll.ask = [.list, .watch "10", .watch "10"] := by
    rw [hpolls]
    decide +kernel
  have hstored : (serviceWatcher.run {} expiringScript none).store.polls
      = ({} : Store).polls ++ polls := by
    have hnew : ({} : Store).polls = [] := rfl
    rw [hnew, List.nil_append, hpolls]
  have hasked : (polls.map Poll.ask)[0 + 1]? = some (.watch "10") := by rw [hasks]; rfl
  have hagain : (polls.map Poll.ask)[0 + 2]? = some (.watch "10") := by rw [hasks]; rfl
  have hanswer : expiringScript[0 + 1]? = some goneStatus := rfl
  have hexpired := watch_after_expiry hstored hasked hanswer (.inr expiredByStatus_goneStatus)
  exact ⟨polls, hstored, hasks, hanswer, expiredByStatus_goneStatus,
    (hexpired.1 "10" hagain).1⟩

end Controller

end EndpointSync
