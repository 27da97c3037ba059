import EndpointSync.Proofs.Blocking
import EndpointSync.Proofs.Traces

/-!
# Writing is tried exactly on a change

How often writing has been tried can be read off the history, since each attempt leaves one notice
there, whether or not it succeeds. An event adds one attempt at most: it makes one call of the store
at most, and a call writes once or not at all.

Whether it does depends on the change. An event that is written at once tries to write exactly if
two entries can be told apart afterwards that were under one key; a deferred one does so exactly if
an entry has gone. An event that something is wrong with changes nothing, so nothing is written
either. There is something wrong only with what is looked at, and an object that is out of scope is
not looked at any further: it loses its endpoint even if it has no URL.
-/

namespace EndpointSync

open Cluster (Change Object)
open Event (SameEntry)

/-! ## Which calls write -/

theorem Call.writes_put_now (s : Store) (key : Key) (e : Endpoint) :
    (Call.put key e .now).writes s = !s.holds key e := by
  rw [writes, answer?]
  cases s.holds key e <;> rfl

theorem Call.writes_forget (s : Store) (key : Key) : (Call.forget key).writes s = s.has key := by
  rw [writes, answer?]
  cases s.has key <;> rfl

/-! ## Counting attempts -/

namespace Store

/-- How often it has been tried to write the roster. -/
def attempts (s : Store) : Nat := s.history.countP Happening.isWriting

theorem attempts_record (s : Store) (added : List Happening) :
    (s.record added).attempts = s.attempts + added.countP Happening.isWriting :=
  List.countP_append

theorem attempts_record_of_isIncidental (s : Store) {added : List Happening}
    (h : ∀ x ∈ added, x.isIncidental = true) : (s.record added).attempts = s.attempts := by
  have hnone : added.countP Happening.isWriting = 0 := by
    rw [List.countP_eq_zero]
    intro x hx
    rw [Happening.isWriting_of_isIncidental (h x hx)]
    exact Bool.false_ne_true
  rw [attempts_record, hnone, Nat.add_zero]

theorem attempts_of_adds {s t : Store} (h : Adds (fun x ↦ x.isIncidental = true) s t) :
    t.attempts = s.attempts := by
  obtain ⟨added, hhistory, hadded⟩ := h
  rw [← s.attempts_record_of_isIncidental hadded, attempts, attempts, hhistory]
  rfl

theorem attempts_note (s : Store) {n : Notice} (h : (Happening.noticed n).isWriting = false) :
    (s.note n).attempts = s.attempts := by
  rw [note, attempts_record, List.countP_singleton, h]
  rfl

theorem attempts_write (s : Store) : s.write.attempts = s.attempts + 1 := by
  rw [write]
  split
  · exact attempts_record _ _
  · exact attempts_record _ _

/-- **A call is one attempt or none.** -/
theorem attempts_perform (s : Store) (call : Call) :
    (call.perform s).attempts = s.attempts + (call.writes s).toNat := by
  cases call with
  | put key e w =>
    have hchanging : ({ s.note (.endpointChanging key) with
        roster := s.roster.insert key e } : Store).attempts = s.attempts := attempts_note s rfl
    rw [Call.perform, put]
    cases w with
    | now =>
      rw [Call.writes_put_now]
      cases s.holds key e with
      | true => rfl
      | false => exact (attempts_write _).trans (congrArg (· + 1) hchanging)
    | deferred =>
      split
      · rfl
      · exact hchanging
  | forget key =>
    have hforgotten : ({ s with roster := s.roster.erase key }.note
        (.endpointForgotten key)).attempts = s.attempts := attempts_note _ rfl
    rw [Call.perform, forget, Call.writes_forget]
    cases s.has key with
    | true => exact (attempts_write _).trans (congrArg (· + 1) hforgotten)
    | false => rfl
  | write => exact attempts_write s

theorem attempts_apply (s : Store) (key : Key) (w : Write) (v : Verdict) :
    (s.apply key w v).attempts = s.attempts + ((v.calls key w).any (·.writes s)).toNat := by
  cases v with
  | drop =>
    rw [Verdict.calls, List.any_cons, List.any_nil, Bool.or_false, ← attempts_perform, apply, drop]
    split
    · exact attempts_note _ rfl
    · rfl
  | noUrl => exact attempts_note s rfl
  | invalid why => exact attempts_note s rfl
  | endpoint e =>
    rw [Verdict.calls, List.any_cons, List.any_nil, Bool.or_false, ← attempts_perform, apply]
    split
    · rfl
    · exact attempts_note _ rfl

end Store

namespace Controller

variable {κ : Type} (c : Controller κ)

theorem attempts_handleObject (s : Store) (obj : κ) (w : Write) :
    (c.handleObject s obj w).store.attempts
      = s.attempts + ((callsOf w (c.rulingOn obj)).any (·.writes s)).toNat := by
  rw [handleObject, rulingOn]
  cases c.rules.screen c.config obj with
  | error v => exact s.attempts_apply _ w v
  | ok url =>
    have hlookup := s.attempts_record_of_isIncidental (c.isIncidental_inherited obj)
    dsimp only
    split
    · exact hlookup
    · have hwrites : ∀ call : Call,
          call.writes s = call.writes (s.record (c.rules.inherited c.server obj).happenings) :=
        Call.writes_congr rfl
      rw [callsOf, funext hwrites, ← hlookup]
      exact Store.attempts_apply _ _ w _

theorem attempts_handlePresent (s : Store) (o : Object) (w : Write) :
    (c.handlePresent s o w).store.attempts = s.attempts
      + ((callsOf w ((c.rules.decode o).bind c.rulingOn)).any (·.writes s)).toNat := by
  rw [handlePresent]
  split
  next obj h =>
    rw [h, Option.bind_some]
    exact c.attempts_handleObject s obj w
  next h =>
    rw [h, Option.bind_none]
    exact s.attempts_note rfl

theorem attempts_handle (s : Store) (change : Change) (w : Write) :
    (c.handle s change w).store.attempts
      = s.attempts + ((callsOf w (c.ruling change)).any (·.writes s)).toNat := by
  cases change with
  | added o => exact c.attempts_handlePresent s o w
  | modified o => exact c.attempts_handlePresent s o w
  | deleted o => exact s.attempts_apply (c.key o) w .drop

private theorem disk_handle_of_writes {s : Store} {change : Change} {w : Write}
    (h : (callsOf w (c.ruling change)).any (·.writes s) = true) :
    (c.handle s change w).store.disk
      = ({ s with roster := (c.handle s change w).store.roster } : Store).write.disk := by
  have hagree := c.agree_handle s change w
  rcases callsOf_cases w (c.ruling change) with hnone | ⟨call, hone⟩
  · rw [hnone] at h
    exact absurd h (by simp)
  · rw [hone] at h hagree
    have hwrites : call.writes s = true := by simpa using h
    obtain ⟨t, hwrite, hdisk⟩ := Call.exists_write_of_writes hwrites
    have hperform : s.performAll [call] = t.write := hwrite
    rw [hperform] at hagree
    have hbefore : ({ s with roster := (c.handle s change w).store.roster } : Store).Agree t :=
      ⟨hagree.roster.trans t.roster_write, hdisk.symm⟩
    exact hagree.disk.trans hbefore.write.disk.symm

end Controller

/-! ## Changes of the roster -/

namespace Roster

/-- Under some key an entry has appeared, has gone, or is not the same any more. -/
def Differs (r r' : Roster) : Prop := ∃ key, ¬SameEntry (r.get? key) (r'.get? key)

/-- Under some key an entry has gone. -/
def Loses (r r' : Roster) : Prop := ∃ key, (r.get? key).isSome = true ∧ r'.get? key = none

theorem not_differs_self (r : Roster) : ¬r.Differs r := by
  rintro ⟨key, h⟩
  refine h ?_
  cases r.get? key with
  | none => exact .none
  | some e => exact .some e.same_refl

theorem not_loses_self (r : Roster) : ¬r.Loses r := by
  rintro ⟨key, hthere, hgone⟩
  rw [hgone] at hthere
  exact absurd hthere (by simp)

theorem Loses.differs {r r' : Roster} (h : r.Loses r') : r.Differs r' := by
  obtain ⟨key, hthere, hgone⟩ := h
  refine ⟨key, fun hsame ↦ ?_⟩
  rw [hgone] at hsame
  cases hold : r.get? key with
  | none =>
    rw [hold] at hthere
    exact absurd hthere (by simp)
  | some e =>
    rw [hold] at hsame
    cases hsame

theorem loses_erase_iff {s : Store} {key : Key} :
    s.roster.Loses (s.roster.erase key) ↔ s.has key = true := by
  constructor
  · intro h
    by_contra hnot
    have habsent : s.roster.get? key = none := by simpa [Store.has] using hnot
    rw [erase_eq_self habsent] at h
    exact not_loses_self _ h
  · intro hthere
    exact ⟨key, hthere, get?_erase_self _ key⟩

private theorem not_loses_insert (r : Roster) (key : Key) (e : Endpoint) :
    ¬r.Loses (r.insert key e) := by
  rintro ⟨k, hthere, hgone⟩
  by_cases hk : key = k
  · rw [hk, get?_insert_self] at hgone
    exact absurd hgone (by simp)
  · rw [get?_insert_of_ne hk] at hgone
    rw [hgone] at hthere
    exact absurd hthere (by simp)

private theorem differs_insert {s : Store} {key : Key} {e : Endpoint} (h : s.holds key e = false) :
    s.roster.Differs (s.roster.insert key e) := by
  refine ⟨key, fun hsame ↦ ?_⟩
  rw [get?_insert_self] at hsame
  rw [Store.holds] at h
  generalize s.roster.get? key = old at h hsame
  cases hsame with
  | some hsame => exact absurd (h.symm.trans hsame) Bool.false_ne_true

theorem ruling_cases (ρ : Ruling) :
    ((∀ r : Roster, r.settle ρ = r) ∧ ∀ w, Controller.callsOf w ρ = []) ∨
      (∃ key, ρ = some (key, .drop)) ∨ ∃ key e, ρ = some (key, .endpoint e) := by
  match ρ with
  | none => exact .inl ⟨fun _ ↦ rfl, fun _ ↦ rfl⟩
  | some (_, .noUrl) => exact .inl ⟨fun _ ↦ rfl, fun _ ↦ rfl⟩
  | some (_, .invalid _) => exact .inl ⟨fun _ ↦ rfl, fun _ ↦ rfl⟩
  | some (key, .drop) => exact .inr (.inl ⟨key, rfl⟩)
  | some (key, .endpoint e) => exact .inr (.inr ⟨key, e, rfl⟩)

theorem any_writes_drop (s : Store) (key : Key) (w : Write) :
    (Controller.callsOf w (some (key, .drop))).any (·.writes s) = s.has key := by
  rw [Controller.callsOf, Verdict.calls, List.any_cons, List.any_nil, Bool.or_false,
    Call.writes_forget]

/-- The roster differs after a ruling exactly if the call for it writes, unless that is deferred. -/
theorem differs_settle_iff (s : Store) (ρ : Ruling) : s.roster.Differs (s.roster.settle ρ) ↔
    (Controller.callsOf .now ρ).any (·.writes s) = true := by
  rcases ruling_cases ρ with ⟨hsettle, hcalls⟩ | ⟨key, rfl⟩ | ⟨key, e, rfl⟩
  · rw [hsettle, hcalls]
    exact iff_of_false (not_differs_self _) Bool.false_ne_true
  · rw [any_writes_drop, ← loses_erase_iff]
    refine ⟨fun hdiffers ↦ ?_, Loses.differs⟩
    by_contra hnot
    have habsent : s.roster.get? key = none := by
      simpa [Store.has] using (not_congr loses_erase_iff).mp hnot
    rw [settle, erase_eq_self habsent] at hdiffers
    exact not_differs_self _ hdiffers
  · have hsettle : s.roster.settle (some (key, .endpoint e))
        = if s.holds key e then s.roster else s.roster.insert key e := rfl
    rw [hsettle, Controller.callsOf, Verdict.calls, List.any_cons, List.any_nil, Bool.or_false,
      Call.writes_put_now]
    cases hholds : s.holds key e with
    | true => exact iff_of_false (not_differs_self _) Bool.false_ne_true
    | false =>
      rw [if_neg Bool.false_ne_true]
      exact iff_of_true (differs_insert hholds) rfl

/-- An entry goes with a ruling exactly if the call for it writes although writing is deferred. -/
theorem loses_settle_iff (s : Store) (ρ : Ruling) : s.roster.Loses (s.roster.settle ρ) ↔
    (Controller.callsOf .deferred ρ).any (·.writes s) = true := by
  rcases ruling_cases ρ with ⟨hsettle, hcalls⟩ | ⟨key, rfl⟩ | ⟨key, e, rfl⟩
  · rw [hsettle, hcalls]
    exact iff_of_false (not_loses_self _) Bool.false_ne_true
  · rw [any_writes_drop]
    exact loses_erase_iff
  · refine iff_of_false ?_ Bool.false_ne_true
    rw [settle]
    split
    · exact not_loses_self _
    · exact not_loses_insert _ key e

end Roster

/-! ## Events -/

namespace Event

variable {e : Event}

/-- Something is wrong with the object that is there after the event: it does not read; or it is in
scope and has no URL, or is not switched off and has a template, of its own or of its parent, that
does not read. -/
inductive Faulty (e : Event) : Prop where
  | garbled : e.Garbled → e.Faulty
  | noUrl {obj : e.kind.Form} : e.Shows obj → e.kind.rules.shouldProcess e.config obj = true →
      e.kind.rules.url? obj = none → e.Faulty
  | parentTemplate {obj : e.kind.Form} {why : Template.Invalid} : e.Shows obj →
      e.kind.rules.shouldProcess e.config obj = true → ¬e.Disabled obj →
      Template.read .parent (e.inherited obj) e.config.templateKey = .error why → e.Faulty
  | ownTemplate {obj : e.kind.Form} {why : Template.Invalid} : e.Shows obj →
      e.kind.rules.shouldProcess e.config obj = true → ¬e.Disabled obj →
      Template.read .object (e.own obj) e.config.templateKey = .error why → e.Faulty

theorem template_of_error {obj : e.kind.Form}
    (h : (∃ why, Template.read .parent (e.inherited obj) e.config.templateKey = .error why) ∨
      ∃ why, Template.read .object (e.own obj) e.config.templateKey = .error why) :
    ∃ why, e.template obj = .error why := by
  cases htemplate : e.template obj with
  | error why => exact ⟨why, rfl⟩
  | ok t =>
    obtain ⟨parent, own, hparent, hown, -⟩ := reads_of_template htemplate
    rcases h with ⟨why, herror⟩ | ⟨why, herror⟩
    · rw [hparent] at herror
      exact absurd herror (by simp)
    · rw [hown] at herror
      exact absurd herror (by simp)

/-- An object in scope that is not switched off and whose templates do not read is passed over,
whether or not it has a URL and whether or not its parent is ever known. -/
theorem skipped_of_template {obj : e.kind.Form} {why : Template.Invalid} (hshows : e.Shows obj)
    (hscope : e.kind.rules.shouldProcess e.config obj = true) (henabled : ¬e.Disabled obj)
    (htemplate : e.template obj = .error why) : e.Skipped := by
  cases hurl : e.kind.rules.url? obj with
  | none => exact .noUrl hshows hscope hurl
  | some url =>
    cases hpending : (e.kind.rules.inherited e.server obj).isPending with
    | true => exact .unanswered hshows hscope hurl hpending
    | false => exact .noTemplate ⟨hshows, hscope, hurl, hpending⟩ henabled htemplate

theorem Faulty.skipped (h : e.Faulty) : e.Skipped := by
  cases h with
  | garbled h => exact .garbled h
  | noUrl hshows hscope hurl => exact .noUrl hshows hscope hurl
  | parentTemplate hshows hscope henabled hread =>
    obtain ⟨why, htemplate⟩ := template_of_error (.inl ⟨_, hread⟩)
    exact skipped_of_template hshows hscope henabled htemplate
  | ownTemplate hshows hscope henabled hread =>
    obtain ⟨why, htemplate⟩ := template_of_error (.inr ⟨_, hread⟩)
    exact skipped_of_template hshows hscope henabled htemplate

theorem Skipped.quiet (h : e.Skipped) (s : Store) :
    (Controller.callsOf e.write e.ruling).any (·.writes s) = false := by
  rcases h.ruling with hnone | hnoUrl | ⟨why, hinvalid⟩
  · rw [hnone]
    rfl
  · rw [hnoUrl]
    rfl
  · rw [hinvalid]
    rfl

/-- **Writing is tried exactly on a change.** An event tries to write once at most. One that is
written at once does so exactly if an entry has appeared, has gone or is not the same any more; a
deferred one does so exactly if an entry has gone. Without an attempt the file stays as it is, and
an attempt is one to write the roster as it is after the event. An event with a faulty object
changes no entry and tries nothing. -/
theorem written_exactly_on_change (s : Store) (e : Event) :
    ((step s e).attempts = s.attempts ∨ (step s e).attempts = s.attempts + 1) ∧
      (e.write = .now →
        ((step s e).attempts = s.attempts + 1 ↔ s.roster.Differs (step s e).roster)) ∧
      (e.write = .deferred →
        ((step s e).attempts = s.attempts + 1 ↔ s.roster.Loses (step s e).roster)) ∧
      ((step s e).attempts = s.attempts → (step s e).disk = s.disk) ∧
      ((step s e).attempts = s.attempts + 1 →
        (step s e).disk = ({ s with roster := (step s e).roster } : Store).write.disk) ∧
      (e.Faulty → (step s e).attempts = s.attempts ∧ (step s e).roster = s.roster ∧
        (step s e).disk = s.disk) := by
  have hcount : (step s e).attempts
      = s.attempts + ((Controller.callsOf e.write e.ruling).any (·.writes s)).toNat :=
    e.controller.attempts_handle s e.change e.write
  have hquiet : (Controller.callsOf e.write e.ruling).any (·.writes s) = false →
      (step s e).attempts = s.attempts ∧ (step s e).disk = s.disk := by
    intro hwrites
    rw [hwrites] at hcount
    exact ⟨hcount, Controller.disk_handle_of_quiet hwrites⟩
  have hattempt : (step s e).attempts = s.attempts + 1 ↔
      (Controller.callsOf e.write e.ruling).any (·.writes s) = true := by
    rw [hcount]
    cases (Controller.callsOf e.write e.ruling).any (·.writes s) <;> simp
  refine ⟨?_, fun hnow ↦ ?_, fun hdeferred ↦ ?_, fun hnone ↦ ?_, fun hone ↦ ?_, fun hfaulty ↦ ?_⟩
  · rw [hcount]
    cases (Controller.callsOf e.write e.ruling).any (·.writes s) <;> simp
  · rw [hattempt, roster_step, hnow, Roster.differs_settle_iff]
  · rw [hattempt, roster_step, hdeferred, Roster.loses_settle_iff]
  · refine (hquiet (Bool.eq_false_iff.mpr fun hwrites ↦ ?_)).2
    rw [hattempt.mpr hwrites] at hnone
    omega
  · exact e.controller.disk_handle_of_writes (hattempt.mp hone)
  · obtain ⟨hattempts, hdisk⟩ := hquiet (hfaulty.skipped.quiet s)
    exact ⟨hattempts, roster_step_of_skipped s hfaulty.skipped, hdisk⟩

/-! ### An object without a URL that is dropped -/

/-- A service that asks to be monitored, where services are not monitored otherwise. -/
def optedIn : Event :=
  { serviceAdded "web" [("gatus.home-operations.com/enabled", "true")] with config := {} }

/-- The service does not ask for it any more, and it has lost its ports. -/
def optedOut : Event where
  kind := .service
  config := {}
  server := none
  change := .modified {
    metadata := { name := some "web", namespaceName := some "default" }
    data := .obj [("spec", .obj [])] }
  write := .now

/-- Without a URL alone an object does not keep its endpoint: it has to be in scope. -/
theorem dropped_without_url : ¬∀ (events : List Event) (e : Event) (obj : e.kind.Form),
    e.Shows obj → e.kind.rules.url? obj = none →
    (step (replay {} events) e).roster = (replay {} events).roster := by
  intro hall
  have hshows : optedOut.Shows (⟨optedOut.change.object.metadata, []⟩ : Cluster.Service) :=
    ⟨_, rfl, rfl⟩
  have hkept := hall [optedIn] optedOut _ hshows (by decide)
  have hbefore : ((replay {} [optedIn]).roster.get? optedOut.key).isSome = true := by
    decide +kernel
  have hafter :
      ((step (replay {} [optedIn]) optedOut).roster.get? optedOut.key).isSome = false := by
    decide +kernel
  rw [hkept, hbefore] at hafter
  exact absurd hafter (by simp)

end Event

end EndpointSync
