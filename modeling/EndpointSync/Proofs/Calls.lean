import EndpointSync.Proofs.Entries
import Mathlib.Data.List.Induction

/-!
# Calls of the store

All callers share one store, and each call has it for itself from its beginning to its end. Whatever
the callers do, what reaches the store is therefore one sequence of calls. A call writes if it
answers that there was something to change and was not deferred, or if writing is all it is for.

A controller makes at most one call for each change that it is told of. Which call that is can be
read off the ruling on the change; everything else that the controller does on the way only adds to
the history.
-/

namespace EndpointSync

/-! ## Calls -/

/-- What a caller asks of the store. -/
inductive Call where
  | put (key : Key) (e : Endpoint) (w : Write)
  | forget (key : Key)
  | write

namespace Call

def perform (s : Store) : Call → Store
  | .put key e w => s.put key e w
  | .forget key => s.forget key
  | .write => s.write

/-- What a call answers: whether there was something to change. -/
def answer? (s : Store) : Call → Option Bool
  | .put key e _ => some (!s.holds key e)
  | .forget key => some (s.has key)
  | .write => none

def writes (s : Store) (call : Call) : Bool :=
  match call with
  | .put _ _ .now => call.answer? s == some true
  | .put _ _ .deferred => false
  | .forget _ => call.answer? s == some true
  | .write => true

def ruling : Call → Roster.Ruling
  | .put key e _ => some (key, .endpoint e)
  | .forget key => some (key, .drop)
  | .write => none

end Call

theorem Place.obstacle?_eq_none_iff {p : Place} : p.obstacle? = none ↔ p = .free := by
  cases p <;> simp [obstacle?]

private theorem Disk.replace_of_free {d : Disk} (h : d.place = .free) (text : String) :
    d.replace text = .ok { d with contents := some text } := by
  rw [replace, Place.obstacle?_eq_none_iff.mpr h]

namespace Store

def performAll (s : Store) (calls : List Call) : Store := calls.foldl Call.perform s

theorem performAll_append (s : Store) (calls more : List Call) :
    s.performAll (calls ++ more) = (s.performAll calls).performAll more :=
  List.foldl_append

theorem performAll_append_singleton (s : Store) (calls : List Call) (call : Call) :
    s.performAll (calls ++ [call]) = call.perform (s.performAll calls) :=
  s.performAll_append calls [call]

/-! ## One write -/

theorem write_eq {s : Store} {text : String} (hplace : s.disk.place = .free)
    (htext : s.roster.render? = some text) :
    s.write = { s with disk := { s.disk with contents := some text } }.note
      (.rosterWritten s.roster.length) := by
  have hwritten : s.written = .ok { s.disk with contents := some text } := by
    rw [written, htext]
    exact Disk.replace_of_free hplace text
  rw [write, hwritten]

theorem disk_write {s : Store} {text : String} (hplace : s.disk.place = .free)
    (htext : s.roster.render? = some text) :
    s.write.disk = { s.disk with contents := some text } := by
  rw [write_eq hplace htext]
  rfl

theorem isOk_written_iff {s : Store} :
    s.written.isOk = true ↔ s.disk.place = .free ∧ s.roster.render?.isSome = true := by
  rw [written]
  cases s.roster.render? with
  | none => simp [Except.isOk, Except.toBool]
  | some text =>
    rw [← Place.obstacle?_eq_none_iff]
    dsimp only [Disk.replace]
    cases s.disk.place.obstacle? <;> simp [Except.isOk, Except.toBool]

theorem disk_write_of_not_isOk {s : Store} (h : s.written.isOk = false) :
    s.write.disk = s.disk := by
  rw [write]
  cases hwritten : s.written with
  | ok disk => rw [hwritten] at h; exact absurd h (by simp [Except.isOk, Except.toBool])
  | error why => rfl

private theorem place_write (s : Store) : s.write.disk.place = s.disk.place := by
  rw [write]
  cases hwritten : s.written with
  | error why => rfl
  | ok disk =>
    have hdisk : disk.place = s.disk.place := by
      rw [written] at hwritten
      split at hwritten
      · exact absurd hwritten (by simp)
      · rw [Disk.replace] at hwritten
        split at hwritten
        · rw [← Except.ok.inj hwritten]
        · exact absurd hwritten (by simp)
    exact hdisk

end Store

/-! ## One call -/

namespace Call

/-- **What a call does to the roster** is to carry its ruling out, whether or not it writes. -/
theorem roster_perform (s : Store) (call : Call) :
    (call.perform s).roster = s.roster.settle call.ruling := by
  cases call with
  | put key e w => exact Store.roster_put s key e w
  | forget key => exact Store.roster_forget s key
  | write => exact Store.roster_write s

theorem answer?_congr {s t : Store} (h : s.roster = t.roster) (call : Call) :
    call.answer? s = call.answer? t := by
  cases call with
  | put key e w => rw [answer?, answer?, Store.holds, Store.holds, h]
  | forget key => rw [answer?, answer?, Store.has, Store.has, h]
  | write => rfl

theorem writes_congr {s t : Store} (h : s.roster = t.roster) (call : Call) :
    call.writes s = call.writes t := by
  cases call with
  | put key e w =>
    cases w with
    | now => rw [writes, writes, answer?_congr h]
    | deferred => rfl
  | forget key => rw [writes, writes, answer?_congr h]
  | write => rfl

variable {s : Store} {call : Call}

/-- A call that writes does so last of all. -/
theorem exists_write_of_writes (h : call.writes s = true) :
    ∃ t : Store, call.perform s = t.write ∧ t.disk = s.disk := by
  cases call with
  | put key e w =>
    cases w with
    | deferred => exact absurd h (by simp [writes])
    | now =>
      have hnew : s.holds key e = false := by simpa [writes, answer?] using h
      refine ⟨{ s.note (.endpointChanging key) with roster := s.roster.insert key e }, ?_, rfl⟩
      rw [perform, Store.put, if_neg (Bool.eq_false_iff.mp hnew)]
  | forget key =>
    have hthere : s.has key = true := by simpa [writes, answer?] using h
    refine ⟨{ s with roster := s.roster.erase key }.note (.endpointForgotten key), ?_, rfl⟩
    rw [perform, Store.forget, if_pos hthere]
  | write => exact ⟨s, rfl, rfl⟩

theorem disk_of_not_writes (h : call.writes s = false) : (call.perform s).disk = s.disk := by
  cases call with
  | put key e w =>
    rw [perform, Store.put]
    split
    · rfl
    next hnew =>
      cases w with
      | deferred => rfl
      | now => exact absurd h (by simp [writes, answer?, Bool.eq_false_iff.mpr hnew])
  | forget key =>
    have habsent : s.has key = false := by simpa [writes, answer?] using h
    rw [perform, Store.forget, if_neg (Bool.eq_false_iff.mp habsent)]
  | write => exact absurd h (by simp [writes])

theorem contents_of_writes {text : String} (hplace : s.disk.place = .free)
    (h : call.writes s = true) (htext : (call.perform s).roster.render? = some text) :
    (call.perform s).disk.contents = some text := by
  obtain ⟨t, hwrite, hdisk⟩ := exists_write_of_writes h
  rw [hwrite, Store.roster_write] at htext
  rw [hwrite, Store.disk_write (by rw [hdisk, hplace]) htext]

theorem place_perform (s : Store) (call : Call) : (call.perform s).disk.place = s.disk.place := by
  cases h : call.writes s with
  | false => rw [disk_of_not_writes h]
  | true =>
    obtain ⟨t, hwrite, hdisk⟩ := exists_write_of_writes h
    rw [hwrite, Store.place_write, hdisk]

theorem perform_of_answer? (h : call.answer? s = some false) : call.perform s = s := by
  cases call with
  | put key e w =>
    have hthere : s.holds key e = true := by simpa [answer?] using h
    exact if_pos hthere
  | forget key =>
    have habsent : s.has key = false := by simpa [answer?] using h
    exact if_neg (Bool.eq_false_iff.mp habsent)
  | write => exact absurd h (by simp [answer?])

theorem writes_of_answer? (h : call.answer? s = some false) : call.writes s = false := by
  match call with
  | .put _ _ .now => rw [writes, h]; rfl
  | .put _ _ .deferred => rfl
  | .forget _ => rw [writes, h]; rfl
  | .write => exact absurd h (by simp [answer?])

/-- A call that does not write changes nothing, or was told to leave the writing to a later one. -/
theorem deferred_of_not_writes (h : call.writes s = false)
    (hchange : (call.perform s).roster ≠ s.roster) :
    ∃ key e, call = .put key e .deferred ∧ call.answer? s = some true := by
  cases call with
  | put key e w =>
    rw [perform, Store.roster_put] at hchange
    split at hchange
    · exact absurd rfl hchange
    next hnew =>
      cases w with
      | deferred => exact ⟨key, e, rfl, by simp [answer?, Bool.eq_false_iff.mpr hnew]⟩
      | now => exact absurd h (by simp [writes, answer?, Bool.eq_false_iff.mpr hnew])
  | forget key =>
    have habsent : s.has key = false := by simpa [writes, answer?] using h
    rw [perform, Store.forget, if_neg (Bool.eq_false_iff.mp habsent)] at hchange
    exact absurd rfl hchange
  | write => exact absurd h (by simp [writes])

end Call

namespace Store

theorem place_performAll (s : Store) (calls : List Call) :
    (s.performAll calls).disk.place = s.disk.place := by
  induction calls using List.reverseRecOn with
  | nil => rfl
  | append_singleton calls call ih =>
    rw [performAll_append_singleton, Call.place_perform, ih]

end Store

/-! ## What controllers call

A change reaches the shared store as one call at most: whatever else a controller does on the way
only adds to the history. -/

namespace Store

/-- Nothing but their histories tells the stores apart. -/
structure Agree (s t : Store) : Prop where
  roster : s.roster = t.roster
  disk : s.disk = t.disk

variable {s t : Store}

theorem Agree.refl (s : Store) : Agree s s := ⟨rfl, rfl⟩

theorem Agree.trans {u : Store} (h : Agree s t) (h' : Agree t u) : Agree s u :=
  ⟨h.roster.trans h'.roster, h.disk.trans h'.disk⟩

theorem agree_record (s : Store) (h : List Happening) : Agree (s.record h) s := ⟨rfl, rfl⟩

theorem Agree.write (h : Agree s t) : Agree s.write t.write := by
  have hwritten : s.written = t.written := by rw [written, written, h.roster, h.disk]
  refine ⟨by rw [roster_write, roster_write, h.roster], ?_⟩
  rw [Store.write, Store.write, hwritten]
  cases t.written with
  | ok disk => rfl
  | error why => exact h.disk

theorem Agree.perform (h : Agree s t) (call : Call) : Agree (call.perform s) (call.perform t) := by
  cases call with
  | put key e w =>
    have hholds : s.holds key e = t.holds key e := by rw [holds, holds, h.roster]
    rw [Call.perform, Call.perform, put, put, hholds]
    split
    · exact h
    · have hinsert : Agree { s.note (.endpointChanging key) with roster := s.roster.insert key e }
          { t.note (.endpointChanging key) with roster := t.roster.insert key e } :=
        ⟨by rw [h.roster], h.disk⟩
      cases w with
      | now => exact hinsert.write
      | deferred => exact hinsert
  | forget key =>
    have hhas : s.has key = t.has key := by rw [has, has, h.roster]
    rw [Call.perform, Call.perform, forget, forget, hhas]
    split
    · have herase : Agree ({ s with roster := s.roster.erase key }.note (.endpointForgotten key))
          ({ t with roster := t.roster.erase key }.note (.endpointForgotten key)) :=
        ⟨congrArg (Roster.erase · key) h.roster, h.disk⟩
      exact herase.write
    · exact h
  | write => exact h.write

theorem Agree.performAll (h : Agree s t) (calls : List Call) :
    Agree (s.performAll calls) (t.performAll calls) := by
  induction calls using List.reverseRecOn with
  | nil => exact h
  | append_singleton calls call ih =>
    rw [performAll_append_singleton, performAll_append_singleton]
    exact ih.perform call

end Store

/-- The calls that carry a verdict out. -/
def Verdict.calls (key : Key) (w : Write) : Verdict → List Call
  | .drop => [.forget key]
  | .noUrl => []
  | .invalid _ => []
  | .endpoint e => [.put key e w]

theorem Store.agree_apply (s : Store) (key : Key) (w : Write) (v : Verdict) :
    Agree (s.apply key w v) (s.performAll (v.calls key w)) := by
  cases v with
  | drop =>
    rw [apply, drop]
    split
    · exact agree_record _ _
    · exact .refl _
  | noUrl => exact agree_record _ _
  | invalid why => exact agree_record _ _
  | endpoint e =>
    rw [apply]
    split
    · exact .refl _
    · exact agree_record _ _

namespace Controller

variable {κ : Type} (c : Controller κ)

def callsOf (w : Write) : Roster.Ruling → List Call
  | some (key, v) => v.calls key w
  | none => []

theorem callsOf_cases (w : Write) (ρ : Roster.Ruling) :
    callsOf w ρ = [] ∨ ∃ call, callsOf w ρ = [call] := by
  match ρ with
  | none => exact .inl rfl
  | some (key, .drop) => exact .inr ⟨.forget key, rfl⟩
  | some (_, .noUrl) => exact .inl rfl
  | some (_, .invalid _) => exact .inl rfl
  | some (key, .endpoint e) => exact .inr ⟨.put key e w, rfl⟩

private theorem agree_handleObject (s : Store) (obj : κ) (w : Write) :
    (c.handleObject s obj w).store.Agree (s.performAll (callsOf w (c.rulingOn obj))) := by
  rw [handleObject, rulingOn]
  cases c.rules.screen c.config obj with
  | error v => exact s.agree_apply _ w v
  | ok url =>
    dsimp only
    by_cases h : (c.rules.inherited c.server obj).isPending = true
    · rw [if_pos h, if_pos h]
      exact Store.agree_record _ _
    · rw [if_neg h, if_neg h]
      exact (Store.agree_apply _ _ w _).trans ((Store.agree_record s _).performAll _)

theorem agree_handlePresent (s : Store) (o : Cluster.Object) (w : Write) :
    (c.handlePresent s o w).store.Agree
      (s.performAll (callsOf w ((c.rules.decode o).bind c.rulingOn))) := by
  rw [handlePresent]
  split
  next obj h =>
    rw [h, Option.bind_some]
    exact c.agree_handleObject s obj w
  next h =>
    rw [h, Option.bind_none]
    exact Store.agree_record _ _

/-- **What a change does to the roster and to the file** is to make the call that its ruling asks
for, if it asks for one. -/
theorem agree_handle (s : Store) (change : Cluster.Change) (w : Write) :
    (c.handle s change w).store.Agree (s.performAll (callsOf w (c.ruling change))) := by
  cases change with
  | added o => exact c.agree_handlePresent s o w
  | modified o => exact c.agree_handlePresent s o w
  | deleted o => exact s.agree_apply (c.key o) w .drop

end Controller

end EndpointSync
