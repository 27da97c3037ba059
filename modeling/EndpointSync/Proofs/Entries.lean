import EndpointSync.Sync

/-!
# What a change does to the entries

The verdict on an object never depends on the store, and neither does the key that it is about. So
what a change does to the roster is settled before the roster is looked at: the change has a ruling,
and carrying it out sets one entry, erases one, or does nothing. The history, the file and the way
in which the change is written play no part in it.

`Controller.roster_handle` says so, and the rest of the theory goes by it: nothing after this module
opens the definitions by which an object is judged and its verdict is carried out.
-/

namespace EndpointSync

open Cluster (Change Object Response Server)

/-! ## The roster as a map -/

namespace Roster

@[simp] theorem get?_nil (key : Key) : get? [] key = none := rfl

theorem get?_cons (k key : Key) (e : Endpoint) (rest : Roster) :
    get? ((k, e) :: rest) key = if k = key then some e else get? rest key := by
  rw [get?, List.lookup_cons]
  by_cases h : k = key
  · rw [h, beq_self_eq_true, if_pos rfl]
  · rw [beq_false_of_ne (Ne.symm h), if_neg h]
    rfl

@[simp] theorem get?_insert_self (r : Roster) (key : Key) (e : Endpoint) :
    (r.insert key e).get? key = some e := by
  induction r with
  | nil => rw [insert, get?_cons, if_pos rfl]
  | cons entry rest ih =>
    obtain ⟨k, old⟩ := entry
    rw [insert]
    by_cases h : k = key
    · rw [if_pos h, get?_cons, if_pos h]
    · rw [if_neg h, get?_cons, if_neg h, ih]

theorem get?_insert_of_ne {k key : Key} (h : k ≠ key) (r : Roster) (e : Endpoint) :
    (r.insert k e).get? key = r.get? key := by
  induction r with
  | nil => rw [insert, get?_cons, if_neg h]
  | cons entry rest ih =>
    obtain ⟨k', old⟩ := entry
    rw [insert]
    by_cases h' : k' = k
    · rw [if_pos h', get?_cons, get?_cons, h', if_neg h, if_neg h]
    · rw [if_neg h', get?_cons, get?_cons, ih]

theorem get?_erase_self (r : Roster) (key : Key) : (r.erase key).get? key = none := by
  rw [get?, erase, List.lookup_eq_none_iff]
  intro entry hentry
  have hne : entry.1 ≠ key := by simpa using (List.mem_filter.mp hentry).2
  exact bne_iff_ne.mpr (Ne.symm hne)

private theorem get?_erase_of_ne {k key : Key} (h : k ≠ key) (r : Roster) :
    (r.erase k).get? key = r.get? key := by
  induction r with
  | nil => rfl
  | cons entry rest ih =>
    obtain ⟨k', old⟩ := entry
    rw [erase] at ih ⊢
    by_cases h' : k' = k
    · rw [List.filter_cons_of_neg (by simp [h']), ih, get?_cons, if_neg (h' ▸ h)]
    · rw [List.filter_cons_of_pos (by simp [h']), get?_cons, get?_cons, ih]

theorem erase_eq_self {r : Roster} {key : Key} (h : r.get? key = none) : r.erase key = r := by
  rw [get?, List.lookup_eq_none_iff] at h
  refine List.filter_eq_self.mpr fun entry hentry ↦ ?_
  have hne : ¬key = entry.1 := by simpa using h entry hentry
  simpa using Ne.symm hne

/-- A ruling: the key that it is about and the verdict, if there is one. -/
abbrev Ruling : Type := Option (Key × Verdict)

/-- The roster after a ruling has been carried out. -/
def settle (r : Roster) : Ruling → Roster
  | some (key, .drop) => r.erase key
  | some (key, .endpoint e) => if (r.get? key).any fun old ↦ old.same e then r else r.insert key e
  | some (_, .noUrl) => r
  | some (_, .invalid _) => r
  | none => r

@[simp] theorem settle_none (r : Roster) : r.settle none = r := rfl

/-- **Frame.** A ruling touches no key but its own. -/
theorem get?_settle_of_ne {k key : Key} (h : k ≠ key) (r : Roster) (v : Verdict) :
    (r.settle (some (k, v))).get? key = r.get? key := by
  cases v with
  | drop => exact get?_erase_of_ne h r
  | noUrl => rfl
  | invalid why => rfl
  | endpoint e =>
    rw [settle]
    split
    · rfl
    · exact get?_insert_of_ne h r e

end Roster

/-! ## What the store does to its roster -/

namespace Store

@[simp] theorem roster_record (s : Store) (h : List Happening) :
    (s.record h).roster = s.roster := rfl

@[simp] theorem roster_note (s : Store) (n : Notice) : (s.note n).roster = s.roster := rfl

@[simp] theorem roster_write (s : Store) : s.write.roster = s.roster := by
  rw [write]
  split <;> rfl

theorem roster_put (s : Store) (key : Key) (e : Endpoint) (w : Write) :
    (s.put key e w).roster = if s.holds key e then s.roster else s.roster.insert key e := by
  rw [put]
  split
  · rfl
  · cases w with
    | now => rw [roster_write]
    | deferred => rfl

theorem roster_forget (s : Store) (key : Key) : (s.forget key).roster = s.roster.erase key := by
  rw [forget]
  split
  · rw [roster_write, roster_note]
  next h =>
    have hnone : s.roster.get? key = none := by simpa [has] using h
    rw [Roster.erase_eq_self hnone]

theorem roster_drop (s : Store) (key : Key) : (s.drop key).roster = s.roster.erase key := by
  rw [drop]
  split
  · rw [roster_note, roster_forget]
  · rw [roster_forget]

/-- A verdict is carried out on the roster alone, however it is written. -/
theorem roster_apply (s : Store) (key : Key) (w : Write) (v : Verdict) :
    (s.apply key w v).roster = s.roster.settle (some (key, v)) := by
  cases v with
  | drop => exact roster_drop s key
  | noUrl => rfl
  | invalid why => rfl
  | endpoint e =>
    rw [apply, Roster.settle, ← holds, ← roster_put s key e w]
    split
    · rfl
    · rw [roster_note]

end Store

/-! ## What a controller does to the roster -/

namespace Controller

open Roster (Ruling)

variable {κ : Type} (c : Controller κ)

/-- The ruling on an object that was read by the rules: none if the answer about its parent never
comes. -/
def rulingOn (obj : κ) : Ruling :=
  match c.rules.screen c.config obj with
  | .error v => some (c.keyOf obj, v)
  | .ok url =>
    let inherited := c.rules.inherited c.server obj
    if inherited.isPending then none
    else some (c.keyOf obj,
      c.rules.judgeWith c.config obj url (inherited.annotations.getD []))

/-- The ruling on a change: none if its object does not read. -/
def ruling : Change → Ruling
  | .added o => (c.rules.decode o).bind c.rulingOn
  | .modified o => (c.rules.decode o).bind c.rulingOn
  | .deleted o => some (c.key o, .drop)

theorem rulingOn_of_outOfScope {obj : κ} (h : c.rules.shouldProcess c.config obj = false) :
    c.rulingOn obj = some (c.keyOf obj, .drop) := by
  rw [rulingOn, Rules.screen, if_neg (Bool.eq_false_iff.mp h)]

theorem rulingOn_of_noUrl {obj : κ} (hscope : c.rules.shouldProcess c.config obj = true)
    (hurl : c.rules.url? obj = none) : c.rulingOn obj = some (c.keyOf obj, .noUrl) := by
  rw [rulingOn, Rules.screen, if_pos hscope, hurl]

theorem rulingOn_of_pending {obj : κ} {url : String}
    (hscope : c.rules.shouldProcess c.config obj = true) (hurl : c.rules.url? obj = some url)
    (hpending : (c.rules.inherited c.server obj).isPending = true) : c.rulingOn obj = none := by
  rw [rulingOn, Rules.screen, if_pos hscope, hurl]
  exact if_pos hpending

theorem rulingOn_of_answered {obj : κ} {url : String}
    (hscope : c.rules.shouldProcess c.config obj = true) (hurl : c.rules.url? obj = some url)
    (hanswered : (c.rules.inherited c.server obj).isPending = false) :
    c.rulingOn obj = some (c.keyOf obj, c.rules.judgeWith c.config obj url
      ((c.rules.inherited c.server obj).annotations.getD [])) := by
  rw [rulingOn, Rules.screen, if_pos hscope, hurl]
  exact if_neg (Bool.eq_false_iff.mp hanswered)

private theorem roster_handleObject (s : Store) (obj : κ) (w : Write) :
    (c.handleObject s obj w).store.roster = s.roster.settle (c.rulingOn obj) := by
  rw [handleObject, rulingOn]
  cases c.rules.screen c.config obj with
  | error v => exact Store.roster_apply s _ w v
  | ok url =>
    dsimp only
    by_cases h : (c.rules.inherited c.server obj).isPending = true
    · rw [if_pos h, if_pos h, Roster.settle_none, Store.roster_record]
    · rw [if_neg h, if_neg h, Store.roster_apply, Store.roster_record]

theorem roster_handlePresent (s : Store) (o : Object) (w : Write) :
    (c.handlePresent s o w).store.roster
      = s.roster.settle ((c.rules.decode o).bind c.rulingOn) := by
  rw [handlePresent]
  split
  next obj h => rw [h, Option.bind_some, roster_handleObject]
  next h => rw [h, Option.bind_none, Roster.settle_none, Store.roster_note]

/-- **What a change does to the roster** is to carry its ruling out. -/
theorem roster_handle (s : Store) (change : Change) (w : Write) :
    (c.handle s change w).store.roster = s.roster.settle (c.ruling change) := by
  cases change with
  | added o => exact c.roster_handlePresent s o w
  | modified o => exact c.roster_handlePresent s o w
  | deleted o => exact Store.roster_drop s (c.key o)

/-! ## Where a controller gets stuck

A controller that waits for the answer about a parent has done nothing yet with the object. -/

/-- The answer about the parent of an object is asked for and never comes. -/
def stallsOn (obj : κ) : Bool :=
  match c.rules.screen c.config obj with
  | .error _ => false
  | .ok _ => (c.rules.inherited c.server obj).isPending

/-- A change is never dealt with, since the answer about a parent never comes. -/
def stalls : Change → Bool
  | .added o => (c.rules.decode o).any c.stallsOn
  | .modified o => (c.rules.decode o).any c.stallsOn
  | .deleted _ => false

private theorem isStuck_handleObject (s : Store) (obj : κ) (w : Write) :
    (c.handleObject s obj w).isStuck = c.stallsOn obj := by
  rw [handleObject, stallsOn]
  cases c.rules.screen c.config obj with
  | error v => rfl
  | ok url =>
    dsimp only
    by_cases h : (c.rules.inherited c.server obj).isPending = true
    · rw [if_pos h, h]
    · rw [if_neg h, Bool.eq_false_iff.mpr h]

theorem isStuck_handlePresent (s : Store) (o : Object) (w : Write) :
    (c.handlePresent s o w).isStuck = (c.rules.decode o).any c.stallsOn := by
  rw [handlePresent]
  cases c.rules.decode o with
  | none => rfl
  | some obj => exact c.isStuck_handleObject s obj w

theorem isStuck_handle (s : Store) (change : Change) (w : Write) :
    (c.handle s change w).isStuck = c.stalls change := by
  cases change with
  | added o => exact c.isStuck_handlePresent s o w
  | modified o => exact c.isStuck_handlePresent s o w
  | deleted o => rfl

variable {c}

private theorem rulingOn_of_stallsOn {obj : κ} (h : c.stallsOn obj = true) :
    c.rulingOn obj = none := by
  rw [stallsOn] at h
  rw [rulingOn]
  cases hscreen : c.rules.screen c.config obj with
  | error v => rw [hscreen] at h; exact absurd h (by simp)
  | ok url => rw [hscreen] at h; exact if_pos h

theorem bind_rulingOn_of_stallsOn {found : Option κ} (h : found.any c.stallsOn = true) :
    found.bind c.rulingOn = none := by
  cases found with
  | none => rfl
  | some obj => exact rulingOn_of_stallsOn h

theorem ruling_of_stalls {change : Change} (h : c.stalls change = true) :
    c.ruling change = none := by
  cases change with
  | added o => exact bind_rulingOn_of_stallsOn h
  | modified o => exact bind_rulingOn_of_stallsOn h
  | deleted o => exact absurd h (by simp [stalls])

/-- An object that gets along without an answer inherits the same whether answers come or not. -/
theorem inherited_of_pending {r : Rules κ} {server : Option Server} {obj : κ}
    (h : (r.inherited (server.map fun _ _ ↦ .pending) obj).isPending = false) :
    r.inherited (server.map fun _ _ ↦ .pending) obj = r.inherited server obj := by
  unfold Rules.inherited at h ⊢
  cases hparent : r.parent? obj with
  | none => rfl
  | some p =>
    cases server with
    | none => rfl
    | some server =>
      rw [hparent] at h
      dsimp only [Option.map_some, Rules.lookUp] at h ⊢
      cases hrequest : Request.ofObject? p.resource p.namespaceName p.name with
      | none => rfl
      | some request => rw [hrequest] at h; exact absurd h (by simp [Response.lookup])

private theorem rulingOn_unanswered {obj : κ} (h : c.unanswered.stallsOn obj = false) :
    c.unanswered.rulingOn obj = c.rulingOn obj := by
  dsimp only [stallsOn, unanswered] at h
  dsimp only [rulingOn, unanswered]
  cases hurl : c.rules.screen c.config obj with
  | error v => rfl
  | ok url =>
    rw [hurl] at h
    dsimp only at h ⊢
    rw [inherited_of_pending h]
    rfl

theorem ruling_unanswered {change : Change} (h : c.unanswered.stalls change = false) :
    c.unanswered.ruling change = c.ruling change := by
  have hpresent : ∀ o, (c.rules.decode o).any c.unanswered.stallsOn = false →
      (c.rules.decode o).bind c.unanswered.rulingOn = (c.rules.decode o).bind c.rulingOn := by
    intro o ho
    cases hobj : c.rules.decode o with
    | none => rfl
    | some obj =>
      rw [hobj] at ho
      exact rulingOn_unanswered ho
  cases change with
  | added o => exact hpresent o h
  | modified o => exact hpresent o h
  | deleted o => rfl

end Controller

end EndpointSync
