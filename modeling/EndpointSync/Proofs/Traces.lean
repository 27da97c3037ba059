import EndpointSync.Proofs.Calls

/-!
# What a change adds to the history

A history only grows, so what happened from one store to another is what the second history holds
beyond the first. While a controller deals with a change, that is whatever comes of looking a parent
up and of carrying the verdict out. A write is among it exactly where the call that carries the
verdict out writes; polls and releases of handles never are.
-/

namespace EndpointSync

open Cluster (Change Object Response WatchEnd WatchEvent)

namespace Happening

/-- How a write shows in the history, whether or not it succeeds. -/
def isWriting : Happening → Bool
  | .noticed (.rosterWritten _) => true
  | .noticed (.writeFailed _) => true
  | _ => false

/-- What happened is neither a write nor a poll nor the release of a handle. -/
def isIncidental : Happening → Bool
  | .noticed n => !(Happening.noticed n).isWriting
  | .requested _ => true
  | .polled _ => false
  | .released => false

/-- What happened is incidental, or a write where there is one. -/
def IsWithin (writes : Bool) (x : Happening) : Prop :=
  x.isIncidental = true ∨ writes = true ∧ x.isWriting = true

private theorem isWithin_false {x : Happening} : IsWithin false x ↔ x.isIncidental = true := by
  simp [IsWithin]

private theorem IsWithin.of_isIncidental {x : Happening} (h : x.isIncidental = true)
    (writes : Bool) : IsWithin writes x := .inl h

theorem isWriting_of_isIncidental {x : Happening} (h : x.isIncidental = true) :
    x.isWriting = false := by
  cases x with
  | noticed n => simpa [isIncidental] using h
  | requested r => rfl
  | polled p => rfl
  | released => rfl

end Happening

open Happening (IsWithin)

namespace Store

/-- The second store has the history of the first, and whatever is new in it has a property. -/
def Adds (P : Happening → Prop) (s t : Store) : Prop :=
  ∃ added, t.history = s.history ++ added ∧ ∀ x ∈ added, P x

variable {P Q : Happening → Prop} {s t u : Store}

theorem Adds.of_eq (h : t.history = s.history) : Adds P s t :=
  ⟨[], by rw [h, List.append_nil], fun _ hx ↦ absurd hx List.not_mem_nil⟩

theorem Adds.trans (h : Adds P s t) (h' : Adds P t u) : Adds P s u := by
  obtain ⟨first, ht, hfirst⟩ := h
  obtain ⟨second, hu, hsecond⟩ := h'
  refine ⟨first ++ second, by rw [hu, ht, List.append_assoc], fun x hx ↦ ?_⟩
  rcases List.mem_append.mp hx with hx | hx
  · exact hfirst x hx
  · exact hsecond x hx

theorem Adds.mono (h : Adds P s t) (hPQ : ∀ x, P x → Q x) : Adds Q s t := by
  obtain ⟨added, ht, hadded⟩ := h
  exact ⟨added, ht, fun x hx ↦ hPQ x (hadded x hx)⟩

theorem adds_record (s : Store) {added : List Happening} (h : ∀ x ∈ added, P x) :
    Adds P s (s.record added) := ⟨added, rfl, h⟩

theorem adds_note (s : Store) {n : Notice} (h : P (.noticed n)) : Adds P s (s.note n) :=
  adds_record s fun x hx ↦ by rwa [List.mem_singleton.mp hx]

theorem adds_write (s : Store) : Adds (IsWithin true) s s.write := by
  rw [write]
  split
  · exact adds_note _ (.inr ⟨rfl, rfl⟩)
  · exact adds_note _ (.inr ⟨rfl, rfl⟩)

/-! ## Calls -/

theorem adds_put (s : Store) (key : Key) (e : Endpoint) (w : Write) :
    Adds (IsWithin ((Call.put key e w).writes s)) s (s.put key e w) := by
  rw [put]
  split
  · exact .of_eq rfl
  next hnew =>
    have hchanging : Adds (IsWithin ((Call.put key e w).writes s)) s
        { s.note (.endpointChanging key) with roster := s.roster.insert key e } :=
      adds_note s (.inl rfl)
    cases w with
    | deferred => exact hchanging
    | now =>
      have hwrites : (Call.put key e .now).writes s = true := by
        simp [Call.writes, Call.answer?, hnew]
      rw [hwrites] at hchanging ⊢
      exact hchanging.trans (adds_write _)

theorem adds_forget (s : Store) (key : Key) :
    Adds (IsWithin ((Call.forget key).writes s)) s (s.forget key) := by
  rw [forget]
  split
  next hthere =>
    have hwrites : (Call.forget key).writes s = true := by
      simp [Call.writes, Call.answer?, hthere]
    rw [hwrites]
    have hforgotten : Adds (IsWithin true) s
        ({ s with roster := s.roster.erase key }.note (.endpointForgotten key)) :=
      adds_note { s with roster := s.roster.erase key } (.inl rfl)
    exact hforgotten.trans (adds_write _)
  · exact .of_eq rfl

theorem adds_drop (s : Store) (key : Key) :
    Adds (IsWithin ((Call.forget key).writes s)) s (s.drop key) := by
  rw [drop]
  split
  · exact (adds_forget s key).trans (adds_note _ (.inl rfl))
  · exact adds_forget s key

theorem adds_apply (s : Store) (key : Key) (w : Write) (v : Verdict) :
    Adds (IsWithin ((v.calls key w).any (·.writes s))) s (s.apply key w v) := by
  cases v with
  | drop =>
    rw [Verdict.calls, List.any_cons, List.any_nil, Bool.or_false]
    exact adds_drop s key
  | noUrl => exact adds_note s (.inl rfl)
  | invalid why => exact adds_note s (.inl rfl)
  | endpoint e =>
    rw [Verdict.calls, List.any_cons, List.any_nil, Bool.or_false, apply]
    split
    · exact adds_put s key e w
    · exact (adds_put s key e w).trans (adds_note _ (.inl rfl))

end Store

/-! ## Changes -/

namespace Controller

open Store (Adds)

variable {κ : Type} (c : Controller κ)

theorem isIncidental_inherited (obj : κ) :
    ∀ x ∈ (c.rules.inherited c.server obj).happenings, x.isIncidental = true := by
  have hasked : ∀ (request : Option Request) (more : List Happening),
      (∀ x ∈ more, x.isIncidental = true) →
      ∀ x ∈ request.toList.map Happening.requested ++ more, x.isIncidental = true := by
    intro request more hmore x hx
    rcases List.mem_append.mp hx with hx | hx
    · obtain ⟨r, -, rfl⟩ := List.mem_map.mp hx
      rfl
    · exact hmore x hx
  unfold Rules.inherited
  split
  · dsimp only
    split
    · simpa using hasked _ [] (by simp)
    · exact hasked _ _ (by simp [Happening.isIncidental, Happening.isWriting])
    · exact hasked _ _ (by simp [Happening.isIncidental, Happening.isWriting])
    · simpa using hasked _ [] (by simp)
  · simp

private theorem adds_handleObject (s : Store) (obj : κ) (w : Write) :
    Adds (IsWithin ((callsOf w (c.rulingOn obj)).any (·.writes s))) s
      (c.handleObject s obj w).store := by
  rw [handleObject, rulingOn]
  cases c.rules.screen c.config obj with
  | error v => exact Store.adds_apply s _ w v
  | ok url =>
    have hlookup : ∀ {writes : Bool}, Adds (IsWithin writes) s
        (s.record (c.rules.inherited c.server obj).happenings) :=
      Store.adds_record s fun x hx ↦ .of_isIncidental (c.isIncidental_inherited obj x hx) _
    dsimp only
    split
    · exact hlookup
    · have hwrites : ∀ call : Call,
          call.writes s = call.writes (s.record (c.rules.inherited c.server obj).happenings) :=
        Call.writes_congr rfl
      rw [callsOf, funext hwrites]
      exact hlookup.trans (Store.adds_apply _ _ w _)

theorem adds_handlePresent (s : Store) (o : Object) (w : Write) :
    Adds (IsWithin ((callsOf w ((c.rules.decode o).bind c.rulingOn)).any (·.writes s))) s
      (c.handlePresent s o w).store := by
  rw [handlePresent]
  split
  next obj h =>
    rw [h, Option.bind_some]
    exact c.adds_handleObject s obj w
  next h => exact Store.adds_note s (.inl rfl)

/-- **What a change adds to the history** is incidental, apart from the write if its call writes. -/
theorem adds_handle (s : Store) (change : Change) (w : Write) :
    Adds (IsWithin ((callsOf w (c.ruling change)).any (·.writes s))) s
      (c.handle s change w).store := by
  cases change with
  | added o => exact c.adds_handlePresent s o w
  | modified o => exact c.adds_handlePresent s o w
  | deleted o =>
    have hcalls : callsOf w (c.ruling (.deleted o)) = [.forget (c.key o)] := rfl
    rw [hcalls, List.any_cons, List.any_nil, Bool.or_false]
    exact Store.adds_drop s (c.key o)

variable {c} in
/-- A change whose call does not write adds only what is incidental. -/
theorem adds_handle_of_quiet {s : Store} {change : Change} {w : Write}
    (h : (callsOf w (c.ruling change)).any (·.writes s) = false) :
    Adds (fun x ↦ x.isIncidental = true) s (c.handle s change w).store := by
  have hadds := c.adds_handle s change w
  rw [h] at hadds
  exact hadds.mono fun x hx ↦ Happening.isWithin_false.mp hx

variable {c} in
theorem disk_handle_of_quiet {s : Store} {change : Change} {w : Write}
    (h : (callsOf w (c.ruling change)).any (·.writes s) = false) :
    (c.handle s change w).store.disk = s.disk := by
  have hdisk := (c.agree_handle s change w).disk
  rcases callsOf_cases w (c.ruling change) with hnone | ⟨call, hone⟩
  · rw [hdisk, hnone]
    rfl
  · rw [hone] at h hdisk
    rw [hdisk]
    exact Call.disk_of_not_writes (by simpa using h)

/-! ## Lists and watches

Neither the first list nor a watch adds anything but what the changes in it add, and notices. -/

theorem adds_handle_of_any (s : Store) (change : Change) (w : Write) :
    Adds (IsWithin true) s (c.handle s change w).store :=
  (c.adds_handle s change w).mono fun _ hx ↦ hx.imp_right fun h ↦ ⟨rfl, h.2⟩

variable (stop : Option Moment)

private theorem adds_handleAll (objects : List Object) (s : Store) (n : Nat) :
    Adds (IsWithin true) s (c.handleAll stop s n objects).1 := by
  induction objects generalizing s n with
  | nil => exact .of_eq rfl
  | cons o rest ih =>
    rw [handleAll]
    dsimp only
    split
    · split
      · exact c.unanswered.adds_handle_of_any s _ _
      · exact (c.unanswered.adds_handle_of_any s _ _).trans (ih _ _)
    · split
      · exact c.adds_handle_of_any s _ _
      · exact (c.adds_handle_of_any s _ _).trans (ih _ _)

theorem adds_seed (objects : List Object) (s : Store) :
    Adds (IsWithin true) s (c.seed stop s objects).1 := by
  have h := c.adds_handleAll stop objects s 0
  rw [seed]
  split
  next after hall =>
    rw [hall] at h
    exact (h.trans (Store.adds_write after)).trans (Store.adds_note _ (.inl rfl))
  next after result hall =>
    rw [hall] at h
    exact h

private theorem adds_observe (here : Watching) (e : WatchEvent) :
    Adds (IsWithin true) here.store (c.observe here e).1.store := by
  cases e with
  | changed change => exact c.adds_handle_of_any here.store change .now
  | bookmark version => exact .of_eq rfl
  | error report =>
    rw [observe]
    split
    · exact Store.adds_note _ (.inl rfl)
    · exact Store.adds_note _ (.inl rfl)

private theorem adds_conclude (here : Watching) (ending : WatchEnd) :
    Adds (IsWithin true) here.store (conclude here ending).1.store := by
  cases ending with
  | closed => exact Store.adds_note _ (.inl rfl)
  | failed => exact Store.adds_note _ (.inl rfl)
  | silent => exact .of_eq rfl

private theorem adds_follow (attempt : Nat) (ending : WatchEnd) (events : List WatchEvent)
    (here : Watching) (n : Nat) :
    Adds (IsWithin true) here.store (c.follow stop attempt ending here n events).1.store := by
  induction events generalizing here n with
  | nil =>
    rw [follow]
    split
    · exact .of_eq rfl
    · exact adds_conclude here ending
  | cons e rest ih =>
    have hseen := c.adds_observe here e
    rw [follow]
    split
    · exact .of_eq rfl
    · split
      next after hobserve =>
        rw [hobserve] at hseen
        exact hseen.trans (ih after (n + 1))
      next after outcome hobserve =>
        rw [hobserve] at hseen
        exact hseen

theorem adds_attend (attempt : Nat) (here : Watching) (response : Response) :
    Adds (IsWithin true) here.store (c.attend stop attempt here response).1.store := by
  rw [attend]
  split
  · exact Store.adds_note _ (.inl rfl)
  · exact c.adds_follow stop attempt _ _ here 0

theorem store_insist (here : Watching) (n : Nat) :
    ∃ count, (c.insist stop here n).store = here.store.record (refusals count) := by
  unfold insist
  split
  · split
    · exact ⟨_, rfl⟩
    · exact ⟨1, rfl⟩
  · split
    · exact ⟨_, rfl⟩
    · exact ⟨1, rfl⟩
  · exact ⟨1, rfl⟩

end Controller

end EndpointSync
