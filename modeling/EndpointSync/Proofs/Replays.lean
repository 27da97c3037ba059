import EndpointSync.Proofs.Blocking
import EndpointSync.Proofs.Restart
import EndpointSync.Proofs.Traces

/-!
# Replays are silent

A watch that starts anew brings every object once more, whether or not anything about it has
changed. Objects that have been dealt with once are dealt with to no effect when they come again:
the roster and the file stay as they are, and nothing is written.

## Why nothing is left to do

What a ruling asks for is there once it has been carried out (`Roster.Settled`). For an endpoint
that is so because it is the same as itself or as the one that was kept, and for one that is dropped
because it is gone; the other rulings ask for nothing. Whether it is so depends on the entry of one
key alone. So among objects with different keys no ruling undoes another, and the same object comes
to the same ruling again, since its parent has not changed.
-/

namespace EndpointSync

open Cluster (Change Object)

namespace Roster

/-- What the ruling asks for is there already. -/
def Settled (r : Roster) : Ruling → Prop
  | some (key, .drop) => r.get? key = none
  | some (key, .endpoint e) => (r.get? key).any (fun old ↦ old.same e) = true
  | some (_, .noUrl) => True
  | some (_, .invalid _) => True
  | none => True

variable {r r' : Roster}

theorem settled_settle (r : Roster) (ρ : Ruling) : (r.settle ρ).Settled ρ := by
  match ρ with
  | none => trivial
  | some (_, .noUrl) => trivial
  | some (_, .invalid _) => trivial
  | some (key, .drop) => exact get?_erase_self r key
  | some (key, .endpoint e) =>
    rw [settle]
    split
    next hsame => exact hsame
    · rw [Settled, get?_insert_self, Option.any_some]
      exact e.same_refl

theorem Settled.congr {key : Key} {v : Verdict} (h : r.Settled (some (key, v)))
    (hget : r'.get? key = r.get? key) : r'.Settled (some (key, v)) := by
  cases v with
  | drop => exact hget.trans h
  | noUrl => trivial
  | invalid why => trivial
  | endpoint e =>
    rw [Settled, hget]
    exact h

theorem Settled.answer? {s : Store} {ρ : Ruling} (h : s.roster.Settled ρ) (w : Write) :
    ∀ call ∈ Controller.callsOf w ρ, call.answer? s = some false := by
  intro call hcall
  match ρ with
  | none => exact absurd hcall List.not_mem_nil
  | some (_, .noUrl) => exact absurd hcall List.not_mem_nil
  | some (_, .invalid _) => exact absurd hcall List.not_mem_nil
  | some (key, .drop) =>
    rw [List.mem_singleton.mp hcall, Call.answer?, Store.has, h]
    rfl
  | some (key, .endpoint e) =>
    rw [List.mem_singleton.mp hcall, Call.answer?, Store.holds, h]
    rfl

end Roster

namespace Controller

open Store (Adds)

variable {κ : Type} {c : Controller κ}

/-- A change that asks for what is there already leaves the roster and the file as they are. -/
theorem agree_handle_of_settled {s : Store} {change : Change}
    (h : s.roster.Settled (c.ruling change)) (w : Write) :
    (c.handle s change w).store.Agree s := by
  have hagree := c.agree_handle s change w
  have hidle := h.answer? w
  rcases callsOf_cases w (c.ruling change) with hnone | ⟨call, hone⟩
  · rw [hnone] at hagree
    exact hagree
  · rw [hone] at hagree hidle
    have hperform : s.performAll [call] = call.perform s := rfl
    rw [hperform, Call.perform_of_answer? (hidle call List.mem_cons_self)] at hagree
    exact hagree

theorem adds_handle_of_settled {s : Store} {change : Change}
    (h : s.roster.Settled (c.ruling change)) (w : Write) :
    Adds (fun x ↦ x.isIncidental = true) s (c.handle s change w).store := by
  refine adds_handle_of_quiet (List.any_eq_false.mpr fun call hcall ↦ ?_)
  rw [Call.writes_of_answer? (h.answer? w call hcall)]
  exact Bool.false_ne_true

/-- Changes that all ask for what is there already add to the history, and that is all. -/
theorem silent_replay {s : Store} {course : List (Change × Write)}
    (h : ∀ x ∈ course, s.roster.Settled (c.ruling x.1)) :
    (c.replay s course).Agree s ∧
      Adds (fun x ↦ x.isIncidental = true) s (c.replay s course) := by
  induction course generalizing s with
  | nil => exact ⟨.refl s, .of_eq rfl⟩
  | cons x rest ih =>
    obtain ⟨hx, hrest⟩ := List.forall_mem_cons.mp h
    have hagree := agree_handle_of_settled hx x.2
    obtain ⟨hrestAgree, hrestAdds⟩ := ih (s := (c.handle s x.1 x.2).store) (by
      rw [hagree.roster]
      exact hrest)
    exact ⟨hrestAgree.trans hagree, (adds_handle_of_settled hx x.2).trans hrestAdds⟩

section Kinds

variable {k : Kind} {c : Controller k.Form}

theorem settled_carryOut_added (hrules : c.rules = k.rules) {objects : List Object}
    (hkeys : (objects.map c.key).Nodup) {o : Object} (ho : o ∈ objects) (r : Roster) :
    (c.carryOut r (objects.map Change.added)).Settled (c.ruling (.added o)) := by
  have hget := get?_carryOut_added hrules hkeys ho r
  have hsettled := Roster.settled_settle r (c.ruling (.added o))
  cases hruling : c.ruling (.added o) with
  | none => trivial
  | some found =>
    obtain ⟨key, v⟩ := found
    have hkey : key = c.key o := key_of_ruling hrules hruling
    rw [hruling] at hget hsettled
    rw [← hkey] at hget
    exact hsettled.congr hget

/-- **Replays are silent.** Suppose that objects with different keys have been dealt with as added
ones, in whatever way they were written and from whatever state. If the same objects come again, as
added or as modified ones, in any order and any number of times, then the roster and the file stay
as they are, no write is tried, and every call of the store answers that there was nothing to
change. -/
theorem replays_are_silent (hrules : c.rules = k.rules) {objects : List Object}
    (hkeys : (objects.map c.key).Nodup) {first again : List (Change × Write)}
    (hfirst : first.map Prod.fst = objects.map Change.added)
    (hagain : ∀ x ∈ again, ∃ o ∈ objects, x.1 = .added o ∨ x.1 = .modified o) (s : Store) :
    (c.replay (c.replay s first) again).roster = (c.replay s first).roster ∧
      (c.replay (c.replay s first) again).disk = (c.replay s first).disk ∧
      (∃ added, (c.replay (c.replay s first) again).history
          = (c.replay s first).history ++ added ∧ ∀ x ∈ added, x.isWriting = false) ∧
      ∀ before x after, again = before ++ x :: after →
        ∀ call ∈ callsOf x.2 (c.ruling x.1),
          call.answer? (c.replay (c.replay s first) before) = some false := by
  have hsettled : ∀ x ∈ again, (c.replay s first).roster.Settled (c.ruling x.1) := by
    intro x hx
    obtain ⟨o, ho, hchange⟩ := hagain x hx
    -- an object comes to the same ruling whether it was added or modified
    have hruling : c.ruling x.1 = c.ruling (.added o) := by
      rcases hchange with hadded | hmodified
      · rw [hadded]
      · rw [hmodified]
        rfl
    rw [roster_replay, hfirst, hruling]
    exact settled_carryOut_added hrules hkeys ho s.roster
  obtain ⟨hagree, added, hhistory, hincidental⟩ := silent_replay hsettled
  refine ⟨hagree.roster, hagree.disk, ⟨added, hhistory, fun x hx ↦ ?_⟩, ?_⟩
  · exact Happening.isWriting_of_isIncidental (hincidental x hx)
  · rintro before x after rfl
    have hbefore : (c.replay (c.replay s first) before).Agree (c.replay s first) :=
      (silent_replay fun y hy ↦ hsettled y (List.mem_append_left _ hy)).1
    have hx := hsettled x (List.mem_append_right _ List.mem_cons_self)
    rw [← hbefore.roster] at hx
    exact hx.answer? x.2

/-- A service with a template in which there is not-a-number, and one that is switched off. -/
def unusualServices : List Object :=
  [Event.serviceObject "web"
      [("gatus.home-operations.com/endpoint", "weights: \x7ba: .nan, b: -0.0\x7d")],
    Event.serviceObject "db" [("gatus.home-operations.com/enabled", "false")]]

/-- Both services are dealt with. -/
def unusualPass : List (Change × Write) :=
  (unusualServices.map Change.added).zip [.deferred, .now]

/-- They come again in another order, and then once more. -/
def unusualReplay : List (Change × Write) :=
  (unusualServices.reverse.map Change.modified ++ unusualServices.map Change.added).zip
    [.now, .now, .deferred, .now]

/-- The one has an endpoint, the other has none, and neither of this changes any more. -/
theorem unusual_services_replayed :
    (unusualServices.map everyService.key).Nodup ∧
      unusualPass.map Prod.fst = unusualServices.map Change.added ∧
      (∀ x ∈ unusualReplay, ∃ o ∈ unusualServices, x.1 = .added o ∨ x.1 = .modified o) ∧
      ((everyService.replay {} unusualPass).roster.map Prod.fst) = [serviceKey "web"] ∧
      (everyService.replay (everyService.replay {} unusualPass) unusualReplay).roster
        = (everyService.replay {} unusualPass).roster := by
  have hkeys : (unusualServices.map everyService.key).Nodup := by decide +kernel
  have hfirst : unusualPass.map Prod.fst = unusualServices.map Change.added := rfl
  have hagain : ∀ x ∈ unusualReplay,
      ∃ o ∈ unusualServices, x.1 = .added o ∨ x.1 = .modified o := by
    intro x hx
    simp only [unusualReplay, unusualServices, List.map_cons, List.map_nil, List.reverse_cons,
      List.reverse_nil, List.nil_append, List.cons_append, List.zip_cons_cons, List.zip_nil_right,
      List.mem_cons, List.not_mem_nil, or_false] at hx ⊢
    rcases hx with rfl | rfl | rfl | rfl <;> simp
  exact ⟨hkeys, hfirst, hagain, by decide +kernel,
    (replays_are_silent (k := .service) rfl hkeys hfirst hagain {}).1⟩

end Kinds

end Controller

end EndpointSync
