import EndpointSync.Proofs.Traces

/-!
# Polls

A poll is a request for the first list or for a watch. Everything that happens in a run is told in
one history, so a poll stands among notices and among requests for parents. Only `Controller.poll`
adds one. Looking a parent up is a request, but no poll, so the other steps of a run leave the polls
as they are, whatever else they add to the history.
-/

namespace EndpointSync

open Cluster (Object Response)

/-! ## The polls of a history -/

/-- The poll that happened, if it was one. -/
def Happening.poll? : Happening → Option Poll
  | .polled p => some p
  | .noticed _ => none
  | .requested _ => none
  | .released => none

namespace Store

/-- The lists and watches that were asked for, oldest first. -/
def polls (s : Store) : List Poll := s.history.filterMap Happening.poll?

theorem polls_record (s : Store) (h : List Happening) :
    (s.record h).polls = s.polls ++ h.filterMap Happening.poll? := List.filterMap_append

def Quiet (h : List Happening) : Prop := h.filterMap Happening.poll? = []

theorem polls_record_of_quiet {h : List Happening} (hquiet : Quiet h) (s : Store) :
    (s.record h).polls = s.polls := by
  rw [polls_record, hquiet, List.append_nil]

@[simp] theorem polls_note (s : Store) (n : Notice) : (s.note n).polls = s.polls := by
  have hquiet : Quiet [.noticed n] := rfl
  exact polls_record_of_quiet hquiet s

/-- Neither a write nor anything incidental is a poll. -/
theorem polls_of_adds {s t : Store} {writes : Bool} (h : Adds (Happening.IsWithin writes) s t) :
    t.polls = s.polls := by
  obtain ⟨added, ht, hadded⟩ := h
  have hquiet : Quiet added := by
    refine List.filterMap_eq_nil_iff.mpr fun x hx ↦ ?_
    cases x with
    | noticed n => rfl
    | requested r => rfl
    | polled p =>
      exact absurd (hadded _ hx) (by
        simp [Happening.IsWithin, Happening.isIncidental, Happening.isWriting])
    | released => rfl
  rw [polls, ht, List.filterMap_append, hquiet, List.append_nil, polls]

end Store

namespace Controller

open Store (Quiet)

variable {κ : Type} (c : Controller κ)

/-! ## What asks for nothing -/

variable (stop : Option Moment)

theorem polls_seed (objects : List Object) (s : Store) :
    (c.seed stop s objects).1.polls = s.polls := Store.polls_of_adds (c.adds_seed stop objects s)

theorem polls_attend (attempt : Nat) (here : Watching) (response : Response) :
    (c.attend stop attempt here response).1.store.polls = here.store.polls :=
  Store.polls_of_adds (c.adds_attend stop attempt here response)

private theorem quiet_refusals (count : Nat) : Quiet (refusals count) := by
  induction count with
  | zero => rfl
  | succ count ih => exact ih

theorem polls_insist (here : Watching) (n : Nat) :
    (c.insist stop here n).store.polls = here.store.polls := by
  obtain ⟨count, hstore⟩ := c.store_insist stop here n
  rw [hstore, Store.polls_record_of_quiet (quiet_refusals count)]

theorem quiet_released : Quiet [.released] := rfl

theorem polls_endEarly (s : Store) (result : Result) : (endEarly s result).store.polls = s.polls :=
  Store.polls_record_of_quiet quiet_released s

/-! ## What asks for something -/

theorem polls_poll (s : Store) (ask : Ask) (request : Request) (milliseconds : Nat)
    (initialized : Bool) :
    ∃ p : Poll, (poll s ask request milliseconds initialized).polls = s.polls ++ [p] ∧
      p.ask = ask ∧ p.request = request :=
  ⟨_, Store.polls_record s _, rfl, rfl⟩

end Controller

end EndpointSync
