import EndpointSync.Proofs.Calls

/-!
# The output file keeps up with the roster

The file holds the roster as it was when it was last written. Not every change is written: one that
is deferred stays out of the file until something else writes, and an endpoint that is there already
is no change at all. What the file holds at any moment is nevertheless told by the calls so far,
without looking at the file.

## The invariant

`Store.FileAfter` says what the file holds after some calls: what it held before them if none of
them wrote, and otherwise the text of the roster right after the last one that did. A call that
writes establishes it anew, whatever was there, since it leaves the roster alone once the file is
written; any other call leaves the file alone.
-/

namespace EndpointSync

namespace Store

/-! ## What the file holds -/

def steps (s : Store) : List Call → List (Store × Call)
  | [] => []
  | call :: rest => (s, call) :: steps (call.perform s) rest

theorem steps_append (s : Store) (calls more : List Call) :
    s.steps (calls ++ more) = s.steps calls ++ (s.performAll calls).steps more := by
  induction calls generalizing s with
  | nil => rfl
  | cons first rest ih =>
    rw [List.cons_append, steps, steps, ih, List.cons_append]
    rfl

theorem steps_append_singleton (s : Store) (calls : List Call) (call : Call) :
    s.steps (calls ++ [call]) = s.steps calls ++ [(s.performAll calls, call)] :=
  s.steps_append calls [call]

/-- What the file holds after some calls. -/
inductive FileAfter (s : Store) (calls : List Call) : Option String → Prop where
  /-- No call has written yet. -/
  | untouched : (∀ step ∈ s.steps calls, step.2.writes step.1 = false) →
      FileAfter s calls s.disk.contents
  /-- A call has written and none after it has. -/
  | written {before after : List (Store × Call)} {t : Store} {call : Call} {text : String} :
      s.steps calls = before ++ (t, call) :: after → call.writes t = true →
      (∀ step ∈ after, step.2.writes step.1 = false) →
      (call.perform t).roster.render? = some text → FileAfter s calls (some text)

theorem FileAfter.append_singleton {s : Store} {calls : List Call} {file : Option String}
    (h : FileAfter s calls file) {call : Call} (hquiet : call.writes (s.performAll calls) = false) :
    FileAfter s (calls ++ [call]) file := by
  have hlater : ∀ {steps : List (Store × Call)}, (∀ step ∈ steps, step.2.writes step.1 = false) →
      ∀ step ∈ steps ++ [(s.performAll calls, call)], step.2.writes step.1 = false := by
    intro steps hsteps step hstep
    rcases List.mem_append.mp hstep with hearlier | hlast
    · exact hsteps step hearlier
    · rw [List.mem_singleton.mp hlast]
      exact hquiet
  cases h with
  | untouched hnone =>
    refine .untouched ?_
    rw [steps_append_singleton]
    exact hlater hnone
  | @written before after t writer text hsteps hwrites hafter htext =>
    have hmore : s.steps (calls ++ [call])
        = before ++ (t, writer) :: (after ++ [(s.performAll calls, call)]) := by
      rw [steps_append_singleton, hsteps, List.append_assoc, List.cons_append]
    exact .written hmore hwrites (hlater hafter) htext

/-- The roster can be rendered whenever one of the calls writes. -/
abbrev Renders (s : Store) (calls : List Call) : Prop :=
  ∀ step ∈ s.steps calls, step.2.writes step.1 = true →
    (step.2.perform step.1).roster.render?.isSome = true

variable {s : Store} {calls : List Call}

theorem Renders.of_append_singleton {call : Call} (h : Renders s (calls ++ [call])) :
    Renders s calls := by
  intro step hstep
  refine h step ?_
  rw [steps_append_singleton]
  exact List.mem_append_left _ hstep

theorem Renders.contents {call : Call} (h : Renders s (calls ++ [call]))
    (hplace : s.disk.place = .free) (hwrites : call.writes (s.performAll calls) = true) :
    ∃ text, (call.perform (s.performAll calls)).roster.render? = some text ∧
      (call.perform (s.performAll calls)).disk.contents = some text := by
  have hlast : (s.performAll calls, call) ∈ s.steps (calls ++ [call]) := by
    rw [steps_append_singleton]
    exact List.mem_append_right _ List.mem_cons_self
  have hfree : (s.performAll calls).disk.place = .free := by rw [place_performAll, hplace]
  obtain ⟨text, htext⟩ := Option.isSome_iff_exists.mp (h _ hlast hwrites)
  exact ⟨text, htext, Call.contents_of_writes hfree hwrites htext⟩

theorem fileAfter_performAll (hplace : s.disk.place = .free) (hrenders : Renders s calls) :
    FileAfter s calls (s.performAll calls).disk.contents := by
  induction calls using List.reverseRecOn with
  | nil => exact .untouched (by simp [steps])
  | append_singleton calls call ih =>
    have hearlier := ih hrenders.of_append_singleton
    rw [performAll_append_singleton]
    cases hwrites : call.writes (s.performAll calls) with
    | false =>
      rw [Call.disk_of_not_writes hwrites]
      exact hearlier.append_singleton hwrites
    | true =>
      obtain ⟨text, htext, hcontents⟩ := hrenders.contents hplace hwrites
      rw [hcontents]
      refine .written (steps_append_singleton s calls call) hwrites ?_ htext
      intro step hstep
      exact absurd hstep List.not_mem_nil

/-- **The file keeps up with the roster.** Suppose that the file can be written and that the roster
can be rendered whenever a call writes. After any sequence of calls the file holds what it held
before them if none of them wrote, and else the roster as it was right after the last one that did.
So a change that is not in the file is a deferred one, and right after a call that writes the file
holds the roster as it is, deferred changes included. -/
theorem file_keeps_up (hplace : s.disk.place = .free) (hrenders : Renders s calls) :
    FileAfter s calls (s.performAll calls).disk.contents ∧
      (∀ step ∈ s.steps calls, step.2.writes step.1 = false →
        (step.2.perform step.1).roster ≠ step.1.roster →
        ∃ key e, step.2 = .put key e .deferred ∧ step.2.answer? step.1 = some true) ∧
      ∀ before call, calls = before ++ [call] → call.writes (s.performAll before) = true →
        ∃ text, (s.performAll calls).roster.render? = some text ∧
          (s.performAll calls).disk.contents = some text := by
  refine ⟨fileAfter_performAll hplace hrenders, ?_, ?_⟩
  · intro step _ hquiet hchange
    exact Call.deferred_of_not_writes hquiet hchange
  · rintro before call rfl hwrites
    rw [performAll_append_singleton]
    exact hrenders.contents hplace hwrites

private theorem ordered_pair (x y : Key × Endpoint) :
    Roster.ordered [x, y] = if Roster.entryLe x y then [x.2, y.2] else [y.2, x.2] := by
  have hsorted : [x, y].mergeSort Roster.entryLe
      = if Roster.entryLe x y then [x, y] else [y, x] := by simp [List.mergeSort, List.merge]
  rw [Roster.ordered, hsorted]
  split <;> rfl

/-- Two deferred endpoints, and the write that they wait for. -/
def seeding : List Call :=
  [.put ⟨"b", "x", "services"⟩ { name := "b", url := "tcp://b", interval := "1m" } .deferred,
    .put ⟨"a", "x", "services"⟩ { name := "a", url := "tcp://a", interval := "1m" } .deferred,
    .write]

/-- Both endpoints are in the file once it is written, in order. -/
theorem file_keeps_up_seeding : ({} : Store).disk.place = .free ∧ Renders {} seeding ∧
    FileAfter {} seeding (some ("endpoints:\n- name: a\n  url: tcp://a\n  interval: 1m\n" ++
      "- name: b\n  url: tcp://b\n  interval: 1m\n")) := by
  have hordered : (({} : Store).performAll (seeding.take 2)).roster.ordered
      = [{ name := "a", url := "tcp://a", interval := "1m" },
        { name := "b", url := "tcp://b", interval := "1m" }] := by
    have hroster : (({} : Store).performAll (seeding.take 2)).roster
        = [(⟨"b", "x", "services"⟩, { name := "b", url := "tcp://b", interval := "1m" }),
          (⟨"a", "x", "services"⟩, { name := "a", url := "tcp://a", interval := "1m" })] := rfl
    rw [hroster, ordered_pair, if_neg (by decide)]
  have htext : (({} : Store).performAll seeding).roster.render?
      = some ("endpoints:\n- name: a\n  url: tcp://a\n  interval: 1m\n" ++
        "- name: b\n  url: tcp://b\n  interval: 1m\n") := by
    have hseeding : seeding = seeding.take 2 ++ [.write] := rfl
    rw [hseeding, performAll_append_singleton, Call.perform, roster_write, Roster.render?,
      Roster.document, hordered]
    decide +kernel
  have hplace : ({} : Store).disk.place = .free := rfl
  have hrenders : Renders {} seeding := by
    intro step hstep hwrites
    simp only [seeding, steps, List.mem_cons, List.not_mem_nil, or_false] at hstep
    rcases hstep with rfl | rfl | rfl
    · exact absurd hwrites (by decide)
    · exact absurd hwrites (by decide)
    · exact Option.isSome_iff_exists.mpr ⟨_, htext⟩
  obtain ⟨hfile, -, hcurrent⟩ := file_keeps_up hplace hrenders
  obtain ⟨text, hrendered, hcontents⟩ := hcurrent (seeding.take 2) .write rfl rfl
  rw [hcontents, ← hrendered, htext] at hfile
  exact ⟨hplace, hrenders, hfile⟩

end Store

end EndpointSync
