import EndpointSync.Proofs.OutputFile
import EndpointSync.Proofs.Restart

/-!
# Equal updates count once

Several callers may bring in the same endpoint under the same key, while others are busy with other
keys. One of them finds that there is something to change, the one whose call comes first, and all
the others find that it has been done.

A call changes no key but its own, and what it does to the entry of that key, and answers, depends
on that entry alone. So the calls about one key can be followed without the others. The entry that
the first one sets is the same as every later endpoint, and therefore stays. That an endpoint is
the same as another is a matter of what they mean: the order of the settings and the representation
of a number do not count.
-/

namespace EndpointSync

namespace Call

variable {s t : Store} {key : Key} {call : Call}

/-- The call is about the key. A write is about none. -/
def isAbout (key : Key) : Call → Bool
  | .put k _ _ => k = key
  | .forget k => k = key
  | .write => false

theorem isAbout_put (key : Key) (e : Endpoint) (w : Write) : (put key e w).isAbout key = true :=
  decide_eq_true rfl

/-- **Frame.** A call touches no key that it is not about. -/
theorem get?_perform_of_not_isAbout (h : call.isAbout key = false) (s : Store) :
    (call.perform s).roster.get? key = s.roster.get? key := by
  rw [roster_perform]
  cases call with
  | put k e w => exact Roster.get?_settle_of_ne (of_decide_eq_false h) s.roster _
  | forget k => exact Roster.get?_settle_of_ne (of_decide_eq_false h) s.roster _
  | write => rfl

private theorem get?_perform_congr (h : s.roster.get? key = t.roster.get? key) (call : Call) :
    (call.perform s).roster.get? key = (call.perform t).roster.get? key := by
  rw [roster_perform, roster_perform]
  exact Roster.get?_settle_congr h call.ruling

end Call

namespace Store

variable {s : Store} {key : Key} {calls : List Call} {e : Endpoint}

/-! ## The calls about one key -/

/-- What becomes of a key is up to the calls about it. -/
theorem get?_performAll_filter (s : Store) (key : Key) (calls : List Call) :
    (s.performAll calls).roster.get? key
      = (s.performAll (calls.filter (Call.isAbout key))).roster.get? key := by
  induction calls using List.reverseRecOn with
  | nil => rfl
  | append_singleton calls call ih =>
    rw [performAll_append_singleton, List.filter_append]
    cases hkey : call.isAbout key with
    | true =>
      rw [List.filter_cons_of_pos hkey, List.filter_nil, performAll_append_singleton]
      exact Call.get?_perform_congr ih call
    | false =>
      rw [List.filter_cons_of_neg (Bool.eq_false_iff.mp hkey), List.filter_nil, List.append_nil,
        Call.get?_perform_of_not_isAbout hkey, ih]

private theorem get?_performAll_of_not_isAbout (h : ∀ call ∈ calls, call.isAbout key = false)
    (s : Store) : (s.performAll calls).roster.get? key = s.roster.get? key := by
  have hnone : calls.filter (Call.isAbout key) = [] :=
    List.filter_eq_nil_iff.mpr fun call hcall ↦ Bool.eq_false_iff.mp (h call hcall)
  rw [get?_performAll_filter, hnone]
  rfl

/-- What the calls about a key answer, in the order in which they are made. -/
def answers (s : Store) (key : Key) (calls : List Call) : List Bool :=
  (s.steps calls).filterMap fun step ↦ if step.2.isAbout key then step.2.answer? step.1 else none

theorem answers_append (s : Store) (key : Key) (calls more : List Call) :
    s.answers key (calls ++ more)
      = s.answers key calls ++ (s.performAll calls).answers key more := by
  rw [answers, steps_append, List.filterMap_append]
  rfl

theorem answers_cons (s : Store) (key : Key) (call : Call) (rest : List Call) :
    s.answers key (call :: rest)
      = (if call.isAbout key then call.answer? s else none).toList
        ++ (call.perform s).answers key rest := by
  rw [answers, steps, List.filterMap_cons]
  dsimp only
  cases (if call.isAbout key then call.answer? s else none) <;> rfl

theorem answers_put (s : Store) (key : Key) (e : Endpoint) (w : Write) (rest : List Call) :
    s.answers key (.put key e w :: rest)
      = (!s.holds key e) :: (s.put key e w).answers key rest := by
  rw [answers_cons, if_pos (Call.isAbout_put key e w)]
  rfl

theorem answers_cons_of_not_isAbout {call : Call} (h : call.isAbout key = false) (s : Store)
    (rest : List Call) : s.answers key (call :: rest) = (call.perform s).answers key rest := by
  rw [answers_cons, h]
  rfl

private theorem answers_of_not_isAbout (h : ∀ call ∈ calls, call.isAbout key = false) (s : Store) :
    s.answers key calls = [] := by
  induction calls generalizing s with
  | nil => rfl
  | cons call rest ih =>
    obtain ⟨hcall, hrest⟩ := List.forall_mem_cons.mp h
    rw [answers_cons_of_not_isAbout hcall, ih hrest]

/-! ## Updates by the same endpoint -/

/-- The calls about the key are updates by endpoints that this one is the same as. -/
def Repeats (e : Endpoint) (key : Key) (calls : List Call) : Prop :=
  ∀ call ∈ calls, call.isAbout key = true → ∃ e' w, call = .put key e' w ∧ e.same e' = true

theorem Repeats.answers (h : Repeats e key calls) (hget : s.roster.get? key = some e) :
    s.answers key calls = List.replicate (calls.countP (Call.isAbout key)) false ∧
      (s.performAll calls).roster.get? key = some e := by
  induction calls generalizing s with
  | nil => exact ⟨rfl, hget⟩
  | cons call rest ih =>
    obtain ⟨hcall, hrest⟩ := List.forall_mem_cons.mp h
    cases hkey : call.isAbout key with
    | true =>
      obtain ⟨e', w, rfl, hsame⟩ := hcall hkey
      have hholds : s.holds key e' = true := by rw [holds, hget]; exact hsame
      have hput : s.put key e' w = s := if_pos hholds
      obtain ⟨hanswers, hstays⟩ := ih hrest hget
      constructor
      · rw [answers_put, hput, hholds, hanswers, List.countP_cons_of_pos hkey]
        rfl
      · rw [performAll, List.foldl_cons, Call.perform, hput]
        exact hstays
    | false =>
      rw [answers_cons_of_not_isAbout hkey, List.countP_cons_of_neg (Bool.eq_false_iff.mp hkey)]
      exact ih hrest ((Call.get?_perform_of_not_isAbout hkey s).trans hget)

/-- **Equal updates count once.** Any number of callers update one key with endpoints that are all
the same, and in between, in any order, other callers do anything with other keys or have the roster
written. If none of the endpoints is there at first, then the first of the updates to be carried out
answers that there was something to change, and no other one does. In the end the endpoint of the
first one is there, the same as all the others, and every other key has the entry that the calls
about it alone would have given it. -/
theorem equal_updates_count_once {updates : List (Endpoint × Write)} {others : List Call}
    (horder : calls.Perm (updates.map (fun u ↦ .put key u.1 u.2) ++ others))
    (hsome : updates ≠ []) (hequal : ∀ u ∈ updates, ∀ v ∈ updates, u.1.same v.1 = true)
    (hothers : ∀ call ∈ others, call.isAbout key = false)
    (hnew : ∀ u ∈ updates, s.holds key u.1 = false) :
    s.answers key calls = true :: List.replicate (updates.length - 1) false ∧
      (∃ u ∈ updates, calls.find? (Call.isAbout key) = some (.put key u.1 u.2) ∧
        (s.performAll calls).roster.get? key = some u.1 ∧
        ∀ v ∈ updates, u.1.same v.1 = true ∧ v.1.same u.1 = true) ∧
      ∀ k, k ≠ key → (s.performAll calls).roster.get? k
        = (s.performAll (calls.filter (Call.isAbout k))).roster.get? k := by
  have hcount : calls.countP (Call.isAbout key) = updates.length := by
    have hupdates : (updates.map fun u ↦ Call.put key u.1 u.2).countP (Call.isAbout key)
        = updates.length := by
      rw [List.countP_map]
      exact List.countP_eq_length.mpr fun u _ ↦ Call.isAbout_put key u.1 u.2
    have hrest : others.countP (Call.isAbout key) = 0 :=
      List.countP_eq_zero.mpr fun call hcall ↦ Bool.eq_false_iff.mp (hothers call hcall)
    rw [horder.countP_eq, List.countP_append, hupdates, hrest, Nat.add_zero]
  have hmem : ∀ call ∈ calls, call.isAbout key = true →
      ∃ u ∈ updates, call = .put key u.1 u.2 := by
    intro call hcall hkey
    rcases List.mem_append.mp (horder.mem_iff.mp hcall) with hupdate | hother
    · obtain ⟨u, hu, rfl⟩ := List.mem_map.mp hupdate
      exact ⟨u, hu, rfl⟩
    · exact absurd (hkey.symm.trans (hothers call hother)) (by simp)
  -- the first of the updates, and what comes before and after it
  obtain ⟨first, hfirst⟩ : ∃ first, calls.find? (Call.isAbout key) = some first := by
    obtain ⟨u, hu⟩ := List.exists_mem_of_ne_nil updates hsome
    have hcall : Call.put key u.1 u.2 ∈ calls :=
      horder.mem_iff.mpr (List.mem_append_left _ (List.mem_map.mpr ⟨u, hu, rfl⟩))
    exact Option.isSome_iff_exists.mp (List.find?_isSome.mpr ⟨_, hcall, Call.isAbout_put _ _ _⟩)
  obtain ⟨hkey, before, after, rfl, hbefore⟩ := List.find?_eq_some_iff_append.mp hfirst
  obtain ⟨u, hu, rfl⟩ := hmem first (by simp) hkey
  have hquiet : ∀ call ∈ before, call.isAbout key = false := by simpa using hbefore
  -- what was there before the first update does not hold it up; what it sets holds up the others
  have hfresh : (s.performAll before).holds key u.1 = false := by
    rw [holds, get?_performAll_of_not_isAbout hquiet]
    exact hnew u hu
  have hset : ((s.performAll before).put key u.1 u.2).roster.get? key = some u.1 := by
    rw [roster_put, hfresh]
    exact Roster.get?_insert_self _ key u.1
  have hrepeats : Repeats u.1 key after := by
    intro call hcall hcallKey
    obtain ⟨v, hv, rfl⟩ := hmem call (by simp [hcall]) hcallKey
    exact ⟨v.1, v.2, rfl, hequal u hu v hv⟩
  obtain ⟨hanswers, hstays⟩ := hrepeats.answers hset
  have hafter : after.countP (Call.isAbout key) = updates.length - 1 := by
    have hnone : before.countP (Call.isAbout key) = 0 :=
      List.countP_eq_zero.mpr fun call hcall ↦ Bool.eq_false_iff.mp (hquiet call hcall)
    rw [List.countP_append, hnone, List.countP_cons_of_pos hkey] at hcount
    omega
  refine ⟨?_, ⟨u, hu, hfirst, ?_, fun v hv ↦ ⟨hequal u hu v hv, hequal v hv u hu⟩⟩,
    fun k _ ↦ get?_performAll_filter s k _⟩
  · rw [answers_append, answers_of_not_isAbout hquiet, List.nil_append, answers_put, hfresh,
      hanswers, hafter]
    rfl
  · rw [performAll_append]
    exact hstays

/-! ### One page, written in two ways -/

def pageKey : Key := ⟨"web", "x", "ingresses"⟩

/-- The page with some settings. -/
def page (ui : Yaml.Mapping) : Endpoint :=
  { name := "web", url := "https://web", interval := "1m", ui }

/-- The page comes twice, with a setting that is no number, and its settings in either order. -/
def pageUpdates : List (Endpoint × Write) :=
  [(page [(.str "rate", .float .nan), (.str "size", .int 1)], .now),
    (page [(.str "size", .int 1), (.str "rate", .float .nan)], .deferred)]

/-- What others ask for. -/
def meanwhile : List Call :=
  [.write, .put ⟨"db", "x", "services"⟩ { name := "db", url := "tcp://db", interval := "1m" } .now,
    .forget ⟨"web", "x", "services"⟩]

/-- All of it as it comes to the store, the later update first. -/
def arrivals : List Call :=
  [.write, .put pageKey (page [(.str "size", .int 1), (.str "rate", .float .nan)]) .deferred,
    .put ⟨"db", "x", "services"⟩ { name := "db", url := "tcp://db", interval := "1m" } .now,
    .put pageKey (page [(.str "rate", .float .nan), (.str "size", .int 1)]) .now,
    .forget ⟨"web", "x", "services"⟩]

/-- A page without settings is there at first, and the first of the two updates changes it. -/
theorem page_counts_once :
    arrivals.Perm (pageUpdates.map (fun u ↦ .put pageKey u.1 u.2) ++ meanwhile) ∧
    (∀ u ∈ pageUpdates, ∀ v ∈ pageUpdates, u.1.same v.1 = true) ∧
    (∀ u ∈ pageUpdates, ({ roster := [(pageKey, page [])] } : Store).holds pageKey u.1 = false) ∧
    ({ roster := [(pageKey, page [])] } : Store).answers pageKey arrivals = [true, false] := by
  have horder : arrivals.Perm (pageUpdates.map (fun u ↦ .put pageKey u.1 u.2) ++ meanwhile) :=
    (@List.perm_middle _ _ (arrivals.take 3) _).trans (.cons _ (.swap _ _ _))
  have hequal : ∀ u ∈ pageUpdates, ∀ v ∈ pageUpdates, u.1.same v.1 = true := by decide
  have hothers : ∀ call ∈ meanwhile, call.isAbout pageKey = false := by decide
  have hnew : ∀ u ∈ pageUpdates,
      ({ roster := [(pageKey, page [])] } : Store).holds pageKey u.1 = false := by decide
  exact ⟨horder, hequal, hnew,
    (equal_updates_count_once horder (List.cons_ne_nil _ _) hequal hothers hnew).1⟩

end Store

end EndpointSync
