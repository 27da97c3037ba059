import EndpointSync.Proofs.Calls
import EndpointSync.Proofs.RosterOrder
import EndpointSync.Proofs.WellFormed

/-!
# What keeps the output file from being written

The roster is written as a whole, and it is not asked beforehand whether an endpoint can be written.
One that cannot is accepted like any other, and from then on no write succeeds, whichever endpoint
it is for. That lasts until an event of the same object puts something else in its place.

The last event of each key tells whether this is so, since the endpoint in the roster is the same as
the one that was settled last. That they are the same is enough in both directions only because no
endpoint has colliding keys, which is where it matters that all of them were put together from
values that were read.
-/

namespace EndpointSync

/-! ## Writing what cannot be written -/

private theorem Store.disk_write_of_unrenderable {s : Store} (h : s.roster.render? = none) :
    s.write.disk = s.disk := by
  rw [write, written, h]
  rfl

theorem Call.disk_of_unrenderable {s : Store} {call : Call}
    (h : (call.perform s).roster.render? = none) : (call.perform s).disk = s.disk := by
  cases hwrites : call.writes s with
  | false => exact disk_of_not_writes hwrites
  | true =>
    obtain ⟨t, hperform, hdisk⟩ := exists_write_of_writes hwrites
    rw [hperform, Store.roster_write] at h
    rw [hperform, Store.disk_write_of_unrenderable h, hdisk]

/-! ## What a ruling brings into a roster -/

namespace Roster

private theorem mem_insert {r : Roster} {key : Key} {e : Endpoint} {x : Key × Endpoint}
    (h : x ∈ r.insert key e) : x ∈ r ∨ x = (key, e) := by
  induction r with
  | nil => exact .inr (List.mem_singleton.mp h)
  | cons entry rest ih =>
    obtain ⟨k, old⟩ := entry
    rw [insert] at h
    split at h
    next hkey =>
      rcases List.mem_cons.mp h with rfl | hrest
      · exact .inr (by rw [hkey])
      · exact .inl (List.mem_cons_of_mem _ hrest)
    · rcases List.mem_cons.mp h with rfl | hrest
      · exact .inl List.mem_cons_self
      · exact (ih hrest).imp (List.mem_cons_of_mem _) id

private theorem mem_settle {r : Roster} {ρ : Ruling} {x : Key × Endpoint} (h : x ∈ r.settle ρ) :
    x ∈ r ∨ ρ = some (x.1, .endpoint x.2) := by
  match ρ with
  | none => exact .inl h
  | some (_, .drop) => exact .inl (List.mem_of_mem_filter h)
  | some (_, .noUrl) => exact .inl h
  | some (_, .invalid _) => exact .inl h
  | some (key, .endpoint e) =>
    rw [settle] at h
    split at h
    · exact .inl h
    · rcases mem_insert h with hold | rfl
      · exact .inl hold
      · exact .inr rfl

end Roster

namespace Event

variable {e : Event} {k : Key}

private theorem settles_of_ruling {ep : Endpoint} (h : e.ruling = some (k, .endpoint ep)) :
    e.Settles (some ep) := by
  rcases e.skipped_or_settles with hskipped | ⟨entry, hsettles⟩
  · rcases hskipped.ruling with hnone | hnoUrl | ⟨why, hinvalid⟩
    · exact absurd (hnone.symm.trans h) (by simp)
    · exact absurd (hnoUrl.symm.trans h) (by simp)
    · exact absurd (hinvalid.symm.trans h) (by simp)
  · have hverdict := hsettles.ruling.symm.trans h
    cases entry with
    | none => exact absurd hverdict (by simp [verdictOf])
    | some settled =>
      rw [Option.some.injEq, Prod.mk.injEq, verdictOf, Verdict.endpoint.injEq] at hverdict
      exact hverdict.2 ▸ hsettles

theorem disk_step_of_unrenderable {s : Store} (h : (step s e).roster.render? = none) :
    (step s e).disk = s.disk := by
  have hagree : (step s e).Agree _ := e.controller.agree_handle s e.change e.write
  rw [hagree.roster] at h
  rw [hagree.disk]
  rcases Controller.callsOf_cases e.write (e.controller.ruling e.change) with hnone | ⟨call, hone⟩
  · rw [hnone]
    rfl
  · rw [hone] at h ⊢
    exact Call.disk_of_unrenderable h

/-! ## All events -/

theorem replay_append (s : Store) (before after : List Event) :
    replay s (before ++ after) = replay (replay s before) after := List.foldl_append

theorem roster_replay_singleton (s : Store) (e : Event) :
    (replay s [e]).roster = s.roster.settle e.ruling := roster_step s e

/-- What is true of the roster at the start and kept by each event is true of it in the end. -/
theorem replay_induction {P : Roster → Prop} {s : Store} (hstart : P s.roster) (events : List Event)
    (hstep : ∀ r, ∀ e ∈ events, P r → P (r.settle e.ruling)) :
    P (replay s events).roster := by
  induction events using List.reverseRecOn with
  | nil => exact hstart
  | append_singleton events e ih =>
    rw [replay_append_singleton, roster_step]
    refine hstep _ e (List.mem_append_right _ List.mem_cons_self) (ih fun r f hf ↦ ?_)
    exact hstep r f (List.mem_append_left _ hf)

theorem distinct_replay {s : Store} (h : s.roster.Distinct) (events : List Event) :
    (replay s events).roster.Distinct :=
  replay_induction h events fun _ e _ hr ↦ hr.settle e.ruling

theorem forall_stored {P : Endpoint → Prop} {s : Store} (h : ∀ x ∈ s.roster, P x.2)
    {events : List Event} (hsettled : ∀ e ∈ events, ∀ ep, e.Settles (some ep) → P ep) :
    ∀ x ∈ (replay s events).roster, P x.2 := by
  refine replay_induction (P := fun r ↦ ∀ x ∈ r, P x.2) h events fun r e he hr x hx ↦ ?_
  rcases Roster.mem_settle hx with hold | hruling
  · exact hr x hold
  · exact hsettled e he x.2 (settles_of_ruling hruling)

theorem wellFormed_replay {s : Store} (h : ∀ x ∈ s.roster, x.2.WellFormed)
    (events : List Event) : ∀ x ∈ (replay s events).roster, x.2.WellFormed :=
  forall_stored h fun _ _ _ hsettles ↦ hsettles.wellFormed

theorem get?_replay_of_skipped (s : Store) {events : List Event}
    (h : ∀ f ∈ events, f.key = k → f.Skipped) :
    (replay s events).roster.get? k = s.roster.get? k := by
  induction events generalizing s with
  | nil => rfl
  | cons f rest ih =>
    obtain ⟨hf, hrest⟩ := List.forall_mem_cons.mp h
    have hreplay : replay s (f :: rest) = replay (step s f) rest := rfl
    rw [hreplay, ih _ hrest]
    by_cases hkey : f.key = k
    · rw [roster_step_of_skipped s (hf hkey)]
    · exact get?_step_of_ne s hkey

theorem IsLast.sameEntry {events : List Event} {entry : Option Endpoint} (h : e.IsLast k events)
    (hsettles : e.Settles entry) (s : Store) :
    SameEntry ((replay s events).roster.get? k) entry := by
  obtain ⟨before, after, rfl, rfl, -, hafter⟩ := h
  have hreplay : replay s (before ++ e :: after)
      = replay (step (replay s before) e) after := replay_append s before (e :: after)
  rw [hreplay, get?_replay_of_skipped _ hafter]
  exact sameEntry_step _ hsettles

theorem IsLast.exists_stored {events : List Event} {ep : Endpoint} (h : e.IsLast k events)
    (hsettles : e.Settles (some ep)) (s : Store) :
    ∃ stored, (replay s events).roster.get? k = some stored ∧ stored.same ep = true := by
  have hentry := h.sameEntry hsettles s
  generalize (replay s events).roster.get? k = entry at hentry ⊢
  cases hentry with
  | some hsame => exact ⟨_, rfl, hsame⟩

theorem exists_settled_of_get? {disk : Disk} {history : List Happening} {events : List Event}
    {stored : Endpoint} (h : (replay { disk, history } events).roster.get? k = some stored) :
    ∃ (e : Event) (ep : Endpoint), e.IsLast k events ∧ e.Settles (some ep) ∧
      stored.same ep = true := by
  rcases get?_replay { disk, history } k events with
    ⟨e, entry, hlast, hsettles, hentry⟩ | ⟨-, hnone⟩
  · rw [h] at hentry
    cases hentry with
    | some hsame => exact ⟨e, _, hlast, hsettles, hsame⟩
  · rw [h, Roster.get?_nil] at hnone
    exact absurd hnone (by simp)

/-! ## Blocking -/

/-- The event settles that an endpoint stands under its key which cannot be written. -/
def Blocks (e : Event) : Prop := ∃ ep, e.Settles (some ep) ∧ ep.isWritable = false

/-- An endpoint that cannot be written keeps the whole roster from being written. -/
theorem IsLast.unrenderable {events : List Event} (h : e.IsLast k events) (hblocks : e.Blocks)
    (disk : Disk) (history : List Happening) :
    (replay { disk, history } events).roster.render? = none := by
  obtain ⟨ep, hsettles, hunwritable⟩ := hblocks
  obtain ⟨stored, hget, hsame⟩ := h.exists_stored hsettles { disk, history }
  have hmem := Roster.mem_of_get? hget
  have hwell := wellFormed_replay (s := { disk, history }) (by simp) events _ hmem
  refine Option.not_isSome_iff_eq_none.mp fun hsome ↦ ?_
  have hwritable := Roster.render?_isSome_iff.mp hsome _ hmem
  rw [Endpoint.isWritable_of_same (Endpoint.same_symm hwell hsame) hwritable] at hunwritable
  exact absurd hunwritable (by simp)

theorem exists_blocks_of_unrenderable {disk : Disk} {history : List Happening}
    {events : List Event} (h : (replay { disk, history } events).roster.render? = none) :
    ∃ (k : Key) (e : Event), e.IsLast k events ∧ e.Blocks := by
  have hnot : ¬∀ x ∈ (replay { disk, history } events).roster, x.2.isWritable = true := by
    rw [← Roster.render?_isSome_iff, h]
    simp
  obtain ⟨⟨k, stored⟩, hx⟩ := not_forall.mp hnot
  obtain ⟨hmem, hunwritable⟩ := Classical.not_imp.mp hx
  have hget := (distinct_replay Roster.distinct_nil events).get?_of_mem hmem
  obtain ⟨e, ep, hlast, hsettles, hsame⟩ := exists_settled_of_get? hget
  refine ⟨k, e, hlast, ep, hsettles, Bool.eq_false_iff.mpr fun hwritable ↦ hunwritable ?_⟩
  exact Endpoint.isWritable_of_same hsame hwritable

/-- **When the output can be written.** Whatever events of whatever controllers reach a store
without entries, the roster cannot be rendered afterwards if and only if the last event of some key
that is not passed over settled an endpoint that cannot be written. As long as that stays the last
one of its key, no event of any other object changes the file. It never comes to this if every
template that was brought can be written by itself; then the next write puts all entries into the
file. -/
theorem output_blocked_iff (disk : Disk) (history : List Happening) (events : List Event) :
    ((replay { disk, history } events).roster.render? = none ↔
        ∃ (k : Key) (e : Event), e.IsLast k events ∧ e.Blocks) ∧
      (∀ (k : Key) (e : Event) (later : List Event), e.IsLast k events → e.Blocks →
        (∀ f ∈ later, f.key = k → f.Skipped) →
        (replay { disk, history } (events ++ later)).disk
          = (replay { disk, history } events).disk) ∧
      ((∀ e ∈ events, ∀ t, e.Brings t → (Yaml.Tree.map t).isWritable false = true) →
        ∃ text, (replay { disk, history } events).roster.render? = some text ∧
          ((replay { disk, history } events).disk.place = .free →
            (replay { disk, history } events).write.disk.contents = some text)) := by
  refine ⟨⟨exists_blocks_of_unrenderable, ?_⟩, ?_, ?_⟩
  · rintro ⟨k, e, hlast, hblocks⟩
    exact hlast.unrenderable hblocks disk history
  · intro k e later hlast hblocks hlater
    induction later using List.reverseRecOn with
    | nil => rw [List.append_nil]
    | append_singleton later f ih =>
      -- the endpoint is still there after this event, so this one has not written either
      have hstill := (hlast.append hlater).unrenderable hblocks disk history
      rw [← List.append_assoc, replay_append_singleton] at hstill ⊢
      rw [disk_step_of_unrenderable hstill]
      exact ih fun g hg ↦ hlater g (List.mem_append_left _ hg)
  · intro hbrings
    cases hrender : (replay { disk, history } events).roster.render? with
    | some text => exact ⟨text, rfl, fun hplace ↦ by rw [Store.disk_write hplace hrender]⟩
    | none =>
      obtain ⟨k, e, ⟨before, after, hevents, -⟩, ep, hsettles, hunwritable⟩ :=
        exists_blocks_of_unrenderable hrender
      have hmem : e ∈ events := hevents ▸ List.mem_append_right _ List.mem_cons_self
      rw [hsettles.isWritable (hbrings e hmem)] at hunwritable
      exact absurd hunwritable (by simp)

/-! ### A template that keeps another object out of the file -/

/-- A service with a port. -/
def serviceObject (name : String) (annotations : Annotations) : Cluster.Object where
  metadata := { name := some name, namespaceName := some "default", annotations }
  data := .obj [("spec", .obj [("ports", .arr [.obj [("port", .int 80)]])])]

/-- It is added, and services are monitored without being asked for. -/
def serviceAdded (name : String) (annotations : Annotations) : Event where
  kind := .service
  config := { autoService := true }
  server := none
  change := .added (serviceObject name annotations)
  write := .now

def serviceOf (name : String) (annotations : Annotations) :
    (serviceAdded name annotations).kind.Form :=
  (⟨(serviceObject name annotations).metadata, [⟨none, 80⟩]⟩ : Cluster.Service)

theorem shows_serviceAdded (name : String) (annotations : Annotations) :
    (serviceAdded name annotations).Shows (serviceOf name annotations) := by
  -- only the metadata depend on the name
  have hports : Cluster.Service.portsOf (serviceObject "" []).data = [⟨none, 80⟩] := by
    decide +kernel
  have hfits : Cluster.Service.shape.fits (serviceObject "" []).data = true := by
    decide +kernel
  have hread : Cluster.Service.ofObject? (serviceObject name annotations)
      = some (serviceOf name annotations) := by
    rw [Cluster.Service.ofObject?, serviceOf, ← hports]
    exact if_pos hfits
  exact ⟨_, rfl, hread⟩

/-- A service whose template has a mapping with a tagged key and no other. -/
def tangledAdded : Event :=
  serviceAdded "bad" [("gatus.home-operations.com/endpoint", "alerts: {!a b: c}")]

def tangled : tangledAdded.kind.Form :=
  serviceOf "bad" [("gatus.home-operations.com/endpoint", "alerts: {!a b: c}")]

private theorem template_tangledAdded : ∃ t, tangledAdded.template tangled = .ok t ∧
    (tangledAdded.kind.rules.endpointOf tangledAdded.config tangled "tcp://bad.default.svc:80"
      t).isWritable = false := by
  have hread : (tangledAdded.template tangled).toOption.any (fun t ↦
      !(tangledAdded.kind.rules.endpointOf tangledAdded.config tangled
        "tcp://bad.default.svc:80" t).isWritable) = true := by decide +kernel
  obtain ⟨t, htemplate, hwritable⟩ := Yaml.of_toOption_any hread
  exact ⟨t, htemplate, (Bool.not_eq_true' _).mp hwritable⟩

theorem blocks_tangledAdded : tangledAdded.Blocks := by
  have hweighs : tangledAdded.Weighs tangled "tcp://bad.default.svc:80" :=
    ⟨shows_serviceAdded _ _, by decide +kernel, by decide +kernel, by decide +kernel⟩
  have henabled : ¬tangledAdded.Disabled tangled := (not_congr disabled_iff).mpr (by decide +kernel)
  obtain ⟨t, htemplate, hwritable⟩ := template_tangledAdded
  exact ⟨_, .derived hweighs henabled htemplate, hwritable⟩

def plainAdded : Event := serviceAdded "web" []

private theorem settles_plainAdded : ∃ ep, plainAdded.Settles (some ep) := by
  have hweighs : plainAdded.Weighs (serviceOf "web" []) "tcp://web.default.svc:80" :=
    ⟨shows_serviceAdded _ _, by decide +kernel, by decide +kernel, by decide +kernel⟩
  have henabled : ¬plainAdded.Disabled (serviceOf "web" []) :=
    (not_congr disabled_iff).mpr (by decide +kernel)
  exact ⟨_, .derived hweighs henabled rfl⟩

/-- The template is accepted, and another service that comes later gets an endpoint. Neither of them
is ever written. -/
theorem tangled_template_blocks :
    tangledAdded.IsLast tangledAdded.key [tangledAdded] ∧ tangledAdded.Blocks ∧
      (replay {} [tangledAdded, plainAdded]).roster.render? = none ∧
      ((replay {} [tangledAdded, plainAdded]).roster.get? plainAdded.key).isSome = true ∧
      (replay {} [tangledAdded, plainAdded]).disk.contents = none := by
  obtain ⟨ep, hsettles, -⟩ := blocks_tangledAdded
  obtain ⟨plain, hplain⟩ := settles_plainAdded
  have hlast : tangledAdded.IsLast tangledAdded.key [tangledAdded] :=
    isLast_append_singleton [] rfl hsettles.not_skipped
  have hother : plainAdded.key ≠ tangledAdded.key := by decide +kernel
  have hlater : ∀ f ∈ [plainAdded], f.key = tangledAdded.key → f.Skipped := by
    intro f hf hkey
    rw [List.mem_singleton.mp hf] at hkey
    exact absurd hkey hother
  have hstill : tangledAdded.IsLast tangledAdded.key [tangledAdded, plainAdded] :=
    hlast.append hlater
  have hblocked := (output_blocked_iff {} [] [tangledAdded, plainAdded]).1.mpr
    ⟨tangledAdded.key, tangledAdded, hstill, blocks_tangledAdded⟩
  refine ⟨hlast, blocks_tangledAdded, hblocked, ?_, ?_⟩
  · have hlastPlain : plainAdded.IsLast plainAdded.key [tangledAdded, plainAdded] :=
      isLast_append_singleton [tangledAdded] rfl hplain.not_skipped
    have hentry := hlastPlain.sameEntry hplain {}
    generalize (replay {} [tangledAdded, plainAdded]).roster.get? plainAdded.key = entry at hentry ⊢
    cases hentry with
    | some hsame => rfl
  · have hkept := (output_blocked_iff {} [] [tangledAdded]).2.1 _ _ _ hlast blocks_tangledAdded
      hlater
    have hfirst := hlast.unrenderable blocks_tangledAdded {} []
    have hone : replay {} [tangledAdded] = step {} tangledAdded :=
      replay_append_singleton {} [] tangledAdded
    rw [List.singleton_append, hone] at hkept
    rw [hone] at hfirst
    rw [hkept, disk_step_of_unrenderable hfirst]

end Event

end EndpointSync
