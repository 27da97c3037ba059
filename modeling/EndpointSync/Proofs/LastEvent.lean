import EndpointSync.Proofs.Entries
import EndpointSync.Proofs.Sameness
import EndpointSync.Rules.OfKind
import Mathlib.Data.List.Induction

/-!
# The last event that counts wins

Controllers of all kinds share one store, and the changes that they are told of reach it in any
order. What stands under a key in the end is nevertheless decided by one event: the last one of that
key that was not passed over.

## Passing over and settling

An event either settles the entry of its key or is passed over. It settles that there is none if the
object is gone, out of scope or switched off; it settles that there is an endpoint, and which one,
if nothing is wrong with the object. It is passed over if the object does not read, has no URL or
has a template that does not read. `Event.Settles` and `Event.Skipped` list the cases, and
`Event.skipped_iff` says that there are no others.

## The invariant

What stands under a key is *the same* as what was settled last, not equal to it: an endpoint that is
the same as the one that is there is not put in its place. That it can be no more than one
comparison away is the invariant of the induction. The comparison is made with the endpoint that
stays, so it never takes a chain of them.
-/

namespace EndpointSync

open Cluster (Change Object Server)

/-! ## Objects keep their metadata when they are read -/

/-- The key of an object can be told before it is read. -/
theorem Kind.metadata_of_decode {k : Kind} {o : Object} {obj : k.Form}
    (h : k.rules.decode o = some obj) : k.rules.metadata obj = o.metadata := by
  cases k with
  | httpRoute =>
    obtain ⟨spec, -, hspec⟩ := Option.bind_eq_some_iff.mp h
    simp only [Cluster.HttpRoute.ofSpec?, Option.bind_eq_bind] at hspec
    split at hspec
    · exact absurd hspec (by simp)
    · simp only [Option.bind_eq_some_iff] at hspec
      obtain ⟨_, -, _, -, hroute⟩ := hspec
      exact (Option.some.inj hroute) ▸ rfl
  | ingress =>
    have hread : Cluster.Ingress.ofObject? o = some obj := h
    rw [Cluster.Ingress.ofObject?] at hread
    split at hread
    · exact (Option.some.inj hread) ▸ rfl
    · exact absurd hread (by simp)
  | service =>
    have hread : Cluster.Service.ofObject? o = some obj := h
    rw [Cluster.Service.ofObject?] at hread
    split at hread
    · exact (Option.some.inj hread) ▸ rfl
    · exact absurd hread (by simp)
  | ingressRoute => exact (Option.some.inj h) ▸ rfl

/-- The object that is there after a change. -/
def Cluster.Change.present? : Change → Option Object
  | .added o => some o
  | .modified o => some o
  | .deleted _ => none

/-! ## Events -/

/-- A change that a controller of a kind is told of. Nothing is asked of the controllers: each event
comes with the configuration of its own, and with the cluster in which it looks parents up. -/
structure Event where
  kind : Kind
  config : Config
  server : Option Server
  change : Change
  write : Write

namespace Event

/-- The controller that is told of the event. -/
def controller (e : Event) : Controller e.kind.Form := ⟨e.kind.rules, e.config, e.server⟩

def key (e : Event) : Key := e.controller.key e.change.object

def step (s : Store) (e : Event) : Store := (e.controller.handle s e.change e.write).store

/-- The store after events of any controllers. -/
def replay (s : Store) (events : List Event) : Store := events.foldl step s

def ruling (e : Event) : Roster.Ruling := e.controller.ruling e.change

theorem replay_append_singleton (s : Store) (events : List Event) (e : Event) :
    replay s (events ++ [e]) = step (replay s events) e := by
  rw [replay, replay, List.foldl_append, List.foldl_cons, List.foldl_nil]

theorem roster_step (s : Store) (e : Event) :
    (step s e).roster = s.roster.settle e.ruling :=
  e.controller.roster_handle s e.change e.write

/-! ## What an event says -/

/-- An object is there after the event, and it reads as `obj`. -/
def Shows (e : Event) (obj : e.kind.Form) : Prop :=
  ∃ o, e.change.present? = some o ∧ e.kind.rules.decode o = some obj

/-- An object is there after the event, but it does not read. -/
def Garbled (e : Event) : Prop := ∃ o, e.change.present? = some o ∧ e.kind.rules.decode o = none

/-- The annotations that an object has inherited by the time the event is dealt with. -/
def inherited (e : Event) (obj : e.kind.Form) : Annotations :=
  (e.kind.rules.inherited e.server obj).annotations.getD []

/-- The annotations of an object itself. -/
def own (e : Event) (obj : e.kind.Form) : Annotations := (e.kind.rules.metadata obj).annotations

/-- The object is in scope and has a URL, so that its annotations have a say; and what is known of
its parent is known. -/
structure Weighs (e : Event) (obj : e.kind.Form) (url : String) : Prop where
  shows : e.Shows obj
  inScope : e.kind.rules.shouldProcess e.config obj = true
  url_eq : e.kind.rules.url? obj = some url
  answered : (e.kind.rules.inherited e.server obj).isPending = false

/-- The annotation that switches monitoring, the object's own if it has it and else the inherited
one, is there and says neither of the two words for yes. -/
def Disabled (e : Event) (obj : e.kind.Form) : Prop :=
  ∃ value, ((e.own obj).lookup e.config.enabledKey).or
      ((e.inherited obj).lookup e.config.enabledKey) = some value ∧
    value ≠ "true" ∧ value ≠ "1"

/-- The template of the object over the inherited one, if both read. -/
def template (e : Event) (obj : e.kind.Form) : Except Template.Invalid (Option Template) :=
  Rules.templateOf e.config (e.inherited obj) (e.own obj)

/-- What the event settles about the entry of its key. -/
inductive Settles (e : Event) : Option Endpoint → Prop where
  | deleted : e.change.present? = none → e.Settles none
  | outOfScope {obj : e.kind.Form} : e.Shows obj →
      e.kind.rules.shouldProcess e.config obj = false → e.Settles none
  | disabled {obj : e.kind.Form} {url : String} : e.Weighs obj url → e.Disabled obj → e.Settles none
  | derived {obj : e.kind.Form} {url : String} {t : Option Template} : e.Weighs obj url →
      ¬e.Disabled obj → e.template obj = .ok t →
      e.Settles (some (e.kind.rules.endpointOf e.config obj url t))

/-- The event settles nothing. The last case is that of a parent about which no answer ever
comes. -/
inductive Skipped (e : Event) : Prop where
  | garbled : e.Garbled → e.Skipped
  | noUrl {obj : e.kind.Form} : e.Shows obj → e.kind.rules.shouldProcess e.config obj = true →
      e.kind.rules.url? obj = none → e.Skipped
  | noTemplate {obj : e.kind.Form} {url : String} {why : Template.Invalid} : e.Weighs obj url →
      ¬e.Disabled obj → e.template obj = .error why → e.Skipped
  | unanswered {obj : e.kind.Form} {url : String} : e.Shows obj →
      e.kind.rules.shouldProcess e.config obj = true → e.kind.rules.url? obj = some url →
      (e.kind.rules.inherited e.server obj).isPending = true → e.Skipped

/-! ## What is settled is the ruling -/

variable {e : Event} {obj : e.kind.Form} {url : String}

private theorem ruling_of_deleted (h : e.change.present? = none) :
    e.ruling = some (e.key, .drop) := by
  rw [ruling, key]
  cases hc : e.change with
  | added o => rw [hc] at h; exact absurd h (by simp [Change.present?])
  | modified o => rw [hc] at h; exact absurd h (by simp [Change.present?])
  | deleted o => rfl

theorem ruling_of_present {o : Object} (h : e.change.present? = some o) :
    e.ruling = (e.kind.rules.decode o).bind e.controller.rulingOn := by
  rw [ruling]
  cases hc : e.change with
  | added o' =>
    rw [hc] at h
    rw [← Option.some.inj h]
    rfl
  | modified o' =>
    rw [hc] at h
    rw [← Option.some.inj h]
    rfl
  | deleted o' => rw [hc] at h; exact absurd h (by simp [Change.present?])

theorem object_of_present {o : Object} (h : e.change.present? = some o) : e.change.object = o := by
  cases hc : e.change with
  | added o' => rw [hc] at h; exact Option.some.inj h
  | modified o' => rw [hc] at h; exact Option.some.inj h
  | deleted o' => rw [hc] at h; exact absurd h (by simp [Change.present?])

theorem Garbled.ruling (h : e.Garbled) : e.ruling = none := by
  obtain ⟨o, hpresent, hnone⟩ := h
  rw [ruling_of_present hpresent, hnone, Option.bind_none]

theorem Shows.ruling (h : e.Shows obj) : e.ruling = e.controller.rulingOn obj := by
  obtain ⟨o, hpresent, hobj⟩ := h
  rw [ruling_of_present hpresent, hobj, Option.bind_some]

theorem Shows.keyOf (h : e.Shows obj) : e.controller.keyOf obj = e.key := by
  obtain ⟨o, hpresent, hobj⟩ := h
  have hmeta : e.kind.rules.metadata obj = o.metadata := Kind.metadata_of_decode hobj
  rw [key, object_of_present hpresent]
  exact congrArg e.kind.rules.keyOf hmeta

theorem disabled_iff : e.Disabled obj ↔
    (Rules.switch? e.config (e.inherited obj) (e.own obj)).all Rules.isTruthy = false := by
  rw [Disabled, Rules.switch?]
  cases ((e.own obj).lookup e.config.enabledKey).or
      ((e.inherited obj).lookup e.config.enabledKey) with
  | none => simp
  | some value => simp [Rules.isTruthy]

theorem Weighs.ruling (h : e.Weighs obj url) : e.ruling = some (e.key,
    e.kind.rules.judgeWith e.config obj url (e.inherited obj)) := by
  rw [h.shows.ruling, e.controller.rulingOn_of_answered h.inScope h.url_eq h.answered,
    h.shows.keyOf]
  rfl

/-- The verdict that settles an entry. -/
def verdictOf : Option Endpoint → Verdict
  | none => .drop
  | some ep => .endpoint ep

theorem Settles.ruling {entry : Option Endpoint} (h : e.Settles entry) :
    e.ruling = some (e.key, verdictOf entry) := by
  cases h with
  | deleted h => exact ruling_of_deleted h
  | outOfScope hshows hscope =>
    rw [hshows.ruling, e.controller.rulingOn_of_outOfScope hscope, hshows.keyOf]
    rfl
  | disabled hweighs hdisabled =>
    have hswitch := disabled_iff.mp hdisabled
    rw [hweighs.ruling, Rules.judgeWith, ← own, if_neg (Bool.eq_false_iff.mp hswitch)]
    rfl
  | derived hweighs hdisabled htemplate =>
    have hswitch := (not_congr disabled_iff).mp hdisabled
    rw [hweighs.ruling, Rules.judgeWith, ← own, if_pos (Bool.of_not_eq_false hswitch), ← template,
      htemplate]
    rfl

theorem Skipped.ruling (h : e.Skipped) : e.ruling = none ∨ e.ruling = some (e.key, .noUrl) ∨
    ∃ why, e.ruling = some (e.key, .invalid why) := by
  cases h with
  | garbled h => exact Or.inl h.ruling
  | noUrl hshows hscope hurl =>
    right; left
    rw [hshows.ruling, e.controller.rulingOn_of_noUrl hscope hurl, hshows.keyOf]
  | @noTemplate _ _ why hweighs hdisabled htemplate =>
    have hswitch := (not_congr disabled_iff).mp hdisabled
    refine Or.inr (Or.inr ⟨why, ?_⟩)
    rw [hweighs.ruling, Rules.judgeWith, ← own, if_pos (Bool.of_not_eq_false hswitch), ← template,
      htemplate]
  | unanswered hshows hscope hurl hpending =>
    left
    rw [hshows.ruling, e.controller.rulingOn_of_pending hscope hurl hpending]

/-- There are no other cases. -/
theorem skipped_or_settles (e : Event) : e.Skipped ∨ ∃ entry, e.Settles entry := by
  cases hpresent : e.change.present? with
  | none => exact Or.inr ⟨none, .deleted hpresent⟩
  | some o =>
    cases hobj : e.kind.rules.decode o with
    | none => exact Or.inl (.garbled ⟨o, hpresent, hobj⟩)
    | some obj =>
      have hshows : e.Shows obj := ⟨o, hpresent, hobj⟩
      cases hscope : e.kind.rules.shouldProcess e.config obj with
      | false => exact Or.inr ⟨none, .outOfScope hshows hscope⟩
      | true =>
        cases hurl : e.kind.rules.url? obj with
        | none => exact Or.inl (.noUrl hshows hscope hurl)
        | some url =>
          cases hpending : (e.kind.rules.inherited e.server obj).isPending with
          | true => exact Or.inl (.unanswered hshows hscope hurl hpending)
          | false =>
            have hweighs : e.Weighs obj url := ⟨hshows, hscope, hurl, hpending⟩
            by_cases hdisabled : e.Disabled obj
            · exact Or.inr ⟨none, .disabled hweighs hdisabled⟩
            · cases htemplate : e.template obj with
              | error why => exact Or.inl (.noTemplate hweighs hdisabled htemplate)
              | ok t => exact Or.inr ⟨_, .derived hweighs hdisabled htemplate⟩

theorem Settles.not_skipped {entry : Option Endpoint} (h : e.Settles entry) : ¬e.Skipped := by
  intro hskipped
  have hverdict : verdictOf entry ≠ .noUrl ∧ ∀ why, verdictOf entry ≠ .invalid why := by
    cases entry <;> simp [verdictOf]
  rcases hskipped.ruling with hnone | hnoUrl | ⟨why, hinvalid⟩
  · rw [h.ruling] at hnone
    exact absurd hnone (by simp)
  · rw [h.ruling] at hnoUrl
    exact hverdict.1 (congrArg Prod.snd (Option.some.inj hnoUrl))
  · rw [h.ruling] at hinvalid
    exact hverdict.2 why (congrArg Prod.snd (Option.some.inj hinvalid))

theorem skipped_iff (e : Event) : e.Skipped ↔ ¬∃ entry, e.Settles entry := by
  refine ⟨fun hskipped ⟨_, h⟩ ↦ h.not_skipped hskipped, fun h ↦ ?_⟩
  exact (e.skipped_or_settles).resolve_right h

/-! ## One event -/

theorem roster_step_of_skipped (s : Store) (h : e.Skipped) : (step s e).roster = s.roster := by
  rw [roster_step]
  rcases h.ruling with hnone | hnoUrl | ⟨why, hinvalid⟩
  · rw [hnone, Roster.settle_none]
  · rw [hnoUrl]
    rfl
  · rw [hinvalid]
    rfl

theorem get?_step_of_ne (s : Store) {k : Key} (h : e.key ≠ k) :
    (step s e).roster.get? k = s.roster.get? k := by
  rcases e.skipped_or_settles with hskipped | ⟨entry, hsettles⟩
  · rw [roster_step_of_skipped s hskipped]
  · rw [roster_step, hsettles.ruling, Roster.get?_settle_of_ne h]

/-- Two entries are the same: neither is there, or both are and nothing tells them apart. -/
abbrev SameEntry : Option Endpoint → Option Endpoint → Prop :=
  Option.Rel fun stored settled ↦ stored.same settled = true

/-- What an event settles is what stands under its key after it. -/
theorem sameEntry_step (s : Store) {entry : Option Endpoint} (h : e.Settles entry) :
    SameEntry ((step s e).roster.get? e.key) entry := by
  rw [roster_step, h.ruling]
  cases entry with
  | none =>
    rw [verdictOf, Roster.settle, Roster.get?_erase_self]
    exact .none
  | some ep =>
    rw [verdictOf, Roster.settle]
    cases hold : s.roster.get? e.key with
    | none =>
      rw [if_neg (by simp), Roster.get?_insert_self]
      exact .some ep.same_refl
    | some old =>
      by_cases hsame : old.same ep = true
      · -- the old endpoint stays, and it has just been compared with the new one
        rw [if_pos (by simpa using hsame), hold]
        exact .some hsame
      · rw [if_neg (by simpa using hsame), Roster.get?_insert_self]
        exact .some ep.same_refl

/-! ## All events -/

/-- `e` is the last of some events of a key that is not passed over. -/
def IsLast (e : Event) (k : Key) (events : List Event) : Prop :=
  ∃ before after, events = before ++ e :: after ∧ e.key = k ∧ ¬e.Skipped ∧
    ∀ f ∈ after, f.key = k → f.Skipped

theorem isLast_append_singleton (events : List Event) {k : Key} (hkey : e.key = k)
    (h : ¬e.Skipped) : e.IsLast k (events ++ [e]) :=
  ⟨events, [], rfl, hkey, h, by simp⟩

theorem IsLast.append {k : Key} {events later : List Event} (h : e.IsLast k events)
    (hlater : ∀ f ∈ later, f.key = k → f.Skipped) : e.IsLast k (events ++ later) := by
  obtain ⟨before, after, rfl, hkey, hsettles, hafter⟩ := h
  refine ⟨before, after ++ later, by simp, hkey, hsettles, fun f hf hfkey ↦ ?_⟩
  rcases List.mem_append.mp hf with hearlier | hlate
  · exact hafter f hearlier hfkey
  · exact hlater f hlate hfkey

theorem IsLast.append_singleton {k : Key} {events : List Event} {f : Event} (h : e.IsLast k events)
    (hf : f.key = k → f.Skipped) : e.IsLast k (events ++ [f]) := by
  refine h.append fun g hg hgkey ↦ ?_
  rw [List.mem_singleton.mp hg] at hgkey ⊢
  exact hf hgkey

theorem get?_replay (s : Store) (k : Key) (events : List Event) :
    (∃ (e : Event) (entry : Option Endpoint), e.IsLast k events ∧ e.Settles entry ∧
        SameEntry ((replay s events).roster.get? k) entry) ∨
      ((∀ e ∈ events, e.key = k → e.Skipped) ∧
        (replay s events).roster.get? k = s.roster.get? k) := by
  induction events using List.reverseRecOn with
  | nil => exact Or.inr ⟨by simp, rfl⟩
  | append_singleton events f ih =>
    rw [replay_append_singleton]
    by_cases hf : f.key = k → f.Skipped
    · -- the last event says nothing about this key, so all is as it was before it
      have hsame : (step (replay s events) f).roster.get? k = (replay s events).roster.get? k := by
        by_cases hkey : f.key = k
        · rw [roster_step_of_skipped _ (hf hkey)]
        · exact get?_step_of_ne _ hkey
      rw [hsame]
      rcases ih with ⟨e, entry, hlast, hsettles, hentry⟩ | ⟨hskipped, hentry⟩
      · exact Or.inl ⟨e, entry, hlast.append_singleton hf, hsettles, hentry⟩
      · refine Or.inr ⟨fun g hg hgkey ↦ ?_, hentry⟩
        rcases List.mem_append.mp hg with hg | hg
        · exact hskipped g hg hgkey
        · rw [List.mem_singleton.mp hg] at hgkey ⊢
          exact hf hgkey
    · -- the last event is the one that counts
      obtain ⟨hkey, hcounts⟩ := Classical.not_imp.mp hf
      obtain ⟨entry, hsettles⟩ := (f.skipped_or_settles).resolve_left hcounts
      refine Or.inl ⟨f, entry, isLast_append_singleton events hkey hcounts, hsettles, ?_⟩
      rw [← hkey]
      exact sameEntry_step _ hsettles

/-- **The last event that counts wins.** Whatever events of whatever controllers reach a store
without entries, what stands under a key is what the last event of that key settled that was not
passed over; and if there is no such event, nothing stands there. The events that are passed over
are just those that settle nothing. -/
theorem last_settled_wins (disk : Disk) (history : List Happening) (k : Key) (events : List Event) :
    ((∃ (e : Event) (entry : Option Endpoint), e.IsLast k events ∧ e.Settles entry ∧
        SameEntry ((replay { disk, history } events).roster.get? k) entry) ∨
      ((∀ e ∈ events, e.key = k → e.Skipped) ∧
        (replay { disk, history } events).roster.get? k = none)) ∧
    ∀ e : Event, e.Skipped ↔ ¬∃ entry, e.Settles entry := by
  refine ⟨?_, skipped_iff⟩
  rcases get?_replay { disk, history } k events with h | ⟨hskipped, hentry⟩
  · exact Or.inl h
  · exact Or.inr ⟨hskipped, hentry.trans (Roster.get?_nil k)⟩

end Event

end EndpointSync
