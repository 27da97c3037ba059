import EndpointSync.Proofs.Blocking

/-!
# Routes and the gateway that they are attached to

Where a gateway is configured, only the routes that are attached to it are to be monitored. The
references of a route say what it is attached to, and not all of them need be to gateways: a route
of a service mesh refers to a service. The filter goes by the name in a reference and does not look
at the kind, while the lookup of what a route inherits does. So a route gets through that refers to
something else of the gateway's name, and to no gateway of that name.

Apart from that the filter keeps its promise. What stands under the key of a route comes from the
last event of the key that counts, so one event is enough to look at: a route none of whose
references has the name is dropped by the event that shows it, whatever is stored.
-/

namespace EndpointSync

open Cluster (HttpRoute)

/-! ## What a route refers to -/

namespace Cluster.HttpRoute

/-- Some reference of the route has this name, whatever it is to. -/
def Mentions (r : HttpRoute) (name : String) : Prop := ∃ p ∈ r.parents, p.name = name

/-- Some reference of the route is to a gateway of this name. -/
def AttachedTo (r : HttpRoute) (gateway : String) : Prop :=
  ∃ p ∈ r.parents, p.isGateway = true ∧ p.name = gateway

instance (r : HttpRoute) (name : String) : Decidable (r.Mentions name) :=
  inferInstanceAs (Decidable (∃ p ∈ r.parents, p.name = name))

instance (r : HttpRoute) (gateway : String) : Decidable (r.AttachedTo gateway) :=
  inferInstanceAs (Decidable (∃ p ∈ r.parents, p.isGateway = true ∧ p.name = gateway))

end Cluster.HttpRoute

/-- The filter goes by the names alone. -/
theorem Rules.HttpRoute.inScope_iff {r : Cluster.HttpRoute} {c : Config} {gateway : String}
    (h : c.gatewayName = some gateway) : inScope r c = true ↔ r.Mentions gateway := by
  rw [inScope, h, Option.all_some, List.any_eq_true]
  simp only [beq_iff_eq, Cluster.HttpRoute.Mentions]

/-- The plural under which routes are stored. -/
def routePlural : String := Kind.httpRoute.rules.resource.plural

namespace Event

variable {e : Event} {r : HttpRoute} {gateway : String} {k : Key} {events : List Event}

/-! ## Events about routes -/

/-- A route is there after the event, and it reads as `r`. -/
def ShowsRoute (e : Event) (r : HttpRoute) : Prop :=
  e.kind = .httpRoute ∧ ∃ o, e.change.present? = some o ∧ HttpRoute.ofObject? o = some r

/-- The event settles an endpoint for a route that has a reference of the gateway's name, but none
to a gateway of that name. -/
def Strays (e : Event) (gateway : String) : Prop :=
  ∃ (r : HttpRoute) (ep : Endpoint), e.ShowsRoute r ∧ r.Mentions gateway ∧
    ¬r.AttachedTo gateway ∧ e.Settles (some ep)

theorem ShowsRoute.unique {r' : HttpRoute} (h : e.ShowsRoute r) (h' : e.ShowsRoute r') :
    r = r' := by
  obtain ⟨-, o, hpresent, hread⟩ := h
  obtain ⟨-, o', hpresent', hread'⟩ := h'
  obtain rfl : o = o' := Option.some.inj (hpresent.symm.trans hpresent')
  exact Option.some.inj (hread.symm.trans hread')

theorem resource_key_iff : e.key.resource = routePlural ↔ e.kind = .httpRoute := by
  have hplural : ∀ kind : Kind, kind.rules.resource.plural = routePlural ↔ kind = .httpRoute := by
    intro kind
    cases kind <;> decide
  exact hplural e.kind

theorem Settles.exists_route {ep : Endpoint} (h : e.Settles (some ep)) (hkind : e.kind = .httpRoute)
    (hconfig : e.config.gatewayName = some gateway) :
    ∃ r, e.ShowsRoute r ∧ r.Mentions gateway := by
  obtain ⟨kind, config, server, change, write⟩ := e
  obtain rfl : kind = .httpRoute := hkind
  cases h with
  | @derived obj url t hweighs =>
    obtain ⟨o, hpresent, hread⟩ := hweighs.shows
    have hscope := (Bool.and_eq_true_iff.mp hweighs.inScope).1
    exact ⟨obj, ⟨rfl, o, hpresent, hread⟩, (Rules.HttpRoute.inScope_iff hconfig).mp hscope⟩

theorem ShowsRoute.settles_none (h : e.ShowsRoute r)
    (hconfig : e.config.gatewayName = some gateway) (hnot : ¬r.Mentions gateway) :
    e.Settles none := by
  obtain ⟨kind, config, server, change, write⟩ := e
  obtain ⟨hkind, o, hpresent, hread⟩ := h
  obtain rfl : kind = .httpRoute := hkind
  have hout : Rules.HttpRoute.inScope r config = false :=
    Bool.eq_false_iff.mpr (mt (Rules.HttpRoute.inScope_iff hconfig).mp hnot)
  have hprocess : Kind.httpRoute.rules.shouldProcess config r = false :=
    (congrArg (· && _) hout).trans (Bool.false_and _)
  exact .outOfScope ⟨o, hpresent, hread⟩ hprocess

/-- For a route that is not attached to the gateway, to settle an endpoint is to stray. -/
theorem ShowsRoute.strays_iff (h : e.ShowsRoute r) (hconfig : e.config.gatewayName = some gateway)
    (hnot : ¬r.AttachedTo gateway) : e.Strays gateway ↔ ∃ ep, e.Settles (some ep) := by
  constructor
  · rintro ⟨-, ep, -, -, -, hsettles⟩
    exact ⟨ep, hsettles⟩
  · rintro ⟨ep, hsettles⟩
    obtain ⟨r', hshows, hmentions⟩ := hsettles.exists_route h.1 hconfig
    obtain rfl := h.unique hshows
    exact ⟨r, ep, h, hmentions, hnot, hsettles⟩

/-! ## What stands under a key -/

/-- After an event something stands under its key if and only if the event has settled an endpoint,
or has been passed over and there was something before. -/
theorem get?_step_ne_none_iff (s : Store) : (step s e).roster.get? e.key ≠ none ↔
    (∃ ep, e.Settles (some ep)) ∨ (e.Skipped ∧ s.roster.get? e.key ≠ none) := by
  rcases e.skipped_or_settles with hskipped | ⟨entry, hsettles⟩
  · have hnothing : ¬∃ ep, e.Settles (some ep) := fun ⟨_, hsettles⟩ ↦ hsettles.not_skipped hskipped
    rw [roster_step_of_skipped s hskipped, or_iff_right hnothing, and_iff_right hskipped]
  · have hentry := sameEntry_step s hsettles
    generalize (step s e).roster.get? e.key = found at hentry ⊢
    cases hentry with
    | some hsame => exact iff_of_true (by simp) (.inl ⟨_, hsettles⟩)
    | none =>
      refine iff_of_false (by simp) ?_
      rintro (⟨ep, hother⟩ | ⟨hskipped, -⟩)
      · exact absurd (hsettles.ruling.symm.trans hother.ruling) (by simp [verdictOf])
      · exact hsettles.not_skipped hskipped

private theorem IsLast.mem (h : e.IsLast k events) : e ∈ events := by
  obtain ⟨before, after, rfl, -⟩ := h
  exact List.mem_append_right _ List.mem_cons_self

theorem IsLast.unique {e' : Event} (h : e.IsLast k events) (h' : e'.IsLast k events) : e = e' := by
  obtain ⟨before, after, hevents, hkey, hcounts, hafter⟩ := h
  obtain ⟨before', after', hevents', hkey', hcounts', hafter'⟩ := h'
  rcases List.append_eq_append_iff.mp (hevents.symm.trans hevents') with
    ⟨between, -, hrest⟩ | ⟨between, -, hrest⟩
  · cases between with
    | nil => exact (List.cons.inj hrest).1
    | cons f between =>
      -- `e'` would come after `e` and count
      have hlater : e' ∈ after := by
        rw [(List.cons.inj hrest).2]
        exact List.mem_append_right _ List.mem_cons_self
      exact absurd (hafter e' hlater hkey') hcounts'
  · cases between with
    | nil => exact (List.cons.inj hrest).1.symm
    | cons f between =>
      have hlater : e ∈ after' := by
        rw [(List.cons.inj hrest).2]
        exact List.mem_append_right _ List.mem_cons_self
      exact absurd (hafter' e hlater hkey) hcounts

/-- The last event of a key that counts shows a route with a property. -/
def LastShows (k : Key) (events : List Event) (P : HttpRoute → Prop) : Prop :=
  ∃ (e : Event) (r : HttpRoute), e.IsLast k events ∧ e.ShowsRoute r ∧ P r

/-- **Which routes are monitored for a gateway.** Suppose that the controllers of routes are
configured with a gateway, and that any events reach a store without entries. Then the last event
that counts of every route with an endpoint shows it with a reference of the gateway's name. It
shows all of them with a reference to a gateway of that name if and only if the last event of no key
strays. A route that is not attached to the gateway has an endpoint after an event that shows it if
and only if the event strays, or is passed over and the route had one before; it has none if no
reference has the name. -/
theorem monitored_routes_attached_iff (disk : Disk) (history : List Happening)
    (hconfig : ∀ e ∈ events, e.kind = .httpRoute → e.config.gatewayName = some gateway) :
    (∀ k stored, k.resource = routePlural →
        (replay { disk, history } events).roster.get? k = some stored →
        LastShows k events fun r ↦ r.Mentions gateway) ∧
      ((∀ k stored, k.resource = routePlural →
          (replay { disk, history } events).roster.get? k = some stored →
          LastShows k events fun r ↦ r.AttachedTo gateway) ↔
        ∀ (k : Key) (e : Event), e.IsLast k events → ¬e.Strays gateway) ∧
      ∀ e ∈ events, ∀ r, e.ShowsRoute r → ¬r.AttachedTo gateway → ∀ s : Store,
        ((step s e).roster.get? e.key ≠ none ↔
            e.Strays gateway ∨ (e.Skipped ∧ s.roster.get? e.key ≠ none)) ∧
          (¬r.Mentions gateway → (step s e).roster.get? e.key = none) := by
  -- what the event has settled that is responsible for an endpoint of a route
  have hsource : ∀ k stored, k.resource = routePlural →
      (replay { disk, history } events).roster.get? k = some stored →
      ∃ (e : Event) (ep : Endpoint) (r : HttpRoute), e.IsLast k events ∧ e.Settles (some ep) ∧
        e.ShowsRoute r ∧ r.Mentions gateway := by
    intro k stored hresource hget
    obtain ⟨e, ep, hlast, hsettles, -⟩ := exists_settled_of_get? hget
    have hkind : e.kind = .httpRoute := by
      obtain ⟨-, -, -, rfl, -⟩ := hlast
      exact resource_key_iff.mp hresource
    obtain ⟨r, hshows, hmentions⟩ :=
      hsettles.exists_route hkind (hconfig e hlast.mem hkind)
    exact ⟨e, ep, r, hlast, hsettles, hshows, hmentions⟩
  refine ⟨?_, ⟨?_, ?_⟩, ?_⟩
  · intro k stored hresource hget
    obtain ⟨e, -, r, hlast, -, hshows, hmentions⟩ := hsource k stored hresource hget
    exact ⟨e, r, hlast, hshows, hmentions⟩
  · rintro hattached k e hlast ⟨r, ep, hshows, -, hnot, hsettles⟩
    obtain ⟨stored, hget, -⟩ := hlast.exists_stored hsettles { disk, history }
    have hresource : k.resource = routePlural := by
      obtain ⟨-, -, -, rfl, -⟩ := hlast
      exact resource_key_iff.mpr hshows.1
    obtain ⟨e', r', hlast', hshows', hattached'⟩ := hattached k stored hresource hget
    obtain rfl := hlast.unique hlast'
    obtain rfl := hshows.unique hshows'
    exact hnot hattached'
  · intro hnone k stored hresource hget
    obtain ⟨e, ep, r, hlast, hsettles, hshows, hmentions⟩ := hsource k stored hresource hget
    by_contra hlost
    refine hnone k e hlast ⟨r, ep, hshows, hmentions, fun hattached ↦ hlost ?_, hsettles⟩
    exact ⟨e, r, hlast, hshows, hattached⟩
  · intro e he r hshows hnot s
    have hgateway := hconfig e he hshows.1
    refine ⟨?_, fun hname ↦ ?_⟩
    · rw [get?_step_ne_none_iff, hshows.strays_iff hgateway hnot]
    · have hsettles := hshows.settles_none hgateway hname
      rw [roster_step, hsettles.ruling, verdictOf, Roster.settle, Roster.get?_erase_self]

/-! ### A route of a service mesh -/

/-- A route that refers to a service by the name of the gateway, and to nothing else. -/
def meshObject : Cluster.Object where
  metadata := { name := some "api", namespaceName := some "apps" }
  data := .obj [("spec", .obj [
    ("parentRefs", .arr [
      .obj [("group", .str ""), ("kind", .str "Service"), ("name", .str "internal")]]),
    ("hostnames", .arr [.str "api.example.com"])])]

/-- It is reported to a controller that has a gateway configured. -/
def meshAdded : Event where
  kind := .httpRoute
  config := { gatewayName := some "internal" }
  server := none
  change := .added meshObject
  write := .now

def meshRoute : HttpRoute where
  metadata := meshObject.metadata
  parentRefs := some [{ group := some "", kind := some "Service", name := "internal" }]
  hostnames := some ["api.example.com"]

/-- The route is attached to no gateway and gets an endpoint all the same. -/
theorem meshAdded_strays :
    (∀ e ∈ [meshAdded], e.kind = .httpRoute → e.config.gatewayName = some "internal") ∧
      meshAdded.IsLast meshAdded.key [meshAdded] ∧ meshAdded.ShowsRoute meshRoute ∧
      ¬meshRoute.AttachedTo "internal" ∧ meshAdded.Strays "internal" ∧
      (replay {} [meshAdded]).roster.get? meshAdded.key ≠ none := by
  have hconfig : ∀ e ∈ [meshAdded],
      e.kind = .httpRoute → e.config.gatewayName = some "internal" := by simp [meshAdded]
  have hshows : meshAdded.Shows meshRoute := ⟨meshObject, rfl, by rfl⟩
  have hroute : meshAdded.ShowsRoute meshRoute := ⟨rfl, hshows⟩
  have hweighs : meshAdded.Weighs meshRoute "https://api.example.com" :=
    ⟨hshows, by decide +kernel, by decide +kernel, by decide +kernel⟩
  have henabled : ¬meshAdded.Disabled meshRoute := (not_congr disabled_iff).mpr (by decide +kernel)
  have hsettles := Settles.derived (t := none) hweighs henabled rfl
  have hnot : ¬meshRoute.AttachedTo "internal" := by decide
  have hstrays : meshAdded.Strays "internal" := ⟨_, _, hroute, by decide, hnot, hsettles⟩
  refine ⟨hconfig, isLast_append_singleton [] rfl hsettles.not_skipped, hroute, hnot, hstrays, ?_⟩
  have hone : replay {} [meshAdded] = step {} meshAdded := replay_append_singleton {} [] meshAdded
  have hmonitored := (monitored_routes_attached_iff {} [] hconfig).2.2 meshAdded
    List.mem_cons_self meshRoute hroute hnot {}
  rw [hone]
  exact hmonitored.1.mpr (.inl hstrays)

end Event

end EndpointSync
