import EndpointSync.Proofs.Attachment
import EndpointSync.Proofs.Traces

/-!
# Parents are looked up where the object says

While an event is dealt with, the cluster is asked for at most one object: the parent of the object
that the event shows. Which one that is, and that there is one at all, is said first (`LooksUp`),
kind by kind and without the rules of the kinds. Then what an event adds to the history is taken
apart. What a lookup leaves there comes first and says which object was asked for and what came of
it (`LookupTrace`); nothing that carries a verdict out looks like it.

A request that is not recorded would not show in the history. So it is also said that the store
after an event does not depend on what the cluster would answer to any other request.

The class of an ingress has three uses: an ingress can be out of scope by it, it can be the group of
an endpoint, and it is the parent. All three go by the same name (`NamesClass`).
-/

namespace EndpointSync

open Cluster (Change HttpRoute Ingress Object ParentReference Server)

namespace Happening

/-- The object that was asked for. -/
def request? : Happening → Option Request
  | .requested r => some r
  | _ => none

def isOfLookup : Happening → Bool
  | .requested _ => true
  | .noticed (.parentMissing _) => true
  | .noticed (.parentUnavailable _) => true
  | _ => false

private theorem request?_of_not_isOfLookup {x : Happening} (h : x.isOfLookup = false) :
    x.request? = none := by
  cases x with
  | requested r => exact absurd h (by simp [isOfLookup])
  | noticed n => rfl
  | polled p => rfl
  | released => rfl

theorem filter_eq_nil {xs : List Happening} (h : ∀ x ∈ xs, x.isOfLookup = false) :
    xs.filter isOfLookup = [] :=
  List.filter_eq_nil_iff.mpr fun x hx ↦ Bool.eq_false_iff.mp (h x hx)

private theorem filterMap_eq_nil {xs : List Happening} (h : ∀ x ∈ xs, x.isOfLookup = false) :
    xs.filterMap request? = [] :=
  List.filterMap_eq_nil_iff.mpr fun x hx ↦ request?_of_not_isOfLookup (h x hx)

end Happening

/-! ## One lookup -/

/-- What one lookup of a parent leaves in the history. A lookup fails without a request if the name
of the parent makes none. -/
inductive LookupTrace (server : Server) (p : ParentRef) : List Happening → Prop where
  | unaskable : Request.ofObject? p.resource p.namespaceName p.name = none →
      LookupTrace server p [.noticed (.parentUnavailable (Rules.parentName p))]
  | found {request : Request} {o : Object} :
      Request.ofObject? p.resource p.namespaceName p.name = some request →
      (server request).lookup = .found o → LookupTrace server p [.requested request]
  | missing {request : Request} :
      Request.ofObject? p.resource p.namespaceName p.name = some request →
      (server request).lookup = .missing →
      LookupTrace server p [.requested request, .noticed (.parentMissing (Rules.parentName p))]
  | failed {request : Request} :
      Request.ofObject? p.resource p.namespaceName p.name = some request →
      (server request).lookup = .failed →
      LookupTrace server p [.requested request, .noticed (.parentUnavailable (Rules.parentName p))]
  | pending {request : Request} :
      Request.ofObject? p.resource p.namespaceName p.name = some request →
      (server request).lookup = .pending → LookupTrace server p [.requested request]

namespace LookupTrace

variable {server : Server} {p : ParentRef} {trace : List Happening}

theorem requests (h : LookupTrace server p trace) : trace.filterMap Happening.request?
    = (Request.ofObject? p.resource p.namespaceName p.name).toList := by
  cases h with
  | unaskable hnone => rw [hnone]; rfl
  | found hrequest => rw [hrequest]; rfl
  | missing hrequest => rw [hrequest]; rfl
  | failed hrequest => rw [hrequest]; rfl
  | pending hrequest => rw [hrequest]; rfl

theorem filter_eq_self (h : LookupTrace server p trace) :
    trace.filter Happening.isOfLookup = trace := by
  cases h <;> rfl

end LookupTrace

namespace Rules

variable {κ : Type} {r : Rules κ} {c : Config} {obj : κ} {p : ParentRef} {server server' : Server}

/-- The object is to be monitored and has a URL. -/
def Monitors (r : Rules κ) (c : Config) (obj : κ) : Prop :=
  r.shouldProcess c obj = true ∧ ∃ url, r.url? obj = some url

theorem monitors_iff : r.Monitors c obj ↔ ∃ url, r.screen c obj = .ok url := by
  rw [Monitors, screen]
  cases r.shouldProcess c obj with
  | false => simp
  | true =>
    cases r.url? obj with
    | none => simp
    | some url => simp

private theorem lookupTrace_inherited (h : r.parent? obj = some p) :
    LookupTrace server p (r.inherited (some server) obj).happenings := by
  rw [inherited.eq_def, h]
  cases hrequest : Request.ofObject? p.resource p.namespaceName p.name with
  | none =>
    simp only [lookUp, hrequest]
    exact .unaskable hrequest
  | some request =>
    simp only [lookUp, hrequest]
    cases hanswer : (server request).lookup with
    | found o => exact .found hrequest hanswer
    | missing => exact .missing hrequest hanswer
    | failed => exact .failed hrequest hanswer
    | pending => exact .pending hrequest hanswer

theorem inherited_of_parent?_eq_none (h : r.parent? obj = none) (server : Option Server) :
    r.inherited server obj = {} := by
  rw [inherited.eq_def, h]

/-- What an object inherits depends only on what the cluster answers about its parent. -/
theorem inherited_congr (h : ∀ p, r.parent? obj = some p →
      ∀ request ∈ Request.ofObject? p.resource p.namespaceName p.name,
        server' request = server request) :
    r.inherited (some server') obj = r.inherited (some server) obj := by
  cases hparent : r.parent? obj with
  | none => rw [inherited_of_parent?_eq_none hparent, inherited_of_parent?_eq_none hparent]
  | some p =>
    have hlookup : lookUp server' p = lookUp server p := by
      rw [lookUp, lookUp]
      cases hrequest : Request.ofObject? p.resource p.namespaceName p.name with
      | none => rfl
      | some request =>
        dsimp only
        rw [h p hparent request hrequest]
    rw [inherited.eq_def, inherited.eq_def, hparent]
    simp only [hlookup]

end Rules

/-! ## Verdicts ask for nothing -/

namespace Store

/-- Nothing of what is new in the second store belongs to a lookup. -/
abbrev AsksNothing : Store → Store → Prop := Adds fun x ↦ x.isOfLookup = false

theorem asksNothing_write (s : Store) : AsksNothing s s.write := by
  rw [write]
  split
  · exact adds_note _ rfl
  · exact adds_note _ rfl

theorem asksNothing_put (s : Store) (key : Key) (e : Endpoint) (w : Write) :
    AsksNothing s (s.put key e w) := by
  rw [put]
  split
  · exact .of_eq rfl
  · have hchanging : AsksNothing s
        { s.note (.endpointChanging key) with roster := s.roster.insert key e } := adds_note s rfl
    cases w with
    | deferred => exact hchanging
    | now => exact hchanging.trans (asksNothing_write _)

theorem asksNothing_drop (s : Store) (key : Key) : AsksNothing s (s.drop key) := by
  have hforget : AsksNothing s (s.forget key) := by
    rw [forget]
    split
    · have hforgotten : AsksNothing s
          ({ s with roster := s.roster.erase key }.note (.endpointForgotten key)) :=
        adds_note { s with roster := s.roster.erase key } rfl
      exact hforgotten.trans (asksNothing_write _)
    · exact .of_eq rfl
  rw [drop]
  split
  · exact hforget.trans (adds_note _ rfl)
  · exact hforget

theorem asksNothing_apply (s : Store) (key : Key) (w : Write) (v : Verdict) :
    AsksNothing s (s.apply key w v) := by
  cases v with
  | drop => exact asksNothing_drop s key
  | noUrl => exact adds_note s rfl
  | invalid why => exact adds_note s rfl
  | endpoint e =>
    rw [apply]
    split
    · exact asksNothing_put s key e w
    · exact (asksNothing_put s key e w).trans (adds_note _ rfl)

end Store

namespace Controller

open Store (AsksNothing)

variable {κ : Type} {c : Controller κ} {obj : κ}

private theorem asksNothing_of_not_monitors (h : ¬c.rules.Monitors c.config obj) (s : Store)
    (w : Write) : AsksNothing s (c.handleObject s obj w).store := by
  rw [handleObject]
  cases hscreen : c.rules.screen c.config obj with
  | error v => exact Store.asksNothing_apply s _ w v
  | ok url => exact absurd (Rules.monitors_iff.mpr ⟨url, hscreen⟩) h

/-- What is done with any other object asks for nothing once its parent has been looked up. -/
theorem asksNothing_of_monitors (h : c.rules.Monitors c.config obj) (s : Store) (w : Write) :
    AsksNothing (s.record (c.rules.inherited c.server obj).happenings)
      (c.handleObject s obj w).store := by
  obtain ⟨url, hscreen⟩ := Rules.monitors_iff.mp h
  rw [handleObject, hscreen]
  dsimp only
  split
  · exact .of_eq rfl
  · exact Store.asksNothing_apply _ _ w _

private theorem handle_congr {r : Rules κ} {config : Config} {server server' : Option Server}
    {change : Change} (h : ∀ o obj, change.present? = some o → r.decode o = some obj →
      r.Monitors config obj → r.inherited server' obj = r.inherited server obj)
    (s : Store) (w : Write) :
    (Controller.mk r config server').handle s change w
      = (Controller.mk r config server).handle s change w := by
  have hpresent : ∀ o, change.present? = some o →
      (Controller.mk r config server').handlePresent s o w
        = (Controller.mk r config server).handlePresent s o w := by
    intro o ho
    rw [handlePresent, handlePresent]
    dsimp only
    cases hdecode : r.decode o with
    | none => rfl
    | some obj =>
      dsimp only
      rw [handleObject, handleObject]
      dsimp only
      cases hscreen : r.screen config obj with
      | error v => rfl
      | ok url => rw [h o obj ho hdecode (Rules.monitors_iff.mpr ⟨url, hscreen⟩)]; rfl
  cases change with
  | added o => exact hpresent o rfl
  | modified o => exact hpresent o rfl
  | deleted o => rfl

end Controller

/-! ## Which parent an object has -/

namespace Cluster

/-- The gateway of a reference in a route: of the group in the reference, or else of the group of
the gateway API, and in the namespace in the reference, or else in that of the route. -/
def ParentReference.gateway (p : ParentReference) (route : HttpRoute) : ParentRef where
  resource := ⟨p.group.getD "gateway.networking.k8s.io", "v1", "Gateway", "gateways"⟩
  namespaceName := p.namespaceName.or route.metadata.namespaceName
  name := p.name

theorem ParentReference.isGateway_iff {p : ParentReference} :
    p.isGateway = true ↔ p.kind = none ∨ p.kind = some "Gateway" := by
  rw [isGateway]
  cases p.kind <;> simp

/-- The ingress names a class: in its specification, or if it does not there, in the annotation. An
empty name is none. -/
def Ingress.NamesClass (i : Ingress) (name : String) : Prop :=
  name ≠ "" ∧ (i.className = some name ∨
    i.className = none ∧ i.metadata.annotations.lookup "kubernetes.io/ingress.class" = some name)

/-- The class of a name. Classes are in no namespace. -/
def Ingress.classNamed (name : String) : ParentRef where
  resource := ⟨"networking.k8s.io", "v1", "IngressClass", "ingressclasses"⟩
  namespaceName := none
  name := name

theorem Ingress.class?_eq_some_iff {i : Ingress} {name : String} :
    i.class? = some name ↔ i.NamesClass name := by
  rw [class?, Option.filter_eq_some_iff, NamesClass, Option.or_eq_some_iff, and_comm]
  simp only [decide_eq_true_eq]
  exact Iff.rfl

end Cluster

namespace Rules

theorem HttpRoute.parent?_eq_some_iff {route : HttpRoute} {p : ParentRef} :
    HttpRoute.parent? route = some p ↔ ∃ first further, route.parents = first :: further ∧
      (first.kind = none ∨ first.kind = some "Gateway") ∧ p = first.gateway route := by
  rw [HttpRoute.parent?, Option.bind_eq_some_iff]
  constructor
  · rintro ⟨first, hfirst, hp⟩
    obtain ⟨further, hparents⟩ := List.head?_eq_some_iff.mp hfirst
    split at hp
    next hgateway =>
      exact ⟨first, further, hparents, ParentReference.isGateway_iff.mp hgateway,
        (Option.some.inj hp).symm⟩
    · exact absurd hp (by simp)
  · rintro ⟨first, further, hparents, hkind, rfl⟩
    refine ⟨first, by rw [hparents, List.head?_cons], ?_⟩
    rw [if_pos (ParentReference.isGateway_iff.mpr hkind)]
    rfl

theorem Ingress.parent?_eq_some_iff {i : Ingress} {p : ParentRef} :
    Ingress.parent? i = some p ↔ ∃ name, i.NamesClass name ∧ p = Ingress.classNamed name := by
  rw [Ingress.parent?, Option.map_eq_some_iff]
  simp only [Ingress.class?_eq_some_iff]
  constructor
  · rintro ⟨name, hname, rfl⟩
    exact ⟨name, hname, rfl⟩
  · rintro ⟨name, hname, rfl⟩
    exact ⟨name, hname, rfl⟩

theorem Ingress.inScope_iff {i : Ingress} {c : Config} : Ingress.inScope i c = true ↔
    ∀ expected, c.ingressClass = some expected → i.NamesClass expected := by
  rw [Ingress.inScope]
  cases c.ingressClass with
  | none => simp
  | some expected => simp [← Ingress.class?_eq_some_iff]

private theorem Ingress.group_assignGroup {i : Ingress} {c : Config} {name : String}
    (hgroup : c.autoGroup = true) (hname : i.NamesClass name) (ep : Endpoint) :
    (Ingress.rules.assignGroup c i ep).group = name := by
  have hclass : Ingress.rules.group? i = some name := Ingress.class?_eq_some_iff.mpr hname
  rw [assignGroup, if_pos hgroup, hclass, Option.getD_some]

private theorem Ingress.assignGroup_of_not_namesClass {i : Ingress} {c : Config}
    (h : ¬∃ name, i.NamesClass name) (ep : Endpoint) :
    Ingress.rules.assignGroup c i ep = ep := by
  have hclass : Ingress.rules.group? i = none := by
    rw [Option.eq_none_iff_forall_ne_some]
    intro name hname
    exact h ⟨name, Ingress.class?_eq_some_iff.mp hname⟩
  rw [assignGroup, hclass, Option.getD_none, ite_self]

end Rules

namespace Event

variable {e : Event} {p : ParentRef} {server : Server}

/-- An ingress is there after the event, and it reads as `i`. -/
def ShowsIngress (e : Event) (i : Ingress) : Prop :=
  e.kind = .ingress ∧ ∃ o, e.change.present? = some o ∧ Ingress.ofObject? o = some i

theorem ShowsIngress.unique {i i' : Ingress} (h : e.ShowsIngress i) (h' : e.ShowsIngress i') :
    i = i' := by
  obtain ⟨-, o, hpresent, hread⟩ := h
  obtain ⟨-, o', hpresent', hread'⟩ := h'
  obtain rfl : o = o' := Option.some.inj (hpresent.symm.trans hpresent')
  exact Option.some.inj (hread.symm.trans hread')

/-- The event has this parent looked up. Of the references of a route only the first counts. -/
inductive LooksUp (e : Event) : ParentRef → Prop where
  | gateway {route : HttpRoute} {first : ParentReference} {further : List ParentReference} :
      e.ShowsRoute route → Rules.HttpRoute.rules.Monitors e.config route →
      route.parents = first :: further → (first.kind = none ∨ first.kind = some "Gateway") →
      e.LooksUp (first.gateway route)
  | ingressClass {i : Ingress} {name : String} :
      e.ShowsIngress i → Rules.Ingress.rules.Monitors e.config i → i.NamesClass name →
      e.LooksUp (Ingress.classNamed name)

/-- No parent of the event's object can matter: there is no object, or it does not read, is not to
be monitored, has no URL, or is of a kind without parents. -/
inductive Dismissed (e : Event) : Prop where
  | deleted : e.change.present? = none → e.Dismissed
  | garbled : e.Garbled → e.Dismissed
  | rejected {obj : e.kind.Form} : e.Shows obj →
      e.kind.rules.shouldProcess e.config obj = false → e.Dismissed
  | noUrl {obj : e.kind.Form} : e.Shows obj → e.kind.rules.url? obj = none → e.Dismissed
  | service : e.kind = .service → e.Dismissed
  | ingressRoute : e.kind = .ingressRoute → e.Dismissed

theorem looksUp_iff : e.LooksUp p ↔ ∃ obj, e.Shows obj ∧ e.kind.rules.Monitors e.config obj ∧
    e.kind.rules.parent? obj = some p := by
  obtain ⟨kind, config, server, change, write⟩ := e
  constructor
  · intro h
    cases h with
    | @gateway route first further hshows hmonitors hparents hkind =>
      obtain ⟨rfl, o, hpresent, hread⟩ := hshows
      have hparent := Rules.HttpRoute.parent?_eq_some_iff.mpr ⟨first, further, hparents, hkind, rfl⟩
      exact ⟨route, ⟨o, hpresent, hread⟩, hmonitors, hparent⟩
    | @ingressClass i name hshows hmonitors hname =>
      obtain ⟨rfl, o, hpresent, hread⟩ := hshows
      have hparent := Rules.Ingress.parent?_eq_some_iff.mpr ⟨name, hname, rfl⟩
      exact ⟨i, ⟨o, hpresent, hread⟩, hmonitors, hparent⟩
  · rintro ⟨obj, ⟨o, hpresent, hread⟩, hmonitors, hparent⟩
    cases kind with
    | httpRoute =>
      obtain ⟨first, further, hparents, hkind, rfl⟩ :=
        Rules.HttpRoute.parent?_eq_some_iff.mp hparent
      exact .gateway ⟨rfl, o, hpresent, hread⟩ hmonitors hparents hkind
    | ingress =>
      obtain ⟨name, hname, rfl⟩ := Rules.Ingress.parent?_eq_some_iff.mp hparent
      exact .ingressClass ⟨rfl, o, hpresent, hread⟩ hmonitors hname
    | service => exact absurd hparent nofun
    | ingressRoute => exact absurd hparent nofun

theorem LooksUp.kind (h : e.LooksUp p) : e.kind = .httpRoute ∨ e.kind = .ingress := by
  cases h with
  | gateway hshows => exact .inl hshows.1
  | ingressClass hshows => exact .inr hshows.1

theorem Shows.unique {obj obj' : e.kind.Form} (h : e.Shows obj) (h' : e.Shows obj') :
    obj = obj' := by
  obtain ⟨o, hpresent, hread⟩ := h
  obtain ⟨o', hpresent', hread'⟩ := h'
  obtain rfl : o = o' := Option.some.inj (hpresent.symm.trans hpresent')
  exact Option.some.inj (hread.symm.trans hread')

theorem LooksUp.unique {p' : ParentRef} (h : e.LooksUp p) (h' : e.LooksUp p') : p' = p := by
  obtain ⟨obj, hshows, -, hparent⟩ := looksUp_iff.mp h
  obtain ⟨obj', hshows', -, hparent'⟩ := looksUp_iff.mp h'
  obtain rfl := hshows.unique hshows'
  exact Option.some.inj (hparent'.symm.trans hparent)

theorem ShowsRoute.looksUp_iff {route : HttpRoute} (h : e.ShowsRoute route)
    (hmonitors : Rules.HttpRoute.rules.Monitors e.config route) :
    e.LooksUp p ↔ ∃ first further, route.parents = first :: further ∧
      (first.kind = none ∨ first.kind = some "Gateway") ∧ p = first.gateway route := by
  constructor
  · intro hlooks
    cases hlooks with
    | @gateway route' first further hshows _ hparents hkind =>
      obtain rfl := h.unique hshows
      exact ⟨first, further, hparents, hkind, rfl⟩
    | ingressClass hingress => exact absurd (h.1.symm.trans hingress.1) nofun
  · rintro ⟨first, further, hparents, hkind, rfl⟩
    exact .gateway h hmonitors hparents hkind

theorem ShowsIngress.looksUp_iff {i : Ingress} (h : e.ShowsIngress i)
    (hmonitors : Rules.Ingress.rules.Monitors e.config i) :
    e.LooksUp p ↔ ∃ name, i.NamesClass name ∧ p = Ingress.classNamed name := by
  constructor
  · intro hlooks
    cases hlooks with
    | gateway hroute => exact absurd (h.1.symm.trans hroute.1) nofun
    | @ingressClass i' name hshows _ hname =>
      obtain rfl := h.unique hshows
      exact ⟨name, hname, rfl⟩
  · rintro ⟨name, hname, rfl⟩
    exact .ingressClass h hmonitors hname

private theorem Dismissed.not_looksUp (h : e.Dismissed) : ¬e.LooksUp p := by
  intro hlooks
  obtain ⟨obj, hshows, ⟨hprocess, url, hurl⟩, hparent⟩ := looksUp_iff.mp hlooks
  cases h with
  | deleted hnone =>
    obtain ⟨o, hpresent, -⟩ := hshows
    exact absurd (hnone.symm.trans hpresent) nofun
  | garbled hgarbled =>
    obtain ⟨o, hpresent, hread⟩ := hshows
    obtain ⟨o', hpresent', hread'⟩ := hgarbled
    obtain rfl : o = o' := Option.some.inj (hpresent.symm.trans hpresent')
    exact absurd (hread.symm.trans hread') nofun
  | rejected hshows' hrejected =>
    obtain rfl := hshows.unique hshows'
    exact absurd (hprocess.symm.trans hrejected) nofun
  | noUrl hshows' hnone =>
    obtain rfl := hshows.unique hshows'
    exact absurd (hurl.symm.trans hnone) nofun
  | service hkind =>
    have hparents := hlooks.kind
    rw [hkind] at hparents
    exact absurd hparents (by decide)
  | ingressRoute hkind =>
    have hparents := hlooks.kind
    rw [hkind] at hparents
    exact absurd hparents (by decide)

/-! ## What an event asks for -/

private theorem step_of_deleted (h : e.change.present? = none) (s : Store) :
    step s e = s.drop e.key := by
  rw [step, key]
  cases hchange : e.change with
  | added o => rw [hchange] at h; exact absurd h (by simp [Change.present?])
  | modified o => rw [hchange] at h; exact absurd h (by simp [Change.present?])
  | deleted o => rfl

theorem step_of_present {o : Object} (h : e.change.present? = some o) (s : Store) :
    step s e = (e.controller.handlePresent s o e.write).store := by
  rw [step]
  cases hchange : e.change with
  | added o' => rw [hchange] at h; rw [← Option.some.inj h]; rfl
  | modified o' => rw [hchange] at h; rw [← Option.some.inj h]; rfl
  | deleted o' => rw [hchange] at h; exact absurd h (by simp [Change.present?])

theorem Shows.step_eq {obj : e.kind.Form} (h : e.Shows obj) (s : Store) :
    step s e = (e.controller.handleObject s obj e.write).store := by
  obtain ⟨o, hpresent, hread⟩ := h
  have hdecode : e.controller.rules.decode o = some obj := hread
  rw [step_of_present hpresent, Controller.handlePresent, hdecode]

theorem Garbled.step_eq (h : e.Garbled) (s : Store) : step s e
    = s.note (.undecodable e.kind.rules.resource.kind e.key.object) := by
  obtain ⟨o, hpresent, hread⟩ := h
  have hdecode : e.controller.rules.decode o = none := hread
  rw [step_of_present hpresent, Controller.handlePresent, hdecode, key,
    object_of_present hpresent]
  rfl

/-- The lookup comes first, and it is the only one. -/
theorem LooksUp.exists_trace (h : e.LooksUp p) (hserver : e.server = some server) (s : Store) :
    ∃ trace, LookupTrace server p trace ∧ (s.record trace).AsksNothing (step s e) := by
  obtain ⟨obj, hshows, hmonitors, hparent⟩ := looksUp_iff.mp h
  refine ⟨(e.kind.rules.inherited (some server) obj).happenings,
    Rules.lookupTrace_inherited hparent, ?_⟩
  rw [hshows.step_eq, ← hserver]
  exact Controller.asksNothing_of_monitors (c := e.controller) hmonitors s e.write

theorem LooksUp.exists_added (h : e.LooksUp p) (hserver : e.server = some server) (s : Store) :
    ∃ added, (step s e).history = s.history ++ added ∧
      LookupTrace server p (added.filter Happening.isOfLookup) ∧
      added.filterMap Happening.request?
        = (Request.ofObject? p.resource p.namespaceName p.name).toList := by
  obtain ⟨trace, htrace, rest, hhistory, hrest⟩ := h.exists_trace hserver s
  have hfilter : (trace ++ rest).filter Happening.isOfLookup = trace := by
    rw [List.filter_append, htrace.filter_eq_self, Happening.filter_eq_nil hrest, List.append_nil]
  refine ⟨trace ++ rest, ?_, ?_, ?_⟩
  · rw [hhistory, Store.record, List.append_assoc]
  · rwa [hfilter]
  · rw [List.filterMap_append, Happening.filterMap_eq_nil hrest, List.append_nil, htrace.requests]

theorem asksNothing_of_not_looksUp (h : ¬∃ p, e.LooksUp p) (s : Store) :
    s.AsksNothing (step s e) := by
  cases hpresent : e.change.present? with
  | none =>
    rw [step_of_deleted hpresent]
    exact Store.asksNothing_drop s _
  | some o =>
    cases hread : e.kind.rules.decode o with
    | none =>
      rw [Garbled.step_eq ⟨o, hpresent, hread⟩]
      exact Store.adds_note s rfl
    | some obj =>
      have hshows : e.Shows obj := ⟨o, hpresent, hread⟩
      rw [hshows.step_eq]
      by_cases hmonitors : e.controller.rules.Monitors e.controller.config obj
      · have hparent : e.kind.rules.parent? obj = none := by
          rw [Option.eq_none_iff_forall_ne_some]
          intro p hparent
          exact h ⟨p, looksUp_iff.mpr ⟨obj, hshows, hmonitors, hparent⟩⟩
        have hnone : (e.controller.rules.inherited e.controller.server obj).happenings = [] :=
          congrArg Rules.Inherited.happenings (Rules.inherited_of_parent?_eq_none hparent e.server)
        have hasks := Controller.asksNothing_of_monitors hmonitors s e.write
        rw [hnone] at hasks
        have hsame : s.AsksNothing (s.record []) := .of_eq (List.append_nil _)
        exact hsame.trans hasks
      · exact Controller.asksNothing_of_not_monitors hmonitors s e.write

theorem step_congr (hserver : e.server = some server) {server' : Server}
    (h : ∀ p, e.LooksUp p → ∀ request ∈ Request.ofObject? p.resource p.namespaceName p.name,
      server' request = server request) (s : Store) :
    step s { e with server := some server' } = step s e := by
  refine congrArg Progress.store (Controller.handle_congr ?_ s e.write)
  intro o obj hpresent hread hmonitors
  rw [hserver]
  refine Rules.inherited_congr ?_
  intro p hparent
  exact h p (looksUp_iff.mpr ⟨obj, ⟨o, hpresent, hread⟩, hmonitors, hparent⟩)

/-- A route that refers to a gateway by its name alone, and then to a service. -/
def edgeObject : Object where
  metadata := { name := some "api", namespaceName := some "apps" }
  data := .obj [("spec", .obj [
    ("parentRefs", .arr [.obj [("name", .str "edge")],
      .obj [("kind", .str "Service"), ("name", .str "internal")]]),
    ("hostnames", .arr [.str "api.example.com"])])]

def edgeAdded : Event where
  kind := .httpRoute
  config := { autoHttpRoute := true }
  server := some fun _ ↦ .refused
  change := .added edgeObject
  write := .now

/-- The first of its references. -/
def edgeReference : ParentReference where
  name := "edge"

def edgeRoute : HttpRoute where
  metadata := edgeObject.metadata
  parentRefs := some [edgeReference, { kind := some "Service", name := "internal" }]
  hostnames := some ["api.example.com"]

end Event

end EndpointSync
