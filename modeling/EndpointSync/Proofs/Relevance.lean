import EndpointSync.Proofs.Attempts
import EndpointSync.Proofs.Replays
import EndpointSync.Proofs.Withdrawal

/-!
# What an object is judged by

Of an object that is there, the key matters, two annotations, and what its kind reads; of its
parent, the same two annotations matter. Two events that agree on these lead to the same roster and
to the same file, wherever they start from. So whatever else changes about an object, such as its
status, its labels or its version, its endpoint stays.

## Two objects side by side

The rules look at an object through a handful of functions. Objects on which all of these agree are
told apart by none of the steps that follow (`Rules.Indistinct`), whatever their kind. What the
functions of each kind read is listed once (`Kind.Alike`), and this is the only place at which the
kinds are taken one by one.

## Parents that cannot be had

A parent about which nothing is learned counts as one without annotations. Why nothing is learned
makes no difference, although the notices tell. Only an answer that never comes is something else:
then the event is not dealt with at all.
-/

namespace EndpointSync

open Cluster (Change Object Response Server)

/-! ## Annotations -/

/-- Two sets of annotations say the same in those two places that are looked at. -/
structure Config.Agreeing (c : Config) (a b : Annotations) : Prop where
  enabled : a.lookup c.enabledKey = b.lookup c.enabledKey
  template : a.lookup c.templateKey = b.lookup c.templateKey

namespace Rules

variable {c : Config} {parent parent' own own' : Annotations}

theorem read_congr (scope : Template.Scope) (h : c.Agreeing own own') :
    Template.read scope own c.templateKey = Template.read scope own' c.templateKey := by
  rw [Template.read, Template.read, h.template]

private theorem templateOf_congr (hparent : c.Agreeing parent parent')
    (hown : c.Agreeing own own') : templateOf c parent own = templateOf c parent' own' := by
  rw [templateOf, templateOf, read_congr .parent hparent, read_congr .object hown]

private theorem switch?_congr (hparent : c.Agreeing parent parent') (hown : c.Agreeing own own') :
    switch? c parent own = switch? c parent' own' := by
  rw [switch?, switch?, hparent.enabled, hown.enabled]

/-! ## Objects of any kind -/

variable {κ : Type} {r : Rules κ} {a b : κ}

/-- The rules do not tell two objects apart, their annotations aside: none of the functions that
they consist of does. -/
structure Indistinct (r : Rules κ) (c : Config) (a b : κ) : Prop where
  key : r.keyOf (r.metadata a) = r.keyOf (r.metadata b)
  inScope : ∀ f ∈ r.filter, f a c = f b c
  url : ∀ f ∈ r.url, f a = f b
  /-- No group and the empty one are the same to an endpoint. -/
  group : ∀ f ∈ r.group, (f a).getD "" = (f b).getD ""
  host : ∀ f ∈ r.guardedHost, f a = f b

private theorem inScope_congr (h : r.Indistinct c a b) : r.inScope c a = r.inScope c b := by
  rw [inScope, inScope]
  cases hfilter : r.filter with
  | none => rfl
  | some f => exact h.inScope f hfilter

private theorem url?_congr (h : r.Indistinct c a b) : r.url? a = r.url? b := by
  rw [url?, url?]
  cases hurl : r.url with
  | none => rfl
  | some f => rw [Option.map_some, Option.map_some, h.url f hurl]

/-- It counts that the two annotations are there, and not what they say. -/
theorem shouldProcess_congr (h : r.Indistinct c a b)
    (henabled : r.hasAnnotation a c.enabledKey = r.hasAnnotation b c.enabledKey)
    (htemplate : r.hasAnnotation a c.templateKey = r.hasAnnotation b c.templateKey) :
    r.shouldProcess c a = r.shouldProcess c b := by
  rw [shouldProcess, shouldProcess, inScope_congr h, henabled, htemplate]

private theorem assignGroup_congr (h : r.Indistinct c a b) {e : Endpoint} (he : e.group = "") :
    r.assignGroup c a e = r.assignGroup c b e := by
  have hgroup : (r.group? a).getD "" = (r.group? b).getD "" := by
    rw [group?, group?]
    cases hgroup : r.group with
    | none => rfl
    | some f => exact h.group f hgroup
  rw [assignGroup, assignGroup, he, hgroup]

private theorem assignCheck_congr (h : r.Indistinct c a b) (e : Endpoint) :
    r.assignCheck a e = r.assignCheck b e := by
  rw [assignCheck, assignCheck]
  cases hhost : r.guardedHost with
  | none => rfl
  | some host =>
    dsimp only
    rw [h.host host hhost]

theorem base_congr (h : r.Indistinct c a b) (url : String) (guarded : Bool) :
    r.base c a url guarded = r.base c b url guarded := by
  have hname : (r.metadata a).anyName = (r.metadata b).anyName := congrArg Key.name h.key
  rw [base, base, prescribe, prescribe, hname, assignGroup_congr h rfl, assignCheck_congr h]

/-- The verdict is the same if the annotations agree, those of the objects and those of the
parents. -/
theorem judgeWith_congr (h : r.Indistinct c a b) (hparent : c.Agreeing parent parent')
    (hown : c.Agreeing (r.metadata a).annotations (r.metadata b).annotations) (url : String) :
    r.judgeWith c a url parent = r.judgeWith c b url parent' := by
  have hendpoint : ∀ t, r.endpointOf c a url t = r.endpointOf c b url t := by
    intro t
    rw [endpointOf, endpointOf, base_congr h]
  rw [judgeWith, judgeWith, switch?_congr hparent hown, templateOf_congr hparent hown]
  simp only [hendpoint]

end Rules

/-! ## What each kind reads -/

/-- Two objects say the same in all that their kind reads of them, the name, the namespace and the
two annotations aside. -/
def Kind.Alike : (k : Kind) → k.Form → k.Form → Prop
  | .httpRoute, (a : Cluster.HttpRoute), (b : Cluster.HttpRoute) =>
    a.firstHostname? = b.firstHostname? ∧ a.parents = b.parents
  | .ingress, (a : Cluster.Ingress), (b : Cluster.Ingress) =>
    a.className = b.className ∧ a.hosts.filterMap id = b.hosts.filterMap id ∧
      (∀ host, host ∈ a.tlsHosts ↔ host ∈ b.tlsHosts) ∧
      a.metadata.annotations.lookup Cluster.Ingress.classKey
        = b.metadata.annotations.lookup Cluster.Ingress.classKey
  | .service, (a : Cluster.Service), (b : Cluster.Service) => a.ports.head? = b.ports.head?
  | .ingressRoute, (a : Object), (b : Object) =>
    Cluster.IngressRoute.rules a = Cluster.IngressRoute.rules b ∧
      Cluster.IngressRoute.isEncrypted a = Cluster.IngressRoute.isEncrypted b

namespace Kind

variable {c : Config}

private theorem indistinct_httpRoute {a b : Cluster.HttpRoute}
    (hkey : Rules.HttpRoute.rules.keyOf a.metadata = Rules.HttpRoute.rules.keyOf b.metadata)
    (h : Kind.Alike .httpRoute a b) : Rules.HttpRoute.rules.Indistinct c a b := by
  obtain ⟨hhost, hparents⟩ := h
  refine ⟨hkey, ?_, ?_, ?_, ?_⟩
  · rintro f ⟨⟩
    rw [Rules.HttpRoute.inScope, Rules.HttpRoute.inScope, hparents]
  · rintro f ⟨⟩
    rw [Rules.HttpRoute.url, Rules.HttpRoute.url, hhost]
  · rintro f ⟨⟩
    dsimp only
    rw [hparents]
  · rintro f ⟨⟩
    dsimp only
    rw [hhost]

private theorem indistinct_ingress {a b : Cluster.Ingress}
    (hkey : Rules.Ingress.rules.keyOf a.metadata = Rules.Ingress.rules.keyOf b.metadata)
    (h : Kind.Alike .ingress a b) : Rules.Ingress.rules.Indistinct c a b := by
  obtain ⟨hname, hhosts, htls, hannotation⟩ := h
  have hclass : a.class? = b.class? := by
    rw [Cluster.Ingress.class?, Cluster.Ingress.class?, hname, hannotation]
  have hfirst : a.firstHost? = b.firstHost? := by
    rw [Cluster.Ingress.firstHost?, Cluster.Ingress.firstHost?, hhosts]
  have hurlOf : Rules.Ingress.urlOf a = Rules.Ingress.urlOf b := by
    funext host
    simp only [Rules.Ingress.urlOf, htls]
  refine ⟨hkey, ?_, ?_, ?_, ?_⟩
  · rintro f ⟨⟩
    rw [Rules.Ingress.inScope, Rules.Ingress.inScope, hclass]
  · rintro f ⟨⟩
    rw [Rules.Ingress.url, Rules.Ingress.url, hfirst, hurlOf]
  · rintro f ⟨⟩
    rw [hclass]
  · rintro f ⟨⟩
    dsimp only
    rw [hfirst]

theorem service_url_eq (s : Cluster.Service) : Rules.Service.url s = (s.ports.head?.map fun p ↦
    Rules.Service.protocolOf p ++ "://" ++ s.metadata.anyName ++ "." ++
      s.metadata.namespaceName.getD "" ++ ".svc:" ++ toString p.number).getD "" := by
  rw [Rules.Service.url]
  cases s.ports <;> rfl

private theorem indistinct_service {a b : Cluster.Service}
    (hkey : Rules.Service.rules.keyOf a.metadata = Rules.Service.rules.keyOf b.metadata)
    (h : Kind.Alike .service a b) : Rules.Service.rules.Indistinct c a b := by
  have hname : a.metadata.anyName = b.metadata.anyName := congrArg Key.name hkey
  have hnamespace : a.metadata.namespaceName.getD "" = b.metadata.namespaceName.getD "" :=
    congrArg Key.namespaceName hkey
  have hports : a.ports.head? = b.ports.head? := h
  refine ⟨hkey, ?_, ?_, ?_, ?_⟩
  · rintro f ⟨⟩
  · rintro f ⟨⟩
    rw [service_url_eq, service_url_eq, hname, hnamespace, hports]
  · rintro f ⟨⟩
    exact hnamespace
  · rintro f ⟨⟩

private theorem indistinct_ingressRoute {a b : Object}
    (hkey : Rules.IngressRoute.rules.keyOf a.metadata = Rules.IngressRoute.rules.keyOf b.metadata)
    (h : Kind.Alike .ingressRoute a b) : Rules.IngressRoute.rules.Indistinct c a b := by
  obtain ⟨hrules, hencrypted⟩ := h
  have hfirst : Cluster.IngressRoute.firstHost? a = Cluster.IngressRoute.firstHost? b := by
    rw [Cluster.IngressRoute.firstHost?, Cluster.IngressRoute.firstHost?, hrules]
  refine ⟨hkey, ?_, ?_, ?_, ?_⟩
  · rintro f ⟨⟩
  · rintro f ⟨⟩
    rw [Rules.IngressRoute.url, Rules.IngressRoute.url, hfirst, hencrypted]
  · rintro f ⟨⟩
  · rintro f ⟨⟩
    exact hfirst

/-- **Objects of any kind that say the same in what their kind reads are not told apart.** -/
theorem indistinct_of_alike {k : Kind} {a b : k.Form}
    (hkey : k.rules.keyOf (k.rules.metadata a) = k.rules.keyOf (k.rules.metadata b))
    (h : k.Alike a b) : k.rules.Indistinct c a b := by
  cases k with
  | httpRoute => exact indistinct_httpRoute hkey h
  | ingress => exact indistinct_ingress hkey h
  | service => exact indistinct_service hkey h
  | ingressRoute => exact indistinct_ingressRoute hkey h

end Kind

/-! ## What is learned of a parent -/

namespace Cluster.Response

/-- Nothing is learned from a response about the object that was asked for. That the object is not
there is reported by a status of this kind. -/
inductive Fails : Response → Prop where
  | refused : Fails .refused
  | broken {status : Nat} {body : String} : Fails (.reply status body .broken)
  | errorStatus {status : Nat} {body : String} : isErrorStatus status = true →
      Fails (.reply status body .complete)
  | undecodable {status : Nat} {body : String} : isErrorStatus status = false →
      (wholeJson? body).bind Object.ofJson? = none → Fails (.reply status body .complete)

/-- The response holds the object that was asked for. -/
def Holds (response : Response) (o : Object) : Prop :=
  ∃ status body, response = .reply status body .complete ∧ isErrorStatus status = false ∧
    (wholeJson? body).bind Object.ofJson? = some o

variable {response : Response}

theorem Fails.lookup (h : response.Fails) :
    response.lookup = .missing ∨ response.lookup = .failed := by
  cases h with
  | refused => exact .inr rfl
  | broken => exact .inr rfl
  | errorStatus hstatus =>
    rw [Response.lookup, if_pos hstatus]
    split
    · exact .inl rfl
    · exact .inr rfl
  | undecodable hstatus hbody =>
    rw [Response.lookup, if_neg (Bool.eq_false_iff.mp hstatus), hbody]
    exact .inr rfl

theorem Holds.lookup {o : Object} (h : response.Holds o) : response.lookup = .found o := by
  obtain ⟨status, body, rfl, hstatus, hbody⟩ := h
  rw [Response.lookup, if_neg (Bool.eq_false_iff.mp hstatus), hbody]

private theorem fails_or_holds (h : response.lookup ≠ .pending) :
    response.Fails ∨ ∃ o, response.Holds o := by
  cases response with
  | refused => exact .inl .refused
  | pending => exact absurd rfl h
  | reply status body ending =>
    cases ending with
    | broken => exact .inl .broken
    | stalled => exact absurd rfl h
    | complete =>
      cases hstatus : isErrorStatus status with
      | true => exact .inl (.errorStatus hstatus)
      | false =>
        cases hbody : (wholeJson? body).bind Object.ofJson? with
        | none => exact .inl (.undecodable hstatus hbody)
        | some o => exact .inr ⟨o, status, body, rfl, hstatus, hbody⟩

end Cluster.Response

theorem Rules.inherited_of_request {κ : Type} {r : Rules κ} {obj : κ} {server : Server}
    {p : ParentRef} {request : Request} (hparent : r.parent? obj = some p)
    (hrequest : Request.ofObject? p.resource p.namespaceName p.name = some request) :
    ((r.inherited (some server) obj).isPending = true ↔ (server request).lookup = .pending) ∧
      (∀ o, (server request).lookup = .found o →
        (r.inherited (some server) obj).annotations.getD [] = o.metadata.annotations) ∧
      ((server request).lookup = .missing ∨ (server request).lookup = .failed →
        (r.inherited (some server) obj).annotations.getD [] = []) := by
  rw [inherited.eq_def, hparent]
  simp only [lookUp, hrequest]
  cases (server request).lookup <;> simp

namespace Event

variable {e : Event} {obj : e.kind.Form}

/-- The annotations of the parent of an object, as far as they can be learned. Without a parent
there are none, nor with one that is not to be had, for whatever reason. -/
inductive ParentSays (e : Event) (obj : e.kind.Form) : Annotations → Prop where
  | noParent : e.kind.rules.parent? obj = none → e.ParentSays obj []
  | noClient : e.server = none → e.ParentSays obj []
  | unusableName {p : ParentRef} : e.kind.rules.parent? obj = some p →
      Request.ofObject? p.resource p.namespaceName p.name = none → e.ParentSays obj []
  | failed {p : ParentRef} {server : Server} {request : Request} :
      e.kind.rules.parent? obj = some p → e.server = some server →
      Request.ofObject? p.resource p.namespaceName p.name = some request →
      (server request).Fails → e.ParentSays obj []
  | found {p : ParentRef} {server : Server} {request : Request} {o : Object} :
      e.kind.rules.parent? obj = some p → e.server = some server →
      Request.ofObject? p.resource p.namespaceName p.name = some request →
      (server request).Holds o → e.ParentSays obj o.metadata.annotations

theorem ParentSays.inherited_eq {a : Annotations} (h : e.ParentSays obj a) :
    e.inherited obj = a := by
  rw [Event.inherited]
  cases h with
  | noParent hparent =>
    rw [Rules.inherited.eq_def, hparent]
    rfl
  | noClient hserver =>
    rw [hserver, Rules.inherited.eq_def]
    cases e.kind.rules.parent? obj <;> rfl
  | unusableName hparent hrequest =>
    rw [Rules.inherited.eq_def, hparent]
    cases e.server with
    | none => rfl
    | some server =>
      simp only [Rules.lookUp, hrequest]
      rfl
  | failed hparent hserver hrequest hfails =>
    rw [hserver]
    exact (Rules.inherited_of_request hparent hrequest).2.2 hfails.lookup
  | found hparent hserver hrequest hholds =>
    rw [hserver]
    exact (Rules.inherited_of_request hparent hrequest).2.1 _ hholds.lookup

theorem exists_parentSays (h : (e.kind.rules.inherited e.server obj).isPending = false) :
    ∃ a, e.ParentSays obj a := by
  cases hparent : e.kind.rules.parent? obj with
  | none => exact ⟨[], .noParent hparent⟩
  | some p =>
    cases hserver : e.server with
    | none => exact ⟨[], .noClient hserver⟩
    | some server =>
      cases hrequest : Request.ofObject? p.resource p.namespaceName p.name with
      | none => exact ⟨[], .unusableName hparent hrequest⟩
      | some request =>
        have hanswer : (server request).lookup ≠ .pending := by
          intro hpending
          rw [hserver, (Rules.inherited_of_request hparent hrequest).1.mpr hpending] at h
          exact absurd h (by simp)
        rcases Cluster.Response.fails_or_holds hanswer with hfails | ⟨o, hholds⟩
        · exact ⟨[], .failed hparent hserver hrequest hfails⟩
        · exact ⟨o.metadata.annotations, .found hparent hserver hrequest hholds⟩

/-! ## Two events -/

/-- The event with another object of the same kind, and with another cluster around it. -/
abbrev instead (e : Event) (server : Option Server) (change : Change) : Event :=
  { e with server, change }

/-- What is learned of two parents agrees, if something is learned of both. -/
def ParentsAgree (e : Event) (obj : e.kind.Form) (server : Option Server) (change : Change)
    (obj' : e.kind.Form) : Prop :=
  ∀ a a', e.ParentSays obj a → (e.instead server change).ParentSays obj' a' →
    e.config.Agreeing a a'

variable {server : Option Server} {change : Change} {obj' : e.kind.Form}

/-- Two events with objects that are not told apart come to the same ruling before the parents are
asked, or both objects are weighed with one URL. -/
theorem ruling_eq_or_weigh (hkey : (e.instead server change).key = e.key) (hshows : e.Shows obj)
    (hshows' : (e.instead server change).Shows obj')
    (hindistinct : e.kind.rules.Indistinct e.config obj obj')
    (hscope : e.kind.rules.shouldProcess e.config obj = e.kind.rules.shouldProcess e.config obj')
    (hdone : e.controller.stalls e.change = false)
    (hdone' : (e.instead server change).controller.stalls change = false) :
    (e.instead server change).ruling = e.ruling ∨
      ∃ url, e.Weighs obj url ∧ (e.instead server change).Weighs obj' url := by
  have hurl := Rules.url?_congr hindistinct
  cases hprocess : e.kind.rules.shouldProcess e.config obj with
  | false =>
    left
    have hdropped : e.ruling = some (e.key, .drop) := (Settles.outOfScope hshows hprocess).ruling
    rw [hdropped, (Settles.outOfScope hshows' (hscope.symm.trans hprocess)).ruling, hkey]
    rfl
  | true =>
    cases hfound : e.kind.rules.url? obj with
    | none =>
      left
      have hlacks : e.LacksUrl := ⟨obj, hshows, hprocess, hfound⟩
      have hlacks' : (e.instead server change).LacksUrl :=
        ⟨obj', hshows', hscope.symm.trans hprocess, hurl.symm.trans hfound⟩
      rw [hlacks.ruling, hlacks'.ruling, hkey]
    | some url =>
      right
      exact ⟨url, hshows.weighs hprocess hfound hdone,
        hshows'.weighs (hscope.symm.trans hprocess) (hurl.symm.trans hfound) hdone'⟩

theorem indistinct_instead (hkey : (e.instead server change).key = e.key) (hshows : e.Shows obj)
    (hshows' : (e.instead server change).Shows obj') (halike : e.kind.Alike obj obj') :
    e.kind.rules.Indistinct e.config obj obj' :=
  Kind.indistinct_of_alike (hshows.keyOf.trans (hkey.symm.trans hshows'.keyOf.symm)) halike

/-- Events that agree on what an object is judged by come to the same ruling. -/
theorem ruling_instead (hkey : (e.instead server change).key = e.key) (hshows : e.Shows obj)
    (hshows' : (e.instead server change).Shows obj') (halike : e.kind.Alike obj obj')
    (hown : e.config.Agreeing (e.own obj) ((e.instead server change).own obj'))
    (hparents : e.ParentsAgree obj server change obj')
    (hdone : e.controller.stalls e.change = false)
    (hdone' : (e.instead server change).controller.stalls change = false) :
    (e.instead server change).ruling = e.ruling := by
  have hindistinct := indistinct_instead hkey hshows hshows' halike
  have hscope : e.kind.rules.shouldProcess e.config obj
      = e.kind.rules.shouldProcess e.config obj' :=
    Rules.shouldProcess_congr hindistinct (congrArg Option.isSome hown.enabled)
      (congrArg Option.isSome hown.template)
  rcases ruling_eq_or_weigh hkey hshows hshows' hindistinct hscope hdone hdone' with
    hequal | ⟨url, hweighs, hweighs'⟩
  · exact hequal
  · obtain ⟨a, ha⟩ := exists_parentSays hweighs.answered
    obtain ⟨a', ha'⟩ := exists_parentSays hweighs'.answered
    rw [hweighs.ruling, hweighs'.ruling, hkey, ha.inherited_eq, ha'.inherited_eq,
      Rules.judgeWith_congr hindistinct (hparents a a' ha ha') hown]

/-- **Only the relevant parts of an object matter.** Suppose that two objects of one kind have the
same key, say the same in what their kind reads and in the two annotations that are looked at, and
that what is learned of their parents, if anything, agrees on these two annotations as well. Then
an event with the one and an event with the other lead from any store to the same roster and to the
same file. If the one follows the other, it changes neither, and it does not try to write. -/
theorem only_relevant_parts_matter (s : Store)
    (hkey : (e.instead server change).key = e.key) (hshows : e.Shows obj)
    (hshows' : (e.instead server change).Shows obj') (halike : e.kind.Alike obj obj')
    (hown : e.config.Agreeing (e.own obj) ((e.instead server change).own obj'))
    (hparents : e.ParentsAgree obj server change obj')
    (hdone : (e.controller.handle s e.change e.write).isStuck = false)
    (hdone' : ((e.instead server change).controller.handle s change e.write).isStuck = false) :
    ((step s (e.instead server change)).roster = (step s e).roster ∧
      (step s (e.instead server change)).disk = (step s e).disk) ∧
    (step (step s e) (e.instead server change)).roster = (step s e).roster ∧
    (step (step s e) (e.instead server change)).disk = (step s e).disk ∧
    (step (step s e) (e.instead server change)).attempts = (step s e).attempts := by
  rw [Controller.isStuck_handle] at hdone hdone'
  have hruling := ruling_instead hkey hshows hshows' halike hown hparents hdone hdone'
  have hone : (step s e).Agree (s.performAll (Controller.callsOf e.write e.ruling)) :=
    e.controller.agree_handle s e.change e.write
  have hother : (step s (e.instead server change)).Agree
      (s.performAll (Controller.callsOf e.write (e.instead server change).ruling)) :=
    (e.instead server change).controller.agree_handle s change e.write
  rw [hruling] at hother
  have hsettled : (step s e).roster.Settled (e.instead server change).ruling := by
    rw [hruling, roster_step]
    exact Roster.settled_settle s.roster e.ruling
  have hkept : (step (step s e) (e.instead server change)).Agree (step s e) :=
    Controller.agree_handle_of_settled hsettled e.write
  refine ⟨⟨?_, ?_⟩, hkept.roster, hkept.disk, ?_⟩
  · exact hother.roster.trans hone.roster.symm
  · exact hother.disk.trans hone.disk.symm
  · exact Store.attempts_of_adds (Controller.adds_handle_of_settled hsettled e.write)

/-! ### An update of a status -/

/-- A class with an annotation that nothing looks at. -/
def teamClass : Cluster.Response :=
  .reply 200 "\x7b\"metadata\":\x7b\"annotations\":\x7b\"team\":\"edge\"\x7d\x7d\x7d" .complete

def shopListed : Event := { shopAdded with server := some fun _ ↦ teamClass }

/-- The ingress with a status, a later version and one more annotation. -/
def shopServed : Object where
  typeName := shopObject.typeName
  metadata := { shopObject.metadata with
    resourceVersion := some "2"
    annotations := ("owner", "sales") :: shopObject.metadata.annotations }
  data := .obj [("spec", .obj [("ingressClassName", .str "public"),
      ("rules", .arr [.obj [("host", .str "shop.example.com")]])]),
    ("status", .obj [("loadBalancer", .obj [("ingress", .arr [.obj [("ip", .str "10.0.0.1")]])])])]

/-- The update reaches a controller that can no longer connect to the cluster. -/
def shopUpdated : Event := shopListed.instead (some fun _ ↦ .refused) (.modified shopServed)

def servedShop : shopListed.kind.Form :=
  (⟨shopServed.metadata, some "public", [some "shop.example.com"], []⟩ : Cluster.Ingress)

/-- The endpoint of the ingress is there, and the update leaves it alone. -/
theorem shop_update_is_irrelevant : shopUpdated.key = shopListed.key ∧
    shopListed.Shows shop ∧ shopUpdated.Shows servedShop ∧
    shopListed.kind.Alike shop servedShop ∧
    shopListed.config.Agreeing (shopListed.own shop) (shopUpdated.own servedShop) ∧
    (shopListed.controller.handle {} shopListed.change shopListed.write).isStuck = false ∧
    (shopUpdated.controller.handle {} shopUpdated.change shopListed.write).isStuck = false ∧
    ((step {} shopListed).roster.get? shopListed.key).isSome = true ∧
    (step {} shopUpdated).roster = (step {} shopListed).roster ∧
    (step (step {} shopListed) shopUpdated).disk = (step {} shopListed).disk ∧
    (step (step {} shopListed) shopUpdated).attempts = (step {} shopListed).attempts := by
  have hkey : shopUpdated.key = shopListed.key := rfl
  have hshows : shopListed.Shows shop := ⟨shopObject, rfl, rfl⟩
  have hshows' : shopUpdated.Shows servedShop := ⟨shopServed, rfl, rfl⟩
  have halike : shopListed.kind.Alike shop servedShop :=
    ⟨rfl, rfl, fun _ ↦ Iff.rfl, by decide⟩
  have hown : shopListed.config.Agreeing (shopListed.own shop) (shopUpdated.own servedShop) :=
    ⟨by decide, by decide⟩
  have hparents : shopListed.ParentsAgree shop (some fun _ ↦ .refused) (.modified shopServed)
      servedShop := by
    intro a a' ha ha'
    rw [← ha.inherited_eq, ← ha'.inherited_eq]
    exact ⟨by decide +kernel, by decide +kernel⟩
  have hdone : (shopListed.controller.handle {} shopListed.change
      shopListed.write).isStuck = false := by decide +kernel
  have hdone' : (shopUpdated.controller.handle {} shopUpdated.change
      shopListed.write).isStuck = false := by decide +kernel
  obtain ⟨⟨hroster, -⟩, -, hdisk, hattempts⟩ := only_relevant_parts_matter {} hkey hshows hshows'
    halike hown hparents hdone hdone'
  exact ⟨hkey, hshows, hshows', halike, hown, hdone, hdone', by decide +kernel, hroster, hdisk,
    hattempts⟩

end Event

end EndpointSync
