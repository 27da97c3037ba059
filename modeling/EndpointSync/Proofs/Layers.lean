import EndpointSync.Proofs.LastEvent
import EndpointSync.Proofs.Settings

/-!
# Which layer decides a setting

An endpoint is put together from four layers: the defaults, what the kind prescribes, the template
of the parent and that of the object. Each setting is decided by the topmost layer that gives it a
value of the right type, and mappings are overlaid rather than replaced.

The two templates are merged before they are applied, so under each name they are one layer: the
object's own value, over that of the parent (`Template.combined`). Both have been read, so neither
holds a key twice, and that is all the merging needs.

Guarding is looked at twice. Whether the templates mention it decides what the kind prescribes,
before anything else is applied; whether they say yes or no only sets the flag, afterwards.
-/

namespace EndpointSync

open Yaml (Mapping Tree)

/-! ## The two templates -/

namespace Template

/-- What the templates of an object say under a name, its own over that of its parent. -/
def combined (parent own : Option Template) (name : String) : Option Tree :=
  Mapping.layered (parent.bind (Mapping.get? · (.str name))) (own.bind (Mapping.get? · (.str name)))

theorem parse_of_read {scope : Scope} {annotations : Annotations} {key : String} {t : Template}
    (h : Template.read scope annotations key = .ok (some t)) :
    ∃ text, Mapping.parse text = .ok (some t) := by
  rw [Template.read] at h
  split at h
  · exact absurd (Except.ok.inj h) (by simp)
  next text hfound =>
    split at h
    · exact absurd (Except.ok.inj h) (by simp)
    · cases hparse : Mapping.parse text with
      | error fault =>
        rw [hparse] at h
        exact absurd h (by simp [Except.mapError])
      | ok found =>
        rw [hparse] at h
        have hsome : found = some t := Except.ok.inj h
        exact ⟨text, hsome ▸ hparse⟩

theorem distinct_of_read {scope : Scope} {annotations : Annotations} {key : String} {t : Template}
    (h : Template.read scope annotations key = .ok (some t)) : Mapping.Distinct t := by
  obtain ⟨text, hparse⟩ := parse_of_read h
  exact Mapping.distinct_of_parse hparse

/-- What the merged template says is what the two of them say together. -/
theorem get?_merge {parent own : Option Template} (hown : ∀ t ∈ own, Mapping.Distinct t)
    (name : String) :
    Mapping.get? ((merge parent own).getD []) (.str name) = combined parent own name := by
  cases own with
  | none => cases parent <;> rfl
  | some above =>
    cases parent with
    | none => exact (Mapping.layered_none _).symm
    | some below => exact Mapping.get?_overlay_str below (hown above rfl) name

theorem merge_keeps {P : Mapping → Prop} (hnone : P [])
    (hoverlay : ∀ {below above}, P below → P above → P (Mapping.overlay below above))
    {parent own : Option Template} (hparent : ∀ t ∈ parent, P t) (hown : ∀ t ∈ own, P t) :
    P ((merge parent own).getD []) := by
  cases parent with
  | none =>
    cases own with
    | none => exact hnone
    | some above => exact hown above rfl
  | some below =>
    cases own with
    | none => exact hparent below rfl
    | some above => exact hoverlay (hparent below rfl) (hown above rfl)

end Template

/-! ## All four layers -/

namespace Rules

variable {κ : Type} (r : Rules κ) (c : Config) (obj : κ)

theorem assignGroup_keeps (e : Endpoint) : (r.assignGroup c obj e).name = e.name ∧
    (r.assignGroup c obj e).guarded = e.guarded ∧ (r.assignGroup c obj e).extra = e.extra := by
  rw [assignGroup]
  split <;> exact ⟨rfl, rfl, rfl⟩

/-- An endpoint becomes a check that a name resolves, stays as it is, or gets the conditions of its
kind. -/
theorem assignCheck_cases (e : Endpoint) : (∃ host, r.assignCheck obj e = e.probeName host) ∨
    r.assignCheck obj e = e ∨ r.assignCheck obj e = r.assignConditions e := by
  rw [assignCheck]
  cases r.guardedHost with
  | none => exact .inr (.inr rfl)
  | some host =>
    dsimp only
    split
    · cases host obj with
      | none => exact .inr (.inl rfl)
      | some name => exact .inl ⟨name, rfl⟩
    · exact .inr (.inr rfl)

private theorem assignCheck_keeps (e : Endpoint) : (r.assignCheck obj e).name = e.name ∧
    (r.assignCheck obj e).guarded = e.guarded ∧ (r.assignCheck obj e).extra = e.extra := by
  rcases r.assignCheck_cases obj e with ⟨host, hprobe⟩ | hsame | hconditions
  · rw [hprobe]
    exact ⟨rfl, rfl, rfl⟩
  · rw [hsame]
    exact ⟨rfl, rfl, rfl⟩
  · rw [hconditions]
    exact ⟨rfl, rfl, rfl⟩

/-- No kind prescribes a name, settings of its own, or whether an endpoint is guarded. -/
theorem base_keeps (url : String) (guarded : Bool) :
    (r.base c obj url guarded).name = (r.metadata obj).anyName ∧
      (r.base c obj url guarded).guarded = guarded ∧ (r.base c obj url guarded).extra = [] := by
  rw [base, prescribe]
  obtain ⟨hname, hguarded, hextra⟩ := r.assignCheck_keeps obj (r.assignGroup c obj {
    name := (r.metadata obj).anyName, url, interval := c.defaultInterval.display, guarded })
  obtain ⟨hname', hguarded', hextra'⟩ := r.assignGroup_keeps c obj {
    name := (r.metadata obj).anyName, url, interval := c.defaultInterval.display, guarded }
  exact ⟨hname.trans hname', hguarded.trans hguarded', hextra.trans hextra'⟩

private theorem asksForGuard_merge {parent own : Option Template}
    (hown : ∀ t ∈ own, Mapping.Distinct t) : asksForGuard (Template.merge parent own)
      = (Template.combined parent own "guarded").isSome := by
  rw [← Template.get?_merge hown]
  cases Template.merge parent own with
  | none => rfl
  | some t => exact Mapping.contains_eq_isSome t _

end Rules

/-! ## The bottom layer -/

namespace Kind

/-- What objects of a kind are grouped by. -/
def groupOf : (k : Kind) → k.Form → String
  | .httpRoute, r => (r.parents.head?.map (·.name)).getD ""
  | .ingress, i => i.class?.getD ""
  | .service, s => s.metadata.namespaceName.getD ""
  | .ingressRoute, _ => ""

/-- The name that is resolved for a guarded endpoint, if the kind has one. -/
def resolves? : (k : Kind) → k.Form → Option String
  | .httpRoute, r => some (r.firstHostname?.getD "")
  | .ingress, i => some (i.firstHost?.getD "")
  | .service, _ => none
  | .ingressRoute, o => Cluster.IngressRoute.firstHost? o

def conditions : Kind → List String
  | .service => [connected]
  | _ => [statusOk]

/-- The endpoint of an object before any template: the defaults, the group if endpoints are grouped,
and a check of the URL or, if it is guarded, of the name. A service has no name to resolve, and an
ingress route without one gets no conditions at all. -/
def prescribed (k : Kind) (c : Config) (obj : k.Form) (url : String) (guarded : Bool) : Endpoint :=
  let plain : Endpoint := {
    name := (k.rules.metadata obj).anyName
    url
    interval := c.defaultInterval.display
    group := if c.autoGroup then k.groupOf obj else ""
    guarded }
  match guarded, k.resolves? obj with
  | true, some host => { plain with
      url := publicResolver
      dns := [(.str "query-name", .str host), (.str "query-type", .str "A")]
      conditions := [resolved] }
  | true, none => if k = .service then { plain with conditions := [connected] } else plain
  | false, _ => { plain with conditions := k.conditions }

theorem assignGroup_eq (k : Kind) (c : Config) (obj : k.Form) {e : Endpoint} (h : e.group = "") :
    k.rules.assignGroup c obj e
      = { e with group := if c.autoGroup then k.groupOf obj else "" } := by
  rw [Rules.assignGroup, h]
  by_cases hauto : c.autoGroup = true
  · rw [if_pos hauto, if_pos hauto]
    cases k <;> rfl
  · rw [if_neg hauto, if_neg hauto, ← h]

theorem base_eq (k : Kind) (c : Config) (obj : k.Form) (url : String) (guarded : Bool) :
    k.rules.base c obj url guarded = k.prescribed c obj url guarded := by
  rw [Rules.base, Rules.prescribe, k.assignGroup_eq c obj rfl, prescribed.eq_def]
  cases guarded with
  | true =>
    cases k with
    | ingressRoute =>
      have hhost : (Kind.ingressRoute).resolves? obj = Cluster.IngressRoute.firstHost? obj := rfl
      rw [hhost, Rules.assignCheck]
      dsimp only [rules, Rules.IngressRoute.rules]
      cases Cluster.IngressRoute.firstHost? obj <;> rfl
    | _ => rfl
  | false => cases k <;> rfl

end Kind

namespace Event

variable {e : Event} {obj : e.kind.Form} {url : String} {parent own : Option Template}

theorem template_of_read
    (hparent : Template.read .parent (e.inherited obj) e.config.templateKey = .ok parent)
    (hown : Template.read .object (e.own obj) e.config.templateKey = .ok own) :
    e.template obj = .ok (Template.merge parent own) := by
  rw [template, Rules.templateOf, hparent, hown]
  rfl

/-- The endpoint of an object without its templates: the defaults and what its kind prescribes. -/
def base (e : Event) (obj : e.kind.Form) (url : String) (guarded : Bool) : Endpoint :=
  e.kind.rules.base e.config obj url guarded

/-- **Which layer decides a setting.** Suppose that an object is weighed, that its monitoring is not
switched off, and that its template and that of its parent read, if they are there, and have no
tagged keys. Then an endpoint stands under its key that is the same as the one which carries the two
templates, the object's own over the parent's, on top of what its kind prescribes. The kind is told
that the endpoint is guarded exactly if one of the templates mentions it. Unless a template says
otherwise, that is also what the flag says, and the name is that of the object. What the kind
prescribes besides is written down for each of them (`Kind.prescribed`). -/
theorem stored_carries_layers (hweighs : e.Weighs obj url) (henabled : ¬e.Disabled obj)
    (hparent : Template.read .parent (e.inherited obj) e.config.templateKey = .ok parent)
    (hown : Template.read .object (e.own obj) e.config.templateKey = .ok own)
    (hparentKeys : ∀ t ∈ parent, Mapping.Untagged t) (hownKeys : ∀ t ∈ own, Mapping.Untagged t)
    (s : Store) :
    ∃ stored ep, (step s e).roster.get? e.key = some stored ∧ stored.same ep = true ∧
      ep.Carries (e.base obj url (Template.combined parent own "guarded").isSome)
        (Template.combined parent own) ∧
      (e.base obj url (Template.combined parent own "guarded").isSome).name
        = (e.kind.rules.metadata obj).anyName ∧
      (e.base obj url (Template.combined parent own "guarded").isSome).guarded
        = (Template.combined parent own "guarded").isSome ∧
      e.base obj url (Template.combined parent own "guarded").isSome
        = e.kind.prescribed e.config obj url (Template.combined parent own "guarded").isSome := by
  have hparentOnce : ∀ t ∈ parent, Mapping.Distinct t :=
    fun t ht ↦ Template.distinct_of_read (hparent.trans (congrArg Except.ok ht))
  have hownOnce : ∀ t ∈ own, Mapping.Distinct t :=
    fun t ht ↦ Template.distinct_of_read (hown.trans (congrArg Except.ok ht))
  obtain ⟨hname, hguarded, hextra⟩ := e.kind.rules.base_keeps e.config obj url
    (Template.combined parent own "guarded").isSome
  -- the templates are applied as one, which says what the two of them say together
  have hdistinct : Mapping.Distinct ((Template.merge parent own).getD []) :=
    Template.merge_keeps List.Pairwise.nil (fun hbelow _ ↦ Mapping.Distinct.overlay hbelow _)
      hparentOnce hownOnce
  have huntagged : Mapping.Untagged ((Template.merge parent own).getD []) :=
    Template.merge_keeps (fun entry hentry ↦ absurd hentry List.not_mem_nil)
      Mapping.Untagged.overlay hparentKeys hownKeys
  have hcarries := Endpoint.carries_applyTemplate hextra hdistinct huntagged
  simp only [Template.get?_merge hownOnce] at hcarries
  have hsettles := Settles.derived hweighs henabled (template_of_read hparent hown)
  rw [Rules.endpointOf, Rules.asksForGuard_merge hownOnce] at hsettles
  have hentry := sameEntry_step s hsettles
  generalize hstored : (step s e).roster.get? e.key = entry at hentry
  cases hentry with
  | some hsame => exact ⟨_, _, rfl, hsame, hcarries, hname, hguarded, e.kind.base_eq ..⟩

/-! ### Templates of a class and of an ingress -/

/-- An ingress with a template. -/
def shopObject : Cluster.Object where
  typeName := some ⟨"networking.k8s.io/v1", "Ingress"⟩
  metadata := {
    name := some "shop"
    namespaceName := some "default"
    annotations := [("gatus.home-operations.com/endpoint",
      "\x7bguarded: false, ui: \x7bbadge: small\x7d, alerts: none\x7d")] }
  data := .obj [("spec", .obj [("ingressClassName", .str "public"),
    ("rules", .arr [.obj [("host", .str "shop.example.com")]])])]

/-- The class of the ingress, which has a template too. -/
def publicClass : Cluster.Response :=
  .reply 200 ("\x7b\"metadata\":\x7b\"annotations\":\x7b\"gatus.home-operations.com/endpoint\":" ++
    "\"\x7bgroup: edge, ui: \x7bhide-url: true\x7d\x7d\"\x7d\x7d\x7d") .complete

def shopAdded : Event where
  kind := .ingress
  config := {}
  server := some fun _ ↦ publicClass
  change := .added shopObject
  write := .now

def shop : shopAdded.kind.Form :=
  (⟨shopObject.metadata, some "public", [some "shop.example.com"], []⟩ : Cluster.Ingress)

private theorem shop_templates : ∃ parent own,
    Template.read .parent (shopAdded.inherited shop) shopAdded.config.templateKey = .ok parent ∧
    Template.read .object (shopAdded.own shop) shopAdded.config.templateKey = .ok own ∧
    (∀ t ∈ parent, Mapping.Untagged t) ∧ (∀ t ∈ own, Mapping.Untagged t) ∧
    (Template.combined parent own "group").bind Tree.str? = some "edge" ∧
    (Template.combined parent own "guarded").bind Tree.bool? = some false ∧
    (Template.combined parent own "guarded").isSome = true ∧
    (Template.combined parent own "url").isNone = true ∧
    (Template.combined parent own "alerts").bind Tree.str? = some "none" := by
  have hread : (match Template.read .parent (shopAdded.inherited shop) shopAdded.config.templateKey,
      Template.read .object (shopAdded.own shop) shopAdded.config.templateKey with
    | .ok parent, .ok own => decide
      ((∀ t ∈ parent, Mapping.Untagged t) ∧ (∀ t ∈ own, Mapping.Untagged t) ∧
        (Template.combined parent own "group").bind Tree.str? = some "edge" ∧
        (Template.combined parent own "guarded").bind Tree.bool? = some false ∧
        (Template.combined parent own "guarded").isSome = true ∧
        (Template.combined parent own "url").isNone = true ∧
        (Template.combined parent own "alerts").bind Tree.str? = some "none")
    | _, _ => false) = true := by decide +kernel
  split at hread
  next parent own hparent hown =>
    exact ⟨parent, own, hparent, hown, of_decide_eq_true hread⟩
  · exact absurd hread (by simp)

/-- The ingress gets the group of its class. It mentions guarding, so its name is resolved, although
it says that it is not guarded. -/
theorem shop_carries_layers : ∃ stored ep,
    (step {} shopAdded).roster.get? shopAdded.key = some stored ∧ stored.same ep = true ∧
    ep.group = "edge" ∧ ep.url = "1.1.1.1" ∧ ep.guarded = false ∧
    (ep.extra.lookup "alerts").bind Tree.str? = some "none" := by
  have hweighs : shopAdded.Weighs shop "http://shop.example.com" :=
    ⟨⟨shopObject, rfl, rfl⟩, by decide +kernel, by decide +kernel, by decide +kernel⟩
  have henabled : ¬shopAdded.Disabled shop := (not_congr disabled_iff).mpr (by decide +kernel)
  obtain ⟨parent, own, hparent, hown, hparentKeys, hownKeys, hgroup, hguarded, hmentioned, hurl,
    halerts⟩ := shop_templates
  obtain ⟨stored, ep, hstored, hsame, hcarries, -, -, -⟩ :=
    stored_carries_layers hweighs henabled hparent hown hparentKeys hownKeys {}
  rw [hmentioned] at hcarries
  refine ⟨stored, ep, hstored, hsame, ?_, ?_, ?_, ?_⟩
  · rw [hcarries.group, hgroup, Option.getD_some]
  · rw [hcarries.url, Option.isNone_iff_eq_none.mp hurl]
    rfl
  · rw [hcarries.guarded, hguarded, Option.getD_some]
  · rw [hcarries.extra, if_neg (by decide), halerts]

end Event

end EndpointSync
