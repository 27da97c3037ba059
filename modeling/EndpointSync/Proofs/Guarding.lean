import EndpointSync.Proofs.Hosts
import EndpointSync.Proofs.Layers
import EndpointSync.Proofs.SameTemplates

/-!
# Guarded endpoints that are not checked by name

A template that mentions guarding is looked at twice. First the merged template is searched for the
key `guarded`, and if it has that, the endpoint becomes a check that the name of its host resolves.
Then the template is applied to the endpoint, and whatever it says under a key that reads as
`guarded` sets the flag.

The search compares keys as values, so it finds the plain key and no other. The application sees
through tags. The two disagree about a template that names guarding under tagged keys alone
(`Template.Names`, `Template.HasPlain`), and if the last truth value that such a template has for it
is yes, the endpoint is flagged as guarded and still monitored at its URL. This is the only way in
which it can happen: as soon as one of the two templates has the plain key, there is a check for the
flag to agree with, whatever else they say.
-/

namespace EndpointSync

open Yaml (Mapping Tree)

/-! ## Keys of an overlay -/

namespace Yaml.Mapping

variable {P : Tree → Prop}

private theorem exists_key_insert (hP : ∀ {a b : Tree}, a.same b = true → P b → P a) (m : Mapping)
    (key value : Tree) :
    (∃ k ∈ keys (m.insert key value), P k) ↔ (∃ k ∈ keys m, P k) ∨ P key := by
  rw [keys_insert]
  split
  next hused =>
    obtain ⟨k, hk, hsame⟩ := contains_iff.mp hused
    exact (or_iff_left_of_imp fun hkey ↦ ⟨k, hk, hP hsame hkey⟩).symm
  next => simp [or_and_right, exists_or]

/-- A key of some sort is in an overlay exactly if one of the two mappings has one, provided that
keys of this sort collide with no others. -/
theorem exists_key_overlay (hP : ∀ {a b : Tree}, a.same b = true → P b → P a)
    (base upper : Mapping) :
    (∃ k ∈ keys (Mapping.overlay base upper), P k) ↔
      (∃ k ∈ keys base, P k) ∨ ∃ k ∈ keys upper, P k := by
  induction upper generalizing base with
  | nil =>
    rw [Mapping.overlay]
    simp
  | cons e rest ih =>
    rw [Mapping.overlay, ih, exists_key_insert hP, keys_cons, List.exists_mem_cons_iff, or_assoc]

end Yaml.Mapping

/-! ## What a template says about guarding -/

namespace Template

variable {t : Template} {setting : String} {parent own : Option Template}

/-- The template has a key that reads as the name of a setting, with a tag or without. -/
def Names (t : Template) (setting : String) : Prop :=
  ∃ key ∈ Mapping.keys t, key.str? = some setting

/-- The template has the name of a setting itself as a key, without a tag. -/
def HasPlain (t : Template) (setting : String) : Prop :=
  ∃ key ∈ Mapping.keys t, key = .str setting

/-- One of two templates has a property. -/
def Either (parent own : Option Template) (P : Template → Prop) : Prop :=
  (∃ t ∈ parent, P t) ∨ ∃ t ∈ own, P t

/-- Of the truth values that a template has for guarding, the last one. -/
def guarded? (t : Template) : Option Bool := ((t.valuesOf "guarded").filterMap Tree.bool?).getLast?

theorem hasPlain_iff : t.HasPlain setting ↔ Mapping.contains t (.str setting) = true := by
  simp only [HasPlain, Mapping.contains_iff, Tree.same_str_iff]

theorem HasPlain.names (h : t.HasPlain setting) : t.Names setting := by
  obtain ⟨key, hkey, rfl⟩ := h
  exact ⟨_, hkey, rfl⟩

theorem exists_key_merge {P : Tree → Prop} (hP : ∀ {a b : Tree}, a.same b = true → P b → P a) :
    (∃ k ∈ Mapping.keys ((merge parent own).getD []), P k) ↔
      Either parent own fun t ↦ ∃ k ∈ Mapping.keys t, P k := by
  cases parent with
  | none => cases own <;> simp [merge, Either]
  | some below =>
    cases own with
    | none => simp [merge, Either]
    | some above => simpa [merge, Either] using Mapping.exists_key_overlay hP below above

theorem names_merge : Names ((merge parent own).getD []) setting ↔
    Either parent own (·.Names setting) :=
  exists_key_merge fun hsame hname ↦ (Tree.str?_of_same _ hsame).trans hname

theorem hasPlain_merge : HasPlain ((merge parent own).getD []) setting ↔
    Either parent own (·.HasPlain setting) :=
  exists_key_merge fun hsame hplain ↦ Tree.same_str_iff.mp (hplain ▸ hsame)

end Template

/-- **Whether an endpoint is guarded under a template** is decided by the last truth value that the
template has for it. -/
theorem Endpoint.guarded_applyTemplate (e : Endpoint) (t : Template) :
    (e.applyTemplate t).guarded = t.guarded?.getD e.guarded :=
  (Part.guarded.read_applyTemplate_eq_foldl e t).trans (foldl_getD Tree.bool? _ _)

theorem Endpoint.guarded_eq_of_same {a b : Endpoint} (h : a.same b = true) :
    a.guarded = b.guarded := (same_iff.mp h).1.2.2.2.2.2

/-! ## Checks that a name resolves -/

/-- The endpoint has been made a check that the name of a host resolves. -/
def Endpoint.Probes (e : Endpoint) (host : String) : Prop :=
  ∃ before : Endpoint, e = before.probeName host

theorem Endpoint.Probes.conditions {e : Endpoint} {host : String} (h : e.Probes host) :
    e.conditions = [resolved] := by
  obtain ⟨before, rfl⟩ := h
  rfl

namespace Rules

variable {κ : Type} {r : Rules κ} {obj : κ}

private theorem assignCheck_of_not_guarded {e : Endpoint} (he : e.guarded = false) :
    r.assignCheck obj e = r.assignConditions e := by
  rw [assignCheck]
  split
  · rw [if_neg (by rw [he]; exact Bool.false_ne_true)]
  · rfl

/-- The search of the merged template finds the plain key and no other. -/
theorem asksForGuard_iff {parent own : Option Template} :
    asksForGuard (Template.merge parent own) = true ↔
      Template.Either parent own (·.HasPlain "guarded") := by
  rw [← Template.hasPlain_merge, Template.hasPlain_iff, asksForGuard]
  cases Template.merge parent own with
  | none => exact iff_of_false Bool.false_ne_true Bool.false_ne_true
  | some t => rfl

end Rules

/-- What a route or an ingress is monitored by, before its template, is a check that its host
resolves exactly if the endpoint has been said to be guarded. -/
theorem Kind.base_probes_iff {k : Kind} (hk : k ≠ .service) (c : Config) {obj : k.Form}
    {url host : String} (h : k.rules.host? obj = some host) (guarded : Bool) :
    (k.rules.base c obj url guarded).Probes host ↔ guarded = true := by
  rw [Rules.base, Rules.prescribe]
  generalize hgroup : k.rules.assignGroup c obj _ = e
  have hguarded : e.guarded = guarded := hgroup ▸ (k.rules.assignGroup_keeps c obj _).2.1
  cases guarded with
  | true => exact iff_of_true ⟨e, Rules.assignCheck_of_host? h hguarded⟩ rfl
  | false =>
    have hconditions : (k.rules.assignCheck obj e).conditions = [statusOk] := by
      rw [Rules.assignCheck_of_not_guarded hguarded]
      cases k with
      | service => exact absurd rfl hk
      | _ => rfl
    refine iff_of_false (fun hprobes ↦ ?_) Bool.false_ne_true
    exact absurd (hconditions.symm.trans hprobes.conditions) (by decide)

/-! ## What is stored -/

namespace Event

variable {e : Event} {obj : e.kind.Form} {url : String} {parent own : Option Template}

/-- **When a guarded endpoint is not checked by name.** Suppose that a route, an ingress or an
ingress route is weighed, that its monitoring is not switched off, and that its template and that of
its parent read, if they are there. Then what is stored is what its kind prescribes with the merged
template on top. Before the template came on top, it had been made a check that the name of the
object's host resolves if and only if one of the two templates has the plain key `guarded`. So it is
guarded without that check if and only if neither of them has, and the last truth value that they
have under tagged keys is yes. The search for the key and the application of the template agree
about whether it is there, unless it is named under tagged keys alone. -/
theorem guarded_unchecked_iff (hk : e.kind ≠ .service) (hweighs : e.Weighs obj url)
    (henabled : ¬e.Disabled obj)
    (hparent : Template.read .parent (e.inherited obj) e.config.templateKey = .ok parent)
    (hown : Template.read .object (e.own obj) e.config.templateKey = .ok own) (s : Store) :
    ∃ (stored before : Endpoint) (host : String),
      (step s e).roster.get? e.key = some stored ∧
      before = e.base obj url (Rules.asksForGuard (Template.merge parent own)) ∧
      stored.same (before.applyTemplate ((Template.merge parent own).getD [])) = true ∧
      e.kind.rules.host? obj = some host ∧
      (before.Probes host ↔ Template.Either parent own (·.HasPlain "guarded")) ∧
      (stored.guarded = true ∧ ¬before.Probes host ↔
        Template.guarded? ((Template.merge parent own).getD []) = some true ∧
          ¬Template.Either parent own (·.HasPlain "guarded")) ∧
      ((Rules.asksForGuard (Template.merge parent own) = true ↔
          Template.Names ((Template.merge parent own).getD []) "guarded") ↔
        (Template.Either parent own (·.Names "guarded") →
          Template.Either parent own (·.HasPlain "guarded"))) := by
  have hentry := sameEntry_step s
    (Settles.derived hweighs henabled (template_of_read hparent hown))
  obtain ⟨host, hhost, -⟩ := Kind.addresses hk hweighs.url_eq
  have hprobes : (e.base obj url (Rules.asksForGuard (Template.merge parent own))).Probes host ↔
      Template.Either parent own (·.HasPlain "guarded") :=
    (Kind.base_probes_iff hk e.config hhost _).trans Rules.asksForGuard_iff
  generalize hstored : (step s e).roster.get? e.key = entry at hentry
  cases hentry with
  | @some stored _ hsame =>
    refine ⟨stored, _, host, rfl, rfl, hsame, hhost, hprobes, ?_, ?_⟩
    · rw [hprobes]
      refine and_congr_left fun hplain ↦ ?_
      -- without the plain key the flag starts as no, so the template has the only say
      have hasks := Bool.eq_false_iff.mpr (mt Rules.asksForGuard_iff.mp hplain)
      have hbase := (e.kind.rules.base_keeps e.config obj url
        (Rules.asksForGuard (Template.merge parent own))).2.1.trans hasks
      rw [Endpoint.guarded_eq_of_same hsame, Rules.endpointOf, Endpoint.guarded_applyTemplate,
        hbase]
      cases Template.guarded? ((Template.merge parent own).getD []) <;> simp
    · rw [Rules.asksForGuard_iff, Template.names_merge]
      refine ⟨fun h ↦ h.mpr, fun h ↦ ⟨fun hplain ↦ ?_, h⟩⟩
      exact Template.names_merge.mp (Template.hasPlain_merge.mpr hplain).names

/-! ### A route with a tagged key -/

/-- A route whose template says yes to guarding under a tagged key. -/
def taggedGuardObject : Cluster.Object where
  metadata := {
    name := some "api"
    namespaceName := some "apps"
    annotations := [("gatus.home-operations.com/endpoint", "!x guarded: true")] }
  data := .obj [("spec", .obj [("hostnames", .arr [.str "api.example.com"])])]

def taggedGuardAdded : Event where
  kind := .httpRoute
  config := {}
  server := none
  change := .added taggedGuardObject
  write := .now

def taggedGuard : taggedGuardAdded.kind.Form :=
  ({ metadata := taggedGuardObject.metadata, hostnames := some ["api.example.com"] } :
    Cluster.HttpRoute)

/-- Its template reads. It says yes under a key that is not the plain one, and nothing of a URL. -/
theorem template_taggedGuard : ∃ t,
    Template.read .object (taggedGuardAdded.own taggedGuard) taggedGuardAdded.config.templateKey
      = .ok (some t) ∧
    t.guarded? = some true ∧ ¬t.HasPlain "guarded" ∧ t.Names "guarded" ∧
    t.valuesOf "url" = [] := by
  have hread : (Template.read .object (taggedGuardAdded.own taggedGuard)
      taggedGuardAdded.config.templateKey).toOption.any (fun t ↦ t.any fun (t : Template) ↦
        t.guarded? == some true && !Mapping.contains t (.str "guarded") &&
          (Mapping.keys t).any (·.str? == some "guarded") && (t.valuesOf "url").isEmpty)
      = true := by decide +kernel
  obtain ⟨found, htemplate, hfound⟩ := Yaml.of_toOption_any hread
  obtain ⟨t, rfl, hchecked⟩ := (Option.any_eq_true _ _).mp hfound
  simp only [Bool.and_eq_true, beq_iff_eq, Bool.not_eq_true', List.any_eq_true,
    List.isEmpty_iff] at hchecked
  obtain ⟨⟨⟨hyes, hplain⟩, hnames⟩, hurl⟩ := hchecked
  refine ⟨t, htemplate, hyes, fun h ↦ ?_, hnames, hurl⟩
  rw [Template.hasPlain_iff.mp h] at hplain
  exact absurd hplain (by simp)

/-- The route is flagged as guarded, but it is monitored at its URL. The search for the key and the
application of the template do not agree about it. -/
theorem taggedGuard_is_unchecked : ∃ (stored : Endpoint) (t : Template),
    (step {} taggedGuardAdded).roster.get? taggedGuardAdded.key = some stored ∧
    stored.guarded = true ∧ stored.url = "https://api.example.com" ∧
    ¬(taggedGuardAdded.base taggedGuard "https://api.example.com" false).Probes
      "api.example.com" ∧
    Rules.asksForGuard (some t) = false ∧ t.Names "guarded" := by
  have hweighs : taggedGuardAdded.Weighs taggedGuard "https://api.example.com" :=
    ⟨⟨taggedGuardObject, rfl, by rfl⟩, by decide +kernel, by decide +kernel, by decide +kernel⟩
  have henabled : ¬taggedGuardAdded.Disabled taggedGuard :=
    (not_congr disabled_iff).mpr (by decide +kernel)
  obtain ⟨t, hown, hyes, hplain, hnames, hurl⟩ := template_taggedGuard
  have hparent : Template.read .parent (taggedGuardAdded.inherited taggedGuard)
      taggedGuardAdded.config.templateKey = .ok none := rfl
  have hneither : ¬Template.Either none (some t) (·.HasPlain "guarded") := by
    simpa [Template.Either] using hplain
  obtain ⟨stored, before, host, hstored, hbefore, hsame, hhost, -, hunchecked, -⟩ :=
    guarded_unchecked_iff (by decide) hweighs henabled hparent hown {}
  have hasks : Rules.asksForGuard (Template.merge none (some t)) = false :=
    Bool.eq_false_iff.mpr (mt Rules.asksForGuard_iff.mp hneither)
  have hhost' : "api.example.com" = host := Option.some.inj hhost
  obtain ⟨hguarded, hprobes⟩ := hunchecked.mpr ⟨hyes, hneither⟩
  have hbase : before = taggedGuardAdded.base taggedGuard "https://api.example.com" false :=
    hbefore.trans (congrArg (taggedGuardAdded.base taggedGuard _) hasks)
  refine ⟨stored, t, hstored, hguarded, ?_, ?_, hasks, hnames⟩
  · have happlied := Endpoint.Part.url.read_applyTemplate_eq_foldl before t
    have hnone : t.valuesOf Endpoint.Part.url.setting = [] := hurl
    rw [hnone, List.foldl_nil] at happlied
    rw [(Endpoint.same_iff.mp hsame).1.2.2.1]
    exact happlied.trans (congrArg Endpoint.url hbase)
  · rw [← hbase, hhost']
    exact hprobes

end Event

end EndpointSync
