import EndpointSync.Proofs.Relevance
import EndpointSync.Proofs.SameTemplates

/-!
# Keys in another order

Somebody sorts the keys of a template, or a tool writes them back in an order of its own. The
document is the same value, and nothing should come of it. This is so from one end to the other.
Overlays of mappings that are the same are the same, and so are endpoints to which templates that
are the same have been applied. An endpoint that is the same as the one in the roster changes
nothing there, so no call of the store finds anything to change, and nothing is written.

## What is carried along

The order of keys can be seen as soon as two of them read as one string, since the later value then
counts. Annotations are therefore compared by what is read from them (`Config.Reordered`), which
asks that no two keys of a template do. The template of an object and the one that it inherits are
two documents, and a name that each of them has once may come twice in the merged one. What is
carried along through the merge is not that every setting is named once, but that the templates are
alike (`Template.Alike`).
-/

namespace EndpointSync

open Cluster (Change Server)
open Yaml (Mapping Tree)

/-! ## Templates that are read -/

namespace Template

/-- Two readings come to the same fault, or to templates alike, or to no template. -/
inductive ReadAlike : Except Invalid (Option Template) → Except Invalid (Option Template) → Prop
    where
  | error (why : Invalid) : ReadAlike (.error why) (.error why)
  | ok {t u : Option Template} : Option.Rel Alike t u → ReadAlike (.ok t) (.ok u)

variable {scope : Scope} {a b : Annotations} {key : String} {t u t' u' : Option Template}

theorem wellFormed_of_read {t : Template} (h : read scope a key = .ok (some t)) :
    Mapping.WellFormed t := by
  obtain ⟨text, hparse⟩ := parse_of_read h
  exact Mapping.wellFormed_of_parse hparse

theorem readAlike_read (scope : Scope) (a : Annotations) (key : String) :
    ReadAlike (read scope a key) (read scope a key) := by
  rcases hread : read scope a key with why | _ | t
  · exact .error why
  · exact .ok .none
  · exact .ok (.some (alike_refl (wellFormed_of_read hread)))

theorem isSome_lookup_of_read {t : Template} (h : read scope a key = .ok (some t)) :
    (a.lookup key).isSome = true := by
  rcases hlookup : a.lookup key with _ | text
  · rw [read, hlookup] at h
    exact absurd h (by simp)
  · rfl

private theorem rel_merge (h : Option.Rel Alike t u) (h' : Option.Rel Alike t' u') :
    Option.Rel Alike (merge t t') (merge u u') := by
  obtain h | - := h
  · obtain h' | - := h'
    · exact .some (h.overlay h')
    · exact .some h
  · exact h'

private theorem alike_getD (h : Option.Rel Alike t u) : (t.getD []).Alike (u.getD []) := by
  obtain h | - := h
  · exact h
  · exact alike_refl Mapping.wellFormed_nil

private theorem asksForGuard_eq (h : Option.Rel Alike t u) :
    Rules.asksForGuard t = Rules.asksForGuard u := by
  obtain h | - := h
  · exact h.contains_eq (k := .str "guarded") trivial (Tree.same_refl _)
  · rfl

end Template

open Template (ReadAlike)

/-- Two sets of annotations say the same in those two places that are looked at, or their templates
are the same value, with no two keys at the top that read as one string. -/
structure Config.Reordered (c : Config) (scope : Template.Scope) (a b : Annotations) : Prop where
  enabled : a.lookup c.enabledKey = b.lookup c.enabledKey
  template : a.lookup c.templateKey = b.lookup c.templateKey ∨
    ∃ t u, Template.read scope a c.templateKey = .ok (some t) ∧
      Template.read scope b c.templateKey = .ok (some u) ∧ Mapping.same t u = true ∧ t.NamesOnce

namespace Config.Reordered

variable {c : Config} {scope : Template.Scope} {a b : Annotations}

theorem read (h : c.Reordered scope a b) :
    ReadAlike (Template.read scope a c.templateKey) (Template.read scope b c.templateKey) := by
  rcases h.template with hsame | ⟨t, u, ht, hu, hsame, hnames⟩
  · have hread : Template.read scope a c.templateKey = Template.read scope b c.templateKey := by
      rw [Template.read, Template.read, hsame]
    rw [hread]
    exact Template.readAlike_read scope b c.templateKey
  · rw [ht, hu]
    exact .ok (.some (Template.alike_of_same (Template.wellFormed_of_read ht)
      (Template.wellFormed_of_read hu) hsame hnames))

theorem isSome_eq (h : c.Reordered scope a b) :
    (a.lookup c.templateKey).isSome = (b.lookup c.templateKey).isSome := by
  rcases h.template with hsame | ⟨t, u, ht, hu, -⟩
  · rw [hsame]
  · rw [Template.isSome_lookup_of_read ht, Template.isSome_lookup_of_read hu]

end Config.Reordered

/-- Reading the templates tells whether they are the same up to order. -/
theorem Config.reordered_of_read {c : Config} {scope : Template.Scope} {a b : Annotations}
    (h : (a.lookup c.enabledKey == b.lookup c.enabledKey &&
      match Template.read scope a c.templateKey, Template.read scope b c.templateKey with
      | .ok (some t), .ok (some u) => Mapping.same t u && decide t.NamesOnce
      | _, _ => false) = true) : c.Reordered scope a b := by
  obtain ⟨henabled, hread⟩ := (Bool.and_eq_true _ _).mp h
  refine ⟨beq_iff_eq.mp henabled, .inr ?_⟩
  split at hread
  next t u ht hu =>
    rw [Bool.and_eq_true, decide_eq_true_iff] at hread
    exact ⟨t, u, ht, hu, hread.1, hread.2⟩
  · exact absurd hread (by simp)

/-! ## Verdicts -/

/-- Two verdicts are equal, or nothing tells their endpoints apart. -/
inductive Verdict.Alike : Verdict → Verdict → Prop where
  | refl (v : Verdict) : Alike v v
  | endpoint {a b : Endpoint} : a.same b = true → Alike (.endpoint a) (.endpoint b)

theorem Roster.Settled.of_alike {r : Roster} {key : Key} {v w : Verdict}
    (h : r.Settled (some (key, v))) (halike : v.Alike w) : r.Settled (some (key, w)) := by
  rcases halike with _ | hsame
  · exact h
  · rw [Settled, Option.any_eq_true] at h ⊢
    obtain ⟨old, hold, hkept⟩ := h
    exact ⟨old, hold, Endpoint.same_trans hkept hsame⟩

namespace Rules

variable {κ : Type} {r : Rules κ} {c : Config} {a b : κ} {parent parent' own own' : Annotations}

theorem templateOf_alike (hparent : c.Reordered .parent parent parent')
    (hown : c.Reordered .object own own') :
    ReadAlike (templateOf c parent own) (templateOf c parent' own') := by
  rw [templateOf, templateOf]
  have hlower := hparent.read
  generalize Template.read .parent parent c.templateKey = x at hlower
  generalize Template.read .parent parent' c.templateKey = y at hlower
  obtain why | hlower := hlower
  · exact .error why
  have hupper := hown.read
  generalize Template.read .object own c.templateKey = x at hupper
  generalize Template.read .object own' c.templateKey = y at hupper
  obtain why | hupper := hupper
  · exact .error why
  · exact .ok (Template.rel_merge hlower hupper)

theorem endpointOf_same (h : r.Indistinct c a b) (url : String) {t u : Option Template}
    (halike : Option.Rel Template.Alike t u) :
    (r.endpointOf c a url t).same (r.endpointOf c b url u) = true := by
  rw [endpointOf, endpointOf, base_congr h, Template.asksForGuard_eq halike]
  have hwell : (r.base c b url (asksForGuard u)).WellFormed :=
    all_base Tree.overlaid_wellFormed r c b url _
  have hsorted : Endpoint.Sorted (r.base c b url (asksForGuard u)).extra := by
    rw [(r.base_keeps c b url (asksForGuard u)).2.2]
    exact List.Pairwise.nil
  exact Endpoint.applyTemplate_same hwell hwell ⟨hsorted, hsorted⟩ (Endpoint.same_refl _)
    (Template.alike_getD halike)

theorem judgeWith_alike (h : r.Indistinct c a b) (hparent : c.Reordered .parent parent parent')
    (hown : c.Reordered .object (r.metadata a).annotations (r.metadata b).annotations)
    (url : String) : (r.judgeWith c a url parent).Alike (r.judgeWith c b url parent') := by
  have hswitch : switch? c parent (r.metadata a).annotations
      = switch? c parent' (r.metadata b).annotations := by
    rw [switch?, switch?, hparent.enabled, hown.enabled]
  rw [judgeWith, judgeWith, hswitch]
  split
  · have htemplate := templateOf_alike hparent hown
    generalize templateOf c parent (r.metadata a).annotations = x at htemplate
    generalize templateOf c parent' (r.metadata b).annotations = y at htemplate
    obtain why | halike := htemplate
    · exact .refl _
    · exact .endpoint (endpointOf_same h url halike)
  · exact .refl _

end Rules

/-! ## Events -/

namespace Event

/-- An event with another object of the same kind differs from one with the first object in what
annotations say that nobody looks at, and in the order of the keys of templates. -/
structure Reordered (e : Event) (server : Option Server) (change : Change)
    (obj obj' : e.kind.Form) : Prop where
  key : (e.instead server change).key = e.key
  shows : e.Shows obj
  shows' : (e.instead server change).Shows obj'
  alike : e.kind.Alike obj obj'
  own : e.config.Reordered .object (e.own obj) ((e.instead server change).own obj')
  /-- It is so with what is learned of the parents too. -/
  parents : ∀ a a', e.ParentSays obj a → (e.instead server change).ParentSays obj' a' →
    e.config.Reordered .parent a a'

variable {e : Event} {server : Option Server} {change : Change} {obj obj' : e.kind.Form}

/-- Where the first of the events has been dealt with, what the second one asks for is there. -/
theorem Reordered.settled (h : e.Reordered server change obj obj') {r : Roster}
    (hdone : e.controller.stalls e.change = false) (hsettled : r.Settled e.ruling) :
    r.Settled (e.instead server change).ruling := by
  by_cases hdone' : (e.instead server change).controller.stalls change = true
  · rw [show (e.instead server change).ruling = none from Controller.ruling_of_stalls hdone']
    trivial
  rw [Bool.not_eq_true] at hdone'
  have hindistinct := indistinct_instead h.key h.shows h.shows' h.alike
  have hscope : e.kind.rules.shouldProcess e.config obj
      = e.kind.rules.shouldProcess e.config obj' :=
    Rules.shouldProcess_congr hindistinct (congrArg Option.isSome h.own.enabled) h.own.isSome_eq
  rcases ruling_eq_or_weigh h.key h.shows h.shows' hindistinct hscope hdone hdone' with
    hequal | ⟨url, hweighs, hweighs'⟩
  · rw [hequal]
    exact hsettled
  · obtain ⟨a, ha⟩ := exists_parentSays hweighs.answered
    obtain ⟨a', ha'⟩ := exists_parentSays hweighs'.answered
    rw [hweighs.ruling, ha.inherited_eq] at hsettled
    rw [hweighs'.ruling, ha'.inherited_eq, h.key]
    exact hsettled.of_alike (Rules.judgeWith_alike hindistinct (h.parents a a' ha ha') h.own url)

/-- What an event asks for stays there until an event of the same key says something else. -/
theorem settled_replay (s : Store) (e : Event) {later : List Event}
    (hlater : ∀ f ∈ later, f.key = e.key → f.Skipped) :
    (replay (step s e) later).roster.Settled e.ruling := by
  have hsettled : (step s e).roster.Settled e.ruling := by
    rw [roster_step]
    exact Roster.settled_settle s.roster e.ruling
  have hkept := get?_replay_of_skipped (step s e) hlater
  rcases e.skipped_or_settles with hskipped | ⟨entry, hsettles⟩
  · rcases hskipped.ruling with hnone | hnoUrl | ⟨why, hinvalid⟩
    · rw [hnone]
      trivial
    · rw [hnoUrl]
      trivial
    · rw [hinvalid]
      trivial
  · rw [hsettles.ruling] at hsettled ⊢
    exact hsettled.congr hkept

/-- **What is the same is treated the same.** Overlays of mappings that are the same are the same.
Templates that are the same make such endpoints of endpoints that are the same, provided that no two
keys of a template read as one string. So suppose that an object has been dealt with and comes once
more, with the keys of its template or of the inherited one in another order, at any depth. Then
every call of the store answers that there is nothing to change, the roster and the file stay as
they are, and no write is tried. Events of other objects may come in between. -/
theorem sameness_is_respected :
    (∀ {base base' upper upper' : Mapping}, base.WellFormed → base'.WellFormed →
      upper.WellFormed → upper'.WellFormed → Mapping.same base base' = true →
      Mapping.same upper upper' = true →
      Mapping.same (Mapping.overlay base upper) (Mapping.overlay base' upper') = true) ∧
    (∀ {a b : Endpoint} {t u : Template}, a.WellFormed → b.WellFormed →
      Endpoint.Sorted a.extra → Endpoint.Sorted b.extra → Mapping.WellFormed t →
      Mapping.WellFormed u → a.same b = true → Mapping.same t u = true → t.NamesOnce →
      (a.applyTemplate t).same (b.applyTemplate u) = true) ∧
    ∀ {e : Event} {server : Option Server} {change : Change} {obj obj' : e.kind.Form} (s : Store)
      {later : List Event} (w : Write), e.Reordered server change obj obj' →
      (e.controller.handle s e.change e.write).isStuck = false →
      (∀ f ∈ later, f.key = e.key → f.Skipped) →
      let before := replay (step s e) later
      let after := step before { e.instead server change with write := w }
      (∀ call ∈ Controller.callsOf w (e.instead server change).ruling,
        call.answer? before = some false) ∧
      after.roster = before.roster ∧ after.disk = before.disk ∧
      after.attempts = before.attempts := by
  refine ⟨Mapping.overlay_same, ?_, ?_⟩
  · intro a b t u ha hb hasorted hbsorted ht hu hsame htemplates hnames
    exact Endpoint.applyTemplate_same ha hb ⟨hasorted, hbsorted⟩ hsame
      (Template.alike_of_same ht hu htemplates hnames)
  · intro e server change obj obj' s later w hreordered hdone hlater
    rw [Controller.isStuck_handle] at hdone
    have hsettled := hreordered.settled hdone (settled_replay s e hlater)
    have hagree := Controller.agree_handle_of_settled hsettled w
    refine ⟨hsettled.answer? w, hagree.roster, hagree.disk, ?_⟩
    exact Store.attempts_of_adds (Controller.adds_handle_of_settled hsettled w)

/-! ### A template that was sorted -/

/-- A mapping with a zero for a key, and another one. -/
def weights : Mapping :=
  [(.float (.finite false 0 0), .map [(.str "a", .float .nan), (.str "b", .null)]), (.int 1, .null)]

/-- The same, with the keys in another order and with the other zero. -/
def sortedWeights : Mapping :=
  [(.int 1, .null), (.float (.finite true 0 0), .map [(.str "b", .null), (.str "a", .float .nan)])]

private theorem weights_wellFormed : weights.WellFormed ∧ sortedWeights.WellFormed := by
  constructor <;> simp [weights, sortedWeights, Mapping.wellFormed_iff, Tree.WellFormed,
    Tree.EntriesWellFormed, Mapping.Distinct, Tree.same]

/-- A page with such settings, and the same as they are after sorting. -/
def weighted (m : Mapping) : Endpoint := { name := "web", url := "", interval := "1m", ui := m }

def weighing (m : Mapping) : Template := [(.str "ui", .map m), (.str "weights", .map m)]

theorem weighted_wellFormed {m : Mapping} (hm : m.WellFormed) : (weighted m).WellFormed :=
  ⟨Mapping.wellFormed_nil, Mapping.wellFormed_nil, hm, fun _ h ↦ absurd h List.not_mem_nil⟩

theorem weighing_wellFormed {m : Mapping} (hm : m.WellFormed) :
    Mapping.WellFormed (weighing m) ∧ Mapping.WellFormed (weighing m).reverse := by
  rw [Mapping.WellFormed, Tree.WellFormed] at hm
  constructor <;> simpa [weighing, Mapping.wellFormed_iff, Tree.WellFormed, Mapping.Distinct,
    Tree.same] using hm

/-- The ingress with a template of its own. -/
def badgedObject : Cluster.Object :=
  { shopObject with metadata := { shopObject.metadata with
      annotations := [("gatus.home-operations.com/endpoint",
        "\x7bui: \x7bbadge: small, title: Shop\x7d, weight: 0.0, group: web\x7d")] } }

/-- The ingress after its template was sorted. -/
def sortedObject : Cluster.Object :=
  { shopObject with metadata := { shopObject.metadata with
      resourceVersion := some "2"
      annotations := [("gatus.home-operations.com/endpoint",
        "group: web\nui:\n  title: Shop\n  badge: small\nweight: -0.0\n")] } }

/-- The class of the ingress after its template was sorted too. -/
def sortedClass : Cluster.Response :=
  .reply 200 ("\x7b\"metadata\":\x7b\"annotations\":\x7b\"gatus.home-operations.com/endpoint\":" ++
    "\"\x7bui: \x7bhide-url: true\x7d, group: edge\x7d\"\x7d\x7d\x7d") .complete

def badgedAdded : Event := { shopAdded with change := .added badgedObject }

def shopWith (metadata : Cluster.Metadata) : badgedAdded.kind.Form :=
  (⟨metadata, some "public", [some "shop.example.com"], []⟩ : Cluster.Ingress)

private theorem badged_reordered :
    badgedAdded.Reordered (some fun _ ↦ sortedClass) (.modified sortedObject)
    (shopWith badgedObject.metadata) (shopWith sortedObject.metadata) where
  key := rfl
  shows := ⟨badgedObject, rfl, rfl⟩
  shows' := ⟨sortedObject, rfl, rfl⟩
  alike := ⟨rfl, rfl, fun _ ↦ Iff.rfl, by decide⟩
  own := Config.reordered_of_read (by decide +kernel)
  parents := by
    intro a a' ha ha'
    rw [← ha.inherited_eq, ← ha'.inherited_eq]
    exact Config.reordered_of_read (by decide +kernel)

/-- Weights that are sorted are the same, on their own and in an endpoint. When the templates of the
ingress and of its class come sorted, the endpoint of the ingress is there, and the file stays as it
is. Before that, another object has been added. -/
theorem sorting_has_no_effect :
    Mapping.same (Mapping.overlay weights (weighing weights))
      (Mapping.overlay sortedWeights (weighing sortedWeights).reverse) = true ∧
    ((weighted weights).applyTemplate (weighing weights)).same
      ((weighted sortedWeights).applyTemplate (weighing sortedWeights).reverse) = true ∧
    ((step {} badgedAdded).roster.get? badgedAdded.key).any (fun ep ↦ ep.group == "web") = true ∧
    optedIn.key ≠ badgedAdded.key ∧
    (step (replay (step {} badgedAdded) [optedIn])
      { badgedAdded.instead (some fun _ ↦ sortedClass) (.modified sortedObject) with
        write := .now }).disk = (replay (step {} badgedAdded) [optedIn]).disk := by
  obtain ⟨hweights, hsorted⟩ := weights_wellFormed
  have hbelow : Mapping.same weights sortedWeights = true := by decide
  have habove : Mapping.same (weighing weights) (weighing sortedWeights).reverse = true := by decide
  have hendpoint : (weighted weights).same (weighted sortedWeights) = true := by decide
  have hnames : Template.NamesOnce (weighing weights) := by decide
  have hkey : optedIn.key ≠ badgedAdded.key := by decide
  have hdone : (badgedAdded.controller.handle {} badgedAdded.change
      badgedAdded.write).isStuck = false := by decide +kernel
  have hlater : ∀ f ∈ [optedIn], f.key = badgedAdded.key → f.Skipped := by
    intro f hf hfkey
    rw [List.mem_singleton.mp hf] at hfkey
    exact absurd hfkey hkey
  obtain ⟨hoverlay, happly, hevents⟩ := sameness_is_respected
  refine ⟨?_, ?_, by decide +kernel, hkey, ?_⟩
  · exact hoverlay hweights hsorted (weighing_wellFormed hweights).1 (weighing_wellFormed hsorted).2
      hbelow habove
  · exact happly (weighted_wellFormed hweights) (weighted_wellFormed hsorted) List.Pairwise.nil
      List.Pairwise.nil (weighing_wellFormed hweights).1 (weighing_wellFormed hsorted).2 hendpoint
      habove hnames
  · exact (hevents {} .now badged_reordered hdone hlater).2.2.1

end Event

end EndpointSync
