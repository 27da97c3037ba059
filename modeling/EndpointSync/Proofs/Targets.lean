import EndpointSync.Proofs.Blocking
import EndpointSync.Proofs.Paths
import EndpointSync.Proofs.SameTemplates

/-!
# Endpoints without a target

An object without a URL gets no endpoint, and a check that a name resolves asks a resolver that has
an address. So an endpoint has a target before its template is applied. A template may set another
one, and here, other than with the name, an empty text counts as well: the endpoint is then kept and
written with nothing to monitor.

That is the only way there is. Of the texts that a template has for the URL, the last one is what
the endpoint gets (`Template.url?`), so whether an endpoint has no target can be told from the last
event of its key alone.
-/

namespace EndpointSync

open Yaml (Mapping Tree)

/-! ## The URL that a template sets -/

namespace Template

/-- Of the texts that a template has for the URL, the last one. -/
def url? (t : Template) : Option String := ((t.valuesOf "url").filterMap Tree.str?).getLast?

/-- None of the texts that a template has for the URL is empty. -/
def Targeted (t : Template) : Prop := ∀ entry ∈ t.naming "url", entry.2.str? ≠ some ""

variable {t : Template}

theorem Targeted.url?_ne (h : t.Targeted) : t.url? ≠ some "" := by
  intro hempty
  obtain ⟨v, hv, htext⟩ := List.mem_filterMap.mp (List.mem_of_getLast? hempty)
  obtain ⟨entry, hentry, rfl⟩ := List.mem_map.mp hv
  exact h entry hentry htext

private theorem targeted_nil : Targeted [] := fun _ h ↦ absurd h List.not_mem_nil

theorem targeted_cons_iff {entry : Tree × Tree} {rest : Template} :
    Targeted (entry :: rest) ↔
      (entry.1.str? = some "url" → entry.2.str? ≠ some "") ∧ Targeted rest := by
  simp only [Targeted, mem_naming, List.mem_cons, and_imp, forall_eq_or_imp]

theorem Targeted.insert (h : t.Targeted) {key value : Tree}
    (hvalue : key.str? = some "url" → value.str? ≠ some "") :
    Targeted (Mapping.insert t key value) := by
  induction t with
  | nil => exact targeted_cons_iff.mpr ⟨hvalue, h⟩
  | cons entry rest ih =>
    obtain ⟨hfirst, hrest⟩ := targeted_cons_iff.mp h
    rw [Mapping.insert]
    split
    next hsame =>
      rw [← Tree.str?_of_same _ hsame] at hvalue
      exact targeted_cons_iff.mpr ⟨hvalue, hrest⟩
    · exact targeted_cons_iff.mpr ⟨hfirst, ih hrest⟩

end Template

theorem Yaml.Tree.str?_over (before : Option Tree) (value : Tree) :
    (Tree.over before value).str? = value.str? := by
  cases value with
  | map nested =>
    rw [Tree.over.eq_def]
    dsimp only
    split <;> rfl
  | _ => rw [Tree.over_of_map?_eq_none rfl]

theorem Template.Targeted.overlay {below above : Template} (hbelow : below.Targeted)
    (habove : above.Targeted) : Template.Targeted (Mapping.overlay below above) := by
  induction above generalizing below with
  | nil =>
    rw [Mapping.overlay]
    exact hbelow
  | cons entry rest ih =>
    obtain ⟨hfirst, hrest⟩ := Template.targeted_cons_iff.mp habove
    rw [Mapping.overlay]
    refine ih (hbelow.insert ?_) hrest
    rwa [Tree.str?_over]

/-- **The URL of an endpoint under a template** is the last text that the template has for it. -/
theorem Endpoint.url_applyTemplate (e : Endpoint) (t : Template) :
    (e.applyTemplate t).url = t.url?.getD e.url :=
  (Part.url.read_applyTemplate_eq_foldl e t).trans (foldl_getD Tree.str? _ _)

theorem Endpoint.url_eq_of_same {a b : Endpoint} (h : a.same b = true) : a.url = b.url :=
  (same_iff.mp h).1.2.2.1

/-! ## Before the template -/

namespace Rules

variable {κ : Type} (r : Rules κ) (c : Config) (obj : κ) {url : String}

private theorem url_base_ne_empty (h : url ≠ "") (guarded : Bool) :
    (r.base c obj url guarded).url ≠ "" := by
  rw [base, prescribe]
  generalize hgroup : r.assignGroup c obj _ = e
  have hurl : e.url = url := by
    rw [← hgroup, assignGroup]
    split <;> rfl
  rcases r.assignCheck_cases obj e with ⟨host, hprobe⟩ | hsame | hconditions
  · rw [hprobe]
    exact (by decide : publicResolver ≠ "")
  · rwa [hsame, hurl]
  · rw [hconditions]
    exact hurl ▸ h

/-- The endpoint of an object that has a URL is without a target exactly if its template says so. -/
theorem url_endpointOf_eq_empty_iff (h : url ≠ "") (t : Option Template) :
    (r.endpointOf c obj url t).url = "" ↔ (t.getD []).url? = some "" := by
  rw [endpointOf, Endpoint.url_applyTemplate]
  cases (t.getD []).url? with
  | none => exact iff_of_false (r.url_base_ne_empty c obj h _) (by simp)
  | some text => rw [Option.getD_some, Option.some.injEq]

end Rules

/-! ## After all events -/

namespace Event

variable {e : Event}

theorem Weighs.url_ne_empty {obj : e.kind.Form} {url : String} (h : e.Weighs obj url) :
    url ≠ "" := of_decide_eq_true (Option.filter_eq_some_iff.mp h.url_eq).2

/-- The event is about an object that is to be monitored and has a URL, and whose template sets an
empty one in its place. -/
def ClearsUrl (e : Event) : Prop :=
  ∃ (obj : e.kind.Form) (url : String) (t : Template), e.Weighs obj url ∧ ¬e.Disabled obj ∧
    e.template obj = .ok (some t) ∧ t.url? = some ""

theorem clearsUrl_iff : e.ClearsUrl ↔ ∃ ep, e.Settles (some ep) ∧ ep.url = "" := by
  constructor
  · rintro ⟨obj, url, t, hweighs, henabled, htemplate, hempty⟩
    refine ⟨_, .derived hweighs henabled htemplate, ?_⟩
    exact (e.kind.rules.url_endpointOf_eq_empty_iff _ _ hweighs.url_ne_empty _).mpr hempty
  · rintro ⟨ep, hsettles, hurl⟩
    cases hsettles with
    | @derived obj url t hweighs henabled htemplate =>
      have hempty := (e.kind.rules.url_endpointOf_eq_empty_iff _ _ hweighs.url_ne_empty _).mp hurl
      cases t with
      | none => exact absurd hempty (by decide)
      | some t => exact ⟨obj, url, t, hweighs, henabled, htemplate, hempty⟩

theorem ClearsUrl.exists_brings (h : e.ClearsUrl) : ∃ t, e.Brings t ∧ ¬t.Targeted := by
  by_contra hall
  simp only [not_exists, not_and, not_not] at hall
  obtain ⟨obj, url, t, hweighs, -, htemplate, hempty⟩ := h
  have htargeted := template_keeps Template.targeted_nil Template.Targeted.overlay hweighs.shows
    htemplate hall
  exact htargeted.url?_ne hempty

/-- **When an endpoint has no target.** Whatever events of whatever controllers reach a store
without entries, an endpoint without a URL stands under a key afterwards if and only if the last
event of the key that is not passed over is about an object that has a URL and whose template sets
an empty one. There is none as long as no template of an object or of a parent has an empty text for
the URL, whatever the objects are. -/
theorem no_target_iff (disk : Disk) (history : List Happening) (events : List Event) :
    (∀ k : Key, (∃ ep, (replay { disk, history } events).roster.get? k = some ep ∧ ep.url = "") ↔
        ∃ e : Event, e.IsLast k events ∧ e.ClearsUrl) ∧
      ((∀ e ∈ events, ∀ t, e.Brings t → t.Targeted) →
        ∀ x ∈ (replay { disk, history } events).roster, x.2.url ≠ "") := by
  refine ⟨fun k ↦ ⟨?_, ?_⟩, fun htargeted ↦ ?_⟩
  · rintro ⟨stored, hget, hurl⟩
    obtain ⟨e, ep, hlast, hsettles, hsame⟩ := exists_settled_of_get? hget
    exact ⟨e, hlast, clearsUrl_iff.mpr ⟨ep, hsettles, Endpoint.url_eq_of_same hsame ▸ hurl⟩⟩
  · rintro ⟨e, hlast, hclears⟩
    obtain ⟨ep, hsettles, hurl⟩ := clearsUrl_iff.mp hclears
    obtain ⟨stored, hget, hsame⟩ := hlast.exists_stored hsettles { disk, history }
    exact ⟨stored, hget, (Endpoint.url_eq_of_same hsame).trans hurl⟩
  · refine forall_stored (P := fun ep ↦ ep.url ≠ "") (by simp) fun e he ep hsettles hurl ↦ ?_
    obtain ⟨t, hbrings, hnot⟩ := (clearsUrl_iff.mpr ⟨ep, hsettles, hurl⟩).exists_brings
    exact hnot (htargeted e he t hbrings)

/-! ### A service without a target -/

/-- A service whose template sets an empty URL. -/
def clearedAdded : Event :=
  serviceAdded "web" [("gatus.home-operations.com/endpoint", "url: ''")]

def cleared : clearedAdded.kind.Form :=
  serviceOf "web" [("gatus.home-operations.com/endpoint", "url: ''")]

def clearedText : String :=
  "endpoints:\n- name: web\n  url: ''\n  interval: 1m\n  conditions:\n  - '[CONNECTED] == true'\n"

private theorem template_clearedAdded : ∃ t, clearedAdded.template cleared = .ok (some t) ∧
    t.url? = some "" ∧
    Roster.render? [(clearedAdded.key, clearedAdded.kind.rules.endpointOf clearedAdded.config
      cleared "tcp://web.default.svc:80" (some t))] = some clearedText := by
  have hread : (clearedAdded.template cleared).toOption.any (fun t ↦ t.any fun t ↦
      t.url? == some "" &&
        (Yaml.Tree.map [(.str "endpoints", .seq [.map (clearedAdded.kind.rules.endpointOf
          clearedAdded.config cleared "tcp://web.default.svc:80" (some t)).toMapping])]).render?
        == some clearedText) = true := by decide +kernel
  obtain ⟨found, htemplate, hfound⟩ := Yaml.of_toOption_any hread
  obtain ⟨t, rfl, hchecked⟩ := (Option.any_eq_true _ _).mp hfound
  rw [Bool.and_eq_true, beq_iff_eq, beq_iff_eq] at hchecked
  refine ⟨t, htemplate, hchecked.1, ?_⟩
  rw [Roster.render?, Roster.document, Roster.ordered, List.mergeSort_singleton]
  exact hchecked.2

/-- The service has a port, so there is something to monitor, but its endpoint is written without
a target. -/
theorem clearedAdded_has_no_target :
    clearedAdded.IsLast clearedAdded.key [clearedAdded] ∧ clearedAdded.ClearsUrl ∧
      (∃ ep, (replay {} [clearedAdded]).roster.get? clearedAdded.key = some ep ∧ ep.url = "") ∧
      (replay {} [clearedAdded]).disk.contents = some clearedText := by
  have hweighs : clearedAdded.Weighs cleared "tcp://web.default.svc:80" :=
    ⟨shows_serviceAdded _ _, by decide +kernel, by decide +kernel, by decide +kernel⟩
  have henabled : ¬clearedAdded.Disabled cleared :=
    (not_congr disabled_iff).mpr (by decide +kernel)
  obtain ⟨t, htemplate, hempty, htext⟩ := template_clearedAdded
  have hsettles := Settles.derived hweighs henabled htemplate
  have hlast : clearedAdded.IsLast clearedAdded.key [clearedAdded] :=
    isLast_append_singleton [] rfl hsettles.not_skipped
  have hclears : clearedAdded.ClearsUrl := ⟨_, _, t, hweighs, henabled, htemplate, hempty⟩
  refine ⟨hlast, hclears, ?_, ?_⟩
  · exact ((no_target_iff {} [] [clearedAdded]).1 clearedAdded.key).mpr ⟨_, hlast, hclears⟩
  · have hone : replay {} [clearedAdded] = step {} clearedAdded :=
      replay_append_singleton {} [] clearedAdded
    have hagree : (step {} clearedAdded).Agree _ :=
      clearedAdded.controller.agree_handle {} clearedAdded.change clearedAdded.write
    rw [hone, hagree.disk, ← ruling, hsettles.ruling]
    exact congrArg Disk.contents (Store.disk_write rfl htext)

end Event

end EndpointSync
