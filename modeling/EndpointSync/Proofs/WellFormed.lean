import EndpointSync.Proofs.Layers
import EndpointSync.Proofs.Writable

/-!
# What templates bring into an endpoint

A value that is read has no colliding keys at any depth, since each mapping in it was put together
entry by entry. Endpoints are made of such values alone. Nothing but reading and overlaying is done
to them on the way, and overlaying keeps whatever a mapping has by its keys and by what is in it
(`Tree.Overlaid`). That it can be written is such a property too, so an endpoint can be written if
all that its templates say can be.
-/

namespace EndpointSync

namespace Yaml

/-! ## Overlaying -/

namespace Tree

/-- A property that mappings have by their keys and by what is in them. Overlaying mappings whose
keys are right gives one whose keys are, and strings are always right. -/
structure Overlaid (P : Tree → Prop) (Keys : Mapping → Prop) : Prop where
  map_iff : ∀ {m : Mapping}, P (.map m) ↔ Keys m ∧ ∀ e ∈ m, P e.1 ∧ P e.2
  overlay : ∀ {base upper : Mapping}, Keys base → Keys upper → Keys (Mapping.overlay base upper)
  nil : Keys []
  setting : ∀ key value : String, P (.map [(.str key, .str value)])

variable {P : Tree → Prop} {Keys : Mapping → Prop}

theorem forall_insert {m : Mapping} (hm : ∀ e ∈ m, P e.1 ∧ P e.2) {key value : Tree}
    (hkey : P key) (hvalue : P value) : ∀ e ∈ Mapping.insert m key value, P e.1 ∧ P e.2 := by
  induction m with
  | nil => exact List.forall_mem_cons.mpr ⟨⟨hkey, hvalue⟩, hm⟩
  | cons e rest ih =>
    obtain ⟨hfirst, hrest⟩ := List.forall_mem_cons.mp hm
    rw [Mapping.insert]
    split
    · exact List.forall_mem_cons.mpr ⟨⟨hfirst.1, hvalue⟩, hrest⟩
    · exact List.forall_mem_cons.mpr ⟨hfirst, ih hrest⟩

theorem forall_get? {m : Mapping} (hm : ∀ e ∈ m, P e.1 ∧ P e.2) (key : Tree) :
    ∀ v ∈ Mapping.get? m key, P v := by
  intro v hv
  obtain ⟨e, hfound, rfl⟩ := Option.map_eq_some_iff.mp hv
  exact (hm e (List.mem_of_find?_eq_some hfound)).2

mutual
/-- What stands where a value is set over another has the property of both. -/
theorem Overlaid.over (h : Overlaid P Keys) : (value : Tree) → {before : Option Tree} →
    (∀ v ∈ before, P v) → P value → P (Tree.over before value)
  | .null, _, _, hvalue => hvalue
  | .bool _, _, _, hvalue => hvalue
  | .int _, _, _, hvalue => hvalue
  | .float _, _, _, hvalue => hvalue
  | .str _, _, _, hvalue => hvalue
  | .seq _, _, _, hvalue => hvalue
  | .tagged _ _, _, _, hvalue => hvalue
  | .map nested, before, hbefore, hvalue => by
    match before with
    | some (.map existing) =>
      obtain ⟨hkeys, hall⟩ := h.map_iff.mp (hbefore _ rfl)
      obtain ⟨hnestedKeys, hnested⟩ := h.map_iff.mp hvalue
      rw [Tree.over]
      exact h.map_iff.mpr ⟨h.overlay hkeys hnestedKeys, h.overlay_entries nested hall hnested⟩
    | none | some .null | some (.bool _) | some (.int _) | some (.float _) | some (.str _)
    | some (.seq _) | some (.tagged _ _) => exact hvalue

theorem Overlaid.overlay_entries (h : Overlaid P Keys) : (upper : List (Tree × Tree)) →
    {base : Mapping} → (∀ e ∈ base, P e.1 ∧ P e.2) → (∀ e ∈ upper, P e.1 ∧ P e.2) →
    ∀ e ∈ Mapping.overlay base upper, P e.1 ∧ P e.2
  | [], _, hbase, _ => by
    rw [Mapping.overlay]
    exact hbase
  | (key, value) :: rest, base, hbase, hupper => by
    obtain ⟨⟨hkey, hvalue⟩, hrest⟩ := List.forall_mem_cons.mp hupper
    rw [Mapping.overlay]
    have hset : P (Tree.over (Mapping.get? base key) value) :=
      h.over value (forall_get? hbase key) hvalue
    exact h.overlay_entries rest (forall_insert hbase hkey hset) hrest
end

theorem Overlaid.map_overlay (h : Overlaid P Keys) {base upper : Mapping} (hbase : P (.map base))
    (hupper : P (.map upper)) : P (.map (Mapping.overlay base upper)) := by
  obtain ⟨hkeys, hall⟩ := h.map_iff.mp hbase
  obtain ⟨hupperKeys, hupperAll⟩ := h.map_iff.mp hupper
  exact h.map_iff.mpr ⟨h.overlay hkeys hupperKeys, h.overlay_entries upper hall hupperAll⟩

theorem Overlaid.map_nil (h : Overlaid P Keys) : P (.map []) :=
  h.map_iff.mpr ⟨h.nil, fun _ he ↦ absurd he List.not_mem_nil⟩

/-- Setting a string is overlaying a mapping with nothing else in it. -/
theorem Overlaid.map_insert (h : Overlaid P Keys) {m : Mapping} (hm : P (.map m))
    (key value : String) : P (.map (Mapping.insert m (.str key) (.str value))) := by
  have hoverlay := h.map_overlay hm (h.setting key value)
  rw [Mapping.overlay, Mapping.overlay] at hoverlay
  exact hoverlay

theorem overlaid_wellFormed : Overlaid WellFormed Mapping.Distinct where
  map_iff := Mapping.wellFormed_iff
  overlay hbase _ := hbase.overlay _
  nil := List.Pairwise.nil
  setting key value := Mapping.wellFormed_iff.mpr
    ⟨List.pairwise_singleton _ _, by simp [WellFormed]⟩

/-- The value is well formed and can be written. -/
def Presentable (v : Tree) : Prop := v.WellFormed ∧ v.isWritable false = true

theorem overlaid_presentable :
    Overlaid Presentable fun m ↦ Mapping.Distinct m ∧ ambiguous m = false where
  map_iff := by
    intro m
    have hunder : (false = true ∨ ambiguous m = false) ↔ ambiguous m = false := by simp
    rw [Presentable, WellFormed, entriesWellFormed_iff, isWritable_map_iff, hunder]
    constructor
    · rintro ⟨⟨hdistinct, hwell⟩, hclear, hwritable⟩
      exact ⟨⟨hdistinct, hclear⟩, fun e he ↦
        ⟨⟨(hwell e he).1, (hwritable e he).1⟩, (hwell e he).2, (hwritable e he).2⟩⟩
    · rintro ⟨⟨hdistinct, hclear⟩, hall⟩
      exact ⟨⟨hdistinct, fun e he ↦ ⟨(hall e he).1.1, (hall e he).2.1⟩⟩, hclear,
        fun e he ↦ ⟨(hall e he).1.2, (hall e he).2.2⟩⟩
  overlay := by
    rintro base upper ⟨hbase, hbaseClear⟩ ⟨hupper, hupperClear⟩
    exact ⟨hbase.overlay upper, Mapping.ambiguous_overlay hupper hbaseClear hupperClear⟩
  nil := ⟨List.Pairwise.nil, rfl⟩
  setting key value := ⟨overlaid_wellFormed.setting key value, rfl⟩

/-! ## Reading -/

private theorem wellFormed_ofPlain? {cs : List Char} {v : Tree} (h : ofPlain? cs = some v) :
    v.WellFormed := by
  have hscalar : ∀ {w : Tree}, w.WellFormed → some w = some v → v.WellFormed := by
    intro w hw hsome
    rwa [← Option.some.inj hsome]
  rw [ofPlain?] at h
  split at h
  · exact hscalar (by simp [WellFormed]) h
  split at h
  · exact hscalar (by simp [WellFormed]) h
  split at h
  · split at h
    · exact hscalar (by simp [WellFormed]) h
    · exact absurd h (by simp)
  split at h
  · exact hscalar (by simp [WellFormed]) h
  · exact hscalar (by simp [WellFormed]) h

private theorem wellFormed_ofDemand {d : Demand} {cs : List Char} {v : Tree}
    (h : d.read? cs = some v) : v.WellFormed := by
  cases d with
  | bool =>
    obtain ⟨b, -, rfl⟩ := Option.map_eq_some_iff.mp h
    simp [WellFormed]
  | int =>
    obtain ⟨n, -, rfl⟩ := Option.map_eq_some_iff.mp h
    simp [WellFormed]
  | float =>
    obtain ⟨x, -, rfl⟩ := Option.map_eq_some_iff.mp h
    simp [WellFormed]
  | null =>
    rw [Demand.read?] at h
    split at h
    · rw [← Option.some.inj h]
      simp [WellFormed]
    · exact absurd h (by simp)

private theorem wellFormed_ofScalar? {tag : Option (List UInt8)} {plain : Bool} {cs : List Char}
    {v : Tree} (h : ofScalar? tag plain cs = some v) : v.WellFormed := by
  have hstring : some (Tree.str (String.ofList cs)) = some v → v.WellFormed := by
    intro hsome
    rw [← Option.some.inj hsome]
    simp [WellFormed]
  have huntyped : (if plain then ofPlain? cs else some (.str (String.ofList cs))) = some v →
      v.WellFormed := by
    intro hread
    split at hread
    · exact wellFormed_ofPlain? hread
    · exact hstring hread
  rw [ofScalar?.eq_def] at h
  split at h
  · exact huntyped h
  · split at h
    · exact huntyped h
    · split at h
      · exact wellFormed_ofDemand h
      · exact hstring h

end Tree

private theorem Following.mapM_forall {α β : Type} {P : β → Prop} {f : α → Following β}
    (hstep : ∀ a left b left', (f a).run left = .ok (b, left') → P b) {l : List α} {bs : List β}
    {left left' : Nat} (h : (l.mapM f).run left = .ok (bs, left')) : ∀ b ∈ bs, P b := by
  induction l generalizing bs left left' with
  | nil =>
    rw [List.mapM_nil] at h
    have hbs : bs = [] := congrArg Prod.fst (Following.of_pure h)
    rw [hbs]
    simp
  | cons a rest ih =>
    rw [List.mapM_cons] at h
    obtain ⟨b, left₁, hb, h⟩ := Following.of_bind h
    obtain ⟨others, left₂, hothers, h⟩ := Following.of_bind h
    have hbs : bs = b :: others := congrArg Prod.fst (Following.of_pure h)
    rw [hbs]
    exact List.forall_mem_cons.mpr ⟨hstep a left b left₁ hb, ih hothers⟩

namespace Node

open Following (of_bind of_pure not_of_throw)

/-- The value of a node that is no alias, apart from its tag. -/
def content (targets : Targets) : (depth : Nat) → LinkedNode → Following Tree
  | _, .alias _ => throw .undefinedAlias
  | _, .scalar p text plain =>
    match Tree.ofScalar? p.tag plain text with
    | some v => pure v
    | none => throw .badScalar
  | 0, .seq .. => throw .tooDeep
  | 0, .map .. => throw .tooDeep
  | depth + 1, .seq _ items => return .seq (← items.mapM (resolve targets depth))
  | depth + 1, .map _ entries => do
    let m ← entries.foldlM (fun m (e : LinkedNode × LinkedNode) ↦ do
      addEntry m (← resolve targets depth e.1) (resolve targets depth e.2)) []
    return .map m.reverse

/-- A node is followed first; then its content is read, and the tag is put on it. -/
theorem resolve_eq (targets : Targets) (depth : Nat) (n : LinkedNode) :
    resolve targets depth n = (do
      let n ← follow targets n
      match n.props.tag.bind localTag? with
      | some tag => return .tagged tag (← content targets depth n)
      | none => content targets depth n) := by
  -- the recursion is under a match on what was followed, for which there are no equations
  cases depth with
  | zero =>
    delta resolve
    exact bind_congr (x := follow targets n) fun n' ↦ by cases n' <;> rfl
  | succ depth =>
    delta resolve
    refine bind_congr (x := follow targets n) fun n' ↦ ?_
    match n' with
    | .alias _ => rfl
    | .scalar .. => rfl
    | .seq .. => rw [content]; delta resolve; rfl
    | .map .. => rw [content]; delta resolve; rfl

private theorem of_addEntry {m m' : Mapping} {key : Tree} {value : Following Tree}
    {left left' : Nat} (h : (addEntry m key value).run left = .ok (m', left')) :
    ∃ v, value.run left = .ok (v, left') ∧ m' = (key, v) :: m := by
  rw [addEntry] at h
  split at h
  · obtain ⟨_, _, hthrow, -⟩ := of_bind h
    exact absurd hthrow not_of_throw
  · obtain ⟨v, left'', hv, hpure⟩ := of_bind h
    have hend := of_pure hpure
    rw [Prod.mk.injEq] at hend
    rw [hend.2]
    exact ⟨v, hv, hend.1⟩

private theorem wellFormed_of_entries {read : LinkedNode → Following Tree}
    (hread : ∀ n left t left', (read n).run left = .ok (t, left') → t.WellFormed)
    {entries : List (LinkedNode × LinkedNode)} {m : Mapping} {left left' : Nat}
    (h : (entries.foldlM (fun m (e : LinkedNode × LinkedNode) ↦ do
      addEntry m (← read e.1) (read e.2)) []).run left = .ok (m, left')) :
    Mapping.WellFormed m.reverse := by
  have hempty : Mapping.WellFormed (List.reverse []) := Mapping.wellFormed_nil
  refine Following.foldlM_keeps (P := fun m ↦ Mapping.WellFormed (List.reverse m)) ?_ hempty h
  intro m e left m' left' hm hstep
  obtain ⟨key, left₁, hkey, hadd⟩ := of_bind hstep
  obtain ⟨hdistinct, hall⟩ := Mapping.wellFormed_iff.mp hm
  refine Mapping.wellFormed_iff.mpr ⟨distinct_addEntry hdistinct hadd, ?_⟩
  obtain ⟨v, hv, rfl⟩ := of_addEntry hadd
  intro f hf
  rcases List.mem_cons.mp (List.mem_reverse.mp hf) with rfl | hold
  · exact ⟨hread e.1 left key left₁ hkey, hread e.2 left₁ v left' hv⟩
  · exact hall f (List.mem_reverse.mpr hold)

theorem wellFormed_of_content {targets : Targets} {depth : Nat}
    (hcontent : ∀ {n left t left'}, (content targets depth n).run left = .ok (t, left') →
      t.WellFormed) {n : LinkedNode} {left left' : Nat} {t : Tree}
    (h : (resolve targets depth n).run left = .ok (t, left')) : t.WellFormed := by
  rw [resolve_eq] at h
  obtain ⟨n', left₁, -, h⟩ := of_bind h
  split at h
  · obtain ⟨v, left₂, hv, h⟩ := of_bind h
    have ht : t = .tagged _ v := congrArg Prod.fst (of_pure h)
    rw [ht, Tree.WellFormed]
    exact hcontent hv
  · exact hcontent h

theorem wellFormed_content {targets : Targets} {depth : Nat}
    (hbelow : ∀ d, d + 1 = depth → ∀ n left t left',
      (resolve targets d n).run left = .ok (t, left') → t.WellFormed)
    {n : LinkedNode} {left left' : Nat} {t : Tree}
    (h : (content targets depth n).run left = .ok (t, left')) : t.WellFormed := by
  match n, depth with
  | .alias _, _ => exact absurd h not_of_throw
  | .scalar p text plain, _ =>
    rw [content] at h
    split at h
    next v hv =>
      have ht : t = v := congrArg Prod.fst (of_pure h)
      rw [ht]
      exact Tree.wellFormed_ofScalar? hv
    · exact absurd h not_of_throw
  | .seq .., 0 => exact absurd h not_of_throw
  | .map .., 0 => exact absurd h not_of_throw
  | .seq p items, depth + 1 =>
    rw [content] at h
    obtain ⟨values, _, hvalues, hpure⟩ := of_bind h
    have ht : t = .seq values := congrArg Prod.fst (of_pure hpure)
    rw [ht, Tree.WellFormed, Tree.allWellFormed_iff]
    exact Following.mapM_forall (hbelow depth rfl) hvalues
  | .map p entries, depth + 1 =>
    rw [content] at h
    obtain ⟨m, _, hm, hpure⟩ := of_bind h
    have ht : t = .map m.reverse := congrArg Prod.fst (of_pure hpure)
    rw [ht]
    exact wellFormed_of_entries (hbelow depth rfl) hm

/-- Everything that a document says is well formed, at whatever depth it is said. -/
theorem wellFormed_resolve (targets : Targets) (depth : Nat) : ∀ n left t left',
    (resolve targets depth n).run left = .ok (t, left') → t.WellFormed := by
  induction depth with
  | zero =>
    intro n left t left' h
    exact wellFormed_of_content (fun h ↦ wellFormed_content (fun _ hd ↦ absurd hd (by simp)) h) h
  | succ depth ih =>
    intro n left t left' h
    refine wellFormed_of_content (fun h ↦ wellFormed_content (fun d hd ↦ ?_) h) h
    rw [Nat.succ.inj hd]
    exact ih

end Node

theorem Mapping.wellFormed_of_parse {text : String} {m : Mapping}
    (h : Mapping.parse text = .ok (some m)) : m.WellFormed := by
  obtain ⟨targets, root, left, left', hroot⟩ := Mapping.rootMapping_of_parse h
  rcases Node.of_rootMapping? hroot with rfl | ⟨p, entries, left'', hread⟩
  · exact wellFormed_nil
  · exact Node.wellFormed_resolve targets maxNesting _ left _ left'' hread

end Yaml

open Yaml (Mapping Tree)

/-! ## Endpoints -/

namespace Endpoint

variable {P : Tree → Prop} {Keys : Mapping → Prop}

theorem all_overlaid (h : Tree.Overlaid P Keys) {field : Mapping} {value : Tree}
    (hfield : P (.map field)) (hvalue : P value) : P (.map (overlaid field value)) := by
  rw [overlaid]
  split
  next overrides hoverrides =>
    cases value with
    | map entries =>
      rw [← Option.some.inj hoverrides]
      exact h.map_overlay hfield hvalue
    | _ => exact absurd hoverrides (by simp [Tree.map?])
  · exact hfield

private theorem all_setExtra {extra : List (String × Tree)} (hextra : ∀ x ∈ extra, P x.2)
    {value : Tree} (hvalue : P value) (name : String) : ∀ x ∈ setExtra name value extra, P x.2 := by
  induction extra with
  | nil => exact List.forall_mem_cons.mpr ⟨hvalue, hextra⟩
  | cons entry rest ih =>
    obtain ⟨hfirst, hrest⟩ := List.forall_mem_cons.mp hextra
    rw [setExtra]
    split
    · exact List.forall_mem_cons.mpr ⟨hvalue, hrest⟩
    · split
      · exact List.forall_mem_cons.mpr ⟨hvalue, hextra⟩
      · exact List.forall_mem_cons.mpr ⟨hfirst, ih hrest⟩

theorem All.set (h : Tree.Overlaid P Keys) {e : Endpoint} (he : e.All P) (setting : String)
    {value : Tree} (hvalue : P value) : (e.set setting value).All P := by
  unfold Endpoint.set
  split
  case h_6 => exact ⟨all_overlaid h he.dns hvalue, he.client, he.ui, he.extra⟩
  case h_7 => exact ⟨he.dns, all_overlaid h he.client hvalue, he.ui, he.extra⟩
  case h_8 => exact ⟨he.dns, he.client, all_overlaid h he.ui hvalue, he.extra⟩
  case h_10 => exact ⟨he.dns, he.client, he.ui, all_setExtra he.extra hvalue setting⟩
  all_goals exact ⟨he.dns, he.client, he.ui, he.extra⟩

/-- What is true of all values of a template is true of all that it brings into an endpoint. -/
theorem All.applyTemplate (h : Tree.Overlaid P Keys) {e : Endpoint} (he : e.All P) {t : Template}
    (ht : ∀ x ∈ t, P x.2) : (e.applyTemplate t).All P :=
  applyTemplate_induction (P := fun e ↦ e.All P) he t fun x hx _ setting he ↦
    he.set h setting (ht x hx)

end Endpoint

namespace Rules

variable {κ : Type} {P : Tree → Prop} {Keys : Mapping → Prop}

theorem all_base (h : Tree.Overlaid P Keys) (r : Rules κ) (c : Config) (obj : κ) (url : String)
    (guarded : Bool) : (r.base c obj url guarded).All P := by
  have hplain : ∀ {e : Endpoint}, e.dns = [] → e.client = [] → e.ui = [] → e.extra = [] →
      e.All P := by
    intro e hdns hclient hui hextra
    exact ⟨hdns ▸ h.map_nil, hclient ▸ h.map_nil, hui ▸ h.map_nil, by simp [hextra]⟩
  rw [base, prescribe]
  generalize hgroup : r.assignGroup c obj _ = e
  have he : e.All P := by
    rw [← hgroup, assignGroup]
    split <;> exact hplain rfl rfl rfl rfl
  rcases r.assignCheck_cases obj e with ⟨host, hprobe⟩ | hsame | hconditions
  · rw [hprobe]
    exact ⟨h.map_insert (h.map_insert he.dns _ _) _ _, he.client, he.ui, he.extra⟩
  · rwa [hsame]
  · rw [hconditions]
    exact ⟨he.dns, he.client, he.ui, he.extra⟩

end Rules

namespace Event

variable {e : Event} {ep : Endpoint}

theorem reads_of_template {obj : e.kind.Form} {t : Option Template} (h : e.template obj = .ok t) :
    ∃ parent own,
      Template.read .parent (e.inherited obj) e.config.templateKey = .ok parent ∧
      Template.read .object (e.own obj) e.config.templateKey = .ok own ∧
      t = Template.merge parent own := by
  obtain ⟨parent, hparent, hrest⟩ := Yaml.of_bind_eq_ok h
  obtain ⟨own, hown, hmerge⟩ := Yaml.of_bind_eq_ok hrest
  exact ⟨parent, own, hparent, hown, (Except.ok.inj hmerge).symm⟩

/-- The event brings a template, in an annotation of its object or of the parent. -/
def Brings (e : Event) (t : Template) : Prop :=
  ∃ obj : e.kind.Form, e.Shows obj ∧
    (Template.read .parent (e.inherited obj) e.config.templateKey = .ok (some t) ∨
      Template.read .object (e.own obj) e.config.templateKey = .ok (some t))

/-- What an overlay keeps, the template of an object has if all templates have that the event
brings. -/
theorem template_keeps {P : Mapping → Prop} (hnone : P [])
    (hoverlay : ∀ {below above}, P below → P above → P (Mapping.overlay below above))
    {obj : e.kind.Form} {t : Option Template} (hshows : e.Shows obj)
    (htemplate : e.template obj = .ok t) (h : ∀ t, e.Brings t → P t) : P (t.getD []) := by
  obtain ⟨parent, own, hparent, hown, rfl⟩ := reads_of_template htemplate
  refine Template.merge_keeps hnone hoverlay ?_ ?_
  · intro t hsome
    exact h t ⟨obj, hshows, .inl (hparent.trans (congrArg Except.ok hsome))⟩
  · intro t hsome
    exact h t ⟨obj, hshows, .inr (hown.trans (congrArg Except.ok hsome))⟩

theorem Settles.all {P : Tree → Prop} {Keys : Mapping → Prop} (h : Tree.Overlaid P Keys)
    (hsettles : e.Settles (some ep)) (ht : ∀ t, e.Brings t → P (.map t)) : ep.All P := by
  cases hsettles with
  | @derived obj url t hweighs hdisabled htemplate =>
    have hmerged : P (.map (t.getD [])) :=
      template_keeps (P := fun m ↦ P (.map m)) h.map_nil h.map_overlay hweighs.shows htemplate ht
    refine (Rules.all_base h _ _ _ _ _).applyTemplate h fun x hx ↦ ?_
    exact ((h.map_iff.mp hmerged).2 x hx).2

theorem Brings.wellFormed {t : Template} (h : e.Brings t) : Tree.WellFormed (.map t) := by
  obtain ⟨obj, -, hread | hread⟩ := h
  · obtain ⟨text, hparse⟩ := Template.parse_of_read hread
    exact Mapping.wellFormed_of_parse hparse
  · obtain ⟨text, hparse⟩ := Template.parse_of_read hread
    exact Mapping.wellFormed_of_parse hparse

/-- No endpoint has colliding keys, at whatever depth. -/
theorem Settles.wellFormed (h : e.Settles (some ep)) : ep.WellFormed :=
  h.all Tree.overlaid_wellFormed fun _ ht ↦ ht.wellFormed

/-- An endpoint can be written if the templates can that it was made of. -/
theorem Settles.isWritable (h : e.Settles (some ep))
    (ht : ∀ t, e.Brings t → (Yaml.Tree.map t).isWritable false = true) : ep.isWritable = true := by
  have hall : ep.All Tree.Presentable :=
    h.all Tree.overlaid_presentable fun t hbrings ↦ ⟨hbrings.wellFormed, ht t hbrings⟩
  exact Endpoint.isWritable_iff.mpr
    ⟨hall.dns.2, hall.client.2, hall.ui.2, fun x hx ↦ (hall.extra x hx).2⟩

end Event

end EndpointSync
