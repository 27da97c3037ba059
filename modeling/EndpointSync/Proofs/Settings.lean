import EndpointSync.Proofs.Mappings
import Mathlib.Data.String.Basic

/-!
# What a template makes of an endpoint

A template is applied entry by entry, but each entry touches one part of the endpoint alone. A part
comes with the setting that decides it and with what the setting does to it (`Endpoint.Part`). Since
no key of a template occurs twice, what becomes of a part depends on one entry, and
`Endpoint.Part.read_applyTemplate` says so for all parts at once. `Endpoint.Carries` puts the parts
together.

Settings that are not known here are parts too, each by its own name. They are kept in the order of
their names, so what stands under each name says all there is to say about them.
-/

namespace EndpointSync

open Yaml (Mapping Tree)

namespace Endpoint

/-! ## Other settings -/

def settings : List String :=
  ["name", "group", "url", "interval", "conditions", "dns", "client", "ui", "guarded"]

theorem set_of_not_mem {name : String} (h : name ∉ settings) (e : Endpoint) (value : Tree) :
    e.set name value = { e with extra := setExtra name value e.extra } := by
  unfold set
  split
  case h_10 => rfl
  all_goals exact absurd (by simp [settings]) h

theorem extra_set_of_mem {name : String} (h : name ∈ settings) (e : Endpoint) (value : Tree) :
    (e.set name value).extra = e.extra := by
  simp only [settings, List.mem_cons, List.not_mem_nil, or_false] at h
  rcases h with rfl | rfl | rfl | rfl | rfl | rfl | rfl | rfl | rfl <;> rfl

theorem lookup_cons_eq (name n : String) (value : Tree) (rest : List (String × Tree)) :
    ((n, value) :: rest).lookup name = if name = n then some value else rest.lookup name := by
  rw [List.lookup_cons]
  by_cases h : name = n
  · rw [h, beq_self_eq_true, if_pos rfl]
  · rw [beq_false_of_ne h, if_neg h]

theorem lookup_setExtra (name other : String) (value : Tree) (extra : List (String × Tree)) :
    (setExtra other value extra).lookup name
      = if name = other then some value else extra.lookup name := by
  induction extra with
  | nil => rw [setExtra, lookup_cons_eq]
  | cons entry rest ih =>
    obtain ⟨n, old⟩ := entry
    rw [setExtra]
    split
    next hn =>
      rw [lookup_cons_eq, lookup_cons_eq, hn]
      split <;> rfl
    next hn =>
      split
      · rw [lookup_cons_eq]
      · rw [lookup_cons_eq, lookup_cons_eq, ih]
        by_cases hname : name = n
        · rw [if_pos hname, if_pos hname, if_neg (hname ▸ hn)]
        · rw [if_neg hname, if_neg hname]

/-- The settings are in the order of their names, and none occurs twice. -/
def Sorted (extra : List (String × Tree)) : Prop := extra.Pairwise fun a b ↦ a.1 < b.1

private theorem name_of_mem_setExtra {name : String} {value : Tree} {extra : List (String × Tree)}
    {x : String × Tree} (h : x ∈ setExtra name value extra) :
    x.1 = name ∨ ∃ y ∈ extra, y.1 = x.1 := by
  induction extra with
  | nil =>
    rw [setExtra, List.mem_singleton] at h
    exact .inl (congrArg Prod.fst h)
  | cons entry rest ih =>
    rw [setExtra] at h
    split at h
    next hn =>
      rcases List.mem_cons.mp h with rfl | hrest
      · exact .inl hn
      · exact .inr ⟨x, List.mem_cons_of_mem entry hrest, rfl⟩
    next hn =>
      split at h
      · rcases List.mem_cons.mp h with rfl | hold
        · exact .inl rfl
        · exact .inr ⟨x, hold, rfl⟩
      · rcases List.mem_cons.mp h with rfl | hrest
        · exact .inr ⟨_, List.mem_cons_self, rfl⟩
        · rcases ih hrest with hname | ⟨y, hy, hname⟩
          · exact .inl hname
          · exact .inr ⟨y, List.mem_cons_of_mem entry hy, hname⟩

theorem Sorted.setExtra {extra : List (String × Tree)} (h : Sorted extra) (name : String)
    (value : Tree) : Sorted (Endpoint.setExtra name value extra) := by
  induction extra with
  | nil => exact List.pairwise_singleton _ _
  | cons entry rest ih =>
    obtain ⟨n, old⟩ := entry
    obtain ⟨hfirst, hrest⟩ := List.pairwise_cons.mp h
    rw [Endpoint.setExtra]
    split
    · exact List.pairwise_cons.mpr ⟨hfirst, hrest⟩
    next hn =>
      split
      next hbefore =>
        refine List.pairwise_cons.mpr ⟨fun x hx ↦ ?_, h⟩
        rcases List.mem_cons.mp hx with rfl | hlater
        · exact hbefore
        · exact lt_trans hbefore (hfirst x hlater)
      next hnotBefore =>
        have hafter : n < name := lt_of_le_of_ne (not_lt.mp hnotBefore) hn
        refine List.pairwise_cons.mpr ⟨fun x hx ↦ ?_, ih hrest⟩
        rcases name_of_mem_setExtra hx with hname | ⟨y, hy, hname⟩
        · rw [hname]
          exact hafter
        · rw [← hname]
          exact hfirst y hy

theorem sorted_set {e : Endpoint} (h : Sorted e.extra) (setting : String) (value : Tree) :
    Sorted (e.set setting value).extra := by
  unfold set
  split
  case h_10 => exact h.setExtra setting value
  all_goals exact h

/-- What is kept by setting each of the settings of a template is kept by the template. -/
theorem applyTemplate_induction {P : Endpoint → Prop} {e : Endpoint} (he : P e) (t : Template)
    (hset : ∀ x ∈ t, ∀ e setting, P e → P (e.set setting x.2)) : P (e.applyTemplate t) := by
  induction t generalizing e with
  | nil => exact he
  | cons entry rest ih =>
    obtain ⟨hentry, hrest⟩ := List.forall_mem_cons.mp hset
    refine ih (e := e.setEntry entry) ?_ hrest
    rw [setEntry]
    split
    · exact hentry _ _ he
    · exact he

theorem sorted_applyTemplate {e : Endpoint} (h : Sorted e.extra) (t : Template) :
    Sorted (e.applyTemplate t).extra :=
  applyTemplate_induction (P := fun e ↦ Sorted e.extra) h t fun x _ _ setting he ↦
    sorted_set he setting x.2

/-! ## The parts of an endpoint -/

/-- A part of an endpoint and the setting that decides it. -/
structure Part (α : Type) where
  /-- The name of the setting. -/
  setting : String
  read : Endpoint → α
  /-- The part as it is after the setting has been given a value. -/
  update : α → Tree → α
  read_set : ∀ e value, read (e.set setting value) = update (read e) value
  /-- No other setting has a say. -/
  read_set_of_ne : ∀ e {other} value, other ≠ setting → read (e.set other value) = read e := by
    intro e other value h
    unfold Endpoint.set
    split
    -- one of the cases is the setting itself, and the others leave the part alone
    all_goals first | exact absurd rfl h | rfl

namespace Part

/-- **What a template makes of a part** is what its setting does to it, if the template has it. -/
theorem read_applyTemplate {α : Type} (part : Part α) {t : Template}
    (hdistinct : Mapping.Distinct t) (huntagged : Mapping.Untagged t) (e : Endpoint) :
    part.read (e.applyTemplate t)
      = (Mapping.get? t (.str part.setting)).elim (part.read e) (part.update (part.read e)) := by
  induction t generalizing e with
  | nil => rfl
  | cons entry rest ih =>
    obtain ⟨key, value⟩ := entry
    have hrest := ih (List.pairwise_cons.mp hdistinct).2
      (fun f hf ↦ huntagged f (List.mem_cons_of_mem _ hf)) (e.setEntry (key, value))
    have happly : e.applyTemplate ((key, value) :: rest)
        = (e.setEntry (key, value)).applyTemplate rest := rfl
    rw [happly, hrest, Mapping.get?_cons]
    by_cases hkey : key.same (.str part.setting) = true
    · -- the setting comes here and not once more
      rw [Tree.same_str_iff.mp hkey] at hdistinct ⊢
      rw [hdistinct.get?_tail, if_pos (Tree.same_refl _)]
      exact part.read_set e value
    · have hsame : part.read (e.setEntry (key, value)) = part.read e := by
        rw [setEntry]
        split
        next other hother =>
          have hname : key = .str other :=
            huntagged.eq_of_str? List.mem_cons_self hother
          refine part.read_set_of_ne e value fun hsetting ↦ hkey ?_
          rw [hname, hsetting, Tree.same_refl]
        · rfl
      rw [if_neg hkey, hsame]

def url : Part String where
  setting := "url"
  read := Endpoint.url
  update old value := value.str?.getD old
  read_set _ _ := rfl

def interval : Part String where
  setting := "interval"
  read := Endpoint.interval
  update old value := value.str?.getD old
  read_set _ _ := rfl

def group : Part String where
  setting := "group"
  read := Endpoint.group
  update old value := value.str?.getD old
  read_set _ _ := rfl

/-- The name. An empty one does not count. -/
def name : Part String where
  setting := "name"
  read := Endpoint.name
  update old value := (value.str?.filter (· ≠ "")).getD old
  read_set _ _ := rfl

def conditions : Part (List String) where
  setting := "conditions"
  read := Endpoint.conditions
  update old value := (conditionsOf? value).getD old
  read_set _ _ := rfl

def dns : Part Mapping where
  setting := "dns"
  read := Endpoint.dns
  update := overlaid
  read_set _ _ := rfl

def client : Part Mapping where
  setting := "client"
  read := Endpoint.client
  update := overlaid
  read_set _ _ := rfl

def ui : Part Mapping where
  setting := "ui"
  read := Endpoint.ui
  update := overlaid
  read_set _ _ := rfl

def guarded : Part Bool where
  setting := "guarded"
  read := Endpoint.guarded
  update old value := value.bool?.getD old
  read_set _ _ := rfl

/-- What is carried along under a name that is not known here. -/
def other (name : String) (h : name ∉ settings) : Part (Option Tree) where
  setting := name
  read e := e.extra.lookup name
  update _ value := some value
  read_set e value := by rw [set_of_not_mem h, lookup_setExtra, if_pos rfl]
  read_set_of_ne := by
    intro e other value hother
    by_cases hknown : other ∈ settings
    · rw [extra_set_of_mem hknown]
    · rw [set_of_not_mem hknown, lookup_setExtra, if_neg (Ne.symm hother)]

end Part

/-! ## A template on top of an endpoint -/

/-- An endpoint is another one with settings on top. What is set counts only if it is of the right
type. -/
structure Carries (ep base : Endpoint) (set? : String → Option Tree) : Prop where
  url : ep.url = ((set? "url").bind Tree.str?).getD base.url
  interval : ep.interval = ((set? "interval").bind Tree.str?).getD base.interval
  group : ep.group = ((set? "group").bind Tree.str?).getD base.group
  /-- An empty name does not count. -/
  name : ep.name
    = ((set? "name").bind fun value ↦ value.str?.filter (· ≠ "")).getD base.name
  conditions : ep.conditions = ((set? "conditions").bind conditionsOf?).getD base.conditions
  dns : ep.dns = ((set? "dns").bind Tree.map?).elim base.dns (Mapping.overlay base.dns)
  client : ep.client
    = ((set? "client").bind Tree.map?).elim base.client (Mapping.overlay base.client)
  ui : ep.ui = ((set? "ui").bind Tree.map?).elim base.ui (Mapping.overlay base.ui)
  guarded : ep.guarded = ((set? "guarded").bind Tree.bool?).getD base.guarded
  /-- All settings that are not known here are carried along, and nothing else is. -/
  extra : ∀ name, ep.extra.lookup name = if name ∈ settings then none else set? name
  sorted : Sorted ep.extra

theorem elim_getD {α β : Type} (o : Option α) (f : α → Option β) (old : β) :
    o.elim old (fun value ↦ (f value).getD old) = (o.bind f).getD old := by
  cases o <;> rfl

theorem elim_overlaid (o : Option Tree) (old : Mapping) :
    o.elim old (overlaid old) = (o.bind Tree.map?).elim old (Mapping.overlay old) := by
  cases o with
  | none => rfl
  | some value =>
    rw [Option.elim_some, Option.bind_some, overlaid]
    cases value.map? <;> rfl

/-- No known setting ends up among the others. -/
theorem lookup_extra_of_mem {name : String} (h : name ∈ settings) (e : Endpoint) (t : Template) :
    (e.applyTemplate t).extra.lookup name = e.extra.lookup name := by
  refine applyTemplate_induction (P := fun e' ↦ e'.extra.lookup name = e.extra.lookup name) rfl t
    fun x _ e' setting he ↦ ?_
  by_cases hknown : setting ∈ settings
  · rw [extra_set_of_mem hknown, he]
  · have hname : name ≠ setting := fun hsame ↦ hknown (hsame ▸ h)
    rw [set_of_not_mem hknown, lookup_setExtra, if_neg hname, he]

/-- **A template decides each setting by the one entry that it has for it.** -/
theorem carries_applyTemplate {base : Endpoint} (hbase : base.extra = []) {t : Template}
    (hdistinct : Mapping.Distinct t) (huntagged : Mapping.Untagged t) :
    (base.applyTemplate t).Carries base fun name ↦ Mapping.get? t (.str name) where
  url := (Part.url.read_applyTemplate hdistinct huntagged base).trans (elim_getD _ _ _)
  interval := (Part.interval.read_applyTemplate hdistinct huntagged base).trans (elim_getD _ _ _)
  group := (Part.group.read_applyTemplate hdistinct huntagged base).trans (elim_getD _ _ _)
  name := (Part.name.read_applyTemplate hdistinct huntagged base).trans (elim_getD _ _ _)
  conditions :=
    (Part.conditions.read_applyTemplate hdistinct huntagged base).trans (elim_getD _ _ _)
  dns := (Part.dns.read_applyTemplate hdistinct huntagged base).trans (elim_overlaid _ _)
  client := (Part.client.read_applyTemplate hdistinct huntagged base).trans (elim_overlaid _ _)
  ui := (Part.ui.read_applyTemplate hdistinct huntagged base).trans (elim_overlaid _ _)
  guarded := (Part.guarded.read_applyTemplate hdistinct huntagged base).trans (elim_getD _ _ _)
  extra name := by
    split
    next hknown => rw [lookup_extra_of_mem hknown, hbase, List.lookup_nil]
    next hother =>
      have hread : (base.applyTemplate t).extra.lookup name
          = (Mapping.get? t (.str name)).elim (base.extra.lookup name) some :=
        (Part.other name hother).read_applyTemplate hdistinct huntagged base
      rw [hread, hbase, List.lookup_nil]
      cases Mapping.get? t (.str name) <;> rfl
  sorted := by
    refine sorted_applyTemplate ?_ t
    rw [hbase]
    exact List.Pairwise.nil

end Endpoint

end EndpointSync
