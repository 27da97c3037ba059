import EndpointSync.Proofs.Bytes
import EndpointSync.Proofs.SameTemplates

/-!
# An endpoint can be read back from its mapping

An endpoint is written as one mapping. The settings that are known here come first, without those
that say nothing, and the settings that are carried along follow on the same level. So there are two
ways in which something could get lost: a setting that is carried along could have the name of a
known one, and a setting that is left out could have had a value. The first is ruled out by
`Endpoint.Tidy`, which every endpoint has that a template can lead to; the second by leaving out
empty values only, which is what a missing setting is read as.

`Endpoint.ofMapping?` reads the mapping back, and that it comes to the same endpoint
(`ofMapping?_toMapping`) already makes the mapping unambiguous as a list of entries. Mappings are
compared regardless of the order of their entries, though, and values regardless of their spelling.
For this, too, each setting can be looked up by itself: what stands under its name tells all there
is to tell about it (`get?_toMapping`, `get?_toMapping_of_not_mem`).
-/

namespace EndpointSync

open Yaml (Mapping Tree)

/-! ## Mappings with names as keys -/

namespace Yaml.Mapping

/-- A mapping whose keys are strings. -/
def named (entries : List (String × Tree)) : Mapping := entries.map fun x ↦ (.str x.1, x.2)

variable {xs ys : List (String × Tree)}

theorem keys_named (xs : List (String × Tree)) :
    keys (named xs) = (xs.map Prod.fst).map Tree.str := by
  rw [keys, named, List.map_map, List.map_map]
  rfl

theorem get?_named (xs : List (String × Tree)) (name : String) :
    get? (named xs) (.str name) = xs.lookup name := by
  induction xs with
  | nil => rfl
  | cons x xs ih =>
    obtain ⟨n, v⟩ := x
    have hcons : named ((n, v) :: xs) = (.str n, v) :: named xs := rfl
    rw [hcons, get?_cons, Endpoint.lookup_cons_eq, ih]
    by_cases h : name = n
    · rw [if_pos h, if_pos (Tree.same_str_iff.mpr (by rw [h]))]
    · rw [if_neg h, if_neg (by rw [Tree.same_str_iff, Tree.str.injEq]; exact Ne.symm h)]

theorem distinct_named (h : (xs.map Prod.fst).Nodup) : Distinct (named xs) := by
  rw [Distinct, named, List.pairwise_map]
  refine (List.pairwise_map.mp h).imp fun {x y} hne ↦ Bool.eq_false_iff.mpr ?_
  rw [Ne, Tree.same_str_iff, Tree.str.injEq]
  exact hne

theorem lookup_of_mem (h : (xs.map Prod.fst).Nodup) {x : String × Tree} (hx : x ∈ xs) :
    xs.lookup x.1 = some x.2 := by
  induction xs with
  | nil => exact absurd hx List.not_mem_nil
  | cons y xs ih =>
    obtain ⟨hfirst, hrest⟩ := List.nodup_cons.mp h
    rw [Endpoint.lookup_cons_eq]
    rcases List.mem_cons.mp hx with rfl | hlater
    · rw [if_pos rfl]
    · have hne : x.1 ≠ y.1 := fun heq ↦ hfirst (heq ▸ List.mem_map_of_mem hlater)
      rw [if_neg hne, ih hrest hlater]

theorem mem_of_lookup {name : String} {v : Tree} (h : xs.lookup name = some v) :
    (name, v) ∈ xs := by
  obtain ⟨before, after, rfl, -⟩ := List.lookup_eq_some_iff.mp h
  exact List.mem_append_right _ List.mem_cons_self

theorem mem_names_iff {name : String} :
    name ∈ xs.map Prod.fst ↔ (xs.lookup name).isSome = true := by
  rw [Option.isSome_iff_ne_none, Ne, List.lookup_eq_none_iff, List.mem_map]
  simp only [bne_iff_ne, ne_eq, not_forall, not_not, exists_prop]
  exact exists_congr fun x ↦ and_congr_right fun _ ↦ eq_comm

theorem same_named_iff (hxs : (xs.map Prod.fst).Nodup) (hys : (ys.map Prod.fst).Nodup) :
    same (named xs) (named ys) = true ↔
      ∀ name, Tree.SameValue (xs.lookup name) (ys.lookup name) := by
  have hentries : Tree.sameEntries (named xs) (named ys) = true ↔
      ∀ x ∈ xs, ∃ y ∈ ys, x.1 = y.1 ∧ x.2.same y.2 = true := by
    rw [Tree.sameEntries_iff, named, named, List.forall_mem_map]
    refine forall₂_congr fun x _ ↦ ⟨?_, ?_⟩
    · rintro ⟨f, hf, hkey, hvalue⟩
      obtain ⟨y, hy, rfl⟩ := List.mem_map.mp hf
      exact ⟨y, hy, Tree.str.inj (Tree.same_str_iff.mp hkey), hvalue⟩
    · rintro ⟨y, hy, hname, hvalue⟩
      exact ⟨_, List.mem_map_of_mem hy, Tree.same_str_iff.mpr (by rw [hname]), hvalue⟩
  have hcompare : same (named xs) (named ys) = true ↔ xs.length = ys.length ∧
      ∀ x ∈ xs, ∃ y ∈ ys, x.1 = y.1 ∧ x.2.same y.2 = true := by
    rw [same, Tree.same, Bool.and_eq_true, beq_iff_eq, hentries, named, named, List.length_map,
      List.length_map]
  rw [hcompare]
  constructor
  · rintro ⟨hlength, hpartners⟩ name
    cases hx : xs.lookup name with
    | some v =>
      obtain ⟨y, hy, rfl, hsame⟩ := hpartners _ (mem_of_lookup hx)
      rw [lookup_of_mem hys hy]
      exact .some hsame
    | none =>
      -- all names on the one side are on the other, and there are no more of them there
      have hsubset : xs.map Prod.fst ⊆ ys.map Prod.fst := by
        intro n hn
        obtain ⟨x, hx, rfl⟩ := List.mem_map.mp hn
        obtain ⟨y, hy, hname, -⟩ := hpartners x hx
        exact hname ▸ List.mem_map_of_mem hy
      have hperm := (hxs.subperm hsubset).perm_of_length_le (by simp [hlength])
      have habsent : name ∉ ys.map Prod.fst := by
        rw [← hperm.mem_iff, mem_names_iff, hx]
        simp
      rw [mem_names_iff, Bool.not_eq_true, Option.isSome_eq_false_iff,
        Option.isNone_iff_eq_none] at habsent
      rw [habsent]
      exact .none
  · intro h
    have hperm : (xs.map Prod.fst).Perm (ys.map Prod.fst) := by
      refine (List.perm_ext_iff_of_nodup hxs hys).mpr fun name ↦ ?_
      rw [mem_names_iff, mem_names_iff, (h name).isSome_eq]
    refine ⟨by simpa using hperm.length_eq, fun x hx ↦ ?_⟩
    have hvalue := h x.1
    rw [lookup_of_mem hxs hx] at hvalue
    obtain ⟨w, hw, hsame⟩ := hvalue.exists_of_some
    exact ⟨(x.1, w), mem_of_lookup hw, rfl, hsame⟩

end Yaml.Mapping

namespace Endpoint

/-! ## Settings and what they are written as -/

/-- The settings that are written, in order. -/
def writtenSettings : List String :=
  ["name", "group", "url", "interval", "conditions", "dns", "client", "ui"]

/-- The settings that are left out if they are empty. -/
def optionalSettings : List String := ["group", "conditions", "dns", "client", "ui"]

/-- What a setting is written as. -/
def valueOf (e : Endpoint) : String → Tree
  | "name" => .str e.name
  | "group" => .str e.group
  | "url" => .str e.url
  | "interval" => .str e.interval
  | "conditions" => .seq (e.conditions.map .str)
  | "dns" => .map e.dns
  | "client" => .map e.client
  | "ui" => .map e.ui
  | _ => .null

/-- An empty text, sequence or mapping. -/
def isBlank : Tree → Bool
  | .str s => s == ""
  | .seq items => items.isEmpty
  | .map entries => entries.isEmpty
  | _ => false

/-- The setting is left out, since it is empty. -/
def leavesOut (e : Endpoint) (setting : String) : Bool :=
  optionalSettings.contains setting && isBlank (e.valueOf setting)

/-- The known settings that are not left out. -/
def shown (e : Endpoint) : List String := writtenSettings.filter fun s ↦ !e.leavesOut s

/-- The settings that are carried along are in the order of their names, and none of them is known
here. -/
structure Tidy (e : Endpoint) : Prop where
  sorted : Sorted e.extra
  unknown : ∀ x ∈ e.extra, x.1 ∉ settings

/-- All settings of an endpoint that are written. -/
def entries (e : Endpoint) : List (String × Tree) :=
  e.shown.map (fun s ↦ (s, e.valueOf s)) ++ e.extra

private theorem named_shown (e : Endpoint) (l : List String) :
    Mapping.named ((l.filter fun s ↦ !e.leavesOut s).map fun s ↦ (s, e.valueOf s))
      = l.flatMap fun s ↦ entryUnless (e.leavesOut s) s (e.valueOf s) := by
  induction l with
  | nil => rfl
  | cons s l ih =>
    rw [List.flatMap_cons, ← ih, entryUnless]
    cases h : e.leavesOut s with
    | true => rw [List.filter_cons_of_neg (by simp [h])]; rfl
    | false => rw [List.filter_cons_of_pos (by simp [h])]; rfl

theorem toMapping_eq (e : Endpoint) : e.toMapping = Mapping.named e.entries := by
  have hconditions : e.leavesOut "conditions" = e.conditions.isEmpty := List.isEmpty_map
  have hentries : Mapping.named e.entries
      = (writtenSettings.flatMap fun s ↦ entryUnless (e.leavesOut s) s (e.valueOf s))
        ++ Mapping.named e.extra := by
    rw [entries, ← named_shown]
    exact List.map_append
  rw [hentries, toMapping]
  simp only [writtenSettings, List.flatMap_cons, List.flatMap_nil, hconditions, List.append_assoc]
  rfl

theorem names_entries (e : Endpoint) :
    e.entries.map Prod.fst = e.shown ++ e.extra.map Prod.fst := by
  rw [entries, List.map_append, List.map_map]
  exact congrArg (· ++ e.extra.map Prod.fst) (List.map_id e.shown)

theorem keys_toMapping (e : Endpoint) :
    Mapping.keys e.toMapping = (e.shown ++ e.extra.map Prod.fst).map Tree.str := by
  rw [toMapping_eq, Mapping.keys_named, names_entries]

theorem mem_settings_of_written {setting : String} (h : setting ∈ writtenSettings) :
    setting ∈ settings := by
  have hsubset : writtenSettings ⊆ settings := by decide
  exact hsubset h

namespace Tidy

variable {e : Endpoint} (h : e.Tidy)
include h

theorem lookup_eq_none {setting : String} (hs : setting ∈ settings) :
    e.extra.lookup setting = none := by
  rw [List.lookup_eq_none_iff]
  intro x hx
  exact bne_iff_ne.mpr fun heq ↦ h.unknown x hx (heq ▸ hs)

theorem nodup_names : (e.entries.map Prod.fst).Nodup := by
  have hshown : e.shown.Nodup := List.Nodup.filter _ (by decide : writtenSettings.Nodup)
  have hextra : (e.extra.map Prod.fst).Nodup :=
    List.pairwise_map.mpr (h.sorted.imp fun hlt ↦ hlt.ne)
  rw [names_entries]
  refine List.nodup_append.mpr ⟨hshown, hextra, fun s hs t ht heq ↦ ?_⟩
  obtain ⟨x, hx, rfl⟩ := List.mem_map.mp ht
  have hwritten : s ∈ writtenSettings := (List.mem_filter.mp hs).1
  exact h.unknown x hx (heq ▸ mem_settings_of_written hwritten)

theorem distinct_toMapping : Mapping.Distinct e.toMapping := by
  rw [toMapping_eq]
  exact Mapping.distinct_named h.nodup_names

/-- **What stands under the name of a setting** is its value, unless it is left out. -/
theorem get?_toMapping {setting : String} (hs : setting ∈ writtenSettings) :
    Mapping.get? e.toMapping (.str setting)
      = if e.leavesOut setting then none else some (e.valueOf setting) := by
  rw [toMapping_eq, Mapping.get?_named, entries, List.lookup_append,
    h.lookup_eq_none (mem_settings_of_written hs), Option.or_none]
  cases hout : e.leavesOut setting with
  | true =>
    rw [if_pos rfl, List.lookup_eq_none_iff]
    intro x hx
    obtain ⟨s, hshown, rfl⟩ := List.mem_map.mp hx
    refine bne_iff_ne.mpr ?_
    rintro rfl
    exact absurd (List.mem_filter.mp hshown).2 (by simp [hout])
  | false =>
    have hshown : setting ∈ e.shown := List.mem_filter.mpr ⟨hs, by rw [hout]; rfl⟩
    rw [if_neg Bool.false_ne_true, List.lookup_graph e.valueOf hshown]

end Tidy

theorem get?_toMapping_of_not_mem (e : Endpoint) {name : String} (h : name ∉ writtenSettings) :
    Mapping.get? e.toMapping (.str name) = e.extra.lookup name := by
  have hshown : (e.shown.map fun s ↦ (s, e.valueOf s)).lookup name = none := by
    rw [List.lookup_eq_none_iff]
    intro x hx
    obtain ⟨s, hs, rfl⟩ := List.mem_map.mp hx
    refine bne_iff_ne.mpr ?_
    rintro rfl
    exact h (List.mem_filter.mp hs).1
  rw [toMapping_eq, Mapping.get?_named, entries, List.lookup_append, hshown, Option.none_or]

/-! ## Reading -/

/-- What stands under a name, if it is of the right type, and `absent` if nothing does. -/
def readSetting {α : Type} (m : Mapping) (name : String) (read : Tree → Option α)
    (absent : Option α) : Option α := (Mapping.get? m (.str name)).elim absent read

def texts? : Tree → Option (List String)
  | .seq items => items.mapM Tree.str?
  | _ => none

/-- Puts settings into the order of their names. -/
def inOrder (found : List (String × Tree)) : List (String × Tree) :=
  found.foldl (fun extra x ↦ setExtra x.1 x.2 extra) []

/-- The entries of a mapping under all other names. -/
def otherEntries (m : Mapping) : List (String × Tree) :=
  m.filterMap fun x ↦ (x.1.str?.filter (· ∉ writtenSettings)).map (·, x.2)

/-- Reads an endpoint. Optional settings may be missing, and all others are carried along. -/
def ofMapping? (m : Mapping) : Option Endpoint := do
  some {
    name := ← readSetting m "name" Tree.str? none
    group := ← readSetting m "group" Tree.str? (some "")
    url := ← readSetting m "url" Tree.str? none
    interval := ← readSetting m "interval" Tree.str? none
    conditions := ← readSetting m "conditions" texts? (some [])
    dns := ← readSetting m "dns" Tree.map? (some [])
    client := ← readSetting m "client" Tree.map? (some [])
    ui := ← readSetting m "ui" Tree.map? (some [])
    extra := inOrder (otherEntries m) }

private theorem setExtra_of_forall_lt {extra : List (String × Tree)} {name : String} (value : Tree)
    (h : ∀ x ∈ extra, x.1 < name) : setExtra name value extra = extra ++ [(name, value)] := by
  induction extra with
  | nil => rfl
  | cons x rest ih =>
    obtain ⟨hfirst, hrest⟩ := List.forall_mem_cons.mp h
    obtain ⟨n, v⟩ := x
    rw [setExtra, if_neg hfirst.ne, if_neg (lt_asymm hfirst), ih hrest]
    rfl

theorem Sorted.inOrder_eq {extra : List (String × Tree)} (h : Sorted extra) :
    inOrder extra = extra := by
  induction extra using List.reverseRecOn with
  | nil => rfl
  | append_singleton extra x ih =>
    obtain ⟨hbefore, -, hlast⟩ := List.pairwise_append.mp h
    have hsplit : inOrder (extra ++ [x]) = Endpoint.setExtra x.1 x.2 (inOrder extra) :=
      List.foldl_append
    rw [hsplit, ih hbefore]
    exact setExtra_of_forall_lt x.2 fun y hy ↦ hlast y hy x List.mem_cons_self

private theorem otherEntries_named (xs : List (String × Tree)) :
    otherEntries (Mapping.named xs) = xs.filter fun x ↦ x.1 ∉ writtenSettings := by
  rw [otherEntries, Mapping.named, List.filterMap_map, ← List.filterMap_eq_filter]
  congr 1
  funext x
  by_cases h : x.1 ∈ writtenSettings <;> simp [Tree.str?, Option.guard, h]

private theorem texts?_strings (texts : List String) :
    texts? (.seq (texts.map .str)) = some texts := by
  have hpure : Tree.str? ∘ Tree.str = fun s ↦ (pure s : Option String) := rfl
  rw [texts?, List.mapM_map, hpure, List.mapM_pure, List.map_id']
  rfl

namespace Tidy

variable {e : Endpoint} (h : e.Tidy)
include h

theorem otherEntries_toMapping : otherEntries e.toMapping = e.extra := by
  have hshown : (e.shown.map fun s ↦ (s, e.valueOf s)).filter (fun x ↦ x.1 ∉ writtenSettings)
      = [] := by
    rw [List.filter_eq_nil_iff]
    intro x hx
    obtain ⟨s, hs, rfl⟩ := List.mem_map.mp hx
    simpa using (List.mem_filter.mp hs).1
  have hextra : e.extra.filter (fun x ↦ x.1 ∉ writtenSettings) = e.extra := by
    rw [List.filter_eq_self]
    intro x hx
    simpa using fun hwritten ↦ h.unknown x hx (mem_settings_of_written hwritten)
  rw [toMapping_eq, otherEntries_named, entries, List.filter_append, hshown, hextra,
    List.nil_append]

/-- A setting is read as what it was, also where it was left out. -/
theorem readSetting_toMapping {α : Type} {setting : String} (hs : setting ∈ writtenSettings)
    {read : Tree → Option α} {absent : Option α} {a : α} (hread : read (e.valueOf setting) = some a)
    (habsent : e.leavesOut setting = true → absent = some a) :
    readSetting e.toMapping setting read absent = some a := by
  rw [readSetting, h.get?_toMapping hs]
  cases hout : e.leavesOut setting with
  | true => exact habsent hout
  | false => exact hread

/-- **An endpoint is read back from its mapping**, but for being guarded, which is not written. -/
theorem ofMapping?_toMapping : ofMapping? e.toMapping = some { e with guarded := false } := by
  have hmap : ∀ {m : Mapping}, isBlank (.map m) = true → some [] = some m :=
    fun hblank ↦ congrArg some (List.isEmpty_iff.mp hblank).symm
  have hname : readSetting e.toMapping "name" Tree.str? none = some e.name :=
    h.readSetting_toMapping (by decide) rfl nofun
  have hgroup : readSetting e.toMapping "group" Tree.str? (some "") = some e.group :=
    h.readSetting_toMapping (by decide) rfl fun hout ↦ congrArg some (beq_iff_eq.mp hout).symm
  have hurl : readSetting e.toMapping "url" Tree.str? none = some e.url :=
    h.readSetting_toMapping (by decide) rfl nofun
  have hinterval : readSetting e.toMapping "interval" Tree.str? none = some e.interval :=
    h.readSetting_toMapping (by decide) rfl nofun
  have hconditions : readSetting e.toMapping "conditions" texts? (some []) = some e.conditions :=
    h.readSetting_toMapping (by decide) (texts?_strings e.conditions) fun hout ↦
      congrArg some (List.map_eq_nil_iff.mp (List.isEmpty_iff.mp hout)).symm
  have hdns : readSetting e.toMapping "dns" Tree.map? (some []) = some e.dns :=
    h.readSetting_toMapping (by decide) rfl hmap
  have hclient : readSetting e.toMapping "client" Tree.map? (some []) = some e.client :=
    h.readSetting_toMapping (by decide) rfl hmap
  have hui : readSetting e.toMapping "ui" Tree.map? (some []) = some e.ui :=
    h.readSetting_toMapping (by decide) rfl hmap
  rw [ofMapping?, hname, hgroup, hurl, hinterval, hconditions, hdns, hclient, hui,
    h.otherEntries_toMapping, h.sorted.inOrder_eq]
  rfl

end Tidy

/-! ## Comparing mappings -/

private theorem isBlank_of_same {v w : Tree} (h : v.same w = true) : isBlank v = isBlank w := by
  cases v with
  | seq items =>
    obtain ⟨others, rfl, hitems⟩ := Tree.seq_same_iff.mp h
    cases items <;> cases others <;> simp_all [Tree.sameItems, isBlank]
  | map es =>
    obtain ⟨fs, rfl, hlength, -⟩ := Tree.map_same_iff.mp h
    cases es <;> cases fs <;> simp_all [isBlank]
  | float x =>
    obtain ⟨y, rfl, -⟩ := Tree.float_same_iff.mp h
    rfl
  | tagged tag v =>
    obtain ⟨w, rfl, -⟩ := Tree.tagged_same_iff.mp h
    rfl
  | _ => rw [Tree.eq_of_isLeaf rfl h]

private theorem same_strings_iff {xs ys : List String} :
    (Tree.seq (xs.map .str)).same (.seq (ys.map .str)) = true ↔ xs = ys := by
  have hstrings : ∀ texts : List String, conditionsOf? (.seq (texts.map .str)) = some texts := by
    intro texts
    rw [conditionsOf?, List.filterMap_map]
    exact congrArg some List.filterMap_some
  constructor
  · intro h
    have hread := Tree.conditionsOf?_of_same h
    rwa [hstrings, hstrings, Option.some.injEq] at hread
  · rintro rfl
    exact Tree.same_refl _

variable {a b : Endpoint}

/-- Values that are both left out are the same, since there is one empty value of each type. -/
theorem valueOf_same_of_leavesOut {setting : String} (ha : a.leavesOut setting = true)
    (hb : b.leavesOut setting = true) : (a.valueOf setting).same (b.valueOf setting) = true := by
  rw [leavesOut, Bool.and_eq_true] at ha hb
  have hs : setting ∈ optionalSettings := List.contains_iff_mem.mp ha.1
  simp only [optionalSettings, List.mem_cons, List.not_mem_nil, or_false] at hs
  rcases hs with rfl | rfl | rfl | rfl | rfl
  all_goals
    simp only [valueOf, isBlank, beq_iff_eq, List.isEmpty_iff] at ha hb ⊢
    rw [ha.2, hb.2, Tree.same_refl]

private theorem leavesOut_eq {setting : String}
    (h : (a.valueOf setting).same (b.valueOf setting) = true) :
    a.leavesOut setting = b.leavesOut setting := by
  rw [leavesOut, leavesOut, isBlank_of_same h]

theorem sameValue_toMapping_iff (ha : a.Tidy) (hb : b.Tidy) {setting : String}
    (hs : setting ∈ writtenSettings) :
    Tree.SameValue (Mapping.get? a.toMapping (.str setting))
        (Mapping.get? b.toMapping (.str setting)) ↔
      (a.valueOf setting).same (b.valueOf setting) = true := by
  rw [ha.get?_toMapping hs, hb.get?_toMapping hs]
  constructor
  · intro h
    cases hout : a.leavesOut setting with
    | true =>
      cases hout' : b.leavesOut setting with
      | true => exact valueOf_same_of_leavesOut hout hout'
      | false =>
        rw [hout, hout'] at h
        exact absurd h (by rintro ⟨⟩)
    | false =>
      rw [hout] at h
      obtain ⟨w, hw, hsame⟩ := h.exists_of_some
      split at hw
      · exact absurd hw (by simp)
      · rwa [Option.some.inj hw]
  · intro h
    rw [leavesOut_eq h]
    split
    · exact .none
    · exact .some h

/-- Two endpoints are the same, apart from being guarded, exactly if all that is written of them
is. -/
theorem same_iff_valueOf : Endpoint.same { a with guarded := b.guarded } b = true ↔
    (∀ s ∈ writtenSettings, (a.valueOf s).same (b.valueOf s) = true) ∧
      sameExtra a.extra b.extra = true := by
  have hstr : ∀ {s t : String}, (Tree.str s).same (.str t) = true ↔ s = t := by
    intro s t
    rw [Tree.same_str_iff, Tree.str.injEq]
  simp only [same_iff, writtenSettings, List.forall_mem_cons, valueOf, hstr, same_strings_iff,
    Mapping.same]
  tauto

/-- **Endpoints are written as mappings that are the same exactly if they are the same** apart from
being guarded. -/
theorem same_toMapping_iff (ha : a.Tidy) (hb : b.Tidy) :
    Mapping.same a.toMapping b.toMapping = true ↔
      Endpoint.same { a with guarded := b.guarded } b = true := by
  have hnames : Mapping.same a.toMapping b.toMapping = true ↔ ∀ name,
      Tree.SameValue (Mapping.get? a.toMapping (.str name))
        (Mapping.get? b.toMapping (.str name)) := by
    simp only [toMapping_eq, Mapping.get?_named]
    exact Mapping.same_named_iff ha.nodup_names hb.nodup_names
  rw [hnames, same_iff_valueOf]
  constructor
  · intro h
    refine ⟨fun s hs ↦ (sameValue_toMapping_iff ha hb hs).mp (h s), ?_⟩
    refine sameExtra_of_lookup ha.sorted hb.sorted fun name ↦ ?_
    by_cases hname : name ∈ writtenSettings
    · have hknown := mem_settings_of_written hname
      rw [ha.lookup_eq_none hknown, hb.lookup_eq_none hknown]
      exact .none
    · have hvalue := h name
      rwa [get?_toMapping_of_not_mem a hname, get?_toMapping_of_not_mem b hname] at hvalue
  · rintro ⟨hvalues, hextra⟩ name
    by_cases hname : name ∈ writtenSettings
    · exact (sameValue_toMapping_iff ha hb hname).mpr (hvalues name hname)
    · rw [get?_toMapping_of_not_mem a hname, get?_toMapping_of_not_mem b hname]
      exact lookup_of_sameExtra hextra name

theorem eq_of_toMapping_eq (ha : a.Tidy) (hb : b.Tidy) (h : a.toMapping = b.toMapping) :
    { a with guarded := b.guarded } = b := by
  have hread : some { a with guarded := false } = some { b with guarded := false } := by
    rw [← ha.ofMapping?_toMapping, ← hb.ofMapping?_toMapping, h]
  exact congrArg (fun e : Endpoint ↦ { e with guarded := b.guarded }) (Option.some.inj hread)

/-- **The mapping of an endpoint is unambiguous.** Its keys are distinct; they are those of the
settings that are not left out, in their order, and then those of the settings that are carried
along, in the order of their bytes. Being guarded is not among them. Reading the mapping recovers
all the rest, so that two endpoints have the same mapping exactly if they agree in all but that,
whether mappings are compared as they are or by what their entries mean. -/
theorem toMapping_is_unambiguous {e : Endpoint} (h : e.Tidy) :
    Mapping.keys e.toMapping
        = ((writtenSettings.filter fun s ↦ !e.leavesOut s) ++ e.extra.map Prod.fst).map Tree.str ∧
      Mapping.Distinct e.toMapping ∧
      (e.extra.map Prod.fst).Pairwise (fun s t ↦ Text.bytes s < Text.bytes t) ∧
      Mapping.contains e.toMapping (.str "guarded") = false ∧
      ofMapping? e.toMapping = some { e with guarded := false } ∧
      ∀ {f : Endpoint}, f.Tidy →
        (Mapping.same e.toMapping f.toMapping = true ↔
          Endpoint.same { e with guarded := f.guarded } f = true) ∧
        (e.toMapping = f.toMapping ↔ { e with guarded := f.guarded } = f) := by
  refine ⟨keys_toMapping e, h.distinct_toMapping, ?_, ?_, h.ofMapping?_toMapping, fun hf ↦
    ⟨same_toMapping_iff h hf, eq_of_toMapping_eq h hf, ?_⟩⟩
  · exact List.pairwise_map.mpr (h.sorted.imp Text.bytes_lt)
  · have hguarded : "guarded" ∉ writtenSettings := by decide
    rw [Mapping.contains_eq_isSome, get?_toMapping_of_not_mem e hguarded,
      h.lookup_eq_none (by decide : "guarded" ∈ settings)]
    rfl
  · intro heq
    rw [← heq]
    rfl

/-- An endpoint with a probe, and with two settings that are carried along. -/
def alerting : Endpoint where
  name := "web"
  url := "1.1.1.1"
  interval := "1m"
  dns := [(.str "query-name", .str "web.example.com")]
  guarded := true
  extra := [("alerts", .seq [.map [(.str "type", .str "email")]]), ("headers", .map [])]

/-- The endpoint without the setting that is empty, and not guarded. -/
def quiet : Endpoint := { alerting with guarded := false, extra := alerting.extra.dropLast }

theorem tidy_alerting : alerting.Tidy where
  sorted := (by decide +kernel : alerting.extra.Pairwise fun a b ↦ a.1 < b.1)
  unknown := by decide +kernel

theorem tidy_quiet : quiet.Tidy where
  sorted := (by decide +kernel : quiet.extra.Pairwise fun a b ↦ a.1 < b.1)
  unknown := by decide +kernel

/-- An empty setting is kept if it is not known here, so its mapping is not that of an endpoint
without it. -/
theorem alerting_is_written : alerting.Tidy ∧ quiet.Tidy ∧
    Mapping.keys alerting.toMapping
      = ["name", "url", "interval", "dns", "alerts", "headers"].map Tree.str ∧
    ofMapping? alerting.toMapping = some { alerting with guarded := false } ∧
    Mapping.same alerting.toMapping quiet.toMapping = false := by
  obtain ⟨hkeys, -, -, -, hread, hother⟩ := toMapping_is_unambiguous tidy_alerting
  have hdiffer : Endpoint.same { alerting with guarded := quiet.guarded } quiet = false := rfl
  refine ⟨tidy_alerting, tidy_quiet, hkeys, hread, Bool.eq_false_iff.mpr fun hsame ↦ ?_⟩
  exact Bool.eq_false_iff.mp hdiffer ((hother tidy_quiet).1.mp hsame)

end Endpoint

end EndpointSync
