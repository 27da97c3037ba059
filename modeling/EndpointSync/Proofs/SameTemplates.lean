import EndpointSync.Proofs.Namesakes
import EndpointSync.Proofs.SameMappings
import Mathlib.Data.List.Nodup

/-!
# Templates that say the same

Templates that are the same as values, and are so in the order of their keys as well where this can
be seen, make the same of endpoints that are the same. The order can be seen in one case only. A key
with a tag names the same setting as the key without it, and then the later of the two counts. So
what is asked of two templates is that the keys that name one setting come in the same order in
both (`Template.Alike`).

This is no condition on a template in which each setting is named once
(`Template.alike_of_same`). It is stated for pairs of keys nevertheless, because it outlasts a
merge: two templates that name each setting once can name it twice when one is merged into the
other, but those of the lower one always come first.

## One part after the other

What becomes of a part of an endpoint depends on the values that the template has for its setting,
in their order. The values of templates that are alike are the same one by one, so it is enough to
look at what one value does to one part (`Endpoint.Part.rel_applyTemplate`).
-/

namespace EndpointSync

open Yaml (Mapping Tree)

/-! ## What can be told from a value -/

namespace Yaml.Tree

theorem str?_of_same : (a : Tree) → {b : Tree} → a.same b = true → a.str? = b.str?
  | .null, _, h => by rw [eq_of_isLeaf rfl h]
  | .bool _, _, h => by rw [eq_of_isLeaf rfl h]
  | .int _, _, h => by rw [eq_of_isLeaf rfl h]
  | .str _, _, h => by rw [eq_of_isLeaf rfl h]
  | .float _, _, h => by
    obtain ⟨y, rfl, -⟩ := float_same_iff.mp h
    rfl
  | .seq _, _, h => by
    obtain ⟨others, rfl, -⟩ := seq_same_iff.mp h
    rfl
  | .map _, _, h => by
    obtain ⟨fs, rfl, -⟩ := map_same_iff.mp h
    rfl
  | .tagged _ v, _, h => by
    obtain ⟨w, rfl, hvalue⟩ := tagged_same_iff.mp h
    rw [str?, str?, str?_of_same v hvalue]

theorem bool?_of_same {a b : Tree} (h : a.same b = true) : a.bool? = b.bool? := by
  cases a <;> cases b <;> simp_all [same, bool?]

private theorem filterMap_str?_of_same {xs ys : List Tree} (h : sameItems xs ys = true) :
    xs.filterMap str? = ys.filterMap str? := by
  induction xs generalizing ys with
  | nil =>
    rcases ys with _ | ⟨y, ys⟩
    · rfl
    · exact absurd h (by simp [sameItems])
  | cons x xs ih =>
    rcases ys with _ | ⟨y, ys⟩
    · exact absurd h (by simp [sameItems])
    · rw [sameItems, Bool.and_eq_true] at h
      rw [List.filterMap_cons, List.filterMap_cons, str?_of_same x h.1, ih h.2]

theorem conditionsOf?_of_same {a b : Tree} (h : a.same b = true) :
    Endpoint.conditionsOf? a = Endpoint.conditionsOf? b := by
  cases a with
  | seq items =>
    obtain ⟨others, rfl, hitems⟩ := seq_same_iff.mp h
    exact congrArg some (filterMap_str?_of_same hitems)
  | _ => cases b <;> simp_all [same, Endpoint.conditionsOf?]

end Yaml.Tree

/-! ## Keys that name a setting -/

namespace Template

variable {t u : Template} {setting : String}

/-- The keys of a template that name a setting, in written order. -/
def keysOf (t : Template) (setting : String) : List Tree := (t.naming setting).map Prod.fst

theorem keysOf_eq (t : Template) (setting : String) :
    t.keysOf setting = (Mapping.keys t).filter fun k ↦ k.str? = some setting := by
  rw [keysOf, naming, Mapping.keys, List.filter_map]
  rfl

theorem valuesOf_eq (ht : Mapping.WellFormed t) (setting : String) :
    t.valuesOf setting = (t.keysOf setting).map fun k ↦ (Mapping.get? t k).getD .null := by
  rw [valuesOf, keysOf, List.map_map]
  refine List.map_congr_left fun e he ↦ ?_
  have hmem : e ∈ t := (mem_naming.mp he).1
  rw [Function.comp_apply, Mapping.get?_of_mem ht hmem e.1.same_refl, Option.getD_some]

private theorem naming_same (ht : Mapping.WellFormed t) (hu : Mapping.WellFormed u)
    (h : Mapping.same t u = true) (setting : String) :
    Mapping.same (t.naming setting) (u.naming setting) = true := by
  have hentries : ∀ {t u : Template}, Mapping.same t u = true →
      Tree.sameEntries (t.naming setting) (u.naming setting) = true := by
    intro t u h
    refine Tree.sameEntries_iff.mpr fun e he ↦ ?_
    obtain ⟨hmem, hname⟩ := mem_naming.mp he
    obtain ⟨f, hf, hkey, hvalue⟩ :=
      Tree.sameEntries_iff.mp (Mapping.sameEntries_of_same h) e hmem
    exact ⟨f, mem_naming.mpr ⟨hf, Tree.str?_of_same e.1 hkey ▸ hname⟩, hkey, hvalue⟩
  exact Mapping.same_of_sameEntries (ht.sublist List.filter_sublist)
    (hu.sublist List.filter_sublist) (hentries h) (hentries (Mapping.same_symm ht h))

def NamesOnce (t : Template) : Prop := (t.filterMap fun e ↦ e.1.str?).Nodup

instance (t : Template) : Decidable t.NamesOnce :=
  inferInstanceAs (Decidable (List.Nodup _))

theorem NamesOnce.length_le (h : t.NamesOnce) (setting : String) :
    (t.naming setting).length ≤ 1 := by
  have hcount := List.nodup_iff_count_le_one.mp h setting
  rw [List.count_filterMap, List.countP_eq_length_filter] at hcount
  simpa only [naming, beq_eq_decide] using hcount

/-! ## Templates alike -/

/-- Two templates are the same, and keys that name one setting come in the same order in both. -/
structure Alike (t u : Template) : Prop where
  wellFormed : Mapping.WellFormed t ∧ Mapping.WellFormed u
  same : Mapping.same t u = true
  keys : ∀ setting, List.Forall₂ (fun k k' ↦ k.same k' = true) (t.keysOf setting) (u.keysOf setting)

theorem alike_refl (ht : Mapping.WellFormed t) : t.Alike t where
  wellFormed := ⟨ht, ht⟩
  same := Mapping.same_refl t
  keys _ := List.forall₂_same.mpr fun k _ ↦ k.same_refl

theorem alike_of_same (ht : Mapping.WellFormed t) (hu : Mapping.WellFormed u)
    (h : Mapping.same t u = true) (hnames : t.NamesOnce) : t.Alike u := by
  refine ⟨⟨ht, hu⟩, h, fun setting ↦ ?_⟩
  have hsame := naming_same ht hu h setting
  obtain ⟨fs, hfs, hlength, hentries⟩ := Tree.map_same_iff.mp hsame
  obtain rfl := Tree.map.inj hfs
  have honce := hnames.length_le setting
  rw [keysOf, keysOf]
  generalize t.naming setting = es at hlength hentries honce
  generalize u.naming setting = fs at hlength hentries
  rcases es with _ | ⟨e, rest⟩
  · rw [List.eq_nil_of_length_eq_zero hlength.symm]
    exact .nil
  · have hrest : rest = [] := by
      rw [List.length_cons] at honce
      exact List.eq_nil_of_length_eq_zero (by omega)
    subst hrest
    obtain ⟨f, rfl⟩ := List.length_eq_one_iff.mp hlength.symm
    obtain ⟨g, hg, hkey, -⟩ := Tree.sameEntries_iff.mp hentries e List.mem_cons_self
    exact .cons (List.mem_singleton.mp hg ▸ hkey) .nil

private theorem wellFormed_of_mem_keysOf (ht : Mapping.WellFormed t) {k : Tree}
    (hk : k ∈ t.keysOf setting) : k.WellFormed := by
  obtain ⟨e, he, rfl⟩ := List.mem_map.mp hk
  exact ((Mapping.wellFormed_iff.mp ht).2 e (mem_naming.mp he).1).1

theorem Alike.wellFormed_keys (h : t.Alike u) (setting : String) :
    List.Forall₂ (fun k k' ↦ k.WellFormed ∧ k.same k' = true)
      (t.keysOf setting) (u.keysOf setting) :=
  (List.forall₂_and_left _ _).mpr
    ⟨fun _ hk ↦ wellFormed_of_mem_keysOf h.wellFormed.1 hk, h.keys setting⟩

/-- What two templates that are alike say about a setting is the same value by value. -/
theorem Alike.values (h : t.Alike u) (setting : String) :
    List.Forall₂ (fun v w ↦ (v.WellFormed ∧ w.WellFormed) ∧ v.same w = true)
      (t.valuesOf setting) (u.valuesOf setting) := by
  obtain ⟨ht, hu⟩ := h.wellFormed
  have hwell : ∀ {t : Template}, Mapping.WellFormed t → ∀ k,
      ((Mapping.get? t k).getD .null).WellFormed := by
    intro t ht k
    rcases hv : Mapping.get? t k with _ | v
    · trivial
    · exact ht.get? hv
  rw [valuesOf_eq ht, valuesOf_eq hu, List.forall₂_map_left_iff, List.forall₂_map_right_iff]
  refine (h.wellFormed_keys setting).imp fun k k' ⟨hk, hsame⟩ ↦ ⟨⟨hwell ht k, hwell hu k'⟩, ?_⟩
  have hvalue := (Mapping.same_iff_get? ht hu).mp h.same k
  have hother := Mapping.get?_eq_of_same (fun e he ↦ ((Mapping.wellFormed_iff.mp hu).2 e he).1)
    hk hsame
  rw [hother] at hvalue
  exact hvalue.getD

theorem Alike.contains_eq (h : t.Alike u) {k k' : Tree} (hk : k.WellFormed)
    (hsame : k.same k' = true) : Mapping.contains t k = Mapping.contains u k' := by
  obtain ⟨ht, hu⟩ := h.wellFormed
  have hkeys : ∀ e ∈ u, e.1.WellFormed := fun e he ↦ ((Mapping.wellFormed_iff.mp hu).2 e he).1
  rw [Mapping.contains_eq_isSome, Mapping.contains_eq_isSome,
    ← Mapping.get?_eq_of_same hkeys hk hsame]
  exact ((Mapping.same_iff_get? ht hu).mp h.same k).isSome_eq

theorem Alike.overlay {t' u' : Template} (h : t.Alike u) (h' : t'.Alike u') :
    Template.Alike (Mapping.overlay t t') (Mapping.overlay u u') := by
  obtain ⟨ht, hu⟩ := h.wellFormed
  obtain ⟨ht', hu'⟩ := h'.wellFormed
  refine ⟨⟨ht.overlay ht', hu.overlay hu'⟩, Mapping.overlay_same ht hu ht' hu' h.same h'.same, ?_⟩
  intro setting
  -- the keys of the lower template come first, then those of the upper one that are new
  have hkeys : ∀ {p o : Template}, Mapping.Distinct o → keysOf (Mapping.overlay p o) setting
      = p.keysOf setting ++ (o.keysOf setting).filter fun k ↦ !Mapping.contains p k := by
    intro p o ho
    rw [keysOf_eq, keysOf_eq, keysOf_eq, Mapping.keys_overlay ho, List.filter_append,
      List.filter_filter, List.filter_filter]
    simp only [Bool.and_comm]
  rw [hkeys (Mapping.wellFormed_iff.mp ht').1, hkeys (Mapping.wellFormed_iff.mp hu').1]
  have hnew := List.rel_filter (p := fun k ↦ !Mapping.contains t k)
    (q := fun k ↦ !Mapping.contains u k) (fun k k' ⟨hk, hsame⟩ ↦ by
      dsimp only
      rw [h.contains_eq hk hsame]) (h'.wellFormed_keys setting)
  exact List.rel_append (h.keys setting) (hnew.imp fun k k' hk ↦ hk.2)

end Template

/-! ## Endpoints -/

namespace Endpoint

theorem sameExtra_of_lookup {xs ys : List (String × Tree)} (hxs : Sorted xs) (hys : Sorted ys)
    (h : ∀ name, Tree.SameValue (xs.lookup name) (ys.lookup name)) : sameExtra xs ys = true := by
  have hpairs := hxs.forall₂_of_lookup (R := fun v w ↦ v.same w = true) hys h
  clear h hxs hys
  induction hpairs with
  | nil => rfl
  | cons hfirst _ ih => exact sameExtra_cons_iff.mpr ⟨hfirst.1, hfirst.2, ih⟩

theorem lookup_of_sameExtra {xs ys : List (String × Tree)} (h : sameExtra xs ys = true)
    (name : String) : Tree.SameValue (xs.lookup name) (ys.lookup name) := by
  match xs, ys with
  | [], [] => exact .none
  | [], _ :: _ => exact absurd h (by simp [sameExtra])
  | _ :: _, [] => exact absurd h (by simp [sameExtra])
  | (n, v) :: xs, (m, w) :: ys =>
    obtain ⟨rfl, hvalue, hrest⟩ := sameExtra_cons_iff.mp h
    rw [lookup_cons_eq, lookup_cons_eq]
    split
    · exact .some hvalue
    · exact lookup_of_sameExtra hrest name

variable {a b : Endpoint} {t u : Template}

/-- **What two templates alike make of a part** is related as the part was before, if it is so with
the same value in both. -/
theorem Part.rel_applyTemplate {α : Type} (part : Part α) {R : α → α → Prop}
    (hupdate : ∀ x y v w, R x y → v.WellFormed → w.WellFormed → v.same w = true →
      R (part.update x v) (part.update y w))
    (h : R (part.read a) (part.read b)) (halike : t.Alike u) :
    R (part.read (a.applyTemplate t)) (part.read (b.applyTemplate u)) := by
  rw [part.read_applyTemplate_eq_foldl, part.read_applyTemplate_eq_foldl]
  refine List.rel_foldl ?_ h (halike.values part.setting)
  intro x y hxy v w ⟨⟨hv, hw⟩, hvw⟩
  exact hupdate x y v w hxy hv hw hvw

theorem Part.eq_applyTemplate {α : Type} (part : Part α) {f : Tree → Option α}
    (hupdate : ∀ old value, part.update old value = (f value).getD old)
    (hf : ∀ {v w : Tree}, v.same w = true → f v = f w) (h : part.read a = part.read b)
    (halike : t.Alike u) : part.read (a.applyTemplate t) = part.read (b.applyTemplate u) := by
  refine part.rel_applyTemplate (R := Eq) ?_ h halike
  intro x y v w hxy _ _ hvw
  rw [hupdate, hupdate, hxy, hf hvw]

theorem Part.same_applyTemplate (part : Part Mapping) (hupdate : part.update = overlaid)
    (hwell : (part.read a).WellFormed ∧ (part.read b).WellFormed)
    (h : Mapping.same (part.read a) (part.read b) = true) (halike : t.Alike u) :
    Mapping.same (part.read (a.applyTemplate t)) (part.read (b.applyTemplate u)) = true := by
  refine (part.rel_applyTemplate
    (R := fun m n ↦ (m.WellFormed ∧ n.WellFormed) ∧ Mapping.same m n = true) ?_ ⟨hwell, h⟩
    halike).2
  rintro m n v w ⟨⟨hm, hn⟩, hmn⟩ hv hw hvw
  rw [hupdate]
  rcases Tree.map?_of_same hvw with ⟨hv', hw'⟩ | ⟨m', n', rfl, rfl, hnested⟩
  · rw [overlaid, overlaid, hv', hw']
    exact ⟨⟨hm, hn⟩, hmn⟩
  · exact ⟨⟨hm.overlay hv, hn.overlay hw⟩, Mapping.overlay_same hm hn hv hw hmn hnested⟩

/-- **Templates alike make the same of endpoints that are the same.** -/
theorem applyTemplate_same (ha : a.WellFormed) (hb : b.WellFormed)
    (hsorted : Sorted a.extra ∧ Sorted b.extra) (h : a.same b = true) (halike : t.Alike u) :
    (a.applyTemplate t).same (b.applyTemplate u) = true := by
  obtain ⟨⟨hname, hgroup, hurl, hinterval, hconditions, hguarded⟩, hdns, hclient, hui, hextra⟩ :=
    same_iff.mp h
  have htext : ∀ {v w : Tree}, v.same w = true → v.str? = w.str? := fun h ↦ Tree.str?_of_same _ h
  refine same_iff.mpr ⟨⟨?_, ?_, ?_, ?_, ?_, ?_⟩, ?_, ?_, ?_, ?_⟩
  · refine Part.name.eq_applyTemplate (f := fun v ↦ v.str?.filter (· ≠ "")) (fun _ _ ↦ rfl) ?_ hname
      halike
    intro v w hvw
    rw [htext hvw]
  · exact Part.group.eq_applyTemplate (fun _ _ ↦ rfl) htext hgroup halike
  · exact Part.url.eq_applyTemplate (fun _ _ ↦ rfl) htext hurl halike
  · exact Part.interval.eq_applyTemplate (fun _ _ ↦ rfl) htext hinterval halike
  · exact Part.conditions.eq_applyTemplate (fun _ _ ↦ rfl) Tree.conditionsOf?_of_same hconditions
      halike
  · exact Part.guarded.eq_applyTemplate (fun _ _ ↦ rfl) Tree.bool?_of_same hguarded halike
  · exact Part.dns.same_applyTemplate rfl ⟨ha.dns, hb.dns⟩ hdns halike
  · exact Part.client.same_applyTemplate rfl ⟨ha.client, hb.client⟩ hclient halike
  · exact Part.ui.same_applyTemplate rfl ⟨ha.ui, hb.ui⟩ hui halike
  · refine sameExtra_of_lookup (sorted_applyTemplate hsorted.1 t)
      (sorted_applyTemplate hsorted.2 u) fun name ↦ ?_
    by_cases hname : name ∈ settings
    · rw [lookup_extra_of_mem hname, lookup_extra_of_mem hname]
      exact lookup_of_sameExtra hextra name
    · refine (Part.other name hname).rel_applyTemplate (R := Tree.SameValue) ?_
        (lookup_of_sameExtra hextra name) halike
      intro x y v w _ _ _ hvw
      exact .some hvw

/-- Where two keys read as one string, their order can be seen. -/
example :
    let t : Template := [(.str "url", .str "a"), (.tagged "t" (.str "url"), .str "b")]
    let e : Endpoint := { name := "web", url := "", interval := "1m" }
    Mapping.same t t.reverse = true ∧ (e.applyTemplate t).url = "b" ∧
      (e.applyTemplate t.reverse).url = "a" := by decide

end Endpoint

end EndpointSync
