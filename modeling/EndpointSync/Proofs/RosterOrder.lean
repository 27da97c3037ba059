import EndpointSync.Proofs.Entries
import Mathlib.Data.List.Sort
import Mathlib.Data.String.Basic

/-!
# The text of a roster depends on its entries alone

A roster is kept in the order in which its keys were first set, and written in another one. No key
stands twice in it, and nothing that is done to it brings one in twice. So it is determined by what
stands under its keys up to that first order; and the second one leaves nothing open, since entries
come by name and those of one name by key. Rosters with the same entries are therefore written as
the same text.
-/

namespace EndpointSync

/-! ## Comparing by one thing first -/

section ThenBy

variable {α : Type} {f : α → String} {le : α → α → Bool} {a b c : α}

/-- Compares by a string, and where these are equal in another way. -/
def thenBy (f : α → String) (le : α → α → Bool) (a b : α) : Bool :=
  if f a ≠ f b then f a < f b else le a b

theorem thenBy_iff : thenBy f le a b = true ↔ f a < f b ∨ f a = f b ∧ le a b = true := by
  rw [thenBy]
  by_cases h : f a = f b
  · rw [if_neg (not_not_intro h)]
    simp [h]
  · rw [if_pos h]
    simp [h]

theorem thenBy_total (hle : ∀ a b, (le a b || le b a) = true) (a b : α) :
    (thenBy f le a b || thenBy f le b a) = true := by
  rw [Bool.or_eq_true, thenBy_iff, thenBy_iff]
  rcases lt_trichotomy (f a) (f b) with hlt | heq | hgt
  · exact .inl (.inl hlt)
  · exact ((Bool.or_eq_true _ _).mp (hle a b)).imp (fun h ↦ .inr ⟨heq, h⟩)
      fun h ↦ .inr ⟨heq.symm, h⟩
  · exact .inr (.inl hgt)

theorem thenBy_trans (hle : ∀ a b c, le a b = true → le b c = true → le a c = true) (a b c : α)
    (hab : thenBy f le a b = true) (hbc : thenBy f le b c = true) : thenBy f le a c = true := by
  rw [thenBy_iff] at hab hbc ⊢
  rcases hab with hab | ⟨hab, hab'⟩
  · rcases hbc with hbc | ⟨hbc, -⟩
    · exact .inl (lt_trans hab hbc)
    · exact .inl (hbc ▸ hab)
  · rcases hbc with hbc | ⟨hbc, hbc'⟩
    · exact .inl (hab ▸ hbc)
    · exact .inr ⟨hab.trans hbc, hle a b c hab' hbc'⟩

theorem eq_of_thenBy (hab : thenBy f le a b = true) (hba : thenBy f le b a = true) :
    f a = f b ∧ le a b = true ∧ le b a = true := by
  rw [thenBy_iff] at hab hba
  rcases hab with hab | ⟨hab, hab'⟩
  · rcases hba with hba | ⟨hba, -⟩
    · exact absurd hba (lt_asymm hab)
    · exact absurd hab (hba ▸ lt_irrefl _)
  · rcases hba with hba | ⟨-, hba'⟩
    · exact absurd hba (hab ▸ lt_irrefl _)
    · exact ⟨hab, hab', hba'⟩

end ThenBy

namespace Key

theorem le_eq_thenBy :
    le = thenBy name (thenBy namespaceName fun a b ↦ a.resource ≤ b.resource) := rfl

theorem le_total (a b : Key) : (a.le b || b.le a) = true := by
  rw [le_eq_thenBy]
  refine thenBy_total (thenBy_total fun a b ↦ ?_) a b
  simpa using String.le_total a.resource b.resource

theorem le_trans (a b c : Key) (hab : a.le b = true) (hbc : b.le c = true) : a.le c = true := by
  rw [le_eq_thenBy] at hab hbc ⊢
  refine thenBy_trans (thenBy_trans fun a b c hab hbc ↦ ?_) a b c hab hbc
  simp only [decide_eq_true_eq] at hab hbc ⊢
  exact String.le_trans hab hbc

theorem le_antisymm {a b : Key} (hab : a.le b = true) (hba : b.le a = true) : a = b := by
  rw [le_eq_thenBy] at hab hba
  obtain ⟨hname, hab, hba⟩ := eq_of_thenBy hab hba
  obtain ⟨hnamespace, hab, hba⟩ := eq_of_thenBy hab hba
  simp only [decide_eq_true_eq] at hab hba
  obtain ⟨name, namespaceName, resource⟩ := a
  exact (Key.mk.injEq ..).mpr ⟨hname, hnamespace, String.le_antisymm hab hba⟩

end Key

namespace Roster

/-! ## Keys -/

/-- No key stands twice in the roster. -/
def Distinct (r : Roster) : Prop := (r.map Prod.fst).Nodup

variable {r r' : Roster}

theorem keys_insert (r : Roster) (key : Key) (e : Endpoint) : (r.insert key e).map Prod.fst
    = if (r.get? key).isSome then r.map Prod.fst else r.map Prod.fst ++ [key] := by
  induction r with
  | nil => rfl
  | cons entry rest ih =>
    obtain ⟨k, old⟩ := entry
    rw [insert, get?_cons]
    split
    · rfl
    · rw [List.map_cons, ih]
      split <;> rfl

theorem mem_keys_iff {key : Key} : key ∈ r.map Prod.fst ↔ (r.get? key).isSome = true := by
  induction r with
  | nil => simp
  | cons entry rest ih =>
    obtain ⟨k, e⟩ := entry
    rw [List.map_cons, List.mem_cons, get?_cons, ih]
    by_cases h : k = key
    · simp [h]
    · rw [if_neg h]
      exact or_iff_right (Ne.symm h)

theorem distinct_nil : Distinct [] := List.nodup_nil

theorem Distinct.insert (h : r.Distinct) (key : Key) (e : Endpoint) :
    (r.insert key e).Distinct := by
  rw [Distinct, keys_insert]
  split
  · exact h
  next hnew =>
    refine List.nodup_append.mpr ⟨h, List.nodup_singleton key, fun k hk k' hk' heq ↦ hnew ?_⟩
    rw [← List.mem_singleton.mp hk', ← heq]
    exact mem_keys_iff.mp hk

theorem Distinct.erase (h : r.Distinct) (key : Key) : (r.erase key).Distinct :=
  h.sublist (List.filter_sublist.map Prod.fst)

theorem Distinct.settle (h : r.Distinct) (ρ : Ruling) : (r.settle ρ).Distinct := by
  match ρ with
  | none => exact h
  | some (key, .drop) => exact h.erase key
  | some (_, .noUrl) => exact h
  | some (_, .invalid _) => exact h
  | some (key, .endpoint e) =>
    rw [Roster.settle]
    split
    · exact h
    · exact h.insert key e

theorem mem_of_get? {key : Key} {e : Endpoint} (h : r.get? key = some e) : (key, e) ∈ r := by
  induction r with
  | nil => exact absurd h (by simp)
  | cons entry rest ih =>
    obtain ⟨k, old⟩ := entry
    rw [get?_cons] at h
    split at h
    next hkey => exact List.mem_cons.mpr (.inl (by rw [hkey, Option.some.inj h]))
    · exact List.mem_cons_of_mem _ (ih h)

theorem Distinct.get?_of_mem (h : r.Distinct) {key : Key} {e : Endpoint} (hmem : (key, e) ∈ r) :
    r.get? key = some e := by
  induction r with
  | nil => exact absurd hmem List.not_mem_nil
  | cons entry rest ih =>
    obtain ⟨k, old⟩ := entry
    obtain ⟨hfirst, hrest⟩ := List.nodup_cons.mp h
    rw [get?_cons]
    rcases List.mem_cons.mp hmem with heq | hlater
    · rw [Prod.mk.injEq] at heq
      rw [if_pos heq.1.symm, heq.2]
    · have hkey : k ≠ key := by
        rintro rfl
        exact hfirst (List.mem_map.mpr ⟨_, hlater, rfl⟩)
      rw [if_neg hkey]
      exact ih hrest hlater

/-! ## Entries -/

theorem Distinct.perm (h : r.Distinct) (h' : r'.Distinct) (hget : ∀ k, r.get? k = r'.get? k) :
    r.Perm r' := by
  refine (List.perm_ext_iff_of_nodup h.of_map h'.of_map).mpr ?_
  rintro ⟨key, e⟩
  constructor
  · intro hmem
    exact mem_of_get? ((hget key).symm.trans (h.get?_of_mem hmem))
  · intro hmem
    exact mem_of_get? ((hget key).trans (h'.get?_of_mem hmem))

theorem entryLe_eq_thenBy : entryLe = thenBy (fun x ↦ x.2.name) fun a b ↦ a.1.le b.1 := rfl

theorem entryLe_total (a b : Key × Endpoint) : (entryLe a b || entryLe b a) = true := by
  rw [entryLe_eq_thenBy]
  exact thenBy_total (fun a b ↦ Key.le_total a.1 b.1) a b

theorem entryLe_trans (a b c : Key × Endpoint) (hab : entryLe a b = true)
    (hbc : entryLe b c = true) : entryLe a c = true := by
  rw [entryLe_eq_thenBy] at hab hbc ⊢
  exact thenBy_trans (fun a b c ↦ Key.le_trans a.1 b.1 c.1) a b c hab hbc

/-- No two entries of a roster are level. -/
theorem Distinct.eq_of_entryLe (h : r.Distinct) {a b : Key × Endpoint} (ha : a ∈ r) (hb : b ∈ r)
    (hab : entryLe a b = true) (hba : entryLe b a = true) : a = b := by
  rw [entryLe_eq_thenBy] at hab hba
  obtain ⟨-, hab, hba⟩ := eq_of_thenBy hab hba
  have hkey : a.1 = b.1 := Key.le_antisymm hab hba
  have hget : some a.2 = some b.2 := by
    rw [← h.get?_of_mem ha, ← h.get?_of_mem hb, hkey]
  exact Prod.ext hkey (Option.some.inj hget)

/-- The order in which a roster is kept does not show when it is written. -/
theorem Distinct.ordered_eq (h : r.Distinct) (hperm : r.Perm r') : r.ordered = r'.ordered := by
  have hsorted : (r.mergeSort entryLe).Perm (r'.mergeSort entryLe) :=
    ((List.mergeSort_perm r entryLe).trans hperm).trans (List.mergeSort_perm r' entryLe).symm
  have hlevel : ∀ a b, a ∈ r.mergeSort entryLe → b ∈ r'.mergeSort entryLe →
      entryLe a b = true → entryLe b a = true → a = b := fun a b ha hb ↦
    h.eq_of_entryLe (List.mem_mergeSort.mp ha) (hperm.mem_iff.mpr (List.mem_mergeSort.mp hb))
  have hentries : r.mergeSort entryLe = r'.mergeSort entryLe :=
    hsorted.eq_of_pairwise hlevel (List.pairwise_mergeSort entryLe_trans entryLe_total r)
      (List.pairwise_mergeSort entryLe_trans entryLe_total r')
  rw [ordered, ordered, hentries]

/-- **Rosters with the same entries are written as the same text**, if they can be written. -/
theorem Distinct.render?_eq (h : r.Distinct) (h' : r'.Distinct)
    (hget : ∀ k, r.get? k = r'.get? k) : r.render? = r'.render? := by
  rw [render?, render?, document, document, h.ordered_eq (h.perm h' hget)]

end Roster

end EndpointSync
