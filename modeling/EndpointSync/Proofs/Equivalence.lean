import EndpointSync.Proofs.Sameness
import Mathlib.Data.List.Perm.Subperm

/-!
# Sameness is an equivalence

Comparing mappings looks each entry of the one up in the other, and the other way round is left to
the number of entries. That this is enough is because no key stands twice in a mapping: different
entries then have different partners, and as there are as many entries on both sides, none is left
without one. Sameness is therefore symmetric where keys are distinct at every level, while it is
transitive wherever it holds.

No key of another spelling makes a difference to this: two keys that collide are the same key.
-/

namespace EndpointSync

namespace Binary64

theorem same_iff {x y : Binary64} : x.same y = true ↔
    x = y ∨ ((∃ n e, x = .finite n 0 e) ∧ ∃ n e, y = .finite n 0 e) := by
  unfold same
  split
  next n e n' e' => exact iff_of_true rfl (.inr ⟨⟨n, e, rfl⟩, n', e', rfl⟩)
  next hzeros =>
    rw [beq_iff_eq]
    constructor
    · exact .inl
    · rintro (heq | ⟨⟨n, e, rfl⟩, n', e', rfl⟩)
      · exact heq
      · exact absurd rfl (hzeros n e n' e' rfl)

theorem same_symm {x y : Binary64} (h : x.same y = true) : y.same x = true := by
  rw [same_iff] at h ⊢
  exact h.imp Eq.symm And.symm

theorem same_trans {x y z : Binary64} (h : x.same y = true) (h' : y.same z = true) :
    x.same z = true := by
  rw [same_iff] at h h' ⊢
  rcases h with rfl | ⟨hx, hy⟩
  · exact h'
  · rcases h' with rfl | ⟨-, hz⟩
    · exact .inr ⟨hx, hy⟩
    · exact .inr ⟨hx, hz⟩

end Binary64

namespace Yaml

namespace Tree

/-! ## What a value is the same as -/

theorem sameEntries_iff {es fs : List (Tree × Tree)} : sameEntries es fs = true ↔
    ∀ e ∈ es, ∃ f ∈ fs, e.1.same f.1 = true ∧ e.2.same f.2 = true := by
  induction es with
  | nil => simp [sameEntries]
  | cons e rest ih =>
    obtain ⟨k, v⟩ := e
    rw [sameEntries, Bool.and_eq_true, List.any_eq_true, ih, List.forall_mem_cons]
    simp only [Bool.and_eq_true]

theorem map_same_iff {es : List (Tree × Tree)} {b : Tree} : (Tree.map es).same b = true ↔
    ∃ fs, b = .map fs ∧ es.length = fs.length ∧ sameEntries es fs = true := by
  cases b <;> simp [same]

theorem seq_same_iff {items : List Tree} {b : Tree} : (Tree.seq items).same b = true ↔
    ∃ others, b = .seq others ∧ sameItems items others = true := by
  cases b <;> simp [same]

theorem tagged_same_iff {tag : String} {v b : Tree} : (Tree.tagged tag v).same b = true ↔
    ∃ w, b = .tagged tag w ∧ v.same w = true := by
  cases b with
  | tagged tag' w =>
    rw [same, Bool.and_eq_true, beq_iff_eq]
    constructor
    · rintro ⟨rfl, hvalue⟩
      exact ⟨w, rfl, hvalue⟩
    · rintro ⟨u, heq, hvalue⟩
      rw [Tree.tagged.injEq] at heq
      exact ⟨heq.1.symm, heq.2 ▸ hvalue⟩
  | _ => simp [same]

theorem float_same_iff {x : Binary64} {b : Tree} : (Tree.float x).same b = true ↔
    ∃ y, b = .float y ∧ x.same y = true := by
  cases b <;> simp [same]

/-- A value with nothing inside it. -/
def isLeaf : Tree → Bool
  | .seq _ | .map _ | .tagged .. | .float _ => false
  | _ => true

/-- Apart from numbers with a fraction, such a value is the same as itself alone. -/
theorem eq_of_isLeaf {a b : Tree} (hleaf : a.isLeaf = true) (h : a.same b = true) : b = a := by
  cases a <;> cases b <;> simp_all [isLeaf, same]

/-! ## The order of comparison -/

mutual
/-- **Sameness is transitive.** -/
theorem same_trans : (a : Tree) → {b c : Tree} → a.same b = true → b.same c = true →
    a.same c = true
  | .null, _, _, h, h' => eq_of_isLeaf rfl h ▸ h'
  | .bool _, _, _, h, h' => eq_of_isLeaf rfl h ▸ h'
  | .int _, _, _, h, h' => eq_of_isLeaf rfl h ▸ h'
  | .str _, _, _, h, h' => eq_of_isLeaf rfl h ▸ h'
  | .float x, _, _, h, h' => by
    obtain ⟨y, rfl, hxy⟩ := float_same_iff.mp h
    obtain ⟨z, rfl, hyz⟩ := float_same_iff.mp h'
    exact Binary64.same_trans hxy hyz
  | .seq items, _, _, h, h' => by
    obtain ⟨others, rfl, hitems⟩ := seq_same_iff.mp h
    obtain ⟨last, rfl, hothers⟩ := seq_same_iff.mp h'
    exact seq_same_iff.mpr ⟨last, rfl, sameItems_trans items hitems hothers⟩
  | .map es, _, _, h, h' => by
    obtain ⟨fs, rfl, hlength, hes⟩ := map_same_iff.mp h
    obtain ⟨gs, rfl, hlength', hfs⟩ := map_same_iff.mp h'
    exact map_same_iff.mpr ⟨gs, rfl, hlength.trans hlength', sameEntries_trans es hes hfs⟩
  | .tagged _ v, _, _, h, h' => by
    obtain ⟨w, rfl, hv⟩ := tagged_same_iff.mp h
    obtain ⟨u, rfl, hw⟩ := tagged_same_iff.mp h'
    exact tagged_same_iff.mpr ⟨u, rfl, same_trans v hv hw⟩

theorem sameItems_trans : (xs : List Tree) → {ys zs : List Tree} → sameItems xs ys = true →
    sameItems ys zs = true → sameItems xs zs = true
  | [], [], _, _, h' => h'
  | [], _ :: _, _, h, _ => absurd h (by simp [sameItems])
  | _ :: _, [], _, h, _ => absurd h (by simp [sameItems])
  | _ :: _, _ :: _, [], _, h' => absurd h' (by simp [sameItems])
  | x :: xs, y :: ys, z :: zs, h, h' => by
    rw [sameItems, Bool.and_eq_true] at h h' ⊢
    exact ⟨same_trans x h.1 h'.1, sameItems_trans xs h.2 h'.2⟩

theorem sameEntries_trans : (es : List (Tree × Tree)) → {fs gs : List (Tree × Tree)} →
    sameEntries es fs = true → sameEntries fs gs = true → sameEntries es gs = true
  | [], _, _, _, _ => rfl
  | (k, v) :: rest, fs, gs, h, h' => by
    have hall := sameEntries_iff.mp h
    obtain ⟨f, hf, hkey, hvalue⟩ := hall (k, v) List.mem_cons_self
    obtain ⟨g, hg, hkey', hvalue'⟩ := sameEntries_iff.mp h' f hf
    have hrest : sameEntries rest fs = true :=
      sameEntries_iff.mpr fun e he ↦ hall e (List.mem_cons_of_mem _ he)
    refine sameEntries_iff.mpr (List.forall_mem_cons.mpr ⟨⟨g, hg, ?_, ?_⟩, ?_⟩)
    · exact same_trans k hkey hkey'
    · exact same_trans v hvalue hvalue'
    · exact sameEntries_iff.mp (sameEntries_trans rest hrest h')
end

theorem entriesWellFormed_iff {es : List (Tree × Tree)} : EntriesWellFormed es ↔
    ∀ e ∈ es, e.1.WellFormed ∧ e.2.WellFormed := by
  induction es with
  | nil => simp [EntriesWellFormed]
  | cons e rest ih =>
    obtain ⟨k, v⟩ := e
    rw [EntriesWellFormed, ih, List.forall_mem_cons, and_assoc]

theorem allWellFormed_iff {items : List Tree} : AllWellFormed items ↔
    ∀ v ∈ items, v.WellFormed := by
  induction items with
  | nil => simp [AllWellFormed]
  | cons v rest ih => rw [AllWellFormed, ih, List.forall_mem_cons]

/-- If no two items have a partner in common, then some of the others are partners, and there are as
many of these as there are items. -/
theorem exists_partners {α β : Type} {P : α → β → Prop} {as : List α} {bs : List β}
    (hapart : as.Pairwise fun a a' ↦ ∀ b, P a b → ¬P a' b) (h : ∀ a ∈ as, ∃ b ∈ bs, P a b) :
    ∃ cs : List β, cs.Subperm bs ∧ cs.length = as.length ∧ ∀ c ∈ cs, ∃ a ∈ as, P a c := by
  induction as generalizing bs with
  | nil => exact ⟨[], List.nil_subperm, rfl, fun _ hc ↦ absurd hc List.not_mem_nil⟩
  | cons a as ih =>
    obtain ⟨hfirst, hrest⟩ := List.pairwise_cons.mp hapart
    obtain ⟨⟨b, hb, hab⟩, hothers⟩ := List.forall_mem_cons.mp h
    obtain ⟨before, after, rfl⟩ := List.append_of_mem hb
    -- the partner of the first item is not needed for the others
    have hleft : ∀ a' ∈ as, ∃ b' ∈ before ++ after, P a' b' := by
      intro a' ha'
      obtain ⟨b', hb', hpartner⟩ := hothers a' ha'
      have hother : b' ≠ b := by
        rintro rfl
        exact hfirst a' ha' b' hab hpartner
      exact ⟨b', by simpa [hother] using hb', hpartner⟩
    obtain ⟨cs, hcs, hlength, hpartners⟩ := ih hrest hleft
    refine ⟨b :: cs, ?_, by rw [List.length_cons, List.length_cons, hlength], ?_⟩
    · exact ((List.subperm_cons b).mpr hcs).trans List.perm_middle.symm.subperm
    · refine List.forall_mem_cons.mpr ⟨⟨a, List.mem_cons_self, hab⟩, fun c hc ↦ ?_⟩
      obtain ⟨a', ha', hpartner⟩ := hpartners c hc
      exact ⟨a', List.mem_cons_of_mem a ha', hpartner⟩

/-- Different keys have different partners, so if there are as many entries on both sides, every
entry is a partner. -/
theorem exists_partner {es fs : List (Tree × Tree)} (hdistinct : Mapping.Distinct es)
    (hsymm : ∀ e ∈ es, ∀ {t : Tree}, e.1.same t = true → t.same e.1 = true)
    (hlength : es.length = fs.length)
    (h : ∀ e ∈ es, ∃ f ∈ fs, e.1.same f.1 = true ∧ e.2.same f.2 = true) :
    ∀ f ∈ fs, ∃ e ∈ es, e.1.same f.1 = true ∧ e.2.same f.2 = true := by
  have hapart : es.Pairwise fun e e' ↦ ∀ f : Tree × Tree,
      e.1.same f.1 = true ∧ e.2.same f.2 = true →
        ¬(e'.1.same f.1 = true ∧ e'.2.same f.2 = true) := by
    refine hdistinct.imp_of_mem fun {e e'} _ he' happart f hpartner hpartner' ↦ ?_
    rw [same_trans e.1 hpartner.1 (hsymm e' he' hpartner'.1)] at happart
    exact absurd happart (by simp)
  obtain ⟨partners, hsub, hcount, hpartners⟩ := exists_partners hapart h
  have hperm := hsub.perm_of_length_le (Nat.le_of_eq (hlength.symm.trans hcount.symm))
  intro f hf
  exact hpartners f (hperm.mem_iff.mpr hf)

mutual
/-- **Sameness is symmetric** where keys are distinct. -/
theorem same_symm : (a : Tree) → {b : Tree} → a.WellFormed → a.same b = true → b.same a = true
  | .null, _, _, h => eq_of_isLeaf rfl h ▸ same_refl _
  | .bool _, _, _, h => eq_of_isLeaf rfl h ▸ same_refl _
  | .int _, _, _, h => eq_of_isLeaf rfl h ▸ same_refl _
  | .str _, _, _, h => eq_of_isLeaf rfl h ▸ same_refl _
  | .float x, _, _, h => by
    obtain ⟨y, rfl, hxy⟩ := float_same_iff.mp h
    exact Binary64.same_symm hxy
  | .seq items, _, hwell, h => by
    obtain ⟨others, rfl, hitems⟩ := seq_same_iff.mp h
    rw [WellFormed] at hwell
    exact seq_same_iff.mpr ⟨items, rfl, sameItems_symm items hwell hitems⟩
  | .map es, _, hwell, h => by
    obtain ⟨fs, rfl, hlength, hes⟩ := map_same_iff.mp h
    rw [WellFormed] at hwell
    have hentries := entries_symm es hwell.2
    refine map_same_iff.mpr ⟨es, rfl, hlength.symm, sameEntries_iff.mpr fun f hf ↦ ?_⟩
    obtain ⟨e, he, hsame⟩ := exists_partner hwell.1 (fun e he _ ↦ (hentries e he).1) hlength
      (sameEntries_iff.mp hes) f hf
    exact ⟨e, he, (hentries e he).1 hsame.1, (hentries e he).2 hsame.2⟩
  | .tagged _ v, _, hwell, h => by
    obtain ⟨w, rfl, hv⟩ := tagged_same_iff.mp h
    rw [WellFormed] at hwell
    exact tagged_same_iff.mpr ⟨v, rfl, same_symm v hwell hv⟩

theorem sameItems_symm : (xs : List Tree) → {ys : List Tree} → AllWellFormed xs →
    sameItems xs ys = true → sameItems ys xs = true
  | [], [], _, _ => rfl
  | [], _ :: _, _, h => absurd h (by simp [sameItems])
  | _ :: _, [], _, h => absurd h (by simp [sameItems])
  | x :: xs, y :: ys, hwell, h => by
    rw [AllWellFormed] at hwell
    rw [sameItems, Bool.and_eq_true] at h ⊢
    exact ⟨same_symm x hwell.1 h.1, sameItems_symm xs hwell.2 h.2⟩

theorem entries_symm : (es : List (Tree × Tree)) → EntriesWellFormed es → ∀ e ∈ es,
    (∀ {t : Tree}, e.1.same t = true → t.same e.1 = true) ∧
      ∀ {t : Tree}, e.2.same t = true → t.same e.2 = true
  | [], _ => by simp
  | (k, v) :: rest, hwell => by
    rw [EntriesWellFormed] at hwell
    refine List.forall_mem_cons.mpr ⟨⟨?_, ?_⟩, entries_symm rest hwell.2.2⟩
    · intro t hkey
      exact same_symm k hwell.1 hkey
    · intro t hvalue
      exact same_symm v hwell.2.1 hvalue
end

end Tree

namespace Mapping

/-- No key of the mapping collides with another, nor does one inside its values. -/
def WellFormed (m : Mapping) : Prop := (Tree.map m).WellFormed

theorem wellFormed_iff {m : Mapping} :
    m.WellFormed ↔ m.Distinct ∧ ∀ e ∈ m, e.1.WellFormed ∧ e.2.WellFormed := by
  rw [WellFormed, Tree.WellFormed, Tree.entriesWellFormed_iff]

theorem wellFormed_nil : WellFormed [] :=
  wellFormed_iff.mpr ⟨List.Pairwise.nil, fun _ h ↦ absurd h List.not_mem_nil⟩

theorem same_symm {m n : Mapping} (hwell : m.WellFormed) (h : m.same n = true) :
    n.same m = true := Tree.same_symm (.map m) hwell h

theorem same_trans {m n o : Mapping} (h : m.same n = true) (h' : n.same o = true) :
    m.same o = true := Tree.same_trans (.map m) h h'

end Mapping

end Yaml

/-! ## Endpoints -/

namespace Endpoint

open Yaml (Mapping Tree)

/-- All mappings in an endpoint and all values carried along in it have a property. -/
structure All (P : Tree → Prop) (e : Endpoint) : Prop where
  dns : P (.map e.dns)
  client : P (.map e.client)
  ui : P (.map e.ui)
  extra : ∀ x ∈ e.extra, P x.2

/-- No mapping in the endpoint has two keys that collide. -/
abbrev WellFormed (e : Endpoint) : Prop := e.All Tree.WellFormed

theorem same_iff {a b : Endpoint} : a.same b = true ↔
    (a.name = b.name ∧ a.group = b.group ∧ a.url = b.url ∧ a.interval = b.interval ∧
      a.conditions = b.conditions ∧ a.guarded = b.guarded) ∧
    Mapping.same a.dns b.dns = true ∧ Mapping.same a.client b.client = true ∧
    Mapping.same a.ui b.ui = true ∧ sameExtra a.extra b.extra = true := by
  simp only [same, Bool.and_eq_true, beq_iff_eq]
  constructor
  · rintro ⟨⟨⟨⟨⟨⟨⟨⟨⟨hname, hgroup⟩, hurl⟩, hinterval⟩, hconditions⟩, hdns⟩, hclient⟩, hui⟩,
      hguarded⟩, hextra⟩
    exact ⟨⟨hname, hgroup, hurl, hinterval, hconditions, hguarded⟩, hdns, hclient, hui, hextra⟩
  · rintro ⟨⟨hname, hgroup, hurl, hinterval, hconditions, hguarded⟩, hdns, hclient, hui, hextra⟩
    exact ⟨⟨⟨⟨⟨⟨⟨⟨⟨hname, hgroup⟩, hurl⟩, hinterval⟩, hconditions⟩, hdns⟩, hclient⟩, hui⟩,
      hguarded⟩, hextra⟩

theorem sameExtra_cons_iff {s t : String} {v w : Tree} {xs ys : List (String × Tree)} :
    sameExtra ((s, v) :: xs) ((t, w) :: ys) = true ↔
      s = t ∧ v.same w = true ∧ sameExtra xs ys = true := by
  rw [sameExtra, Bool.and_eq_true, Bool.and_eq_true, beq_iff_eq, and_assoc]

theorem sameExtra_symm {xs ys : List (String × Tree)} (hwell : ∀ x ∈ xs, x.2.WellFormed)
    (h : sameExtra xs ys = true) : sameExtra ys xs = true := by
  induction xs generalizing ys with
  | nil =>
    cases ys with
    | nil => rfl
    | cons y ys => exact absurd h (by simp [sameExtra])
  | cons x xs ih =>
    cases ys with
    | nil => exact absurd h (by simp [sameExtra])
    | cons y ys =>
      obtain ⟨hx, hxs⟩ := List.forall_mem_cons.mp hwell
      obtain ⟨hname, hvalue, hrest⟩ := sameExtra_cons_iff.mp h
      exact sameExtra_cons_iff.mpr ⟨hname.symm, Tree.same_symm x.2 hx hvalue, ih hxs hrest⟩

theorem sameExtra_trans {xs ys zs : List (String × Tree)} (h : sameExtra xs ys = true)
    (h' : sameExtra ys zs = true) : sameExtra xs zs = true := by
  match xs, ys, zs with
  | [], [], _ => exact h'
  | [], _ :: _, _ => exact absurd h (by simp [sameExtra])
  | _ :: _, [], _ => exact absurd h (by simp [sameExtra])
  | _ :: _, _ :: _, [] => exact absurd h' (by simp [sameExtra])
  | x :: xs, y :: ys, z :: zs =>
    obtain ⟨hname, hvalue, hrest⟩ := sameExtra_cons_iff.mp h
    obtain ⟨hname', hvalue', hrest'⟩ := sameExtra_cons_iff.mp h'
    exact sameExtra_cons_iff.mpr ⟨hname.trans hname', Tree.same_trans x.2 hvalue hvalue',
      sameExtra_trans hrest hrest'⟩

theorem same_trans {a b c : Endpoint} (h : a.same b = true) (h' : b.same c = true) :
    a.same c = true := by
  rw [same_iff] at h h' ⊢
  obtain ⟨⟨hname, hgroup, hurl, hinterval, hconditions, hguarded⟩, hdns, hclient, hui, hextra⟩ := h
  obtain ⟨⟨hname', hgroup', hurl', hinterval', hconditions', hguarded'⟩, hdns', hclient', hui',
    hextra'⟩ := h'
  refine ⟨⟨hname.trans hname', hgroup.trans hgroup', hurl.trans hurl', hinterval.trans hinterval',
    hconditions.trans hconditions', hguarded.trans hguarded'⟩, ?_, ?_, ?_, ?_⟩
  · exact Mapping.same_trans hdns hdns'
  · exact Mapping.same_trans hclient hclient'
  · exact Mapping.same_trans hui hui'
  · exact sameExtra_trans hextra hextra'

theorem same_symm {a b : Endpoint} (hwell : a.WellFormed) (h : a.same b = true) :
    b.same a = true := by
  rw [same_iff] at h ⊢
  obtain ⟨⟨hname, hgroup, hurl, hinterval, hconditions, hguarded⟩, hdns, hclient, hui, hextra⟩ := h
  refine ⟨⟨hname.symm, hgroup.symm, hurl.symm, hinterval.symm, hconditions.symm, hguarded.symm⟩,
    ?_, ?_, ?_, ?_⟩
  · exact Mapping.same_symm hwell.dns hdns
  · exact Mapping.same_symm hwell.client hclient
  · exact Mapping.same_symm hwell.ui hui
  · exact sameExtra_symm hwell.extra hextra

end Endpoint

end EndpointSync
