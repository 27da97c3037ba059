import EndpointSync.Proofs.Mappings
import EndpointSync.Proofs.Equivalence
import EndpointSync.Roster

/-!
# What can be written

A roster is written as one document, so it can be written only if all of its endpoints can. What
stands in the way of an endpoint is always a mapping with one entry whose key looks tagged. The
settings that every endpoint has make it a mapping with more entries, so such a mapping comes from a
template.

Whether a value can be written does not depend on how it is spelled: of two values that are the
same, either both can be written or neither can.
-/

namespace EndpointSync

namespace Yaml

namespace Tree

theorem allWritable_iff {items : List Tree} :
    allWritable items = true ↔ ∀ v ∈ items, v.isWritable false = true := by
  induction items with
  | nil => simp [allWritable]
  | cons v rest ih => rw [allWritable, Bool.and_eq_true, ih, List.forall_mem_cons]

theorem entriesWritable_iff {entries : Mapping} : entriesWritable entries = true ↔
    ∀ e ∈ entries, e.1.isWritable false = true ∧ e.2.isWritable false = true := by
  induction entries with
  | nil => simp [entriesWritable]
  | cons e rest ih =>
    obtain ⟨k, v⟩ := e
    rw [entriesWritable, Bool.and_eq_true, Bool.and_eq_true, ih, List.forall_mem_cons]

theorem isWritable_map_iff {under : Bool} {entries : Mapping} :
    (Tree.map entries).isWritable under = true ↔
      (under = true ∨ ambiguous entries = false) ∧
        ∀ e ∈ entries, e.1.isWritable false = true ∧ e.2.isWritable false = true := by
  rw [isWritable, Bool.and_eq_true, Bool.or_eq_true, Bool.not_eq_true', entriesWritable_iff]

/-! ## The same values -/

theorem looksTagged_map (entries : Mapping) :
    (Tree.map entries).looksTagged = (entries.length == 1) := by
  match entries with
  | [] => rfl
  | [_] => rfl
  | _ :: _ :: rest => simp [looksTagged]

private theorem looksTagged_of_same {a b : Tree} (h : a.same b = true) :
    a.looksTagged = b.looksTagged := by
  cases a with
  | map es =>
    obtain ⟨fs, rfl, hlength, -⟩ := map_same_iff.mp h
    rw [looksTagged_map, looksTagged_map, hlength]
  | seq items =>
    obtain ⟨others, rfl, -⟩ := seq_same_iff.mp h
    rfl
  | tagged tag v =>
    obtain ⟨w, rfl, -⟩ := tagged_same_iff.mp h
    rfl
  | float x =>
    obtain ⟨y, rfl, -⟩ := float_same_iff.mp h
    rfl
  | _ => rw [eq_of_isLeaf rfl h]

private theorem ambiguous_of_same {es fs : Mapping} (hlength : es.length = fs.length)
    (h : sameEntries es fs = true) : ambiguous es = ambiguous fs := by
  match es, fs with
  | [], [] => rfl
  | [e], [f] =>
    obtain ⟨found, hfound, hkey, -⟩ := sameEntries_iff.mp h e List.mem_cons_self
    rw [List.mem_singleton.mp hfound] at hkey
    exact looksTagged_of_same hkey
  | _ :: _ :: _, _ :: _ :: _ => rfl

mutual
theorem isWritable_of_same : (a : Tree) → {b : Tree} → {under : Bool} → a.same b = true →
    b.isWritable under = true → a.isWritable under = true
  | .null, _, _, h, hb => eq_of_isLeaf rfl h ▸ hb
  | .bool _, _, _, h, hb => eq_of_isLeaf rfl h ▸ hb
  | .int _, _, _, h, hb => eq_of_isLeaf rfl h ▸ hb
  | .str _, _, _, h, hb => eq_of_isLeaf rfl h ▸ hb
  | .float _, _, _, _, _ => by rw [isWritable] <;> simp
  | .seq items, _, _, h, hb => by
    obtain ⟨others, rfl, hitems⟩ := seq_same_iff.mp h
    rw [isWritable] at hb ⊢
    exact allWritable_of_same items hitems hb
  | .map es, _, under, h, hb => by
    obtain ⟨fs, rfl, hlength, hes⟩ := map_same_iff.mp h
    rw [isWritable, Bool.and_eq_true] at hb ⊢
    rw [ambiguous_of_same hlength hes]
    exact ⟨hb.1, entriesWritable_of_same es hes hb.2⟩
  | .tagged _ v, _, _, h, hb => by
    obtain ⟨w, rfl, hv⟩ := tagged_same_iff.mp h
    rw [isWritable] at hb ⊢
    exact isWritable_of_same v hv hb

theorem allWritable_of_same : (xs : List Tree) → {ys : List Tree} → sameItems xs ys = true →
    allWritable ys = true → allWritable xs = true
  | [], _, _, _ => rfl
  | _ :: _, [], h, _ => absurd h (by simp [sameItems])
  | x :: xs, y :: ys, h, hys => by
    rw [sameItems, Bool.and_eq_true] at h
    rw [allWritable, Bool.and_eq_true] at hys ⊢
    exact ⟨isWritable_of_same x h.1 hys.1, allWritable_of_same xs h.2 hys.2⟩

theorem entriesWritable_of_same : (es : List (Tree × Tree)) → {fs : List (Tree × Tree)} →
    sameEntries es fs = true → entriesWritable fs = true → entriesWritable es = true
  | [], _, _, _ => rfl
  | (k, v) :: rest, fs, h, hfs => by
    obtain ⟨⟨f, hf, hkey, hvalue⟩, hrest⟩ := List.forall_mem_cons.mp (sameEntries_iff.mp h)
    obtain ⟨hkeyWritable, hvalueWritable⟩ := entriesWritable_iff.mp hfs f hf
    rw [entriesWritable, Bool.and_eq_true, Bool.and_eq_true]
    refine ⟨⟨?_, ?_⟩, entriesWritable_of_same rest (sameEntries_iff.mpr hrest) hfs⟩
    · exact isWritable_of_same k hkey hkeyWritable
    · exact isWritable_of_same v hvalue hvalueWritable
end

end Tree

/-! ## Overlaying

A mapping keeps its first key when values are set in it, and it gets no shorter. -/

namespace Mapping

private theorem ambiguous_cons (key value : Tree) (rest : Mapping) :
    Tree.ambiguous ((key, value) :: rest) = (rest.isEmpty && key.looksTagged) := by
  cases rest with
  | nil => rfl
  | cons e rest => rfl

private theorem length_le_insert (m : Mapping) (key value : Tree) :
    m.length ≤ (m.insert key value).length := by
  induction m with
  | nil => exact Nat.zero_le _
  | cons e rest ih =>
    rw [insert]
    split
    · exact Nat.le_refl _
    · exact Nat.succ_le_succ ih

private theorem insert_cons (k v : Tree) (rest : Mapping) (key value : Tree) :
    ∃ v' rest', Mapping.insert ((k, v) :: rest) key value = (k, v') :: rest' ∧
      rest.length ≤ rest'.length := by
  rw [insert]
  split
  · exact ⟨value, rest, rfl, Nat.le_refl _⟩
  · exact ⟨v, rest.insert key value, rfl, length_le_insert rest key value⟩

theorem overlay_cons (k v : Tree) (rest upper : Mapping) :
    ∃ v' rest', Mapping.overlay ((k, v) :: rest) upper = (k, v') :: rest' ∧
      rest.length ≤ rest'.length := by
  induction upper generalizing v rest with
  | nil => exact ⟨v, rest, by rw [Mapping.overlay], Nat.le_refl _⟩
  | cons e upper ih =>
    obtain ⟨key, value⟩ := e
    rw [Mapping.overlay]
    obtain ⟨v', rest', hinsert, hlength⟩ := insert_cons k v rest key
      (Tree.over (Mapping.get? ((k, v) :: rest) key) value)
    rw [hinsert]
    obtain ⟨v'', rest'', hoverlay, hlength'⟩ := ih v' rest'
    exact ⟨v'', rest'', hoverlay, Nat.le_trans hlength hlength'⟩

/-- What keeps its first key and gets no shorter does not become ambiguous. -/
theorem ambiguous_of_longer {k v v' : Tree} {rest rest' : Mapping}
    (h : Tree.ambiguous ((k, v) :: rest) = false) (hlength : rest.length ≤ rest'.length) :
    Tree.ambiguous ((k, v') :: rest') = false := by
  rw [ambiguous_cons] at h ⊢
  cases rest with
  | nil =>
    rw [List.isEmpty_nil, Bool.true_and] at h
    rw [h, Bool.and_false]
  | cons e rest =>
    cases rest' with
    | nil => exact absurd hlength (by simp)
    | cons e' rest' => rfl

theorem ambiguous_overlay {base upper : Mapping} (hdistinct : Distinct upper)
    (hbase : Tree.ambiguous base = false) (hupper : Tree.ambiguous upper = false) :
    Tree.ambiguous (Mapping.overlay base upper) = false := by
  cases base with
  | cons e rest =>
    obtain ⟨k, v⟩ := e
    obtain ⟨v', rest', hoverlay, hlength⟩ := overlay_cons k v rest upper
    rw [hoverlay]
    exact ambiguous_of_longer hbase hlength
  | nil =>
    cases upper with
    | nil => rw [Mapping.overlay]; rfl
    | cons e rest =>
      obtain ⟨k, v⟩ := e
      rw [Mapping.overlay, insert, get?_nil]
      cases rest with
      | nil =>
        rw [Mapping.overlay]
        exact hupper
      | cons f rest =>
        -- the second key is another one, so it gets an entry of its own
        have hother : k.same f.1 = false :=
          (List.pairwise_cons.mp hdistinct).1 f List.mem_cons_self
        rw [Mapping.overlay, insert, if_neg (by simp [hother]), insert]
        obtain ⟨v', rest', hoverlay, hlength⟩ := overlay_cons k (Tree.over none v)
          [(f.1, Tree.over (Mapping.get? [(k, Tree.over none v)] f.1) f.2)] rest
        rw [hoverlay]
        have hlong : Tree.ambiguous [(k, v), f] = false := rfl
        exact ambiguous_of_longer hlong hlength

end Mapping

end Yaml

open Yaml (Mapping Tree)

/-! ## Endpoints and rosters -/

namespace Endpoint

/-- The endpoint can be written: the mappings and the other settings in it can. -/
def isWritable (e : Endpoint) : Bool :=
  (Yaml.Tree.map e.dns).isWritable false && (Yaml.Tree.map e.client).isWritable false &&
    (Yaml.Tree.map e.ui).isWritable false && e.extra.all fun x ↦ x.2.isWritable false

theorem isWritable_iff {e : Endpoint} :
    e.isWritable = true ↔ e.All fun v ↦ v.isWritable false = true := by
  rw [isWritable, Bool.and_eq_true, Bool.and_eq_true, Bool.and_eq_true, List.all_eq_true]
  constructor
  · rintro ⟨⟨⟨hdns, hclient⟩, hui⟩, hextra⟩
    exact ⟨hdns, hclient, hui, hextra⟩
  · intro h
    exact ⟨⟨⟨h.dns, h.client⟩, h.ui⟩, h.extra⟩

private theorem entriesWritable_append (m n : Mapping) :
    Tree.entriesWritable (m ++ n) = (Tree.entriesWritable m && Tree.entriesWritable n) := by
  induction m with
  | nil => rfl
  | cons e rest ih =>
    obtain ⟨k, v⟩ := e
    rw [List.cons_append, Tree.entriesWritable, Tree.entriesWritable, ih]
    simp only [Bool.and_assoc]

theorem entriesWritable_entryUnless {empty : Bool} {name : String} {value : Tree}
    (h : empty = true → value.isWritable false = true) :
    Tree.entriesWritable (entryUnless empty name value) = value.isWritable false := by
  rw [entryUnless]
  cases empty with
  | true => rw [if_pos rfl, h rfl]; rfl
  | false =>
    rw [if_neg Bool.false_ne_true, Tree.entriesWritable, Tree.entriesWritable, Bool.and_true]
    exact Bool.true_and _

theorem isWritable_strings (texts : List String) :
    (Yaml.Tree.seq (texts.map .str)).isWritable false = true := by
  rw [Tree.isWritable, Tree.allWritable_iff]
  intro v hv
  obtain ⟨s, -, rfl⟩ := List.mem_map.mp hv
  rfl

theorem isWritable_of_isEmpty {m : Mapping} (h : m.isEmpty = true) :
    (Yaml.Tree.map m).isWritable false = true := by
  rw [List.isEmpty_iff.mp h]
  rfl

private theorem entriesWritable_extra (extra : List (String × Tree)) :
    Tree.entriesWritable (extra.map fun (name, value) ↦ (.str name, value))
      = extra.all fun x ↦ x.2.isWritable false := by
  induction extra with
  | nil => rfl
  | cons x rest ih =>
    rw [List.map_cons, Tree.entriesWritable, ih, List.all_cons]
    rfl

/-- An endpoint is a mapping with a name, a URL and more, so it is never ambiguous itself. -/
theorem isWritable_toMapping (e : Endpoint) :
    (Yaml.Tree.map e.toMapping).isWritable false = e.isWritable := by
  have hentries : Tree.entriesWritable e.toMapping = e.isWritable := by
    simp only [toMapping, entriesWritable_append, isWritable, entriesWritable_extra]
    rw [entriesWritable_entryUnless (fun _ ↦ rfl),
      entriesWritable_entryUnless (fun _ ↦ isWritable_strings _), isWritable_strings,
      entriesWritable_entryUnless isWritable_of_isEmpty,
      entriesWritable_entryUnless isWritable_of_isEmpty,
      entriesWritable_entryUnless isWritable_of_isEmpty]
    rfl
  have hclear : Tree.ambiguous e.toMapping = false := by
    rw [toMapping, entryUnless]
    split <;> rfl
  rw [Tree.isWritable, hentries, hclear]
  rfl

private theorem forall_isWritable_of_sameExtra {xs ys : List (String × Tree)}
    (h : sameExtra xs ys = true) (hys : ∀ y ∈ ys, y.2.isWritable false = true) :
    ∀ x ∈ xs, x.2.isWritable false = true := by
  induction xs generalizing ys with
  | nil => simp
  | cons x xs ih =>
    match ys with
    | [] => exact absurd h (by simp [sameExtra])
    | y :: ys =>
      obtain ⟨-, hvalue, hrest⟩ := sameExtra_cons_iff.mp h
      obtain ⟨hy, hys⟩ := List.forall_mem_cons.mp hys
      exact List.forall_mem_cons.mpr ⟨Tree.isWritable_of_same x.2 hvalue hy, ih hrest hys⟩

theorem isWritable_of_same {a b : Endpoint} (h : a.same b = true) (hb : b.isWritable = true) :
    a.isWritable = true := by
  obtain ⟨-, hdns, hclient, hui, hextra⟩ := same_iff.mp h
  have hall := isWritable_iff.mp hb
  refine isWritable_iff.mpr ⟨?_, ?_, ?_, ?_⟩
  · exact Tree.isWritable_of_same _ hdns hall.dns
  · exact Tree.isWritable_of_same _ hclient hall.client
  · exact Tree.isWritable_of_same _ hui hall.ui
  · exact forall_isWritable_of_sameExtra hextra hall.extra

end Endpoint

namespace Roster

/-- **A roster can be written** if and only if every endpoint in it can. -/
theorem render?_isSome_iff {r : Roster} :
    r.render?.isSome = true ↔ ∀ x ∈ r, x.2.isWritable = true := by
  have hdocument : r.document.isWritable false
      = Tree.allWritable (r.ordered.map fun e ↦ .map e.toMapping) := by
    rw [document, Tree.isWritable, Tree.entriesWritable, Tree.entriesWritable, Bool.and_true]
    exact Bool.true_and _
  have hrender : r.render?.isSome = r.document.isWritable false := by
    rw [render?, Tree.render?]
    split
    next h => rw [h, Option.isSome_some]
    next h => rw [Bool.eq_false_iff.mpr h, Option.isSome_none]
  rw [hrender, hdocument, Tree.allWritable_iff]
  simp only [ordered, List.forall_mem_map, List.mem_mergeSort, Endpoint.isWritable_toMapping]

end Roster

end EndpointSync
