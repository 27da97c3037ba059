import EndpointSync.Proofs.Sameness
import EndpointSync.Template

/-!
# What an overlaid mapping says under a name

Settings have names, so a template is looked at under keys that are strings. Under these a mapping
behaves as one expects: a string is the same as nothing but itself, while numbers of different
spelling can be one key, and so can mappings whose entries are in another order. Keys of other kinds
never get in the way of a string either.

## Distinct keys

An overlay sets the entries of the upper mapping one after the other, each over what is there at
that time. That the result under a name depends on the two values under that name alone is because
the upper mapping holds no key twice. A text that holds a key twice does not read, so every template
has distinct keys, and overlaying keeps them distinct.
-/

namespace EndpointSync.Yaml

/-! ## Strings as keys -/

namespace Tree

theorem same_str_iff {t : Tree} {s : String} : t.same (.str s) = true ↔ t = .str s := by
  cases t <;> simp [same]

theorem str_same_iff {t : Tree} {s : String} : (Tree.str s).same t = true ↔ t = .str s := by
  cases t with
  | str s' => rw [same, beq_iff_eq, Tree.str.injEq, eq_comm]
  | _ => simp [same]

def isTagged : Tree → Bool
  | .tagged .. => true
  | _ => false

private theorem over_none : Tree.over none = id := by
  funext value
  cases value <;> rfl

end Tree

namespace Mapping

@[simp] theorem get?_nil (key : Tree) : get? [] key = none := rfl

theorem get?_cons (e : Tree × Tree) (rest : Mapping) (key : Tree) :
    get? (e :: rest) key = if e.1.same key then some e.2 else get? rest key := by
  rw [get?, List.find?_cons]
  cases e.1.same key <;> rfl

theorem contains_eq_isSome (m : Mapping) (key : Tree) : m.contains key = (m.get? key).isSome := by
  induction m with
  | nil => rfl
  | cons e rest ih =>
    rw [get?_cons, contains, List.any_cons, ← contains, ih]
    cases e.1.same key <;> rfl

/-- Setting a value changes what stands under one name, or under none. -/
theorem get?_insert_str (m : Mapping) (key value : Tree) (s : String) :
    (m.insert key value).get? (.str s)
      = if key.same (.str s) then some value else m.get? (.str s) := by
  induction m with
  | nil => rw [insert, get?_cons]
  | cons e rest ih =>
    rw [insert]
    by_cases hsame : e.1.same key = true
    · -- the entry keeps its key, and this is the name if and only if the new key is
      have hkey : e.1.same (.str s) = key.same (.str s) := by
        rw [Bool.eq_iff_iff, Tree.same_str_iff, Tree.same_str_iff]
        constructor
        · intro he
          rwa [he, Tree.str_same_iff] at hsame
        · intro hkey
          rwa [hkey, Tree.same_str_iff] at hsame
      rw [if_pos hsame, get?_cons, get?_cons, hkey]
      split <;> rfl
    · rw [if_neg hsame, get?_cons, get?_cons, ih]
      by_cases he : e.1.same (.str s) = true
      · have hkey : ¬key.same (.str s) = true := by
          intro hkey
          rw [Tree.same_str_iff.mp he, Tree.same_str_iff.mp hkey, Tree.same_refl] at hsame
          exact hsame rfl
        rw [if_pos he, if_neg hkey, if_pos he]
      · rw [if_neg he, if_neg he]

/-! ## Distinct keys -/

theorem Distinct.get?_tail {s : String} {value : Tree} {rest : Mapping}
    (h : Distinct ((.str s, value) :: rest)) : rest.get? (.str s) = none := by
  have hrest := (List.pairwise_cons.mp h).1
  rw [get?, Option.map_eq_none_iff, List.find?_eq_none]
  intro e he hsame
  have hdifferent := hrest e he
  rw [Tree.same_str_iff.mp hsame, Tree.same_refl] at hdifferent
  exact absurd hdifferent (by simp)

theorem key_of_mem_insert {m : Mapping} {key value : Tree} {e : Tree × Tree}
    (h : e ∈ m.insert key value) : (∃ f ∈ m, f.1 = e.1) ∨ e.1 = key := by
  induction m with
  | nil =>
    rw [insert, List.mem_singleton] at h
    exact .inr (congrArg Prod.fst h)
  | cons f rest ih =>
    rw [insert] at h
    split at h
    · rcases List.mem_cons.mp h with rfl | hrest
      · exact .inl ⟨f, List.mem_cons_self, rfl⟩
      · exact .inl ⟨e, List.mem_cons_of_mem f hrest, rfl⟩
    · rcases List.mem_cons.mp h with rfl | hrest
      · exact .inl ⟨e, List.mem_cons_self, rfl⟩
      · rcases ih hrest with ⟨g, hg, hkey⟩ | hkey
        · exact .inl ⟨g, List.mem_cons_of_mem f hg, hkey⟩
        · exact .inr hkey

theorem Distinct.insert {m : Mapping} (h : m.Distinct) (key value : Tree) :
    (m.insert key value).Distinct := by
  induction m with
  | nil => exact List.pairwise_singleton _ _
  | cons e rest ih =>
    obtain ⟨hfirst, hrest⟩ := List.pairwise_cons.mp h
    rw [Mapping.insert]
    split
    · exact List.pairwise_cons.mpr ⟨hfirst, hrest⟩
    next hsame =>
      -- a new key gets past this entry only if the two do not collide
      refine List.pairwise_cons.mpr ⟨fun f hf ↦ ?_, ih hrest⟩
      rcases key_of_mem_insert hf with ⟨g, hg, hkey⟩ | hkey
      · rw [← hkey]
        exact hfirst g hg
      · rw [hkey]
        exact Bool.eq_false_iff.mpr hsame

theorem Distinct.overlay {base : Mapping} (h : base.Distinct) (upper : Mapping) :
    Distinct (Mapping.overlay base upper) := by
  induction upper generalizing base with
  | nil =>
    rw [Mapping.overlay]
    exact h
  | cons e rest ih =>
    rw [Mapping.overlay]
    exact ih (h.insert _ _)

/-! ## Overlaying -/

/-- What one layer says, over what the layers below it say. -/
def layered (lower upper : Option Tree) : Option Tree :=
  match upper with
  | some value => some (Tree.over lower value)
  | none => lower

@[simp] theorem layered_none (upper : Option Tree) : layered none upper = upper := by
  cases upper with
  | none => rfl
  | some value => rw [layered, Tree.over_none, id]

/-- **What an overlay says under a name** is what the upper mapping says there, over what the lower
one does. -/
theorem get?_overlay_str (base : Mapping) {upper : Mapping} (h : upper.Distinct) (s : String) :
    get? (Mapping.overlay base upper) (.str s)
      = layered (base.get? (.str s)) (upper.get? (.str s)) := by
  induction upper generalizing base with
  | nil =>
    rw [Mapping.overlay]
    rfl
  | cons e rest ih =>
    obtain ⟨key, value⟩ := e
    rw [Mapping.overlay, ih _ (List.pairwise_cons.mp h).2, get?_insert_str, get?_cons]
    by_cases hkey : key.same (.str s) = true
    · -- the upper mapping does not have this key once more, so nothing is set over it later
      rw [if_pos hkey, if_pos hkey]
      rw [Tree.same_str_iff.mp hkey] at h ⊢
      rw [h.get?_tail]
      rfl
    · rw [if_neg hkey, if_neg hkey]

/-! ## Keys with tags -/

/-- No key has a tag. What is under the tag would count as the name of a setting. -/
def Untagged (m : Mapping) : Prop := ∀ e ∈ m, e.1.isTagged = false

instance (m : Mapping) : Decidable m.Untagged :=
  inferInstanceAs (Decidable (∀ e ∈ m, e.1.isTagged = false))

theorem Untagged.overlay {base upper : Mapping} (hbase : base.Untagged) (hupper : upper.Untagged) :
    Untagged (Mapping.overlay base upper) := by
  induction upper generalizing base with
  | nil =>
    rw [Mapping.overlay]
    exact hbase
  | cons e rest ih =>
    rw [Mapping.overlay]
    refine ih ?_ fun f hf ↦ hupper f (List.mem_cons_of_mem e hf)
    intro f hf
    rcases key_of_mem_insert hf with ⟨g, hg, hkey⟩ | hkey
    · rw [← hkey]
      exact hbase g hg
    · rw [hkey]
      exact hupper e List.mem_cons_self

theorem Untagged.eq_of_str? {m : Mapping} (h : m.Untagged) {e : Tree × Tree} (he : e ∈ m)
    {s : String} (hs : e.1.str? = some s) : e.1 = .str s := by
  have huntagged := h e he
  cases hkey : e.1 with
  | tagged tag v =>
    rw [hkey] at huntagged
    exact absurd huntagged (by simp [Tree.isTagged])
  | str s' =>
    rw [hkey] at hs
    rw [Option.some.inj hs]
  | _ =>
    rw [hkey] at hs
    exact absurd hs (by simp [Tree.str?])

end Mapping

/-! ## Mappings that were read -/

/-- A computation that comes to a result has come to one at each of its steps. -/
theorem of_bind_eq_ok {ε α β : Type} {x : Except ε α} {f : α → Except ε β} {b : β}
    (h : (x >>= f) = .ok b) : ∃ a, x = .ok a ∧ f a = .ok b := by
  cases x with
  | error e => exact absurd h (by simp [bind, Except.bind])
  | ok a => exact ⟨a, rfl, h⟩

theorem of_toOption_any {ε α : Type} {x : Except ε α} {p : α → Bool}
    (h : x.toOption.any p = true) : ∃ a, x = .ok a ∧ p a = true := by
  cases x with
  | error e => exact absurd h Bool.false_ne_true
  | ok a => exact ⟨a, rfl, h⟩

namespace Following

variable {α β : Type}

theorem of_bind {x : Following α} {f : α → Following β} {left : Nat} {result : β × Nat}
    (h : (x >>= f).run left = .ok result) :
    ∃ a left', x.run left = .ok (a, left') ∧ (f a).run left' = .ok result := by
  rw [StateT.run_bind] at h
  obtain ⟨⟨a, left'⟩, ha, hrest⟩ := of_bind_eq_ok h
  exact ⟨a, left', ha, hrest⟩

theorem of_pure {a : α} {left : Nat} {result : α × Nat}
    (h : (pure a : Following α).run left = .ok result) : result = (a, left) := by
  rw [StateT.run_pure] at h
  exact (Except.ok.inj h).symm

theorem not_of_throw {fault : Fault} {left : Nat} {result : α × Nat} :
    ¬(throw fault : Following α).run left = .ok result := by
  intro h
  have herror : (.error fault : Except Fault (α × Nat)) = .ok result := h
  exact absurd herror (by simp)

/-- What each step of a computation keeps, all of them together keep. -/
theorem foldlM_keeps {P : β → Prop} {f : β → α → Following β}
    (hstep : ∀ b a left b' left', P b → (f b a).run left = .ok (b', left') → P b') {l : List α}
    {b b' : β} {left left' : Nat} (hb : P b) (h : (l.foldlM f b).run left = .ok (b', left')) :
    P b' := by
  induction l generalizing b left with
  | nil =>
    have hend := of_pure (List.foldlM_nil (f := f) ▸ h)
    rw [Prod.mk.injEq] at hend
    rw [hend.1]
    exact hb
  | cons a rest ih =>
    rw [List.foldlM_cons] at h
    obtain ⟨next, left'', hnext, hrest⟩ := of_bind h
    exact ih (hstep _ _ _ _ _ hb hnext) hrest

end Following

namespace Node

theorem distinct_addEntry {m m' : Mapping} {key : Tree} {value : Following Tree} {left left' : Nat}
    (hm : Mapping.Distinct m.reverse) (h : (addEntry m key value).run left = .ok (m', left')) :
    Mapping.Distinct m'.reverse := by
  rw [addEntry] at h
  split at h
  · obtain ⟨_, _, hthrow, -⟩ := Following.of_bind h
    exact absurd hthrow Following.not_of_throw
  next hnew =>
    obtain ⟨v, left'', -, hpure⟩ := Following.of_bind h
    have hm' : m' = (key, v) :: m := congrArg Prod.fst (Following.of_pure hpure)
    rw [hm', List.reverse_cons]
    refine List.pairwise_append.mpr ⟨hm, List.pairwise_singleton _ _, fun e he f hf ↦ ?_⟩
    rw [List.mem_singleton.mp hf]
    rw [Mapping.contains, List.any_eq_true] at hnew
    refine Bool.eq_false_iff.mpr fun hsame ↦ hnew ⟨e, List.mem_reverse.mp he, hsame⟩

private theorem resolve_map (targets : Targets) (depth : Nat) (p : Properties)
    (entries : List (LinkedNode × LinkedNode)) :
    resolve targets (depth + 1) (.map { p with tag := none } entries) = (do
      let m ← entries.foldlM (fun m (e : LinkedNode × LinkedNode) ↦ do
        addEntry m (← resolve targets depth e.1) (resolve targets depth e.2)) []
      return .map m.reverse) := by
  -- the recursion is under a match on the node, for which there are no equations
  delta resolve
  rfl

/-- The root of a document stands for a mapping without entries, or for one that was read as any
other. -/
theorem of_rootMapping? {targets : Targets} {root : LinkedNode} {left left' : Nat} {m : Mapping}
    (h : (rootMapping? targets root).run left = .ok (some m, left')) :
    m = [] ∨ ∃ (p : Properties) (entries : List (LinkedNode × LinkedNode)) (left'' : Nat),
      (resolve targets maxNesting (.map { p with tag := none } entries)).run left
        = .ok (.map m, left'') := by
  rw [rootMapping?.eq_def] at h
  split at h
  · -- a scalar stands for no mapping, or for one without entries
    left
    split at h
    · split at h
      · exact absurd (Following.of_pure h) (by simp)
      · exact absurd h Following.not_of_throw
    · split at h
      · split at h
        · exact absurd (Following.of_pure h) (by simp)
        · exact absurd h Following.not_of_throw
      · split at h
        · have hpure := Following.of_pure h
          rw [Prod.mk.injEq, Option.some.injEq] at hpure
          exact hpure.1
        · exact absurd h Following.not_of_throw
  next p entries =>
    right
    obtain ⟨t, left'', hread, hmap⟩ := Following.of_bind h
    split at hmap
    next found =>
      have hm := Following.of_pure hmap
      rw [Prod.mk.injEq, Option.some.injEq] at hm
      rw [hm.1]
      exact ⟨p, entries, left'', hread⟩
    · exact absurd hmap Following.not_of_throw
  · exact absurd h Following.not_of_throw

private theorem distinct_rootMapping? {targets : Targets} {root : LinkedNode} {left left' : Nat}
    {m : Mapping} (h : (rootMapping? targets root).run left = .ok (some m, left')) :
    m.Distinct := by
  rcases of_rootMapping? h with rfl | ⟨p, entries, left'', hread⟩
  · exact List.Pairwise.nil
  · have hdepth : maxNesting = 127 + 1 := rfl
    rw [hdepth, resolve_map] at hread
    obtain ⟨found, _, hfold, hpure⟩ := Following.of_bind hread
    have hm : m = found.reverse := Tree.map.inj (congrArg Prod.fst (Following.of_pure hpure))
    have hempty : Mapping.Distinct (List.reverse []) := List.Pairwise.nil
    rw [hm]
    refine Following.foldlM_keeps (P := fun m ↦ Mapping.Distinct (List.reverse m)) ?_ hempty hfold
    intro b e left b' left' hb hstep
    obtain ⟨key, _, -, hadd⟩ := Following.of_bind hstep
    exact distinct_addEntry hb hadd

end Node

theorem Mapping.rootMapping_of_parse {text : String} {m : Mapping}
    (h : Mapping.parse text = .ok (some m)) :
    ∃ targets root left left', (Node.rootMapping? targets root).run left = .ok (some m, left') := by
  rw [Mapping.parse] at h
  obtain ⟨tokens, -, h⟩ := of_bind_eq_ok h
  obtain ⟨root?, -, h⟩ := of_bind_eq_ok h
  cases root? with
  | none => exact absurd (Except.ok.inj h) (by simp)
  | some root =>
    obtain ⟨⟨linked, targets, anchors⟩, -, h⟩ := of_bind_eq_ok h
    obtain ⟨⟨found, left⟩, hroot, hfound⟩ := of_bind_eq_ok h
    have hsome : found = some m := Except.ok.inj hfound
    rw [hsome] at hroot
    exact ⟨targets, linked, _, left, hroot⟩

/-- **A mapping that was read has distinct keys.** -/
theorem Mapping.distinct_of_parse {text : String} {m : Mapping}
    (h : Mapping.parse text = .ok (some m)) : m.Distinct := by
  obtain ⟨targets, root, left, left', hroot⟩ := Mapping.rootMapping_of_parse h
  exact Node.distinct_rootMapping? hroot

end EndpointSync.Yaml
