import EndpointSync.Endpoint

/-!
# Sameness is reflexive

An update that offers what is already there changes nothing, and it is sameness that tells. That
every endpoint is the same as itself is therefore what ties the endpoint in the roster to the one
that was offered last: either it was put there as it came, or the one that was kept had just been
compared with it.

Two cases need an argument. Not-a-number is itself, unlike in the arithmetic of doubles. And a
mapping is compared by looking each of its entries up in the other one, so the statement about
mappings is about the entries of one among those of a larger one.
-/

namespace EndpointSync

@[simp] theorem Binary64.same_refl (x : Binary64) : x.same x = true := by
  unfold Binary64.same
  split
  · rfl
  · exact beq_self_eq_true x

namespace Yaml

namespace Tree

mutual
@[simp] theorem same_refl : (t : Tree) → t.same t = true
  | .null => rfl
  | .bool b => by rw [same, beq_self_eq_true]
  | .int n => by rw [same, beq_self_eq_true]
  | .float x => by rw [same, Binary64.same_refl]
  | .str s => by rw [same, beq_self_eq_true]
  | .seq items => by rw [same, sameItems_refl items]
  | .map entries => by
    rw [same, beq_self_eq_true, Bool.true_and]
    exact sameEntries_of_subset entries entries (List.Subset.refl entries)
  | .tagged tag v => by rw [same, beq_self_eq_true, same_refl v, Bool.and_self]

theorem sameItems_refl : (items : List Tree) → sameItems items items = true
  | [] => rfl
  | v :: rest => by rw [sameItems, same_refl v, sameItems_refl rest, Bool.and_self]

theorem sameEntries_of_subset : (entries others : List (Tree × Tree)) → entries ⊆ others →
    sameEntries entries others = true
  | [], _, _ => rfl
  | (k, v) :: rest, others, h => by
    have hfound : others.any (fun f ↦ same k f.1 && same v f.2) = true := by
      refine List.any_eq_true.mpr ⟨(k, v), h List.mem_cons_self, ?_⟩
      rw [same_refl k, same_refl v, Bool.and_self]
    have hrest : sameEntries rest others = true :=
      sameEntries_of_subset rest others fun e he ↦ h (List.mem_cons_of_mem _ he)
    rw [sameEntries, hfound, hrest, Bool.and_self]
end

end Tree

@[simp] theorem Mapping.same_refl (m : Mapping) : Mapping.same m m = true := Tree.same_refl (.map m)

end Yaml

namespace Endpoint

@[simp] theorem sameExtra_refl (extra : List (String × Yaml.Tree)) :
    sameExtra extra extra = true := by
  induction extra with
  | nil => rfl
  | cons entry rest ih =>
    rw [sameExtra, beq_self_eq_true, Yaml.Tree.same_refl, ih, Bool.and_self, Bool.and_self]

/-- **Every endpoint is the same as itself**, whatever its template brought into it. -/
@[simp] theorem same_refl (e : Endpoint) : e.same e = true := by
  simp only [same, beq_self_eq_true, Yaml.Mapping.same_refl, sameExtra_refl, Bool.and_self]

end Endpoint

end EndpointSync
