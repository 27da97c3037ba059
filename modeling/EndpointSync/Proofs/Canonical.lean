import EndpointSync.Proofs.Bytes
import EndpointSync.Proofs.Calls
import EndpointSync.Proofs.RosterOrder

/-!
# The document of a roster is canonical

The document lists every entry of a roster once, by the name of the endpoint and then by the key.
This is a strict order on the entries, since no key stands twice, so it leaves nothing open: the
document depends neither on the order in which the roster is kept nor on the calls that have led to
it. Names need not be unique, and templates can make any number of them equal.
-/

namespace EndpointSync

/-! ## The order of the entries -/

open Text (bytes bytes_cons_lt)

namespace Key

/-- What keys are ordered by, one thing after the other. -/
def rank (k : Key) : List (List UInt8) := [bytes k.name, bytes k.namespaceName, bytes k.resource]

private theorem rank_lt_of_le {a b : Key} (h : a.le b = true) (hne : a ≠ b) : a.rank < b.rank := by
  rw [le_eq_thenBy, thenBy_iff, thenBy_iff, decide_eq_true_iff] at h
  rcases h with hname | ⟨hname, hnamespace | ⟨hnamespace, hresource⟩⟩
  · exact bytes_cons_lt (.inl hname)
  · exact bytes_cons_lt (.inr ⟨hname, bytes_cons_lt (.inl hnamespace)⟩)
  · have hless : a.resource < b.resource := by
      refine lt_of_le_of_ne hresource fun hequal ↦ hne ?_
      obtain ⟨name, namespaceName, resource⟩ := a
      exact (Key.mk.injEq ..).mpr ⟨hname, hnamespace, hequal⟩
    refine bytes_cons_lt (.inr ⟨hname, bytes_cons_lt (.inr ⟨hnamespace, ?_⟩)⟩)
    exact bytes_cons_lt (.inl hless)

end Key

namespace Roster

variable {r r' : Roster}

/-- What entries are ordered by: the name of the endpoint, and then the key. -/
def rank (x : Key × Endpoint) : List (List UInt8) := bytes x.2.name :: x.1.rank

private theorem rank_lt_of_entryLe {x y : Key × Endpoint} (h : entryLe x y = true)
    (hne : x.1 ≠ y.1) : rank x < rank y := by
  rw [entryLe_eq_thenBy, thenBy_iff] at h
  exact bytes_cons_lt (h.imp_right fun ⟨hname, hkey⟩ ↦ ⟨hname, Key.rank_lt_of_le hkey hne⟩)

private theorem Distinct.pairwise_rank (h : r.Distinct) :
    (r.mergeSort entryLe).Pairwise fun x y ↦ rank x < rank y := by
  have hkeys : (r.mergeSort entryLe).Pairwise fun x y ↦ x.1 ≠ y.1 :=
    List.pairwise_map.mp (((List.mergeSort_perm r entryLe).map Prod.fst).nodup_iff.mpr h)
  have hsorted := List.pairwise_mergeSort entryLe_trans entryLe_total r
  exact hsorted.imp₂ (fun x y hle hne ↦ rank_lt_of_entryLe hle hne) hkeys

theorem Distinct.get?_eq (h : r.Distinct) (hperm : r'.Perm r) (k : Key) :
    r'.get? k = r.get? k := by
  have h' : r'.Distinct := (hperm.map Prod.fst).nodup_iff.mpr h
  refine Option.ext fun e ↦ ⟨fun hget ↦ ?_, fun hget ↦ ?_⟩
  · exact h.get?_of_mem (hperm.mem_iff.mp (mem_of_get? hget))
  · exact h'.get?_of_mem (hperm.mem_iff.mpr (mem_of_get? hget))

theorem Distinct.document_eq (h : r.Distinct) (hperm : r'.Perm r) : r'.document = r.document := by
  rw [document, document, h.ordered_eq hperm.symm]

end Roster

/-! ## Calls -/

namespace Store

theorem distinct_perform {s : Store} (h : s.roster.Distinct) (call : Call) :
    (call.perform s).roster.Distinct := by
  rw [Call.roster_perform]
  exact h.settle call.ruling

theorem distinct_performAll {s : Store} (h : s.roster.Distinct) (calls : List Call) :
    (s.performAll calls).roster.Distinct := by
  induction calls using List.reverseRecOn with
  | nil => exact h
  | append_singleton calls call ih =>
    rw [performAll_append_singleton]
    exact distinct_perform ih call

end Store

namespace Roster

/-- **The document of a roster is canonical.** It lists every entry once, strictly by the bytes of
the endpoint's name and then by those of the key, and it is what gets written. It is the same for
every order in which the entries may be kept. So whatever calls lead to the same entries under the
same keys, from whatever stores, what is written is the same text. -/
theorem document_is_canonical {r : Roster} (h : r.Distinct) :
    (∃ entries : List (Key × Endpoint), entries.Perm r ∧
      entries.Pairwise (fun x y ↦ rank x < rank y) ∧
      r.document = .map [(.str "endpoints", .seq (entries.map fun x ↦ .map x.2.toMapping))] ∧
      r.render? = (Yaml.Tree.map
        [(.str "endpoints", .seq (entries.map fun x ↦ .map x.2.toMapping))]).render?) ∧
    (∀ r' : Roster, r'.Perm r → r'.document = r.document) ∧
    ∀ {s s' : Store} {calls calls' : List Call}, s.roster.Distinct → s'.roster.Distinct →
      (∀ k, (s.performAll calls).roster.get? k = r.get? k) →
      (∀ k, (s'.performAll calls').roster.get? k = r.get? k) →
      (s.performAll calls).roster.render? = (s'.performAll calls').roster.render? := by
  have hdocument : r.document = .map
      [(.str "endpoints", .seq ((r.mergeSort entryLe).map fun x ↦ .map x.2.toMapping))] := by
    rw [document, ordered, List.map_map]
    rfl
  refine ⟨⟨r.mergeSort entryLe, List.mergeSort_perm r entryLe, h.pairwise_rank, hdocument, ?_⟩,
    ?_, ?_⟩
  · rw [render?, hdocument]
  · intro r' hperm
    exact h.document_eq hperm
  · intro s s' calls calls' hs hs' hcalls hcalls'
    refine (Store.distinct_performAll hs calls).render?_eq (Store.distinct_performAll hs' calls') ?_
    intro k
    rw [hcalls k, hcalls' k]

/-! ### Endpoints of one name -/

/-- An endpoint that has been given the name of others. -/
def named (url : String) : Endpoint := { name := "shop", url, interval := "1m" }

/-- Objects of one name, in two namespaces and of two kinds, and one more. -/
def shopKeys : List Key :=
  [⟨"web", "prod", "ingresses"⟩, ⟨"web", "dev", "services"⟩, ⟨"web", "dev", "ingresses"⟩,
    ⟨"app", "test", "services"⟩]

def shops : Roster := shopKeys.map fun k ↦ (k, named k.display)

/-- The objects are seen one after the other. -/
def listed : List Call := shopKeys.map fun k ↦ .put k (named k.display) .deferred

/-- They are seen in another order, and one of them with another URL at first. -/
def relisted : List Call :=
  .put ⟨"web", "prod", "ingresses"⟩ (named "") .deferred :: listed.reverse

/-- The endpoints are written by the keys of their objects, whichever was first. -/
theorem shops_are_written_by_key : shops.Distinct ∧
    shops.ordered.map Endpoint.url = ["app.test.services", "web.dev.ingresses", "web.dev.services",
      "web.prod.ingresses"] ∧
    (Store.performAll {} relisted).roster.map Prod.fst ≠ shopKeys ∧
    (Store.performAll {} listed).roster.render?
      = (Store.performAll {} relisted).roster.render? := by
  have hdistinct : shops.Distinct := (by decide : (shops.map Prod.fst).Nodup)
  have hlisted : (Store.performAll {} listed).roster = shops := rfl
  have hrelisted : (Store.performAll {} relisted).roster.Perm shops :=
    (List.reverse_perm (shops.drop 1)).cons
      ((⟨"web", "prod", "ingresses"⟩ : Key), named "web.prod.ingresses")
  have hordered : shops.ordered = shops.reverse.map Prod.snd := by
    rw [hdistinct.ordered_eq (List.reverse_perm shops).symm, ordered,
      List.mergeSort_of_pairwise (by decide)]
  refine ⟨hdistinct, by rw [hordered]; decide, by decide, ?_⟩
  exact (document_is_canonical hdistinct).2.2 distinct_nil distinct_nil (fun k ↦ by rw [hlisted])
    (hdistinct.get?_eq hrelisted)

end Roster

end EndpointSync
