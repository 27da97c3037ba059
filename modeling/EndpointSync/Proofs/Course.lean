import EndpointSync.Proofs.Requests
import EndpointSync.Proofs.WatchLoop

/-!
# The course that the responses write down

Which changes a run goes through depends on the responses and on nothing else, as long as it can ask
for them. Here its course is written down without a look at the controller. What a controller goes
through is the beginning of that, up to the first request that cannot be made. For the kinds that
are followed every request can be made unless the namespace is no name for a path or something is
too long to be sent (`Controller.asksAll_of_kind`), so that nothing is missing.
-/

namespace EndpointSync

open Cluster (Change Listing ListResult Object Response WatchEvent)

/-- The list, if there is one. -/
def Cluster.ListResult.listing? : ListResult → Option Listing
  | .listed l => some l
  | .failed => none
  | .pending => none

/-- What can be checked of a list says that there is one. -/
theorem Cluster.ListResult.of_any_listing? {result : ListResult} {p : Listing → Bool}
    (h : result.listing?.any p = true) : ∃ l, result = .listed l ∧ p l = true := by
  cases result with
  | listed l => exact ⟨l, rfl, h⟩
  | failed => exact absurd h (by simp [listing?])
  | pending => exact absurd h (by simp [listing?])

namespace Controller

/-- What comes of asking for the first list. -/
def listOf (script : Script) : ListResult := (script.head?.getD .pending).list

/-- The watches that follow each other: the version from which each of them goes on, and the
response to it. There is none after one that never ends. -/
def watchesOf (version : String) : List Response → List (String × Response)
  | [] => [(version, .pending)]
  | r :: rest =>
    (version, r) :: if r.neverEnds then [] else watchesOf (r.resume version) rest

/-- The changes that the responses bring, and how each of them is written: the objects of the first
list, and then what the watches report. -/
def courseOf (script : Script) : List (Change × Write) :=
  match listOf script with
  | .listed l =>
    l.objects.map (fun o ↦ (.added o, .deferred)) ++
      (changesOf (watchesOf l.version script.tail)).map fun change ↦ (change, .now)
  | .failed => []
  | .pending => []

/-- What has to be asked for the responses to come. -/
def asksOf (script : Script) : List Ask :=
  .list :: match listOf script with
    | .listed l => (watchesOf l.version script.tail).map fun w ↦ .watch w.1
    | .failed => []
    | .pending => []

variable {κ : Type} (c : Controller κ)

/-- All of it can be asked. -/
def AsksAll (script : Script) : Prop := ∀ ask ∈ asksOf script, (c.request? ask).isSome = true

variable {c}

theorem watches_isPrefix (version : String) (script : List Response) :
    c.watches version script <+: watchesOf version script := by
  induction script generalizing version with
  | nil =>
    rw [watches, watchesOf]
    split
    · exact List.prefix_rfl
    · exact List.nil_prefix
  | cons response rest ih =>
    rw [watches, watchesOf]
    split
    · refine List.cons_prefix_cons.mpr ⟨rfl, ?_⟩
      split
      · exact List.prefix_rfl
      · exact ih _
    · exact List.nil_prefix

theorem watches_eq {version : String} {script : List Response}
    (h : ∀ w ∈ watchesOf version script, (c.request? (.watch w.1)).isSome = true) :
    c.watches version script = watchesOf version script := by
  induction script generalizing version with
  | nil => rw [watches, watchesOf, if_pos (h _ List.mem_cons_self)]
  | cons response rest ih =>
    rw [watchesOf, List.forall_mem_cons] at h
    obtain ⟨hfirst, hrest⟩ := h
    rw [watches, watchesOf, if_pos hfirst]
    split
    · rfl
    next hends =>
      rw [if_neg hends] at hrest
      rw [ih hrest]

theorem AsksAll.request?_list {script : Script} (h : c.AsksAll script) :
    (c.request? .list).isSome = true := h .list List.mem_cons_self

theorem AsksAll.watches_eq {script : Script} {l : Listing} (h : c.AsksAll script)
    (hlist : listOf script = .listed l) :
    c.watches l.version script.tail = watchesOf l.version script.tail := by
  refine Controller.watches_eq fun w hw ↦ h _ (List.mem_cons_of_mem _ ?_)
  rw [hlist]
  exact List.mem_map_of_mem hw

theorem firstList_eq (h : (c.request? .list).isSome = true) (script : Script) :
    c.firstList script = listOf script := by
  obtain ⟨request, hrequest⟩ := Option.isSome_iff_exists.mp h
  exact firstList_of_request hrequest script

theorem firstList_of_none (h : c.request? .list = none) (script : Script) :
    c.firstList script = .failed := by
  rw [firstList, h]

theorem course_isPrefix (script : Script) : c.course script <+: courseOf script := by
  rw [course]
  cases hrequest : c.request? .list with
  | none =>
    rw [firstList_of_none hrequest]
    exact List.nil_prefix
  | some request =>
    rw [firstList_eq (by rw [hrequest]; rfl), courseOf]
    cases listOf script with
    | listed l =>
      obtain ⟨later, hlater⟩ := watches_isPrefix (c := c) l.version script.tail
      refine (List.prefix_append_right_inj _).mpr (List.IsPrefix.map _ ?_)
      rw [changesOf, changesOf, ← hlater, List.flatMap_append]
      exact List.prefix_append _ _
    | failed => exact List.prefix_rfl
    | pending => exact List.prefix_rfl

theorem AsksAll.course_eq {script : Script} (h : c.AsksAll script) :
    c.course script = courseOf script := by
  rw [course, firstList_eq h.request?_list, courseOf]
  cases hlist : listOf script with
  | listed l =>
    dsimp only
    rw [h.watches_eq hlist]
  | failed => rfl
  | pending => rfl

/-- **The kinds that are followed can be asked for.** -/
theorem asksAll_of_kind {k : Kind} (hresource : c.rules.resource = k.rules.resource)
    (hplain : c.config.HasPlainNamespace) {script : Script}
    (hroom : ∀ ask ∈ asksOf script, c.config.HasRoomFor ask) : c.AsksAll script := by
  intro ask hask
  rw [request?, hresource, k.request?_eq hplain (hroom ask hask)]
  rfl

end Controller

end EndpointSync
