import EndpointSync.Proofs.Calls
import EndpointSync.Proofs.LastEvent

/-!
# When a withdrawn object loses its endpoint

An object is withdrawn by deleting it, or by an annotation that switches its monitoring off.
Deleting it always takes its endpoint away. Switching it off does so only if the annotation is
looked at, and it is not looked at for an object in scope that has no URL: such an object is passed
over first. An endpoint that it has from an earlier version of it then stays, in the roster and in
the file. This is the only case in which a withdrawn object keeps one.
-/

namespace EndpointSync

namespace Event

/-- The object is gone, or it is there and its monitoring is switched off. -/
inductive Withdraws (e : Event) : Prop where
  | deleted : e.change.present? = none → e.Withdraws
  | disabled {obj : e.kind.Form} : e.Shows obj → e.Disabled obj → e.Withdraws

/-- An object is there that is in scope and has no URL. -/
def LacksUrl (e : Event) : Prop :=
  ∃ obj : e.kind.Form, e.Shows obj ∧ e.kind.rules.shouldProcess e.config obj = true ∧
    e.kind.rules.url? obj = none

variable {e : Event}

theorem LacksUrl.ruling (h : e.LacksUrl) : e.ruling = some (e.key, .noUrl) := by
  obtain ⟨obj, hshows, hscope, hurl⟩ := h
  rw [hshows.ruling, e.controller.rulingOn_of_noUrl hscope hurl, hshows.keyOf]

theorem Shows.stalls {obj : e.kind.Form} (h : e.Shows obj) :
    e.controller.stalls e.change = e.controller.stallsOn obj := by
  obtain ⟨o, hpresent, hobj⟩ := h
  have hread : (e.controller.rules.decode o).any e.controller.stallsOn
      = e.controller.stallsOn obj := congrArg (Option.any _) hobj
  cases hc : e.change with
  | added o' =>
    rw [hc] at hpresent
    rw [Option.some.inj hpresent]
    exact hread
  | modified o' =>
    rw [hc] at hpresent
    rw [Option.some.inj hpresent]
    exact hread
  | deleted o' =>
    rw [hc] at hpresent
    exact absurd hpresent (by simp [Cluster.Change.present?])

theorem Shows.weighs {obj : e.kind.Form} {url : String} (h : e.Shows obj)
    (hscope : e.kind.rules.shouldProcess e.config obj = true)
    (hurl : e.kind.rules.url? obj = some url) (hdone : e.controller.stalls e.change = false) :
    e.Weighs obj url := by
  have hscreen : e.controller.rules.screen e.controller.config obj = .ok url := by
    have hrules : e.kind.rules.screen e.config obj = .ok url := by
      rw [Rules.screen, if_pos hscope, hurl]
    exact hrules
  rw [h.stalls, Controller.stallsOn, hscreen] at hdone
  exact ⟨h, hscope, hurl, hdone⟩

theorem Withdraws.ruling (h : e.Withdraws) (hdone : e.controller.stalls e.change = false)
    (hurl : ¬e.LacksUrl) : e.ruling = some (e.key, .drop) := by
  cases h with
  | deleted hgone => exact (Settles.deleted hgone).ruling
  | @disabled obj hshows hdisabled =>
    cases hscope : e.kind.rules.shouldProcess e.config obj with
    | false => exact (Settles.outOfScope hshows hscope).ruling
    | true =>
      cases hfound : e.kind.rules.url? obj with
      | none => exact absurd ⟨obj, hshows, hscope, hfound⟩ hurl
      | some url => exact (Settles.disabled (hshows.weighs hscope hfound hdone) hdisabled).ruling

/-- Once an entry is dropped it is out of the file as soon as that is written, which is at once if
there was an entry. -/
theorem contents_of_drop {s : Store} (h : e.ruling = some (e.key, .drop))
    (hplace : s.disk.place = .free) {text : String}
    (htext : (step s e).roster.render? = some text) :
    (s.has e.key = true → (step s e).disk.contents = some text) ∧
      (step s e).write.disk.contents = some text := by
  have hcalls : Controller.callsOf e.write e.ruling = [.forget e.key] := by rw [h]; rfl
  have hagree : (step s e).Agree (Call.perform s (.forget e.key)) := by
    have hhandle := e.controller.agree_handle s e.change e.write
    rw [← ruling, hcalls] at hhandle
    exact hhandle
  rw [hagree.roster] at htext
  refine ⟨?_, ?_⟩
  · intro hthere
    have hwrites : (Call.forget e.key).writes s = true := by
      simp [Call.writes, Call.answer?, hthere]
    rw [hagree.disk]
    exact Call.contents_of_writes hplace hwrites htext
  · have hfree : (Call.perform s (.forget e.key)).disk.place = .free := by
      rw [Call.place_perform, hplace]
    rw [hagree.write.disk, Store.disk_write hfree htext]

/-- **When a withdrawn object loses its endpoint.** Suppose that an object is deleted, or that it is
there and its monitoring is switched off by its own annotation or by an inherited one. Once this has
been dealt with, nothing stands under its key, unless the object is in scope and has no URL. Then
all entries and the file stay as they are, so an endpoint that the object has is not taken away. In
all other cases the entry is erased, and the file does not hold it any more once it is written,
which is at once if there was an entry. -/
theorem withdrawn_entry_gone_iff {s : Store} (h : e.Withdraws)
    (hdone : (e.controller.handle s e.change e.write).isStuck = false) :
    ((step s e).roster.get? e.key = none ↔ ¬e.LacksUrl ∨ s.roster.get? e.key = none) ∧
      (e.LacksUrl → (step s e).roster = s.roster ∧ (step s e).disk = s.disk) ∧
      (¬e.LacksUrl → (step s e).roster = s.roster.erase e.key ∧
        ∀ text, s.disk.place = .free → (step s e).roster.render? = some text →
          (s.has e.key = true → (step s e).disk.contents = some text) ∧
            (step s e).write.disk.contents = some text) := by
  rw [Controller.isStuck_handle] at hdone
  have hkept : e.LacksUrl → (step s e).Agree s := by
    intro hurl
    have hhandle := e.controller.agree_handle s e.change e.write
    rw [← ruling, hurl.ruling] at hhandle
    exact hhandle
  have hdropped : ¬e.LacksUrl → (step s e).roster = s.roster.erase e.key := by
    intro hurl
    rw [roster_step, h.ruling hdone hurl]
    rfl
  refine ⟨⟨?_, ?_⟩, ?_, ?_⟩
  · intro hnone
    by_cases hurl : e.LacksUrl
    · rw [(hkept hurl).roster] at hnone
      exact .inr hnone
    · exact .inl hurl
  · intro hcase
    by_cases hurl : e.LacksUrl
    · rw [(hkept hurl).roster]
      exact hcase.resolve_left (not_not_intro hurl)
    · rw [hdropped hurl, Roster.get?_erase_self]
  · intro hurl
    exact ⟨(hkept hurl).roster, (hkept hurl).disk⟩
  · intro hurl
    refine ⟨hdropped hurl, fun text hplace htext ↦ ?_⟩
    exact contents_of_drop (h.ruling hdone hurl) hplace htext

/-! ### An endpoint that stays -/

/-- A service that has lost its ports and whose monitoring is switched off. -/
def portlessObject : Cluster.Object where
  metadata := {
    name := some "web"
    namespaceName := some "default"
    annotations := [("gatus.home-operations.com/enabled", "false")] }
  data := .obj [("spec", .obj [])]

def switchedOff : Event where
  kind := .service
  config := {}
  server := none
  change := .modified portlessObject
  write := .now

/-- The endpoint of an earlier version of the service. -/
def earlierStore : Store where
  roster := [(⟨"web", "default", "services"⟩,
    { name := "web", url := "tcp://web.default.svc:80", interval := "1m" })]

/-- The service is switched off and keeps its endpoint. -/
theorem withdrawn_entry_stays : switchedOff.Withdraws ∧ switchedOff.LacksUrl ∧
    (switchedOff.controller.handle earlierStore switchedOff.change switchedOff.write).isStuck
      = false ∧
    (step earlierStore switchedOff).roster = earlierStore.roster ∧
    ((step earlierStore switchedOff).roster.get? switchedOff.key).isSome = true := by
  have hshows : switchedOff.Shows ⟨portlessObject.metadata, []⟩ :=
    ⟨portlessObject, rfl, rfl⟩
  have hdisabled : switchedOff.Disabled ⟨portlessObject.metadata, []⟩ :=
    ⟨"false", by decide, by decide, by decide⟩
  have hurl : switchedOff.LacksUrl := ⟨_, hshows, by decide, by decide⟩
  have hdone : (switchedOff.controller.handle earlierStore switchedOff.change
      switchedOff.write).isStuck = false := by decide
  have hkept := (withdrawn_entry_gone_iff (.disabled hshows hdisabled) hdone).2.1 hurl
  refine ⟨.disabled hshows hdisabled, hurl, hdone, hkept.1, ?_⟩
  rw [hkept.1]
  decide

end Event

end EndpointSync
