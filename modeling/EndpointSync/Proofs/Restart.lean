import EndpointSync.Proofs.Expiry
import EndpointSync.Proofs.LastEvent

/-!
# What a fresh start leaves behind

When the version of a watch has expired, the next watch starts anew, and the cluster brings all
objects that are there as added ones. Each of them is dealt with as ever. The controller keeps no
count of what it was brought, so it cannot tell what it was not brought: an object that was deleted
while nobody was watching is never heard of again, and its endpoint stays.

## Looking into a run

The roster at a moment within a run is that of a run which is told to stop there
(`Controller.StandsAt`). While a watch waits for its next event, all changes before that event have
been carried out and no others (`Controller.StandsAt.event`), so two moments of one watch differ by
the changes in between, and `Controller.roster_of_later_event` needs to know nothing of the run up
to the first of them.
-/

namespace EndpointSync

open Cluster (Change Object Response WatchEnd WatchEvent)

/-! ## Reading off what a watch says -/

namespace Cluster

namespace WatchEvent

/-- The object that was added, if that is the event. -/
def added? : WatchEvent → Option Object
  | .changed (.added o) => some o
  | _ => none

/-- The code of an error. -/
def code? : WatchEvent → Option Nat
  | .error report => some report.code
  | _ => none

theorem eq_of_added? {e : WatchEvent} {o : Object} (h : e.added? = some o) :
    e = .changed (.added o) := by
  cases e with
  | changed change =>
    cases change with
    | added o' => rw [Option.some.inj h]
    | modified o' => exact absurd h (by simp [added?])
    | deleted o' => exact absurd h (by simp [added?])
  | bookmark version => exact absurd h (by simp [added?])
  | error report => exact absurd h (by simp [added?])

end WatchEvent

private theorem Response.expiredByEvent_iff {r : Response} :
    r.ExpiredByEvent ↔ some 410 ∈ r.events.map WatchEvent.code? := by
  rw [ExpiredByEvent, List.mem_map]
  constructor
  · rintro ⟨report, hmem, hcode⟩
    exact ⟨.error report, hmem, congrArg some hcode⟩
  · rintro ⟨e, hmem, hcode⟩
    cases e with
    | error report => exact ⟨report, hmem, Option.some.inj hcode⟩
    | changed change => exact absurd hcode (by simp [WatchEvent.code?])
    | bookmark version => exact absurd hcode (by simp [WatchEvent.code?])

instance (r : Response) : Decidable r.ExpiredByEvent :=
  decidable_of_iff _ Response.expiredByEvent_iff.symm

end Cluster

/-! ## A ruling and a single key -/

namespace Roster

theorem get?_settle_congr {r r' : Roster} {key : Key} (h : r.get? key = r'.get? key)
    (ρ : Ruling) : (r.settle ρ).get? key = (r'.settle ρ).get? key := by
  cases ρ with
  | none => exact h
  | some ruling =>
    obtain ⟨k, v⟩ := ruling
    by_cases hkey : k = key
    · subst hkey
      cases v with
      | drop => rw [settle, settle, get?_erase_self, get?_erase_self]
      | noUrl => exact h
      | invalid why => exact h
      | endpoint e =>
        rw [settle, settle, ← h]
        split
        · exact h
        · rw [get?_insert_self, get?_insert_self]
    · rw [get?_settle_of_ne hkey, get?_settle_of_ne hkey, h]

end Roster

namespace Controller

/-! ## Changes and a single key -/

section Keys

variable {k : Kind} {c : Controller k.Form}

private theorem key_of_rulingOn {obj : k.Form} {key : Key} {v : Verdict}
    (h : c.rulingOn obj = some (key, v)) : key = c.keyOf obj := by
  rw [rulingOn] at h
  cases hscreen : c.rules.screen c.config obj with
  | error screened =>
    rw [hscreen, Option.some.injEq, Prod.mk.injEq] at h
    exact h.1.symm
  | ok url =>
    rw [hscreen] at h
    dsimp only at h
    split at h
    · exact absurd h (by simp)
    · rw [Option.some.injEq, Prod.mk.injEq] at h
      exact h.1.symm

theorem key_of_ruling (hrules : c.rules = k.rules) {change : Change} {key : Key} {v : Verdict}
    (h : c.ruling change = some (key, v)) : key = c.key change.object := by
  have hpresent : ∀ o, (c.rules.decode o).bind c.rulingOn = some (key, v) → key = c.key o := by
    intro o ho
    obtain ⟨obj, hobj, hruling⟩ := Option.bind_eq_some_iff.mp ho
    have hmeta : c.rules.metadata obj = o.metadata := by
      rw [hrules] at hobj ⊢
      exact Kind.metadata_of_decode hobj
    rw [key_of_rulingOn hruling, keyOf, hmeta, Controller.key]
  cases change with
  | added o => exact hpresent o h
  | modified o => exact hpresent o h
  | deleted o =>
    rw [ruling, Option.some.injEq, Prod.mk.injEq] at h
    exact h.1.symm

/-- **Frame.** Changes touch no keys but those of their objects. -/
theorem get?_carryOut_of_ne (hrules : c.rules = k.rules) {changes : List Change} {key : Key}
    (h : ∀ change ∈ changes, c.key change.object ≠ key) (r : Roster) :
    (c.carryOut r changes).get? key = r.get? key := by
  induction changes generalizing r with
  | nil => rfl
  | cons change rest ih =>
    rw [carryOut_cons, ih fun later hlater ↦ h later (List.mem_cons_of_mem change hlater)]
    cases hruling : c.ruling change with
    | none => rw [Roster.settle_none]
    | some found =>
      obtain ⟨ruled, v⟩ := found
      have hkey : ruled ≠ key := by
        rw [key_of_ruling hrules hruling]
        exact h change List.mem_cons_self
      exact Roster.get?_settle_of_ne hkey r v

/-- Of objects with different keys, each is dealt with as if it were the only one. -/
theorem get?_carryOut_added (hrules : c.rules = k.rules) {objects : List Object}
    (hkeys : (objects.map c.key).Nodup) {o : Object} (ho : o ∈ objects) (r : Roster) :
    (c.carryOut r (objects.map Change.added)).get? (c.key o)
      = (r.settle (c.ruling (.added o))).get? (c.key o) := by
  induction objects generalizing r with
  | nil => exact absurd ho List.not_mem_nil
  | cons first rest ih =>
    rw [List.map_cons, List.nodup_cons] at hkeys
    rw [carryOut_added_cons]
    rcases List.mem_cons.mp ho with rfl | hrest
    · -- the objects after it have other keys, so they leave its entry as it is
      refine get?_carryOut_of_ne hrules ?_ _
      intro change hchange hsame
      obtain ⟨later, hlater, rfl⟩ := List.mem_map.mp hchange
      exact hkeys.1 (hsame ▸ List.mem_map_of_mem hlater)
    · -- the first object has another key, so the induction starts from the same entry
      have hfirst : ∀ change ∈ [Change.added first], c.key change.object ≠ c.key o := by
        intro change hchange hsame
        rw [List.mem_singleton.mp hchange] at hsame
        exact hkeys.1 (hsame ▸ List.mem_map_of_mem hrest)
      rw [ih hkeys.2 hrest]
      exact Roster.get?_settle_congr (get?_carryOut_of_ne hrules hfirst r) _

end Keys

/-! ## Where a run stands -/

variable {κ : Type} (c : Controller κ)

/-- At a moment of its run, which does come, the controller has this roster. -/
def StandsAt (s : Store) (script : Script) (m : Moment) (r : Roster) : Prop :=
  (c.run s script (some m)).result = .told m ∧ (c.run s script (some m)).store.roster = r

variable {c} {stop : Option Moment}

variable (c) in
/-- The changes that a run brings before one of its watches. -/
def changesBefore (script : Script) (attempt : Nat) : List Change :=
  match c.firstList script with
  | .listed l =>
    l.objects.map Change.added ++ changesOf ((c.watches l.version script.tail).take (attempt - 1))
  | .failed => []
  | .pending => []

theorem StandsAt.event {s : Store} {script : Script} {a i : Nat} {r : Roster}
    (h : c.StandsAt s script (.event a i) r) :
    (∃ v, (c.asks script)[a]? = some (.watch v)) ∧ r = c.carryOut s.roster
      (c.changesBefore script a ++
        ((script[a]?.getD .pending).events.take i).filterMap WatchEvent.change?) := by
  obtain ⟨htold, rfl⟩ := h
  have hbegun := begun_run c (some (.event a i)) s script
  generalize c.run s script (some (.event a i)) = report at hbegun htold
  cases hbegun with
  | toldBefore hstop => exact absurd hstop (by simp)
  | unaskable hrequest => exact absurd htold (by simp [endEarly])
  | toldAnswering hrequest hstop => exact absurd hstop (by simp)
  | noList hrequest hlist => exact absurd htold (by simp [endEarly])
  | silent hrequest hlist => exact absurd htold (by simp [endEarly])
  | @brokeOff request l after result hrequest hlist hseed =>
    -- no event is waited for while the first list is dealt with
    have hresult : result = .told (.event a i) := htold
    rw [hresult] at hseed
    obtain ⟨index, hmoment, -⟩ := seed_told hseed
    exact absurd hmoment (by simp)
  | @seeded request l after hrequest hlist hseed =>
    have hseeded := seeded_seed c (some (.event a i)) l.objects (poll s .list request 0 false)
    rw [hseed] at hseeded
    cases hseeded with
    | whole hroster =>
      have hcarried : after.roster = c.carryOut s.roster (l.objects.map Change.added) := hroster
      obtain ⟨k, v, hattempt, hwatch, hloop⟩ :=
        (rounds_watch c (some (.event a i)) script.tail
          ⟨(after.record [.released]).note (.watching l.version), l.version⟩ 1).told_at_event
          htold
      have hk : a = k + 1 := by omega
      subst hk
      rw [List.getElem?_tail] at hwatch hloop
      rw [asks, changesBefore, hrequest, hlist]
      refine ⟨⟨v, ?_⟩, ?_⟩
      · rw [Option.isSome_some, if_pos rfl, List.singleton_append, List.getElem?_cons_succ,
          List.getElem?_map, hwatch, Option.map_some]
      · rw [Nat.add_sub_cancel, List.append_assoc, carryOut_append, ← hcarried]
        exact hloop

/-- From the beginning of a watch to one of its events, the changes in between are carried out. -/
theorem roster_of_later_event {s : Store} {script : Script} {a i : Nat} {before after : Roster}
    {r : Response} (hbefore : c.StandsAt s script (.event a 0) before)
    (hafter : c.StandsAt s script (.event a i) after) (hr : script[a]? = some r) :
    after = c.carryOut before ((r.events.take i).filterMap WatchEvent.change?) := by
  have hstart := hbefore.event.2
  have hlater := hafter.event.2
  rw [List.take_zero, List.filterMap_nil, List.append_nil] at hstart
  rw [hr, Option.getD_some, carryOut_append, ← hstart] at hlater
  exact hlater

theorem StandsAt.starts_anew {s : Store} {script : Script} {n i : Nat} {r : Roster}
    {expired : Response} (h : c.StandsAt s script (.event (n + 2) i) r)
    (hr : script[n + 1]? = some expired) (hexpired : expired.ExpiredByEvent) :
    (c.asks script)[n + 2]? = some (.watch fromStart) := by
  obtain ⟨⟨v, hask⟩, -⟩ := h.event
  obtain ⟨l, -, hversion⟩ := watch_of_asks hask
  have htail : script.tail[n]? = some expired := by rw [List.getElem?_tail, hr]
  rw [Ask.watch.injEq, take_succ_add_of_getElem? htail 0, List.take_zero, List.flatMap_append,
    List.flatMap_cons, List.flatMap_nil, List.append_nil, List.foldl_append] at hversion
  have hstart : v = fromStart :=
    hversion.trans (Cluster.Response.resume_of_expiredByEvent hexpired _)
  rw [hask, hstart]

/-! ## A fresh start -/

/-- All entries of the controller's kind belong to some objects. -/
def KnownTo (c : Controller κ) (objects : List Object) (r : Roster) : Prop :=
  ∀ key : Key, key.resource = c.rules.resource.plural → (r.get? key).isSome = true →
    ∃ o ∈ objects, c.key o = key

/-- **A fresh start takes nothing away.** Suppose that a watch ends with the error for an expired
version, and that the watch after it brings some objects with different keys as added ones. That
watch is asked for from the start, and each of the objects is dealt with as ever. But what stands
under a key that none of them has stays as it was. So all entries of the kind belong to the objects
that were brought only if they did so before. -/
theorem fresh_start_keeps_unseen {k : Kind} {c : Controller k.Form} (hrules : c.rules = k.rules)
    {s : Store} {script : Script} {n : Nat} {expired fresh : Response} {objects : List Object}
    {before after : Roster} (hexpired : script[n + 1]? = some expired)
    (hgone : expired.ExpiredByEvent) (hfresh : script[n + 2]? = some fresh)
    (hobjects : fresh.events.take objects.length = objects.map fun o ↦ .changed (.added o))
    (hkeys : (objects.map c.key).Nodup)
    (hbefore : c.StandsAt s script (.event (n + 2) 0) before)
    (hafter : c.StandsAt s script (.event (n + 2) objects.length) after) :
    (c.asks script)[n + 2]? = some (.watch fromStart) ∧
      (∀ o ∈ objects, after.get? (c.key o)
        = (before.settle (c.ruling (.added o))).get? (c.key o)) ∧
      (∀ key, (∀ o ∈ objects, c.key o ≠ key) → after.get? key = before.get? key) ∧
      (c.KnownTo objects after ↔ c.KnownTo objects before) := by
  have hchanges : (fresh.events.take objects.length).filterMap WatchEvent.change?
      = objects.map Change.added := by
    rw [hobjects, List.filterMap_map]
    exact congrFun List.filterMap_eq_map' objects
  have hcarried : after = c.carryOut before (objects.map Change.added) := by
    rw [← hchanges]
    exact roster_of_later_event hbefore hafter hfresh
  have hunseen : ∀ key, (∀ o ∈ objects, c.key o ≠ key) → after.get? key = before.get? key := by
    intro key hkey
    rw [hcarried]
    refine get?_carryOut_of_ne hrules ?_ before
    intro change hchange
    obtain ⟨o, ho, rfl⟩ := List.mem_map.mp hchange
    exact hkey o ho
  refine ⟨hafter.starts_anew hexpired hgone, ?_, hunseen, ?_⟩
  · intro o ho
    rw [hcarried]
    exact get?_carryOut_added hrules hkeys ho before
  · -- only keys of none of the objects count, and their entries are the same before and after
    have hsame : ∀ {r r' : Roster},
        (∀ key, (∀ o ∈ objects, c.key o ≠ key) → r'.get? key = r.get? key) →
        c.KnownTo objects r → c.KnownTo objects r' := by
      intro r r' hsame hknown key hresource hthere
      by_contra hnone
      have hkey : ∀ o ∈ objects, c.key o ≠ key := fun o ho ho' ↦ hnone ⟨o, ho, ho'⟩
      rw [hsame key hkey] at hthere
      exact hnone (hknown key hresource hthere)
    exact ⟨hsame fun key hkey ↦ (hunseen key hkey).symm, hsame hunseen⟩

/-! ### An endpoint of an object that is gone -/

/-- A watch whose version has expired. -/
def expiredFeed : Response :=
  .reply 200 ("\x7b\"type\":\"ERROR\",\"object\":" ++ goneReport ++ "\x7d\n") .complete

def freshFeed : Response :=
  .reply 200 (serviceLine "ADDED" "alpha") .stalled

/-- While nobody is watching, one service takes the place of the other. -/
def restartScript : Script := [betaList, expiredFeed, freshFeed]

-- one evaluation for all of them, since each of them reads the same responses
private theorem restart_evaluated :
    expiredFeed.ExpiredByEvent ∧
      freshFeed.events.map (·.added?.map everyService.key) = [some (serviceKey "alpha")] ∧
      (everyService.run {} restartScript (some (.event 2 0))).result = .told (.event 2 0) ∧
      (everyService.run {} restartScript (some (.event 2 1))).result = .told (.event 2 1) ∧
      ((everyService.carryOut [] (everyService.changesBefore restartScript 2)).get?
        (serviceKey "beta")).isSome = true ∧
      ((everyService.carryOut [] (everyService.changesBefore restartScript 2 ++
        (freshFeed.events.take 1).filterMap WatchEvent.change?)).get?
          (serviceKey "beta")).isSome = true := by
  decide +kernel

private theorem exists_fresh : ∃ o, everyService.key o = serviceKey "alpha" ∧
    freshFeed.events.take [o].length = [o].map fun o ↦ .changed (.added o) := by
  obtain ⟨e, hevent, hadded⟩ := List.map_eq_singleton_iff.mp restart_evaluated.2.1
  obtain ⟨o, ho, hkey⟩ := Option.map_eq_some_iff.mp hadded
  refine ⟨o, hkey, ?_⟩
  rw [hevent, WatchEvent.eq_of_added? ho]
  rfl

/-- The service that is gone keeps its endpoint. -/
theorem deleted_service_stays :
    ∃ objects before after, expiredFeed.ExpiredByEvent ∧
      freshFeed.events.take objects.length = objects.map (fun o ↦ .changed (.added o)) ∧
      objects.map everyService.key = [serviceKey "alpha"] ∧
      everyService.StandsAt {} restartScript (.event 2 0) before ∧
      everyService.StandsAt {} restartScript (.event 2 objects.length) after ∧
      after.get? (serviceKey "beta") = before.get? (serviceKey "beta") ∧
      ¬everyService.KnownTo objects after := by
  obtain ⟨hgone, -, hstart, hend, hbeta, -⟩ := restart_evaluated
  obtain ⟨o, hkey, hfresh⟩ := exists_fresh
  have hkeys : [o].map everyService.key = [serviceKey "alpha"] := by rw [← hkey]; rfl
  have hbefore : everyService.StandsAt {} restartScript (.event 2 0) _ := ⟨hstart, rfl⟩
  have hafter : everyService.StandsAt {} restartScript (.event 2 [o].length) _ := ⟨hend, rfl⟩
  have hexpired : restartScript[0 + 1]? = some expiredFeed := rfl
  obtain ⟨-, -, hunseen, hknown⟩ := fresh_start_keeps_unseen (k := .service) rfl hexpired hgone rfl
    hfresh (by rw [hkeys]; decide) hbefore hafter
  refine ⟨[o], _, _, hgone, hfresh, hkeys, hbefore, hafter, ?_, ?_⟩
  · refine hunseen _ fun o' ho' ↦ ?_
    rw [List.mem_singleton.mp ho', hkey]
    decide
  · rw [hknown]
    intro hall
    have hroster := hbefore.event.2
    rw [List.take_zero, List.filterMap_nil, List.append_nil] at hroster
    rw [← hroster] at hbeta
    obtain ⟨o', ho', hkey'⟩ := hall (serviceKey "beta") rfl hbeta
    rw [List.mem_singleton.mp ho', hkey] at hkey'
    exact absurd hkey' (by decide)

/-- A fresh start does not make the entries of a kind those of the objects that are there. -/
theorem fresh_start_does_not_resynchronise :
    ¬∀ (script : Script) (n : Nat) (expired fresh : Response) (objects : List Object)
      (after : Roster), script[n + 1]? = some expired → expired.ExpiredByEvent →
      script[n + 2]? = some fresh →
      fresh.events.take objects.length = objects.map (fun o ↦ .changed (.added o)) →
      (objects.map everyService.key).Nodup →
      everyService.StandsAt {} script (.event (n + 2) objects.length) after →
      everyService.KnownTo objects after := by
  intro hclaim
  obtain ⟨hgone, -, -, hend, -, hbeta⟩ := restart_evaluated
  obtain ⟨o, hkey, hfresh⟩ := exists_fresh
  have hafter : everyService.StandsAt {} restartScript (.event (0 + 2) [o].length) _ := ⟨hend, rfl⟩
  have hknown := hclaim restartScript 0 expiredFeed freshFeed [o] _ rfl hgone rfl hfresh
    (by simp) hafter
  have hroster := hafter.event.2
  have hthere : (Roster.get? _ (serviceKey "beta")).isSome = true := hroster ▸ hbeta
  obtain ⟨o', ho', hkey'⟩ := hknown (serviceKey "beta") rfl hthere
  rw [List.mem_singleton.mp ho', hkey] at hkey'
  exact absurd hkey' (by decide)

end Controller

end EndpointSync
