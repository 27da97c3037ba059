import EndpointSync.Proofs.Moments
import EndpointSync.Proofs.Polls

/-!
# The version that a watch resumes from

A controller asks for one list and then for one watch after the other. What it asks for is written
down from the responses alone, just as the course of its changes is: the first watch goes on from
the version of the list, and every other one from the version that the events of the watch before it
lead to. A run asks for these in order, and either for all of them or for the first so many.

The version is carried along by the loop, and the polls are what is seen of it from outside. So the
polls of a loop are found by induction on its rounds, with the version of each round that of the
watch it asks for. A poll also has the request that goes out, in which the version can be read
(`Ask.version_sent`).
-/

namespace EndpointSync

open Cluster (Change Listing Metadata Object Response WatchEvent)

/-- The version that the body of a list gives is that of its metadata, and empty if there is
none. -/
def Cluster.Response.GivesVersion (r : Response) (version : String) : Prop :=
  ∃ status body fields, r = .reply status body .complete ∧
    Cluster.wholeJson? body = some (.obj fields) ∧
    version = ((Json.fieldOf? fields "metadata").bind
      (Metadata.textOf? · "resourceVersion")).getD ""

private theorem Cluster.Listing.version_of_ofJson? {j : Json} {l : Listing}
    (h : Listing.ofJson? j = some l) : ∃ fields, j = .obj fields ∧
      l.version = ((Json.fieldOf? fields "metadata").bind
        (Metadata.textOf? · "resourceVersion")).getD "" := by
  cases j with
  | obj fields =>
    refine ⟨fields, rfl, ?_⟩
    rw [Listing.ofJson?] at h
    obtain ⟨version, hversion, hitems⟩ := Option.bind_eq_some_iff.mp h
    have hl : l.version = version := by
      obtain ⟨items, -, hrest⟩ := Option.bind_eq_some_iff.mp hitems
      cases items with
      | null => rw [← Option.some.inj hrest]
      | arr objects =>
        obtain ⟨os, -, hos⟩ := Option.bind_eq_some_iff.mp hrest
        rw [← Option.some.inj hos]
      | _ => exact absurd hrest (by simp)
    rw [hl]
    cases hfield : Json.fieldOf? fields "metadata" with
    | none =>
      rw [hfield] at hversion
      exact (Option.some.inj hversion).symm
    | some m =>
      rw [hfield, Listing.versionOf?, Option.ite_none_right_eq_some] at hversion
      exact (Option.some.inj hversion.2).symm
  | _ => exact absurd h (by simp [Listing.ofJson?])

theorem Cluster.Response.givesVersion_of_list {r : Response} {l : Listing}
    (h : r.list = .listed l) : r.GivesVersion l.version := by
  cases r with
  | refused => exact absurd h (by simp [Response.list])
  | pending => exact absurd h (by simp [Response.list])
  | reply status body ending =>
    cases ending with
    | complete =>
      rw [Response.list] at h
      split at h
      · exact absurd h (by simp)
      · split at h
        next l' hbody =>
          obtain ⟨j, hj, hlisting⟩ := Option.bind_eq_some_iff.mp hbody
          obtain ⟨fields, rfl, hversion⟩ := Listing.version_of_ofJson? hlisting
          rw [Cluster.ListResult.listed.injEq] at h
          exact ⟨status, body, fields, rfl, hj, h ▸ hversion⟩
        · exact absurd h (by simp)
    | broken => exact absurd h (by simp [Response.list])
    | stalled => exact absurd h (by simp [Response.list])

namespace Controller

variable {κ : Type} (c : Controller κ) (stop : Option Moment)

/-! ## What a run asks for -/

/-- What a run asks for that nothing interrupts: the first list, and then the watches. -/
def asks (script : Script) : List Ask :=
  (if (c.request? .list).isSome then [.list] else []) ++
    match c.firstList script with
    | .listed l => (c.watches l.version script.tail).map fun w ↦ .watch w.1
    | .failed => []
    | .pending => []

/-- From a store on, a run asks for some things in order: for all of them, or for the first so many
if it is cut short. -/
def AsksFor (s : Store) (asks : List Ask) (report : Report) : Prop :=
  ∃ polls, report.store.polls = s.polls ++ polls ∧
    (∀ p ∈ polls, c.request? p.ask = some p.request) ∧
    polls.map Poll.ask <+: asks ∧
    (report.result.isCut = false → polls.map Poll.ask = asks)

variable {c stop}

theorem AsksFor.of_isCut {s : Store} {report : Report} (hpolls : report.store.polls = s.polls)
    (hcut : report.result.isCut = true) (asks : List Ask) : AsksFor c s asks report := by
  refine ⟨[], ?_, ?_, List.nil_prefix, ?_⟩
  · rw [hpolls, List.append_nil]
  · intro p hp
    exact absurd hp List.not_mem_nil
  · intro hwhole
    rw [hcut] at hwhole
    exact absurd hwhole (by simp)

theorem AsksFor.nothing {s : Store} {report : Report} (hpolls : report.store.polls = s.polls) :
    AsksFor c s [] report := by
  refine ⟨[], ?_, ?_, List.nil_prefix, fun _ ↦ rfl⟩
  · rw [hpolls, List.append_nil]
  · intro p hp
    exact absurd hp List.not_mem_nil

theorem AsksFor.congr {s s' : Store} (hpolls : s.polls = s'.polls) {asks : List Ask}
    {report : Report} (h : AsksFor c s asks report) : AsksFor c s' asks report := by
  obtain ⟨polls, hafter, hrest⟩ := h
  exact ⟨polls, by rw [hafter, hpolls], hrest⟩

theorem AsksFor.poll {ask : Ask} {request : Request} (hrequest : c.request? ask = some request)
    {s : Store} {milliseconds : Nat} {initialized : Bool} {asks : List Ask} {report : Report}
    (h : AsksFor c (poll s ask request milliseconds initialized) asks report) :
    AsksFor c s (ask :: asks) report := by
  obtain ⟨first, hfirst, rfl, rfl⟩ := polls_poll s ask request milliseconds initialized
  obtain ⟨polls, hafter, hmade, hprefix, hwhole⟩ := h
  refine ⟨first :: polls, ?_, ?_, ?_, ?_⟩
  · rw [hafter, hfirst, List.append_assoc, List.singleton_append]
  · intro p hp
    rcases List.mem_cons.mp hp with rfl | hlater
    · exact hrequest
    · exact hmade p hlater
  · rw [List.map_cons]
    exact List.cons_prefix_cons.mpr ⟨rfl, hprefix⟩
  · intro hresult
    rw [List.map_cons, hwhole hresult]

private theorem watches_eq_cons {version : String} {request : Request}
    (h : c.request? (.watch version) = some request) (script : Script) :
    ∃ response rest, c.watches version script = (version, response) :: rest := by
  cases script with
  | nil => exact ⟨_, _, watches_nil h⟩
  | cons response rest => exact ⟨_, _, watches_cons h response rest⟩

theorem AsksFor.opened {n : Nat} {here : Watching} {request : Request} {asks : List Ask}
    {report : Report} (h : AsksFor c (c.opened n here request).store asks report)
    (hrequest : c.request? (.watch here.version) = some request) :
    AsksFor c here.store (.watch here.version :: asks) report := .poll hrequest h

theorem Rounds.asksFor {script : Script} {n : Nat} {here : Watching} {report : Report}
    (h : Rounds c stop script n here report) :
    AsksFor c here.store ((c.watches here.version script).map fun w ↦ .watch w.1) report := by
  induction h with
  | toldBefore htold => exact .of_isCut rfl rfl _
  | unaskable hrequest =>
    rw [watches_of_unaskable hrequest]
    exact .nothing (c.polls_insist stop _ _)
  | @toldOpening script n here request hrequest htold =>
    obtain ⟨response, rest, hwatches⟩ := watches_eq_cons hrequest script
    rw [hwatches, List.map_cons]
    exact .opened (.of_isCut rfl rfl _) hrequest
  | unanswered hrequest =>
    rw [watches_nil hrequest]
    exact .opened (.nothing rfl) hrequest
  | @finished response rest n here after request result hrequest hattend =>
    have hpolls := c.polls_attend stop n (c.opened n here request) response
    have hattended := attended_attend c stop n (c.opened n here request) response
    rw [hattend] at hpolls hattended
    rw [watches_cons hrequest, List.map_cons]
    cases hattended with
    | silent hends hcarried =>
      -- a watch that stays open for ever is the last one that is asked for
      have hlast : AsksFor c (c.opened n here request).store []
          ⟨after.store, .silent, c.timeOf n⟩ := .nothing hpolls
      rw [if_pos hends]
      exact hlast.opened hrequest
    | brokeOff hbreak =>
      exact .opened (.of_isCut hpolls hbreak.isCut _) hrequest
  | @toldAfter response rest n here after request hrequest hattend htold =>
    have hpolls := c.polls_attend stop n (c.opened n here request) response
    rw [hattend] at hpolls
    rw [watches_cons hrequest, List.map_cons]
    exact .opened (.of_isCut hpolls rfl _) hrequest
  | @again response rest n here after request report hrequest hattend hrounds ih =>
    have hpolls := c.polls_attend stop n (c.opened n here request) response
    have hattended := attended_attend c stop n (c.opened n here request) response
    rw [hattend] at hpolls hattended
    rw [watches_cons hrequest, List.map_cons]
    cases hattended with
    | ended hends hcarried hresumed =>
      -- the next round starts from the version that the next watch is written down with
      have hversion : after.version = response.resume here.version := hresumed
      rw [if_neg (Bool.eq_false_iff.mp hends), ← hversion]
      exact .opened (ih.congr hpolls) hrequest

theorem asksFor_run (s : Store) (script : Script) :
    AsksFor c s (c.asks script) (c.run s script stop) := by
  have hbegun := begun_run c stop s script
  generalize c.run s script stop = report at hbegun
  cases hbegun with
  | toldBefore htold => exact .of_isCut (polls_endEarly s _) rfl _
  | unaskable hrequest =>
    rw [asks, firstList, hrequest]
    exact .nothing (polls_endEarly s _)
  | toldAnswering hrequest htold =>
    rw [asks, hrequest]
    exact .poll hrequest (.of_isCut (polls_endEarly _ _) rfl _)
  | noList hrequest hlist =>
    rw [asks, hrequest, hlist]
    exact .poll hrequest (.nothing (polls_endEarly _ _))
  | silent hrequest hlist =>
    rw [asks, hrequest, hlist]
    exact .poll hrequest (.nothing (polls_endEarly _ _))
  | @brokeOff request l after result hrequest hlist hseed =>
    have hpolls := c.polls_seed stop l.objects (poll s .list request 0 false)
    have hseeded := seeded_seed c stop l.objects (poll s .list request 0 false)
    rw [hseed] at hpolls hseeded
    rw [asks, hrequest, hlist]
    cases hseeded with
    | brokeOff hbreak =>
      exact .poll hrequest (.of_isCut ((polls_endEarly _ _).trans hpolls) hbreak.isCut _)
  | @seeded request l after hrequest hlist hseed =>
    have hpolls := c.polls_seed stop l.objects (poll s .list request 0 false)
    rw [hseed] at hpolls
    rw [asks, hrequest, hlist]
    -- neither releasing the handle nor the notice before the first watch is a poll
    have hafter : ((after.record [.released]).note (.watching l.version)).polls
        = (poll s .list request 0 false).polls := by
      rw [Store.polls_note, Store.polls_record_of_quiet quiet_released]
      exact hpolls
    exact .poll hrequest (.congr hafter (rounds_watch c stop script.tail
      ⟨(after.record [.released]).note (.watching l.version), l.version⟩ 1).asksFor)

/-! ## The versions -/

private theorem version_of_watches {script : List Response} {version : String} {k : Nat}
    {w : String × Response} (h : (c.watches version script)[k]? = some w) :
    w.1 = ((script.take k).flatMap Response.events).foldl WatchEvent.resume version := by
  induction script generalizing version k with
  | nil =>
    rw [watches] at h
    split at h
    · obtain ⟨hk, rfl⟩ := List.getElem?_eq_some_iff.mp h
      have hzero : k = 0 := Nat.lt_one_iff.mp hk
      subst hzero
      rfl
    · exact absurd h (by simp)
  | cons response rest ih =>
    rw [watches] at h
    split at h
    · cases k with
      | zero =>
        rw [List.getElem?_cons_zero, Option.some.injEq] at h
        rw [← h]
        rfl
      | succ k =>
        rw [List.getElem?_cons_succ] at h
        split at h
        · exact absurd h (by simp)
        · rw [ih h, List.take_succ_cons, List.flatMap_cons, List.foldl_append]
          rfl
    · exact absurd h (by simp)

private theorem list_of_asks {script : Script} {ask : Ask} (h : (c.asks script)[0]? = some ask) :
    ask = .list := by
  rw [asks, firstList] at h
  cases hrequest : c.request? .list with
  | none =>
    rw [hrequest] at h
    exact absurd h (by simp)
  | some request =>
    rw [hrequest, Option.isSome_some, if_pos rfl, List.singleton_append, List.getElem?_cons_zero,
      Option.some.injEq] at h
    exact h.symm

/-- What comes after the first list is a watch. Its version is the one that all events before it
lead to, from that of the list on. -/
theorem watch_of_asks {script : Script} {k : Nat} {ask : Ask}
    (h : (c.asks script)[k + 1]? = some ask) :
    ∃ l, c.firstList script = .listed l ∧ ask = .watch
      (((script.tail.take k).flatMap Response.events).foldl WatchEvent.resume l.version) := by
  rw [asks, firstList] at h
  rw [firstList]
  cases hrequest : c.request? .list with
  | none =>
    rw [hrequest] at h
    exact absurd h (by simp)
  | some request =>
    rw [hrequest, Option.isSome_some, if_pos rfl, List.singleton_append,
      List.getElem?_cons_succ] at h
    dsimp only at h ⊢
    cases hlist : (script.head?.getD .pending).list with
    | failed =>
      rw [hlist] at h
      exact absurd h (by simp)
    | pending =>
      rw [hlist] at h
      exact absurd h (by simp)
    | listed l =>
      rw [hlist, List.getElem?_map, Option.map_eq_some_iff] at h
      obtain ⟨w, hw, rfl⟩ := h
      exact ⟨l, rfl, by rw [version_of_watches hw]⟩

theorem AsksFor.getElem? {s : Store} {asks : List Ask} {report : Report}
    (h : AsksFor c s asks report) {polls : List Poll}
    (hpolls : report.store.polls = s.polls ++ polls) {k : Nat} {ask : Ask}
    (hask : (polls.map Poll.ask)[k]? = some ask) : asks[k]? = some ask := by
  obtain ⟨made, hmade, -, ⟨rest, hrest⟩, -⟩ := h
  have hsame : polls = made := List.append_cancel_left (hpolls.symm.trans hmade)
  rw [hsame] at hask
  obtain ⟨hk, -⟩ := List.getElem?_eq_some_iff.mp hask
  rw [← hrest, List.getElem?_append_left hk, hask]

private theorem asks_isPrefix (script : Script) : c.asks script <+: asksOf script := by
  rw [asks, asksOf]
  cases hrequest : c.request? .list with
  | none =>
    rw [firstList_of_none hrequest]
    exact List.nil_prefix
  | some request =>
    rw [firstList_eq (by rw [hrequest]; rfl), Option.isSome_some, if_pos rfl,
      List.singleton_append]
    refine List.cons_prefix_cons.mpr ⟨rfl, ?_⟩
    cases listOf script with
    | listed l => exact (watches_isPrefix l.version script.tail).map _
    | failed => exact List.prefix_rfl
    | pending => exact List.prefix_rfl

theorem AsksAll.asks_eq {script : Script} (h : c.AsksAll script) :
    c.asks script = asksOf script := by
  rw [asks, asksOf, firstList_eq h.request?_list, if_pos h.request?_list, List.singleton_append]
  cases hlist : listOf script with
  | listed l =>
    dsimp only
    rw [h.watches_eq hlist]
  | failed => rfl
  | pending => rfl

private theorem givesVersion_of_firstList {script : Script} {l : Listing}
    (h : c.firstList script = .listed l) :
    ∃ r, script.head? = some r ∧ r.list = .listed l ∧ r.GivesVersion l.version := by
  have hlist : (script.head?.getD .pending).list = .listed l := by
    cases hrequest : c.request? .list with
    | none => exact absurd ((firstList_of_none hrequest script).symm.trans h) (by simp)
    | some request => exact (firstList_of_request hrequest script).symm.trans h
  cases hhead : script.head? with
  | none =>
    rw [hhead] at hlist
    exact absurd hlist (by simp [Response.list])
  | some r =>
    rw [hhead] at hlist
    exact ⟨r, rfl, hlist, Response.givesVersion_of_list hlist⟩

variable (c) in
/-- **A watch resumes from the last version that was seen.** Whatever the responses say, and
whenever the controller is told to stop, its run asks for the first list before everything else, and
after that only for watches. The first watch is asked for from the version in the metadata of the
list, and every other one from the version to which the events of the watches before it lead, one
after the other. Only a run that is cut short leaves out any of what can be asked.

For each kind that is followed, in a namespace whose name can stand in a path, the requests that go
out say just this: that for the list has no query, and from that for a watch the version can be read
back. And all can be asked that is not too long to be sent. -/
theorem run_resumes (s : Store) (script : Script) (stop : Option Moment) :
    ∃ polls, (c.run s script stop).store.polls = s.polls ++ polls ∧
      (∀ p ∈ polls, c.request? p.ask = some p.request) ∧
      polls.map Poll.ask <+: asksOf script ∧
      (∀ ask, (polls.map Poll.ask)[0]? = some ask → ask = .list) ∧
      (∀ k ask, (polls.map Poll.ask)[k + 1]? = some ask →
        ∃ r l, script.head? = some r ∧ r.list = .listed l ∧ r.GivesVersion l.version ∧
          ask = .watch
            (((script.tail.take k).flatMap Response.events).foldl WatchEvent.resume l.version)) ∧
      ((c.run s script stop).result.isCut = false → polls.map Poll.ask = c.asks script) ∧
      (c.AsksAll script → c.asks script = asksOf script) ∧
      ∀ k : Kind, c.rules.resource = k.rules.resource → c.config.HasPlainNamespace →
        (∀ p ∈ polls, p.request.path = c.rules.resource.path c.config.namespaceName ∧
          (p.ask = .list → p.request.query = []) ∧
          ∀ v, p.ask = .watch v →
            (p.request.query.lookup "resourceVersion").bind Request.formDecoded? = some v) ∧
        ((∀ ask ∈ asksOf script, c.config.HasRoomFor ask) → c.AsksAll script) := by
  have hasks : AsksFor c s (c.asks script) (c.run s script stop) := asksFor_run s script
  obtain ⟨polls, hpolls, hmade, hbegins, hwhole⟩ := id hasks
  refine ⟨polls, hpolls, hmade, hbegins.trans (asks_isPrefix script), ?_, ?_, hwhole, AsksAll.asks_eq,
    fun k hresource hplain ↦ ⟨fun p hp ↦ ?_, asksAll_of_kind hresource hplain⟩⟩
  · intro ask hask
    exact list_of_asks (hasks.getElem? hpolls hask)
  · intro k ask hask
    obtain ⟨l, hlist, hversion⟩ := watch_of_asks (hasks.getElem? hpolls hask)
    obtain ⟨r, hhead, hlisted, hgives⟩ := givesVersion_of_firstList hlist
    exact ⟨r, l, hhead, hlisted, hgives, hversion⟩
  · have hpath : Request.IsPlain (c.rules.resource.path c.config.namespaceName) := by
      rw [hresource]
      exact hplain.isPlain_path k
    rw [Ask.eq_sent hpath (hmade p hp)]
    refine ⟨?_, fun hask ↦ by rw [hask]; rfl, fun v hask ↦ by rw [hask]; exact Ask.version_sent _ v⟩
    cases p.ask <;> rfl

/-! ### A version that advances -/

/-- An empty list of version 10, a watch that brings an object of version 11 and takes it away
again, and a watch that brings a later version and no object. -/
def advancingScript : Script :=
  [.reply 200 "\x7b\"metadata\":\x7b\"resourceVersion\":\"10\"\x7d,\"items\":[]\x7d" .complete,
    .reply 200 ("\x7b\"type\":\"ADDED\",\"object\":" ++
        "\x7b\"metadata\":\x7b\"name\":\"a\",\"resourceVersion\":\"11\"\x7d\x7d\x7d\n" ++
      "\x7b\"type\":\"DELETED\",\"object\":\x7b\"metadata\":\x7b\"name\":\"a\"\x7d\x7d\x7d\n")
      .complete,
    .reply 200 ("\x7b\"type\":\"BOOKMARK\",\"object\":\x7b\"apiVersion\":\"v1\"," ++
      "\"kind\":\"Service\",\"metadata\":\x7b\"resourceVersion\":\"1 2\"\x7d\x7d\x7d\n") .complete]

/-- What is asked for is a list and three watches, and the last version is in the last request. -/
theorem version_advances :
    asksOf advancingScript = [.list, .watch "10", .watch "11", .watch "1 2"] ∧
      ∃ polls, (everyService.run {} advancingScript none).store.polls = polls ∧
        polls.map Poll.ask = [.list, .watch "10", .watch "11", .watch "1 2"] ∧
        ∃ last ∈ polls, last.ask = .watch "1 2" ∧
          (last.request.query.lookup "resourceVersion").bind Request.formDecoded?
            = some "1 2" := by
  obtain ⟨hasked, hresult, hroom⟩ :
      asksOf advancingScript = [.list, .watch "10", .watch "11", .watch "1 2"] ∧
      (everyService.run {} advancingScript none).result = .silent ∧
      ∀ ask ∈ asksOf advancingScript, everyService.config.HasRoomFor ask := by decide +kernel
  obtain ⟨polls, hpolls, -, -, -, -, hwhole, hall, hkinds⟩ :=
    run_resumes everyService {} advancingScript none
  obtain ⟨hsent, hasks⟩ := hkinds .service rfl hasPlainNamespace_everyService
  have hmade : polls.map Poll.ask = [.list, .watch "10", .watch "11", .watch "1 2"] := by
    rw [hwhole (by rw [hresult]; rfl), hall (hasks hroom), hasked]
  have hlast : Ask.watch "1 2" ∈ polls.map Poll.ask := by
    rw [hmade]
    decide
  obtain ⟨last, hmem, hask⟩ := List.mem_map.mp hlast
  exact ⟨hasked, polls, by rw [hpolls]; rfl, hmade, last, hmem, hask,
    (hsent last hmem).2.2 _ hask⟩

end Controller

end EndpointSync
