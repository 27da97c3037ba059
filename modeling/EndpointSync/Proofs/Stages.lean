import EndpointSync.Proofs.FirstList

/-!
# The stages of a run

A run deals with its responses from beginning to end, with nobody else in between. Where several
controllers share a store they take turns, and whoever reasons about that needs the single steps.
Here a controller goes from stage to stage. A step says what it does to the store, which may have
been changed by others since the last one, and what the controller has thereby done
(`Controller.Deed`). Responses and answers to lookups can be any, and a controller that waits can be
told to stop at any time.

Every run is made of such steps (`Controller.steps_run`). What a controller has done by the time it
has come to a stage is fixed but for one thing: either it released its handle after its whole first
list and the write that follows, or it ended before that write and released its handle all the same
(`Controller.Account`).
-/

namespace EndpointSync

open Cluster (Change Listing ListResult Object Response Server WatchEnd WatchEvent)

/-- What a write does that succeeds or fails: afterwards the file holds all of the roster, or it is
as it was, since there is no place for it or the roster cannot be rendered. -/
def Store.Saves (s t : Store) (succeeded : Bool) : Prop :=
  t.roster = s.roster ∧ if succeeded
    then ∃ text, s.roster.render? = some text ∧ t.disk.contents = some text
    else t.disk = s.disk ∧ ¬(s.disk.place = .free ∧ s.roster.render?.isSome = true)

namespace Controller

variable {κ : Type} (c : Controller κ) {stop : Option Moment}

/-! ## Steps -/

/-- How far a controller has come. -/
inductive Stage where
  | starting
  /-- The first list has been asked for. -/
  | listing
  /-- The first list is being dealt with, and these objects of it are left. -/
  | seeding (l : Listing) (rest : List Object)
  /-- The first list has been dealt with, and the write after it has been tried. -/
  | synced (l : Listing)
  | watching (version : String)
  | ended (r : Result)

/-- A controller on its way. -/
structure Position where
  store : Store
  stage : Stage

/-- What a controller does in one step. -/
inductive Deed where
  | asked
  | listed (l : Listing)
  | dealt (o : Object)
  /-- It tried to write the roster, and that succeeded or not. -/
  | wrote (succeeded : Bool)
  /-- It released its handle. -/
  | released
  | other

/-- A deed is the release of the handle. -/
def Deed.isRelease : Deed → Bool
  | .released => true
  | _ => false

/-- The controller where lookups are answered in some way. -/
def answeredBy (server : Option Server) : Controller κ := { c with server }

inductive Step : Position → Deed → Position → Prop where
  | ask {s : Store} {request : Request} : c.request? .list = some request →
      Step ⟨s, .starting⟩ .asked ⟨poll s .list request 0 false, .listing⟩
  | unaskable {s : Store} : c.request? .list = none →
      Step ⟨s, .starting⟩ .released ⟨s.record [.released], .ended .noList⟩
  | listed {s : Store} {response : Response} {l : Listing} : response.list = .listed l →
      Step ⟨s, .listing⟩ (.listed l) ⟨s, .seeding l l.objects⟩
  | noList {s : Store} {response : Response} : response.list = .failed →
      Step ⟨s, .listing⟩ .released ⟨s.record [.released], .ended .noList⟩
  | deal {s : Store} {l : Listing} {o : Object} {rest : List Object} (server : Option Server) :
      ((c.answeredBy server).handle s (.added o) .deferred).isStuck = false →
      Step ⟨s, .seeding l (o :: rest)⟩ (.dealt o)
        ⟨((c.answeredBy server).handle s (.added o) .deferred).store, .seeding l rest⟩
  | write {s : Store} {l : Listing} : Step ⟨s, .seeding l []⟩ (.wrote s.written.isOk)
      ⟨s.write.note (.synced l.objects.length), .synced l⟩
  | release {s : Store} {l : Listing} : Step ⟨s, .synced l⟩ .released
      ⟨(s.record [.released]).note (.watching l.version), .watching l.version⟩
  /-- It is told to stop, or nothing happens any more, while it waits for the first list. -/
  | giveUp {s : Store} {stage : Stage} {r : Result} : stage = .starting ∨ stage = .listing →
      r ≠ .noList → Step ⟨s, stage⟩ .released ⟨s.record [.released], .ended r⟩
  /-- The same, while it waits for an answer about a parent. -/
  | giveUpLookup {s : Store} {l : Listing} {o : Object} {rest : List Object} {r : Result}
      (server : Option Server) :
      ((c.answeredBy server).handle s (.added o) .deferred).isStuck = true → r ≠ .noList →
      Step ⟨s, .seeding l (o :: rest)⟩ .released
        ⟨((c.answeredBy server).handle s (.added o) .deferred).store.record [.released], .ended r⟩
  | openWatch {s : Store} {version : String} {request : Request} (milliseconds : Nat) :
      c.request? (.watch version) = some request →
      Step ⟨s, .watching version⟩ .other
        ⟨poll s (.watch version) request milliseconds true, .watching version⟩
  | refused {s : Store} {version : String} :
      Step ⟨s, .watching version⟩ .other ⟨s.note .watchRefused, .watching version⟩
  | observe {here : Watching} (server : Option Server) (e : WatchEvent) :
      Step ⟨here.store, .watching here.version⟩ .other
        ⟨((c.answeredBy server).observe here e).1.store,
          .watching ((c.answeredBy server).observe here e).1.version⟩
  | conclude {here : Watching} (ending : WatchEnd) :
      Step ⟨here.store, .watching here.version⟩ .other
        ⟨(conclude here ending).1.store, .watching (conclude here ending).1.version⟩
  | stop {s : Store} {version : String} {r : Result} : r ≠ .noList →
      Step ⟨s, .watching version⟩ .other ⟨s, .ended r⟩

inductive Steps : Position → List Deed → Position → Prop where
  | nil {x : Position} : Steps x [] x
  | cons {x y z : Position} {d : Deed} {deeds : List Deed} : c.Step x d y → Steps y deeds z →
      Steps x (d :: deeds) z

variable {c} {x y z : Position}

theorem Step.steps {d : Deed} (h : c.Step x d y) : c.Steps x [d] y := .cons h .nil

theorem Steps.append {before after : List Deed} (h : c.Steps x before y)
    (h' : c.Steps y after z) : c.Steps x (before ++ after) z := by
  induction h with
  | nil => exact h'
  | cons hstep hsteps ih => exact .cons hstep (ih h')

/-- The steps do not depend on how lookups happen to be answered. -/
theorem Step.of_answeredBy {server : Option Server} {d : Deed}
    (h : (c.answeredBy server).Step x d y) : c.Step x d y := by
  cases h with
  | ask hrequest => exact .ask hrequest
  | unaskable hrequest => exact .unaskable hrequest
  | listed hlist => exact .listed hlist
  | noList hlist => exact .noList hlist
  | deal server hgoesOn => exact .deal server hgoesOn
  | write => exact .write
  | release => exact .release
  | giveUp hwaits hr => exact .giveUp hwaits hr
  | giveUpLookup server hstuck hr => exact .giveUpLookup server hstuck hr
  | openWatch milliseconds hrequest => exact .openWatch milliseconds hrequest
  | refused => exact .refused
  | observe server e => exact .observe server e
  | conclude ending => exact .conclude ending
  | stop hr => exact .stop hr

theorem Steps.of_answeredBy {server : Option Server} {deeds : List Deed}
    (h : (c.answeredBy server).Steps x deeds y) : c.Steps x deeds y := by
  induction h with
  | nil => exact .nil
  | cons hstep hsteps ih => exact .cons hstep.of_answeredBy ih

theorem Step.saves_of_wrote {succeeded : Bool} (h : c.Step x (.wrote succeeded) y) :
    x.store.Saves y.store succeeded := by
  generalize hd : Deed.wrote succeeded = d at h
  cases h with
  | @write s l =>
    cases hd
    refine ⟨s.roster_write, ?_⟩
    cases hok : s.written.isOk with
    | true =>
      obtain ⟨hplace, hsome⟩ := Store.isOk_written_iff.mp hok
      obtain ⟨text, htext⟩ := Option.isSome_iff_exists.mp hsome
      exact ⟨text, htext, congrArg Disk.contents (Store.disk_write hplace htext)⟩
    | false =>
      refine ⟨Store.disk_write_of_not_isOk hok, fun hfits ↦ ?_⟩
      rw [Store.isOk_written_iff.mpr hfits] at hok
      exact absurd hok (by simp)
  | _ => cases hd

/-! ## A run goes in steps -/

/-- Where a controller has come to that has gone through its first list. -/
def throughList (l : Listing) : Store × Option Result → Position
  | (after, none) => ⟨after, .seeding l []⟩
  | (after, some r) => ⟨after.record [.released], .ended r⟩

theorem steps_deal {l : Listing} {rest : List Object} (o : Object) (s : Store)
    (server : Option Server) {r : Result} (hr : r ≠ .noList) {reached : Store × Option Result}
    (hrest : ∃ deeds, c.Steps ⟨((c.answeredBy server).handle s (.added o) .deferred).store,
      .seeding l rest⟩ deeds (throughList l reached)) :
    ∃ deeds, c.Steps ⟨s, .seeding l (o :: rest)⟩ deeds (throughList l
      (if ((c.answeredBy server).handle s (.added o) .deferred).isStuck
        then (((c.answeredBy server).handle s (.added o) .deferred).store, some r)
        else reached)) := by
  by_cases hstuck : ((c.answeredBy server).handle s (.added o) .deferred).isStuck = true
  · rw [if_pos hstuck]
    exact ⟨_, (Step.giveUpLookup server hstuck hr).steps⟩
  · rw [if_neg hstuck]
    obtain ⟨deeds, hsteps⟩ := hrest
    exact ⟨_, .cons (.deal server (Bool.eq_false_iff.mpr hstuck)) hsteps⟩

variable (stop) in
theorem steps_handleAll (l : Listing) (objects : List Object) (s : Store) (n : Nat) :
    ∃ deeds, c.Steps ⟨s, .seeding l objects⟩ deeds
      (throughList l (c.handleAll stop s n objects)) := by
  induction objects generalizing s n with
  | nil => exact ⟨[], .nil⟩
  | cons o rest ih =>
    rw [handleAll]
    dsimp only
    split
    · exact steps_deal o s c.unanswered.server (by simp) (ih _ (n + 1))
    · exact steps_deal o s c.server (by simp) (ih _ (n + 1))

variable (stop) in
theorem steps_follow (attempt : Nat) (ending : WatchEnd) (events : List WatchEvent)
    (here : Watching) (n : Nat) :
    ∃ deeds, c.Steps ⟨here.store, .watching here.version⟩ deeds
      ⟨(c.follow stop attempt ending here n events).1.store,
        .watching (c.follow stop attempt ending here n events).1.version⟩ := by
  induction events generalizing here n with
  | nil =>
    rw [follow]
    split
    · exact ⟨[], .nil⟩
    · exact ⟨_, (Step.conclude ending).steps⟩
  | cons e rest ih =>
    have hseen : c.Step ⟨here.store, .watching here.version⟩ .other
        ⟨(c.observe here e).1.store, .watching (c.observe here e).1.version⟩ := .observe c.server e
    rw [follow]
    split
    · exact ⟨[], .nil⟩
    · rcases hobserve : c.observe here e with ⟨after, _ | outcome⟩
      · rw [hobserve] at hseen
        obtain ⟨deeds, hsteps⟩ := ih after (n + 1)
        exact ⟨_, .cons hseen hsteps⟩
      · rw [hobserve] at hseen
        exact ⟨_, hseen.steps⟩

variable (stop) in
theorem steps_attend (attempt : Nat) (here : Watching) (response : Response) :
    ∃ deeds, c.Steps ⟨here.store, .watching here.version⟩ deeds
      ⟨(c.attend stop attempt here response).1.store,
        .watching (c.attend stop attempt here response).1.version⟩ := by
  rw [attend]
  split
  · exact ⟨_, Step.refused.steps⟩
  · exact steps_follow stop attempt _ _ here 0

theorem steps_refusals (s : Store) (version : String) (count : Nat) :
    ∃ deeds, c.Steps ⟨s, .watching version⟩ deeds
      ⟨s.record (refusals count), .watching version⟩ := by
  induction count generalizing s with
  | zero =>
    refine ⟨[], ?_⟩
    rw [refusals, List.replicate_zero, Store.record, List.append_nil]
    exact .nil
  | succ count ih =>
    have hrecord : s.record (refusals (count + 1))
        = (s.note .watchRefused).record (refusals count) := by
      simp [refusals, Store.note, Store.record, List.replicate_succ]
    obtain ⟨deeds, hsteps⟩ := ih (s.note .watchRefused)
    rw [hrecord]
    exact ⟨_, .cons .refused hsteps⟩

/-! A watch never ends for want of a list. -/

private theorem follow_ne_noList (attempt : Nat) (ending : WatchEnd) (events : List WatchEvent)
    (here : Watching) (n : Nat) :
    (c.follow stop attempt ending here n events).2 ≠ .finish .noList := by
  induction events generalizing here n with
  | nil =>
    rw [follow]
    split
    · simp
    · cases ending <;> simp [conclude]
  | cons e rest ih =>
    rw [follow]
    split
    · simp
    · rcases hobserve : c.observe here e with ⟨after, _ | outcome⟩
      · exact ih after (n + 1)
      · have hseen : (c.observe here e).2 ≠ some (.finish .noList) := by
          cases e with
          | changed change => rw [observe]; dsimp only; split <;> simp
          | bookmark version => simp [observe]
          | error report => rw [observe]; split <;> simp
        rw [hobserve] at hseen
        exact fun houtcome ↦ hseen (congrArg some houtcome)

variable (c stop) in
private theorem attend_ne_noList (attempt : Nat) (here : Watching) (response : Response) :
    (c.attend stop attempt here response).2 ≠ .finish .noList := by
  rw [attend]
  split
  · simp
  · exact follow_ne_noList attempt _ _ here 0

private theorem insist_ne_noList (here : Watching) (n : Nat) :
    (c.insist stop here n).result ≠ .noList := by
  unfold insist
  split
  · split <;> simp
  · split <;> simp
  · simp

variable (stop) in
theorem steps_opened (n : Nat) (here : Watching) {request : Request}
    (hrequest : c.request? (.watch here.version) = some request) (response : Response) :
    ∃ deeds, c.Steps ⟨here.store, .watching here.version⟩ deeds
      ⟨(c.attend stop n (c.opened n here request) response).1.store,
        .watching (c.attend stop n (c.opened n here request) response).1.version⟩ := by
  obtain ⟨deeds, hsteps⟩ := steps_attend (c := c) stop n (c.opened n here request) response
  exact ⟨_, .cons (.openWatch (c.timeOf n) hrequest) hsteps⟩

theorem Rounds.steps {script : Script} {n : Nat} {here : Watching} {report : Report}
    (h : Rounds c stop script n here report) :
    ∃ deeds, c.Steps ⟨here.store, .watching here.version⟩ deeds
      ⟨report.store, .ended report.result⟩ := by
  induction h with
  | toldBefore htold => exact ⟨_, (Step.stop (by simp)).steps⟩
  | @unaskable script n here hrequest =>
    obtain ⟨count, hstore⟩ := c.store_insist stop here n
    obtain ⟨deeds, hsteps⟩ := steps_refusals (c := c) here.store here.version count
    rw [← hstore] at hsteps
    exact ⟨_, hsteps.append (Step.stop (insist_ne_noList here n)).steps⟩
  | @toldOpening script n here request hrequest htold =>
    exact ⟨_, .cons (.openWatch (c.timeOf n) hrequest) (Step.stop (by simp)).steps⟩
  | @unanswered n here request hrequest =>
    exact ⟨_, .cons (.openWatch (c.timeOf n) hrequest) (Step.stop (by simp)).steps⟩
  | @finished response rest n here after request result hrequest hattend =>
    -- a watch that ends the run is dealt with like any other, and then the controller stops
    obtain ⟨deeds, hsteps⟩ := steps_opened stop n here hrequest response
    have hresult := attend_ne_noList c stop n (c.opened n here request) response
    rw [hattend] at hsteps hresult
    exact ⟨_, hsteps.append (Step.stop fun hnone ↦ hresult (congrArg Outcome.finish hnone)).steps⟩
  | @toldAfter response rest n here after request hrequest hattend htold =>
    obtain ⟨deeds, hsteps⟩ := steps_opened stop n here hrequest response
    rw [hattend] at hsteps
    exact ⟨_, hsteps.append (Step.stop (by simp)).steps⟩
  | @again response rest n here after request report hrequest hattend hrounds ih =>
    obtain ⟨deeds, hsteps⟩ := steps_opened stop n here hrequest response
    obtain ⟨later, hlater⟩ := ih
    rw [hattend] at hsteps
    exact ⟨_, hsteps.append hlater⟩

/-- **A run goes in steps.** -/
theorem steps_run (s : Store) (script : Script) (stop : Option Moment) :
    ∃ deeds, c.Steps ⟨s, .starting⟩ deeds
      ⟨(c.run s script stop).store, .ended (c.run s script stop).result⟩ := by
  have hbegun := begun_run c stop s script
  generalize c.run s script stop = report at hbegun
  cases hbegun with
  | toldBefore htold => exact ⟨_, (Step.giveUp (.inl rfl) (by simp [endEarly])).steps⟩
  | unaskable hrequest => exact ⟨_, (Step.unaskable hrequest).steps⟩
  | toldAnswering hrequest htold =>
    exact ⟨_, .cons (.ask hrequest) (Step.giveUp (.inr rfl) (by simp [endEarly])).steps⟩
  | noList hrequest hlist =>
    rw [firstList_of_request hrequest] at hlist
    exact ⟨_, .cons (.ask hrequest) (Step.noList hlist).steps⟩
  | silent hrequest hlist =>
    exact ⟨_, .cons (.ask hrequest) (Step.giveUp (.inr rfl) (by simp [endEarly])).steps⟩
  | @brokeOff request l after result hrequest hlist hseed =>
    rw [firstList_of_request hrequest] at hlist
    obtain ⟨deeds, hsteps⟩ := steps_handleAll (c := c) stop l l.objects
      (poll s .list request 0 false) 0
    rw [seed] at hseed
    rcases hall : c.handleAll stop (poll s .list request 0 false) 0 l.objects with
      ⟨reached, _ | r⟩
    · rw [hall] at hseed
      exact absurd (congrArg Prod.snd hseed) (by simp)
    · rw [hall] at hseed hsteps
      cases hseed
      exact ⟨_, .cons (.ask hrequest) (.cons (.listed hlist) hsteps)⟩
  | @seeded request l after hrequest hlist hseed =>
    rw [firstList_of_request hrequest] at hlist
    obtain ⟨deeds, hsteps⟩ := steps_handleAll (c := c) stop l l.objects
      (poll s .list request 0 false) 0
    rw [seed] at hseed
    rcases hall : c.handleAll stop (poll s .list request 0 false) 0 l.objects with
      ⟨reached, _ | r⟩
    · rw [hall] at hseed hsteps
      cases hseed
      obtain ⟨later, hlater⟩ := (rounds_watch c stop script.tail
        ⟨((reached.write.note (.synced l.objects.length)).record [.released]).note
          (.watching l.version), l.version⟩ 1).steps
      exact ⟨_, .cons (.ask hrequest) (.cons (.listed hlist)
        (hsteps.append (.cons .write (.cons .release hlater))))⟩
    · rw [hall] at hseed
      exact absurd (congrArg Prod.snd hseed) (by simp)

/-! ## What has been done -/

/-- The deeds of a first list that is dealt with to its end. -/
def syncing (l : Listing) (succeeded : Bool) : List Deed :=
  .asked :: .listed l :: l.objects.map .dealt ++ [.wrote succeeded]

theorem steps_seeding (l : Listing) {objects : List Object}
    (hanswered : ∀ o ∈ objects, c.stalls (.added o) = false) (s : Store) :
    c.Steps ⟨s, .seeding l objects⟩ (objects.map .dealt)
      ⟨c.replay s (seeding objects), .seeding l []⟩ := by
  induction objects generalizing s with
  | nil => exact .nil
  | cons o rest ih =>
    obtain ⟨ho, hrest⟩ := List.forall_mem_cons.mp hanswered
    have hgoesOn : (c.handle s (.added o) .deferred).isStuck = false := by rw [isStuck_handle, ho]
    exact .cons (.deal c.server hgoesOn) (ih hrest (c.handle s (.added o) .deferred).store)

/-- The steps of a first list that can be had and of which all lookups are answered. They are the
same whether or not it can be written. -/
theorem steps_of_listed {script : Script} {l : Listing} (hlist : c.firstList script = .listed l)
    (hanswered : ∀ o ∈ l.objects, c.stalls (.added o) = false) {request : Request}
    (hrequest : c.request? .list = some request) (s : Store) :
    c.Steps ⟨s, .starting⟩ (syncing l
        (c.replay (poll s .list request 0 false) (seeding l.objects)).written.isOk ++ [.released])
      ⟨(c.seeded (poll s .list request 0 false) l).store, .watching l.version⟩ := by
  rw [firstList_of_request hrequest] at hlist
  rw [syncing, List.append_assoc]
  refine .cons (.ask hrequest) (.cons (.listed hlist) ?_)
  exact (steps_seeding l hanswered _).append (.cons .write (.cons .release .nil))

/-- The deeds of a controller that has not come to the end of its first list. -/
inductive Early : List Deed → Prop where
  | starting : Early []
  | listing : Early [.asked]
  | seeding {l : Listing} {dealt rest : List Object} {o : Object} : l.objects = dealt ++ o :: rest →
      Early (.asked :: .listed l :: dealt.map .dealt)

/-- What a controller has done by the time it has come to a stage. -/
inductive Account : Stage → List Deed → Prop where
  | starting : Account .starting []
  | listing : Account .listing [.asked]
  | seeding {l : Listing} {dealt rest : List Object} : l.objects = dealt ++ rest →
      Account (.seeding l rest) (.asked :: .listed l :: dealt.map .dealt)
  | synced {l : Listing} {succeeded : Bool} : Account (.synced l) (syncing l succeeded)
  | watching {l : Listing} {succeeded : Bool} {later : List Deed} {version : String} :
      Account (.watching version) (syncing l succeeded ++ .released :: later)
  | ended {l : Listing} {succeeded : Bool} {later : List Deed} {r : Result} : r ≠ .noList →
      Account (.ended r) (syncing l succeeded ++ .released :: later)
  | early {deeds : List Deed} {r : Result} : Early deeds → Account (.ended r) (deeds ++ [.released])

/-- Each step keeps the account. -/
theorem Account.step {deeds : List Deed} {d : Deed} (h : Account x.stage deeds)
    (hstep : c.Step x d y) : Account y.stage (deeds ++ [d]) := by
  cases hstep with
  | ask hrequest =>
    cases h with
    | starting => exact .listing
  | unaskable hrequest =>
    cases h with
    | starting => exact .early .starting
  | @listed s response l hlist =>
    cases h with
    | listing =>
      have haccount : Account (.seeding l l.objects)
          (.asked :: .listed l :: ([] : List Object).map .dealt) := .seeding rfl
      exact haccount
  | noList hlist =>
    cases h with
    | listing => exact .early .listing
  | @deal s l o rest server hgoesOn =>
    cases h with
    | @seeding l dealt rest hobjects =>
      -- the object moves from those that are left to those that have been dealt with
      have haccount : Account (.seeding l rest)
          (.asked :: .listed l :: (dealt ++ [o]).map .dealt) :=
        .seeding (by rw [hobjects, List.append_assoc, List.singleton_append])
      simpa using haccount
  | @write s l =>
    cases h with
    | @seeding l dealt rest hobjects =>
      rw [List.append_nil] at hobjects
      rw [← hobjects]
      exact .synced
  | release =>
    cases h with
    | synced => exact .watching
  | giveUp hwaits hresult =>
    rcases hwaits with rfl | rfl
    · cases h with
      | starting => exact .early .starting
    · cases h with
      | listing => exact .early .listing
  | giveUpLookup server hstuck hresult =>
    cases h with
    | seeding hobjects => exact .early (.seeding hobjects)
  | openWatch milliseconds hrequest =>
    -- from here on everything comes after the release
    cases h with
    | watching => simpa using Account.watching
  | refused =>
    cases h with
    | watching => simpa using Account.watching
  | observe server e =>
    cases h with
    | watching => simpa using Account.watching
  | conclude ending =>
    cases h with
    | watching => simpa using Account.watching
  | stop hresult =>
    cases h with
    | watching => simpa using Account.ended hresult

theorem Account.steps {before deeds : List Deed} (h : Account x.stage before)
    (hsteps : c.Steps x deeds y) : Account y.stage (before ++ deeds) := by
  induction hsteps generalizing before with
  | nil => rwa [List.append_nil]
  | cons hstep hsteps ih =>
    rw [List.append_cons]
    exact ih (h.step hstep)

end Controller

end EndpointSync
