import EndpointSync.Proofs.Replays

/-!
# A failed write loses nothing

The file is replaced in phases, and each of them can fail, as can the rendering that comes before
them all. Whatever fails, the output file keeps what it held. Until the last phase nothing but the
draft is touched, and the draft is complete when it takes the place of the output file, so that no
part of a text is ever seen there.

Nor does the store lose anything. The roster has the change already when the writing begins, and
every later call finds it there, the same call made again included, which has therefore nothing left
to do. It is the next write to succeed that brings the change into the file, whatever is asked of
the store until then and whatever becomes of the place of the file.
-/

namespace EndpointSync

/-! ## Replacing the file, motion by motion -/

theorem flatten_pieces (sizes : List Nat) (bytes : List UInt8) :
    (pieces sizes bytes).flatten = bytes := by
  induction sizes generalizing bytes with
  | nil => exact List.append_nil bytes
  | cons size sizes ih => rw [pieces, List.flatten_cons, ih, List.take_append_drop]

namespace Folder

variable {f : Folder}

theorem performAll_append (f : Folder) (motions more : List Motion) :
    f.performAll (motions ++ more) = (f.performAll motions).performAll more :=
  List.foldl_append

/-- Nothing but a renaming touches the output file. -/
theorem output_performAll {motions : List Motion} (h : .rename ∉ motions) :
    (f.performAll motions).output = f.output := by
  induction motions generalizing f with
  | nil => rfl
  | cons motion rest ih =>
    obtain ⟨hne, hrest⟩ := not_or.mp (mt List.mem_cons.mpr h)
    have hkept : (f.perform motion).output = f.output := by
      cases motion with
      | rename => exact absurd rfl hne
      | create | append piece | sync | permit | discard => rfl
    exact (ih hrest).trans hkept

theorem performAll_append_pieces {draft : File} (h : f.draft = some draft)
    (pieces : List (List UInt8)) : f.performAll (pieces.map .append)
      = { f with draft := some { draft with bytes := draft.bytes ++ pieces.flatten } } := by
  induction pieces generalizing f draft with
  | nil =>
    rw [List.flatten_nil, List.append_nil, ← h]
    rfl
  | cons piece rest ih =>
    have hpiece : f.perform (.append piece)
        = { f with draft := some { draft with bytes := draft.bytes ++ piece } } := by
      rw [perform, h]
      rfl
    rw [List.map_cons, performAll, List.foldl_cons, hpiece, ← performAll, ih rfl,
      List.flatten_cons, List.append_assoc]

theorem course_free (pieces : List (List UInt8)) : Place.free.course pieces
    = (.create :: (pieces.map .append ++ [.sync, .permit])) ++ [.rename] := by
  simp [Place.course, Place.obstacle?, Phase.all, Phase.motions]

/-- If nothing fails, all pieces are in the file, and the draft is gone. -/
theorem performAll_course_free (f : Folder) (pieces : List (List UInt8)) :
    f.performAll (Place.free.course pieces) = { output := some ⟨pieces.flatten, "644"⟩ } := by
  have hcreate : (f.perform .create).draft = some ⟨[], "600"⟩ := rfl
  have hfill := performAll_append_pieces hcreate pieces
  rw [course_free, performAll_append, ← List.singleton_append, performAll_append,
    performAll_append]
  change ((((f.perform .create).performAll (pieces.map .append)).performAll [.sync, .permit])
    ).performAll [.rename] = _
  rw [hfill]
  rfl

theorem rename_not_mem_course {p : Place} (h : p ≠ .free) (pieces : List (List UInt8)) :
    .rename ∉ p.course pieces := by
  cases p with
  | free => exact absurd rfl h
  | full =>
    have hpieces : Motion.rename ∉ (pieces.map Motion.append).dropLast :=
      fun hmem ↦ absurd (List.dropLast_subset _ hmem) (by simp)
    simpa [Place.course, Place.obstacle?, Phase.all, Phase.motions, Phase.remains] using hpieces
  | noDirectory | unsynced | unpermitted | occupied =>
    simp [Place.course, Place.obstacle?, Phase.all, Phase.motions, Phase.remains]

/-- If some phase fails, the directory is in the end as it was. -/
theorem performAll_course_of_ne {p : Place} (h : p ≠ .free) (hdraft : f.draft = none)
    (pieces : List (List UInt8)) : f.performAll (p.course pieces) = f := by
  obtain ⟨phase, hphase⟩ := Option.ne_none_iff_exists'.mp (mt Place.obstacle?_eq_none_iff.mp h)
  have houtput : (f.performAll (p.course pieces)).output = f.output :=
    output_performAll (rename_not_mem_course h pieces)
  have hdiscarded : (f.performAll (p.course pieces)).draft = none := by
    rw [Place.course, hphase, performAll_append]
    rfl
  calc f.performAll (p.course pieces)
      = ⟨(f.performAll (p.course pieces)).output, (f.performAll (p.course pieces)).draft⟩ := rfl
    _ = ⟨f.output, f.draft⟩ := by rw [houtput, hdiscarded, hdraft]

/-- **At no moment is a part of a text in the output file.** However far things have got, it is
either untouched or has all pieces. -/
theorem output_performAll_take_course (f : Folder) (p : Place) (pieces : List (List UInt8))
    (n : Nat) : (f.performAll ((p.course pieces).take n)).output = f.output ∨
      p = .free ∧ (f.performAll ((p.course pieces).take n)).output
        = some ⟨pieces.flatten, "644"⟩ := by
  by_cases hplace : p = .free
  · subst hplace
    by_cases hn : n < (Place.free.course pieces).length
    · -- the renaming comes last, and it is yet to come
      refine .inl (output_performAll ?_)
      rw [course_free, List.length_append, List.length_singleton] at hn
      rw [course_free, List.take_append_of_le_length (by omega)]
      exact fun hmem ↦ absurd (List.mem_of_mem_take hmem) (by simp)
    · rw [List.take_of_length_le (by omega), performAll_course_free]
      exact .inr ⟨rfl, rfl⟩
  · refine .inl (output_performAll fun hmem ↦ ?_)
    exact rename_not_mem_course hplace pieces (List.mem_of_mem_take hmem)

end Folder

/-! ## Writing the roster -/

namespace Store

variable {s : Store} {f : Folder}

/-- What happens in the directory while the roster is written, so many bytes at a time. If it cannot
be rendered, nothing does. -/
def motions (s : Store) (sizes : List Nat) : List Motion :=
  match s.roster.render? with
  | none => []
  | some text => s.disk.place.course (pieces sizes text.toUTF8.toList)

theorem motions_of_text {text : String} (h : s.roster.render? = some text) (sizes : List Nat) :
    s.motions sizes = s.disk.place.course (pieces sizes text.toUTF8.toList) := by
  rw [motions, h]

private theorem performAll_motions_of_not_isOk (h : s.written.isOk = false)
    (hdraft : f.draft = none) (sizes : List Nat) : f.performAll (s.motions sizes) = f := by
  cases htext : s.roster.render? with
  | none =>
    rw [motions, htext]
    rfl
  | some text =>
    have hplace : s.disk.place ≠ .free := by
      intro hfree
      have hok : s.written.isOk = true := isOk_written_iff.mpr ⟨hfree, by rw [htext]; rfl⟩
      exact absurd (h.symm.trans hok) Bool.false_ne_true
    rw [motions_of_text htext]
    exact Folder.performAll_course_of_ne hplace hdraft _

private theorem performAll_motions_of_isOk {text : String} (h : s.written.isOk = true)
    (htext : s.roster.render? = some text) (sizes : List Nat) :
    f.performAll (s.motions sizes) = { output := some (.ofText text) } := by
  rw [motions_of_text htext, (isOk_written_iff.mp h).1, Folder.performAll_course_free,
    flatten_pieces]
  rfl

theorem output_performAll_take_motions (s : Store) (f : Folder) (sizes : List Nat) (n : Nat) :
    (f.performAll ((s.motions sizes).take n)).output = f.output ∨
      ∃ text, s.roster.render? = some text ∧
        (f.performAll ((s.motions sizes).take n)).output = some (.ofText text) := by
  cases htext : s.roster.render? with
  | none =>
    rw [motions, htext, List.take_nil]
    exact .inl rfl
  | some text =>
    rw [motions_of_text htext]
    refine (Folder.output_performAll_take_course f _ _ n).imp_right fun ⟨_, houtput⟩ ↦ ?_
    exact ⟨text, rfl, by rw [houtput, flatten_pieces]; rfl⟩

end Store

/-! ## What becomes of a call -/

/-- The directory shows what the disk is taken to hold, and no draft. -/
structure Folder.Shows (f : Folder) (d : Disk) : Prop where
  output : f.output.map File.bytes = d.contents.map fun text ↦ text.toUTF8.toList
  draft : f.draft = none

namespace Call

variable {s : Store} {f : Folder} {call : Call}

/-- The store with the change that the call asks for, and nothing written. -/
def change (s : Store) (call : Call) : Store := { s with roster := s.roster.settle call.ruling }

/-- The call tries to write and fails. -/
def Fails (s : Store) (call : Call) : Prop :=
  call.writes s = true ∧ (call.change s).written.isOk = false

def Saves (s : Store) (call : Call) : Prop :=
  call.writes s = true ∧ (call.change s).written.isOk = true

/-- What happens in the directory during a call. -/
def motions (s : Store) (sizes : List Nat) (call : Call) : List Motion :=
  if call.writes s then (call.change s).motions sizes else []

theorem cases (s : Store) (call : Call) :
    call.writes s = false ∨ call.Fails s ∨ call.Saves s := by
  rw [Fails, Saves]
  cases call.writes s with
  | false => exact .inl rfl
  | true => cases (call.change s).written.isOk <;> simp

/-- A call that writes says that there was something to change, if it says anything. -/
theorem answer?_of_writes (h : call.writes s = true) :
    call = .write ∨ call.answer? s = some true := by
  match call with
  | .put _ _ .now => exact .inr (by simpa [writes] using h)
  | .put _ _ .deferred => exact absurd h Bool.false_ne_true
  | .forget _ => exact .inr (by simpa [writes] using h)
  | .write => exact .inl rfl

theorem agree_perform_of_writes (h : call.writes s = true) :
    (call.perform s).Agree (call.change s).write := by
  obtain ⟨t, hwrite, hdisk⟩ := exists_write_of_writes h
  have hroster : t.roster = (call.change s).roster := by
    rw [change, ← roster_perform, hwrite, Store.roster_write]
  rw [hwrite]
  exact Store.Agree.write ⟨hroster, hdisk⟩

theorem disk_perform_of_fails (h : call.Fails s) : (call.perform s).disk = s.disk := by
  rw [(agree_perform_of_writes h.1).disk, Store.disk_write_of_not_isOk h.2]
  rfl

theorem Saves.exists_text (h : call.Saves s) : ∃ text,
    (s.roster.settle call.ruling).render? = some text ∧
      (call.perform s).disk = { s.disk with contents := some text } := by
  obtain ⟨hplace, hrenders⟩ := Store.isOk_written_iff.mp h.2
  obtain ⟨text, htext⟩ := Option.isSome_iff_exists.mp hrenders
  refine ⟨text, htext, ?_⟩
  rw [(agree_perform_of_writes h.1).disk, Store.disk_write hplace htext]
  rfl

theorem performAll_motions_of_not_saves (h : ¬call.Saves s) (hdraft : f.draft = none)
    (sizes : List Nat) : f.performAll (call.motions s sizes) = f := by
  rcases call.cases s with hquiet | hfails | hsaves
  · rw [motions, hquiet]
    rfl
  · rw [motions, hfails.1]
    exact Store.performAll_motions_of_not_isOk hfails.2 hdraft sizes
  · exact absurd hsaves h

theorem Saves.performAll_motions {text : String} (h : call.Saves s)
    (htext : (s.roster.settle call.ruling).render? = some text) (sizes : List Nat) :
    f.performAll (call.motions s sizes) = { output := some (.ofText text) } := by
  rw [motions, h.1]
  exact Store.performAll_motions_of_isOk h.2 htext sizes

/-- The directory shows what the disk is taken to hold after every call. -/
theorem shows_perform (h : f.Shows s.disk) (call : Call) (sizes : List Nat) :
    (f.performAll (call.motions s sizes)).Shows (call.perform s).disk := by
  by_cases hsaves : call.Saves s
  · obtain ⟨text, htext, hdisk⟩ := hsaves.exists_text
    rw [hsaves.performAll_motions htext, hdisk]
    exact ⟨rfl, rfl⟩
  · have hdisk : (call.perform s).disk = s.disk := by
      rcases call.cases s with hquiet | hfails | hsaved
      · exact disk_of_not_writes hquiet
      · exact disk_perform_of_fails hfails
      · exact absurd hsaved hsaves
    rw [performAll_motions_of_not_saves hsaves h.draft, hdisk]
    exact h

/-- Something is there as the call has asked for, so that the same call has nothing to do. -/
theorem answer?_perform_self (s : Store) (call : Call) (h : call ≠ .write) :
    call.answer? (call.perform s) = some false := by
  have hsettled : (call.perform s).roster.Settled call.ruling := by
    rw [roster_perform]
    exact Roster.settled_settle s.roster call.ruling
  cases call with
  | put key e w => exact hsettled.answer? w _ List.mem_cons_self
  | forget key => exact hsettled.answer? .now _ List.mem_cons_self
  | write => exact absurd rfl h

end Call

/-! ## Whatever happens afterwards -/

/-- The store, and the directory in which its file is. -/
structure Scene where
  store : Store
  folder : Folder
  shows : folder.Shows store.disk

/-- Something that happens to a scene. -/
inductive Move where
  /-- A caller asks something of the store. If it is written, so many bytes at a time. -/
  | ask (call : Call) (sizes : List Nat)
  /-- From now on, the place of the file takes a new one in another way. -/
  | turn (place : Place)

namespace Scene

def perform (x : Scene) (call : Call) (sizes : List Nat) : Scene where
  store := call.perform x.store
  folder := x.folder.performAll (call.motions x.store sizes)
  shows := Call.shows_perform x.shows call sizes

/-- The scene with the place of the file as it is from now on. -/
def turn (x : Scene) (place : Place) : Scene where
  store := { x.store with disk := { x.store.disk with place } }
  folder := x.folder
  shows := ⟨x.shows.output, x.shows.draft⟩

end Scene

namespace Move

def perform (x : Scene) : Move → Scene
  | .ask call sizes => x.perform call sizes
  | .turn place => x.turn place

def ruling : Move → Roster.Ruling
  | .ask call _ => call.ruling
  | .turn _ => none

def Saves (x : Scene) : Move → Prop
  | .ask call _ => call.Saves x.store
  | .turn _ => False

theorem roster_perform (x : Scene) (move : Move) :
    (move.perform x).store.roster = x.store.roster.settle move.ruling := by
  cases move with
  | ask call sizes => exact call.roster_perform x.store
  | turn place => rfl

private theorem folder_perform {x : Scene} {move : Move} (h : ¬move.Saves x) :
    (move.perform x).folder = x.folder := by
  cases move with
  | ask call sizes => exact Call.performAll_motions_of_not_saves h x.shows.draft sizes
  | turn place => rfl

end Move

namespace Scene

def performAll (x : Scene) (moves : List Move) : Scene := moves.foldl Move.perform x

theorem performAll_append_singleton (x : Scene) (moves : List Move) (move : Move) :
    x.performAll (moves ++ [move]) = move.perform (x.performAll moves) := by
  rw [performAll, performAll, List.foldl_append, List.foldl_cons, List.foldl_nil]

def Unsaved (x : Scene) (moves : List Move) : Prop :=
  ∀ before move after, moves = before ++ move :: after → ¬move.Saves (x.performAll before)

private theorem roster_performAll (x : Scene) (moves : List Move) :
    (x.performAll moves).store.roster = (moves.map Move.ruling).foldl .settle x.store.roster := by
  induction moves using List.reverseRecOn with
  | nil => rfl
  | append_singleton moves move ih =>
    rw [performAll_append_singleton, Move.roster_perform, ih, List.map_append, List.foldl_append]
    rfl

private theorem folder_performAll {x : Scene} {moves : List Move} (h : x.Unsaved moves) :
    (x.performAll moves).folder = x.folder := by
  induction moves using List.reverseRecOn with
  | nil => rfl
  | append_singleton moves move ih =>
    have hearlier : x.Unsaved moves := by
      rintro before other after rfl
      exact h before other (after ++ [move]) (by rw [List.append_assoc, List.cons_append])
    rw [performAll_append_singleton, Move.folder_perform (h moves move [] rfl), ih hearlier]

/-- What holds after a call although it has failed to write. -/
structure Unharmed (x : Scene) (call : Call) (sizes : List Nat) : Prop where
  /-- The output file is as it was, and there is no draft. -/
  folder : (x.perform call sizes).folder = x.folder
  disk : (x.perform call sizes).store.disk = x.store.disk
  /-- The change is made. -/
  roster : (x.perform call sizes).store.roster = x.store.roster.settle call.ruling
  /-- The call answers that there was something to change, if it answers anything. -/
  reported : call = .write ∨ call.answer? x.store = some true
  /-- What is there now is what the call has asked for. -/
  settled : (x.perform call sizes).store.roster.Settled call.ruling
  /-- Later calls answer in view of the change. -/
  seen : ∀ later : Call,
    later.answer? (x.perform call sizes).store = later.answer? (call.change x.store)
  /-- To make the same call again is no way to have the change written. -/
  repeated : call ≠ .write →
    call.perform (x.perform call sizes).store = (x.perform call sizes).store
  /-- Until something is written the directory stays as it is. -/
  kept : ∀ moves, (x.perform call sizes).Unsaved moves →
    ((x.perform call sizes).performAll moves).folder = x.folder
  /-- What is asked of the store later is carried out on the changed roster. -/
  carriedOn : ∀ moves, ((x.perform call sizes).performAll moves).store.roster
    = (moves.map Move.ruling).foldl .settle (x.store.roster.settle call.ruling)
  /-- A later call that writes leaves the roster in the file with all that has changed. -/
  madeUp : ∀ moves later sizes', later.Saves ((x.perform call sizes).performAll moves).store →
    ∃ text, (((x.perform call sizes).performAll moves).perform later sizes').store.roster.render?
        = some text ∧
      (((x.perform call sizes).performAll moves).perform later sizes').folder
        = { output := some (.ofText text) }

/-- **A failed write loses nothing.** Whatever the roster, the file and its place are like: at any
moment of any call, the output file has either what it had before the call or all of the roster as
the call leaves it. And if the call fails to write, for whatever reason, then the file is as it was,
the change has been made and reported, later calls go by it, and the next call that writes leaves
the whole roster in the file, whatever has been asked and whatever has become of the place in the
meantime. -/
theorem failed_write_loses_nothing (x : Scene) :
    (∀ (call : Call) (sizes : List Nat) (n : Nat),
      (x.folder.performAll ((call.motions x.store sizes).take n)).output = x.folder.output ∨
        ∃ text, (call.perform x.store).roster.render? = some text ∧
          (x.folder.performAll ((call.motions x.store sizes).take n)).output
            = some (.ofText text)) ∧
    ∀ (call : Call) (sizes : List Nat), call.Fails x.store → x.Unharmed call sizes := by
  constructor
  · intro call sizes n
    rw [Call.roster_perform, Call.motions]
    split
    · exact (call.change x.store).output_performAll_take_motions x.folder sizes n
    · rw [List.take_nil]
      exact .inl rfl
  · intro call sizes hfails
    have hfolder : (x.perform call sizes).folder = x.folder := by
      refine Call.performAll_motions_of_not_saves (fun hsaves ↦ ?_) x.shows.draft sizes
      exact absurd (hfails.2.symm.trans hsaves.2) Bool.false_ne_true
    have hroster : (x.perform call sizes).store.roster = x.store.roster.settle call.ruling :=
      call.roster_perform x.store
    constructor
    case folder => exact hfolder
    case disk => exact Call.disk_perform_of_fails hfails
    case roster => exact hroster
    case reported => exact Call.answer?_of_writes hfails.1
    case settled =>
      rw [hroster]
      exact Roster.settled_settle x.store.roster call.ruling
    case seen => exact fun later ↦ Call.answer?_congr hroster later
    case repeated =>
      exact fun hne ↦ Call.perform_of_answer? (Call.answer?_perform_self x.store call hne)
    case kept => exact fun moves hunsaved ↦ (folder_performAll hunsaved).trans hfolder
    case carriedOn =>
      intro moves
      rw [roster_performAll, hroster]
    case madeUp =>
      intro moves later sizes' hsaves
      obtain ⟨text, htext, -⟩ := hsaves.exists_text
      exact ⟨text, (later.roster_perform _).symm ▸ htext, hsaves.performAll_motions htext sizes'⟩

/-! ### A full disk -/

/-- A disk on which there is no room, and the file of an empty roster. -/
def crowded : Scene where
  store := { disk := { place := .full, contents := some "endpoints: []\n" } }
  folder := { output := some (.ofText "endpoints: []\n") }
  shows := ⟨rfl, rfl⟩

def arrival : Call :=
  .put ⟨"web", "x", "services"⟩ { name := "web", url := "tcp://web", interval := "1m" } .now

/-- The endpoint comes once more, another one comes and goes, and room is made. -/
def relief : List Move :=
  [.ask arrival [],
    .ask (.put ⟨"db", "x", "services"⟩ { name := "db", url := "tcp://db", interval := "1m" }
      .deferred) [],
    .ask (.forget ⟨"db", "x", "services"⟩) [5],
    .turn .free]

/-- The file of the endpoint that has stayed. -/
def arrived : String := "endpoints:\n- name: web\n  url: tcp://web\n  interval: 1m\n"

/-- The endpoint that did not get into the file is there after the next write. -/
theorem crowded_made_up : arrival.Fails crowded.store ∧
    (((crowded.perform arrival [8]).performAll relief).perform .write []).folder
      = { output := some (.ofText arrived) } := by
  have hfails : arrival.Fails crowded.store := by
    refine ⟨rfl, Bool.eq_false_iff.mpr fun hok ↦ ?_⟩
    exact absurd (Store.isOk_written_iff.mp hok).1 (by decide)
  have hunharmed := (failed_write_loses_nothing crowded).2 arrival [8] hfails
  have hroster : ((crowded.perform arrival [8]).performAll relief).store.roster
      = [(⟨"web", "x", "services"⟩, { name := "web", url := "tcp://web", interval := "1m" })] := by
    rw [hunharmed.carriedOn]
    rfl
  have htext : ((crowded.perform arrival [8]).performAll relief).store.roster.render?
      = some arrived := by
    rw [hroster, Roster.render?, Roster.document, Roster.ordered, List.mergeSort_singleton]
    decide +kernel
  have hplace : ((crowded.perform arrival [8]).performAll relief).store.disk.place = .free := by
    have hrelief : relief = relief.take 3 ++ [.turn .free] := rfl
    rw [hrelief, performAll_append_singleton]
    rfl
  have hsaves : Call.Saves ((crowded.perform arrival [8]).performAll relief).store .write :=
    ⟨rfl, Store.isOk_written_iff.mpr ⟨hplace, Option.isSome_iff_exists.mpr ⟨_, htext⟩⟩⟩
  obtain ⟨text, hrendered, hfolder⟩ := hunharmed.madeUp relief .write [] hsaves
  have hsame : (((crowded.perform arrival [8]).performAll relief).perform .write
      []).store.roster = ((crowded.perform arrival [8]).performAll relief).store.roster :=
    Call.roster_perform _ .write
  rw [hsame, htext] at hrendered
  rw [hfolder, ← Option.some.inj hrendered]
  exact ⟨hfails, rfl⟩

end Scene

end EndpointSync
