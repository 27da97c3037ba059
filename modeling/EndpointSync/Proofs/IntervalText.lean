import EndpointSync.CommandLine
import EndpointSync.Proofs.Blocking
import EndpointSync.Proofs.Intervals
import EndpointSync.Proofs.Namesakes

/-!
# What is written for an interval

An interval is held in nanoseconds and shown as a number of some unit. Not every interval can be
shown so that it is read back: what is read is a whole number of milliseconds, and numbers and
seconds have 64 bits. The intervals within these limits are exactly those that some text stands for
(`Interval.exists_parse_iff`), and each of them is read back from the text that is shown for it. So
of all texts for one interval, the one that is shown is the normal form.

The unit is chosen by divisions of the seconds, but what it comes to can be said of the nanoseconds
alone: it is the longest unit of which the interval is a whole number (`Interval.suits_unit`).

An endpoint gets its interval as a text, and keeps it unless a template has another text for it.
Since the command line sets no interval that it has not read, the text means what was configured.
-/

namespace EndpointSync

open Yaml (Tree)

/-! ## Numbers in writing -/

namespace Text

private theorem ofDigitChars_eq (cs : List Char) (m : Nat) :
    Nat.ofDigitChars 10 cs m = m * 10 ^ cs.length + numberOf cs := by
  induction cs generalizing m with
  | nil => rw [Nat.ofDigitChars_nil, List.length_nil, Nat.pow_zero, Nat.mul_one]; rfl
  | cons c rest ih =>
    have hzero : '0'.toNat = 48 := rfl
    rw [Nat.ofDigitChars_cons, ih, numberOf_cons, List.length_cons, digitValue, hzero]
    ring

private theorem numberOf_toDigits (n : Nat) : numberOf (Nat.toDigits 10 n) = n := by
  have h := ofDigitChars_eq (Nat.toDigits 10 n) 0
  rw [Nat.ofDigitChars_ten_toDigits, Nat.zero_mul, Nat.zero_add] at h
  exact h.symm

end Text

namespace Interval

/-! ## The unit of an interval -/

/-- The unit in which an interval is shown. -/
def unit (i : Interval) : Unit :=
  if i.subsecond ≠ 0 then .millisecond
  else if i.seconds = 0 then .second
  else if i.seconds % 3600 = 0 then .hour
  else if i.seconds % 60 = 0 then .minute
  else .second

/-- How many units of its own an interval has. -/
def count (i : Interval) : Nat := i.nanoseconds / i.unit.length

theorem display_eq (i : Interval) :
    i.display = toString i.count ++ String.ofList i.unit.chars := by
  rw [display, count, unit]
  split
  · rfl
  · split
    next hzero =>
      have hcount : i.nanoseconds / Unit.second.length = 0 := hzero
      rw [hcount]
      rfl
    · split
      · rw [seconds, Nat.div_div_eq_div_mul, Nat.mul_comm]
        rfl
      · split
        · rw [seconds, Nat.div_div_eq_div_mul, Nat.mul_comm]
          rfl
        · rfl

/-- The unit fits an interval: it is the longest one of which the interval is a whole number. For
the empty interval, of which that cannot be said, it is the second. -/
def Unit.Suits (unit : Unit) (i : Interval) : Prop :=
  if i.nanoseconds = 0 then unit = .second
  else unit.length ∣ i.nanoseconds ∧ ∀ u : Unit, u.length ∣ i.nanoseconds → u.length ≤ unit.length

/-- An interval that can be said in a text: a whole number of milliseconds, whose seconds fit
64 bits, and whose milliseconds do where the seconds are not whole. -/
structure Expressible (i : Interval) : Prop where
  whole : Unit.millisecond.length ∣ i.nanoseconds
  seconds_lt : i.seconds < 2 ^ 64
  milliseconds_lt : i.subsecond ≠ 0 → i.milliseconds < 2 ^ 64

variable {i j : Interval}

/-- What holds in each case in which a unit is chosen holds of the unit that is chosen. -/
theorem unit_cases {P : Unit → Prop} (i : Interval)
    (millisecond : i.subsecond ≠ 0 → P .millisecond)
    (second : i.subsecond = 0 → i.seconds = 0 ∨ i.seconds % 60 ≠ 0 → P .second)
    (minute : i.subsecond = 0 → i.seconds % 3600 ≠ 0 → i.seconds % 60 = 0 → P .minute)
    (hour : i.subsecond = 0 → i.seconds ≠ 0 → i.seconds % 3600 = 0 → P .hour) : P i.unit := by
  rw [unit]
  split
  next hfraction => exact millisecond hfraction
  next hwhole =>
    have hwhole : i.subsecond = 0 := not_not.mp hwhole
    split
    next hzero => exact second hwhole (.inl hzero)
    next hsome =>
      split
      next hhours => exact hour hwhole hsome hhours
      next hnoHours =>
        split
        next hminutes => exact minute hwhole hnoHours hminutes
        next hnoMinutes => exact second hwhole (.inr hnoMinutes)

theorem unit_length_dvd (h : Unit.millisecond.length ∣ i.nanoseconds) :
    i.unit.length ∣ i.nanoseconds := by
  simp only [Unit.length] at h
  refine unit_cases (P := fun unit ↦ unit.length ∣ i.nanoseconds) i ?_ ?_ ?_ ?_
  all_goals
    simp only [subsecond, seconds, Unit.length, perSecond]
    omega

/-- **The unit that is shown is the longest one of which the interval is a whole number.** -/
theorem suits_unit (h : Unit.millisecond.length ∣ i.nanoseconds) : i.unit.Suits i := by
  rw [Unit.Suits]
  by_cases hempty : i.nanoseconds = 0
  · rw [if_pos hempty, unit, subsecond, seconds, hempty]
    rfl
  · rw [if_neg hempty]
    refine ⟨unit_length_dvd h, ?_⟩
    intro u hu
    -- a longer unit would have been chosen before
    refine unit_cases (P := fun unit ↦ u.length ≤ unit.length) i ?_ ?_ ?_ ?_
    all_goals
      cases u
      all_goals
        simp only [subsecond, seconds, Unit.length, perSecond] at hu ⊢
        omega

private theorem unit_eq_millisecond_iff :
    i.unit = .millisecond ↔ ¬Unit.second.length ∣ i.nanoseconds := by
  rw [Nat.dvd_iff_mod_eq_zero]
  refine unit_cases (P := fun unit ↦ unit = .millisecond ↔ ¬i.subsecond = 0) i ?_ ?_ ?_ ?_
  · exact fun hfraction ↦ iff_of_true rfl hfraction
  · exact fun hwhole _ ↦ iff_of_false (by simp) (not_not.mpr hwhole)
  · exact fun hwhole _ _ ↦ iff_of_false (by simp) (not_not.mpr hwhole)
  · exact fun hwhole _ _ ↦ iff_of_false (by simp) (not_not.mpr hwhole)

private theorem Expressible.fits_unit (h : i.Expressible) : i.unit.Fits i.count := by
  obtain ⟨-, hseconds, hmilliseconds⟩ := h
  rw [count, Unit.fits_iff]
  simp only [subsecond, seconds, milliseconds, perSecond, Unit.length] at hseconds hmilliseconds
  refine unit_cases (P := fun unit ↦ i.nanoseconds / unit.length < bound ∧
    i.nanoseconds / unit.length * unit.length < bound * perSecond) i ?_ ?_ ?_ ?_
  all_goals
    simp only [subsecond, seconds, bound, perSecond, Unit.length]
    omega

/-! ## The text is read back -/

private theorem spells_toString_append (n : Nat) (unit : Unit) :
    Spells (toString n ++ String.ofList unit.chars) n unit := by
  refine ⟨[], Nat.toDigits 10 n, [], ?_, by simp, by simp, Nat.toDigits_ne_nil, ?_, ?_⟩
  · rw [String.toList_append, Nat.toString_eq_ofList_toDigits, String.toList_ofList,
      String.toList_ofList, List.nil_append, List.append_nil]
  · intro c hc
    exact Nat.isDigit_of_mem_toDigits (by decide) (by decide) hc
  · exact (Text.numberOf_toDigits n).symm

theorem eq_units (h : Unit.millisecond.length ∣ i.nanoseconds) :
    i = ⟨i.count * i.unit.length⟩ := by
  rw [count, Nat.div_mul_cancel (unit_length_dvd h)]

/-- **An interval that can be said is read back from the text that is shown for it.** -/
theorem Expressible.parse_display (h : i.Expressible) : parse i.display = .ok i := by
  rw [parse_eq_ok_iff, ofChars?_eq_some_iff]
  refine ⟨i.count, i.unit, ?_, h.fits_unit, eq_units h.whole⟩
  rw [display_eq]
  exact spells_toString_append i.count i.unit

private theorem expressible_of_fits {n : Nat} {unit : Unit} (h : unit.Fits n) :
    Expressible ⟨n * unit.length⟩ := by
  rw [Unit.fits_iff] at h
  constructor
  all_goals
    cases unit
    all_goals
      simp only [subsecond, seconds, milliseconds, bound, perSecond, Unit.length] at h ⊢
      omega

theorem expressible_of_ofChars? {text : String} (h : ofChars? text.toList = some i) :
    i.Expressible := by
  obtain ⟨n, unit, -, hfits, rfl⟩ := ofChars?_eq_some_iff.mp h
  exact expressible_of_fits hfits

theorem exists_parse_iff : (∃ text, parse text = .ok i) ↔ i.Expressible := by
  constructor
  · rintro ⟨text, htext⟩
    exact expressible_of_ofChars? (parse_eq_ok_iff.mp htext)
  · intro h
    exact ⟨i.display, h.parse_display⟩

theorem Expressible.display_inj (hi : i.Expressible) (hj : j.Expressible)
    (h : i.display = j.display) : i = j := by
  have hread : parse i.display = .ok j := h ▸ hj.parse_display
  exact Except.ok.inj (hi.parse_display.symm.trans hread)

end Interval

/-! ## From the command line -/

namespace CommandLine

open Yaml (of_bind_eq_ok)

/-- Every assignment of a value to a setting keeps a property of the arguments. -/
def Keeps (P : Arguments → Prop) : Prop := ∀ (a a' : Arguments) (again : Bool) (setting : Setting)
  (value : String), P a → assign a again setting value = .ok a' → P a'

namespace Reading

variable {P : Arguments → Prop} {r r' : Reading}

theorem keeps_take (hkeeps : Keeps P) {setting : Setting} {value : String} (h : P r.arguments)
    (hr : r.take setting value = .ok r') : P r'.arguments := by
  rw [take] at hr
  split at hr
  · exact absurd hr (by simp)
  · obtain ⟨a, hassign, hnext⟩ := of_bind_eq_ok hr
    obtain rfl := Except.ok.inj hnext
    exact hkeeps _ _ _ _ _ h hassign

theorem keeps_settle (hkeeps : Keeps P) (h : P r.arguments) (hr : r.settle = .ok r') :
    P r'.arguments := by
  rw [settle] at hr
  split at hr
  · obtain rfl := Except.ok.inj hr
    exact h
  · exact absurd hr (by simp)
  · exact keeps_take (r := { r with waiting := none }) hkeeps h hr

private theorem keeps_longFlag (hkeeps : Keeps P) {name : String} {value : Option String}
    (h : P r.arguments) (hr : r.longFlag name value = .ok r') : P r'.arguments := by
  rw [longFlag.eq_def] at hr
  cases hflag : Setting.ofFlag? name with
  | none =>
    rw [hflag] at hr
    exact absurd hr (by simp)
  | some setting =>
    rw [hflag] at hr
    cases value with
    | none =>
      obtain ⟨settled, hsettle, hnext⟩ := of_bind_eq_ok hr
      have hsettled := keeps_settle hkeeps h hsettle
      split at hnext
      · obtain rfl := Except.ok.inj hnext
        exact hsettled
      · exact keeps_take hkeeps hsettled hnext
    | some text =>
      dsimp only at hr
      split at hr
      · obtain ⟨settled, hsettle, hnext⟩ := of_bind_eq_ok hr
        exact keeps_take hkeeps (keeps_settle hkeeps h hsettle) hnext
      · exact absurd hr (by simp)

private theorem keeps_shortFlags (hkeeps : Keeps P) {flags : List Char} (h : P r.arguments)
    (hr : r.shortFlags flags = .ok r') : P r'.arguments := by
  induction flags generalizing r with
  | nil =>
    obtain rfl := Except.ok.inj hr
    exact h
  | cons c rest ih =>
    rw [shortFlags] at hr
    split at hr
    · exact absurd hr (by simp)
    · obtain ⟨settled, hsettle, hrest⟩ := of_bind_eq_ok hr
      obtain ⟨taken, htake, hnext⟩ := of_bind_eq_ok hrest
      exact ih (keeps_take hkeeps (keeps_settle hkeeps h hsettle) htake) hnext

private theorem keeps_argument (hkeeps : Keeps P) {arg : String} (h : P r.arguments)
    (hr : r.argument arg = .ok r') : P r'.arguments := by
  rw [argument] at hr
  split at hr
  · exact absurd hr (by simp)
  · split at hr
    · obtain rfl := Except.ok.inj hr
      exact h
    · exact keeps_longFlag hkeeps h hr
    · exact keeps_shortFlags hkeeps h hr
    · rw [plain] at hr
      split at hr
      · obtain rfl := Except.ok.inj hr
        exact h
      · exact absurd hr (by simp)

private theorem keeps_foldlM (hkeeps : Keeps P) {args : List String} (h : P r.arguments)
    (hr : args.foldlM argument r = .ok r') : P r'.arguments := by
  induction args generalizing r with
  | nil =>
    obtain rfl := Except.ok.inj hr
    exact h
  | cons arg rest ih =>
    rw [List.foldlM_cons] at hr
    obtain ⟨next, hnext, hrest⟩ := of_bind_eq_ok hr
    exact ih (keeps_argument hkeeps h hnext) hrest

end Reading

/-- **What every assignment keeps, the command line keeps.** -/
theorem keeps_parse {P : Arguments → Prop} (hkeeps : Keeps P) {env : Environment}
    {args : List String} {a : Arguments} (h : P (initial env)) (ha : parse env args = .ok a) :
    P a := by
  obtain ⟨read, hread, hrest⟩ := of_bind_eq_ok ha
  obtain ⟨settled, hsettle, hend⟩ := of_bind_eq_ok hrest
  obtain rfl := Except.ok.inj hend
  exact Reading.keeps_settle hkeeps (Reading.keeps_foldlM hkeeps h hread) hsettle

private theorem eq_some_of_require {α : Type} {why : Refusal} {found : Option α} {x : α}
    (h : require why found = .ok x) : found = some x := by
  cases found with
  | none => exact absurd h (by simp [require])
  | some y => exact congrArg some (Except.ok.inj h)

private theorem defaultInterval_setAuto (c : Config) (on : Bool) (kind : Kind) :
    (setAuto c on kind).defaultInterval = c.defaultInterval := by
  cases kind <;> rfl

private theorem keeps_expressible : Keeps fun a ↦ a.config.defaultInterval.Expressible := by
  intro a a' again setting value h hassign
  cases setting with
  | defaultInterval =>
    obtain ⟨i, hread, hnext⟩ := of_bind_eq_ok hassign
    obtain rfl := Except.ok.inj hnext
    exact Interval.expressible_of_ofChars? (eq_some_of_require hread)
  | auto kind =>
    obtain ⟨on, -, hnext⟩ := of_bind_eq_ok hassign
    obtain rfl := Except.ok.inj hnext
    rwa [defaultInterval_setAuto]
  | output =>
    rw [assign] at hassign
    split at hassign
    · exact absurd hassign (by simp)
    · obtain rfl := Except.ok.inj hassign
      exact h
  | logFormat | adminAddress | kinds | reconnectDelay =>
    obtain ⟨found, -, hnext⟩ := of_bind_eq_ok hassign
    obtain rfl := Except.ok.inj hnext
    exact h
  | help | version => exact absurd hassign (by simp [assign])
  | _ =>
    obtain rfl := Except.ok.inj hassign
    exact h

theorem expressible_of_parse {env : Environment} {args : List String} {a : Arguments}
    (h : parse env args = .ok a) : a.config.defaultInterval.Expressible := by
  have hinitial : (initial env).config.defaultInterval.Expressible :=
    Interval.exists_parse_iff.mp ⟨"1m", (by decide +kernel :
      Interval.parse "1m" = .ok (Interval.ofSeconds 60))⟩
  exact keeps_parse (P := fun a ↦ a.config.defaultInterval.Expressible) keeps_expressible
    hinitial h

end CommandLine

/-! ## To the endpoint -/

/-- Of the texts that a template has for the interval, the last one. -/
def Template.interval? (t : Template) : Option String :=
  ((t.valuesOf "interval").filterMap Tree.str?).getLast?

namespace Rules

variable {κ : Type} (r : Rules κ) (c : Config) (obj : κ)

private theorem interval_base (url : String) (guarded : Bool) :
    (r.base c obj url guarded).interval = c.defaultInterval.display := by
  rw [base, prescribe]
  generalize hgroup : r.assignGroup c obj _ = e
  have hinterval : e.interval = c.defaultInterval.display := by
    rw [← hgroup, assignGroup]
    split <;> rfl
  rcases r.assignCheck_cases obj e with ⟨host, hprobe⟩ | hsame | hconditions
  · rw [hprobe]
    exact hinterval
  · rw [hsame]
    exact hinterval
  · rw [hconditions]
    exact hinterval

private theorem interval_endpointOf (url : String) (t : Option Template) :
    (r.endpointOf c obj url t).interval
      = (t.getD []).interval?.getD c.defaultInterval.display := by
  rw [endpointOf, ← r.interval_base c obj url (asksForGuard t)]
  exact (Endpoint.Part.interval.read_applyTemplate_eq_foldl _ _).trans
    (Endpoint.foldl_getD Tree.str? _ _)

end Rules

/-- The template of the object that the event shows, if it reads, has no text for the interval. -/
def Event.LeavesInterval (e : Event) : Prop :=
  ∀ obj t, e.Shows obj → e.template obj = .ok (some t) → t.interval? = none

theorem Event.Settles.parse_interval {e : Event} {ep : Endpoint} (h : e.Settles (some ep))
    (hleaves : e.LeavesInterval) (hconfig : e.config.defaultInterval.Expressible) :
    Interval.parse ep.interval = .ok e.config.defaultInterval := by
  cases h with
  | @derived obj url t hweighs henabled htemplate =>
    have hnone : (t.getD []).interval? = none := by
      cases t with
      | none => rfl
      | some t => exact hleaves obj t hweighs.shows htemplate
    rw [Rules.interval_endpointOf, hnone, Option.getD_none]
    exact hconfig.parse_display

namespace Interval

/-- **The text that is shown for an interval is a normal form.** It is read back to the interval if
and only if the interval is a whole number of milliseconds and not too long. All intervals that are
read from texts are so, and no two of them are shown alike. What is shown is a number of the longest
unit of which the interval is a whole number, or `0s`; it is milliseconds only if there is no whole
number of seconds. The interval that the command line configures can be said, and it is what the
interval of every stored endpoint means that was last settled without a template for it. -/
theorem display_is_normal_form :
    (∀ i : Interval, parse i.display = .ok i ↔ i.Expressible) ∧
    (∀ (i : Interval) (text : String), parse text = .ok i → i.Expressible) ∧
    (∀ i j : Interval, i.Expressible → j.Expressible → (i.display = j.display ↔ i = j)) ∧
    (∀ i : Interval, i.Expressible → ∃ (n : Nat) (unit : Unit),
      i.display = toString n ++ String.ofList unit.chars ∧ i = ⟨n * unit.length⟩ ∧
        unit.Suits i ∧ (unit = .millisecond ↔ ¬Unit.second.length ∣ i.nanoseconds)) ∧
    (∀ env args a, CommandLine.parse env args = .ok a → a.config.defaultInterval.Expressible) ∧
    ∀ (disk : Disk) (history : List Happening) (events : List Event) (k : Key) (stored : Endpoint),
      (Event.replay { disk, history } events).roster.get? k = some stored →
      ∃ e : Event, e.IsLast k events ∧
        (e.LeavesInterval → e.config.defaultInterval.Expressible →
          parse stored.interval = .ok e.config.defaultInterval) := by
  refine ⟨fun i ↦ ⟨fun h ↦ exists_parse_iff.mp ⟨_, h⟩, Expressible.parse_display⟩,
    fun i text h ↦ exists_parse_iff.mp ⟨text, h⟩, ?_, ?_,
    fun env args a ↦ CommandLine.expressible_of_parse, ?_⟩
  · intro i j hi hj
    exact ⟨hi.display_inj hj, fun h ↦ congrArg display h⟩
  · intro i hi
    refine ⟨i.count, i.unit, i.display_eq, eq_units hi.whole, suits_unit hi.whole, ?_⟩
    exact unit_eq_millisecond_iff
  · intro disk history events k stored hget
    obtain ⟨e, ep, hlast, hsettles, hsame⟩ := Event.exists_settled_of_get? hget
    refine ⟨e, hlast, ?_⟩
    intro hleaves hconfig
    have hinterval : stored.interval = ep.interval := (Endpoint.same_iff.mp hsame).1.2.2.2.1
    rw [hinterval]
    exact hsettles.parse_interval hleaves hconfig

/-- Close to the limit, hours are read and seconds are shown. -/
example : parse "5124095576030431h" = .ok (ofSeconds 18446744073709551600) ∧
    (ofSeconds 18446744073709551615).display = "18446744073709551615s" := by
  decide +kernel

end Interval

end EndpointSync
