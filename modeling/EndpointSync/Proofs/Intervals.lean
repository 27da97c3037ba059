import EndpointSync.Interval
import Mathlib.Data.List.TakeWhile
import Mathlib.Data.Nat.Digits.Defs
import Mathlib.Tactic.Ring

/-!
# What is read as an interval

A text is an interval if it is made up of a number and the name of a unit, with nothing but blanks
around them, and if the number is not too large. Two notions of a digit meet here. To tell a number
from what follows it, the digits of all scripts count; to make a number, only those of ASCII do. So
a text may be taken apart like an interval (`split?_eq_some_iff`) and be none.

No text can be taken apart in two ways: blanks, digits and the names of units have no characters in
common, so each part ends where the next one begins.
-/

namespace EndpointSync

namespace Text

/-! ## Characters -/

private theorem covers_eq_false {ranges others : List (Nat × Nat)} {c : Char}
    (hapart : ∀ r ∈ ranges, ∀ r' ∈ others, r.2 < r'.1 ∨ r'.2 < r.1)
    (h : covers ranges c = true) : covers others c = false := by
  refine Bool.eq_false_iff.mpr fun hother ↦ ?_
  obtain ⟨r, hr, hlow, hhigh⟩ := covers_iff.mp h
  obtain ⟨r', hr', hlow', hhigh'⟩ := covers_iff.mp hother
  rcases hapart r hr r' hr' with hbefore | hafter
  · omega
  · omega

private theorem isBlank_of_isDecimal {c : Char} (h : isDecimal c = true) : isBlank c = false :=
  covers_eq_false (by decide) h

theorem isDigit_iff {c : Char} : c.isDigit = true ↔ 48 ≤ c.toNat ∧ c.toNat ≤ 57 := by
  rw [Char.isDigit, Bool.and_eq_true, decide_eq_true_eq, decide_eq_true_eq, ge_iff_le,
    UInt32.le_iff_toNat_le, UInt32.le_iff_toNat_le]
  rfl

private theorem isDecimal_of_isDigit {c : Char} (h : c.isDigit = true) : isDecimal c = true := by
  obtain ⟨hlow, hhigh⟩ := isDigit_iff.mp h
  exact covers_iff.mpr ⟨(0x30, 0x39), by decide, hlow, hhigh⟩

/-! ## The blanks around a text -/

theorem dropWhile_eq_self {p : Char → Bool} {cs : List Char} (h : ∀ c ∈ cs, p c = false) :
    cs.dropWhile p = cs := by
  refine List.dropWhile_eq_self_iff.mpr fun hlength ↦ ?_
  rw [h _ (List.getElem_mem hlength)]
  exact Bool.false_ne_true

private theorem trim_of_forall {cs : List Char} (h : ∀ c ∈ cs, isBlank c = false) (hne : cs ≠ [])
    {before after : List Char} (hbefore : ∀ c ∈ before, isBlank c = true)
    (hafter : ∀ c ∈ after, isBlank c = true) : trim (before ++ cs ++ after) = cs := by
  have hfront : (before ++ cs ++ after).dropWhile isBlank = cs ++ after := by
    rw [List.append_assoc, List.dropWhile_append_of_pos hbefore]
    cases cs with
    | nil => exact absurd rfl hne
    | cons c rest =>
      rw [List.cons_append, List.dropWhile_cons_of_neg]
      simp [h c List.mem_cons_self]
  have hback : (cs ++ after).reverse.dropWhile isBlank = cs.reverse := by
    rw [List.reverse_append, List.dropWhile_append_of_pos]
    · exact dropWhile_eq_self fun c hc ↦ h c (List.mem_reverse.mp hc)
    · exact fun c hc ↦ hafter c (List.mem_reverse.mp hc)
  rw [trim, hfront, hback, List.reverse_reverse]

private theorem exists_eq_trim (cs : List Char) : ∃ before after, cs = before ++ trim cs ++ after ∧
    (∀ c ∈ before, isBlank c = true) ∧ ∀ c ∈ after, isBlank c = true := by
  refine ⟨cs.takeWhile isBlank, ((cs.dropWhile isBlank).reverse.takeWhile isBlank).reverse, ?_,
    fun c hc ↦ List.mem_takeWhile_imp hc, fun c hc ↦ ?_⟩
  · rw [trim, List.append_assoc, ← List.reverse_append, List.takeWhile_append_dropWhile,
      List.reverse_reverse, List.takeWhile_append_dropWhile]
  · exact List.mem_takeWhile_imp (List.mem_reverse.mp hc)

/-! ## Numbers -/

/-- What a digit of ASCII stands for. -/
def digitValue (c : Char) : Nat := c.toNat - 48

/-- The number that digits stand for, the last one for the ones. -/
def numberOf (cs : List Char) : Nat := Nat.ofDigits 10 (cs.reverse.map digitValue)

theorem numberOf_cons (c : Char) (cs : List Char) :
    numberOf (c :: cs) = numberOf cs + 10 ^ cs.length * digitValue c := by
  rw [numberOf, List.reverse_cons, List.map_append, Nat.ofDigits_append, List.length_map,
    List.length_reverse, List.map_singleton, Nat.ofDigits_singleton, numberOf]

theorem digitOf?_eq_some_iff {c : Char} {d : Nat} :
    digitOf? 10 c = some d ↔ c.isDigit = true ∧ d = digitValue c := by
  rw [digitOf?, Option.filter_eq_some_iff, digit?]
  split
  next hdigit =>
    have hbound := isDigit_iff.mp hdigit
    rw [Option.some.injEq, and_iff_right hdigit, decide_eq_true_eq]
    constructor
    · rintro ⟨rfl, -⟩
      rfl
    · rintro rfl
      exact ⟨rfl, by rw [digitValue]; omega⟩
  next hdigit =>
    -- the other digits are those beyond nine
    refine iff_of_false ?_ fun h ↦ hdigit h.1
    rintro ⟨hvalue, hbound⟩
    rw [decide_eq_true_eq] at hbound
    split at hvalue
    · have := Option.some.inj hvalue
      omega
    · split at hvalue
      · have := Option.some.inj hvalue
        omega
      · exact absurd hvalue (by simp)

private theorem foldlM_digitOf?_eq_some_iff {cs : List Char} {m n : Nat} :
    cs.foldlM (fun n c ↦ (digitOf? 10 c).map (n * 10 + ·)) m = some n ↔
      (∀ c ∈ cs, c.isDigit = true) ∧ n = m * 10 ^ cs.length + numberOf cs := by
  induction cs generalizing m with
  | nil =>
    change some m = some n ↔ (∀ c ∈ ([] : List Char), c.isDigit = true) ∧ n = m * 10 ^ 0 + 0
    rw [Option.some.injEq, Nat.pow_zero, Nat.mul_one, Nat.add_zero, eq_comm]
    exact (and_iff_right (List.forall_mem_nil _)).symm
  | cons c rest ih =>
    rw [List.foldlM_cons, List.forall_mem_cons, numberOf_cons, List.length_cons]
    cases hdigit : digitOf? 10 c with
    | none =>
      refine iff_of_false (by simp) ?_
      rintro ⟨⟨hc, -⟩, -⟩
      exact absurd (hdigit.symm.trans (digitOf?_eq_some_iff.mpr ⟨hc, rfl⟩)) (by simp)
    | some d =>
      obtain ⟨hc, rfl⟩ := digitOf?_eq_some_iff.mp hdigit
      have hvalue : (m * 10 + digitValue c) * 10 ^ rest.length + numberOf rest
          = m * 10 ^ (rest.length + 1) + (numberOf rest + 10 ^ rest.length * digitValue c) := by
        ring
      rw [Option.map_some, Option.bind_eq_bind, Option.bind_some, ih, hvalue, and_iff_right hc]

theorem natural?_eq_some_iff {cs : List Char} {n : Nat} : natural? 10 cs = some n ↔
    cs ≠ [] ∧ (∀ c ∈ cs, c.isDigit = true) ∧ n = numberOf cs := by
  rw [natural?]
  split
  next hempty => exact iff_of_false (by simp) fun h ↦ h.1 (List.isEmpty_iff.mp hempty)
  next hne =>
    rw [foldlM_digitOf?_eq_some_iff, Nat.zero_mul, Nat.zero_add,
      and_iff_right (mt List.isEmpty_iff.mpr hne)]

end Text

namespace Interval

open Text (isBlank isDecimal numberOf)

/-! ## Taking a text apart -/

def Unit.chars : Unit → List Char
  | .millisecond => ['m', 's']
  | .second => ['s']
  | .minute => ['m']
  | .hour => ['h']

theorem Unit.ofChars?_eq_some_iff {cs : List Char} {unit : Unit} :
    ofChars? cs = some unit ↔ cs = unit.chars := by
  constructor
  · fun_cases ofChars? cs
    case case5 => exact fun h ↦ absurd h (by simp)
    all_goals exact fun h ↦ (Option.some.inj h) ▸ rfl
  · rintro rfl
    cases unit <;> rfl

private theorem Unit.isDecimal_of_mem_chars {unit : Unit} :
    ∀ c ∈ unit.chars, isDecimal c = false := by
  have hnone : unit.chars.any isDecimal = false := by cases unit <;> decide
  exact fun c hc ↦ Bool.eq_false_iff.mpr (List.any_eq_false.mp hnone c hc)

private theorem Unit.isBlank_of_mem_chars {unit : Unit} : ∀ c ∈ unit.chars, isBlank c = false := by
  have hnone : unit.chars.any isBlank = false := by cases unit <;> decide
  exact fun c hc ↦ Bool.eq_false_iff.mpr (List.any_eq_false.mp hnone c hc)

/-- **How a text is taken apart**: into digits of any script, at least one, and the name of a unit,
with nothing but blanks around them. -/
theorem split?_eq_some_iff {cs digits : List Char} {unit : Unit} :
    split? cs = some (digits, unit) ↔
      ∃ before after, cs = before ++ (digits ++ unit.chars) ++ after ∧
        (∀ c ∈ before, isBlank c = true) ∧ (∀ c ∈ after, isBlank c = true) ∧
        digits ≠ [] ∧ ∀ c ∈ digits, isDecimal c = true := by
  constructor
  · intro h
    obtain ⟨before, after, hcs, hbefore, hafter⟩ := Text.exists_eq_trim cs
    rw [split?] at h
    split at h
    next => exact absurd h (by simp)
    next hne =>
      obtain ⟨unit', hunit, hpair⟩ := Option.map_eq_some_iff.mp h
      obtain ⟨rfl, rfl⟩ := Prod.mk.inj hpair
      have htrim : Text.trim cs = (Text.trim cs).takeWhile isDecimal ++ unit'.chars := by
        rw [← Unit.ofChars?_eq_some_iff.mp hunit, List.takeWhile_append_dropWhile]
      exact ⟨before, after, htrim ▸ hcs, hbefore, hafter, hne,
        fun c hc ↦ List.mem_takeWhile_imp hc⟩
  · rintro ⟨before, after, rfl, hbefore, hafter, hne, hdigits⟩
    have hcore : ∀ c ∈ digits ++ unit.chars, isBlank c = false := by
      intro c hc
      rcases List.mem_append.mp hc with hdigit | hname
      · exact Text.isBlank_of_isDecimal (hdigits c hdigit)
      · exact Unit.isBlank_of_mem_chars c hname
    have htake : (digits ++ unit.chars).takeWhile isDecimal = digits := by
      rw [List.takeWhile_append_of_pos hdigits]
      cases unit <;> exact List.append_nil _
    have hdrop : (digits ++ unit.chars).dropWhile isDecimal = unit.chars := by
      rw [List.dropWhile_append_of_pos hdigits]
      exact Text.dropWhile_eq_self Unit.isDecimal_of_mem_chars
    have htrim : Text.trim (before ++ (digits ++ unit.chars) ++ after) = digits ++ unit.chars :=
      Text.trim_of_forall hcore (List.append_ne_nil_of_left_ne_nil hne _) hbefore hafter
    rw [split?, htrim, htake, hdrop, Unit.ofChars?_eq_some_iff.mpr rfl]
    cases digits with
    | nil => exact absurd rfl hne
    | cons c rest => rfl

/-! ## The number and the unit -/

/-- So many units are not too long: their number fits 64 bits, and so does the number of seconds
that minutes and hours make. -/
def Unit.Fits (n : Nat) (unit : Unit) : Prop :=
  n < 2 ^ 64 ∧ (unit = .minute → n * 60 < 2 ^ 64) ∧ (unit = .hour → n * 3600 < 2 ^ 64)

/-- The one bound on the nanoseconds is the bound on the seconds, whatever the unit. -/
theorem Unit.fits_iff {n : Nat} {unit : Unit} :
    unit.Fits n ↔ n < bound ∧ n * unit.length < bound * perSecond := by
  cases unit <;> simp only [Fits, length, bound, perSecond, reduceCtorEq, false_implies,
    true_implies, and_true, true_and] <;> omega

theorem ofUnits?_eq_some_iff {n : Nat} {unit : Unit} {i : Interval} :
    ofUnits? n unit = some i ↔ unit.Fits n ∧ i = ⟨n * unit.length⟩ := by
  rw [ofUnits?, Unit.fits_iff]
  split
  next h =>
    rw [Option.some.injEq, eq_comm,
      and_iff_right (by simpa only [Bool.and_eq_true, decide_eq_true_eq] using h)]
  next h =>
    refine iff_of_false (by simp) fun hfits ↦ h ?_
    simpa only [Bool.and_eq_true, decide_eq_true_eq] using hfits.1

/-- The text is so many units in writing: digits of ASCII, leading zeros or not, and the name of
the unit, with nothing but blanks around them. -/
def Spells (text : String) (n : Nat) (unit : Unit) : Prop :=
  ∃ before digits after, text.toList = before ++ (digits ++ unit.chars) ++ after ∧
    (∀ c ∈ before, isBlank c = true) ∧ (∀ c ∈ after, isBlank c = true) ∧
    digits ≠ [] ∧ (∀ c ∈ digits, c.isDigit = true) ∧ n = numberOf digits

theorem spells_iff {text : String} {n : Nat} {unit : Unit} : Spells text n unit ↔
    ∃ digits, split? text.toList = some (digits, unit) ∧ Text.natural? 10 digits = some n := by
  constructor
  · rintro ⟨before, digits, after, htext, hbefore, hafter, hne, hdigits, hn⟩
    have hdecimal : ∀ c ∈ digits, isDecimal c = true :=
      fun c hc ↦ Text.isDecimal_of_isDigit (hdigits c hc)
    exact ⟨digits, split?_eq_some_iff.mpr ⟨before, after, htext, hbefore, hafter, hne, hdecimal⟩,
      Text.natural?_eq_some_iff.mpr ⟨hne, hdigits, hn⟩⟩
  · rintro ⟨digits, hsplit, hnatural⟩
    obtain ⟨before, after, htext, hbefore, hafter, hne, -⟩ := split?_eq_some_iff.mp hsplit
    obtain ⟨-, hdigits, hn⟩ := Text.natural?_eq_some_iff.mp hnatural
    exact ⟨before, digits, after, htext, hbefore, hafter, hne, hdigits, hn⟩

theorem Spells.unique {text : String} {n m : Nat} {unit unit' : Unit} (h : Spells text n unit)
    (h' : Spells text m unit') : n = m ∧ unit = unit' := by
  obtain ⟨digits, hsplit, hn⟩ := spells_iff.mp h
  obtain ⟨digits', hsplit', hm⟩ := spells_iff.mp h'
  obtain ⟨rfl, rfl⟩ := Prod.mk.inj (Option.some.inj (hsplit.symm.trans hsplit'))
  exact ⟨Option.some.inj (hn.symm.trans hm), rfl⟩

/-! ## Reading -/

theorem ofChars?_eq_some_iff {text : String} {i : Interval} : ofChars? text.toList = some i ↔
    ∃ n unit, Spells text n unit ∧ unit.Fits n ∧ i = ⟨n * unit.length⟩ := by
  constructor
  · intro h
    obtain ⟨⟨digits, unit⟩, hsplit, hrest⟩ := Option.bind_eq_some_iff.mp h
    obtain ⟨n, hn, hunits⟩ := Option.bind_eq_some_iff.mp hrest
    exact ⟨n, unit, spells_iff.mpr ⟨digits, hsplit, hn⟩, ofUnits?_eq_some_iff.mp hunits⟩
  · rintro ⟨n, unit, hspells, hunits⟩
    obtain ⟨digits, hsplit, hn⟩ := spells_iff.mp hspells
    exact Option.bind_eq_some_iff.mpr ⟨(digits, unit), hsplit,
      Option.bind_eq_some_iff.mpr ⟨n, hn, ofUnits?_eq_some_iff.mpr hunits⟩⟩

theorem parse_eq_ok_iff {text : String} {i : Interval} :
    parse text = .ok i ↔ ofChars? text.toList = some i := by
  rw [parse]
  cases ofChars? text.toList with
  | none => simp
  | some j => simp

theorem parse_eq_error_iff {text : String} {e : InvalidInterval} :
    parse text = .error e ↔ ofChars? text.toList = none ∧ e = ⟨text⟩ := by
  rw [parse]
  cases ofChars? text.toList with
  | none => simp [eq_comm]
  | some j => simp

/-- **Intervals are read exactly.** A text is an interval if and only if it spells a number of some
unit that is not too large. The number and the unit are then the only ones that it spells, and the
interval is as long as the two say, nothing rounded and nothing wrapped around. Every other text is
reported as it is, a text with a digit of some other script among them, though that looks like an
interval to `split?`. -/
theorem parse_exact (text : String) :
    (∀ i, parse text = .ok i ↔
      ∃ n unit, Spells text n unit ∧ unit.Fits n ∧ i = ⟨n * unit.length⟩) ∧
    (∀ n m unit unit', Spells text n unit → Spells text m unit' → n = m ∧ unit = unit') ∧
    ((¬∃ n unit, Spells text n unit ∧ unit.Fits n) → parse text = .error ⟨text⟩) ∧
    ∀ digits unit, split? text.toList = some (digits, unit) →
      (∃ c ∈ digits, c.isDigit = false) → parse text = .error ⟨text⟩ := by
  have hno : (¬∃ n unit, Spells text n unit ∧ unit.Fits n) → parse text = .error ⟨text⟩ := by
    intro hnone
    refine parse_eq_error_iff.mpr ⟨Option.eq_none_iff_forall_ne_some.mpr fun i hi ↦ hnone ?_, rfl⟩
    obtain ⟨n, unit, hspells, hfits, -⟩ := ofChars?_eq_some_iff.mp hi
    exact ⟨n, unit, hspells, hfits⟩
  refine ⟨fun i ↦ parse_eq_ok_iff.trans ofChars?_eq_some_iff,
    fun n m unit unit' ↦ Spells.unique, hno, fun digits unit hsplit hforeign ↦ hno ?_⟩
  rintro ⟨n, unit', hspells, -⟩
  obtain ⟨digits', hsplit', hnatural⟩ := spells_iff.mp hspells
  obtain ⟨rfl, -⟩ := Prod.mk.inj (Option.some.inj (hsplit.symm.trans hsplit'))
  obtain ⟨c, hc, hother⟩ := hforeign
  obtain ⟨-, hdigits, -⟩ := Text.natural?_eq_some_iff.mp hnatural
  exact absurd (hdigits c hc) (by rw [hother]; exact Bool.false_ne_true)

/-- An Arabic three is a digit, but makes no number. -/
example : split? "٣s".toList = some (['٣'], .second) ∧ parse "٣s" = .error ⟨"٣s"⟩ := by
  decide +kernel

end Interval

end EndpointSync
